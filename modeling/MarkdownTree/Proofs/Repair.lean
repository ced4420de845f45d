import MarkdownTree.Proofs.FailurePrefix
import MarkdownTree.Proofs.KindTable
import MarkdownTree.Proofs.PostOrder

/-! Mending a refused tree, one reported node after the other. Once the reported node is exchanged for an acceptable
one, the next failure is later in post-order. Since no place comes up twice, the tree is accepted in the end. -/

namespace MarkdownTree

variable {grammar : Grammar} {tree other node value : Json} {parent above beyond : Option Json}
  {path : Json.ChildPath} {violation : Violation}

def BreaksOwnRule (tree : Json) (parent : Option Json) (path : Json.ChildPath) (violation : Violation) : Prop :=
  ∃ node kind, tree.childAt? path = some node ∧ node.HasKind kind ∧
    Markdown.ownRules kind node.fields (tree.parentAt? parent path) = .error violation

theorem BreaksOwnRule.ruleClass_ne_shape (broken : BreaksOwnRule tree parent path violation) :
    violation.ruleClass ≠ .shape := by
  obtain ⟨node, kind, -, -, refused⟩ := broken
  exact Markdown.ruleClass_ne_shape refused

theorem BreaksOwnRule.of_onExit (refused : grammar.onExit tree parent = .error violation) :
    BreaksOwnRule tree parent [] violation := by
  unfold Grammar.onExit at refused
  split at refused
  next kind known => exact ⟨tree, kind, rfl, ((grammar.kind?_eq_some_iff tree).1 known).2, refused⟩
  next => cases refused

theorem BreaksOwnRule.of_child {child : Json} {index : Nat} (found : tree.children[index]? = some child)
    (broken : BreaksOwnRule child (some tree) path violation) :
    BreaksOwnRule tree parent (index :: path) violation := by
  obtain ⟨node, kind, reached, held, refused⟩ := broken
  refine ⟨node, kind, ?_, held, ?_⟩
  · rwa [Json.childAt?_cons found]
  · rwa [Json.parentAt?_cons found]

theorem FailsAt.cases_of_accepted {index : Nat} {later : Json.ChildPath} {child : Json}
    (fails : FailsAt grammar tree parent later violation) (entered : grammar.onEntry tree = .ok ())
    (found : tree.children[index]? = some child)
    (earlier : ∀ sibling ∈ tree.children.take index, (grammar.under tree).verdict sibling (some tree) = .ok ())
    (accepted : (grammar.under tree).verdict child (some tree) = .ok ()) :
    (∃ position rest, later = position :: rest ∧ index < position) ∨
      later = [] ∧ grammar.onExit tree parent = .error violation := by
  cases fails with
  | entry refused => simp [entered] at refused
  | exit _ _ refused => exact .inr ⟨rfl, refused⟩
  | @child _ _ _ position other rest _ _ foundOther _ inside =>
    refine .inl ⟨position, rest, rfl, ?_⟩
    rcases Nat.lt_trichotomy position index with before | rfl | after
    · exact absurd (earlier other (mem_take_of_getElem? foundOther before)) inside.not_accepted
    · obtain rfl := Option.some.inj (found.symm.trans foundOther)
      exact absurd accepted inside.not_accepted
    · exact after

/-- A check gets past a place: it accepts, or the failure is to the right, or a node above breaks a rule of its own. -/
def GetsPast (grammar : Grammar) (tree : Json) (parent : Option Json) (path : Json.ChildPath) : Prop :=
  grammar.verdict tree parent = .ok () ∨
    ∃ later cause, FailsAt grammar tree parent later cause ∧
      (isRightOf later path = true ∨ (later <+: path ∧ later ≠ path) ∧ BreaksOwnRule tree parent later cause)

theorem GetsPast.of_child {child : Json} {index : Nat} (entered : grammar.onEntry tree = .ok ())
    (found : tree.children[index]? = some child)
    (earlier : ∀ sibling ∈ tree.children.take index, (grammar.under tree).verdict sibling (some tree) = .ok ())
    (inside : GetsPast (grammar.under tree) child (some tree) path) : GetsPast grammar tree parent (index :: path) := by
  rcases inside with accepted | ⟨later, cause, fails, order⟩
  · -- With the child accepted, what is found next is found in a later child or on the way out.
    cases checked : grammar.verdict tree parent with
    | ok => exact .inl checked
    | error failure =>
      obtain ⟨later, cause, fails⟩ := exists_failsAt checked
      refine .inr ⟨later, cause, fails, ?_⟩
      rcases fails.cases_of_accepted entered found earlier accepted with ⟨position, rest, rfl, after⟩ | ⟨rfl, refused⟩
      · exact .inl (by simp [isRightOf, after])
      · exact .inr ⟨⟨List.nil_prefix, by simp⟩, .of_onExit refused⟩
  · refine .inr ⟨index :: later, cause, .child entered found earlier fails, ?_⟩
    rcases order with right | ⟨⟨before, proper⟩, broken⟩
    · exact .inl (by simpa [isRightOf] using right)
    · exact .inr ⟨⟨by simpa using before, by simpa using proper⟩, broken.of_child found⟩

theorem FailsAt.getsPast (fails : FailsAt grammar tree parent path violation) (agree : Json.AgreeUpTo path tree other)
    (placed : other.childAt? path = some value)
    (acceptable : (grammar.descend tree path).verdict value above = .ok ())
    (same : (tree.parentAt? parent path).isSome = above.isSome) (outside : parent.isSome = beyond.isSome) :
    GetsPast grammar other beyond path := by
  induction fails generalizing other beyond with
  | entry | exit =>
    obtain rfl : other = value := by simpa using placed
    exact .inl ((verdict_ok_congr (same.symm.trans outside)).1 acceptable)
  | @child grammar node parent index child path violation entered found earlier inside ih =>
    cases agree with
    | @down _ _ _ otherChild _ _ alike takes foundChild foundOther agree =>
      obtain rfl := Option.some.inj (found.symm.trans foundChild)
      rw [grammar.descend_cons found] at acceptable
      rw [Json.parentAt?_cons found] at same
      rw [Json.childAt?_cons foundOther] at placed
      have inside : GetsPast (grammar.under node) otherChild (some other) path :=
        ih agree placed acceptable same rfl
      rw [alike.under] at inside
      rw [alike.onEntry] at entered
      exact .of_child entered foundOther (alike.verdict_ok takes earlier) inside

/-- A value that is accepted by itself where a place is: by its kind if all nodes above the place have known tags, and
as any node otherwise, with some parent unless the place is the top of the tree. -/
structure Acceptable (tree : Json) (parent : Option Json) (path : Json.ChildPath) (value : Json)
    (above : Option Json) : Prop where
  byKind : KindChecked tree path → (Markdown.tree value above).result = .ok ()
  generic : ¬ KindChecked tree path → Generic.check .node value above = .ok ()
  atTop : path = [] → above = parent
  belowTop : path ≠ [] → above.isSome

theorem Acceptable.verdict (acceptable : Acceptable tree parent path value above)
    (reached : tree.childAt? path = some node) :
    (Grammar.descend .markdown tree path).verdict value above = .ok () := by
  have markdown := descend_eq_markdown_iff reached
  cases checked : Grammar.descend .markdown tree path with
  | markdown => exact acceptable.byKind (markdown.1 checked)
  | generic =>
    apply acceptable.generic
    intro byKind
    rw [markdown.2 byKind] at checked
    cases checked

theorem Acceptable.isSome_eq (acceptable : Acceptable tree parent path value above)
    (reached : tree.childAt? path = some node) : (tree.parentAt? parent path).isSome = above.isSome := by
  by_cases top : path = []
  · subst top
    rw [Json.parentAt?_nil, acceptable.atTop rfl]
  · rw [acceptable.belowTop top, Option.isSome_iff_ne_none]
    intro orphan
    exact top ((Json.parentAt?_eq_none_iff reached).1 orphan).1

theorem FailsAt.getsPast_replaceAt (fails : FailsAt .markdown tree parent path violation)
    (acceptable : Acceptable tree parent path value above) :
    GetsPast .markdown (tree.replaceAt path value) parent path := by
  obtain ⟨node, reached, -⟩ := fails.verdict
  exact fails.getsPast (Json.agreeUpTo_replaceAt reached value) (Json.childAt?_replaceAt reached value)
    (acceptable.verdict reached) (acceptable.isSome_eq reached) rfl

theorem acceptable_break (tree : Json) (parent : Option Json) (path : Json.ChildPath) :
    ∃ above, Acceptable tree parent path (.object [("type", .string "break")]) above := by
  by_cases top : path = []
  · exact ⟨parent, fun _ => rfl, fun _ => rfl, fun _ => rfl, absurd top⟩
  · exact ⟨some tree, fun _ => rfl, fun _ => rfl, fun same => absurd same top, fun _ => rfl⟩

/-- One turn of a loop that exchanges the reported node for an acceptable one. -/
def Repairs (parent : Option Json) (tree repaired : Json) : Prop :=
  ∃ path violation value above, FirstFailure .markdown tree parent path violation ∧
    Acceptable tree parent path value above ∧ repaired = tree.replaceAt path value

theorem exists_repairs (refused : (Markdown.tree tree parent).result ≠ .ok ()) :
    ∃ repaired, Repairs parent tree repaired := by
  obtain ⟨path, node, violation, refused⟩ := exists_refusedAt refused
  obtain ⟨above, acceptable⟩ := acceptable_break tree parent path
  exact ⟨_, path, violation, _, above, refused.first, acceptable, rfl⟩

theorem FailsAt.card_placesAfter_lt {later : Json.ChildPath} {cause : Violation}
    (reached : tree.childAt? path = some node)
    (fails : FailsAt grammar (tree.replaceAt path value) parent later cause) (after : later.isLater path = true) :
    ((tree.replaceAt path value).placesAfter later).card < (tree.placesAfter path).card := by
  obtain ⟨place, placed, -⟩ := fails.verdict
  rw [← Json.placesAfter_replaceAt reached value]
  exact Json.card_placesAfter_lt placed after

/-- From a failure on, a loop of repairs takes one turn, and at most one for every place after the failure. -/
theorem exists_accepted_of_repairs {run : Nat → Json} {start : Nat}
    (repairs : ∀ turn, (Markdown.tree (run turn) parent).result ≠ .ok () → Repairs parent (run turn) (run (turn + 1)))
    (fails : FailsAt .markdown (run start) parent path violation) :
    ∃ turn ≤ start + 1 + ((run start).placesAfter path).card, (Markdown.tree (run turn) parent).result = .ok () := by
  -- Every repair leaves fewer places after the failure, since what is later stays where it was.
  induction left : ((run start).placesAfter path).card using Nat.strongRecOn generalizing start path violation with
  | ind count ih =>
    obtain ⟨place, cause, value, above, first, acceptable, next⟩ := repairs start fails.not_accepted
    obtain ⟨rfl, rfl⟩ := (firstFailure_iff_failsAt.1 first).unique fails
    obtain ⟨node, reached, -⟩ := fails.verdict
    rcases fails.getsPast_replaceAt acceptable with accepted | ⟨later, cause, again, order⟩
    · exact ⟨start + 1, by omega, next ▸ accepted⟩
    · have after : later.isLater place = true := Json.ChildPath.isLater_iff.2 (order.symm.imp_left And.left)
      have fewer := again.card_placesAfter_lt reached after
      rw [← next] at again fewer
      obtain ⟨turn, bound, accepted⟩ := ih _ (left ▸ fewer) again rfl
      exact ⟨turn, by omega, accepted⟩

/-- Repairing the reported node always makes progress. Once it is exchanged for a value that is acceptable in its
place, the tree is accepted or fails later in post-order: to the right, or at a node above that breaks a rule of its
own; never at the place, below it or to its left. So a loop of such repairs, which can always go on while the tree is
refused, ends with an accepted tree, after no more turns than the tree has nodes. -/
theorem repairs_make_progress (tree : Json) (parent : Option Json) :
    (∀ path node violation value above, RefusedAt tree parent path node violation →
      Acceptable tree parent path value above →
        (Markdown.tree (tree.replaceAt path value) parent).result = .ok () ∨
        ∃ later place cause, RefusedAt (tree.replaceAt path value) parent later place cause ∧
          (isRightOf later path = true ∨ (later <+: path ∧ later ≠ path) ∧
            BreaksOwnRule (tree.replaceAt path value) parent later cause ∧ cause.ruleClass ≠ .shape) ∧
          ¬ path <+: later ∧ isRightOf path later = false) ∧
    ((Markdown.tree tree parent).result ≠ .ok () → ∃ repaired, Repairs parent tree repaired) ∧
    ∀ run : Nat → Json, run 0 = tree →
      (∀ turn, (Markdown.tree (run turn) parent).result ≠ .ok () → Repairs parent (run turn) (run (turn + 1))) →
        ∃ turn ≤ tree.places.card, (Markdown.tree (run turn) parent).result = .ok () := by
  refine ⟨?_, exists_repairs, ?_⟩
  · intro path node violation value above refused acceptable
    rcases refused.failsAt.getsPast_replaceAt acceptable with accepted | ⟨later, cause, fails, order⟩
    · exact .inl accepted
    · obtain ⟨place, again⟩ := fails.refusedAt
      have after : later.isLater path = true := Json.ChildPath.isLater_iff.2 (order.symm.imp_left And.left)
      refine .inr ⟨later, place, cause, again, ?_, Json.ChildPath.not_prefix_of_isLater after,
        Json.ChildPath.isRightOf_eq_false_of_isLater after⟩
      exact order.imp_right fun ⟨before, broken⟩ => ⟨before, broken, broken.ruleClass_ne_shape⟩
  · rintro run rfl repairs
    by_cases accepted : (Markdown.tree (run 0) parent).result = .ok ()
    · exact ⟨0, Nat.zero_le _, accepted⟩
    · obtain ⟨path, node, violation, refused⟩ := exists_refusedAt accepted
      have fewer := Json.card_placesAfter_lt_card_places refused.reached
      obtain ⟨turn, bound, accepted⟩ := exists_accepted_of_repairs repairs refused.failsAt
      exact ⟨turn, by omega, accepted⟩

/-- A list of null that has a first number but is not ordered: the null is mended first, and then the list. -/
theorem repairs_make_progress_list :
    let word := Json.object [("type", .string "text"), ("value", .string "word")]
    let list := Json.object [("children", .array [.null]), ("start", .bool true), ("type", .string "list")]
    let mended := list.replaceAt [0] word
    (∃ later place cause, RefusedAt mended none later place cause ∧ BreaksOwnRule mended none later cause) ∧
      ∃ turn ≤ list.places.card, (Markdown.tree ([list, mended].getD turn word) none).result = .ok () := by
  intro word list mended
  have first : FailsAt .markdown list none [0] .notObject := .child rfl rfl (by simp) (.entry rfl)
  have second : FailsAt .markdown mended none [] .startUnordered := by
    refine .exit rfl ?_ rfl
    intro child member
    obtain rfl := List.mem_singleton.1 member
    rfl
  have acceptable : Acceptable list none [0] word (some list) := ⟨fun _ => rfl, fun _ => rfl, nofun, fun _ => rfl⟩
  obtain ⟨step, -, loop⟩ := repairs_make_progress list none
  constructor
  · obtain ⟨node, refused⟩ := first.refusedAt
    rcases step [0] node .notObject word (some list) refused acceptable with
      accepted | ⟨later, place, cause, again, order, -⟩
    · cases accepted
    · obtain ⟨rfl, rfl⟩ := again.failsAt.unique second
      refine ⟨[], place, _, again, ?_⟩
      rcases order with right | ⟨-, broken, -⟩
      · cases right
      · exact broken
  · apply loop (fun turn => [list, mended].getD turn word) rfl
    intro turn refused
    match turn with
    | 0 => exact ⟨[0], _, word, some list, firstFailure_iff_failsAt.2 first, acceptable, rfl⟩
    | 1 =>
      refine ⟨[], _, word, none, firstFailure_iff_failsAt.2 second, ?_, rfl⟩
      exact ⟨fun _ => rfl, fun _ => rfl, fun _ => rfl, nofun⟩
    | turn + 2 => exact absurd rfl refused

end MarkdownTree
