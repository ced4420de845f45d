import MarkdownTree.Json.Edit
import MarkdownTree.Json.Reader
import MarkdownTree.Proofs.RenderedTokens

/-! Rendered values read back. The values that can be read at all are those whose objects are maps, with their keys in
ascending order, and on these rendering is undone by reading. -/

namespace MarkdownTree.Json

namespace Fields
variable {fields : Fields} {key : String} {value : Json}

theorem insert_of_forall_lt (beyond : ∀ field ∈ fields, field.1 < key) :
    fields.insert key value = fields ++ [(key, value)] := by
  induction fields with
  | nil => rfl
  | cons field rest ih =>
    obtain ⟨first, later⟩ := List.forall_mem_cons.1 beyond
    have different : key ≠ field.1 := fun same => String.lt_irrefl _ (same ▸ first)
    have notBefore : ¬key < field.1 := fun before => String.lt_irrefl _ (String.lt_trans first before)
    simp [insert, different, notBefore, ih later]

theorem mem_insert {field : String × Json} (member : field ∈ fields.insert key value) :
    field = (key, value) ∨ field ∈ fields := by
  induction fields with
  | nil => simpa [insert] using member
  | cons other rest ih => grind [insert]

theorem Ascending.get?_eq_some_iff (ascending : fields.Ascending) :
    fields.get? key = some value ↔ (key, value) ∈ fields := by
  induction fields with
  | nil => simp
  | cons field rest ih =>
    obtain ⟨other, old⟩ := field
    obtain ⟨before, sorted⟩ := List.pairwise_cons.1 ascending
    rw [get?_cons, List.mem_cons, Prod.mk.injEq]
    split
    next same =>
      subst same
      have absent : (key, value) ∉ rest := fun member => String.lt_irrefl _ (before (key, value) member)
      simp [absent, eq_comm]
    next different => simp [different, ih sorted]

end Fields

/-- The fields of every object inside have distinct keys in ascending order. These are just the values that can be
read, and editing makes no others. -/
inductive Canonical : Json → Prop
  | null : Canonical .null
  | bool (value : Bool) : Canonical (.bool value)
  | number (value : Number) : Canonical (.number value)
  | string (value : String) : Canonical (.string value)
  | array {items : List Json} (inside : ∀ item ∈ items, Canonical item) : Canonical (.array items)
  | object {fields : Fields} (ascending : fields.Ascending) (inside : ∀ field ∈ fields, Canonical field.2) :
    Canonical (.object fields)

/-- A reader that expects a value takes all tokens of this one. -/
def ReadsBack (value : Json) : Prop :=
  ∀ frames, value.tokens.foldlM Reader.step (.atValue frames) = some (.afterValue value frames)

theorem foldlM_step_itemTokens {items : List Json} (nonempty : items ≠ []) (read : ∀ item ∈ items, item.ReadsBack)
    (before : List Json) (frames : List Frame) :
    (itemTokens items ++ [Token.arrayClose]).foldlM Reader.step (.atValue (.array before :: frames)) =
      some (.afterValue (.array (before.reverse ++ items)) frames) := by
  induction items generalizing before with
  | nil => exact absurd rfl nonempty
  | cons item rest ih =>
    obtain ⟨first, later⟩ := List.forall_mem_cons.1 read
    cases rest with
    | nil => simp [itemTokens, List.foldlM_append, first (.array before :: frames), Reader.step, Reader.endValue?]
    | cons next rest =>
      have others := ih (by simp) later (item :: before)
      simpa [itemTokens, List.foldlM_append, first (.array before :: frames), Reader.step, Reader.endValue?]
        using others

theorem foldlM_step_fieldTokens {fields : Fields} (nonempty : fields ≠ [])
    (read : ∀ field ∈ fields, field.2.ReadsBack) (before : Fields) (ascending : Fields.Ascending (before ++ fields))
    (frames : List Frame) :
    (fieldTokens fields ++ [Token.objectClose]).foldlM Reader.step (.atKey before frames) =
      some (.afterValue (.object (before ++ fields)) frames) := by
  induction fields generalizing before with
  | nil => exact absurd rfl nonempty
  | cons field rest ih =>
    obtain ⟨key, value⟩ := field
    obtain ⟨first, later⟩ := List.forall_mem_cons.1 read
    have beyond : ∀ field ∈ before, field.1 < key := fun field member =>
      (List.pairwise_append.1 ascending).2.2 field member _ List.mem_cons_self
    have appended : before.insert key value = before ++ [(key, value)] := Fields.insert_of_forall_lt beyond
    cases rest with
    | nil =>
      simp [fieldTokens, List.foldlM_append, first (.object before key :: frames), Reader.step, Reader.endValue?,
        appended]
    | cons next rest =>
      have longer : Fields.Ascending (before ++ [(key, value)] ++ next :: rest) := by simpa using ascending
      have others := ih (by simp) later _ longer
      simpa [fieldTokens, List.foldlM_append, first (.object before key :: frames), Reader.step, Reader.endValue?,
        appended] using others

theorem foldlM_step_atItem {items : List Json} (nonempty : items ≠ []) (rest : List Token) (frames : List Frame) :
    (itemTokens items ++ rest).foldlM Reader.step (.atItem frames) =
      (itemTokens items ++ rest).foldlM Reader.step (.atValue (.array [] :: frames)) := by
  match items, nonempty with
  | [item], _ | item :: _ :: _, _ => cases item <;> rfl

theorem foldlM_step_atField {fields : Fields} (nonempty : fields ≠ []) (rest : List Token) (frames : List Frame) :
    (fieldTokens fields ++ rest).foldlM Reader.step (.atField frames) =
      (fieldTokens fields ++ rest).foldlM Reader.step (.atKey [] frames) := by
  match fields, nonempty with
  | [_], _ | _ :: _ :: _, _ => rfl

theorem Canonical.readsBack {value : Json} (canonical : value.Canonical) : value.ReadsBack := by
  induction canonical with
  | null | bool | number | string => exact fun _ => rfl
  | @array items inside ih =>
    intro frames
    by_cases nonempty : items = []
    · subst nonempty
      rfl
    · exact (foldlM_step_atItem nonempty _ frames).trans (foldlM_step_itemTokens nonempty ih [] frames)
  | @object fields ascending inside ih =>
    intro frames
    by_cases nonempty : fields = []
    · subst nonempty
      rfl
    · exact (foldlM_step_atField nonempty _ frames).trans (foldlM_step_fieldTokens nonempty ih [] ascending frames)

theorem ofText?_render {value : Json} (canonical : value.Canonical) : ofText? value.render = some value := by
  rw [ofText?, render, String.toList_ofList, ofText?_chars]
  simp [canonical.readsBack []]

namespace Canonical
variable {fields : Fields} {items : List Json} {key : String} {value : Json}

theorem of_get? (canonical : (Json.object fields).Canonical) (held : fields.get? key = some value) :
    value.Canonical := by
  cases canonical with
  | object ascending inside => exact inside _ (ascending.get?_eq_some_iff.1 held)

theorem insert (canonical : (Json.object fields).Canonical) (inside : value.Canonical) :
    (Json.object (fields.insert key value)).Canonical := by
  cases canonical with
  | object ascending values =>
    refine .object (ascending.insert key value) fun field member => ?_
    obtain rfl | old := Fields.mem_insert member
    · exact inside
    · exact values field old

theorem erase (canonical : (Json.object fields).Canonical) (key : String) :
    (Json.object (Fields.erase key fields)).Canonical := by
  cases canonical with
  | object ascending inside =>
    exact .object (ascending.erase key) fun field member => inside field (List.mem_of_mem_filter member)

theorem of_mem (canonical : (Json.array items).Canonical) (member : value ∈ items) : value.Canonical := by
  cases canonical with
  | array inside => exact inside value member

theorem of_items {others : List Json} (canonical : (Json.array items).Canonical)
    (origin : ∀ item ∈ others, item ∈ items ∨ item.Canonical) : (Json.array others).Canonical :=
  .array fun item member => (origin item member).elim canonical.of_mem id

theorem reverse (canonical : (Json.array items).Canonical) : (Json.array items.reverse).Canonical :=
  canonical.of_items fun _ member => .inl (List.mem_reverse.1 member)

theorem cons (canonical : (Json.array items).Canonical) (inside : value.Canonical) :
    (Json.array (value :: items)).Canonical :=
  canonical.of_items (List.forall_mem_cons.2 ⟨.inr inside, fun _ => .inl⟩)

theorem edit {tree : Json} (canonical : tree.Canonical) {replacement : Option Json}
    (fresh : ∀ new ∈ replacement, new.Canonical) (path : List PathStep) : (tree.edit path replacement).Canonical := by
  fun_induction Json.edit path replacement tree with
  | case1 replacement _ =>
    cases replacement with
    | none => exact .null
    | some new => exact fresh new rfl
  | case2 name _ => exact canonical.erase name
  | case3 => exact canonical.of_items fun item member => .inl (List.mem_of_mem_eraseIdx member)
  | case4 _ _ _ _ _ _ found ih => exact canonical.insert (ih (canonical.of_get? found) fresh)
  | case5 _ _ _ new => exact canonical.insert (fresh new rfl)
  | case7 _ _ _ _ _ _ found ih =>
    refine canonical.of_items fun item member => ?_
    obtain kept | rfl := List.mem_or_eq_of_mem_set member
    · exact .inl kept
    · exact .inr (ih (canonical.of_mem (List.mem_of_getElem? found)) fresh)
  | case8 _ _ _ new =>
    refine canonical.of_items (List.forall_mem_append.2 ⟨fun _ => .inl, ?_⟩)
    exact List.forall_mem_singleton.2 (.inr (fresh new rfl))
  | case6 | case9 | case10 => exact canonical

end Canonical

/-- What an open array or object holds so far. -/
def Frame.held : Frame → Json
  | .array items => .array items
  | .object fields _ => .object fields

def Reader.held : Reader → List Json
  | .atValue frames | .atItem frames | .atField frames => frames.map Frame.held
  | .atKey fields frames | .atColon fields _ frames => .object fields :: frames.map Frame.held
  | .afterValue value frames => value :: frames.map Frame.held

def Token.held : Token → List Json
  | .scalar value => [value]
  | _ => []

section Reading
open Reader
variable {frames : List Frame} {token : Token} {next : Reader}

theorem canonical_startValue? (started : startValue? frames token = some next)
    (reading : ∀ value ∈ frames.map Frame.held, value.Canonical) (scanned : ∀ value ∈ token.held, value.Canonical) :
    ∀ value ∈ next.held, value.Canonical := by
  unfold startValue? at started
  split at started <;> cases started
  · exact reading
  · exact reading
  · exact List.forall_mem_cons.2 ⟨.string _, reading⟩
  · exact List.forall_mem_cons.2 ⟨scanned _ List.mem_cons_self, reading⟩

theorem canonical_endValue? {value : Json} {frame : Frame} (ended : endValue? value frames frame token = some next)
    (inside : value.Canonical) (opened : frame.held.Canonical)
    (reading : ∀ value ∈ frames.map Frame.held, value.Canonical) : ∀ value ∈ next.held, value.Canonical := by
  unfold endValue? at ended
  split at ended <;> cases ended
  · exact List.forall_mem_cons.2 ⟨opened.cons inside, reading⟩
  · exact List.forall_mem_cons.2 ⟨(opened.cons inside).reverse, reading⟩
  · exact List.forall_mem_cons.2 ⟨opened.insert inside, reading⟩
  · exact List.forall_mem_cons.2 ⟨opened.insert inside, reading⟩

theorem canonical_step {reader : Reader} (taken : reader.step token = some next)
    (reading : ∀ value ∈ reader.held, value.Canonical) (scanned : ∀ value ∈ token.held, value.Canonical) :
    ∀ value ∈ next.held, value.Canonical := by
  have emptyArray : (Json.array []).Canonical := .array (by simp)
  have emptyObject : (Json.object []).Canonical := .object .nil (by simp)
  unfold step at taken
  split at taken
  · exact canonical_startValue? taken reading scanned
  · cases taken
    exact List.forall_mem_cons.2 ⟨emptyArray, reading⟩
  · exact canonical_startValue? taken (List.forall_mem_cons.2 ⟨emptyArray, reading⟩) scanned
  · cases taken
    exact reading
  · cases taken
    exact List.forall_mem_cons.2 ⟨emptyObject, reading⟩
  · cases taken
    exact List.forall_mem_cons.2 ⟨emptyObject, reading⟩
  · cases taken
    exact reading
  · obtain ⟨inside, outer⟩ := List.forall_mem_cons.1 reading
    obtain ⟨innermost, others⟩ := List.forall_mem_cons.1 outer
    exact canonical_endValue? taken inside innermost others
  · cases taken

end Reading

section Scanning
open Token

def CanonicalTokens (tokens : List Token) : Prop :=
  ∀ token ∈ tokens, ∀ value ∈ token.held, value.Canonical

theorem CanonicalTokens.cons {found : List Token} {token : Token} (canonical : CanonicalTokens found)
    (inside : ∀ value ∈ token.held, value.Canonical) : CanonicalTokens (token :: found) :=
  List.forall_mem_cons.2 ⟨inside, canonical⟩

theorem canonical_ofBare? {chars : List Char} {token : Token} (spells : ofBare? chars = some token) :
    ∀ value ∈ token.held, value.Canonical := by
  unfold ofBare? at spells
  split at spells
  · cases spells
    simpa [Token.held] using .null
  · split at spells
    · cases spells
      simpa [Token.held] using .bool true
    · split at spells
      · cases spells
        simpa [Token.held] using .bool false
      · obtain ⟨value, -, rfl⟩ := Option.map_eq_some_iff.1 spells
        simpa [Token.held] using .number value

theorem canonical_startToken {found : List Token} (canonical : CanonicalTokens found) (char : Char) :
    CanonicalTokens (startToken found char).1 := by
  have bracket {token : Token} (spells : ofChar? char = some token) : ∀ value ∈ token.held, value.Canonical := by
    unfold ofChar? at spells
    split at spells <;> cases spells <;> simp [Token.held]
  unfold startToken
  split
  · exact canonical
  · split
    · exact canonical
    · split
      next spells => exact canonical.cons (bracket spells)
      next => exact canonical

theorem canonical_scanStep {state next : List Token × Scan} {char : Char}
    (stepped : Token.step state char = some next) (canonical : CanonicalTokens state.1) :
    CanonicalTokens next.1 := by
  obtain ⟨found, scan⟩ := state
  -- Only at the end of a token is one added; inside of strings the tokens stay as they are.
  cases scan with
  | between =>
    cases stepped
    exact canonical_startToken canonical char
  | bare read =>
    simp only [Token.step] at stepped
    split at stepped
    · obtain ⟨token, spells, started⟩ := Option.bind_eq_some_iff.1 stepped
      cases started
      exact canonical_startToken (canonical.cons (canonical_ofBare? spells)) char
    · cases stepped
      exact canonical
  | quoted read lead =>
    cases lead with
    | none =>
      simp only [Token.step] at stepped
      split at stepped
      · cases stepped
        exact canonical.cons (by simp [Token.held])
      · have same : next.1 = found := by grind
        exact same ▸ canonical
    | some lead =>
      have same : next.1 = found := by grind [Token.step]
      exact same ▸ canonical
  | escaped read lead =>
    have same : next.1 = found := by grind [Token.step, Option.map_eq_some_iff]
    exact same ▸ canonical
  | unit read lead digits value =>
    have same : next.1 = found := by grind [Token.step, Option.bind_eq_some_iff, Option.pure_def]
    exact same ▸ canonical

theorem canonical_scan? {text : List Char} {state : List Token × Scan} {tokens : List Token}
    (scanned : scan? state text = some tokens) (canonical : CanonicalTokens state.1) : CanonicalTokens tokens := by
  induction text generalizing state with
  | nil =>
    have finished : finish? state = some tokens := scanned
    unfold finish? at finished
    split at finished
    · cases finished
      exact fun token member => canonical token (List.mem_reverse.1 member)
    · obtain ⟨token, spells, rfl⟩ := Option.map_eq_some_iff.1 finished
      exact fun other member => canonical.cons (canonical_ofBare? spells) other (List.mem_reverse.1 member)
    · cases finished
  | cons char rest ih =>
    obtain ⟨final, folded, finished⟩ := Option.bind_eq_some_iff.1 scanned
    obtain ⟨next, stepped, folded⟩ := Option.bind_eq_some_iff.1 folded
    exact ih (Option.bind_eq_some_iff.2 ⟨final, folded, finished⟩) (canonical_scanStep stepped canonical)

end Scanning

theorem canonical_foldlM_step {tokens : List Token} {reader final : Reader}
    (run : tokens.foldlM Reader.step reader = some final) (reading : ∀ value ∈ reader.held, value.Canonical)
    (scanned : CanonicalTokens tokens) : ∀ value ∈ final.held, value.Canonical := by
  induction tokens generalizing reader with
  | nil =>
    cases run
    exact reading
  | cons token rest ih =>
    obtain ⟨first, later⟩ := List.forall_mem_cons.1 scanned
    obtain ⟨next, taken, run⟩ := Option.bind_eq_some_iff.1 run
    exact ih run (canonical_step taken reading first) later

theorem canonical_of_ofText? {text : String} {value : Json} (read : ofText? text = some value) : value.Canonical := by
  obtain ⟨tokens, scanned, run⟩ := Option.bind_eq_some_iff.1 read
  obtain ⟨final, run, ended⟩ := Option.bind_eq_some_iff.1 run
  split at ended
  · cases ended
    have canonical : CanonicalTokens tokens := canonical_scan? scanned (by simp [CanonicalTokens])
    exact canonical_foldlM_step run (by simp [Reader.held]) canonical _ List.mem_cons_self
  · cases ended

/-- The canonical values are those that some text spells. -/
theorem canonical_iff_exists_text {value : Json} : value.Canonical ↔ ∃ text, ofText? text = some value :=
  ⟨fun canonical => ⟨_, ofText?_render canonical⟩, fun ⟨_, read⟩ => canonical_of_ofText? read⟩

end MarkdownTree.Json
