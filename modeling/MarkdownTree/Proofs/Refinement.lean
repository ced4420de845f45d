import MarkdownTree.Proofs.EntryDescent
import MarkdownTree.Proofs.Validity

/-! The rules of Markdown trees refine those of any tree, and of the forms that a tree can have no two overlap. -/

namespace MarkdownTree

def Entry.Accepts (entry : Entry) (node : Json) (parent : Option Json) : Prop :=
  (entry.run node parent).result = .ok ()

variable {node : Json} {parent above : Option Json} {fields : Json.Fields}

theorem accepts_generic_iff {form : Form} : Entry.Accepts ⟨.generic, form⟩ node parent ↔
    (node.IsNode ∧ form.ownRules node.fields = .ok ()) ∧
      ∀ child ∈ node.children, Entry.Accepts ⟨.generic, .node⟩ child (some node) := by
  rw [Entry.Accepts, Entry.result_genericEntry, mapError_ok_iff, seq_ok_iff, mapError_ok_iff, Form.map_check_ok_iff,
    forM_ok_iff]
  rfl

theorem ownRules_of_accepts {form : Form} (accepted : Entry.Accepts ⟨.generic, form⟩ node parent) :
    form.ownRules node.fields = .ok () :=
  (accepts_generic_iff.1 accepted).1.2

theorem accepts_form_iff {form : Form} (above : Option Json) : Entry.Accepts ⟨.generic, form⟩ node parent ↔
    Entry.Accepts ⟨.generic, .node⟩ node above ∧ form.ownRules node.fields = .ok () := by
  rw [accepts_generic_iff, accepts_generic_iff]
  simp only [Form.ownRules, and_true]
  exact and_right_comm

theorem accepts_generic_of_verdict {grammar : Grammar} (accepted : grammar.verdict node parent = .ok ()) :
    Entry.Accepts ⟨.generic, .node⟩ node above := by
  induction node using Json.childInduction generalizing grammar parent above with
  | step node ih =>
    obtain ⟨entered, children, -⟩ := (grammar.verdict_ok_iff ..).1 accepted
    refine accepts_generic_iff.2 ⟨⟨(onEntry_ok_iff.1 entered).1, rfl⟩, ?_⟩
    intro child member
    exact ih child member (children child member)

theorem Category.ownRules_of_holds {category : Category} (holds : category.Holds fields) :
    category.form.ownRules fields = .ok () := by
  cases category with
  | parent =>
    obtain ⟨lacks, value, held, items, rfl⟩ := holds
    exact Form.parentRules_ok_iff.2 ⟨lacks, .array items, held, nofun⟩
  | literal =>
    obtain ⟨lacks, value, held, -⟩ := holds
    exact Form.literalRules_ok_iff.2 ⟨lacks, by simp [Json.Fields.Lacks, held]⟩
  | void => exact Form.voidRules_ok_iff.2 holds

theorem accepts_category_iff {category : Category} : Entry.Accepts ⟨.markdown, category.form⟩ node parent ↔
    (node.IsNode ∧ category.Holds node.fields) ∧
      ∀ child ∈ node.children, Grammar.verdict .markdown child (some node) = .ok () := by
  rw [Entry.Accepts, result_categoryEntry, mapError_ok_iff, Category.verdict, seq_ok_iff, mapError_ok_iff,
    Markdown.map_categoryCheck_ok_iff, forM_ok_iff]

theorem Category.eq_of_ownRules {category other : Category} (first : category.form.ownRules fields = .ok ())
    (second : other.form.ownRules fields = .ok ()) : category = other := by
  cases category <;> cases other <;>
    simp_all [Category.form, Form.parentRules_ok_iff, Form.literalRules_ok_iff, Form.voidRules_ok_iff,
      Json.Fields.Lacks, Json.Fields.Required]

/-- What has no form: a node with both a value and children, or with null for children and no value. -/
theorem Category.forall_ownRules_ne_ok_iff : (∀ category : Category, category.form.ownRules fields ≠ .ok ()) ↔
    (fields.contains "value" = true ∧ fields.contains "children" = true) ∨
      (fields.get? "children" = some .null ∧ fields.contains "value" = false) := by
  have each : (∀ category : Category, category.form.ownRules fields ≠ .ok ()) ↔
      Form.ownRules .parent fields ≠ .ok () ∧ Form.ownRules .literal fields ≠ .ok () ∧
        Form.ownRules .void fields ≠ .ok () := by
    constructor
    · intro none
      exact ⟨none .parent, none .literal, none .void⟩
    · rintro ⟨parent, literal, void⟩ category
      cases category
      · exact parent
      · exact literal
      · exact void
  rw [each, ne_eq, ne_eq, ne_eq, Form.parentRules_ok_iff, Form.literalRules_ok_iff, Form.voidRules_ok_iff]
  simp only [Json.Fields.contains, Json.Fields.Required, Json.Fields.Lacks]
  cases fields.get? "value" with
  | some value => cases fields.get? "children" <;> simp
  | none =>
    cases fields.get? "children" with
    | none => simp
    | some children => cases children <;> simp

theorem accepts_generic_of_markdown {form : Form} (accepted : Entry.Accepts ⟨.markdown, form⟩ node parent) :
    Entry.Accepts ⟨.generic, form⟩ node above := by
  have structured (category : Category) (accepted : Entry.Accepts ⟨.markdown, category.form⟩ node parent) :
      Entry.Accepts ⟨.generic, category.form⟩ node above := by
    obtain ⟨⟨isNode, holds⟩, children⟩ := accepts_category_iff.1 accepted
    refine accepts_generic_iff.2 ⟨⟨isNode, Category.ownRules_of_holds holds⟩, ?_⟩
    intro child member
    exact accepts_generic_of_verdict (children child member)
  cases form with
  | node => exact accepts_generic_of_verdict accepted
  | parent => exact structured .parent accepted
  | literal => exact structured .literal accepted
  | void => exact structured .void accepted

/-- A valid Markdown tree is a valid tree, and likewise for the checks of the forms. A node that is accepted as a
parent, a literal or a void node is accepted as any node, and as one of these at most. It is none of them if it has
both a value and children, or has null for children and no value. A valid node of a known kind has just the form of
its category. Parents never make a difference to this. -/
theorem markdown_refines_generic (node : Json) (parent above : Option Json) :
    (∀ form, Entry.Accepts ⟨.markdown, form⟩ node parent → Entry.Accepts ⟨.generic, form⟩ node above) ∧
      (∀ form, Entry.Accepts ⟨.generic, form⟩ node parent → Entry.Accepts ⟨.generic, .node⟩ node above) ∧
      (∀ category other : Category, Entry.Accepts ⟨.generic, category.form⟩ node parent →
        Entry.Accepts ⟨.generic, other.form⟩ node above → category = other) ∧
      (Entry.Accepts ⟨.generic, .node⟩ node parent →
        ((∀ category : Category, ¬ Entry.Accepts ⟨.generic, category.form⟩ node above) ↔
          (node.fields.contains "value" = true ∧ node.fields.contains "children" = true) ∨
            (node.fields.get? "children" = some .null ∧ node.fields.contains "value" = false))) ∧
      ∀ kind, Entry.Accepts ⟨.markdown, .node⟩ node parent → node.HasKind kind →
        ∀ category : Category, Entry.Accepts ⟨.generic, category.form⟩ node above ↔ category = kind.category := by
  refine ⟨fun form => accepts_generic_of_markdown, ?_, ?_, ?_, ?_⟩
  · intro form accepted
    exact ((accepts_form_iff above).1 accepted).1
  · intro category other first second
    exact Category.eq_of_ownRules (ownRules_of_accepts first) (ownRules_of_accepts second)
  · intro accepted
    rw [← Category.forall_ownRules_ne_ok_iff]
    refine forall_congr' fun category => not_congr ?_
    rw [accepts_form_iff parent]
    exact and_iff_right accepted
  · intro kind accepted held category
    have valid : Grammar.verdict .markdown node parent = .ok () := accepted
    obtain ⟨entered, -⟩ := (Grammar.verdict_ok_iff ..).1 valid
    have holds := (onEntry_ok_iff.1 entered).2 kind (Grammar.kind?_of_hasKind held)
    have own := Category.ownRules_of_holds holds
    constructor
    · intro matching
      exact Category.eq_of_ownRules (ownRules_of_accepts matching) own
    · rintro rfl
      exact (accepts_form_iff none).2 ⟨accepts_generic_of_verdict valid, own⟩

/-- A paragraph is a parent, also below another node. What has both a value and children is a node without a form. -/
theorem markdown_refines_generic_paragraph :
    let paragraph := Json.object [("children", .array []), ("type", .string "paragraph")]
    let both := Json.object [("children", .array []), ("type", .string "note"), ("value", .null)]
    (∀ category : Category, Entry.Accepts ⟨.generic, category.form⟩ paragraph (some both) ↔ category = .parent) ∧
      ∀ category : Category, ¬ Entry.Accepts ⟨.generic, category.form⟩ both none := by
  intro paragraph both
  constructor
  · exact (markdown_refines_generic paragraph none (some both)).2.2.2.2 .paragraph rfl ⟨"paragraph", rfl, rfl⟩
  · exact ((markdown_refines_generic both none none).2.2.2.1 rfl).2 (.inl ⟨rfl, rfl⟩)

end MarkdownTree
