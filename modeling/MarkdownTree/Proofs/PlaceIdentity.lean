import Mathlib.Data.List.Sort
import MarkdownTree.Failure.Basic
import MarkdownTree.Proofs.ReadingBack

/-! The place of a failure tells which node and which parent it was made from. Values with the same text are the same,
down to the sign of a zero and the difference between `1` and `1.0`. -/

namespace MarkdownTree

namespace Json

/-- Integers are the same by value, and binary numbers by sign and value. No integer is a binary number. -/
def Number.SameAs : Number → Number → Prop
  | .integer value _ _, .integer other _ _ => value = other
  | .float value, .float other => value.negative = other.negative ∧ value.value = other.value
  | _, _ => False

/-- Arrays are the same item by item, and objects key by key, in whatever order their fields stand. -/
inductive SameAs : Json → Json → Prop
  | null : SameAs .null .null
  | bool (value : Bool) : SameAs (.bool value) (.bool value)
  | number {value other : Number} (same : value.SameAs other) : SameAs (.number value) (.number other)
  | string (value : String) : SameAs (.string value) (.string value)
  | array {items others : List Json} (length : items.length = others.length)
    (same : ∀ (index : Nat) (item other : Json), items[index]? = some item → others[index]? = some other →
      SameAs item other) : SameAs (.array items) (.array others)
  | object {fields others : Fields} (keys : ∀ key, fields.contains key = others.contains key)
    (same : ∀ key value other, fields.get? key = some value → others.get? key = some other →
      SameAs value other) : SameAs (.object fields) (.object others)

theorem Number.sameAs_iff_eq {number other : Number} : number.SameAs other ↔ number = other := by
  constructor
  · intro same
    cases number <;> cases other
    · simpa [SameAs] using same
    · exact same.elim
    · exact same.elim
    · exact congrArg _ (Binary64.eq_of_value_eq same.1 same.2)
  · rintro rfl
    cases number
    · rfl
    · exact ⟨rfl, rfl⟩

namespace Fields

theorem Ascending.ext {fields others : Fields} (ascending : fields.Ascending) (ordered : others.Ascending)
    (same : ∀ key, fields.get? key = others.get? key) : fields = others := by
  have : Std.Irrefl fun field other : String × Json => field.1 < other.1 := ⟨fun _ => String.lt_irrefl _⟩
  have : Std.Antisymm fun field other : String × Json => field.1 < other.1 :=
    ⟨fun _ _ before after => absurd (String.lt_trans before after) (String.lt_irrefl _)⟩
  exact List.Pairwise.eq_of_mem_iff ascending ordered fun ⟨key, value⟩ => by
    rw [← ascending.get?_eq_some_iff, same, ordered.get?_eq_some_iff]

end Fields

theorem Canonical.sameAs_self {value : Json} (canonical : value.Canonical) : value.SameAs value := by
  induction canonical with
  | null => exact .null
  | bool value => exact .bool value
  | number value => exact .number (Number.sameAs_iff_eq.2 rfl)
  | string value => exact .string value
  | array inside ih =>
    refine .array rfl fun index item other first second => ?_
    obtain rfl : item = other := Option.some.inj (first.symm.trans second)
    exact ih item (List.mem_of_getElem? first)
  | object ascending inside ih =>
    refine .object (fun _ => rfl) fun key value other first second => ?_
    obtain rfl : value = other := Option.some.inj (first.symm.trans second)
    exact ih _ (ascending.get?_eq_some_iff.1 first)

theorem SameAs.eq {value other : Json} (same : value.SameAs other) (canonical : value.Canonical)
    (ordered : other.Canonical) : value = other := by
  induction same with
  | null | bool | string => rfl
  | number same => rw [Number.sameAs_iff_eq.1 same]
  | array length same ih =>
    cases canonical with
    | array inside =>
      cases ordered with
      | array insideOther =>
        refine congrArg _ (List.ext_getElem length fun index left right => ?_)
        exact ih index _ _ (List.getElem?_eq_getElem left) (List.getElem?_eq_getElem right)
          (inside _ (List.getElem_mem left)) (insideOther _ (List.getElem_mem right))
  | object keys same ih =>
    cases canonical with
    | object ascending inside =>
      cases ordered with
      | object ascendingOther insideOther =>
        refine congrArg _ (ascending.ext ascendingOther fun key => ?_)
        have present := keys key
        unfold Fields.contains at present
        cases first : Fields.get? _ key <;> cases second : Fields.get? _ key <;> simp [first, second] at present ⊢
        exact ih key _ _ first second (inside _ (ascending.get?_eq_some_iff.1 first))
          (insideOther _ (ascendingOther.get?_eq_some_iff.1 second))

theorem Canonical.sameAs_iff_eq {value other : Json} (canonical : value.Canonical) (ordered : other.Canonical) :
    value.SameAs other ↔ value = other :=
  ⟨fun same => same.eq canonical ordered, fun same => same ▸ canonical.sameAs_self⟩

theorem Canonical.render_eq_iff {value other : Json} (canonical : value.Canonical) (ordered : other.Canonical) :
    value.render = other.render ↔ value.SameAs other := by
  rw [canonical.sameAs_iff_eq ordered]
  constructor
  · intro same
    have read := ofText?_render canonical
    rw [same, ofText?_render ordered] at read
    exact (Option.some.inj read).symm
  · rintro rfl
    rfl

end Json

namespace Failure
open Json

/-- Locating a failure tells apart all nodes and all parents, and a parent that is null from none. -/
theorem locate_eq_locate_iff {failure : Failure} (unplaced : failure.place = none) {node other : Json}
    (canonical : node.Canonical) (ordered : other.Canonical) {parent above : Option Json}
    (canonicalParent : ∀ value ∈ parent, value.Canonical) (orderedAbove : ∀ value ∈ above, value.Canonical) :
    failure.locate node parent = failure.locate other above ↔
      node.SameAs other ∧ Option.Rel SameAs parent above := by
  have parents : parent.map render = above.map render ↔ Option.Rel SameAs parent above := by
    cases parent with
    | none => cases above <;> simp
    | some parent =>
      cases above with
      | none => simp
      | some above => simpa using (canonicalParent parent rfl).render_eq_iff (orderedAbove above rfl)
  simp [locate_eq, unplaced, Place.of, canonical.render_eq_iff ordered, parents]

/-- The sign of a zero is enough to tell nodes apart, and so is a parent that is null. -/
theorem locate_eq_locate_iff_zeros :
    let failure : Failure := ⟨.shape, "odd", none⟩
    let node := Json.object [("start", .number (.float (.zero false)))]
    let other := Json.object [("start", .number (.float (.zero true)))]
    failure.place = none ∧ node.Canonical ∧ other.Canonical ∧
      failure.locate node (some .null) ≠ failure.locate other (some .null) ∧
      failure.locate node (some .null) ≠ failure.locate node none := by
  intro failure node other
  have canonical (value : Number) : (Json.object [("start", .number value)]).Canonical :=
    .object (List.pairwise_singleton _ _) (by simpa using .number value)
  have null : ∀ value ∈ some Json.null, value.Canonical := by simpa using .null
  refine ⟨rfl, canonical _, canonical _, ?_, ?_⟩
  · intro same
    obtain ⟨nodes, -⟩ := (locate_eq_locate_iff rfl (canonical _) (canonical _) null null).1 same
    cases nodes with
    | object keys same =>
      cases same "start" _ _ rfl rfl with
      | number zeros => cases zeros.1
  · intro same
    obtain ⟨-, parents⟩ := (locate_eq_locate_iff rfl (canonical _) (canonical _) null (by simp)).1 same
    cases parents

end Failure
end MarkdownTree
