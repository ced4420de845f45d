import MarkdownTree.Json.Number.Basic

/-! JSON values. The fields of an object are kept in ascending order of their keys, so that values which agree
as maps are equal. -/

namespace MarkdownTree

inductive Json
  | null
  | bool (value : Bool)
  | number (value : Json.Number)
  | string (value : String)
  | array (items : List Json)
  | object (fields : List (String × Json))

namespace Json

/-- The fields of an object by ascending key. -/
abbrev Fields := List (String × Json)

namespace Fields

def get? (fields : Fields) (key : String) : Option Json :=
  fields.lookup key

def contains (fields : Fields) (key : String) : Bool :=
  (fields.get? key).isSome

/-- The value of a field that is neither missing nor null. -/
def nonNull? (fields : Fields) (key : String) : Option Json :=
  match fields.get? key with
  | some .null => none
  | found => found

def keys (fields : Fields) : List String :=
  fields.map Prod.fst

/-- Sets a field in its place, over an older value. -/
def insert (key : String) (value : Json) : Fields → Fields
  | [] => [(key, value)]
  | (other, old) :: rest =>
    if key = other then (key, value) :: rest
    else if key < other then (key, value) :: (other, old) :: rest
    else (other, old) :: insert key value rest

def erase (key : String) (fields : Fields) : Fields :=
  fields.filter (·.1 ≠ key)

/-- The items of an array of children; no array, no children. -/
def children (fields : Fields) : List Json :=
  match fields.get? "children" with
  | some (.array items) => items
  | _ => []

@[simp] theorem get?_nil (key : String) : get? [] key = none := rfl

theorem get?_cons (key other : String) (value : Json) (rest : Fields) :
    get? ((other, value) :: rest) key = if key = other then some value else get? rest key := by
  by_cases same : key = other
  · simp [get?, same]
  · simp [get?, List.lookup_cons, beq_false_of_ne same, same]

theorem get?_insert (key other : String) (value : Json) (fields : Fields) :
    (insert key value fields).get? other = if other = key then some value else fields.get? other := by
  induction fields with
  | nil => simp [insert, get?_cons]
  | cons field rest ih => grind [insert, get?_cons]

theorem get?_erase (key other : String) (fields : Fields) :
    (erase key fields).get? other = if other = key then none else fields.get? other := by
  induction fields with
  | nil => simp [erase]
  | cons field rest ih => grind [erase, get?_cons]

/-- Every key comes before all later ones, so no key occurs twice. -/
def Ascending (fields : Fields) : Prop :=
  fields.Pairwise (·.1 < ·.1)

theorem mem_keys_insert {key other : String} {value : Json} {fields : Fields}
    (member : other ∈ (insert key value fields).keys) : other = key ∨ other ∈ fields.keys := by
  induction fields with
  | nil => simpa [insert, keys] using member
  | cons field rest ih => grind [insert, keys]

theorem Ascending.insert {fields : Fields} (ascending : Ascending fields) (key : String) (value : Json) :
    Ascending (fields.insert key value) := by
  induction fields with
  | nil => simp [Fields.insert, Ascending]
  | cons field rest ih =>
    obtain ⟨other, old⟩ := field
    obtain ⟨before, sorted⟩ := List.pairwise_cons.1 ascending
    unfold Fields.insert
    split
    · rename_i same
      exact List.pairwise_cons.2 ⟨same ▸ before, sorted⟩
    · split
      · rename_i less
        exact List.pairwise_cons.2 ⟨fun field member => by
          obtain rfl | later := List.mem_cons.1 member
          · exact less
          · exact String.lt_trans less (before field later), ascending⟩
      · rename_i different notLess
        refine List.pairwise_cons.2 ⟨fun field member => ?_, ih sorted⟩
        obtain same | later := mem_keys_insert (List.mem_map_of_mem member)
        · rw [same]
          exact Decidable.byContradiction fun notGreater =>
            different (String.le_antisymm (String.not_lt.1 notGreater) (String.not_lt.1 notLess))
        · obtain ⟨entry, inside, named⟩ := List.mem_map.1 later
          exact named ▸ before entry inside

theorem Ascending.erase {fields : Fields} (ascending : Ascending fields) (key : String) :
    Ascending (Fields.erase key fields) :=
  List.Pairwise.filter _ ascending

end Fields

/-- The fields of an object; any other value has none. -/
def fields : Json → Fields
  | .object fields => fields
  | _ => []

/-- The nodes directly below a node. -/
def children (value : Json) : List Json :=
  value.fields.children

end Json
end MarkdownTree
