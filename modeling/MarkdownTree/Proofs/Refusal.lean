/-! Checks made of smaller ones stop at the first refusal. Here is what an acceptance and a refusal of the whole say
of the parts. -/

namespace MarkdownTree

theorem bind_ok_iff {check : Except ε α} {next : α → Except ε β} {result : β} :
    (check >>= next) = .ok result ↔ ∃ value, check = .ok value ∧ next value = .ok result := by
  cases check <;> simp [bind, Except.bind]

theorem seq_ok_iff {check : Except ε Unit} {next : Unit → Except ε α} {result : α} :
    (check >>= next) = .ok result ↔ check = .ok () ∧ next () = .ok result := by
  cases check <;> simp [bind, Except.bind]

theorem seq_error_iff {check : Except ε Unit} {next : Unit → Except ε α} {problem : ε} :
    (check >>= next) = .error problem ↔ check = .error problem ∨ check = .ok () ∧ next () = .error problem := by
  cases check <;> simp [bind, Except.bind]

theorem mapError_ok_iff {check : Except ε α} {rename : ε → δ} {result : α} :
    check.mapError rename = .ok result ↔ check = .ok result := by
  cases check with
  | ok value => constructor <;> intro same <;> cases same <;> rfl
  | error cause => constructor <;> intro impossible <;> cases impossible

theorem mapError_error_iff {check : Except ε α} {rename : ε → δ} {problem : δ} :
    check.mapError rename = .error problem ↔ ∃ cause, check = .error cause ∧ rename cause = problem := by
  cases check with
  | ok value =>
    constructor
    · intro impossible
      cases impossible
    · rintro ⟨_, impossible, _⟩
      cases impossible
  | error cause =>
    constructor
    · intro renamed
      exact ⟨cause, rfl, Except.error.inj renamed⟩
    · rintro ⟨_, same, renamed⟩
      cases same
      exact congrArg Except.error renamed

theorem map_ok_iff {check : Except ε α} {next : α → β} {result : β} :
    check.map next = .ok result ↔ ∃ value, check = .ok value ∧ next value = result := by
  cases check <;> simp [Except.map]

theorem map_error_iff {check : Except ε α} {next : α → β} {problem : ε} :
    check.map next = .error problem ↔ check = .error problem := by
  cases check <;> simp [Except.map]

theorem mem_take_of_getElem? {items : List α} {item : α} {index other : Nat} (found : items[index]? = some item)
    (before : index < other) : item ∈ items.take other := by
  apply List.mem_of_getElem? (i := index)
  rw [List.getElem?_take_of_lt before, found]

theorem forM_ok_iff {check : α → Except ε Unit} {items : List α} :
    items.forM check = .ok () ↔ ∀ item ∈ items, check item = .ok () := by
  induction items with
  | nil => simp [pure, Except.pure]
  | cons item rest ih =>
    simp only [List.forM_eq_forM, List.forM_cons, seq_ok_iff, List.forall_mem_cons] at ih ⊢
    rw [ih]

theorem forM_error_iff {check : α → Except ε Unit} {items : List α} {problem : ε} :
    items.forM check = .error problem ↔
      ∃ index item, items[index]? = some item ∧ (∀ earlier ∈ items.take index, check earlier = .ok ()) ∧
        check item = .error problem := by
  induction items with
  | nil => simp [pure, Except.pure]
  | cons item rest ih =>
    simp only [List.forM_eq_forM, List.forM_cons, seq_error_iff] at ih ⊢
    rw [ih]
    constructor
    · intro refused
      rcases refused with refused | ⟨accepted, index, other, found, earlier, refused⟩
      · exact ⟨0, item, rfl, by simp, refused⟩
      · exact ⟨index + 1, other, by simpa using found, by simpa using ⟨accepted, earlier⟩, refused⟩
    · rintro ⟨index, other, found, earlier, refused⟩
      cases index with
      | zero =>
        obtain rfl : item = other := by simpa using found
        exact .inl refused
      | succ index =>
        obtain ⟨accepted, earlier⟩ : check item = .ok () ∧ ∀ earlier ∈ rest.take index, check earlier = .ok () := by
          simpa using earlier
        exact .inr ⟨accepted, index, other, by simpa using found, earlier, refused⟩

end MarkdownTree
