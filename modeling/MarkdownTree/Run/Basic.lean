import MarkdownTree.Run.Event

/-! Checks that report events. The events of a step that fails are kept, and nothing runs after it. -/

namespace MarkdownTree

structure Run (α : Type) where
  events : List Event
  result : Except Failure α

namespace Run

def ofResult (result : Except Failure α) : Run α :=
  ⟨[], result⟩

def bind (run : Run α) (next : α → Run β) : Run β :=
  match run.result with
  | .ok value => ⟨run.events ++ (next value).events, (next value).result⟩
  | .error failure => ⟨run.events, .error failure⟩

instance : Monad Run where
  pure value := ofResult (.ok value)
  bind := bind

instance : MonadLift (Except Failure) Run where
  monadLift := ofResult

def emit (event : Event) : Run Unit :=
  ⟨[event], .ok ()⟩

/-- Names the place of a failure that has none. -/
def locate (node : Json) (parent : Option Json) (run : Run α) : Run α :=
  ⟨run.events, run.result.mapError (Failure.locate node parent)⟩

/-- Reports a failure as the last event. -/
def logged (run : Run α) : Run α :=
  match run.result with
  | .ok _ => run
  | .error failure => ⟨run.events ++ [.rejected failure], .error failure⟩

instance : LawfulMonad Run := LawfulMonad.mk' Run
  (by rintro α ⟨events, value | failure⟩ <;> simp [Functor.map, bind, ofResult])
  (by intro α β value next; simp [pure, Bind.bind, bind, ofResult])
  (by
    rintro α β γ ⟨events, failure | value⟩ first second
    · rfl
    · simp only [Bind.bind, bind]
      split <;> simp_all)

@[simp] theorem events_pure (value : α) : (pure value : Run α).events = [] := rfl

@[simp] theorem result_pure (value : α) : (pure value : Run α).result = .ok value := rfl

@[simp] theorem events_liftM (result : Except Failure α) : (liftM result : Run α).events = [] := rfl

@[simp] theorem result_liftM (result : Except Failure α) : (liftM result : Run α).result = result := rfl

theorem result_bind (run : Run α) (next : α → Run β) :
    (run >>= next).result = run.result >>= fun value => (next value).result := by
  obtain ⟨events, failure | value⟩ := run <;> rfl

theorem events_bind (run : Run α) (next : α → Run β) :
    (run >>= next).events =
      run.events ++ match run.result with
        | .ok value => (next value).events
        | .error _ => [] := by
  obtain ⟨events, failure | value⟩ := run
  · exact (List.append_nil events).symm
  · rfl

/-- What reports nothing adds no events to what runs before it. -/
theorem events_bind_of_silent (run : Run α) {next : α → Run β} (silent : ∀ value, (next value).events = []) :
    (run >>= next).events = run.events := by
  rw [events_bind]
  cases run.result with
  | ok value => simp [silent]
  | error failure => simp

@[simp] theorem events_locate (run : Run α) (node : Json) (parent : Option Json) :
    (run.locate node parent).events = run.events := rfl

@[simp] theorem result_locate (run : Run α) (node : Json) (parent : Option Json) :
    (run.locate node parent).result = run.result.mapError (Failure.locate node parent) := rfl

@[simp] theorem result_logged (run : Run α) : run.logged.result = run.result := by
  obtain ⟨events, failure | value⟩ := run <;> rfl

theorem events_logged (run : Run α) : run.logged.events =
    run.events ++ match run.result with
      | .ok _ => []
      | .error failure => [.rejected failure] := by
  obtain ⟨events, failure | value⟩ := run
  · rfl
  · exact (List.append_nil events).symm

theorem result_forM (items : List α) (next : α → Run Unit) :
    (items.forM next).result = items.forM fun item => (next item).result := by
  induction items with
  | nil => rfl
  | cons item rest ih => simp only [List.forM_eq_forM, List.forM_cons, result_bind] at ih ⊢; rw [ih]

theorem events_forM (items : List α) (next : α → Run Unit)
    (accepted : ∀ item ∈ items, (next item).result = .ok ()) :
    (items.forM next).events = items.flatMap fun item => (next item).events := by
  induction items with
  | nil => rfl
  | cons item rest ih =>
    obtain ⟨first, others⟩ := List.forall_mem_cons.1 accepted
    have events := ih others
    simp only [List.forM_eq_forM] at events
    simp only [List.forM_eq_forM, List.forM_cons, events_bind, first, List.flatMap_cons, events]

/-- Nothing is reported after the first item that fails. -/
theorem events_forM_of_error {items : List α} {next : α → Run Unit} {index : Nat} {item : α} {failure : Failure}
    (found : items[index]? = some item) (earlier : ∀ other ∈ items.take index, (next other).result = .ok ())
    (failed : (next item).result = .error failure) :
    (items.forM next).events =
      ((items.take index).flatMap fun other => (next other).events) ++ (next item).events := by
  induction items generalizing index with
  | nil => simp at found
  | cons first rest ih =>
    cases index with
    | zero =>
      obtain rfl : first = item := by simpa using found
      simp [events_bind, failed]
    | succ index =>
      obtain ⟨accepted, others⟩ : (next first).result = .ok () ∧
          ∀ other ∈ rest.take index, (next other).result = .ok () := by simpa using earlier
      have events := ih (by simpa using found) others
      simp only [List.forM_eq_forM] at events
      simp [events_bind, accepted, events]

end Run
end MarkdownTree
