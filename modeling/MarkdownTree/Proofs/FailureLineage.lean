import MarkdownTree.Failure.History
import MarkdownTree.Proofs.EntryDescent

/-! Where the current failure of a history comes from. One step created it, and the first place it was given since then,
by that step or a later one, is its place for good. -/

namespace MarkdownTree

theorem Failure.display_eq (failure : Failure) : failure.display = failure.message ++ match failure.place with
    | none => ""
    | some ⟨node, none⟩ => ": `" ++ node ++ "`"
    | some ⟨node, some parent⟩ => ": `" ++ node ++ "` in `" ++ parent ++ "`" := by
  apply String.toList_inj.1
  obtain ⟨ruleClass, message, place⟩ := failure
  cases place with
  | none => simp [display]
  | some place =>
    obtain ⟨node, parent⟩ := place
    cases parent <;> simp [display, Place.text]

namespace History
namespace Step

def created? : Step → Option Failure
  | .create ruleClass message => some ⟨ruleClass, message, none⟩
  | .check entry node parent =>
    match (entry.run node parent).result with
    | .ok _ => none
    | .error failure => some failure
  | .locate _ _ | .save | .load => none

def place? : Step → Option Place
  | .locate node parent => some (Place.of node parent)
  | _ => none

def isSave : Step → Bool
  | .save => true
  | _ => false

end Step

/-- The steps that led to the current failure after some steps, which are given latest first. The way goes backwards,
from a load to the save that it loads, and ends with the step that created the failure. -/
def lineage : List Step → List Step
  | [] => []
  | .load :: earlier => lineage (earlier.dropWhile fun step => !step.isSave) ++ [.load]
  | step :: earlier => if step.created?.isSome then [step] else lineage earlier ++ [step]
termination_by past => past.length
decreasing_by
  · exact Nat.lt_succ_of_le (List.dropWhile_sublist _).length_le
  · exact Nat.lt_succ_self _

/-- What a lineage amounts to: the failure created at its beginning, at the first of its places. -/
def recount (line : List Step) : Option Failure :=
  (line.head?.bind Step.created?).map fun origin =>
    { origin with place := origin.place.or (line.findSome? Step.place?) }

theorem run_cons (step : Step) (past : List Step) :
    run (step :: past).reverse = (run past.reverse).step step := by
  simp [run]

theorem step_of_created {step : Step} {failure : Failure} (created : step.created? = some failure) (history : History) :
    history.step step = { history with current := some failure } := by
  cases step with
  | create => cases created; rfl
  | check entry node parent =>
    simp only [Step.created?] at created
    simp only [History.step]
    cases checked : (entry.run node parent).result with
    | ok => simp [checked] at created
    | error => simp_all
  | _ => cases created

theorem saved_step {step : Step} (other : step.isSave = false) (history : History) :
    (history.step step).saved = history.saved := by
  cases step with
  | check entry node parent =>
    simp only [History.step]
    cases (entry.run node parent).result <;> rfl
  | save => cases other
  | _ => rfl

theorem saved_eq_current (past : List Step) :
    (run past.reverse).saved = (run (past.dropWhile fun step => !step.isSave).reverse).current := by
  induction past with
  | nil => rfl
  | cons step past ih =>
    cases kept : step.isSave with
    | false => rw [List.dropWhile_cons_of_pos (by simp [kept]), run_cons, saved_step kept, ih]
    | true =>
      obtain rfl : step = .save := by cases step <;> first | rfl | cases kept
      rw [List.dropWhile_cons_of_neg (by simp [kept]), run_cons]
      rfl

theorem recount_of_created {step : Step} {failure : Failure} (created : step.created? = some failure) :
    recount [step] = some failure := by
  have unplaced : step.place? = none := by cases step <;> first | rfl | cases created
  simp [recount, created, unplaced]

theorem recount_append {step : Step} (created : step.created? = none) (line : List Step) :
    recount (line ++ [step]) = (recount line).map fun failure =>
      { failure with place := failure.place.or step.place? } := by
  have head : (line ++ [step]).head?.bind Step.created? = line.head?.bind Step.created? := by
    cases line with
    | nil => simpa using created
    | cons => rfl
  have places : (line ++ [step]).findSome? Step.place? = (line.findSome? Step.place?).or step.place? := by
    simp [List.findSome?_append]
  simp only [recount, head, places, Option.map_map, Function.comp_def, Option.or_assoc]

theorem current_step {step : Step} (created : step.created? = none) (direct : step ≠ .load) (history : History) :
    (history.step step).current = history.current.map fun failure =>
      { failure with place := failure.place.or step.place? } := by
  have same (failure : Failure) : { failure with place := failure.place } = failure := rfl
  cases step with
  | create => cases created
  | check entry node parent =>
    simp only [Step.created?] at created
    simp only [History.step]
    cases checked : (entry.run node parent).result with
    | ok => simp [Step.place?]
    | error => simp [checked] at created
  | locate node parent =>
    exact congrArg (Option.map · history.current) (funext fun failure => failure.locate_eq node parent)
  | save => simp [History.step, Step.place?]
  | load => exact absurd rfl direct

theorem current_eq_recount (past : List Step) : (run past.reverse).current = recount (lineage past) := by
  fun_induction lineage past with
  | case1 => rfl
  | case2 earlier ih =>
    rw [recount_append rfl, ← ih, run_cons, History.step, saved_eq_current]
    simp [Step.place?]
  | case3 step earlier direct created =>
    obtain ⟨failure, created⟩ := Option.isSome_iff_exists.1 created
    rw [run_cons, step_of_created created, recount_of_created created]
  | case4 step earlier direct created ih =>
    have created : step.created? = none := by simpa using created
    rw [run_cons, current_step created (by rintro rfl; exact direct rfl), ih, recount_append created]

theorem recount_of_prefix {line longer : List Step} (continued : line <+: longer) {failure : Failure}
    (told : recount line = some failure) (placed : failure.place.isSome) : recount longer = some failure := by
  obtain ⟨more, rfl⟩ := continued
  simp only [recount, Option.map_eq_some_iff, Option.bind_eq_some_iff] at told
  obtain ⟨origin, ⟨first, begins, created⟩, rfl⟩ := told
  have head : (line ++ more).head? = some first := by
    cases line with
    | nil => cases begins
    | cons => exact begins
  have place : origin.place.or ((line ++ more).findSome? Step.place?) =
      origin.place.or (line.findSome? Step.place?) := by
    rw [List.findSome?_append, ← Option.or_assoc]
    obtain ⟨place, known⟩ := Option.isSome_iff_exists.1 placed
    simp [show origin.place.or (line.findSome? Step.place?) = some place from known]
  simp only [recount, head, place, Option.bind_some, created, Option.map_some]

theorem saved_after_save (steps : List Step) {more : List Step} (unsaved : ∀ step ∈ more, step.isSave = false) :
    (run (steps ++ .save :: more)).saved = (run steps).current := by
  have kept (history : History) : (more.foldl step history).saved = history.saved := by
    induction more generalizing history with
    | nil => rfl
    | cons next more ih =>
      obtain ⟨first, later⟩ := List.forall_mem_cons.1 unsaved
      rw [List.foldl_cons, ih later, saved_step first]
  rw [run, List.foldl_append, List.foldl_cons, kept]
  rfl

def locateAll (places : List (Json × Option Json)) : List Step :=
  places.map fun place => .locate place.1 place.2

theorem current_locateAll (places : List (Json × Option Json)) (history : History) :
    ((locateAll places).foldl step history).current = history.current.map fun failure =>
      { failure with place := failure.place.or (places.head?.map fun place => Place.of place.1 place.2) } := by
  induction places generalizing history with
  | nil => simp [locateAll]
  | cons place places ih =>
    have first : (history.step (.locate place.1 place.2)).current = history.current.map fun failure =>
        { failure with place := failure.place.or (some (Place.of place.1 place.2)) } :=
      current_step rfl (by simp) history
    rw [locateAll, List.map_cons, List.foldl_cons, ← locateAll, ih, first]
    simp only [Option.map_map, Function.comp_def, Option.or_assoc]
    rfl

/-- After a save, locating the current failure makes it another one than the saved one just once, and only if it had
no place before. -/
theorem current_eq_saved_iff (steps : List Step) (places : List (Json × Option Json)) :
    (run (steps ++ .save :: locateAll places)).current = (run (steps ++ .save :: locateAll places)).saved ↔
      places = [] ∨ ∀ failure, (run steps).current = some failure → failure.place.isSome := by
  have unsaved : ∀ step ∈ locateAll places, step.isSave = false := by
    intro step member
    obtain ⟨place, -, rfl⟩ := List.mem_map.1 member
    rfl
  rw [saved_after_save steps unsaved, run, List.foldl_append, List.foldl_cons, current_locateAll]
  change Option.map _ (run steps).current = (run steps).current ↔ _
  cases (run steps).current with
  | none => simp
  | some failure =>
    obtain ⟨ruleClass, message, place⟩ := failure
    cases place <;> simp

/-- After any steps, the current failure is the one that the lineage begins with, in the same class and words. Without
such a beginning there is none. Its place is the one it was created with, as every failure of a check is, or else the
first place on the lineage; with that place it is displayed. A failure with a place remains the same one as long as
its lineage goes on. A load brings back what was current at the save, and locating the current failure after the save
makes a difference only if it had no place. -/
theorem current_follows_lineage (steps : List Step) :
    let line := lineage steps.reverse
    let origin := line.head?.bind Step.created?
    ((run steps).current = none ↔ origin = none) ∧
    (∀ created, origin = some created → ∃ failure, (run steps).current = some failure ∧
      failure.ruleClass = created.ruleClass ∧ failure.message = created.message ∧
      failure.place = created.place.or (line.findSome? Step.place?) ∧
      failure.display = failure.message ++ match failure.place with
        | none => ""
        | some ⟨node, none⟩ => ": `" ++ node ++ "`"
        | some ⟨node, some parent⟩ => ": `" ++ node ++ "` in `" ++ parent ++ "`") ∧
    (∀ entry node parent failure, Step.created? (.check entry node parent) = some failure → failure.place.isSome) ∧
    (∀ more, line <+: lineage (steps ++ more).reverse → ∀ failure, (run steps).current = some failure →
      failure.place.isSome → (run (steps ++ more)).current = some failure) ∧
    (∀ more, (∀ step ∈ more, step.isSave = false) →
      (run (steps ++ .save :: more ++ [.load])).current = (run steps).current) ∧
    ∀ places, (run (steps ++ .save :: locateAll places)).current = (run (steps ++ .save :: locateAll places)).saved ↔
      places = [] ∨ ∀ failure, (run steps).current = some failure → failure.place.isSome := by
  intro line origin
  have told (steps : List Step) : (run steps).current = recount (lineage steps.reverse) := by
    simpa using current_eq_recount steps.reverse
  refine ⟨?_, ?_, ?_, ?_, ?_, current_eq_saved_iff steps⟩
  · rw [told, recount, Option.map_eq_none_iff]
  · intro created begins
    refine ⟨{ created with place := created.place.or (line.findSome? Step.place?) }, ?_, rfl, rfl, rfl,
      Failure.display_eq _⟩
    rw [told, recount, show (lineage steps.reverse).head?.bind Step.created? = some created from begins]
    rfl
  · intro entry node parent failure created
    have refused : (entry.run node parent).result = .error failure := by
      simp only [Step.created?] at created
      cases checked : (entry.run node parent).result <;> simp_all
    obtain ⟨path, place, violation, reported⟩ := Entry.exists_refusedAt refused
    obtain rfl := Except.error.inj (refused.symm.trans reported.reported)
    rfl
  · intro more continued failure current placed
    rw [told] at current ⊢
    exact recount_of_prefix continued current placed
  · intro more unsaved
    rw [run, List.foldl_append]
    exact saved_after_save steps unsaved

/-- A failure that is loaded after it was located has no place again. It gets the next one it is located at, and keeps
that when it is located once more. -/
theorem current_follows_lineage_loaded :
    let steps : List Step := [.create .shape "odd", .save, .locate .null none, .load, .locate (.bool true) (some .null)]
    let more : List Step := [.save, .locate .null none]
    lineage steps.reverse = [.create .shape "odd", .save, .load, .locate (.bool true) (some .null)] ∧
      lineage steps.reverse <+: lineage (steps ++ more).reverse ∧
      ∃ failure, (run steps).current = some failure ∧ (run (steps ++ more)).current = some failure ∧
        failure.place = some (Place.of (.bool true) (some .null)) ∧ failure.display = "odd: `true` in `null`" := by
  intro steps more
  have line : lineage steps.reverse = [.create .shape "odd", .save, .load, .locate (.bool true) (some .null)] := by
    simp [lineage, steps, Step.created?, Step.isSave]
  have continued : lineage steps.reverse <+: lineage (steps ++ more).reverse := by
    refine ⟨more, ?_⟩
    simp [lineage, steps, more, Step.created?, Step.isSave]
  obtain ⟨-, tells, -, keeps, -, -⟩ := current_follows_lineage steps
  obtain ⟨failure, current, -, message, place, display⟩ := tells ⟨.shape, "odd", none⟩ (by rw [line]; rfl)
  have placed : failure.place = some (Place.of (.bool true) (some .null)) := by
    rw [place, line]
    rfl
  refine ⟨line, continued, failure, current, keeps more continued failure current (by simp [placed]), placed, ?_⟩
  rw [display, message, placed]
  rfl

end History
end MarkdownTree
