import MarkdownTree.Check
import MarkdownTree.Proofs.EntryDescent

/-! Checks put together from smaller ones, to any depth. A located check changes nothing but the place of a failure,
and of all the located checks around the step that fails the innermost one names it. -/

namespace MarkdownTree

namespace Failure

def unplaced (failure : Failure) : Failure :=
  { failure with place := none }

theorem unplaced_eq_iff {failure other : Failure} :
    failure.unplaced = other.unplaced ↔ failure.ruleClass = other.ruleClass ∧ failure.message = other.message := by
  simp [unplaced]

end Failure

namespace Run

/-- Runs with the same events that accept alike or fail in the same words, if perhaps at other places. -/
structure SameButPlace (run other : Run α) : Prop where
  events : run.events = other.events
  result : run.result.mapError Failure.unplaced = other.result.mapError Failure.unplaced

variable {run other : Run α}

theorem SameButPlace.refl (run : Run α) : run.SameButPlace run :=
  ⟨rfl, rfl⟩

theorem SameButPlace.symm (same : run.SameButPlace other) : other.SameButPlace run :=
  ⟨same.events.symm, same.result.symm⟩

theorem SameButPlace.trans {third : Run α} (first : run.SameButPlace other) (second : other.SameButPlace third) :
    run.SameButPlace third :=
  ⟨first.events.trans second.events, first.result.trans second.result⟩

theorem SameButPlace.bind {next follow : α → Run β} (first : run.SameButPlace other)
    (second : ∀ value, (next value).SameButPlace (follow value)) : (run >>= next).SameButPlace (other >>= follow) := by
  obtain ⟨events, result⟩ := run
  obtain ⟨otherEvents, otherResult⟩ := other
  obtain ⟨rfl, same⟩ : events = otherEvents ∧ _ := ⟨first.events, first.result⟩
  cases result with
  | error failure =>
    cases otherResult with
    | error cause => exact ⟨rfl, congrArg Except.error (Except.error.inj same)⟩
    | ok value => cases same
  | ok value =>
    cases otherResult with
    | error cause => cases same
    | ok again =>
      obtain rfl : value = again := Except.ok.inj same
      exact ⟨congrArg (events ++ ·) (second value).events, (second value).result⟩

theorem SameButPlace.forM {check counterpart : β → Run Unit} (items : List β)
    (same : ∀ item, (check item).SameButPlace (counterpart item)) :
    (items.forM check).SameButPlace (items.forM counterpart) := by
  induction items with
  | nil => exact .refl _
  | cons item rest ih =>
    simp only [List.forM_eq_forM, List.forM_cons] at ih ⊢
    exact (same item).bind fun _ => ih

theorem SameButPlace.error (same : run.SameButPlace other) {failure : Failure}
    (failed : run.result = .error failure) :
    ∃ cause, other.result = .error cause ∧ cause.ruleClass = failure.ruleClass ∧ cause.message = failure.message := by
  have result := same.result
  rw [failed] at result
  obtain ⟨cause, failedOther, words⟩ := mapError_error_iff.1 result.symm
  exact ⟨cause, failedOther, Failure.unplaced_eq_iff.1 words⟩

end Run

structure Site where
  node : Json
  parent : Option Json

def Site.place (site : Site) : Place :=
  Place.of site.node site.parent

namespace Check

/-- A step of a check fails with these words. The sites are those of the located checks around the step, from the
outermost to the innermost; a library check that fails comes last, with the site that it reports. -/
inductive FailsWithin : Check → Json → Option Json → List Site → RuleClass → String → Prop
  | orphan {node parent} : FailsWithin .orphan node (some parent) [] .context "has parent"
  | fail {ruleClass message node parent} : FailsWithin (.fail ruleClass message) node parent [] ruleClass message
  | ofForm {form node parent violation} (broken : form.check node = .error violation) :
    FailsWithin (.ofForm form) node parent [] violation.ruleClass violation.message
  | ofEntry {entry node parent path place violation} (refused : entry.RefusedAt node parent path place violation) :
    FailsWithin (.ofEntry entry) node parent [⟨place, node.parentAt? parent path⟩] violation.ruleClass
      violation.message
  | located {check node parent sites ruleClass message}
    (inside : FailsWithin check node parent sites ruleClass message) :
    FailsWithin (.located check) node parent (⟨node, parent⟩ :: sites) ruleClass message
  | sequence {checks node parent index check sites ruleClass message} (found : checks[index]? = some check)
    (earlier : ∀ other ∈ checks.take index, (other.run node parent).result = .ok ())
    (inside : FailsWithin check node parent sites ruleClass message) :
    FailsWithin (.sequence checks) node parent sites ruleClass message
  | formless {check node parent violation} (broken : Form.node.check node = .error violation) :
    FailsWithin (.children check) node parent [] violation.ruleClass violation.message
  | child {check node parent fields index child sites ruleClass message} (formed : Form.node.check node = .ok fields)
    (found : node.children[index]? = some child)
    (earlier : ∀ sibling ∈ node.children.take index, (check.run sibling (some node)).result = .ok ())
    (inside : FailsWithin check child (some node) sites ruleClass message) :
    FailsWithin (.children check) node parent sites ruleClass message

theorem run_sequence (checks : List Check) (node : Json) (parent : Option Json) :
    (Check.sequence checks).run node parent = checks.forM fun check => check.run node parent := by
  induction checks with
  | nil => rfl
  | cons check rest ih => exact congrArg (check.run node parent >>= fun _ => ·) ih

theorem result_children (check : Check) (node : Json) (parent : Option Json) :
    ((Check.children check).run node parent).result = (do
      let _ ← (Form.node.check node).mapError Failure.ofViolation
      node.children.forM fun child => (check.run child (some node)).result) := by
  rw [run]
  simp only [Run.result_bind, Run.result_liftM, Run.result_forM]

theorem result_ofForm (form : Form) (node : Json) (parent : Option Json) :
    ((Check.ofForm form).run node parent).result = match form.check node with
      | .ok _ => .ok ()
      | .error violation => .error (.ofViolation violation) := by
  rw [run]
  cases form.check node <;> rfl

theorem place_cons (site : Site) (sites : List Site) :
    (site :: sites).getLast?.map Site.place = (sites.getLast?.map Site.place).or (some site.place) := by
  rw [List.getLast?_cons]
  cases sites.getLast? <;> rfl

theorem FailsWithin.result {check : Check} {node : Json} {parent : Option Json} {sites : List Site}
    {ruleClass : RuleClass} {message : String} (fails : check.FailsWithin node parent sites ruleClass message) :
    (check.run node parent).result = .error ⟨ruleClass, message, sites.getLast?.map Site.place⟩ := by
  induction fails with
  | orphan => rfl
  | fail => rfl
  | ofForm broken =>
    rw [result_ofForm, broken]
    rfl
  | ofEntry refused => exact refused.reported
  | @located check node parent sites ruleClass message inside ih =>
    rw [run, Run.result_locate, ih, place_cons]
    exact mapError_error_iff.2 ⟨_, rfl, Failure.locate_eq ..⟩
  | sequence found earlier inside ih =>
    rw [run_sequence, Run.result_forM]
    exact forM_error_iff.2 ⟨_, _, found, earlier, ih⟩
  | formless broken =>
    rw [result_children, broken]
    rfl
  | child formed found earlier inside ih =>
    rw [result_children, formed]
    exact forM_error_iff.2 ⟨_, _, found, earlier, ih⟩

end Check
end MarkdownTree
