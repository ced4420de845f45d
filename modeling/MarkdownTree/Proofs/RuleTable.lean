import MarkdownTree.Failure.Basic
import MarkdownTree.Proofs.NumberBounds

/-! Rules as the rows of a table. A row tells on its own what breaks the rule, whatever else may be wrong; among all
broken rules the first one in the table is reported. -/

namespace MarkdownTree
open Json (Fields)

/-- A rule about values of one type, with the class and the words of its violation. -/
structure Rule (α : Type) where
  violation : Violation
  ruleClass : RuleClass
  message : String
  brokenBy : α → Bool
  ruleClass_eq : violation.ruleClass = ruleClass := by rfl
  message_eq : violation.message = message := by rfl

namespace Rule
variable {α β : Type}

/-- A rule about a part, for the whole. Where the part is missing, nothing breaks it. -/
def onPart (part : β → Option α) (rule : Rule α) : Rule β where
  violation := rule.violation
  ruleClass := rule.ruleClass
  message := rule.message
  brokenBy whole := (part whole).any rule.brokenBy
  ruleClass_eq := rule.ruleClass_eq
  message_eq := rule.message_eq

def judge (table : List (Rule α)) (subject : α) : Except Violation Unit :=
  match table.find? (·.brokenBy subject) with
  | some rule => .error rule.violation
  | none => .ok ()

def IsFirstBroken (table : List (Rule α)) (subject : α) (rule : Rule α) : Prop :=
  ∃ earlier later, table = earlier ++ rule :: later ∧ rule.brokenBy subject = true ∧
    ∀ other ∈ earlier, other.brokenBy subject = false

theorem ofViolation_eq (rule : Rule α) : Failure.ofViolation rule.violation = ⟨rule.ruleClass, rule.message, none⟩ := by
  rw [Failure.ofViolation, rule.ruleClass_eq, rule.message_eq]

variable {table : List (Rule α)} {subject : α}

@[simp] theorem judge_nil (subject : α) : judge [] subject = .ok () := rfl

theorem judge_cons (rule : Rule α) (rest : List (Rule α)) (subject : α) : judge (rule :: rest) subject =
    if rule.brokenBy subject then .error rule.violation else judge rest subject := by
  simp only [judge, List.find?_cons]
  cases rule.brokenBy subject <;> rfl

theorem judge_append (table rest : List (Rule α)) (subject : α) :
    judge (table ++ rest) subject = judge table subject >>= fun _ => judge rest subject := by
  simp only [judge, List.find?_append]
  cases table.find? (·.brokenBy subject) <;> rfl

theorem judge_cons_cons (rule next : Rule α) (rest : List (Rule α)) (subject : α) :
    judge (rule :: next :: rest) subject = judge [rule] subject >>= fun _ => judge (next :: rest) subject :=
  judge_append [rule] (next :: rest) subject

theorem judge_onPart (table : List (Rule α)) (part : β → Option α) (whole : β) :
    judge (table.map (onPart part)) whole = match part whole with
      | some inner => judge table inner
      | none => .ok () := by
  induction table with
  | nil => cases part whole <;> rfl
  | cons rule rest ih =>
    rw [List.map_cons, judge_cons, ih]
    cases held : part whole with
    | none => simp [onPart, held]
    | some inner => simp [onPart, held, judge_cons]

theorem judge_congr {other : α} (same : ∀ rule ∈ table, rule.brokenBy subject = rule.brokenBy other) :
    judge table subject = judge table other := by
  induction table with
  | nil => rfl
  | cons rule rest ih =>
    obtain ⟨first, others⟩ := List.forall_mem_cons.1 same
    rw [judge_cons, judge_cons, first, ih others]

theorem judge_ok_iff : judge table subject = .ok () ↔ ∀ rule ∈ table, rule.brokenBy subject = false := by
  have found := List.find?_eq_none (p := fun rule : Rule α => rule.brokenBy subject) (l := table)
  simp only [Bool.not_eq_true] at found
  rw [← found, judge]
  cases table.find? (·.brokenBy subject) <;> simp

theorem judge_error_iff {violation : Violation} : judge table subject = .error violation ↔
    ∃ rule, IsFirstBroken table subject rule ∧ rule.violation = violation := by
  have first (rule : Rule α) : table.find? (·.brokenBy subject) = some rule ↔ IsFirstBroken table subject rule := by
    simp only [IsFirstBroken, List.find?_eq_some_iff_append, Bool.not_eq_true']
    tauto
  simp only [← first, judge]
  cases table.find? (·.brokenBy subject) <;> simp

theorem exists_mem_of_judge_error {violation : Violation} (refused : judge table subject = .error violation) :
    ∃ rule ∈ table, rule.brokenBy subject = true ∧ rule.violation = violation := by
  obtain ⟨rule, ⟨earlier, later, rfl, broken, -⟩, reported⟩ := judge_error_iff.1 refused
  exact ⟨rule, by simp, broken, reported⟩

theorem reported_iff {report : Violation → Failure} {words : Rule α → Failure} {failure : Failure}
    (same : ∀ rule : Rule α, report rule.violation = words rule) :
    (∃ violation, judge table subject = .error violation ∧ report violation = failure) ↔
      ∃ rule, IsFirstBroken table subject rule ∧ failure = words rule := by
  simp only [judge_error_iff]
  constructor
  · rintro ⟨violation, ⟨rule, first, rfl⟩, rfl⟩
    exact ⟨rule, first, same rule⟩
  · rintro ⟨rule, first, rfl⟩
    exact ⟨rule.violation, ⟨rule, first, rfl⟩, same rule⟩

end Rule

namespace Json

def isNull : Json → Bool
  | .null => true
  | _ => false

def isBool : Json → Bool
  | .bool _ => true
  | _ => false

def isTrue : Json → Bool
  | .bool true => true
  | _ => false

def isNumber : Json → Bool
  | .number _ => true
  | _ => false

def isString : Json → Bool
  | .string _ => true
  | _ => false

def isArray : Json → Bool
  | .array _ => true
  | _ => false

def object? : Json → Option Fields
  | .object fields => some fields
  | _ => none

/-- Whether a value is a number whose exact value is less than a bound. -/
def isBelow (bound : ℕ) : Json → Bool
  | .number amount => amount.value < bound
  | _ => false

def isAbove (bound : ℕ) : Json → Bool
  | .number amount => bound < amount.value
  | _ => false

def isOneOf (choices : List String) : Json → Bool
  | .string choice => choice ∈ choices
  | _ => false

theorem isBelow_number (amount : Number) {bound : ℕ} (small : bound < 0x20000000000000) :
    (Json.number amount).isBelow bound = !amount.atLeast bound := by
  rw [isBelow, Bool.eq_iff_iff, decide_eq_true_iff, Bool.not_eq_true', ← Bool.not_eq_true,
    amount.atLeast_iff small, not_le]

theorem isAbove_number (amount : Number) {bound : ℕ} (small : bound < 0x20000000000000) :
    (Json.number amount).isAbove bound = !amount.atMost bound := by
  rw [isAbove, Bool.eq_iff_iff, decide_eq_true_iff, Bool.not_eq_true', ← Bool.not_eq_true,
    amount.atMost_iff small, not_le]

end Json

namespace Json.Fields

/-- Whether a field is neither missing nor null, and passes a test. -/
def holds (fields : Fields) (key : String) (test : Json → Bool) : Bool :=
  (fields.get? key).any fun value => !value.isNull && test value

def isAbsent (fields : Fields) (key : String) : Bool :=
  (fields.get? key).all Json.isNull

def object? (fields : Fields) (key : String) : Option Fields :=
  (fields.get? key).bind Json.object?

variable (fields : Fields) (key : String)

theorem holds_eq (test : Json → Bool) : fields.holds key test = (fields.nonNull? key).any test := by
  unfold holds nonNull?
  cases fields.get? key with
  | none => rfl
  | some value => cases value <;> rfl

theorem isAbsent_eq : fields.isAbsent key = (fields.nonNull? key).isNone := by
  unfold isAbsent nonNull?
  cases fields.get? key with
  | none => rfl
  | some value => cases value <;> rfl

theorem object?_eq : fields.object? key = (fields.nonNull? key).bind Json.object? := by
  unfold object? nonNull?
  cases fields.get? key with
  | none => rfl
  | some value => cases value <;> rfl

variable {fields key}

theorem holds_iff {test : Json → Bool} :
    fields.holds key test = true ↔ ∃ value, fields.get? key = some value ∧ value ≠ .null ∧ test value = true := by
  simp only [holds, Option.any_eq_true, Bool.and_eq_true, Bool.not_eq_true']
  refine exists_congr fun value => and_congr_right fun _ => and_congr_left fun _ => ?_
  cases value <;> simp [isNull]

theorem holds_isTrue_iff : fields.holds key (·.isTrue) = true ↔ fields.get? key = some (.bool true) := by
  have isTrue_iff (value : Json) : value.isTrue = true ↔ value = .bool true := by
    unfold isTrue
    split <;> simp_all
  simp only [holds_iff, isTrue_iff]
  constructor
  · rintro ⟨value, held, -, rfl⟩
    exact held
  · intro held
    exact ⟨_, held, nofun, rfl⟩

end Json.Fields
end MarkdownTree
