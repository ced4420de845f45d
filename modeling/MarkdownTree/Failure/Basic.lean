import MarkdownTree.Json.Printer
import MarkdownTree.Violation

/-! Failures: what was broken, and the place where. -/

namespace MarkdownTree

/-- A node and its parent, as text. -/
structure Place where
  node : String
  parent : Option String
  deriving DecidableEq

namespace Place

def of (node : Json) (parent : Option Json) : Place where
  node := node.render
  parent := parent.map Json.render

def text (place : Place) : String :=
  "`" ++ place.node ++ "`" ++
    match place.parent with
    | none => ""
    | some parent => " in `" ++ parent ++ "`"

end Place

structure Failure where
  ruleClass : RuleClass
  message : String
  place : Option Place := none
  deriving DecidableEq

namespace Failure

def ofViolation (violation : Violation) : Failure where
  ruleClass := violation.ruleClass
  message := violation.message

/-- Names the place of a failure that has none. A place once named stays, so the innermost one is kept. -/
def locate (node : Json) (parent : Option Json) (failure : Failure) : Failure :=
  match failure.place with
  | none => { failure with place := some (Place.of node parent) }
  | some _ => failure

def display (failure : Failure) : String :=
  match failure.place with
  | none => failure.message
  | some place => failure.message ++ ": " ++ place.text

@[simp] theorem ruleClass_locate (failure : Failure) (node : Json) (parent : Option Json) :
    (failure.locate node parent).ruleClass = failure.ruleClass := by
  unfold locate
  split <;> rfl

@[simp] theorem message_locate (failure : Failure) (node : Json) (parent : Option Json) :
    (failure.locate node parent).message = failure.message := by
  unfold locate
  split <;> rfl

theorem place_locate (failure : Failure) (node : Json) (parent : Option Json) :
    (failure.locate node parent).place = failure.place.or (some (Place.of node parent)) := by
  unfold locate
  split <;> simp_all

theorem locate_eq (failure : Failure) (node : Json) (parent : Option Json) :
    failure.locate node parent = { failure with place := failure.place.or (some (Place.of node parent)) } := by
  obtain ⟨ruleClass, message, place⟩ := failure
  cases place <;> rfl

end Failure

/-- Accepts if the condition holds. The failure is built only where it is needed. -/
def demand [Monad m] [MonadExcept ε m] (condition : Bool) (failure : m ε) : m Unit :=
  if condition then pure () else failure >>= throw

end MarkdownTree
