import MarkdownTree.Entry

/-! What becomes of a failure that is passed on, located, saved and loaded. -/

namespace MarkdownTree

structure History where
  current : Option Failure := none
  saved : Option Failure := none
  deriving DecidableEq

namespace History

inductive Step
  | create (ruleClass : RuleClass) (message : String)
  | check (entry : Entry) (node : Json) (parent : Option Json)
  | locate (node : Json) (parent : Option Json)
  | save
  | load

/-- A check that succeeds leaves the current failure as it is. -/
def step (history : History) : Step → History
  | .create ruleClass message => { history with current := some ⟨ruleClass, message, none⟩ }
  | .check entry node parent =>
    match (entry.run node parent).result with
    | .ok _ => history
    | .error failure => { history with current := some failure }
  | .locate node parent => { history with current := history.current.map (Failure.locate node parent) }
  | .save => { history with saved := history.current }
  | .load => { history with current := history.saved }

def run (steps : List Step) : History :=
  steps.foldl step {}

end History
end MarkdownTree
