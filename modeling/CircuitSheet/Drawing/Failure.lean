import CircuitSheet.Description.Section
import CircuitSheet.SExpr.Writer
import CircuitSheet.Sheet.Content

/-!
# Failures

Why no sheet comes about, or none is read. A failure that has a cause is told together with the
causes of its cause.
-/

namespace CircuitSheet

/-- Why a job is not done. -/
inductive Failure (K : Type)
  | description (cause : Description.Error)
  | writing (cause : SExpr.Refusal K)
  | reading (cause : Sheet.ReadError)
  | unreadableSheet (reason : String)
  | options
  | optionsFile (reason : String)

namespace Failure

variable {K : Type} [ScalarText K]

/-- The messages of a failure and its causes, the failure itself first. -/
def chain : Failure K → List String
  | .description cause => ["DSL error: " ++ cause.message, cause.message]
  | .writing cause => ["Serialization error: " ++ cause.message, cause.message]
  | .reading (.malformed cause) =>
      let inner := Sheet.ReadError.message (.malformed cause)
      ["Schematic read error: " ++ inner, inner, cause.message]
  | .reading cause => ["Schematic read error: " ++ cause.message, cause.message]
  | .unreadableSheet reason =>
      let inner := "IO error: " ++ reason
      ["Schematic read error: " ++ inner, inner, reason]
  | .options => ["Invalid options"]
  | .optionsFile reason => ["IO error: " ++ reason, reason]

/-- The message of a failure. -/
def message (failure : Failure K) : String :=
  failure.chain.head?.getD ""

end Failure
end CircuitSheet
