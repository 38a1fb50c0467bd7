/-!
# Severities

Findings about a sheet are remarks, warnings or errors.
-/

namespace CircuitSheet

/-- How serious a finding is. -/
inductive Severity
  | info
  | warning
  | error
  deriving DecidableEq, Repr

namespace Severity

/-- The name of a severity in reports. -/
def name : Severity → String
  | info => "info"
  | warning => "warning"
  | error => "error"

/-- The name of a severity in messages. -/
def label : Severity → String
  | info => "Info"
  | warning => "Warning"
  | error => "Error"

end Severity
end CircuitSheet
