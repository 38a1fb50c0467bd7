import CircuitSheet.Geometry.Point
import CircuitSheet.Severity
import CircuitSheet.Table

/-!
# Boundary reports

A report lists what was found about each position on a page, and the positions that would be
better. It can be shown as plain text.
-/

namespace CircuitSheet

/-- What is found about a position. -/
inductive BoundaryKind
  | offPage
  | inMargin
  | valid
  | missingPosition
  | wireEndpoint
  deriving DecidableEq, Repr

/-- The name of a kind of finding. -/
def BoundaryKind.name : BoundaryKind → String
  | offPage => "off_page"
  | inMargin => "in_margin"
  | valid => "valid"
  | missingPosition => "missing_position"
  | wireEndpoint => "wire_endpoint"

/-- A finding about the position of an entity or the end of a wire. -/
structure BoundaryIssue (K : Type) where
  severity : Severity
  subject : String
  message : String
  position : Option (Point K)
  suggestion : Option (Point K)
  kind : BoundaryKind
  deriving Repr

/-- The entity lies off the page or reaches into the margin. -/
def BoundaryIssue.isOutOfBounds {K : Type} (issue : BoundaryIssue K) : Bool :=
  issue.kind == .offPage || issue.kind == .inMargin

/-- The findings about the entities of a sheet, one for each. -/
structure BoundaryReport (K : Type) where
  success : Bool
  issues : List (BoundaryIssue K)
  totalComponents : Nat
  validatedComponents : Nat
  outOfBoundsComponents : Nat
  corrections : Table (Point K)

namespace BoundaryReport

variable {K : Type}

/-- The findings of one severity. -/
def withSeverity (report : BoundaryReport K) (severity : Severity) : List (BoundaryIssue K) :=
  report.issues.filter (·.severity == severity)

/-- Some finding is an error. -/
def hasErrors (report : BoundaryReport K) : Bool :=
  report.issues.any (·.severity == .error)

section

variable [ScalarText K]

/-- The lines about one finding. -/
def issueText (issue : BoundaryIssue K) : String :=
  "  - " ++ issue.message ++ "\n" ++
    match issue.suggestion with
    | some point => "    Suggested: " ++ point.describe ++ "\n"
    | none => ""

/-- The findings of one severity under a title; nothing if there are none. -/
def severityText (report : BoundaryReport K) (severity : Severity) (title : String) : String :=
  let found := report.withSeverity severity
  if found.isEmpty then ""
  else "\n" ++ title ++ " (" ++ toString found.length ++ "):\n" ++ String.join (found.map issueText)

/-- The better positions by reference; nothing if there are none. -/
def correctionsText (report : BoundaryReport K) : String :=
  if report.corrections.entries.isEmpty then ""
  else
    "\nCORRECTED POSITIONS:\n" ++
      String.join (report.corrections.entries.map fun (reference, point) =>
        "  " ++ reference ++ ": " ++ point.describe ++ "\n")

/-- The report as plain text. -/
def text (report : BoundaryReport K) : String :=
  "=== BOUNDARY VALIDATION REPORT ===\n" ++
    "Status: " ++ (if report.success then "PASS" else "FAIL") ++ "\n" ++
    "Total components: " ++ toString report.totalComponents ++ "\n" ++
    "Validated components: " ++ toString report.validatedComponents ++ "\n" ++
    "Out of bounds: " ++ toString report.outOfBoundsComponents ++ "\n" ++
    report.severityText .error "ERRORS" ++ report.severityText .warning "WARNINGS" ++
    report.severityText .info "INFO" ++ report.correctionsText

end
end BoundaryReport
end CircuitSheet
