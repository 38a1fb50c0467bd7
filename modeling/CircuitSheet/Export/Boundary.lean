import CircuitSheet.Boundary.Report
import CircuitSheet.Export.Circuit
import CircuitSheet.Json.Writer

/-!
# Boundary reports as JSON

Findings and reports have a form in JSON. Reports are written with one member a line.
-/

namespace CircuitSheet

section

variable {K : Type} (number : K → Json)

/-- A finding as JSON. -/
def BoundaryIssue.toJson (issue : BoundaryIssue K) : Json :=
  .object
    [("severity", .string issue.severity.name), ("subject", .string issue.subject),
      ("message", .string issue.message),
      ("position", Json.ofOption (Point.toJson number) issue.position),
      ("suggested_position", Json.ofOption (Point.toJson number) issue.suggestion),
      ("kind", .string issue.kind.name)]

/-- A report as JSON. -/
def BoundaryReport.toJson (report : BoundaryReport K) : Json :=
  .object
    [("success", .bool report.success),
      ("issues", Json.ofList (BoundaryIssue.toJson number) report.issues),
      ("total_components", Json.ofNat report.totalComponents),
      ("validated_components", Json.ofNat report.validatedComponents),
      ("out_of_bounds_components", Json.ofNat report.outOfBoundsComponents),
      ("corrected_positions",
        .object (report.corrections.entries.map fun (reference, point) =>
          (reference, point.toJson number)))]

end

/-- The text of a report in JSON. -/
def BoundaryReport.jsonText (report : BoundaryReport Float) : String :=
  String.ofList ((report.toJson Json.ofFloat).pretty 0)

end CircuitSheet
