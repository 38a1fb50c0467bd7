import CircuitSheet.Export.Wiring

/-!
# Diagnostics

What goes wrong while a sheet is drawn, without keeping it from being drawn.
-/

namespace CircuitSheet

/-- Something that went wrong. -/
inductive Diagnostic (K : Type)
  | boundaryViolation (reference : String) (severity : Severity) (described placed : Point K)
  | unknownPin (connection reason : String)
  | incompatiblePins (source target : String)
  | routingFailure (net : String) (start stop : Point K) (attempts : Nat)
  | wireOutOfBounds (subject : String) (position : Option (Point K))
  | wiringWarning (reference message : String)
  deriving Repr

namespace Diagnostic

/-- The message about what went wrong. -/
def message {K : Type} [ScalarText K] : Diagnostic K → String
  | .boundaryViolation reference severity described placed =>
      reference ++ " at " ++ described.describe ++ " was out of bounds (" ++ severity.label ++
        "), placed at " ++ placed.describe
  | .unknownPin connection reason => "Dropped connection " ++ connection ++ ": " ++ reason
  | .incompatiblePins source target =>
      "Dropped connection " ++ source ++ " -> " ++ target ++ ": incompatible pins"
  | .routingFailure net start stop attempts =>
      "Net " ++ net ++ " routed directly from " ++ start.describe ++ " to " ++ stop.describe ++
        " after " ++ toString attempts ++ " detour attempts"
  | .wireOutOfBounds subject (some position) =>
      subject ++ " at " ++ position.describe ++ " is off the page"
  | .wireOutOfBounds subject none => subject ++ " is off the page"
  | .wiringWarning _ message => message

/-- What went wrong as JSON. -/
def toJson {K : Type} (number : K → Json) : Diagnostic K → Json
  | .boundaryViolation reference severity described placed =>
      .object
        [("kind", .string "boundary_violation"), ("reference", .string reference),
          ("severity", .string severity.name), ("described", described.toJson number),
          ("placed", placed.toJson number)]
  | .unknownPin connection reason =>
      .object
        [("kind", .string "unknown_pin_reference"), ("connection", .string connection),
          ("reason", .string reason)]
  | .incompatiblePins source target =>
      .object
        [("kind", .string "incompatible_pins"), ("from", .string source), ("to", .string target)]
  | .routingFailure net start stop attempts =>
      .object
        [("kind", .string "routing_failure"), ("net", .string net),
          ("start", start.toJson number), ("end", stop.toJson number),
          ("attempts", Json.ofNat attempts)]
  | .wireOutOfBounds subject position =>
      .object
        [("kind", .string "wire_out_of_bounds"), ("subject", .string subject),
          ("position", Json.ofOption (Point.toJson number) position)]
  | .wiringWarning reference message =>
      .object
        [("kind", .string "connectivity_warning"), ("reference", .string reference),
          ("message", .string message)]

end Diagnostic
end CircuitSheet
