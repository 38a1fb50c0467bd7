import CircuitSheet.Boundary.Report
import CircuitSheet.Circuit.PowerKeys
import CircuitSheet.Floorplan.Search
import CircuitSheet.Wire.Router

/-!
# Reviewing positions

The positions of entities are reviewed against a floorplan: off the page is an error, reaching
into the margin a warning. Entities that are out of bounds get a better position, which keeps
clear of all entities in bounds and of the better positions given before.
-/

namespace CircuitSheet

/-- An entity with the position that is described for it, if there is one. -/
structure Site (K : Type) where
  reference : String
  occupant : Occupant
  position : Option (Point K)
  deriving Repr

/-- The sites of the entities of a circuit, power symbols under their keys. -/
def Circuit.sites {K : Type} (circuit : Circuit K) : List (Site K) :=
  circuit.components.map (fun component =>
      ⟨component.reference, .component component.kind, some component.position⟩) ++
    circuit.keyedPowers.map fun (power, key) => ⟨key, .power, some power.position⟩

namespace Floorplan

variable {K : Type} [ScalarText K]

/-- A length as it is shown in messages. -/
def lengthText (length : K) : String :=
  String.ofList (ScalarText.shortest length)

/-- The finding about a position off the page. -/
def offPageIssue (plan : Floorplan K) (reference : String) (position : Point K) :
    BoundaryIssue K where
  severity := .error
  subject := reference
  message :=
    "Component " ++ reference ++ " at " ++ position.describe ++ " is outside schematic bounds (" ++
      lengthText plan.page.width ++ "x" ++ lengthText plan.page.height ++ "mm)"
  position := some position
  suggestion := none
  kind := .offPage

/-- The finding about a body that reaches into the margin. -/
def inMarginIssue (plan : Floorplan K) (reference : String) (position : Point K) :
    BoundaryIssue K where
  severity := .warning
  subject := reference
  message :=
    "Component " ++ reference ++ " at " ++ position.describe ++
      " is outside the usable area (margin " ++ lengthText plan.page.margin ++ "mm)"
  position := some position
  suggestion := none
  kind := .inMargin

/-- The finding about a position that is in order. -/
def validIssue (reference : String) (position : Point K) : BoundaryIssue K where
  severity := .info
  subject := reference
  message := "Component " ++ reference ++ " position is valid"
  position := some position
  suggestion := none
  kind := .valid

/-- The finding about an entity without a finite position. -/
def missingIssue (reference : String) : BoundaryIssue K where
  severity := .info
  subject := reference
  message := "Component " ++ reference ++ " has no position specified"
  position := none
  suggestion := none
  kind := .missingPosition

/-- The finding about a position of an occupant, without a suggestion. -/
def classify (plan : Floorplan K) (reference : String) (occupant : Occupant)
    (position : Point K) : BoundaryIssue K :=
  if !plan.page.holdsPoint position then plan.offPageIssue reference position
  else if !plan.admits occupant.bodySize position then plan.inMarginIssue reference position
  else validIssue reference position

/-- The finding about one position. -/
def reviewPosition (plan : Floorplan K) (reference : String) (occupant : Occupant)
    (position : Point K) : BoundaryIssue K :=
  let issue := plan.classify reference occupant position
  if issue.isOutOfBounds then
    { issue with suggestion := some (plan.find reference occupant (some position)).position }
  else issue

/-- The finding about a site, without a suggestion. -/
def classifySite (plan : Floorplan K) (site : Site K) : BoundaryIssue K :=
  match site.position.filter Point.isFinite with
  | some position => plan.classify site.reference site.occupant position
  | none => missingIssue site.reference

/-- Record the bodies of sites that are in order. -/
def reserveValid (plan : Floorplan K) (classified : List (Site K × BoundaryIssue K)) :
    Floorplan K :=
  classified.foldl
    (fun plan (site, issue) =>
      match issue.kind, issue.position with
      | .valid, some position => plan.reserve site.reference site.occupant position
      | _, _ => plan)
    plan

/-- Give sites out of bounds a spot on the floorplan, one after the other. -/
def suggest (plan : Floorplan K) :
    List (Site K × BoundaryIssue K) → List (BoundaryIssue K × Option (Spot K))
  | [] => []
  | (site, issue) :: rest =>
      if issue.isOutOfBounds then
        let (spot, next) := plan.place site.reference site.occupant issue.position
        ({ issue with suggestion := some spot.position }, some spot) :: next.suggest rest
      else (issue, none) :: plan.suggest rest

/-- The findings about some sites, each with the spot that is suggested. -/
def findings (plan : Floorplan K) (sites : List (Site K)) :
    List (BoundaryIssue K × Option (Spot K)) :=
  let classified := sites.map fun site => (site, plan.classifySite site)
  (plan.reserveValid classified).suggest classified

/-- The better positions by reference; the last one for a reference counts. -/
def correctionsOf (issues : List (BoundaryIssue K)) : Table (Point K) :=
  issues.foldl
    (fun corrections issue =>
      match issue.suggestion with
      | some position => corrections.insert issue.subject position
      | none => corrections)
    Table.empty

/-- The report on some sites. -/
def review (plan : Floorplan K) (sites : List (Site K)) : BoundaryReport K :=
  let issues := (plan.findings sites).map (·.1)
  let outOfBounds := issues.countP (·.isOutOfBounds)
  { success := outOfBounds == 0
    issues := issues
    totalComponents := sites.length
    validatedComponents := issues.countP (·.kind == .valid)
    outOfBoundsComponents := outOfBounds
    corrections := correctionsOf issues }

/-- The sites with the better positions of a report, and the report. -/
def correctSites (plan : Floorplan K) (sites : List (Site K)) :
    List (Site K) × BoundaryReport K :=
  let report := plan.review sites
  (sites.map fun site =>
      { site with position := (report.corrections.find? site.reference).or site.position },
    report)

/-- The circuit with the better positions of a report, and the report. -/
def correctCircuit (plan : Floorplan K) (circuit : Circuit K) : Circuit K × BoundaryReport K :=
  let report := plan.review circuit.sites
  ({ circuit with
      components := circuit.components.map fun component =>
        { component with
          position := (report.corrections.find? component.reference).getD component.position }
      powers := circuit.keyedPowers.map fun (power, key) =>
        { power with position := (report.corrections.find? key).getD power.position } },
    report)

/-- The finding about an end of a wire, if it is off the page. -/
def reviewEndpoint (plan : Floorplan K) (subject : String) (position : Point K) :
    Option (BoundaryIssue K) :=
  if plan.page.holdsPoint position then none
  else some
    { severity := .error
      subject := subject
      message := "Wire endpoint " ++ position.describe ++ " is outside schematic bounds"
      position := some position
      suggestion := none
      kind := .wireEndpoint }

/-- The findings about the ends of a segment. -/
def reviewSegment (plan : Floorplan K) (segment : WireSegment K) : List (BoundaryIssue K) :=
  (plan.reviewEndpoint "WIRE_START" segment.start).toList ++
    (plan.reviewEndpoint "WIRE_END" segment.stop).toList

/-- The findings about all segments of some routes. -/
def reviewRoutes (plan : Floorplan K) (routes : List (WireRoute K)) : List (BoundaryIssue K) :=
  routes.flatMap fun route => route.segments.flatMap plan.reviewSegment

end Floorplan
end CircuitSheet
