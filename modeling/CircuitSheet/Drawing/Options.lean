import CircuitSheet.Binary64
import CircuitSheet.Description.Dialect
import CircuitSheet.Export.Circuit
import CircuitSheet.Floorplan.Strategy
import CircuitSheet.Wire.Path

/-!
# Options

Options say how a description is read and how its sheet is drawn. All of them have defaults, so
an options file names only those that differ.
-/

namespace CircuitSheet

/-- How a sheet is drawn. -/
structure DrawingOptions (K : Type) where
  dialect : Description.Dialect
  layout : Option LayoutStrategy
  routing : RoutingStrategy
  infersWiring : Bool
  page : Page K
  grid : K
  spacing : K
  numbersIdentifiers : Bool
  deriving Repr

namespace DrawingOptions

/-- The options when nothing is said. -/
def default {K : Type} [Scalar K] : DrawingOptions K where
  dialect := .auto
  layout := none
  routing := .manhattan
  infersWiring := false
  page := Page.a4
  grid := Floorplan.defaultGrid
  spacing := Floorplan.defaultSpacing
  numbersIdentifiers := false

/-- The page with nothing on it. -/
def blankPlan {K : Type} [Scalar K] (options : DrawingOptions K) : Floorplan K :=
  Floorplan.blank options.page options.grid options.spacing

/-- The dialects by name. -/
def dialectNames : List (String × Description.Dialect) :=
  [Description.Dialect.auto, .fixed .block, .fixed .line].map fun dialect =>
    (dialect.name, dialect)

/-- The layout strategies by name. -/
def layoutNames : List (String × LayoutStrategy) :=
  LayoutStrategy.all.map fun strategy => (strategy.name, strategy)

/-- The routing strategies by name. -/
def routingNames : List (String × RoutingStrategy) :=
  RoutingStrategy.all.map fun strategy => (strategy.name, strategy)

/-- The names of the options in order. -/
def fieldNames : List String :=
  ["dialect", "layout_strategy", "routing_strategy", "infer_wiring", "bounds", "grid_spacing",
    "component_spacing", "sequential_ids"]

/-- The options that a JSON value is. -/
def ofJson? (value : Json) : Option (DrawingOptions Float) := do
  let preset : DrawingOptions Float := default
  match ← value.partialRecord? fieldNames with
  | [dialect, layout, routing, infersWiring, page, grid, spacing, numbersIdentifiers] =>
      some
        { dialect := ← Json.withDefault preset.dialect (Json.oneOf? dialectNames) dialect
          layout :=
            ← Json.withDefault preset.layout (Json.toOption? (Json.oneOf? layoutNames)) layout
          routing := ← Json.withDefault preset.routing (Json.oneOf? routingNames) routing
          infersWiring := ← Json.withDefault preset.infersWiring Json.toBool? infersWiring
          page := ← Json.withDefault preset.page Page.ofJson? page
          grid := ← Json.withDefault preset.grid Json.toFloat? grid
          spacing := ← Json.withDefault preset.spacing Json.toFloat? spacing
          numbersIdentifiers :=
            ← Json.withDefault preset.numbersIdentifiers Json.toBool? numbersIdentifiers }
  | _ => none

/-- Options as JSON. -/
def toJson {K : Type} (number : K → Json) (options : DrawingOptions K) : Json :=
  .object
    [("dialect", .string options.dialect.name),
      ("layout_strategy",
        Json.ofOption (fun strategy => .string strategy.name) options.layout),
      ("routing_strategy", .string options.routing.name),
      ("infer_wiring", .bool options.infersWiring),
      ("bounds", options.page.toJson number),
      ("grid_spacing", number options.grid),
      ("component_spacing", number options.spacing),
      ("sequential_ids", .bool options.numbersIdentifiers)]

end DrawingOptions
end CircuitSheet
