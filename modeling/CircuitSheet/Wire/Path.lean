import CircuitSheet.Wire.Obstacle
import CircuitSheet.Text.LowerCase

/-!
# Paths

A path between two points has one bend. A path that keeps clear of obstacles goes round the
first one in its way again and again, until nothing is in its way or too many detours have
been made.
-/

namespace CircuitSheet

/-- How wires are drawn: straight, with one bend, or with one bend and detours. -/
inductive RoutingStrategy
  | direct
  | manhattan
  | optimized
  deriving DecidableEq, Repr

namespace RoutingStrategy

/-- The name of a strategy. -/
def name : RoutingStrategy → String
  | direct => "direct"
  | manhattan => "manhattan"
  | optimized => "optimized"

/-- All strategies. -/
def all : List RoutingStrategy := [direct, manhattan, optimized]

/-- The strategy with a name in any case, or a message about the name. -/
def ofName (text : String) : Except String RoutingStrategy :=
  let lowered := Text.lowerString text
  match all.find? (·.name == lowered) with
  | some strategy => .ok strategy
  | none => .error ("unknown routing strategy '" ++ lowered ++ "'")

end RoutingStrategy

namespace Path

variable {K : Type} [Scalar K]

/-- A stub points to the left or right when it is within an eighth of a turn of that. -/
def pointsSideways (angle : K) : Bool :=
  let turned := Scalar.modulo angle 360.0
  decide (turned ≤ 45.0) || decide (315.0 ≤ turned) ||
    (decide (135.0 ≤ turned) && decide (turned ≤ 225.0))

/-- Whether a bent path starts along the horizontal axis. Points that are nearly in line get
the long run first; otherwise the stubs decide, and then the greater distance. -/
def startsSideways (start stop : Point K) (startAngle stopAngle : Option K) : Bool :=
  let across := Scalar.magnitude (stop.x - start.x)
  let down := Scalar.magnitude (stop.y - start.y)
  if down ≤ WireSegment.alignTolerance then true
  else if across ≤ WireSegment.alignTolerance then false
  else if startAngle.any pointsSideways then true
  else if stopAngle.any pointsSideways then false
  else decide (down ≤ across)

/-- The path with one bend, or without one between points in line. -/
def bent (start stop : Point K) (startAngle stopAngle : Option K) : List (WireSegment K) :=
  let levelX := decide (Scalar.magnitude (stop.x - start.x) ≤ WireSegment.joinTolerance)
  let levelY := decide (Scalar.magnitude (stop.y - start.y) ≤ WireSegment.joinTolerance)
  if levelX && levelY then []
  else if levelY then [⟨start, stop, .horizontal⟩]
  else if levelX then [⟨start, stop, .vertical⟩]
  else if startsSideways start stop startAngle stopAngle then
    let corner : Point K := ⟨stop.x, start.y⟩
    [⟨start, corner, .horizontal⟩, ⟨corner, stop, .vertical⟩]
  else
    let corner : Point K := ⟨start.x, stop.y⟩
    [⟨start, corner, .vertical⟩, ⟨corner, stop, .horizontal⟩]

/-- The straight path; there is none between points that are joined. -/
def straight (start stop : Point K) : List (WireSegment K) :=
  if start.near WireSegment.joinTolerance stop then [] else [WireSegment.between start stop]

/-- The distance that detours keep from an obstacle. -/
def detourOffset : K := 2.54

/-- Three segments that leave a segment's line and come back to it, at a given height for a
horizontal segment and a given column for a vertical one. -/
def bypass (segment : WireSegment K) (level : K) : List (WireSegment K) :=
  match segment.orientation with
  | .horizontal =>
      let leave : Point K := ⟨segment.start.x, level⟩
      let meet : Point K := ⟨segment.stop.x, level⟩
      [⟨segment.start, leave, .vertical⟩, ⟨leave, meet, .horizontal⟩,
        ⟨meet, segment.stop, .vertical⟩]
  | .vertical =>
      let leave : Point K := ⟨level, segment.start.y⟩
      let meet : Point K := ⟨level, segment.stop.y⟩
      [⟨segment.start, leave, .horizontal⟩, ⟨leave, meet, .vertical⟩,
        ⟨meet, segment.stop, .horizontal⟩]

/-- The middle one of the segments that go round. -/
def bypassMiddle (segment : WireSegment K) (level : K) : WireSegment K :=
  match segment.orientation with
  | .horizontal => ⟨⟨segment.start.x, level⟩, ⟨segment.stop.x, level⟩, .horizontal⟩
  | .vertical => ⟨⟨level, segment.start.y⟩, ⟨level, segment.stop.y⟩, .vertical⟩

/-- The levels on either side of an obstacle, the nearer one first. -/
def bypassLevels (segment : WireSegment K) (obstacle : Obstacle K) : K × K :=
  let (level, below, above) :=
    match segment.orientation with
    | .horizontal =>
        (segment.start.y, obstacle.minY - detourOffset, obstacle.maxY + detourOffset)
    | .vertical =>
        (segment.start.x, obstacle.minX - detourOffset, obstacle.maxX + detourOffset)
  if Scalar.magnitude (above - level) < Scalar.magnitude (level - below) then (above, below)
  else (below, above)

/-- The detour around an obstacle: on the nearer side, unless only the other side is clear. -/
def detour (obstacles : List (Obstacle K)) (ignored : List String) (segment : WireSegment K)
    (obstacle : Obstacle K) : List (WireSegment K) :=
  let (nearer, farther) := bypassLevels segment obstacle
  let isClear (level : K) : Bool :=
    (Obstacle.firstBlocking? obstacles ignored (bypassMiddle segment level)).isNone
  bypass segment (if isClear nearer then nearer else if isClear farther then farther else nearer)

/-- Replace the first blocked segment by a detour; there is no step when nothing is blocked. -/
def detourFirst? (obstacles : List (Obstacle K)) (ignored : List String) :
    List (WireSegment K) → Option (List (WireSegment K))
  | [] => none
  | segment :: rest =>
      match Obstacle.firstBlocking? obstacles ignored segment with
      | some obstacle => some (detour obstacles ignored segment obstacle ++ rest)
      | none => (detourFirst? obstacles ignored rest).map (segment :: ·)

/-- The most detours that a path may take. -/
def maxDetours : Nat := 16

/-- Take detours until the path is clear; short segments are dropped after each. -/
def avoid? (obstacles : List (Obstacle K)) (ignored : List String) :
    Nat → List (WireSegment K) → Option (List (WireSegment K))
  | budget, path =>
      match detourFirst? obstacles ignored path, budget with
      | none, _ => some path
      | some _, 0 => none
      | some next, more + 1 => avoid? obstacles ignored more (next.filter (·.isLong))

/-- The path between two points. Where detours do not help, the error is a straight path. -/
def find (obstacles : List (Obstacle K)) (ignored : List String) (strategy : RoutingStrategy)
    (start stop : Point K) (startAngle stopAngle : Option K) :
    Except (List (WireSegment K)) (List (WireSegment K)) :=
  match strategy with
  | .direct => .ok (WireSegment.merge (straight start stop))
  | .manhattan => .ok (WireSegment.merge (bent start stop startAngle stopAngle))
  | .optimized =>
      match avoid? obstacles ignored maxDetours (bent start stop startAngle stopAngle) with
      | some path => .ok (WireSegment.merge path)
      | none => .error [WireSegment.between start stop]

end Path
end CircuitSheet
