import Ignis.ClosedChain
import Ignis.IncidentEngine

-- The zone a detection's box lies in (`qnx/common/src/geometry.cpp`).
namespace Ignis.Geometry
open IncidentEngine

structure Point (R : Type) where
  x : R
  y : R

structure Zone (R : Type) where
  id : String
  name : String
  points : List (Point R)

structure ZoneMatch (R : Type) where
  zoneName : String
  overlapRatio : R

inductive Edge
  | left
  | right
  | top
  | bottom

section Code
variable {R : Type} [Double R]

def absolute (value : R) : R := if value < 0 then 0 - value else value

def polygonArea (polygon : List (Point R)) : R :=
  if polygon.length < 3 then 0
  else
    let twiceArea := (polygon.zip (polygon.rotate 1)).foldl
      (fun twiceArea (current,next) => twiceArea + (current.x * next.y - next.x * current.y)) 0
    absolute twiceArea / 2.0

def validPolygon (polygon : List (Point R)) : Bool :=
  if polygon.length < 3 ∨ polygonArea polygon < 0.0001 then false
  else polygon.all fun point => !(!Double.isFinite point.x || !Double.isFinite point.y ||
    decide (point.x < 0) || decide (point.x > 1) || decide (point.y < 0) || decide (point.y > 1))

variable (box : Box R)

def inside (edge : Edge) (point : Point R) : Prop :=
  match edge with
  | .left => point.x ≥ box.xMin
  | .right => point.x ≤ box.xMax
  | .top => point.y ≥ box.yMin
  | .bottom => point.y ≤ box.yMax

instance insideDecidable (edge : Edge) : DecidablePred (inside box edge) := fun point =>
  match edge with
  | .left => decidableLE_double box.xMin point.x
  | .right => decidableLE_double point.x box.xMax
  | .top => decidableLE_double box.yMin point.y
  | .bottom => decidableLE_double point.y box.yMax

-- Along one axis: where an edge meets the line, as a part of its length.
def part (line a d : R) : R := if absolute d < 1e-12 then 0 else (line - a) / d

def intersection (edge : Edge) (a b : Point R) : Point R :=
  let dx := b.x - a.x
  let dy := b.y - a.y
  match edge with
  | .left => ⟨box.xMin,a.y + part box.xMin a.x dx * dy⟩
  | .right => ⟨box.xMax,a.y + part box.xMax a.x dx * dy⟩
  | .top => ⟨a.x + part box.yMin a.y dy * dx,box.yMin⟩
  | .bottom => ⟨a.x + part box.yMax a.y dy * dx,box.yMax⟩

def clip (input : List (Point R)) (edge : Edge) : List (Point R) :=
  ClosedChain.clip (inside box edge) (intersection box edge) input

-- The loop over the edges, which returns early.
def clippedArea : List Edge → List (Point R) → R
  | [],clipped => polygonArea clipped
  | edge :: edges,clipped => if (clip box clipped edge).isEmpty then 0 else clippedArea edges (clip box clipped edge)

def boxPolygonIntersectionArea (polygon : List (Point R)) : R :=
  if !box.valid || !validPolygon polygon then 0 else clippedArea box [.left,.right,.top,.bottom] polygon

def unconfigured : ZoneMatch R := ⟨"Unconfigured area",0⟩

def better (best : ZoneMatch R) (zone : Zone R) : ZoneMatch R :=
  if validPolygon zone.points then
    let ratio := boxPolygonIntersectionArea box zone.points / box.area
    if ratio > best.overlapRatio then ⟨zone.name,ratio⟩ else best
  else best

def associateZone (zones : List (Zone R)) (minimumOverlap : R) : ZoneMatch R :=
  if !box.valid || decide (box.area ≤ 0) then unconfigured
  else
    let best := zones.foldl (better box) unconfigured
    if best.overlapRatio < minimumOverlap then unconfigured else best

end Code

end Ignis.Geometry
