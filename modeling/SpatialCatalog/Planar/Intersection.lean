import SpatialCatalog.Planar.Orientation

/-!
# Intersection

Two shapes intersect when they have a point in common; touching counts. The turns of points are
those of `orientation`, and coordinates are compared exactly.

Both shapes are taken apart into points, segments and polygons, which are then tested in pairs. On
the way, shapes whose boxes are apart are passed over. As the box of a polygon is that of its
exterior, this matters for holes that lie outside it.
-/

namespace SpatialCatalog.Planar

/-! ### Points and segments -/

/-- Whether a number lies between two others, in either order. -/
def between (n a b : Int) : Bool := decide (min a b ≤ n) && decide (n ≤ max a b)

/-- A segment. Its ends may be one point. -/
structure Segment where
  start : Point
  stop : Point
deriving DecidableEq

namespace Segment

/-- Whether a point lies in the box of a segment. -/
def inBox (s : Segment) (p : Point) : Bool :=
  between p.x.units s.start.x.units s.stop.x.units &&
    between p.y.units s.start.y.units s.stop.y.units

/-- Whether a point lies on a segment. -/
def contains (s : Segment) (p : Point) : Bool :=
  orientation s.start s.stop p == 0 && s.inBox p

/-- Whether two segments have a point in common. Of segments on one line that do, one has an end in
the box of the other, and looking at three of the four ends finds it. -/
def meets (s t : Segment) : Bool :=
  if s.start.same s.stop then t.contains s.start
  else
    let a := orientation s.start s.stop t.start
    let b := orientation s.start s.stop t.stop
    if a ≠ b then
      orientation t.start t.stop s.start != orientation t.start t.stop s.stop
    else a == 0 && (s.inBox t.start || s.inBox t.stop || t.inBox s.stop)

def box (s : Segment) : Box := (Box.ofPoint s.start).union (.ofPoint s.stop)

end Segment

/-- The segments of a line. -/
def segments (ps : List Point) : List Segment := (ps.zip ps.tail).map fun (a, b) => ⟨a, b⟩

/-! ### Polygons -/

/-- Where a point is with respect to a ring. -/
inductive Place where
  | outside
  | boundary
  | inside
deriving DecidableEq

/-- What a segment adds to the number of turns of a ring around a point: one for a crossing upwards
with the point on the left, minus one for a crossing downwards with the point on the right. -/
def turn (p : Point) (s : Segment) : Int :=
  let y := p.y.units
  let side := orientation s.start s.stop p
  if s.start.y.units ≤ y ∧ y < s.stop.y.units ∧ 0 < side then 1
  else if s.stop.y.units ≤ y ∧ y < s.start.y.units ∧ side < 0 then -1
  else 0

/-- How often a ring turns around a point, to the left if positive. -/
def turns (ring : List Point) (p : Point) : Int :=
  (segments ring).foldr (fun s n => turn p s + n) 0

/-- Whether a segment of a ring has a point on it. A segment that goes down is not asked about
points as high as its start: of its own points only the start is that high, and the segment before
it ends there. -/
def bounds (p : Point) (s : Segment) : Bool :=
  (decide (p.y.units ≤ s.stop.y.units) || decide (p.y.units < s.start.y.units)) && s.contains p

/-- The place of a point: on a segment of the ring, or inside where the ring turns around it. -/
def place (ring : List Point) (p : Point) : Place :=
  match ring with
  | [] => .outside
  | [q] => if p.same q then .boundary else .outside
  | _ =>
    if (segments ring).any (bounds p) then .boundary
    else if turns ring p = 0 then .outside
    else .inside

/-- Whether a point inside the exterior is not lost to a hole. The first hole that has the point
inside or on its boundary decides. -/
def outsideHoles (p : Point) : List (List Point) → Bool
  | [] => true
  | hole :: holes =>
    match place hole p with
    | .outside => outsideHoles p holes
    | .boundary => true
    | .inside => false

/-- Whether some segment of a line passes a test, unless the box of the line is apart from that of
what it is tested against. -/
def lineMeets (ps : List Point) (box? : Option Box) (test : Segment → Bool) : Bool :=
  !Box.apart? (Box.ofPoints? ps) box? && (segments ps).any test

namespace Polygon

def box? (p : Polygon) : Option Box := Box.ofPoints? p.exterior

/-- Whether a point is in a polygon. -/
def contains (p : Polygon) (q : Point) : Bool :=
  match place p.exterior q with
  | .outside => false
  | .boundary => true
  | .inside => outsideHoles q p.holes

/-- Whether a segment meets a polygon: one of its rings, or with an end in it. -/
def meetsSegment (p : Polygon) (s : Segment) : Bool :=
  (p.exterior :: p.holes).any (lineMeets · (some s.box) (·.meets s)) || p.contains s.start ||
    p.contains s.stop

/-- Whether a line meets a polygon. -/
def meetsLine (p : Polygon) (ps : List Point) : Bool := lineMeets ps p.box? p.meetsSegment

/-- Whether two polygons meet: a ring of the second meets the first, or the exterior of the first
meets the second. -/
def meets (p q : Polygon) : Bool :=
  !Box.apart? p.box? q.box? && ((q.exterior :: q.holes).any p.meetsLine || q.meetsLine p.exterior)

end Polygon

/-! ### Parts -/

/-- What a shape is taken apart into. -/
inductive Part where
  | point (p : Point)
  | segment (s : Segment)
  | polygon (p : Polygon)

namespace Part

def box? : Part → Option Box
  | point p => some (.ofPoint p)
  | segment s => some s.box
  | polygon p => p.box?

/-- Whether two parts meet. -/
def meets : Part → Part → Bool
  | point p, point q => p.same q
  | point p, segment s => s.contains p
  | point p, polygon q => q.contains p
  | segment s, point p => s.contains p
  | segment s, segment t => s.meets t
  | segment s, polygon q => q.meetsSegment s
  | polygon p, point q => p.contains q
  | polygon p, segment s => p.meetsSegment s
  | polygon p, polygon q => p.meets q

end Part

namespace Shape

mutual

/-- Whether some part of a shape passes a test. Lines and multiples whose box is apart from that of
what they are tested against are passed over; points and polygons are always tested. -/
def somePart : Shape → Option Box → (Part → Bool) → Bool
  | point p, _, test => test (.point p)
  | multiPoint ps, _, test => ps.any fun p => test (.point p)
  | lineString ps, box, test => lineMeets ps box fun s => test (.segment s)
  | polygon p, _, test => test (.polygon p)
  | multiLineString lines, box, test =>
    !Box.apart? (multiLineString lines).box? box &&
      lines.any fun ps => lineMeets ps box fun s => test (.segment s)
  | multiPolygon ps, box, test =>
    !Box.apart? (multiPolygon ps).box? box && ps.any fun p => test (.polygon p)
  | collection members, box, test =>
    !Box.apart? (boxOfAll? members) box && someMember members box test

/-- Whether some part of some shape passes a test. -/
def someMember : List Shape → Option Box → (Part → Bool) → Bool
  | [], _, _ => false
  | s :: ss, box, test => somePart s box test || someMember ss box test

end

/-- Whether a shape intersects another. The first is taken apart first. -/
def intersects (s other : Shape) : Bool :=
  s.somePart other.box? fun part => other.somePart part.box? fun q => q.meets part

end Shape

end SpatialCatalog.Planar
