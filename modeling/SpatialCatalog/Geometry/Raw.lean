import SpatialCatalog.Decoding

/-!
# Undecoded geometries

A request carries a geometry as a type with coordinates that are still any JSON value, because
their depth depends on the type.

* `RawGeometry.decode` reads one from a value and `RawGeometry.toJson` writes it back.
* `RawGeometry.ofSource?` reads one from a text. A text may not repeat a key that counts, and of
  the value of any other key only the grammar counts.
-/

namespace SpatialCatalog

/-- A type, and the parts of a geometry that were given, undecoded. -/
structure RawGeometry where
  type : String
  coordinates : Option Json := none
  geometries : Option (List RawGeometry) := none

namespace RawGeometry

def shape : RecordShape := ⟨"RawGeometry", 3⟩

/-! ### From values -/

/-- The fields found so far. -/
structure Draft where
  type : Option String := none
  coordinates : Option Json := none
  geometries : Option (List RawGeometry) := none

/-- The geometry of a draft, which must have a type. -/
def Draft.finish (d : Draft) : Decoded RawGeometry :=
  (required d.type "type").map fun type => ⟨type, d.coordinates, d.geometries⟩

/-- Coordinates are any value but null, which stands for none. -/
def coordinates? : Json → Option Json
  | .null => none
  | j => some j

mutual

/-- Decode a geometry from an object, or from an array of its fields. -/
def decode : Json → Decoded RawGeometry
  | .obj ms => (decodeMembers ms {}).bind Draft.finish
  | .arr [] => shape.tooFew 0
  | .arr [t] => t.string.map fun type => ⟨type, none, none⟩
  | .arr [t, c] => t.string.map fun type => ⟨type, coordinates? c, none⟩
  | .arr (t :: c :: gs :: rest) =>
    t.string.bind fun type => (decodeGeometries gs).bind fun geometries =>
      if rest.isEmpty then .ok ⟨type, coordinates? c, geometries⟩
      else .error (.tooManyElements (rest.length + 3))
  | j => j.refuse (.record shape.name)

/-- Read members into a draft. -/
def decodeMembers : List (String × Json) → Draft → Decoded Draft
  | [], d => .ok d
  | (key, value) :: ms, d =>
    match key with
    | "type" => value.string.bind fun type => decodeMembers ms { d with type := some type }
    | "coordinates" => decodeMembers ms { d with coordinates := coordinates? value }
    | "geometries" =>
      (decodeGeometries value).bind fun geometries => decodeMembers ms { d with geometries }
    | _ => decodeMembers ms d

/-- Decode the members of a collection, if there are any. -/
def decodeGeometries : Json → Decoded (Option (List RawGeometry))
  | .null => .ok none
  | .arr xs => (decodeList xs).map some
  | j => j.refuse .sequence

/-- Decode item by item. -/
def decodeList : List Json → Decoded (List RawGeometry)
  | [] => .ok []
  | x :: xs => (decode x).bind fun g => (decodeList xs).map (g :: ·)

end

mutual

/-- The value of a geometry, without the parts that it does not have. -/
def toJson : RawGeometry → Json
  | ⟨type, coordinates, geometries⟩ =>
    .obj (("type", .str type) ::
      ((coordinates.toList.map fun c => ("coordinates", c)) ++ geometriesMember geometries))

/-- The member of an object for the members of a collection. -/
def geometriesMember : Option (List RawGeometry) → List (String × Json)
  | none => []
  | some gs => [("geometries", .arr (listToJson gs))]

/-- The values of a list of geometries. -/
def listToJson : List RawGeometry → List Json
  | [] => []
  | g :: gs => g.toJson :: listToJson gs

end

/-! ### From texts -/

/-- The fields of a text found so far, null ones included. -/
structure TextDraft where
  type : Option String := none
  coordinates : Option (Option Json) := none
  geometries : Option (Option (List RawGeometry)) := none

/-- The geometry of a draft, if it has a type. -/
def TextDraft.finish? (d : TextDraft) : Option RawGeometry :=
  d.type.map fun type => ⟨type, d.coordinates.join, d.geometries.join⟩

/-- A written string that is the type. -/
def sourceType? : Source → Option String
  | .str pieces => Source.text? pieces
  | _ => none

/-- Written coordinates, where null stands for none. -/
def sourceCoordinates? (depth : Nat) (s : Source) : Option (Option Json) :=
  (s.value? depth).map coordinates?

mutual

/-- Read a geometry from a text with at most `depth` containers inside one another. -/
def ofSource? : Nat → Source → Option RawGeometry
  | depth + 1, .obj ms => (sourceMembers? depth ms {}).bind TextDraft.finish?
  | _ + 1, .arr [t] => (sourceType? t).map fun type => ⟨type, none, none⟩
  | depth + 1, .arr [t, c] =>
    (sourceType? t).bind fun type => (sourceCoordinates? depth c).map fun coordinates =>
      ⟨type, coordinates, none⟩
  | depth + 1, .arr [t, c, gs] =>
    (sourceType? t).bind fun type => (sourceCoordinates? depth c).bind fun coordinates =>
      (sourceGeometries? depth gs).map fun geometries => ⟨type, coordinates, geometries⟩
  | _, _ => none

/-- Read members into a draft. Each key that counts may be there once. -/
def sourceMembers? : Nat → List (List Piece × Source) → TextDraft → Option TextDraft
  | _, [], d => some d
  | depth, (key, s) :: ms, d =>
    match Source.text? key with
    | none => none
    | some "type" =>
      if d.type.isSome then none
      else (sourceType? s).bind fun type => sourceMembers? depth ms { d with type := some type }
    | some "coordinates" =>
      if d.coordinates.isSome then none
      else (sourceCoordinates? depth s).bind fun coordinates =>
        sourceMembers? depth ms { d with coordinates := some coordinates }
    | some "geometries" =>
      if d.geometries.isSome then none
      else (sourceGeometries? depth s).bind fun geometries =>
        sourceMembers? depth ms { d with geometries := some geometries }
    | some _ => sourceMembers? depth ms d

/-- Read the members of a collection, if there are any. -/
def sourceGeometries? : Nat → Source → Option (Option (List RawGeometry))
  | _, .null => some none
  | depth + 1, .arr xs => (sourceList? depth xs).map some
  | _, _ => none

/-- Read item by item. -/
def sourceList? : Nat → List Source → Option (List RawGeometry)
  | _, [] => some []
  | depth, x :: xs => (ofSource? depth x).bind fun g => (sourceList? depth xs).map (g :: ·)

end

/-- Read a geometry from a text. -/
def parse? (text : String) : Option RawGeometry :=
  (Source.parse? text).bind (ofSource? nestingLimit)

end RawGeometry

end SpatialCatalog
