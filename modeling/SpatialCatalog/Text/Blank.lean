/-!
# Blanks and lists of parts

Request parameters are trimmed of blanks, the characters with the Unicode property `White_Space`,
and lists are written with a comma between their parts.

* `trim` drops the blanks at both ends.
* `parts` splits at commas, trims each part and leaves out the empty ones.
-/

namespace SpatialCatalog

/-- Code points with the property `White_Space`, as first and last of each range. -/
def blankRanges : List (Nat × Nat) := [
  (0x9, 0xd), (0x20, 0x20), (0x85, 0x85), (0xa0, 0xa0), (0x1680, 0x1680), (0x2000, 0x200a),
  (0x2028, 0x2029), (0x202f, 0x202f), (0x205f, 0x205f), (0x3000, 0x3000)]

/-- Whether a character is a blank. -/
def isBlank (c : Char) : Bool :=
  blankRanges.any fun (first, last) => first ≤ c.toNat && c.toNat ≤ last

/-- Characters without the blanks at both ends. -/
def trim (s : List Char) : List Char := ((s.dropWhile isBlank).reverse.dropWhile isBlank).reverse

/-- Characters split at each comma; there is one part more than commas. -/
def splitCommas (s : List Char) : List (List Char) := s.splitOn ','

/-- The parts between commas, trimmed, without the empty ones. -/
def parts (s : List Char) : List (List Char) :=
  ((splitCommas s).map trim).filter fun part => !part.isEmpty

end SpatialCatalog
