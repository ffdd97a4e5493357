import SpatialCatalog.Json.Token
import SpatialCatalog.Number.Reading

/-!
# JSON texts as trees

A `Source` is a JSON text with its grammar resolved and nothing else: numbers are numerals, strings
are pieces, and repeated keys are all there.

* `Source.tokens` writes a tree as tokens, and `Source.ofTokens?` builds the tree of a sequence of
  tokens with an automaton whose stack holds the open arrays and objects.
* `Source.value?` reads the value of a tree. It refuses numbers that are too large, escapes of code
  units that make up no character, and containers nested more deeply than a limit.
* `Source.ofJson` is the tree of a value.
-/

namespace SpatialCatalog

/-- A JSON text as a tree. -/
inductive Source where
  | null
  | bool (b : Bool)
  | num (m : Numeral)
  | str (pieces : List Piece)
  | arr (items : List Source)
  | obj (members : List (List Piece × Source))
deriving Inhabited

namespace Source

/-! ### Writing -/

mutual

/-- The tokens of a tree. -/
def tokens : Source → List Token
  | null => [.null]
  | bool b => [.bool b]
  | num m => [.num m]
  | str pieces => [.str pieces]
  | arr [] => [.beginArray, .endArray]
  | arr (x :: xs) => .beginArray :: (x.tokens ++ itemTokens xs)
  | obj [] => [.beginObject, .endObject]
  | obj ((k, v) :: ms) => .beginObject :: .str k :: .colon :: (v.tokens ++ memberTokens ms)

/-- The tokens of the further items of an array. -/
def itemTokens : List Source → List Token
  | [] => [.endArray]
  | x :: xs => .comma :: (x.tokens ++ itemTokens xs)

/-- The tokens of the further members of an object. -/
def memberTokens : List (List Piece × Source) → List Token
  | [] => [.endObject]
  | (k, v) :: ms => .comma :: .str k :: .colon :: (v.tokens ++ memberTokens ms)

end

/-! ### Building -/

/-- An open container: what it holds so far, in reverse, and the key whose value comes next. -/
inductive Frame where
  | array (items : List Source)
  | object (members : List (List Piece × Source)) (key : List Piece)

/-- What may come next. -/
inductive Expect where
  | value
  /-- A value, or the end of an array that is still empty. -/
  | firstItem
  /-- A key, or the end of an object that is still empty. -/
  | firstKey
  | key
  | colon
  /-- A comma, or the end of the container. -/
  | separator
  /-- The end of the text, after a complete tree. -/
  | finished (tree : Source)

/-- The open containers, the innermost first, and what may come next. -/
structure Builder where
  opened : List Frame := []
  expect : Expect := .value

namespace Builder

/-- Put a complete tree into the innermost open container. -/
def put (b : Builder) (tree : Source) : Builder :=
  match b.opened with
  | [] => { opened := [], expect := .finished tree }
  | .array items :: outer => { opened := .array (tree :: items) :: outer, expect := .separator }
  | .object members key :: outer =>
    { opened := .object ((key, tree) :: members) key :: outer, expect := .separator }

/-- Close the innermost container, if it is an array. -/
def closeArray? (b : Builder) : Option Builder :=
  match b.opened with
  | .array items :: outer => some (put { opened := outer } (.arr items.reverse))
  | _ => none

/-- Close the innermost container, if it is an object. -/
def closeObject? (b : Builder) : Option Builder :=
  match b.opened with
  | .object members _ :: outer => some (put { opened := outer } (.obj members.reverse))
  | _ => none

/-- Read a token that begins a value. -/
def value? (b : Builder) : Token → Option Builder
  | .null => some (b.put .null)
  | .bool v => some (b.put (.bool v))
  | .num m => some (b.put (.num m))
  | .str pieces => some (b.put (.str pieces))
  | .beginArray => some { opened := .array [] :: b.opened, expect := .firstItem }
  | .beginObject => some { opened := .object [] [] :: b.opened, expect := .firstKey }
  | _ => none

/-- Read a key. -/
def key? (b : Builder) : Token → Option Builder
  | .str pieces =>
    match b.opened with
    | .object members _ :: outer =>
      some { opened := .object members pieces :: outer, expect := .colon }
    | _ => none
  | _ => none

/-- Read one token. -/
def step? (b : Builder) (t : Token) : Option Builder :=
  match b.expect, t with
  | .value, t => b.value? t
  | .firstItem, .endArray => b.closeArray?
  | .firstItem, t => b.value? t
  | .firstKey, .endObject => b.closeObject?
  | .firstKey, t => b.key? t
  | .key, t => b.key? t
  | .colon, .colon => some { b with expect := .value }
  | .colon, _ => none
  | .separator, .comma =>
    match b.opened with
    | .array _ :: _ => some { b with expect := .value }
    | .object _ _ :: _ => some { b with expect := .key }
    | [] => none
  | .separator, .endArray => b.closeArray?
  | .separator, .endObject => b.closeObject?
  | .separator, _ => none
  | .finished _, _ => none

end Builder

/-- The tree of a sequence of tokens. -/
def ofTokens? (ts : List Token) : Option Source :=
  (ts.foldlM Builder.step? {}).bind fun b =>
    match b.expect with
    | .finished tree => some tree
    | _ => none

/-! ### Values -/

/-- Whether a code unit is the first of a pair. -/
def isHighUnit (n : Nat) : Bool := 0xd800 ≤ n && n < 0xdc00

/-- Whether a code unit is the second of a pair. -/
def isLowUnit (n : Nat) : Bool := 0xdc00 ≤ n && n < 0xe000

/-- The characters of a written string. Code units outside pairs stand for themselves, and a first
and a second unit together for one character. -/
def characters? : List Piece → Option (List Char)
  | [] => some []
  | .char c :: ps => (characters? ps).map (c :: ·)
  | .unit m :: .unit n :: ps =>
    if isHighUnit m then
      if isLowUnit n then
        (characters? ps).map (Char.ofNat (0x10000 + (m - 0xd800) * 0x400 + (n - 0xdc00)) :: ·)
      else none
    else if isLowUnit m then none
    else (characters? (.unit n :: ps)).map (Char.ofNat m :: ·)
  | .unit m :: ps =>
    if isHighUnit m || isLowUnit m then none else (characters? ps).map (Char.ofNat m :: ·)

/-- The text of a written string. -/
def text? (pieces : List Piece) : Option String := (characters? pieces).map String.ofList

end Source

/-- The greatest whole number in a document. -/
def Number.greatestPositive : Nat := twoPow 64 - 1

/-- The magnitude of the least whole number in a document. -/
def Number.greatestNegative : Nat := twoPow 63

/-- The number that a numeral stands for: whole if it is written without point and exponent and
fits 64 bits. The numeral `-0` is no whole number, as it would lose its sign. -/
def Numeral.number? (m : Numeral) : Option Number :=
  let n := digitsValue m.whole
  if m.fraction.isEmpty ∧ m.exponent = none ∧ m.negative = false ∧ n ≤ Number.greatestPositive then
    some (.int n)
  else if m.fraction.isEmpty ∧ m.exponent = none ∧ m.negative = true ∧ 0 < n ∧
      n ≤ Number.greatestNegative then
    some (.int (-n))
  else m.scaled?.map .float

namespace Source

mutual

/-- The value of a tree with at most `depth` containers inside one another. -/
def value? : Nat → Source → Option Json
  | _, null => some .null
  | _, bool b => some (.bool b)
  | _, num m => m.number?.map .num
  | _, str pieces => (text? pieces).map .str
  | 0, arr _ => none
  | depth + 1, arr items => (values? depth items).map .arr
  | 0, obj _ => none
  | depth + 1, obj members => (pairs? depth members).map fun ps => .obj (Members.ofPairs ps)

/-- The values of a list of trees. -/
def values? : Nat → List Source → Option (List Json)
  | _, [] => some []
  | depth, x :: xs => (x.value? depth).bind fun v => (values? depth xs).map (v :: ·)

/-- The keys and values of the members of an object. -/
def pairs? : Nat → List (List Piece × Source) → Option (List (String × Json))
  | _, [] => some []
  | depth, (k, x) :: ms =>
    (text? k).bind fun key => (x.value? depth).bind fun v =>
      (pairs? depth ms).map ((key, v) :: ·)

end

/-- The weights between which a document writes a number without an exponent. -/
def layout : Layout := ⟨-5, 15⟩

/-- A string as it is written. -/
def pieces (s : String) : List Piece := s.toList.map Piece.ofChar

mutual

/-- The tree of a value. -/
def ofJson : Json → Source
  | .null => null
  | .bool b => bool b
  | .num (.int n) => num (.ofInt n)
  | .num (.float x) => num (x.numeral layout)
  | .str s => str (pieces s)
  | .arr items => arr (ofItems items)
  | .obj members => obj (ofMembers members)

/-- The trees of a list of values. -/
def ofItems : List Json → List Source
  | [] => []
  | x :: xs => ofJson x :: ofItems xs

/-- The trees of the members of an object. -/
def ofMembers : List (String × Json) → List (List Piece × Source)
  | [] => []
  | (k, v) :: ms => (pieces k, ofJson v) :: ofMembers ms

end

end Source

end SpatialCatalog
