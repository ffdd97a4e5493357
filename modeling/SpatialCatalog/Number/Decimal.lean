import SpatialCatalog.Number.Reading

/-!
# Numbers in request parameters

Request parameters are text, and their numbers follow a grammar of their own, wider than that of a
document: a sign may be plus, digits may be missing on one side of the point, and the infinities
and the value that is not a number have names. Only ASCII digits count.
-/

namespace SpatialCatalog

/-- The digits of a text that holds nothing else. -/
def digits? (s : List Char) : Option (List Digit) := s.mapM Digit.ofChar?

/-- A sign, if there is one, and the rest. -/
def takeSign : List Char → Bool × List Char
  | '-' :: s => (true, s)
  | '+' :: s => (false, s)
  | s => (false, s)

/-- A whole number from a sign, if there is one, and at least one digit. -/
def readInt? (s : List Char) : Option Int :=
  let (negative, s) := takeSign s
  if s.isEmpty then none
  else (digits? s).map fun ds => if negative then -(digitsValue ds : Int) else digitsValue ds

/-- A whole number of 64 bits. -/
def readInt64? (s : List Char) : Option Int :=
  (readInt? s).filter fun n => -(twoPow 63 : Int) ≤ n ∧ n < twoPow 63

/-- A natural number from at least one digit, after a plus sign or none. -/
def readNat? (s : List Char) : Option Nat :=
  let s := if s.head? = some '+' then s.tail else s
  if s.isEmpty then none else (digits? s).map digitsValue

/-- The exponent at the end of a number: a mark, and a whole number. -/
def readExponent? : List Char → Option (Option Exponent)
  | [] => some none
  | c :: s =>
    if c = 'e' ∨ c = 'E' then
      let (negative, s) := takeSign s
      if s.isEmpty then none else (digits? s).map fun digits => some { negative, digits }
    else none

/-- A number without its sign: digits, a point and digits, and an exponent, where some digit
stands before the exponent. -/
def readUnsigned? (negative : Bool) (s : List Char) : Option Numeral :=
  let isDigit := fun c => (Digit.ofChar? c).isSome
  let whole := s.takeWhile isDigit
  let afterWhole := s.dropWhile isDigit
  let afterPoint := if afterWhole.head? = some '.' then afterWhole.tail else []
  let rest := if afterWhole.head? = some '.' then afterPoint.dropWhile isDigit else afterWhole
  let fraction := afterPoint.takeWhile isDigit
  if whole.isEmpty ∧ fraction.isEmpty then none
  else
    (digits? whole).bind fun whole => (digits? fraction).bind fun fraction =>
      (readExponent? rest).map fun exponent => { negative, whole, fraction, exponent }

/-- The names of the values that have no digits, in lower case. -/
def namedDouble? (negative : Bool) (s : List Char) : Option Double :=
  let lower := String.ofList (s.map Char.toLower)
  if lower = "inf" ∨ lower = "infinity" then some (.infinite negative)
  else if lower = "nan" then some (.nan negative)
  else none

/-- A number of a request parameter, correctly rounded. -/
def readDouble? (s : List Char) : Option Double :=
  let (negative, s) := takeSign s
  (namedDouble? negative s).or ((readUnsigned? negative s).map Numeral.nearest)

end SpatialCatalog
