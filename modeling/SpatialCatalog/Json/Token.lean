import SpatialCatalog.Json.Basic
import SpatialCatalog.Text.Quoted

/-!
# Tokens of a JSON text

A JSON text is a sequence of tokens, with spaces, tabs and line ends between them. A string keeps
its escapes of code units apart from its characters, because a pair of units may stand for one
character and a single one for none; a number keeps its digits.

* `Token.text` writes a token.
* `Token.scan?` splits a text into tokens, by an automaton that reads one character at a time. A
  number ends at the first character that cannot belong to it.
-/

namespace SpatialCatalog

/-- A piece of a written string: a character, or the escape of a 16-bit code unit. -/
inductive Piece where
  | char (c : Char)
  | unit (n : Nat)
deriving DecidableEq

/-- A token. -/
inductive Token where
  | beginArray
  | endArray
  | beginObject
  | endObject
  | comma
  | colon
  | null
  | bool (b : Bool)
  | num (m : Numeral)
  | str (pieces : List Piece)
deriving DecidableEq

/-! ### Writing -/

/-- How a character is written in a string. A control without a short escape is written as a code
unit. -/
def Piece.ofChar (c : Char) : Piece :=
  if c < ' ' ∧ c ∉ ['\x08', '\t', '\n', '\x0c', '\r'] then unit c.toNat else char c

/-- Four hexadecimal digits. -/
def hexUnit (n : Nat) : List Char :=
  [n / 4096, n / 256, n / 16, n].map fun d => Nat.digitChar (d % 16)

/-- The characters of a piece. -/
def Piece.text : Piece → List Char
  | char '"' => ['\\', '"']
  | char '\\' => ['\\', '\\']
  | char '\x08' => ['\\', 'b']
  | char '\t' => ['\\', 't']
  | char '\n' => ['\\', 'n']
  | char '\x0c' => ['\\', 'f']
  | char '\r' => ['\\', 'r']
  | char c => [c]
  | unit n => '\\' :: 'u' :: hexUnit n

namespace Token

/-- The characters of a token. -/
def text : Token → List Char
  | beginArray => ['[']
  | endArray => [']']
  | beginObject => ['{']
  | endObject => ['}']
  | comma => [',']
  | colon => [':']
  | null => ['n', 'u', 'l', 'l']
  | bool true => ['t', 'r', 'u', 'e']
  | bool false => ['f', 'a', 'l', 's', 'e']
  | num m => m.text
  | str pieces => '"' :: pieces.flatMap Piece.text ++ ['"']

end Token

/-! ### Scanning -/

/-- Where the scanner is inside a number; the digits before the current group are in order, those
of the current group in reverse. -/
inductive NumberState where
  /-- After the minus sign: a digit must follow. -/
  | sign
  | whole (negative : Bool) (digits : List Digit)
  /-- After the point: a digit must follow. -/
  | point (negative : Bool) (whole : List Digit)
  | fraction (negative : Bool) (whole digits : List Digit)
  /-- After the mark of the exponent: a sign or a digit must follow. -/
  | mark (negative : Bool) (whole fraction : List Digit)
  /-- After the sign of the exponent: a digit must follow. -/
  | markSign (negative : Bool) (whole fraction : List Digit) (down : Bool)
  | exponent (negative : Bool) (whole fraction : List Digit) (down : Bool) (digits : List Digit)
deriving DecidableEq

namespace NumberState

/-- Read on inside a number: `none` where the character does not belong to it. -/
def step? (s : NumberState) (c : Char) : Option NumberState :=
  match s, Digit.ofChar? c with
  | sign, some d => some (whole true [d])
  | sign, none => none
  | whole _ [0], some _ => none
  | whole negative ds, some d => some (whole negative (d :: ds))
  | whole negative ds, none =>
    if c = '.' then some (point negative ds.reverse)
    else if c = 'e' ∨ c = 'E' then some (mark negative ds.reverse [])
    else none
  | point negative w, some d => some (fraction negative w [d])
  | point _ _, none => none
  | fraction negative w ds, some d => some (fraction negative w (d :: ds))
  | fraction negative w ds, none =>
    if c = 'e' ∨ c = 'E' then some (mark negative w ds.reverse) else none
  | mark negative w f, some d => some (exponent negative w f false [d])
  | mark negative w f, none =>
    if c = '+' then some (markSign negative w f false)
    else if c = '-' then some (markSign negative w f true)
    else none
  | markSign negative w f down, some d => some (exponent negative w f down [d])
  | markSign _ _ _ _, none => none
  | exponent negative w f down ds, some d => some (exponent negative w f down (d :: ds))
  | exponent _ _ _ _ _, none => none

/-- The number read so far, where it may end. -/
def numeral? : NumberState → Option Numeral
  | whole negative ds => some ⟨negative, ds.reverse, [], none⟩
  | fraction negative w ds => some ⟨negative, w, ds.reverse, none⟩
  | exponent negative w f down ds => some ⟨negative, w, f, some ⟨down, ds.reverse⟩⟩
  | _ => none

end NumberState

/-- Where the scanner is. -/
inductive ScanState where
  /-- Between tokens. -/
  | between
  /-- Inside a word; what is left of it, and the token it stands for. -/
  | word (rest : List Char) (token : Token)
  | number (s : NumberState)
  /-- Inside a string; its pieces in reverse. -/
  | string (pieces : List Piece)
  /-- After a backslash. -/
  | escape (pieces : List Piece)
  /-- Inside the escape of a code unit; its digits so far, and how many more there must be. -/
  | unit (pieces : List Piece) (value missing : Nat)
deriving DecidableEq

/-- The spaces that may stand between tokens. -/
def isJsonSpace (c : Char) : Bool := c = ' ' || c = '\t' || c = '\n' || c = '\r'

/-- The value of a hexadecimal digit of either case. -/
def hexDigit? (c : Char) : Option Nat :=
  if '0' ≤ c ∧ c ≤ '9' then some (c.toNat - '0'.toNat)
  else if 'a' ≤ c ∧ c ≤ 'f' then some (c.toNat - 'a'.toNat + 10)
  else if 'A' ≤ c ∧ c ≤ 'F' then some (c.toNat - 'A'.toNat + 10)
  else none

/-- The character of a short escape. -/
def shortEscape? : Char → Option Char
  | '"' => some '"'
  | '\\' => some '\\'
  | '/' => some '/'
  | 'b' => some '\x08'
  | 'f' => some '\x0c'
  | 'n' => some '\n'
  | 'r' => some '\r'
  | 't' => some '\t'
  | _ => none

/-- The scanner's place, and the tokens that it has completed, in reverse. -/
structure Scan where
  state : ScanState := .between
  tokens : List Token := []

namespace Scan

/-- Complete a token. -/
def emit (s : Scan) (t : Token) : Scan := { state := .between, tokens := t :: s.tokens }

/-- Read a character that begins a token, or a space. -/
def begin? (s : Scan) (c : Char) : Option Scan :=
  match c with
  | '[' => some (s.emit .beginArray)
  | ']' => some (s.emit .endArray)
  | '{' => some (s.emit .beginObject)
  | '}' => some (s.emit .endObject)
  | ',' => some (s.emit .comma)
  | ':' => some (s.emit .colon)
  | 'n' => some { s with state := .word ['u', 'l', 'l'] .null }
  | 't' => some { s with state := .word ['r', 'u', 'e'] (.bool true) }
  | 'f' => some { s with state := .word ['a', 'l', 's', 'e'] (.bool false) }
  | '"' => some { s with state := .string [] }
  | '-' => some { s with state := .number .sign }
  | c =>
    match Digit.ofChar? c with
    | some d => some { s with state := .number (.whole false [d]) }
    | none => if isJsonSpace c then some { s with state := .between } else none

/-- Read one character. -/
def step? (s : Scan) (c : Char) : Option Scan :=
  match s.state with
  | .between => s.begin? c
  | .word [] token => (s.emit token).begin? c
  | .word [last] token => if c = last then some (s.emit token) else none
  | .word (next :: rest) token =>
    if c = next then some { s with state := .word rest token } else none
  | .number n =>
    match n.step? c with
    | some n' => some { s with state := .number n' }
    | none => n.numeral?.bind fun m => (s.emit (.num m)).begin? c
  | .string pieces =>
    if c = '"' then some (s.emit (.str pieces.reverse))
    else if c = '\\' then some { s with state := .escape pieces }
    else if c < ' ' then none
    else some { s with state := .string (.char c :: pieces) }
  | .escape pieces =>
    if c = 'u' then some { s with state := .unit pieces 0 3 }
    else (shortEscape? c).map fun e => { s with state := .string (.char e :: pieces) }
  | .unit pieces value missing =>
    (hexDigit? c).map fun d =>
      match missing with
      | 0 => { s with state := .string (.unit (16 * value + d) :: pieces) }
      | missing + 1 => { s with state := .unit pieces (16 * value + d) missing }

/-- The tokens in order, where the text may end. -/
def finish? (s : Scan) : Option (List Token) :=
  match s.state with
  | .between => some s.tokens.reverse
  | .number n => n.numeral?.map fun m => (s.emit (.num m)).tokens.reverse
  | _ => none

end Scan

/-- The tokens of a text. -/
def Token.scan? (text : List Char) : Option (List Token) :=
  (text.foldlM Scan.step? {}).bind Scan.finish?

end SpatialCatalog
