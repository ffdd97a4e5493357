import SpatialCatalog.Proofs.Json.Scanning
import SpatialCatalog.Proofs.Number.Reading

/-!
# Reading what was written

The text of a value is read as the tree of that value, whatever its strings hold. The value of that
tree is `Json.reread?`: the same value with every number as it is read back, provided that the
containers are not nested too deeply.
-/

namespace SpatialCatalog

namespace Source

/-! ### Building -/

namespace Builder

/-- A value may come next. -/
def TakesValue (b : Builder) : Prop := b.expect = .value ∨ b.expect = .firstItem

theorem step?_value {b : Builder} (h : b.TakesValue) {t : Token} (ht : t ≠ .endArray) :
    b.step? t = b.value? t := by
  obtain ⟨opened, expect⟩ := b
  obtain rfl | rfl := h
  · rfl
  · cases t <;> first | rfl | exact absurd rfl ht

theorem step?_key (members : List (List Piece × Source)) (key k : List Piece)
    (outer : List Frame) {expect : Expect} (h : expect = .firstKey ∨ expect = .key) :
    step? ⟨.object members key :: outer, expect⟩ (.str k) =
      some ⟨.object members k :: outer, .colon⟩ := by
  obtain rfl | rfl := h <;> rfl

theorem step?_colon (opened : List Frame) :
    step? ⟨opened, .colon⟩ .colon = some ⟨opened, .value⟩ := rfl

theorem step?_itemComma (items : List Source) (outer : List Frame) :
    step? ⟨.array items :: outer, .separator⟩ .comma = some ⟨.array items :: outer, .value⟩ := rfl

theorem step?_memberComma (members : List (List Piece × Source)) (key : List Piece)
    (outer : List Frame) : step? ⟨.object members key :: outer, .separator⟩ .comma =
      some ⟨.object members key :: outer, .key⟩ := rfl

/-- Read tokens. -/
def run? (b : Builder) (ts : List Token) : Option Builder := ts.foldlM step? b

theorem run?_cons (b : Builder) (t : Token) (ts : List Token) :
    b.run? (t :: ts) = (b.step? t).bind (·.run? ts) := rfl

theorem run?_append (b : Builder) (ts us : List Token) :
    b.run? (ts ++ us) = (b.run? ts).bind (·.run? us) := by
  rw [run?, List.foldlM_append]
  rfl

end Builder

mutual

/-- The tokens of a tree put the tree where a value is taken. -/
theorem build_tokens : ∀ (x : Source) (b : Builder), b.TakesValue → b.run? x.tokens = some (b.put x)
  | null, b, h => by rw [tokens, Builder.run?_cons, Builder.step?_value h (by simp)]; rfl
  | bool v, b, h => by rw [tokens, Builder.run?_cons, Builder.step?_value h (by simp)]; rfl
  | num m, b, h => by rw [tokens, Builder.run?_cons, Builder.step?_value h (by simp)]; rfl
  | str ps, b, h => by rw [tokens, Builder.run?_cons, Builder.step?_value h (by simp)]; rfl
  | arr [], b, h => by rw [tokens, Builder.run?_cons, Builder.step?_value h (by simp)]; rfl
  | arr (x :: xs), b, h => by
    rw [tokens, Builder.run?_cons, Builder.step?_value h (by simp), Builder.value?,
      Option.bind_some, Builder.run?_append, build_tokens x _ (.inr rfl), Option.bind_some]
    exact build_itemTokens xs [x] b.opened
  | obj [], b, h => by rw [tokens, Builder.run?_cons, Builder.step?_value h (by simp)]; rfl
  | obj ((k, v) :: ms), b, h => by
    rw [tokens, Builder.run?_cons, Builder.step?_value h (by simp), Builder.value?,
      Option.bind_some, Builder.run?_cons, Builder.step?_key [] [] k b.opened (.inl rfl),
      Option.bind_some, Builder.run?_cons, Builder.step?_colon, Option.bind_some,
      Builder.run?_append, build_tokens v _ (.inl rfl), Option.bind_some]
    exact build_memberTokens ms [(k, v)] k b.opened

theorem build_itemTokens : ∀ (xs items : List Source) (outer : List Frame),
    Builder.run? ⟨.array items :: outer, .separator⟩ (itemTokens xs) =
      some (Builder.put ⟨outer, .value⟩ (arr (items.reverse ++ xs)))
  | [], items, outer => by
    rw [itemTokens, List.append_nil]
    rfl
  | x :: xs, items, outer => by
    rw [itemTokens, Builder.run?_cons, Builder.step?_itemComma, Option.bind_some,
      Builder.run?_append, build_tokens x _ (.inl rfl), Option.bind_some]
    have h := build_itemTokens xs (x :: items) outer
    rw [List.reverse_cons, List.append_assoc] at h
    exact h

theorem build_memberTokens : ∀ (ms members : List (List Piece × Source)) (key : List Piece)
    (outer : List Frame),
    Builder.run? ⟨.object members key :: outer, .separator⟩ (memberTokens ms) =
      some (Builder.put ⟨outer, .value⟩ (obj (members.reverse ++ ms)))
  | [], members, key, outer => by
    rw [memberTokens, List.append_nil]
    rfl
  | (k, v) :: ms, members, key, outer => by
    rw [memberTokens, Builder.run?_cons, Builder.step?_memberComma, Option.bind_some,
      Builder.run?_cons, Builder.step?_key members key k outer (.inr rfl), Option.bind_some,
      Builder.run?_cons, Builder.step?_colon, Option.bind_some, Builder.run?_append,
      build_tokens v _ (.inl rfl), Option.bind_some]
    have h := build_memberTokens ms ((k, v) :: members) k outer
    rw [List.reverse_cons, List.append_assoc] at h
    exact h

end

theorem ofTokens?_tokens (x : Source) : ofTokens? x.tokens = some x := by
  have h : x.tokens.foldlM Builder.step? {} = some (Builder.put {} x) :=
    build_tokens x {} (.inl rfl)
  rw [ofTokens?, h]
  rfl

/-- A well-formed tree is read from its text. -/
theorem parse?_text {x : Source} (h : x.WellFormed) :
    parse? (String.ofList (x.tokens.flatMap Token.text)) = some x := by
  rw [parse?, String.toList_ofList, scan?_tokens h, Option.bind_some, ofTokens?_tokens]

/-! ### The tree of a value -/

theorem wellFormed_pieces (s : String) : ∀ p ∈ pieces s, p.WellFormed := by
  intro p hp
  obtain ⟨c, -, rfl⟩ := List.mem_map.mp hp
  exact Piece.wellFormed_ofChar c

mutual

theorem wellFormed_ofJson : ∀ j : Json, (ofJson j).WellFormed
  | .null => trivial
  | .bool _ => trivial
  | .num (.int n) => Numeral.wellFormed_ofInt n
  | .num (.float x) => x.wellFormed_numeral
  | .str s => wellFormed_pieces s
  | .arr items => wellFormed_ofItems items
  | .obj members => wellFormed_ofMembers members

theorem wellFormed_ofItems : ∀ js : List Json, ItemsWellFormed (ofItems js)
  | [] => trivial
  | j :: js => ⟨wellFormed_ofJson j, wellFormed_ofItems js⟩

theorem wellFormed_ofMembers : ∀ ms : List (String × Json), MembersWellFormed (ofMembers ms)
  | [] => trivial
  | (k, v) :: ms => ⟨wellFormed_pieces k, wellFormed_ofJson v, wellFormed_ofMembers ms⟩

end

/-- **The text of a value is read as the tree of the value.** -/
theorem parse?_render (j : Json) : parse? j.render = some (ofJson j) :=
  parse?_text (wellFormed_ofJson j)

/-! ### Strings -/

theorem characters?_unit {n : Nat} (h : n < 0xd800) (ps : List Piece) :
    characters? (.unit n :: ps) = (characters? ps).map (Char.ofNat n :: ·) := by
  have hhigh : isHighUnit n = false := by
    simp [isHighUnit]
    omega
  have hlow : isLowUnit n = false := by
    simp [isLowUnit]
    omega
  cases ps with
  | nil => simp [characters?, hhigh, hlow]
  | cons p ps => cases p <;> simp [characters?, hhigh, hlow]

theorem characters?_ofChar (c : Char) (ps : List Piece) :
    characters? (Piece.ofChar c :: ps) = (characters? ps).map (c :: ·) := by
  unfold Piece.ofChar
  split
  next h =>
    have hlt : c.toNat < ' '.toNat := UInt32.lt_iff_toNat_lt.mp (Char.lt_def.mp h.1)
    have hspace : ' '.toNat = 32 := rfl
    -- A control is no half of a pair of units.
    rw [characters?_unit (by omega), Char.ofNat_toNat]
  next => rw [characters?]

/-- A string is read as it was written. -/
theorem text?_pieces (s : String) : text? (pieces s) = some s := by
  have h : ∀ cs : List Char, characters? (cs.map Piece.ofChar) = some cs := by
    intro cs
    induction cs with
    | nil => rfl
    | cons c cs ih => rw [List.map_cons, characters?_ofChar, ih, Option.map_some]
  rw [text?, pieces, h, Option.map_some, String.ofList_toList]

end Source

/-! ### Values -/

namespace Json

/-- What is read where a number is written. -/
def rereadNumber? : Number → Option Number
  | .int n => (Numeral.ofInt n).number?
  | .float x => some (.float x.reread)

mutual

/-- What is read where a value is written. Of members with one key the last is read. -/
def reread? : Json → Option Json
  | null => some null
  | bool b => some (bool b)
  | num n => (rereadNumber? n).map num
  | str s => some (str s)
  | arr items => (rereadItems? items).map arr
  | obj members => (rereadMembers? members).map fun ms => obj (Members.ofPairs ms)

def rereadItems? : List Json → Option (List Json)
  | [] => some []
  | j :: js => j.reread?.bind fun v => (rereadItems? js).map (v :: ·)

def rereadMembers? : List (String × Json) → Option (List (String × Json))
  | [] => some []
  | (k, j) :: ms => j.reread?.bind fun v => (rereadMembers? ms).map ((k, v) :: ·)

end

mutual

/-- How many containers stand inside one another. -/
def nesting : Json → Nat
  | arr items => itemsNesting items + 1
  | obj members => membersNesting members + 1
  | _ => 0

def itemsNesting : List Json → Nat
  | [] => 0
  | j :: js => max j.nesting (itemsNesting js)

def membersNesting : List (String × Json) → Nat
  | [] => 0
  | (_, j) :: ms => max j.nesting (membersNesting ms)

end

end Json

namespace Source

mutual

theorem value?_ofJson : ∀ (j : Json) {depth : Nat}, j.nesting ≤ depth →
    (ofJson j).value? depth = j.reread?
  | .null, _, _ => rfl
  | .bool _, _, _ => rfl
  | .num (.int _), _, _ => rfl
  | .num (.float x), _, _ => by
    rw [ofJson, value?, x.number?_numeral]
    rfl
  | .str s, _, _ => by
    rw [ofJson, value?, text?_pieces]
    rfl
  | .arr _, 0, h => absurd h (Nat.not_succ_le_zero _)
  | .arr items, depth + 1, h => by
    rw [ofJson, value?, values?_ofItems items (Nat.le_of_succ_le_succ h)]
    rfl
  | .obj _, 0, h => absurd h (Nat.not_succ_le_zero _)
  | .obj members, depth + 1, h => by
    rw [ofJson, value?, pairs?_ofMembers members (Nat.le_of_succ_le_succ h)]
    rfl

theorem values?_ofItems : ∀ (js : List Json) {depth : Nat}, Json.itemsNesting js ≤ depth →
    values? depth (ofItems js) = Json.rereadItems? js
  | [], _, _ => rfl
  | j :: js, depth, h => by
    obtain ⟨hj, hjs⟩ := Nat.max_le.mp h
    rw [ofItems, values?, value?_ofJson j hj, values?_ofItems js hjs]
    rfl

theorem pairs?_ofMembers : ∀ (ms : List (String × Json)) {depth : Nat},
    Json.membersNesting ms ≤ depth → pairs? depth (ofMembers ms) = Json.rereadMembers? ms
  | [], _, _ => rfl
  | (k, j) :: ms, depth, h => by
    obtain ⟨hj, hms⟩ := Nat.max_le.mp h
    rw [ofMembers, pairs?, text?_pieces, Option.bind_some, value?_ofJson j hj,
      pairs?_ofMembers ms hms]
    rfl

end

mutual

/-- A value that is nested too deeply is not read. -/
theorem value?_ofJson_eq_none : ∀ (j : Json) {depth : Nat}, depth < j.nesting →
    (ofJson j).value? depth = none
  | .null, _, h | .bool _, _, h | .num _, _, h | .str _, _, h => absurd h (Nat.not_lt_zero _)
  | .arr _, 0, _ => rfl
  | .arr items, depth + 1, h => by
    rw [ofJson, value?, values?_ofItems_eq_none items (Nat.lt_of_succ_lt_succ h)]
    rfl
  | .obj _, 0, _ => rfl
  | .obj members, depth + 1, h => by
    rw [ofJson, value?, pairs?_ofMembers_eq_none members (Nat.lt_of_succ_lt_succ h)]
    rfl

theorem values?_ofItems_eq_none : ∀ (js : List Json) {depth : Nat}, depth < Json.itemsNesting js →
    values? depth (ofItems js) = none
  | [], _, h => absurd h (Nat.not_lt_zero _)
  | j :: js, depth, h => by
    rw [ofItems, values?]
    rcases lt_max_iff.mp h with hj | hjs
    · rw [value?_ofJson_eq_none j hj]
      rfl
    · rw [values?_ofItems_eq_none js hjs]
      exact Option.bind_fun_none _

theorem pairs?_ofMembers_eq_none : ∀ (ms : List (String × Json)) {depth : Nat},
    depth < Json.membersNesting ms → pairs? depth (ofMembers ms) = none
  | [], _, h => absurd h (Nat.not_lt_zero _)
  | (k, j) :: ms, depth, h => by
    rw [ofMembers, pairs?, text?_pieces, Option.bind_some]
    rcases lt_max_iff.mp h with hj | hms
    · rw [value?_ofJson_eq_none j hj]
      rfl
    · rw [pairs?_ofMembers_eq_none ms hms]
      exact Option.bind_fun_none _

end

end Source

/-- **The text of a value that is not nested too deeply is read as the value with every number as
it is read back.** -/
theorem Json.parse?_render {j : Json} (h : j.nesting ≤ nestingLimit) :
    Json.parse? j.render = j.reread? := by
  rw [Json.parse?, Source.parse?_render, Option.bind_some, Source.value?_ofJson j h]

/-- The text of a value that is nested too deeply is not read. -/
theorem Json.parse?_render_eq_none {j : Json} (h : nestingLimit < j.nesting) :
    Json.parse? j.render = none := by
  rw [Json.parse?, Source.parse?_render, Option.bind_some, Source.value?_ofJson_eq_none j h]

end SpatialCatalog
