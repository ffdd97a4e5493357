import SpatialCatalog.Proofs.Number.Digits
import SpatialCatalog.Proofs.Sql.Grammar
import SpatialCatalog.Sql.Select

/-!
# The lexemes of a condition

A text is cut into lexemes from left to right, and where it is cut depends on what follows only at
the end. `Lexes` says which lexemes a text has; for `Completes`, the last of them also ends with
the text. Texts put together have the lexemes of the parts, where the second part begins with a
character that ends what is pending, or nothing is pending.
-/

namespace SpatialCatalog.Sql

/-! ### Runs of the reader -/

namespace Lexer

/-- Read a text. -/
def run? (s : Lexer) (text : String) : Option Lexer := text.toList.foldlM step? s

theorem run?_append (s : Lexer) (a b : String) : s.run? (a ++ b) = (s.run? a).bind (·.run? b) := by
  rw [run?, String.toList_append, List.foldlM_append]
  rfl

/-- A reader that has completed `ls` before. -/
def after (s : Lexer) (ls : List Lexeme) : Lexer := { s with lexemes := s.lexemes ++ ls }

theorem begin?_after (s : Lexer) (ls : List Lexeme) (c : Char) :
    (s.after ls).begin? c = (s.begin? c).map (·.after ls) := by
  unfold begin?
  split
  · rfl
  split
  · rfl
  split <;> rfl

/-- What was completed before has no influence. -/
theorem step?_after (s : Lexer) (ls : List Lexeme) (c : Char) :
    (s.after ls).step? c = (s.step? c).map (·.after ls) := by
  obtain ⟨state, ms⟩ := s
  cases state with
  | between => exact begin?_after _ ls c
  | word cs =>
    simp only [step?, after]
    split
    · rfl
    · exact begin?_after (emit ⟨.word cs, ms⟩ (wordOf cs)) ls c
  | number n =>
    simp only [step?, after]
    split
    · rfl
    split
    · rfl
    · exact begin?_after (emit ⟨.number n, ms⟩ (.number n)) ls c
  | parameter n =>
    simp only [step?, after]
    split
    · rfl
    split
    · rfl
    · exact begin?_after (emit ⟨.parameter n, ms⟩ (.parameter n)) ls c
  | dollar => cases h : Digit.ofChar? c <;> simp [step?, after, h]
  | less => by_cases h : c = '=' <;> simp [step?, after, emit, h]
  | greater => by_cases h : c = '=' <;> simp [step?, after, emit, h]
  | colon => by_cases h : c = ':' <;> simp [step?, after, emit, h]
  | hash => by_cases h : c = '>' <;> simp [step?, after, emit, h]
  | bracket => by_cases h : c = ']' <;> simp [step?, after, emit, h]

theorem run?_after (s : Lexer) (ls : List Lexeme) (text : String) :
    (s.after ls).run? text = (s.run? text).map (·.after ls) := by
  unfold run?
  induction text.toList generalizing s with
  | nil => rfl
  | cons c cs ih =>
    simp only [List.foldlM_cons, step?_after]
    cases s.step? c with
    | none => rfl
    | some s' => exact ih s'

/-- The reader has the lexemes `ls`, the last one first; the end of that one may not have been
seen. -/
inductive Has : Lexer → List Lexeme → Prop where
  | complete (ls : List Lexeme) : Has ⟨.between, ls⟩ ls
  | word (cs : List Char) (ls : List Lexeme) : Has ⟨.word cs, ls⟩ (wordOf cs :: ls)
  | number (n : Nat) (ls : List Lexeme) : Has ⟨.number n, ls⟩ (.number n :: ls)
  | parameter (n : Nat) (ls : List Lexeme) : Has ⟨.parameter n, ls⟩ (.parameter n :: ls)

theorem Has.after {s : Lexer} {ls : List Lexeme} (h : s.Has ls) (ms : List Lexeme) :
    (s.after ms).Has (ls ++ ms) := by
  cases h with
  | complete => exact .complete _
  | word cs => exact .word cs _
  | number n => exact .number n _
  | parameter n => exact .parameter n _

theorem Has.finish? {s : Lexer} {ls : List Lexeme} (h : s.Has ls) :
    s.finish? = some ls.reverse := by
  cases h <;> rfl

/-- Whether a text begins with a character that belongs to no word and to no number. -/
def Separated (text : String) : Prop :=
  ∃ c cs, text.toList = c :: cs ∧ isLetter c = false ∧ Digit.ofChar? c = none

/-- A separated text ends what is pending. -/
theorem Has.run?_separated {s : Lexer} {ls : List Lexeme} (h : s.Has ls) {text : String}
    (ht : Separated text) : s.run? text = run? ⟨.between, ls⟩ text := by
  obtain ⟨c, cs, htext, hletter, hdigit⟩ := ht
  have hstep : s.step? c = step? ⟨.between, ls⟩ c := by
    cases h <;> simp [step?, emit, hletter, hdigit]
  rw [run?, run?, htext, List.foldlM_cons, List.foldlM_cons, hstep]

end Lexer

/-- A text has these lexemes, wherever a lexeme may begin. -/
def Lexes (text : String) (ls : List Lexeme) : Prop :=
  ∀ ms, ∃ s, Lexer.run? ⟨.between, ms⟩ text = some s ∧ s.Has (ls.reverse ++ ms)

/-- A text has these lexemes, and the last of them ends with the text. -/
def Completes (text : String) (ls : List Lexeme) : Prop :=
  ∀ ms, Lexer.run? ⟨.between, ms⟩ text = some ⟨.between, ls.reverse ++ ms⟩

theorem Completes.of_run {text : String} {ls : List Lexeme}
    (h : Lexer.run? {} text = some ⟨.between, ls.reverse⟩) : Completes text ls := fun ms => by
  have hafter := Lexer.run?_after {} ms text
  rw [h] at hafter
  exact hafter

theorem Completes.lexes {text : String} {ls : List Lexeme} (h : Completes text ls) :
    Lexes text ls := fun ms => ⟨_, h ms, .complete _⟩

theorem Lexes.of_run {text : String} {s : Lexer} {ls : List Lexeme}
    (h : Lexer.run? {} text = some s) (hs : s.Has ls.reverse) : Lexes text ls := fun ms => by
  have hafter := Lexer.run?_after {} ms text
  rw [h] at hafter
  exact ⟨_, hafter, hs.after ms⟩

theorem Lexes.of_word {text w : String}
    (h : Lexer.run? {} text = some ⟨.word w.toList.reverse, []⟩) : Lexes text [.word w] := by
  have hword : Lexer.wordOf w.toList.reverse = .word w := by simp [Lexer.wordOf]
  exact .of_run h (hword ▸ .word _ _)

section

variable {a b : String} {ls ms : List Lexeme}

theorem Completes.append_lexes (ha : Completes a ls) (hb : Lexes b ms) :
    Lexes (a ++ b) (ls ++ ms) := fun before => by
  obtain ⟨s, hs, hhas⟩ := hb (ls.reverse ++ before)
  refine ⟨s, ?_, by simpa using hhas⟩
  rw [Lexer.run?_append, ha, Option.bind_some, hs]

theorem Completes.append (ha : Completes a ls) (hb : Completes b ms) :
    Completes (a ++ b) (ls ++ ms) := fun before => by
  rw [Lexer.run?_append, ha, Option.bind_some, hb, List.reverse_append, List.append_assoc]

theorem Lexes.append_completes (ha : Lexes a ls) (hb : Completes b ms) (hsep : Lexer.Separated b) :
    Completes (a ++ b) (ls ++ ms) := fun before => by
  obtain ⟨s, hs, hhas⟩ := ha before
  rw [Lexer.run?_append, hs, Option.bind_some, hhas.run?_separated hsep, hb, List.reverse_append,
    List.append_assoc]

theorem Lexes.append_lexes (ha : Lexes a ls) (hb : Lexes b ms) (hsep : Lexer.Separated b) :
    Lexes (a ++ b) (ls ++ ms) := fun before => by
  obtain ⟨s, hs, hhas⟩ := ha before
  obtain ⟨s', hs', hhas'⟩ := hb (ls.reverse ++ before)
  refine ⟨s', ?_, by simpa using hhas'⟩
  rw [Lexer.run?_append, hs, Option.bind_some, hhas.run?_separated hsep, hs']

theorem Lexes.lexemes? (h : Lexes a ls) : lexemes? a = some ls := by
  obtain ⟨s, hs, hhas⟩ := h []
  rw [Sql.lexemes?, show a.toList.foldlM Lexer.step? {} = some s from hs, Option.bind_some,
    hhas.finish?, List.append_nil, List.reverse_reverse]

end
/-! ### The lexemes of a condition -/

theorem Lexer.run_digits (n : Nat) (ds : List Digit) (ls : List Lexeme) :
    (ds.map Digit.toChar).foldlM step? ⟨.parameter n, ls⟩ =
      some ⟨.parameter (ds.foldl (fun n d => 10 * n + d.val) n), ls⟩ := by
  induction ds generalizing n with
  | nil => rfl
  | cons d ds ih =>
    have hstep : step? ⟨.parameter n, ls⟩ d.toChar = some ⟨.parameter (10 * n + d), ls⟩ := by
      simp [step?]
    rw [List.map_cons, List.foldlM_cons, hstep, List.foldl_cons]
    exact ih _

/-- A placeholder is read as its parameter. -/
theorem lexes_placeholder (n : Nat) : Lexes (placeholder n) [.parameter n] := fun ms => by
  have htext : (decimalText n).toList = (decimalDigits n).map Digit.toChar := by
    simp [decimalText, Numeral.text, Numeral.ofInt]
  obtain ⟨d, ds, hds⟩ := List.exists_cons_of_ne_nil (decimalDigits_ne_nil n)
  have hvalue : ds.foldl (fun n d => 10 * n + d.val) d.val = n := by
    rw [← digitsValue_decimalDigits n, hds, digitsValue, List.foldl_cons, Nat.mul_zero,
      Nat.zero_add]
  -- The dollar sign, the first digit, and the further digits.
  have hdollar : Lexer.run? ⟨.between, ms⟩ "$" = some ⟨.dollar, ms⟩ := rfl
  have hfirst : Lexer.step? ⟨.dollar, ms⟩ d.toChar = some ⟨.parameter d, ms⟩ := by
    simp [Lexer.step?]
  refine ⟨_, ?_, .parameter n ms⟩
  rw [placeholder, Lexer.run?_append, hdollar, Option.bind_some, Lexer.run?, htext, hds,
    List.map_cons, List.foldlM_cons, hfirst, ← hvalue]
  exact Lexer.run_digits _ _ _

/-- The lexemes of a geometry made from a parameter. -/
def geometryLexemes (n : Nat) : List Lexeme :=
  [.word "st_setsrid", .mark .opening, .word "st_geomfromgeojson", .mark .opening, .parameter n,
    .mark .cast, .word "text", .mark .closing, .mark .comma, .number referenceSystem,
    .mark .closing]

theorem completes_geometryOf (n : Nat) : Completes (geometryOf n) (geometryLexemes n) := by
  have hcall : Completes "ST_SetSRID(ST_GeomFromGeoJSON(" [.word "st_setsrid", .mark .opening,
      .word "st_geomfromgeojson", .mark .opening] := .of_run (by decide +kernel)
  have hcast : Completes "::text), " [.mark .cast, .word "text", .mark .closing, .mark .comma] :=
    .of_run (by decide +kernel)
  have hsystem : Lexes (decimalText referenceSystem) [.number referenceSystem] :=
    .of_run (s := ⟨.number referenceSystem, []⟩) (by decide +kernel) (.number _ _)
  have hclosing : Completes ")" [.mark .closing] := .of_run (by decide +kernel)
  exact (((hcall.append_lexes (lexes_placeholder n)).append_completes hcast
    ⟨_, _, rfl, rfl, rfl⟩).append_lexes hsystem).append_completes hclosing ⟨_, _, rfl, rfl, rfl⟩

namespace Condition

/-- The lexemes of a comparison of a number of the box around the geometry of a row. -/
def boundLexemes (function : String) (op : Mark) (n : Nat) : List Lexeme :=
  [.word function, .mark .opening, .word "geometry", .mark .closing, .mark op, .parameter n]

mutual

/-- The lexemes of a condition. -/
def lexemes : Condition → List Lexeme
  | all [] => [.word "true"]
  | all (c :: cs) => .mark .opening :: c.lexemes ++ lexemesAfter "and" cs ++ [.mark .closing]
  | any [] => [.word "false"]
  | any (c :: cs) => .mark .opening :: c.lexemes ++ lexemesAfter "or" cs ++ [.mark .closing]
  | oneOf column values =>
    [.word column.name, .mark .equal, .word "any", .mark .opening, .parameter values,
      .mark .closing]
  | envelope minX minY maxX maxY =>
    .mark .opening :: boundLexemes "st_xmin" .atMost maxX ++
      .word "and" :: boundLexemes "st_xmax" .atLeast minX ++
      .word "and" :: boundLexemes "st_ymin" .atMost maxY ++
      .word "and" :: boundLexemes "st_ymax" .atLeast minY ++ [.mark .closing]
  | intersects geometry =>
    [.word "st_intersects", .mark .opening, .word "geometry", .mark .comma] ++
      geometryLexemes geometry ++ [.mark .closing]

/-- The lexemes of further conditions, each after a word. -/
def lexemesAfter (word : String) : List Condition → List Lexeme
  | [] => []
  | c :: cs => .word word :: c.lexemes ++ lexemesAfter word cs

end

theorem text_all (c : Condition) (cs : List Condition) :
    (all (c :: cs)).text = "(" ++ c.text ++ textAfter " AND " cs ++ ")" := rfl

theorem text_any (c : Condition) (cs : List Condition) :
    (any (c :: cs)).text = "(" ++ c.text ++ textAfter " OR " cs ++ ")" := rfl

theorem text_oneOf (column : Column) (n : Nat) :
    (oneOf column n).text = column.name ++ " = ANY(" ++ placeholder n ++ ")" := rfl

theorem text_envelope (minX minY maxX maxY : Nat) :
    (envelope minX minY maxX maxY).text =
      "(ST_XMin(geometry) <= " ++ placeholder maxX ++ " AND ST_XMax(geometry) >= " ++
        placeholder minX ++ " AND ST_YMin(geometry) <= " ++ placeholder maxY ++
        " AND ST_YMax(geometry) >= " ++ placeholder minY ++ ")" := rfl

theorem text_intersects (n : Nat) :
    (intersects n).text = "ST_Intersects(geometry, " ++ geometryOf n ++ ")" := rfl

theorem textAfter_cons (sep : String) (c : Condition) (cs : List Condition) :
    textAfter sep (c :: cs) = sep ++ c.text ++ textAfter sep cs := rfl

theorem completes_closing : Completes ")" [.mark .closing] := .of_run (by decide +kernel)

theorem separated_closing : Lexer.Separated ")" := ⟨_, _, rfl, rfl, rfl⟩

theorem completes_oneOf (column : Column) (n : Nat) :
    Completes (oneOf column n).text (oneOf column n).lexemes := by
  have hany : Completes (column.name ++ " = ANY(")
      [.word column.name, .mark .equal, .word "any", .mark .opening] := by
    cases column <;> exact .of_run (by decide +kernel)
  rw [text_oneOf]
  exact (hany.append_lexes (lexes_placeholder n)).append_completes completes_closing
    separated_closing

theorem completes_envelope (minX minY maxX maxY : Nat) :
    Completes (envelope minX minY maxX maxY).text (envelope minX minY maxX maxY).lexemes := by
  have hXMin : Completes "(ST_XMin(geometry) <= " [.mark .opening, .word "st_xmin",
      .mark .opening, .word "geometry", .mark .closing, .mark .atMost] :=
    .of_run (by decide +kernel)
  have hXMax : Completes " AND ST_XMax(geometry) >= " [.word "and", .word "st_xmax",
      .mark .opening, .word "geometry", .mark .closing, .mark .atLeast] :=
    .of_run (by decide +kernel)
  have hYMin : Completes " AND ST_YMin(geometry) <= " [.word "and", .word "st_ymin",
      .mark .opening, .word "geometry", .mark .closing, .mark .atMost] :=
    .of_run (by decide +kernel)
  have hYMax : Completes " AND ST_YMax(geometry) >= " [.word "and", .word "st_ymax",
      .mark .opening, .word "geometry", .mark .closing, .mark .atLeast] :=
    .of_run (by decide +kernel)
  have h₁ := hXMin.append_lexes (lexes_placeholder maxX)
  have h₂ := (h₁.append_completes hXMax ⟨_, _, rfl, rfl, rfl⟩).append_lexes (lexes_placeholder minX)
  have h₃ := (h₂.append_completes hYMin ⟨_, _, rfl, rfl, rfl⟩).append_lexes (lexes_placeholder maxY)
  have h₄ := (h₃.append_completes hYMax ⟨_, _, rfl, rfl, rfl⟩).append_lexes (lexes_placeholder minY)
  rw [text_envelope]
  exact h₄.append_completes completes_closing separated_closing

theorem completes_intersects (n : Nat) :
    Completes (intersects n).text (intersects n).lexemes := by
  have hcall : Completes "ST_Intersects(geometry, " [.word "st_intersects", .mark .opening,
      .word "geometry", .mark .comma] := .of_run (by decide +kernel)
  rw [text_intersects]
  exact (hcall.append (completes_geometryOf n)).append completes_closing

theorem completes_and : Completes " AND " [.word "and"] := .of_run (by decide +kernel)

theorem completes_or : Completes " OR " [.word "or"] := .of_run (by decide +kernel)

mutual

theorem lexes_text : ∀ c : Condition, Lexes c.text c.lexemes
  | all [] => .of_word (by decide +kernel)
  | all (c :: cs) => by
    have hopening : Completes "(" [.mark .opening] := .of_run (by decide +kernel)
    have hcs := lexes_textAfter completes_and ⟨_, _, rfl, rfl, rfl⟩ cs
      (hopening.append_lexes (lexes_text c))
    rw [text_all]
    exact (hcs.append_completes completes_closing separated_closing).lexes
  | any [] => .of_word (by decide +kernel)
  | any (c :: cs) => by
    have hopening : Completes "(" [.mark .opening] := .of_run (by decide +kernel)
    have hcs := lexes_textAfter completes_or ⟨_, _, rfl, rfl, rfl⟩ cs
      (hopening.append_lexes (lexes_text c))
    rw [text_any]
    exact (hcs.append_completes completes_closing separated_closing).lexes
  | oneOf column n => (completes_oneOf column n).lexes
  | envelope minX minY maxX maxY => (completes_envelope minX minY maxX maxY).lexes
  | intersects n => (completes_intersects n).lexes

/-- Further conditions after a text. -/
theorem lexes_textAfter {sep word : String} (hsep : Completes sep [.word word])
    (hs : Lexer.Separated sep) : ∀ (cs : List Condition) {a : String} {ls : List Lexeme},
      Lexes a ls → Lexes (a ++ textAfter sep cs) (ls ++ lexemesAfter word cs)
  | [], a, ls, h => by rwa [textAfter, String.append_empty, lexemesAfter, List.append_nil]
  | c :: cs, a, ls, h => by
    have hc := (h.append_completes hsep hs).append_lexes (lexes_text c)
    have hcs := lexes_textAfter hsep hs cs hc
    rw [textAfter_cons, ← String.append_assoc, ← String.append_assoc]
    simpa [lexemesAfter] using hcs

end

end Condition

end SpatialCatalog.Sql
