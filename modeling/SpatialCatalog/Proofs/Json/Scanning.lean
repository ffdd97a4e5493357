import SpatialCatalog.Json.Text
import SpatialCatalog.Proofs.Number.Digits
import SpatialCatalog.Proofs.Number.Layout

/-!
# Scanning what was written

The scanner reads the text of a token and completes that token. Only a number has no end of its
own: it is complete when the next character is a delimiter, which `Scan.Has` takes into account. In
the tokens of a tree a number is always followed by one.
-/

namespace SpatialCatalog

/-! ### Numbers -/

namespace NumberState

/-- The state after the text of a numeral. -/
def after (m : Numeral) : NumberState :=
  match m.exponent with
  | some e => exponent m.negative m.whole m.fraction e.negative e.digits.reverse
  | none =>
    if m.fraction.isEmpty then whole m.negative m.whole.reverse
    else fraction m.negative m.whole m.fraction.reverse

@[simp] theorem numeral?_after (m : Numeral) : (after m).numeral? = some m := by
  obtain ⟨negative, w, f, e⟩ := m
  unfold after
  cases e with
  | some e => simp [numeral?]
  | none => cases f <;> simp [numeral?]

/-- The characters that end a number: neither digits nor signs of any kind. -/
def IsDelimiter (c : Char) : Prop := c = ',' ∨ c = ']' ∨ c = '}'

theorem step?_delimiter (m : Numeral) {c : Char} (h : IsDelimiter c) :
    (after m).step? c = none := by
  obtain ⟨negative, w, f, e⟩ := m
  unfold after
  have hdigit : Digit.ofChar? c = none := by obtain rfl | rfl | rfl := h <;> rfl
  have hmark : c ≠ '.' ∧ c ≠ 'e' ∧ c ≠ 'E' := by obtain rfl | rfl | rfl := h <;> decide
  cases e <;> cases f <;> simp [step?, hdigit, hmark]

theorem step?_whole (negative : Bool) {ds : List Digit} (h : ds ≠ [0]) (d : Digit) :
    (whole negative ds).step? d.toChar = some (whole negative (d :: ds)) := by
  unfold step?
  rw [Digit.ofChar?_toChar]
  split <;> simp_all

theorem step?_fraction (negative : Bool) (w ds : List Digit) (d : Digit) :
    (fraction negative w ds).step? d.toChar = some (fraction negative w (d :: ds)) := by
  simp [step?]

theorem step?_exponent (negative : Bool) (w f : List Digit) (down : Bool) (ds : List Digit)
    (d : Digit) : (exponent negative w f down ds).step? d.toChar =
      some (exponent negative w f down (d :: ds)) := by
  simp [step?]

theorem run_whole (negative : Bool) (ds es : List Digit) (hne : ds ≠ []) (h : ds ≠ [0] ∨ es = []) :
    (es.map Digit.toChar).foldlM step? (whole negative ds) =
      some (whole negative (es.reverse ++ ds)) := by
  induction es generalizing ds with
  | nil => rfl
  | cons e es ih =>
    -- Nothing but zero begins with a zero, so a further digit is accepted.
    have hzero : ds ≠ [0] := h.resolve_right (List.cons_ne_nil e es)
    rw [List.map_cons, List.foldlM_cons, step?_whole negative hzero]
    have hds : e :: ds ≠ [0] := by simp [hne]
    simpa using ih (e :: ds) (List.cons_ne_nil e ds) (.inl hds)

theorem run_fraction (negative : Bool) (w ds es : List Digit) :
    (es.map Digit.toChar).foldlM step? (fraction negative w ds) =
      some (fraction negative w (es.reverse ++ ds)) := by
  induction es generalizing ds with
  | nil => rfl
  | cons e es ih =>
    rw [List.map_cons, List.foldlM_cons, step?_fraction]
    simpa using ih (e :: ds)

theorem run_exponent (negative : Bool) (w f : List Digit) (down : Bool) (ds es : List Digit) :
    (es.map Digit.toChar).foldlM step? (exponent negative w f down ds) =
      some (exponent negative w f down (es.reverse ++ ds)) := by
  induction es generalizing ds with
  | nil => rfl
  | cons e es ih =>
    rw [List.map_cons, List.foldlM_cons, step?_exponent]
    simpa using ih (e :: ds)

/-- The characters of an exponent. -/
def exponentText : Option Exponent → List Char
  | none => []
  | some e => 'e' :: (if e.negative then '-' else '+') :: e.digits.map Digit.toChar

/-- The characters of a fraction. -/
def fractionText (f : List Digit) : List Char :=
  if f.isEmpty then [] else '.' :: f.map Digit.toChar

theorem text_eq (m : Numeral) : m.text = (if m.negative then ['-'] else []) ++
    m.whole.map Digit.toChar ++ fractionText m.fraction ++ exponentText m.exponent := by
  obtain ⟨negative, w, f, _ | e⟩ := m <;> rfl

theorem run_exponentText (negative : Bool) (w f : List Digit) (e : Option Exponent)
    (he : ∀ x ∈ e, x.digits ≠ []) :
    (exponentText e).foldlM step? (after ⟨negative, w, f, none⟩) =
      some (after ⟨negative, w, f, e⟩) := by
  cases e with
  | none => rfl
  | some x =>
    obtain ⟨down, digits⟩ := x
    obtain _ | ⟨d, ds⟩ := digits
    · exact absurd rfl (he _ rfl)
    have hmark : (after ⟨negative, w, f, none⟩).step? 'e' = some (mark negative w f) := by
      cases f with
      | nil => simp [after, step?, show Digit.ofChar? 'e' = none from rfl]
      | cons x xs => simp [after, step?, show Digit.ofChar? 'e' = none from rfl]
    have hsign : (mark negative w f).step? (if down then '-' else '+') =
        some (markSign negative w f down) := by
      cases down <;> rfl
    have hfirst : (markSign negative w f down).step? d.toChar =
        some (exponent negative w f down [d]) := by
      simp [step?]
    simp only [exponentText, List.foldlM_cons, List.map_cons, hmark, hsign, hfirst,
      Option.bind_eq_bind, Option.bind_some, run_exponent]
    simp [after]

theorem run_fractionText (negative : Bool) (w f : List Digit) :
    (fractionText f).foldlM step? (whole negative w.reverse) =
      some (after ⟨negative, w, f, none⟩) := by
  obtain _ | ⟨d, ds⟩ := f
  · rfl
  · have hpoint : (whole negative w.reverse).step? '.' = some (point negative w) := by
      simp [step?, show Digit.ofChar? '.' = none from rfl]
    have hfirst : (point negative w).step? d.toChar = some (fraction negative w [d]) := by
      simp [step?]
    simp only [fractionText, List.isEmpty_cons, Bool.false_eq_true, if_false, List.foldlM_cons,
      List.map_cons, hpoint, hfirst, Option.bind_eq_bind, Option.bind_some, run_fraction]
    simp [after]

end NumberState

namespace Scan

theorem step?_number {n n' : NumberState} {c : Char} (h : n.step? c = some n') (ts : List Token) :
    step? ⟨.number n, ts⟩ c = some ⟨.number n', ts⟩ := by
  simp [step?, h]

theorem run_number {n n' : NumberState} {cs : List Char} (ts : List Token)
    (h : cs.foldlM NumberState.step? n = some n') :
    cs.foldlM step? ⟨.number n, ts⟩ = some ⟨.number n', ts⟩ := by
  induction cs generalizing n with
  | nil =>
    obtain rfl := Option.some.inj h
    rfl
  | cons c cs ih =>
    rw [List.foldlM_cons] at h
    obtain ⟨n₁, hstep, hrest⟩ := Option.bind_eq_some_iff.mp h
    rw [List.foldlM_cons, step?_number hstep]
    exact ih hrest

theorem step?_between (ts : List Token) (c : Char) :
    step? ⟨.between, ts⟩ c = begin? ⟨.between, ts⟩ c := rfl

theorem begin?_digit (s : Scan) (d : Digit) :
    s.begin? d.toChar = some { s with state := .number (.whole false [d]) } := by
  match d with
  | 0 | 1 | 2 | 3 | 4 | 5 | 6 | 7 | 8 | 9 => rfl

/-- The text of a numeral is read up to its end. -/
theorem run_numeral {m : Numeral} (h : m.WellFormed) (ts : List Token) :
    m.text.foldlM step? ⟨.between, ts⟩ = some ⟨.number (.after m), ts⟩ := by
  obtain ⟨negative, w, f, e⟩ := m
  obtain ⟨hwhole, hexponent⟩ := h
  obtain ⟨d, ds, rfl, hd⟩ : ∃ d ds, w = d :: ds ∧ (d ≠ 0 ∨ ds = []) := by
    cases hwhole with
    | zero => exact ⟨0, [], rfl, .inr rfl⟩
    | leading hd ds => exact ⟨_, ds, rfl, .inl hd⟩
  -- The sign and the first digit lead to the same state, with either sign.
  have hfirst : ((if negative then ['-'] else []) ++ [d.toChar]).foldlM step? ⟨.between, ts⟩ =
      some ⟨.number (.whole negative [d]), ts⟩ := by
    cases negative with
    | false => simp [step?_between, begin?_digit]
    | true =>
      have hminus : step? ⟨.between, ts⟩ '-' = some ⟨.number .sign, ts⟩ := rfl
      have hdigit : NumberState.sign.step? d.toChar = some (.whole true [d]) := by
        simp [NumberState.step?]
      simp [hminus, step?_number hdigit]
  have hdigits := NumberState.run_whole negative [d] ds (List.cons_ne_nil d [])
    (hd.imp_left fun h0 h1 => h0 (List.cons.inj h1).1)
  rw [← List.reverse_cons] at hdigits
  have hfraction := NumberState.run_fractionText negative (d :: ds) f
  have hlast := NumberState.run_exponentText negative (d :: ds) f e hexponent
  have hsplit : Numeral.text ⟨negative, d :: ds, f, e⟩ =
      ((if negative then ['-'] else []) ++ [d.toChar]) ++ (ds.map Digit.toChar ++
        (NumberState.fractionText f ++ NumberState.exponentText e)) := by
    simp only [NumberState.text_eq, List.map_cons, List.append_assoc, List.cons_append,
      List.nil_append]
  rw [hsplit, List.foldlM_append, hfirst]
  refine run_number ts ?_
  simp only [List.foldlM_append, hdigits, hfraction, hlast, Option.bind_eq_bind, Option.bind_some]

end Scan

/-! ### Strings -/

/-- The pieces that a writer makes: a control is one of the short escapes or a unit. -/
def Piece.WellFormed : Piece → Prop
  | .char c => c < ' ' → c ∈ ['\x08', '\t', '\n', '\x0c', '\r']
  | .unit n => n < 65536

theorem Piece.wellFormed_ofChar (c : Char) : (Piece.ofChar c).WellFormed := by
  unfold ofChar
  split
  next h =>
    have : c.toNat < ' '.toNat := UInt32.lt_iff_toNat_lt.mp (Char.lt_def.mp h.1)
    have hspace : ' '.toNat = 32 := rfl
    unfold WellFormed
    omega
  next h =>
    intro hc
    by_contra hmem
    exact h ⟨hc, hmem⟩

theorem hexDigit?_digitChar (n : Nat) : hexDigit? (Nat.digitChar (n % 16)) = some (n % 16) := by
  have h : ∀ d : Fin 16, hexDigit? (Nat.digitChar d.val) = some d.val := by decide
  exact h ⟨n % 16, Nat.mod_lt _ (by decide)⟩

namespace Scan

theorem step?_unit (ps : List Piece) (value missing n : Nat) (ts : List Token) :
    step? ⟨.unit ps value (missing + 1), ts⟩ (Nat.digitChar (n % 16)) =
      some ⟨.unit ps (16 * value + n % 16) missing, ts⟩ := by
  simp [step?, hexDigit?_digitChar]

theorem step?_lastUnit (ps : List Piece) (value n : Nat) (ts : List Token) :
    step? ⟨.unit ps value 0, ts⟩ (Nat.digitChar (n % 16)) =
      some ⟨.string (.unit (16 * value + n % 16) :: ps), ts⟩ := by
  simp [step?, hexDigit?_digitChar]

theorem run_piece {p : Piece} (h : p.WellFormed) (ps : List Piece) (ts : List Token) :
    p.text.foldlM step? ⟨.string ps, ts⟩ = some ⟨.string (p :: ps), ts⟩ := by
  unfold Piece.text
  split
  · rfl
  · rfl
  · rfl
  · rfl
  · rfl
  · rfl
  · rfl
  next c hquote hslash hback htab hline hfeed hreturn =>
    -- No control is left, as each of them has a short escape.
    have hcontrol : ¬c < ' ' := by
      intro hc
      have := h hc
      simp_all
    have hq : c ≠ '"' := fun h => hquote (by rw [h])
    have hs : c ≠ '\\' := fun h => hslash (by rw [h])
    simp [step?, hq, hs, hcontrol]
  next n =>
    have hn : n < 65536 := h
    have hescape : step? ⟨.string ps, ts⟩ '\\' = some ⟨.escape ps, ts⟩ := rfl
    have hunit : step? ⟨.escape ps, ts⟩ 'u' = some ⟨.unit ps 0 3, ts⟩ := rfl
    -- The four hexadecimal digits of a unit are its value again.
    have hvalue : 16 * (16 * (16 * (16 * 0 + n / 4096 % 16) + n / 256 % 16) + n / 16 % 16) +
        n % 16 = n := by
      omega
    simp only [hexUnit, List.map_cons, List.map_nil, List.foldlM_cons, List.foldlM_nil, hescape,
      hunit, step?_unit, step?_lastUnit, Option.bind_eq_bind, Option.bind_some, hvalue]
    rfl

theorem run_pieces {ps : List Piece} (h : ∀ p ∈ ps, p.WellFormed) (qs : List Piece)
    (ts : List Token) : (ps.flatMap Piece.text).foldlM step? ⟨.string qs, ts⟩ =
      some ⟨.string (ps.reverse ++ qs), ts⟩ := by
  induction ps generalizing qs with
  | nil => rfl
  | cons p ps ih =>
    rw [List.flatMap_cons, List.foldlM_append, run_piece (h p List.mem_cons_self)]
    simpa using ih (fun q hq => h q (List.mem_cons_of_mem p hq)) (p :: qs)

end Scan

/-! ### Tokens -/

/-- The tokens that a writer makes. -/
def Token.WellFormed : Token → Prop
  | .num m => m.WellFormed
  | .str pieces => ∀ p ∈ pieces, p.WellFormed
  | _ => True

/-- The tokens that may follow a number. -/
def Token.IsDelimiter (t : Token) : Prop := t = .comma ∨ t = .endArray ∨ t = .endObject

namespace Scan

/-- The scanner has the tokens `ts`, the last one first; that one may be a number whose end has not
been seen. -/
inductive Has : Scan → List Token → Prop where
  | complete (ts : List Token) : Has ⟨.between, ts⟩ ts
  | pending (m : Numeral) (ts : List Token) : Has ⟨.number (.after m), ts⟩ (.num m :: ts)

theorem Has.finish? {s : Scan} {ts : List Token} (h : s.Has ts) : s.finish? = some ts.reverse := by
  cases h <;> simp [Scan.finish?, emit]

/-- The text of a token gives the token. -/
theorem run_token {t : Token} (h : t.WellFormed) (ts : List Token) :
    ∃ s, t.text.foldlM step? ⟨.between, ts⟩ = some s ∧ s.Has (t :: ts) := by
  cases t with
  | num m => exact ⟨_, run_numeral h ts, .pending m ts⟩
  | str pieces =>
    refine ⟨_, ?_, .complete _⟩
    have hopen : step? ⟨.between, ts⟩ '"' = some ⟨.string [], ts⟩ := rfl
    simp only [Token.text, List.cons_append, List.foldlM_cons, List.foldlM_append, hopen,
      run_pieces h, Option.bind_eq_bind, Option.bind_some]
    simp [step?, emit]
  | bool b => cases b <;> exact ⟨_, rfl, .complete _⟩
  | _ => exact ⟨_, rfl, .complete _⟩

/-- A delimiter ends a number that comes before it. -/
theorem run_delimiter {t : Token} (h : t.IsDelimiter) {s : Scan} {ts : List Token} (hs : s.Has ts) :
    t.text.foldlM step? s = some ⟨.between, t :: ts⟩ := by
  cases hs with
  | complete => obtain rfl | rfl | rfl := h <;> rfl
  | pending m ts =>
    have hdelimiter : ∀ c, NumberState.IsDelimiter c →
        step? ⟨.number (.after m), ts⟩ c = begin? ⟨.between, .num m :: ts⟩ c := by
      intro c hc
      simp [step?, NumberState.step?_delimiter m hc, emit]
    obtain rfl | rfl | rfl := h
    · simp [Token.text, hdelimiter ',' (.inl rfl), begin?, emit]
    · simp [Token.text, hdelimiter ']' (.inr (.inl rfl)), begin?, emit]
    · simp [Token.text, hdelimiter '}' (.inr (.inr rfl)), begin?, emit]

/-- Read the texts of tokens. -/
def run? (s : Scan) (ts : List Token) : Option Scan := (ts.flatMap Token.text).foldlM step? s

theorem run?_cons (s : Scan) (t : Token) (ts : List Token) :
    s.run? (t :: ts) = (t.text.foldlM step? s).bind (·.run? ts) := by
  rw [run?, List.flatMap_cons, List.foldlM_append]
  rfl

theorem run?_append (s : Scan) (ts us : List Token) :
    s.run? (ts ++ us) = (s.run? ts).bind (·.run? us) := by
  rw [run?, List.flatMap_append, List.foldlM_append]
  rfl

/-- A token that is no number leaves nothing pending. -/
theorem run?_complete (t : Token) (h : t.WellFormed) (hnum : ∀ m, t ≠ .num m) (ts us : List Token) :
    run? ⟨.between, ts⟩ (t :: us) = run? ⟨.between, t :: ts⟩ us := by
  obtain ⟨s, hs, hhas⟩ := run_token h ts
  rw [run?_cons, hs]
  cases hhas with
  | complete => rfl
  | pending m => exact absurd rfl (hnum m)

theorem run?_delimiter {t : Token} (h : t.IsDelimiter) {s : Scan} {ts : List Token} (hs : s.Has ts)
    (us : List Token) : s.run? (t :: us) = run? ⟨.between, t :: ts⟩ us := by
  rw [run?_cons, run_delimiter h hs]
  rfl

end Scan

/-! ### Trees -/

namespace Source

mutual

/-- All tokens of the tree are well formed. -/
def WellFormed : Source → Prop
  | num m => m.WellFormed
  | str pieces => ∀ p ∈ pieces, p.WellFormed
  | arr items => ItemsWellFormed items
  | obj members => MembersWellFormed members
  | _ => True

def ItemsWellFormed : List Source → Prop
  | [] => True
  | x :: xs => x.WellFormed ∧ ItemsWellFormed xs

def MembersWellFormed : List (List Piece × Source) → Prop
  | [] => True
  | (k, v) :: ms => (∀ p ∈ k, p.WellFormed) ∧ v.WellFormed ∧ MembersWellFormed ms

end

mutual

/-- The text of a tree gives its tokens. -/
theorem run?_tokens : ∀ (x : Source), x.WellFormed → ∀ ts : List Token,
    ∃ s, Scan.run? ⟨.between, ts⟩ x.tokens = some s ∧ s.Has (x.tokens.reverse ++ ts)
  | null, _, ts => ⟨_, rfl, .complete _⟩
  | bool b, _, ts => by cases b <;> exact ⟨_, rfl, .complete _⟩
  | num m, h, ts => by
    obtain ⟨s, hs, hhas⟩ := Scan.run_token (t := .num m) h ts
    exact ⟨s, by rw [tokens, Scan.run?_cons, hs]; rfl, hhas⟩
  | str pieces, h, ts => by
    refine ⟨_, ?_, .complete _⟩
    rw [tokens, Scan.run?_complete (.str pieces) h (by simp)]
    rfl
  | arr [], _, ts => ⟨_, rfl, .complete _⟩
  | arr (x :: xs), h, ts => by
    obtain ⟨s, hs, hhas⟩ := run?_tokens x h.1 (.beginArray :: ts)
    refine ⟨_, ?_, .complete _⟩
    rw [tokens, Scan.run?_complete .beginArray trivial (by simp), Scan.run?_append, hs,
      Option.bind_some, run?_itemTokens xs h.2 hhas]
    simp
  | obj [], _, ts => ⟨_, rfl, .complete _⟩
  | obj ((k, v) :: ms), h, ts => by
    obtain ⟨hk, hv, hms⟩ := h
    obtain ⟨s, hs, hhas⟩ := run?_tokens v hv (.colon :: .str k :: .beginObject :: ts)
    refine ⟨_, ?_, .complete _⟩
    rw [tokens, Scan.run?_complete .beginObject trivial (by simp),
      Scan.run?_complete (.str k) hk (by simp), Scan.run?_complete .colon trivial (by simp),
      Scan.run?_append, hs, Option.bind_some, run?_memberTokens ms hms hhas]
    simp

/-- Further items come after a complete item, which may be a number. -/
theorem run?_itemTokens : ∀ (xs : List Source), ItemsWellFormed xs → ∀ {s : Scan} {ts : List Token},
    s.Has ts → s.run? (itemTokens xs) = some ⟨.between, (itemTokens xs).reverse ++ ts⟩
  | [], _, s, ts, hs => by
    rw [itemTokens, Scan.run?_delimiter (.inr (.inl rfl)) hs]
    rfl
  | x :: xs, h, s, ts, hs => by
    obtain ⟨s', hs', hhas⟩ := run?_tokens x h.1 (.comma :: ts)
    rw [itemTokens, Scan.run?_delimiter (.inl rfl) hs, Scan.run?_append, hs', Option.bind_some,
      run?_itemTokens xs h.2 hhas]
    simp

theorem run?_memberTokens : ∀ (ms : List (List Piece × Source)), MembersWellFormed ms →
    ∀ {s : Scan} {ts : List Token}, s.Has ts →
      s.run? (memberTokens ms) = some ⟨.between, (memberTokens ms).reverse ++ ts⟩
  | [], _, s, ts, hs => by
    rw [memberTokens, Scan.run?_delimiter (.inr (.inr rfl)) hs]
    rfl
  | (k, v) :: ms, h, s, ts, hs => by
    obtain ⟨hk, hv, hms⟩ := h
    obtain ⟨s', hs', hhas⟩ := run?_tokens v hv (.colon :: .str k :: .comma :: ts)
    rw [memberTokens, Scan.run?_delimiter (.inl rfl) hs, Scan.run?_complete (.str k) hk (by simp),
      Scan.run?_complete .colon trivial (by simp), Scan.run?_append, hs', Option.bind_some,
      run?_memberTokens ms hms hhas]
    simp

end

/-- **The text of a well-formed tree is scanned as its tokens.** -/
theorem scan?_tokens {x : Source} (h : x.WellFormed) :
    Token.scan? (x.tokens.flatMap Token.text) = some x.tokens := by
  obtain ⟨s, hs, hhas⟩ := run?_tokens x h []
  have hrun : (x.tokens.flatMap Token.text).foldlM Scan.step? {} = some s := hs
  rw [Token.scan?, hrun, Option.bind_some, hhas.finish?]
  simp

end Source

end SpatialCatalog
