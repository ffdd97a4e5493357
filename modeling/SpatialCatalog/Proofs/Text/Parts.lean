import SpatialCatalog.Text.Blank
import Mathlib.Data.List.Basic

/-!
# Writing lists of parts

A list of parts is written with commas in between, with blanks around the parts where one likes, and
with pieces in between that hold nothing but blanks: `ListsParts`. What is read back are the parts,
if each is as a list can hold it (`IsPart`).
-/

namespace SpatialCatalog

/-! ### Blanks -/

/-- A text of blanks only. -/
def Blanks (s : List Char) : Prop := ∀ c ∈ s, isBlank c

instance (s : List Char) : Decidable (Blanks s) := List.decidableBAll _ s

/-- A text that a list can hold: it is not empty, has no comma, and neither begins nor ends with a
blank. -/
structure IsPart (t : List Char) : Prop where
  ne_nil : t ≠ []
  unseparated : ',' ∉ t
  head : ∀ c ∈ t.head?, ¬isBlank c
  last : ∀ c ∈ t.getLast?, ¬isBlank c

instance (t : List Char) : Decidable (IsPart t) :=
  -- Of one character, and not of all that there are.
  letI : Decidable (∀ c ∈ t.head?, ¬isBlank c) := Option.decidableForallMem _
  letI : Decidable (∀ c ∈ t.getLast?, ¬isBlank c) := Option.decidableForallMem _
  decidable_of_iff (t ≠ [] ∧ ',' ∉ t ∧ (∀ c ∈ t.head?, ¬isBlank c) ∧ ∀ c ∈ t.getLast?, ¬isBlank c)
    ⟨fun ⟨hne, hcomma, hhead, hlast⟩ => ⟨hne, hcomma, hhead, hlast⟩,
      fun ⟨hne, hcomma, hhead, hlast⟩ => ⟨hne, hcomma, hhead, hlast⟩⟩

/-- A text with blanks around it. -/
def Padded (t s : List Char) : Prop :=
  ∃ before behind, Blanks before ∧ Blanks behind ∧ s = before ++ t ++ behind

theorem Padded.refl (t : List Char) : Padded t t :=
  ⟨[], [], by simp [Blanks], by simp [Blanks], by simp⟩

theorem dropWhile_blanks {b : List Char} (hb : Blanks b) (s : List Char) :
    (b ++ s).dropWhile isBlank = s.dropWhile isBlank := by
  induction b with
  | nil => rfl
  | cons c b ih =>
    rw [Blanks, List.forall_mem_cons] at hb
    rw [List.cons_append, List.dropWhile_cons_of_pos hb.1, ih hb.2]

theorem dropWhile_eq_self {t : List Char} (h : ∀ c ∈ t.head?, ¬isBlank c) :
    t.dropWhile isBlank = t := by
  cases t with
  | nil => rfl
  | cons c t => exact List.dropWhile_cons_of_neg (h c rfl)

theorem Blanks.trim_eq {b : List Char} (hb : Blanks b) : trim b = [] := by
  have h := dropWhile_blanks hb []
  rw [List.append_nil] at h
  rw [trim, h]
  rfl

/-- Blanks around a part are trimmed. -/
theorem Padded.trim_eq {t s : List Char} (h : Padded t s) (ht : IsPart t) : trim s = t := by
  obtain ⟨before, behind, hbefore, hbehind, rfl⟩ := h
  have hhead : ∀ c ∈ (t ++ behind).head?, ¬isBlank c := by
    intro c hc
    rw [List.head?_append_of_ne_nil t ht.ne_nil] at hc
    exact ht.head c hc
  have hlast : ∀ c ∈ t.reverse.head?, ¬isBlank c := by
    intro c hc
    rw [List.head?_reverse] at hc
    exact ht.last c hc
  have hreverse : Blanks behind.reverse := fun c hc => hbehind c (List.mem_reverse.mp hc)
  rw [trim, List.append_assoc, dropWhile_blanks hbefore, dropWhile_eq_self hhead,
    List.reverse_append, dropWhile_blanks hreverse, dropWhile_eq_self hlast, List.reverse_reverse]

theorem IsPart.trim_eq {t : List Char} (h : IsPart t) : trim t = t := (Padded.refl t).trim_eq h

/-- A character that neither separates parts nor is trimmed. -/
def IsSolid (c : Char) : Prop := c ≠ ',' ∧ ¬isBlank c

instance : DecidablePred IsSolid := fun _ => inferInstanceAs (Decidable (_ ∧ _))

instance (t : List Char) : Decidable (∀ c ∈ t, IsSolid c) := List.decidableBAll _ t

theorem isPart_of_isSolid {t : List Char} (hne : t ≠ []) (h : ∀ c ∈ t, IsSolid c) : IsPart t where
  ne_nil := hne
  unseparated := fun hcomma => (h ',' hcomma).1 rfl
  head := fun c hc => (h c (List.mem_of_mem_head? hc)).2
  last := fun c hc => (h c (List.mem_of_getLast? hc)).2

/-! ### Lists -/

/-- The pieces between commas: parts in their order, each with blanks around it, and extra pieces of
blanks. -/
inductive Pieces : List (List Char) → List (List Char) → Prop
  | nil : Pieces [] []
  | extra {b : List Char} {ts pieces : List (List Char)} (blank : Blanks b)
      (rest : Pieces ts pieces) : Pieces ts (b :: pieces)
  | part {t s : List Char} {ts pieces : List (List Char)} (padded : Padded t s)
      (rest : Pieces ts pieces) : Pieces (t :: ts) (s :: pieces)

/-- A text lists parts. -/
def ListsParts (ts : List (List Char)) (s : List Char) : Prop :=
  ∃ pieces, Pieces ts pieces ∧ s = [','].intercalate pieces

theorem Blanks.unseparated {b : List Char} (hb : Blanks b) : ',' ∉ b := by
  intro hcomma
  exact absurd (hb ',' hcomma) (by decide)

theorem Padded.unseparated {t s : List Char} (h : Padded t s) (ht : ',' ∉ t) : ',' ∉ s := by
  obtain ⟨before, behind, hbefore, hbehind, rfl⟩ := h
  simp [hbefore.unseparated, hbehind.unseparated, ht]

/-- What is left of the pieces once they are trimmed are the parts. -/
theorem Pieces.trimmed {ts pieces : List (List Char)} (h : Pieces ts pieces)
    (hts : ∀ t ∈ ts, IsPart t) :
    (∀ s ∈ pieces, ',' ∉ s) ∧ (pieces.map trim).filter (fun part => !part.isEmpty) = ts := by
  induction h with
  | nil => exact ⟨by simp, rfl⟩
  | @extra b ts pieces blank rest ih =>
    obtain ⟨hunseparated, hfilter⟩ := ih hts
    refine ⟨List.forall_mem_cons.mpr ⟨blank.unseparated, hunseparated⟩, ?_⟩
    rw [List.map_cons, blank.trim_eq]
    exact hfilter
  | @part t s ts pieces padded rest ih =>
    rw [List.forall_mem_cons] at hts
    obtain ⟨hunseparated, hfilter⟩ := ih hts.2
    refine ⟨List.forall_mem_cons.mpr ⟨padded.unseparated hts.1.unseparated, hunseparated⟩, ?_⟩
    rw [List.map_cons, padded.trim_eq hts.1, List.filter_cons_of_pos, hfilter]
    simpa using hts.1.ne_nil

/-- **The parts that a text lists are read back.** -/
theorem ListsParts.parts_eq {ts : List (List Char)} {s : List Char} (h : ListsParts ts s)
    (hts : ∀ t ∈ ts, IsPart t) : parts s = ts := by
  obtain ⟨pieces, hpieces, rfl⟩ := h
  obtain ⟨hunseparated, hfilter⟩ := hpieces.trimmed hts
  cases pieces with
  | nil =>
    -- No piece and one empty piece are written alike.
    rw [← hfilter]
    rfl
  | cons s pieces =>
    rw [parts, splitCommas, List.splitOn_intercalate ',' hunseparated (by simp), hfilter]

end SpatialCatalog
