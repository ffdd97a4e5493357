import SpatialCatalog.Proofs.Search.Parameters

/-!
# What a directive stands for

A field is written as the name of a column, or as the keys of a path with dots in between. The text
of a directive is read as that key of a sort that it is written for, and as nothing else. Since
`SortField.text` writes back what is read, a field has one text only: no two texts sort on the same
column or path.
-/

namespace SpatialCatalog

/-! ### Splitting -/

theorem splitOn_cons_self (sep : Char) (s : List Char) :
    (sep :: s).splitOn sep = [] :: s.splitOn sep := by
  rw [List.splitOn, List.splitOnP_cons_eq_if_modifyHead, if_pos (beq_self_eq_true sep),
    ← List.splitOn]

/-- Any other character begins the first piece. -/
theorem splitOn_cons_of_ne {sep c : Char} {s first : List Char} {rest : List (List Char)}
    (hne : c ≠ sep) (h : s.splitOn sep = first :: rest) :
    (c :: s).splitOn sep = (c :: first) :: rest := by
  rw [List.splitOn, List.splitOnP_cons_eq_if_modifyHead, if_neg (by simpa using hne),
    ← List.splitOn, h, List.modifyHead_cons]

/-- A separator is in none of the pieces around it. -/
theorem not_mem_of_mem_splitOn {sep : Char} {s piece : List Char} (h : piece ∈ s.splitOn sep) :
    sep ∉ piece := by
  induction s generalizing piece with
  | nil =>
    obtain rfl := List.mem_singleton.mp h
    exact List.not_mem_nil
  | cons c s ih =>
    obtain ⟨first, rest, hs⟩ := List.exists_cons_of_ne_nil (List.splitOn_ne_nil sep s)
    by_cases hc : c = sep
    · rw [hc, splitOn_cons_self] at h
      obtain rfl | h := List.mem_cons.mp h
      · exact List.not_mem_nil
      · exact ih h
    · rw [splitOn_cons_of_ne hc hs] at h
      rw [hs] at ih
      obtain rfl | h := List.mem_cons.mp h
      · exact List.not_mem_cons_of_ne_of_not_mem (Ne.symm hc) (ih List.mem_cons_self)
      · exact ih (List.mem_cons_of_mem first h)

/-- The first piece is empty in front of a separator, or where there is no text. -/
theorem splitOn_head_eq_nil_iff {sep : Char} {s first : List Char} {rest : List (List Char)}
    (h : s.splitOn sep = first :: rest) : first = [] ↔ s = [] ∨ [sep] <+: s := by
  cases s with
  | nil =>
    obtain ⟨rfl, -⟩ := List.cons.inj h
    simp
  | cons c s =>
    obtain ⟨first', rest', hs⟩ := List.exists_cons_of_ne_nil (List.splitOn_ne_nil sep s)
    by_cases hc : c = sep
    · rw [hc, splitOn_cons_self] at h
      obtain ⟨rfl, -⟩ := List.cons.inj h
      simp [hc]
    · rw [splitOn_cons_of_ne hc hs] at h
      obtain ⟨rfl, -⟩ := List.cons.inj h
      simp [Ne.symm hc]

/-- A later piece is empty where a separator ends the text or is followed by another. -/
theorem nil_mem_tail_splitOn_iff {sep : Char} {s first : List Char} {rest : List (List Char)}
    (h : s.splitOn sep = first :: rest) : [] ∈ rest ↔ [sep] <:+ s ∨ [sep, sep] <:+: s := by
  induction s generalizing first rest with
  | nil =>
    obtain ⟨-, rfl⟩ := List.cons.inj h
    simp
  | cons c s ih =>
    obtain ⟨first', rest', hs⟩ := List.exists_cons_of_ne_nil (List.splitOn_ne_nil sep s)
    have hhead := splitOn_head_eq_nil_iff hs
    rw [List.suffix_cons_iff, List.infix_cons_iff]
    by_cases hc : c = sep
    · subst hc
      rw [splitOn_cons_self, hs] at h
      obtain ⟨-, rfl⟩ := List.cons.inj h
      have hsingleton : [c] = c :: s ↔ s = [] := by simp [eq_comm]
      have hpair : [c, c] <+: c :: s ↔ [c] <+: s := by simp [List.cons_prefix_cons]
      rw [List.mem_cons, eq_comm, hhead, ih hs, hsingleton, hpair]
      exact or_or_or_comm
    · rw [splitOn_cons_of_ne hc hs] at h
      obtain ⟨-, rfl⟩ := List.cons.inj h
      rw [ih hs]
      simp [Ne.symm hc]

/-! ### Fields -/

namespace SortField

/-- A key that a path can hold: it is not empty, and has no dot. -/
structure IsKey (k : String) : Prop where
  ne_empty : k ≠ ""
  undotted : '.' ∉ k.toList

instance (k : String) : Decidable (IsKey k) :=
  decidable_of_iff (k ≠ "" ∧ '.' ∉ k.toList)
    ⟨fun ⟨hne, hdot⟩ => ⟨hne, hdot⟩, fun ⟨hne, hdot⟩ => ⟨hne, hdot⟩⟩

/-- A text writes a field: it is the name of a column, or two keys at least with dots in between. -/
inductive WrittenAs : SortField → String → Prop
  | column (c : Column) : WrittenAs (column c) c.name
  | path {ks : List String} (length : 2 ≤ ks.length) (isKey : ∀ k ∈ ks, IsKey k) :
      WrittenAs (path ks) (".".intercalate ks)

theorem toList_intercalate_dot (ks : List String) :
    (".".intercalate ks).toList = ['.'].intercalate (ks.map String.toList) :=
  String.toList_intercalate

/-- The keys of a text with dots in between are the text. -/
theorem intercalate_keys (s : String) : ".".intercalate (keys s) = s := by
  have hid : String.toList ∘ String.ofList = id := funext fun _ => String.toList_ofList
  rw [← String.toList_inj, toList_intercalate_dot, keys, List.map_map, hid, List.map_id,
    List.intercalate_splitOn]

theorem undotted_of_mem_keys {s k : String} (h : k ∈ keys s) : '.' ∉ k.toList := by
  obtain ⟨piece, hpiece, rfl⟩ := List.mem_map.mp h
  rw [String.toList_ofList]
  exact not_mem_of_mem_splitOn hpiece

theorem keys_ne_nil (s : String) : keys s ≠ [] :=
  fun h => List.splitOn_ne_nil '.' s.toList (List.map_eq_nil_iff.mp h)

/-- A text with a dot has two keys at least. -/
theorem two_le_length_keys {s : String} (h : '.' ∈ s.toList) : 2 ≤ (keys s).length := by
  have hs := intercalate_keys s
  rcases hkeys : keys s with _ | ⟨k, _ | ⟨k', ks⟩⟩
  · exact absurd hkeys (keys_ne_nil s)
  · rw [hkeys] at hs
    obtain rfl : k = s := by simpa using hs
    exact absurd h (undotted_of_mem_keys (hkeys ▸ List.mem_cons_self))
  · simp

variable {ks : List String}

/-- The keys of a path are those that it is written with. -/
theorem keys_intercalate (hne : ks ≠ []) (h : ∀ k ∈ ks, '.' ∉ k.toList) :
    keys (".".intercalate ks) = ks := by
  have hundotted : ∀ l ∈ ks.map String.toList, '.' ∉ l := by
    intro l hl
    obtain ⟨k, hk, rfl⟩ := List.mem_map.mp hl
    exact h k hk
  have hid : String.ofList ∘ String.toList = id := funext fun _ => String.ofList_toList
  rw [keys, toList_intercalate_dot, List.splitOn_intercalate '.' hundotted (by simpa using hne),
    List.map_map, hid, List.map_id]

/-- The keys of a text without an empty piece can be those of a path. -/
theorem isKey_of_mem_keys {s k : String} (hempty : "" ∉ keys s) (hk : k ∈ keys s) : IsKey k :=
  ⟨fun heq => hempty (heq ▸ hk), undotted_of_mem_keys hk⟩

theorem keys_intercalate_of_isKey (length : 2 ≤ ks.length) (isKey : ∀ k ∈ ks, IsKey k) :
    keys (".".intercalate ks) = ks ∧ "" ∉ ks := by
  have hnil : ks ≠ [] := by
    rintro rfl
    simp at length
  exact ⟨keys_intercalate hnil fun k hk => (isKey k hk).undotted,
    fun hmem => (isKey "" hmem).ne_empty rfl⟩

theorem dot_mem_intercalate (h : 2 ≤ ks.length) : '.' ∈ (".".intercalate ks).toList := by
  rcases ks with _ | ⟨k, _ | ⟨k', ks⟩⟩
  · simp at h
  · simp at h
  · rw [toList_intercalate_dot]
    simp [List.intercalate]

/-- A text that is divided by dots, without an empty piece: no dot is at an end or next to
another. -/
structure Dotted (s : String) : Prop where
  dot_mem : '.' ∈ s.toList
  head : ¬['.'] <+: s.toList
  last : ¬['.'] <:+ s.toList
  apart : ¬['.', '.'] <:+: s.toList

/-- A key is empty where a dot is at an end or next to another. -/
theorem empty_mem_keys_iff {s : String} (h : '.' ∈ s.toList) :
    "" ∈ keys s ↔ ['.'] <+: s.toList ∨ ['.'] <:+ s.toList ∨ ['.', '.'] <:+: s.toList := by
  have hne : s.toList ≠ [] := List.ne_nil_of_mem h
  have hempty : "" ∈ keys s ↔ [] ∈ s.toList.splitOn '.' := by
    simp [keys]
  obtain ⟨first, rest, hs⟩ := List.exists_cons_of_ne_nil (List.splitOn_ne_nil '.' s.toList)
  rw [hempty, hs, List.mem_cons, eq_comm, splitOn_head_eq_nil_iff hs, nil_mem_tail_splitOn_iff hs]
  simp [hne]

/-- The texts of paths are those that are divided by dots. -/
theorem dotted_iff_exists_keys {s : String} :
    Dotted s ↔
      ∃ ks : List String, 2 ≤ ks.length ∧ (∀ k ∈ ks, IsKey k) ∧ s = ".".intercalate ks := by
  constructor
  · intro h
    have hempty : "" ∉ keys s := by
      rw [empty_mem_keys_iff h.dot_mem]
      exact not_or.mpr ⟨h.head, not_or.mpr ⟨h.last, h.apart⟩⟩
    exact ⟨keys s, two_le_length_keys h.dot_mem, fun k => isKey_of_mem_keys hempty,
      (intercalate_keys s).symm⟩
  · rintro ⟨ks, length, isKey, rfl⟩
    have hdot := dot_mem_intercalate length
    obtain ⟨hkeys, hempty⟩ := keys_intercalate_of_isKey length isKey
    rw [← hkeys, empty_mem_keys_iff hdot, not_or, not_or] at hempty
    exact ⟨hdot, hempty.1, hempty.2.1, hempty.2.2⟩

/-- **A field is read from what writes it, and from nothing else.** -/
theorem parse_eq_ok_iff_writtenAs {s : String} {f : SortField} :
    parse s = .ok f ↔ f.WrittenAs s := by
  constructor
  · intro h
    unfold parse at h
    split at h
    next hs => cases h; exact hs ▸ .column .id
    split at h
    next hs => cases h; exact hs ▸ .column .collection
    split at h
    next hdot =>
      split at h
      · cases h
      next hempty =>
        cases h
        have hwritten := WrittenAs.path (two_le_length_keys hdot) fun k => isKey_of_mem_keys hempty
        rwa [intercalate_keys] at hwritten
    next => cases h
  · intro h
    cases h with
    | column c => cases c <;> rfl
    | @path ks length isKey =>
      have hdot := dot_mem_intercalate length
      have hne : ∀ c : Column, ".".intercalate ks ≠ c.name := by
        intro c heq
        rw [heq] at hdot
        cases c <;> exact absurd hdot (by decide)
      obtain ⟨hkeys, hempty⟩ := keys_intercalate_of_isKey length isKey
      rw [parse, if_neg (hne .id), if_neg (hne .collection), if_pos hdot, hkeys, if_neg hempty]

end SortField

/-! ### Directives -/

theorem Direction.parse_eq_ok_iff_names {s : String} {d : Direction} :
    parse s = .ok d ↔ d.Names s := by
  refine ⟨fun h => ?_, parse_eq_ok_of_names⟩
  have hnames : ∀ d' : Direction, String.ofList (s.toList.map Char.toLower) = d'.word →
      d'.Names s := by
    intro d' hs
    rw [Names, ← hs, String.toList_ofList]
  unfold parse at h
  dsimp only at h
  split at h
  next hs => cases h; exact hnames .ascending hs
  split at h
  next hs => cases h; exact hnames .descending hs
  next => cases h

/-- A directive stands for a key of a sort. -/
structure SortBy.StandsFor (d : SortBy) (key : SortKey) : Prop where
  field : key.field.WrittenAs d.field
  direction : key.direction.Names d.direction

theorem Search.sortKey_eq_ok_iff {d : SortBy} {key : SortKey} :
    sortKey d = .ok key ↔ d.StandsFor key := by
  simp only [sortKey, SortBy.resolve, map_eq_ok_iff, bind_eq_ok_iff,
    SortField.parse_eq_ok_iff_writtenAs, Direction.parse_eq_ok_iff_names]
  constructor
  · rintro ⟨_, ⟨field, hfield, direction, hdirection, rfl⟩, rfl⟩
    exact ⟨hfield, hdirection⟩
  · rintro ⟨hfield, hdirection⟩
    exact ⟨_, ⟨key.field, hfield, key.direction, hdirection, rfl⟩, rfl⟩

/-! ### Fields and their texts -/

namespace SortField

/-- What a field is written as. -/
def text : SortField → String
  | column c => c.name
  | path ks => ".".intercalate ks

theorem WrittenAs.text_eq {f : SortField} {s : String} (h : f.WrittenAs s) : f.text = s := by
  cases h <;> rfl

/-- A text writes a field just when it is the name of a column or the text of a path. -/
theorem exists_writtenAs_iff {s : String} :
    (∃ f, WrittenAs f s) ↔ s = "id" ∨ s = "collection" ∨
      ∃ ks : List String, 2 ≤ ks.length ∧ (∀ k ∈ ks, IsKey k) ∧ s = ".".intercalate ks := by
  constructor
  · rintro ⟨f, h⟩
    cases h with
    | column c =>
      cases c with
      | id => exact .inl rfl
      | collection => exact .inr (.inl rfl)
    | path length isKey => exact .inr (.inr ⟨_, length, isKey, rfl⟩)
  · rintro (rfl | rfl | ⟨ks, length, isKey, rfl⟩)
    · exact ⟨_, .column .id⟩
    · exact ⟨_, .column .collection⟩
    · exact ⟨_, .path length isKey⟩

/-- **Reading a field can be reversed.** Read are the names of the columns and the texts that are
divided by dots, and nothing else; the field that is read is written as the text that it is read
from; every path is read from its text. So no two directives that differ in the texts of their
fields sort on one column or path. -/
theorem parse_reversible :
    (∀ s, (∃ f, parse s = .ok f) ↔ s = "id" ∨ s = "collection" ∨
      ∃ ks : List String, 2 ≤ ks.length ∧ (∀ k ∈ ks, IsKey k) ∧ s = ".".intercalate ks) ∧
    (∀ s, (∃ f, parse s = .ok f) ↔ s = "id" ∨ s = "collection" ∨ Dotted s) ∧
    (∀ s f, parse s = .ok f → f.text = s) ∧
    (∀ ks : List String, 2 ≤ ks.length → (∀ k ∈ ks, IsKey k) →
      parse (".".intercalate ks) = .ok (path ks)) ∧
    (∀ s t f, parse s = .ok f → parse t = .ok f → s = t) ∧
    ∀ (d e : SortBy) (k l : SortKey), Search.sortKey d = .ok k → Search.sortKey e = .ok l →
      k.field = l.field → d.field = e.field := by
  have haccepted : ∀ s, (∃ f, parse s = .ok f) ↔ ∃ f, WrittenAs f s := fun s =>
    exists_congr fun f => parse_eq_ok_iff_writtenAs
  refine ⟨fun s => (haccepted s).trans exists_writtenAs_iff, fun s => ?_, fun s f h => ?_,
    fun ks length isKey => ?_, fun s t f hs ht => ?_, fun d e k l hk hl heq => ?_⟩
  · rw [haccepted, exists_writtenAs_iff, dotted_iff_exists_keys]
  · exact (parse_eq_ok_iff_writtenAs.mp h).text_eq
  · exact parse_eq_ok_iff_writtenAs.mpr (.path length isKey)
  · rw [parse_eq_ok_iff_writtenAs] at hs ht
    rw [← hs.text_eq, ht.text_eq]
  · rw [Search.sortKey_eq_ok_iff] at hk hl
    rw [← hk.field.text_eq, heq, hl.field.text_eq]

theorem parse_reversible_datetime :
    parse "properties.datetime" = .ok (path ["properties", "datetime"]) :=
  parse_reversible.2.2.2.1 ["properties", "datetime"] (by decide) (by decide +kernel)

end SortField

end SpatialCatalog
