import SpatialCatalog.Plan
import SpatialCatalog.Proofs.Number.Decimal
import SpatialCatalog.Search.Parameters

/-!
# Searches written as parameters

A search without geometries can be asked for with request parameters. `SearchParameters.Express`
says how one writes it: lists with commas and as many blanks as one likes, a direction as the sign
in front of a field, and numbers in any way that is read as the number. `Search.Expressible` says
which searches can be written. What the parameters are read as is the same search with its
directions in lower case, and it is compiled in the same way.
-/

namespace SpatialCatalog

/-! ### Directives -/

namespace Direction

/-- A text is the word for a direction, in any letter case. -/
def Names (d : Direction) (s : String) : Prop := s.toList.map Char.toLower = d.word.toList

/-- What is written in front of a field. -/
def sign : Direction → Char
  | ascending => '+'
  | descending => '-'

theorem parse_eq_ok_of_names {d : Direction} {s : String} (h : d.Names s) : parse s = .ok d := by
  rw [Names] at h
  rw [parse, h, String.ofList_toList]
  cases d <;> rfl

end Direction

namespace SortBy

/-- A directive as a part of a list: a sign for the direction, and the field. -/
def WrittenAs (s : SortBy) (t : List Char) : Prop :=
  ∃ d : Direction, d.Names s.direction ∧ t = d.sign :: s.field.toList

/-- A directive with its direction in lower case. -/
def lowered (s : SortBy) : SortBy :=
  ⟨s.field, String.ofList (s.direction.toList.map Char.toLower)⟩

/-- A directive that can be written as a part of a list. -/
structure Expressible (s : SortBy) : Prop where
  unseparated : ',' ∉ s.field.toList
  last : ∀ c ∈ s.field.toList.getLast?, ¬isBlank c
  direction : ∃ d : Direction, d.Names s.direction

variable {s : SortBy} {t : List Char}

theorem Expressible.isPart (hs : s.Expressible) (h : s.WrittenAs t) : IsPart t := by
  obtain ⟨d, -, rfl⟩ := h
  have hsign : IsSolid d.sign := by cases d <;> decide
  refine ⟨by simp, ?_, ?_, ?_⟩
  · simp [hs.unseparated, hsign.1.symm]
  · rintro c ⟨⟩
    exact hsign.2
  · intro c hc
    cases hlast : s.field.toList.getLast? with
    | none =>
      rw [List.getLast?_cons, hlast] at hc
      obtain rfl := Option.some.inj hc
      exact hsign.2
    | some c' =>
      rw [List.getLast?_cons, hlast] at hc
      obtain rfl := Option.some.inj hc
      exact hs.last c' hlast

/-- A directive is read back with its direction in lower case. The field may begin with a sign. -/
theorem Expressible.ofParameter_eq (hs : s.Expressible) (h : s.WrittenAs t) :
    ofParameter t = s.lowered := by
  have htrim := (hs.isPart h).trim_eq
  obtain ⟨d, hd, rfl⟩ := h
  rw [Direction.Names] at hd
  rw [ofParameter, htrim, lowered, hd]
  cases d <;> simp [Direction.sign, Direction.word]

/-- Lower case does not change what a directive stands for. -/
theorem sortKey_lowered (h : ∃ d : Direction, d.Names s.direction) :
    Search.sortKey s.lowered = Search.sortKey s := by
  obtain ⟨d, hd⟩ := h
  have hlowered : d.Names s.lowered.direction := by
    rw [Direction.Names] at hd ⊢
    rw [lowered, String.toList_ofList, hd]
    cases d <;> rfl
  rw [Search.sortKey, Search.sortKey, resolve, resolve, Direction.parse_eq_ok_of_names hd,
    Direction.parse_eq_ok_of_names hlowered]
  rfl

end SortBy

/-! ### Parameters -/

/-- A parameter gives a list of parts. It may be left out where there are none. -/
def GivesParts (ts : List (List Char)) : Option String → Prop
  | none => ts = []
  | some s => ListsParts ts s.toList

/-- A text gives the numbers of a box. -/
def GivesBox (xs : List Double) (s : String) : Prop :=
  ∃ ts, List.Forall₂ (fun x t => readDouble? t = some x) xs ts ∧ ListsParts ts s.toList

/-- Parameters write a search. -/
structure SearchParameters.Express (p : SearchParameters) (s : Search) : Prop where
  ids : GivesParts (s.ids.map String.toList) p.ids
  collections : GivesParts (s.collections.map String.toList) p.collections
  limit : Option.Rel (fun n text => Padded (Numeral.ofInt n).text text.toList) s.limit p.limit
  bbox : Option.Rel GivesBox s.bbox p.bbox
  geometry : p.geometry = none
  sortby : ∃ ts, List.Forall₂ SortBy.WrittenAs s.sortby ts ∧ GivesParts ts p.sortby

namespace Search

/-- A search that parameters can write. -/
structure Expressible (s : Search) : Prop where
  geometry : s.geometry = none
  geometrycollection : s.geometrycollection = none
  ids : ∀ id ∈ s.ids, IsPart id.toList
  collections : ∀ id ∈ s.collections, IsPart id.toList
  limit : ∀ n ∈ s.limit, -(twoPow 63 : Int) ≤ n ∧ n < twoPow 63
  sortby : ∀ d ∈ s.sortby, d.Expressible

/-- A search with its directions in lower case. -/
def lowered (s : Search) : Search := { s with sortby := s.sortby.map SortBy.lowered }

variable {s : Search}

theorem word_of_mem_lowered
    (h : ∀ d ∈ s.sortby, ∃ direction : Direction, direction.Names d.direction) :
    ∀ d ∈ s.lowered.sortby, ∃ direction : Direction, d.direction = direction.word := by
  intro d hd
  obtain ⟨given, hgiven, rfl⟩ := List.mem_map.mp hd
  obtain ⟨direction, hdirection⟩ := h given hgiven
  rw [Direction.Names] at hdirection
  exact ⟨direction, by rw [SortBy.lowered, hdirection, String.ofList_toList]⟩

theorem compile_lowered (h : ∀ d ∈ s.sortby, ∃ direction : Direction, direction.Names d.direction) :
    s.lowered.compile = s.compile := by
  have hsort : s.lowered.sortby.mapM sortKey = s.sortby.mapM sortKey := by
    show (s.sortby.map SortBy.lowered).mapM sortKey = s.sortby.mapM sortKey
    generalize s.sortby = ds at h
    induction ds with
    | nil => rfl
    | cons d ds ih =>
      rw [List.forall_mem_cons] at h
      rw [List.map_cons, List.mapM_cons, List.mapM_cons, SortBy.sortKey_lowered h.1, ih h.2]
  unfold compile
  rw [hsort]
  rfl

end Search

namespace SearchParameters

/-! ### Reading what was written -/

/-- Whatever is made of the parts of a parameter, it is made of those that were given. -/
theorem getD_of_givesParts {α : Type} {f : List Char → α} {ts : List (List Char)}
    {o : Option String} (h : GivesParts ts o) (hts : ∀ t ∈ ts, IsPart t) :
    (o.map fun s => (parts s.toList).map f).getD [] = ts.map f := by
  cases o with
  | none =>
    rw [GivesParts] at h
    rw [h]
    rfl
  | some s =>
    rw [GivesParts] at h
    rw [Option.map_some, Option.getD_some, h.parts_eq hts]

theorem getD_stringParts {xs : List String} {o : Option String}
    (h : GivesParts (xs.map String.toList) o) (hxs : ∀ x ∈ xs, IsPart x.toList) :
    (o.map stringParts).getD [] = xs := by
  have hparts : ∀ t ∈ xs.map String.toList, IsPart t := by
    intro t ht
    obtain ⟨x, hx, rfl⟩ := List.mem_map.mp ht
    exact hxs x hx
  have hback : (xs.map String.toList).map String.ofList = xs := by
    have hid : String.ofList ∘ String.toList = id := funext fun _ => String.ofList_toList
    rw [List.map_map, hid, List.map_id]
  exact (getD_of_givesParts h hparts).trans hback

theorem getD_readSortby {ds : List SortBy} {ts : List (List Char)} {o : Option String}
    (hwritten : List.Forall₂ SortBy.WrittenAs ds ts) (h : GivesParts ts o)
    (hds : ∀ d ∈ ds, d.Expressible) : (o.map readSortby).getD [] = ds.map SortBy.lowered := by
  have hparts : (∀ t ∈ ts, IsPart t) ∧ ts.map SortBy.ofParameter = ds.map SortBy.lowered := by
    clear h
    induction hwritten with
    | nil => exact ⟨by simp, rfl⟩
    | cons hd _ ih =>
      rw [List.forall_mem_cons] at hds
      obtain ⟨hparts, hmap⟩ := ih hds.2
      refine ⟨List.forall_mem_cons.mpr ⟨hds.1.isPart hd, hparts⟩, ?_⟩
      rw [List.map_cons, List.map_cons, hds.1.ofParameter_eq hd, hmap]
  exact (getD_of_givesParts h hparts.1).trans hparts.2

theorem readLimit_eq {n : Int} {text : String} (h : Padded (Numeral.ofInt n).text text.toList)
    (hn : -(twoPow 63 : Int) ≤ n ∧ n < twoPow 63) : readLimit text = .ok n := by
  rw [readLimit, h.trim_eq (isPart_of_readInt? (readInt?_ofInt n)), readInt64?_ofInt hn]

theorem readBbox_eq {xs : List Double} {text : String} (h : GivesBox xs text) :
    readBbox text = .ok xs := by
  obtain ⟨ts, hread, hlist⟩ := h
  have hparts : (∀ t ∈ ts, IsPart t) ∧
      List.Forall₂ (fun t x => readCoordinate t = .ok x) ts xs := by
    clear hlist
    induction hread with
    | nil => exact ⟨by simp, .nil⟩
    | cons hx _ ih =>
      refine ⟨List.forall_mem_cons.mpr ⟨isPart_of_readDouble? hx, ih.1⟩, .cons ?_ ih.2⟩
      rw [readCoordinate, hx]
  rw [readBbox, hlist.parts_eq hparts.1]
  exact mapM_eq_ok_iff.mpr hparts.2

theorem readOptional_eq {α ε : Type} {read : String → Except ε α} {R : α → String → Prop}
    {a : Option α} {o : Option String} (h : Option.Rel R a o)
    (hread : ∀ x ∈ a, ∀ s, R x s → read s = .ok x) : readOptional read o = .ok a := by
  cases h with
  | none => rfl
  | @some x s hx =>
    rw [readOptional, hread x rfl s hx]
    rfl

/-- **Parameters that write a search are read as that search, with every direction as its word in
lower case, and this is compiled to the same plan or the same error.** -/
theorem toSearch_of_express {s : Search} {p : SearchParameters} (hs : s.Expressible)
    (h : p.Express s) :
    p.toSearch = .ok s.lowered ∧
      (∀ d ∈ s.lowered.sortby, ∃ direction : Direction, d.direction = direction.word) ∧
      s.lowered.compile = s.compile := by
  have hdirections := fun d hd => (hs.sortby d hd).direction
  refine ⟨?_, Search.word_of_mem_lowered hdirections, Search.compile_lowered hdirections⟩
  obtain ⟨ts, hwritten, hts⟩ := h.sortby
  have hlimit : readOptional readLimit p.limit = .ok s.limit :=
    readOptional_eq h.limit fun n hn text htext => readLimit_eq htext (hs.limit n hn)
  have hbbox : readOptional readBbox p.bbox = .ok s.bbox :=
    readOptional_eq h.bbox fun xs _ text htext => readBbox_eq htext
  have hids := getD_stringParts h.ids hs.ids
  have hcollections := getD_stringParts h.collections hs.collections
  have hsortby := getD_readSortby hwritten hts hs.sortby
  unfold toSearch
  rw [hlimit, hbbox, h.geometry, hids, hcollections, hsortby]
  obtain ⟨ids, collections, limit, bbox, geometry, geometrycollection, sortby⟩ := s
  obtain rfl := hs.geometry
  obtain rfl := hs.geometrycollection
  rfl

/-- A search with a directive on a field that begins with a sign. -/
def signedSearch : Search where
  ids := ["a b"]
  limit := some 5
  bbox := some [.finite (.zero false), .ofDecimal false 1 0]
  sortby := [⟨"-id", "DESC"⟩, ⟨"id", "Asc"⟩]

/-- Parameters for that search. -/
def signedParameters : SearchParameters where
  ids := some " a b,"
  collections := some ", "
  limit := some "5 "
  bbox := some ".0,, +1e0"
  sortby := some "--id , +id"

theorem toSearch_of_express_signed :
    signedParameters.toSearch = .ok signedSearch.lowered ∧
      signedSearch.lowered.compile = signedSearch.compile := by
  have hexpressible : signedSearch.Expressible := by
    refine ⟨rfl, rfl, by decide, by decide, ?_, ?_⟩
    · rintro n ⟨⟩
      decide
    · refine List.forall_mem_cons.mpr ⟨⟨by decide, ?_, .descending, rfl⟩,
        List.forall_mem_singleton.mpr ⟨by decide, ?_, .ascending, rfl⟩⟩
      · rintro c ⟨⟩
        decide
      · rintro c ⟨⟩
        decide
  have hexpress : signedParameters.Express signedSearch := by
    refine ⟨?_, ?_, .some ?_, .some ?_, rfl, ?_⟩
    · refine ⟨[" a b".toList, []], .part ⟨[' '], [], by decide, by decide, rfl⟩ ?_, rfl⟩
      exact .extra (by decide) .nil
    · exact ⟨[[], [' ']], .extra (by decide) (.extra (by decide) .nil), rfl⟩
    · exact ⟨[], [' '], by decide, by decide, rfl⟩
    · refine ⟨[".0".toList, "+1e0".toList], .cons rfl (.cons rfl .nil), ?_⟩
      refine ⟨[".0".toList, [], " +1e0".toList], ?_, rfl⟩
      refine .part (.refl _) (.extra (by decide) (.part ?_ .nil))
      exact ⟨[' '], [], by decide, by decide, rfl⟩
    · refine ⟨["--id".toList, "+id".toList],
        .cons ⟨.descending, rfl, rfl⟩ (.cons ⟨.ascending, rfl, rfl⟩ .nil), ?_⟩
      refine ⟨["--id ".toList, " +id".toList], .part ?_ (.part ?_ .nil), rfl⟩
      · exact ⟨[], [' '], by decide, by decide, rfl⟩
      · exact ⟨[' '], [], by decide, by decide, rfl⟩
  obtain ⟨hsearch, -, hcompile⟩ := toSearch_of_express hexpressible hexpress
  exact ⟨hsearch, hcompile⟩

end SearchParameters

end SpatialCatalog
