import ODataTable.Proofs.Query.Parameters
import ODataTable.Proofs.Url.Verbatim

/-! What a segment adds to the path of an address.

Empty parts are taken out before the path is set, and setting it reads the whole text again. Where
that reading finds nothing to do, the parts stand in the path one after the other. Dots, backslashes
and breaks are what it finds.
-/

set_option autoImplicit false

namespace ODataTable

namespace UrlPath

/-- A part that stands in a path as it is, but for escapes. -/
structure Plain (part : List Char) : Prop where
  unbroken : ∀ c ∈ part, Url.isBreak c = false
  noBackslash : '\\' ∉ part
  noDots : isDots (Percent.encode Percent.pathSet part) = false

def isPlain (part : List Char) : Bool :=
  part.all (fun c => !Url.isBreak c && c ≠ '\\') && !isDots (Percent.encode Percent.pathSet part)

theorem isPlain_iff (part : List Char) : isPlain part = true ↔ Plain part := by
  simp only [isPlain, Bool.and_eq_true, Bool.not_eq_true', List.all_eq_true, decide_eq_true_eq]
  constructor
  · rintro ⟨each, noDots⟩
    exact ⟨fun c member => (each c member).1, fun member => (each _ member).2 rfl, noDots⟩
  · intro plain
    refine ⟨fun c member => ⟨plain.unbroken c member, ?_⟩, plain.noDots⟩
    rintro rfl
    exact plain.noBackslash member

instance (part : List Char) : Decidable (Plain part) :=
  decidable_of_iff _ (isPlain_iff part)

theorem Settled.encode {segment : List Char} (settled : Settled segment) :
    Percent.encode Percent.pathSet segment = segment :=
  Percent.encode_of_none settled.plain

theorem Settled.toPlain {segment : List Char} (settled : Settled segment) : Plain segment where
  unbroken c member := by
    refine Bool.eq_false_iff.mpr fun breaks => ?_
    have kept := settled.plain c member
    rw [Url.pathSet_of_isBreak breaks] at kept
    cases kept
  noBackslash member := absurd (settled.whole '\\' member) (by decide)
  noDots := by
    rw [settled.encode, isDots, settled.notDoubleDot, settled.notSingleDot]
    rfl

theorem slash_not_mem_of_settled {segment : List Char} (settled : Settled segment) :
    ∀ c ∈ segment, decide (c = '/') = false := by
  intro c member
  refine decide_eq_false fun same => ?_
  have whole := settled.whole c member
  rw [same] at whole
  cases whole

theorem verbatim_intercalate_iff {list : List (List Char)}
    (free : ∀ part ∈ list, ∀ c ∈ part, decide (c = '/') = false) :
    Verbatim (List.intercalate ['/'] list) ↔ ∀ part ∈ list, Plain part := by
  cases list with
  | nil =>
    refine ⟨fun _ => nofun, fun _ => ⟨nofun, nofun, fun part member => ?_⟩⟩
    rw [List.mem_singleton.mp member]
    rfl
  | cons first rest =>
    have split : splitWhere (fun c => decide (c = '/')) (List.intercalate ['/'] (first :: rest)) =
        first :: rest := splitWhere_intercalate rfl (List.cons_ne_nil first rest) free
    constructor
    · intro verbatim part member
      have inside : ∀ c ∈ part, c ∈ List.intercalate ['/'] (first :: rest) :=
        fun c own => mem_intercalate_of_mem member own
      exact
        { unbroken := fun c own => verbatim.unbroken c (inside c own)
          noBackslash := fun own => verbatim.noBackslash (inside _ own)
          noDots := verbatim.noDots part (split.symm ▸ member) }
    · intro plain
      refine
        { unbroken := fun c member => ?_
          noBackslash := fun member => ?_
          noDots := fun part member => (plain part (split ▸ member)).noDots }
      · rcases mem_of_mem_intercalate member with rfl | ⟨part, own, inside⟩
        · decide
        · exact (plain part own).unbroken c inside
      · rcases mem_of_mem_intercalate member with same | ⟨part, own, inside⟩
        · exact absurd same (by decide)
        · exact (plain part own).noBackslash inside

end UrlPath

namespace Address

open UrlPath (Settled Plain Verbatim)

theorem mem_parts {text part : List Char} (member : part ∈ parts text) :
    part ≠ [] ∧ ∀ c ∈ part, decide (c = '/') = false := by
  obtain ⟨own, some⟩ := List.mem_filter.mp member
  exact ⟨by simpa using some, free_of_mem_splitWhere own⟩

theorem parts_write {list : List (List Char)} (settled : ∀ segment ∈ list, Settled segment) :
    parts (UrlPath.write (.segments list)) = UrlPath.filled list := by
  cases list with
  | nil => rfl
  | cons first rest =>
    have split : splitWhere (fun c => decide (c = '/')) (List.intercalate ['/'] (first :: rest)) =
        first :: rest :=
      splitWhere_intercalate rfl (List.cons_ne_nil first rest) fun segment member =>
        UrlPath.slash_not_mem_of_settled (settled segment member)
    rw [UrlPath.write_segments (List.cons_ne_nil first rest), parts, splitWhere,
      if_pos (decide_eq_true rfl), split, List.filter_cons_of_neg (by decide), UrlPath.filled]

/-- The parts that a segment is expected to add to those of a base, in the form in which a path
holds them. -/
def appended (base : Url) (segment : String) : List (List Char) :=
  parts base.path.write ++ (parts segment.toList).map (Percent.encode Percent.pathSet)

/-- A path that is that of a base with the parts of a segment after it, and no part of which is
empty. The path without parts is a slash. -/
structure Appends (base url : Url) (segment : String) : Prop where
  path : url.path.write = '/' :: List.intercalate ['/'] (appended base segment)
  noEmpty : url.path.write ≠ ['/'] →
    ∀ part ∈ splitWhere (· = '/') (url.path.write.drop 1), part ≠ []

theorem mem_appended {base : Url} {segment : String} {part : List Char}
    (member : part ∈ appended base segment) : part ≠ [] ∧ ∀ c ∈ part, decide (c = '/') = false := by
  rcases List.mem_append.mp member with own | added
  · exact mem_parts own
  · obtain ⟨plain, own, rfl⟩ := List.mem_map.mp added
    obtain ⟨some, free⟩ := mem_parts own
    refine ⟨Percent.encode_ne_nil some, fun c inside => ?_⟩
    rcases Percent.mem_encode_cases inside with rfl | letter | ⟨own, _⟩
    · rfl
    · exact decide_eq_false (Percent.ne_of_isAlphanum letter (by decide))
    · exact free c own

theorem Appends.of_path {base url : Url} {segment : String}
    (path : url.path.write = '/' :: List.intercalate ['/'] (appended base segment)) :
    Appends base url segment := by
  refine ⟨path, fun filled part member => ?_⟩
  have some : appended base segment ≠ [] := by
    intro none
    rw [path, none] at filled
    exact filled rfl
  have split : splitWhere (fun c => decide (c = '/'))
      (List.intercalate ['/'] (appended base segment)) = appended base segment :=
    splitWhere_intercalate rfl some fun part member => (mem_appended member).2
  rw [path, List.drop_one, List.tail_cons, split] at member
  exact (mem_appended member).1

theorem below_path {base : Url} (delimited : base.Delimited) (segment : String) :
    (below base segment).path = .segments (UrlPath.parse .web (Url.dropBreaks
      ('/' :: List.intercalate ['/'] (parts base.path.write ++ parts segment.toList)))) := by
  obtain ⟨list, known, _, _⟩ := delimited.path
  simp only [below, Url.withPath, known, delimited.web]

theorem below_appends_iff {base : Url} (delimited : base.Delimited) (segment : String) :
    Appends base (below base segment) segment ↔ ∀ part ∈ parts segment.toList, Plain part := by
  obtain ⟨list, known, _, settled⟩ := delimited.path
  have own : parts base.path.write = UrlPath.filled list := by
    rw [known, parts_write settled]
  have settledOwn : ∀ part ∈ parts base.path.write, Settled part := by
    intro part member
    rw [own] at member
    exact settled part (List.mem_of_mem_filter member)
  -- The parts of the base are escaped already.
  have escaped : Percent.encode Percent.pathSet
      (List.intercalate ['/'] (parts base.path.write ++ parts segment.toList)) =
      List.intercalate ['/'] (appended base segment) := by
    rw [Percent.encode_intercalate (by decide), List.map_append, appended,
      List.map_congr_left fun part member => (settledOwn part member).encode, List.map_id']
  have free : ∀ part ∈ parts base.path.write ++ parts segment.toList,
      ∀ c ∈ part, decide (c = '/') = false := by
    intro part member
    rcases List.mem_append.mp member with own | added
    · exact (mem_parts own).2
    · exact (mem_parts added).2
  have verbatim := UrlPath.verbatim_intercalate_iff free
  have written := UrlPath.write_parse_iff
    (List.intercalate ['/'] (parts base.path.write ++ parts segment.toList))
  rw [← below_path delimited, escaped] at written
  constructor
  · intro appends part member
    exact verbatim.mp (written.mp appends.path) part (List.mem_append_right _ member)
  · intro plain
    refine .of_path (written.mpr (verbatim.mpr fun part member => ?_))
    rcases List.mem_append.mp member with own | added
    · exact (settledOwn part own).toPlain
    · exact plain part added

/-- A segment is appended to the path of a service, as the parts between its slashes, exactly if
none of them holds a break or a backslash or is made of dots. -/
theorem join_appends_iff {address : String} {base : Url}
    (parsed : Url.parse address.toList = .ok base)
    (web : base.scheme ∈ ["http".toList, "https".toList]) (segment : String) :
    ∃ url, join address segment = .ok url ∧
      (Appends base url segment ↔ ∀ part ∈ parts segment.toList, Plain part) := by
  have kind := Url.kind_of_http web
  exact ⟨below base segment, join_eq parsed segment,
    below_appends_iff (Url.parse_delimited parsed kind) segment⟩

/-- An escape in the name of a collection is kept, and a second slash is not. -/
theorem join_appends_iff_spaced :
    ∃ base, Url.parse "http://[::1]/odata//v4/".toList = .ok base ∧
      base.scheme ∈ ["http".toList, "https".toList] ∧
      ∃ url, join "http://[::1]/odata//v4/" "/My Items//%2F" = .ok url ∧
        Appends base url "/My Items//%2F" ∧ url.path.write = "/odata/v4/My%20Items/%2F".toList := by
  have parsed : Url.parse "http://[::1]/odata//v4/".toList =
      .ok ⟨"http".toList, [], [], some (.address6 [0, 0, 0, 0, 0, 0, 0, 1]), none, false,
        .segments ["odata".toList, [], "v4".toList, []], none, none⟩ := by decide +kernel
  have web : "http".toList ∈ ["http".toList, "https".toList] := List.mem_cons_self
  have plain : ∀ part ∈ parts "/My Items//%2F".toList, Plain part := by decide +kernel
  obtain ⟨url, joined, appends⟩ := join_appends_iff parsed web "/My Items//%2F"
  have path := (appends.mpr plain).path
  exact ⟨_, parsed, web, url, joined, appends.mpr plain, path.trans (by decide +kernel)⟩

/-- A segment that climbs out of the path of its service. -/
theorem climbing_not_appended :
    ∃ base url, Url.parse "http://[::1]/odata/v4/".toList = .ok base ∧
      base.scheme ∈ ["http".toList, "https".toList] ∧
      join "http://[::1]/odata/v4/" "../Items" = .ok url ∧
      url.path.write = "/odata/Items".toList ∧ ¬ Appends base url "../Items" := by
  refine ⟨⟨"http".toList, [], [], some (.address6 [0, 0, 0, 0, 0, 0, 0, 1]), none, false,
      .segments ["odata".toList, "v4".toList, []], none, none⟩,
    ⟨"http".toList, [], [], some (.address6 [0, 0, 0, 0, 0, 0, 0, 1]), none, false,
      .segments ["odata".toList, "Items".toList], none, none⟩,
    by decide +kernel, List.mem_cons_self, by decide +kernel, by decide +kernel, fun appends => ?_⟩
  have other : ¬ "/odata/Items".toList = "/odata/v4/../Items".toList := by decide +kernel
  exact other ((by decide +kernel : "/odata/Items".toList = _).trans appends.path)

end Address

end ODataTable
