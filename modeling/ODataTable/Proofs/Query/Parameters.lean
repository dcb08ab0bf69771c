import Mathlib.Data.String.Basic
import ODataTable.Proofs.Url.Form
import ODataTable.Proofs.Url.Written
import ODataTable.Query.Address

/-! The parameters of a query, as whoever receives its address reads them.

What is read back is the list of parameters in stable order of their names. The order is that
of the octets of the names, and both ways to write a space give the same list.
-/

set_option autoImplicit false

namespace ODataTable

namespace Url

def values (url : Url) (name : String) : List String :=
  ((Form.parse (url.query.getD [])).filter fun pair => pair.1 = name).map Prod.snd

theorem withQuery_query (url : Url) {text : List Char}
    (safe : ∀ c ∈ text, Percent.specialQuerySet c = false) :
    (url.withQuery (some text)).query = some text := by
  have unbroken : dropBreaks text = text :=
    dropBreaks_of_visible fun c member => Percent.lt_toNat_of_specialQuerySet (safe c member)
  have plain : ∀ c ∈ text, Percent.querySet c = false := by
    intro c member
    have kept := safe c member
    rw [Percent.specialQuerySet, Bool.or_eq_false_iff] at kept
    exact kept.1
  unfold withQuery
  simp only [Option.map_some, unbroken]
  split
  · rw [Percent.encode_of_none safe]
  · rw [Percent.encode_of_none plain]

end Url

namespace Address

theorem safe_writeWith {spaces : SpaceEncoding} {pairs : List (String × String)} {c : Char}
    (member : c ∈ Form.writeWith spaces pairs) : Percent.specialQuerySet c = false := by
  rcases Form.mem_writeWith member with rfl | rfl | rfl | rfl | kept
  · decide
  · decide
  · decide
  · decide
  · exact Percent.specialQuerySet_of_componentSet kept

theorem encodeParameters_eq (pairs : List (String × String)) (spaces : SpaceEncoding) :
    encodeParameters pairs spaces = Form.writeWith spaces (sortByName pairs) := by
  cases spaces with
  | plus => exact Form.plusForSpaces_write (sortByName pairs)
  | percent => exact (Form.writeWith_percent (sortByName pairs)).symm

def below (base : Url) (segment : String) : Url :=
  base.withPath ('/' :: List.intercalate ['/'] (parts base.path.write ++ parts segment.toList))

theorem join_eq {address : String} {base : Url} (parsed : Url.parse address.toList = .ok base)
    (segment : String) : join address segment = .ok (below base segment) := by
  simp only [join, parse, parsed]
  rfl

def carrying (url : Url) (pairs : List (String × String)) (spaces : SpaceEncoding) : Url :=
  url.withQuery (if pairs.isEmpty then none else some (encodeParameters pairs spaces))

theorem query_eq {address : String} {base : Url} (parsed : Url.parse address.toList = .ok base)
    (entitySet : String) (properties : List Property) (timeProperty : Option Property)
    (filter : List Char) (spaces : SpaceEncoding) :
    query address entitySet properties timeProperty filter spaces =
      .ok (carrying (below base entitySet)
        (parameters base filter (selection properties timeProperty)) spaces) := by
  simp only [query, join_eq parsed]
  rfl

theorem carrying_query (url : Url) (pairs : List (String × String)) (spaces : SpaceEncoding) :
    (carrying url pairs spaces).query =
      if pairs.isEmpty then none else some (Form.writeWith spaces (sortByName pairs)) := by
  unfold carrying
  split
  · rfl
  · rw [encodeParameters_eq, Url.withQuery_query url fun c member => safe_writeWith member]

/-- Whoever reads the query finds the pairs in the order of their names. -/
theorem parse_carrying (url : Url) (pairs : List (String × String)) (spaces : SpaceEncoding) :
    Form.parse ((carrying url pairs spaces).query.getD []) = sortByName pairs := by
  rw [carrying_query]
  cases pairs with
  | nil => rw [sortByName, List.mergeSort_nil]; rfl
  | cons pair rest => exact Form.parse_writeWith spaces _

/-- The pairs of a list in the order of the octets of their names. Pairs of one name stay in
the order of the list. -/
structure SortedByName (pairs sorted : List (String × String)) : Prop where
  perm : sorted.Perm pairs
  ordered : sorted.Pairwise fun left right =>
    Utf8.encode left.1.toList ≤ Utf8.encode right.1.toList
  stable : ∀ name : String,
    sorted.filter (fun pair => pair.1 = name) = pairs.filter fun pair => pair.1 = name

theorem encode_le_iff {first second : String} :
    Utf8.encode first.toList ≤ Utf8.encode second.toList ↔ ¬ second < first := by
  rw [← List.not_lt, Utf8.encode_lt_iff]
  rfl

theorem sortByName_sorted (pairs : List (String × String)) : SortedByName pairs (sortByName pairs) := by
  have trans : ∀ a b c : String × String,
      (!decide (b.1 < a.1)) = true → (!decide (c.1 < b.1)) = true → (!decide (c.1 < a.1)) = true := by
    intro a b c first second
    simp only [Bool.not_eq_true', decide_eq_false_iff_not, not_lt] at first second ⊢
    exact first.trans second
  have total : ∀ a b : String × String,
      ((!decide (b.1 < a.1)) || (!decide (a.1 < b.1))) = true := by
    intro a b
    simp only [Bool.or_eq_true, Bool.not_eq_true', decide_eq_false_iff_not, not_lt]
    exact le_total a.1 b.1
  have perm := List.mergeSort_perm pairs fun left right => !decide (right.1 < left.1)
  refine ⟨perm, ?_, fun name => ?_⟩
  · refine (List.pairwise_mergeSort trans total pairs).imp fun {left right} ordered => ?_
    rw [encode_le_iff]
    simpa using ordered
  · -- The pairs of one name are in order among themselves, so the sorted list keeps them as a
    -- sublist, and by their number it has no others.
    have inOrder : (pairs.filter fun pair => pair.1 = name).Pairwise
        fun left right => (!decide (right.1 < left.1)) = true := by
      refine List.pairwise_of_forall_mem_list fun left leftMember right rightMember => ?_
      simp only [List.mem_filter, decide_eq_true_eq] at leftMember rightMember
      simp [leftMember.2, rightMember.2]
    have kept := List.sublist_mergeSort trans total inOrder List.filter_sublist
    have among := kept.filter fun pair : String × String => decide (pair.1 = name)
    simp only [List.filter_filter, Bool.and_self] at among
    exact (among.eq_of_length (perm.filter _).length_eq.symm).symm

def parameter (name : String) (value : List Char) : List (String × String) :=
  if value = [] then [] else [(name, String.ofList value)]

/-- What a query is to send: the pairs of the service, then its filter and its selection. -/
def requested (base : Url) (filter select : List Char) : List (String × String) :=
  Form.parse (base.query.getD []) ++ parameter "$filter" filter ++ parameter "$select" select

theorem parameters_eq_requested (base : Url) (filter select : List Char) :
    parameters base filter select = requested base filter select := by
  simp [parameters, requested, parameter, List.isEmpty_iff]

/-- Whatever the way to write a space, an address exists, and its query reads as the pairs in the
order of their names. For no pairs it has no query. -/
def ReadsBack (address : SpaceEncoding → Except InvalidAddress Url)
    (pairs : List (String × String)) : Prop :=
  ∃ sorted, SortedByName pairs sorted ∧
    (∀ before value after, sorted = before ++ ("$select", value) :: after →
      ∀ pair ∈ after, pair.1 ≠ "$filter") ∧
    ∀ spaces, ∃ url, address spaces = .ok url ∧ Form.parse (url.query.getD []) = sorted ∧
      (url.query = none ↔ pairs = [])

/-- After a selection there is no filter in the order of names. -/
theorem SortedByName.filter_before_select {pairs sorted : List (String × String)}
    (stable : SortedByName pairs sorted) {before : List (String × String)} {value : String}
    {after : List (String × String)} (same : sorted = before ++ ("$select", value) :: after)
    {pair : String × String} (member : pair ∈ after) : pair.1 ≠ "$filter" := by
  intro named
  have ordered := stable.ordered
  rw [same, List.pairwise_append, List.pairwise_cons] at ordered
  have above := ordered.2.1.1 pair member
  rw [named, encode_le_iff] at above
  have below : "$filter" < "$select" := by decide
  exact above below

theorem query_readsBack {address : String} {base : Url}
    (parsed : Url.parse address.toList = .ok base) (entitySet : String)
    (properties : List Property) (timeProperty : Option Property) (filter : List Char) :
    ReadsBack (query address entitySet properties timeProperty filter)
      (requested base filter (selection properties timeProperty)) := by
  have stable := sortByName_sorted (requested base filter (selection properties timeProperty))
  refine ⟨_, stable, fun before value after same pair => stable.filter_before_select same,
    fun spaces => ⟨_, query_eq parsed entitySet properties timeProperty filter spaces, ?_, ?_⟩⟩
  · rw [parse_carrying, parameters_eq_requested]
  · rw [carrying_query, parameters_eq_requested]
    cases requested base filter (selection properties timeProperty) <;> simp

theorem values_parameter (name key : String) (value : List Char) :
    ((parameter name value).filter fun pair => pair.1 = key).map Prod.snd =
      if value ≠ [] ∧ name = key then [String.ofList value] else [] := by
  unfold parameter
  by_cases empty : value = []
  · simp [empty]
  · by_cases same : name = key <;> simp [empty, same]

/-- The values of a name are those of the service, then the filter and the selection if they have
this name and are not empty. -/
theorem query_values {address : String} {base : Url}
    (parsed : Url.parse address.toList = .ok base) (entitySet : String)
    (properties : List Property) (timeProperty : Option Property) (filter : List Char)
    (spaces : SpaceEncoding) :
    ∃ url, query address entitySet properties timeProperty filter spaces = .ok url ∧
      ∀ name, url.values name = base.values name ++
        (if filter ≠ [] ∧ "$filter" = name then [String.ofList filter] else []) ++
        if selection properties timeProperty ≠ [] ∧ "$select" = name then
          [String.ofList (selection properties timeProperty)]
        else [] := by
  obtain ⟨sorted, stable, _, found⟩ :=
    query_readsBack parsed entitySet properties timeProperty filter
  obtain ⟨url, built, read, _⟩ := found spaces
  refine ⟨url, built, fun name => ?_⟩
  rw [Url.values, read, stable.stable, requested, List.filter_append, List.filter_append,
    List.map_append, List.map_append, values_parameter, values_parameter]
  rfl

/-- Every query reads back as what was asked for: the pairs of the service, the filter with
exactly its text and the selection, each unless it is empty. -/
theorem addresses_readBack {address : String} {base : Url}
    (parsed : Url.parse address.toList = .ok base) (entitySet : String)
    (properties : List Property) (timeProperty : Option Property) :
    (∀ filter : List Char,
      ReadsBack (query address entitySet properties timeProperty filter)
        (requested base filter (selection properties timeProperty))) ∧
    ∀ (range : Option TimeRange) (conditions : List Condition),
      ReadsBack (entities address entitySet properties timeProperty range conditions)
        (requested base (Filter.write timeProperty range conditions)
          (selection properties timeProperty)) :=
  ⟨query_readsBack parsed entitySet properties timeProperty, fun range conditions =>
    query_readsBack parsed entitySet properties timeProperty
      (Filter.write timeProperty range conditions)⟩

def busyAddress : String := "http://[::1]/?$select=x&b=1%2B2"

def busyUrl : Url :=
  { scheme := ['h', 't', 't', 'p']
    host := some (.address6 [0, 0, 0, 0, 0, 0, 0, 1])
    path := .segments [[]]
    query := some "$select=x&b=1%2B2".toList }

theorem addresses_readBack_busy :
    Url.parse busyAddress.toList = .ok busyUrl ∧
      ReadsBack (query busyAddress "" [⟨"p", .string⟩] none "n eq '+%20&'".toList)
        [("$select", "x"), ("b", "1+2"), ("$filter", "n eq '+%20&'"), ("$select", "p")] := by
  have parsed : Url.parse busyAddress.toList = .ok busyUrl := by decide +kernel
  have pairs : requested busyUrl "n eq '+%20&'".toList (selection [⟨"p", .string⟩] none) =
      [("$select", "x"), ("b", "1+2"), ("$filter", "n eq '+%20&'"), ("$select", "p")] := by
    decide +kernel
  have read := (addresses_readBack parsed "" [⟨"p", .string⟩] none).1 "n eq '+%20&'".toList
  rw [pairs] at read
  exact ⟨parsed, read⟩

end Address

end ODataTable
