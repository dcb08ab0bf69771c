import ODataTable.Proofs.Query.Parameters

/-! Filters that are joined from the filters of their parts.

A clause has blanks around its operator, so it is never empty, whatever its names and values are.
So a filter is empty without clauses only, and no `and` stands beside an empty text. An address has
a filter parameter of its own exactly if there is a clause.
-/

set_option autoImplicit false

namespace ODataTable

theorem Condition.clause_ne_nil (condition : Condition) : condition.clause ≠ [] := by
  simp [Condition.clause]

theorem TimeRange.clause_ne_nil (range : TimeRange) (name : String) : range.clause name ≠ [] := by
  simp [TimeRange.clause]

namespace Filter

variable (timeProperty : Option Property) (range : Option TimeRange)

theorem ne_nil_of_mem_clauses {conditions : List Condition} :
    ∀ clause ∈ clauses timeProperty range conditions, clause ≠ [] := by
  unfold clauses
  refine List.forall_mem_append.mpr ⟨?_, ?_⟩
  · split
    next property range =>
      exact List.forall_mem_singleton.mpr (range.clause_ne_nil property.name)
    · exact List.forall_mem_nil _
  · exact List.forall_mem_map.mpr fun condition _ => condition.clause_ne_nil

/-- Only the first conditions stand behind the window. -/
theorem clauses_append (first second : List Condition) :
    clauses timeProperty range (first ++ second) =
      clauses timeProperty range first ++ clauses none none second := by
  simp only [clauses, List.map_append, List.append_assoc, List.nil_append]

variable {timeProperty range} in
theorem clauses_eq_nil_iff {conditions : List Condition} :
    clauses timeProperty range conditions = [] ↔
      conditions = [] ∧ (timeProperty = none ∨ range = none) := by
  cases timeProperty with
  | none => simp [clauses]
  | some property => cases range <;> simp [clauses]

/-- Two texts with `and` between them, if neither is empty. -/
def joined (first second : List Char) : List Char :=
  if first = [] then second
  else if second = [] then first
  else first ++ " and ".toList ++ second

theorem intercalate_joined {first second : List (List Char)}
    (filled : ∀ clause ∈ first, clause ≠ []) (filled' : ∀ clause ∈ second, clause ≠ []) :
    List.intercalate " and ".toList (first ++ second) =
      joined (List.intercalate " and ".toList first) (List.intercalate " and ".toList second) := by
  unfold joined
  by_cases none : first = []
  · rw [if_pos ((intercalate_eq_nil_iff filled).mpr none), none, List.nil_append]
  by_cases none' : second = []
  · rw [if_neg (mt (intercalate_eq_nil_iff filled).mp none),
      if_pos ((intercalate_eq_nil_iff filled').mpr none'), none', List.append_nil]
  · rw [if_neg (mt (intercalate_eq_nil_iff filled).mp none),
      if_neg (mt (intercalate_eq_nil_iff filled').mp none'), intercalate_append none none']

theorem write_append (first second : List Condition) :
    write timeProperty range (first ++ second) =
      joined (write timeProperty range first) (write none none second) := by
  rw [write, clauses_append]
  exact intercalate_joined (ne_nil_of_mem_clauses timeProperty range)
    (ne_nil_of_mem_clauses none none)

variable {timeProperty range} in
theorem write_eq_nil_iff {conditions : List Condition} :
    write timeProperty range conditions = [] ↔
      conditions = [] ∧ (timeProperty = none ∨ range = none) := by
  rw [write, intercalate_eq_nil_iff (ne_nil_of_mem_clauses timeProperty range), clauses_eq_nil_iff]

end Filter

namespace Address

theorem entities_filters {address : String} {base : Url}
    (parsed : Url.parse address.toList = .ok base) (entitySet : String)
    (properties : List Property) (timeProperty : Option Property) (range : Option TimeRange)
    (conditions : List Condition) (spaces : SpaceEncoding) :
    ∃ url,
      entities address entitySet properties timeProperty range conditions spaces = .ok url ∧
      url.values "$filter" =
        base.values "$filter" ++
          if conditions = [] ∧ (timeProperty = none ∨ range = none) then []
          else [String.ofList (Filter.write timeProperty range conditions)] := by
  obtain ⟨url, built, values⟩ := query_values parsed entitySet properties timeProperty
    (Filter.write timeProperty range conditions) spaces
  refine ⟨url, built, (values "$filter").trans ?_⟩
  have other : ¬ "$select" = "$filter" := by decide
  simp only [ne_eq, Filter.write_eq_nil_iff, other, and_true, and_false, if_false, ite_not,
    List.append_nil]

end Address

namespace Filter

/-- Filters compose: the filter of two lists of conditions is that of the first one joined to that
of the second one. It is empty, and left out of the address, exactly without conditions and without
a window. Without a time property the range does not matter, and without a range the time property
does not. -/
theorem write_composes (timeProperty : Option Property) (range : Option TimeRange)
    (first second : List Condition) :
    write timeProperty range (first ++ second) =
        joined (write timeProperty range first) (write none none second) ∧
      (write timeProperty range first = [] ↔
        first = [] ∧ (timeProperty = none ∨ range = none)) ∧
      (∀ (address : String) (base : Url), Url.parse address.toList = .ok base →
        ∀ (entitySet : String) (properties : List Property) (spaces : SpaceEncoding),
        ∃ url,
          Address.entities address entitySet properties timeProperty range first spaces = .ok url ∧
          url.values "$filter" =
            base.values "$filter" ++
              if first = [] ∧ (timeProperty = none ∨ range = none) then []
              else [String.ofList (write timeProperty range first)]) ∧
      write none range first = write none none first ∧
      write timeProperty none first = write none none first := by
  refine ⟨write_append timeProperty range first second, write_eq_nil_iff, ?_, rfl, ?_⟩
  · intro address base parsed entitySet properties spaces
    exact Address.entities_filters parsed entitySet properties timeProperty range first spaces
  · cases timeProperty <;> rfl

def filteredAddress : String := "http://[::1]/?$filter=x"

def filteredUrl : Url :=
  { scheme := ['h', 't', 't', 'p']
    host := some (.address6 [0, 0, 0, 0, 0, 0, 0, 1])
    path := .segments [[]]
    query := some "$filter=x".toList }

def blankCondition : Condition := ⟨⟨"", .int32⟩, "", ""⟩

def epochRange : TimeRange := ⟨⟨-1, 0⟩, ⟨0, 0⟩⟩

/-- A condition of empty texts is a clause of two blanks, and it counts, behind a window as well as
alone. -/
theorem write_composes_blank :
    Url.parse filteredAddress.toList = .ok filteredUrl ∧
      write none none ([blankCondition] ++ [⟨⟨"s", .string⟩, "eq", ""⟩]) =
        "   and s eq ''".toList ∧
      (∃ url,
        Address.entities filteredAddress "" [] none none [blankCondition] .plus = .ok url ∧
        url.values "$filter" = ["x", "  "]) ∧
      write (some ⟨"t", .dateTime⟩) (some epochRange) ([] ++ [blankCondition]) =
        "t ge 1969-12-31T23:59:59Z and t le 1970-01-01T00:00:00Z and   ".toList ∧
      ∃ url,
        Address.entities filteredAddress "" [] (some ⟨"t", .dateTime⟩) (some epochRange) [] .plus =
          .ok url ∧
        url.values "$filter" =
          ["x", "t ge 1969-12-31T23:59:59Z and t le 1970-01-01T00:00:00Z"] := by
  have parsed : Url.parse filteredAddress.toList = .ok filteredUrl := by decide +kernel
  obtain ⟨alone, _, sent, _⟩ :=
    write_composes none none [blankCondition] [⟨⟨"s", .string⟩, "eq", ""⟩]
  obtain ⟨url, built, values⟩ := sent filteredAddress filteredUrl parsed "" [] .plus
  obtain ⟨behind, _, within, _⟩ :=
    write_composes (some ⟨"t", .dateTime⟩) (some epochRange) [] [blankCondition]
  obtain ⟨window, framed, bounds⟩ := within filteredAddress filteredUrl parsed "" [] .plus
  exact ⟨parsed, alone.trans (by decide +kernel),
    ⟨url, built, values.trans (by decide +kernel)⟩, behind.trans (by decide +kernel),
    window, framed, bounds.trans (by decide +kernel)⟩

end Filter

end ODataTable
