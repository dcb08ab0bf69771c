import ODataTable.Calendar.Date

/-! Dates and their count of days.

Every day number has a date, which the calendar has and which counts to that number again. Years are
found by their cycles: one of 400 years has four of a hundred and a day, one of a hundred has
twenty-five of four less a day, and one of four has four years and a day.
-/

set_option autoImplicit false

namespace ODataTable.Date

def yearLength (year : Int) : Nat :=
  if isLeapYear year then 366 else 365

theorem isLeapYear_iff (year : Int) :
    isLeapYear year = true ↔ year % 4 = 0 ∧ (year % 100 ≠ 0 ∨ year % 400 = 0) := by
  simp [isLeapYear]

theorem daysBeforeYear_succ (year : Int) :
    daysBeforeYear (year + 1) = daysBeforeYear year + yearLength year := by
  have leap := isLeapYear_iff year
  unfold daysBeforeYear yearLength
  split
  next isLeap =>
    have := leap.mp isLeap
    omega
  next noLeap =>
    have := mt leap.mpr noLeap
    omega

theorem daysBeforeYear_le {first second : Int} (order : first ≤ second) :
    daysBeforeYear first ≤ daysBeforeYear second := by
  unfold daysBeforeYear
  omega

/-- A year by its place in the cycles of 400, 100, 4 and 1 years. -/
structure InCycles (year eras centuries quads singles : Int) : Prop where
  year_eq : year = eras * 400 + centuries * 100 + quads * 4 + singles + 1
  centuries_nonneg : 0 ≤ centuries
  centuries_le : centuries ≤ 3
  quads_nonneg : 0 ≤ quads
  quads_le : quads ≤ 24
  singles_nonneg : 0 ≤ singles
  singles_le : singles ≤ 3

theorem InCycles.daysBeforeYear {year eras centuries quads singles : Int}
    (place : InCycles year eras centuries quads singles) :
    daysBeforeYear year = eras * 146097 + centuries * 36524 + quads * 1461 + singles * 365 := by
  obtain ⟨rfl, _, _, _, _, _, _⟩ := place
  unfold Date.daysBeforeYear
  omega

/-- The last year of four has a day more, but not the last one of a hundred, unless it is the last
one of 400. -/
theorem InCycles.isLeapYear {year eras centuries quads singles : Int}
    (place : InCycles year eras centuries quads singles) :
    isLeapYear year = true ↔ singles = 3 ∧ (quads ≠ 24 ∨ centuries = 3) := by
  obtain ⟨rfl, _, _, _, _, _, _⟩ := place
  rw [isLeapYear_iff]
  omega

theorem splitYears_inCycles (days : Int) :
    ∃ eras centuries quads singles, InCycles (splitYears days).1 eras centuries quads singles ∧
      eras * 146097 + centuries * 36524 + quads * 1461 + singles * 365 + (splitYears days).2 =
        days ∧
      (splitYears days).2 ≤ 365 ∧
      ((splitYears days).2 = 365 → singles = 3 ∧ (quads ≠ 24 ∨ centuries = 3)) := by
  -- The rests of the four divisions, from the longest cycle to the shortest one.
  obtain ⟨inEra, inEraIs⟩ : ∃ inEra, inEra = days % 146097 := ⟨_, rfl⟩
  obtain ⟨century, centuryIs⟩ : ∃ century, century = min 3 (inEra / 36524) := ⟨_, rfl⟩
  obtain ⟨inCentury, inCenturyIs⟩ : ∃ inCentury, inCentury = inEra - century * 36524 := ⟨_, rfl⟩
  obtain ⟨quad, quadIs⟩ : ∃ quad, quad = inCentury / 1461 := ⟨_, rfl⟩
  obtain ⟨inQuad, inQuadIs⟩ : ∃ inQuad, inQuad = inCentury % 1461 := ⟨_, rfl⟩
  obtain ⟨single, singleIs⟩ : ∃ single, single = min 3 (inQuad / 365) := ⟨_, rfl⟩
  have found : splitYears days =
      (days / 146097 * 400 + century * 100 + quad * 4 + single + 1,
        (inQuad - single * 365).toNat) := by
    subst singleIs inQuadIs quadIs inCenturyIs centuryIs inEraIs
    rfl
  have inEra_bounds : 0 ≤ inEra ∧ inEra < 146097 := by omega
  have inCentury_bounds : 0 ≤ century ∧ century ≤ 3 ∧ 0 ≤ inCentury ∧ inCentury ≤ 36524 ∧
      (century ≠ 3 → inCentury < 36524) := by omega
  have inQuad_bounds : 0 ≤ quad ∧ quad ≤ 24 ∧ 0 ≤ inQuad ∧ inQuad ≤ 1460 ∧
      (quad = 24 → century ≠ 3 → inQuad < 1460) := by omega
  have single_bounds : 0 ≤ single ∧ single ≤ 3 ∧ 0 ≤ inQuad - single * 365 ∧
      inQuad - single * 365 ≤ 365 ∧ (inQuad - single * 365 = 365 → single = 3 ∧ inQuad = 1460) := by
    omega
  rw [found]
  refine ⟨days / 146097, century, quad, single, ?_, ?_, ?_, ?_⟩
  · constructor <;> omega
  · simp only
    omega
  · simp only
    omega
  · simp only
    omega

theorem splitYears_within (days : Int) :
    daysBeforeYear (splitYears days).1 + (splitYears days).2 = days ∧
      (splitYears days).2 < yearLength (splitYears days).1 := by
  obtain ⟨eras, centuries, quads, singles, place, counted, short, last⟩ := splitYears_inCycles days
  refine ⟨by rw [place.daysBeforeYear, counted], ?_⟩
  unfold yearLength
  split
  · omega
  next noLeap =>
    have := mt (place.isLeapYear.mpr ∘ last) noLeap
    omega

theorem foldl_add_cons (length : Nat) (lengths : List Nat) :
    (length :: lengths).foldl (· + ·) 0 = length + lengths.foldl (· + ·) 0 := by
  have moved := @List.foldl_assoc Nat (· + ·) _ lengths length 0
  rw [List.foldl_cons, Nat.zero_add, ← moved, Nat.add_zero]

theorem splitDays_later {length days : Nat} (later : ¬ days < length) (rest : List Nat) :
    splitDays (length :: rest) days =
      ((splitDays rest (days - length)).1 + 1, (splitDays rest (days - length)).2) := by
  rw [splitDays, if_neg later]

theorem splitDays_within {lengths : List Nat} {days : Nat}
    (within : days < lengths.foldl (· + ·) 0) :
    (splitDays lengths days).2 < lengths.getD (splitDays lengths days).1 0 ∧
      (lengths.take (splitDays lengths days).1).foldl (· + ·) 0 + (splitDays lengths days).2 =
        days := by
  induction lengths generalizing days with
  | nil => exact absurd within (Nat.not_lt_zero _)
  | cons length rest ih =>
    rw [foldl_add_cons] at within
    by_cases here : days < length
    · rw [splitDays, if_pos here]
      exact ⟨here, Nat.zero_add days⟩
    · obtain ⟨inMonth, counted⟩ := @ih (days - length) (by omega)
      rw [splitDays_later here]
      refine ⟨inMonth, ?_⟩
      rw [List.take_succ_cons, foldl_add_cons]
      simp only
      omega

theorem monthLengths_total (year : Int) :
    (monthLengths year).foldl (· + ·) 0 = yearLength year := by
  unfold monthLengths yearLength
  split <;> rfl

theorem monthLength_le (year : Int) (month : Nat) : (monthLengths year).getD month 0 ≤ 31 := by
  have each : ∀ length ∈ monthLengths year, length ≤ 31 := by
    unfold monthLengths
    split <;> decide
  rw [List.getD_eq_getElem?_getD]
  cases found : (monthLengths year)[month]? with
  | none => exact Nat.zero_le 31
  | some length => exact each length (List.mem_of_getElem? found)

theorem ofDayNumber_eq {number : Int} {year : Int} {ordinal month day : Nat}
    (years : splitYears (number + daysBeforeEpoch) = (year, ordinal))
    (days : splitDays (monthLengths year) ordinal = (month, day)) :
    ofDayNumber number = { year, month := month + 1, day := day + 1 } := by
  simp only [ofDayNumber, years, days]

/-- The date of a day is one that its month has, and it counts to that day. -/
theorem ofDayNumber_within (number : Int) :
    (1 ≤ (ofDayNumber number).month ∧ (ofDayNumber number).month ≤ 12 ∧
      1 ≤ (ofDayNumber number).day ∧
      (ofDayNumber number).day ≤
        (monthLengths (ofDayNumber number).year).getD ((ofDayNumber number).month - 1) 0) ∧
    (ofDayNumber number).dayNumber = number := by
  obtain ⟨counted, within⟩ := splitYears_within (number + daysBeforeEpoch)
  rcases years : splitYears (number + daysBeforeEpoch) with ⟨year, ordinal⟩
  rw [years, ← monthLengths_total] at within
  obtain ⟨inMonth, inYear⟩ := splitDays_within within
  rcases days : splitDays (monthLengths year) ordinal with ⟨month, day⟩
  simp only [years, days] at counted inMonth inYear
  have reached : month < 12 := by
    -- A thirteenth month would have no days.
    refine Nat.lt_of_not_le fun beyond => ?_
    rw [List.getD_eq_getElem?_getD, List.getElem?_eq_none beyond] at inMonth
    exact absurd inMonth (Nat.not_lt_zero _)
  rw [ofDayNumber_eq years days]
  simp only [dayNumber, daysBeforeMonth, Nat.add_sub_cancel]
  omega

example : ofDayNumber 11016 = ⟨2000, 2, 29⟩ := by decide

theorem ofDayNumber_isValid {number : Int} (reached : leastYear ≤ (ofDayNumber number).year)
    (reached' : (ofDayNumber number).year ≤ greatestYear) :
    (ofDayNumber number).isValid = true := by
  obtain ⟨⟨month, month', day, day'⟩, _⟩ := ofDayNumber_within number
  simp only [isValid, Bool.and_eq_true, decide_eq_true_eq]
  exact ⟨⟨⟨⟨⟨reached, reached'⟩, month⟩, month'⟩, day⟩, day'⟩

theorem ofDayNumber_inYear (number : Int) :
    daysBeforeYear (ofDayNumber number).year ≤ number + daysBeforeEpoch ∧
      number + daysBeforeEpoch < daysBeforeYear ((ofDayNumber number).year + 1) := by
  obtain ⟨counted, within⟩ := splitYears_within (number + daysBeforeEpoch)
  rcases years : splitYears (number + daysBeforeEpoch) with ⟨year, ordinal⟩
  rcases days : splitDays (monthLengths year) ordinal with ⟨month, day⟩
  simp only [years] at counted within
  simp only [ofDayNumber_eq years days, daysBeforeYear_succ]
  omega

end ODataTable.Date
