import ODataTable.Proofs.Calendar.Date
import ODataTable.Proofs.Calendar.Forms
import ODataTable.Proofs.Edm.Coercion

/-! Instants that are written and read back.

An instant is what a clock shows on a date. The date counts to the day of the instant and the clock
shows the rest, so that a reader of both finds the instant again. Of the forms of time literals only
the one with a zone reads what is written, and that form is told by the text.
-/

set_option autoImplicit false

namespace ODataTable

/-- A clock without offset shows the instant: the count of nanoseconds passes a billion only in the
leap second after second 59 of a minute, which the clock shows as second 60. -/
structure Instant.IsShown (instant : Instant) : Prop where
  nanos_lt : instant.nanos < 2000000000
  leap : 1000000000 ≤ instant.nanos → instant.seconds % 60 = 59

/-- The year of the instant has four digits and no sign. -/
def Instant.HasPlainYear (instant : Instant) : Prop :=
  0 ≤ instant.date.year ∧ instant.date.year ≤ 9999

namespace Instant

theorem ofCivil_isShown {date : Date} {time : TimeOfDay} (short : time.nanos < 1000000000) :
    (ofCivil date time).IsShown := by
  by_cases leap : time.second = 60
  · simp only [ofCivil, leap, if_true]
    refine ⟨?_, fun _ => ?_⟩ <;> simp only <;> omega
  · simp only [ofCivil, leap, if_false]
    refine ⟨?_, fun passed => ?_⟩
    · simp only
      omega
    · simp only at passed
      omega

/-- A clock that is ahead by whole minutes shows the same second of a minute. -/
theorem IsShown.earlier {instant : Instant} (shown : instant.IsShown) {offset : Int}
    (minutes : offset % 60 = 0) :
    ({ instant with seconds := instant.seconds - offset } : Instant).IsShown := by
  obtain ⟨nanos_lt, leap⟩ := shown
  refine ⟨nanos_lt, fun passed => ?_⟩
  have := leap passed
  simp only
  omega

theorem isShown_of_noLeap {instant : Instant} (noLeap : instant.nanos < 1000000000) :
    instant.IsShown :=
  ⟨by omega, fun passed => absurd noLeap (Nat.not_lt_of_le passed)⟩

theorem timeOfDay_of_noLeap {instant : Instant} (noLeap : instant.nanos < 1000000000) :
    instant.timeOfDay =
      { hour := (instant.seconds % 86400).toNat / 3600
        minute := (instant.seconds % 86400).toNat / 60 % 60
        second := (instant.seconds % 86400).toNat % 60
        nanos := instant.nanos } := by
  simp only [timeOfDay, Nat.not_le_of_lt noLeap, if_false]

theorem timeOfDay_of_leap {instant : Instant} (passed : 1000000000 ≤ instant.nanos)
    (last : instant.seconds % 60 = 59) :
    instant.timeOfDay =
      { hour := (instant.seconds % 86400).toNat / 3600
        minute := (instant.seconds % 86400).toNat / 60 % 60
        second := 60
        nanos := instant.nanos - 1000000000 } := by
  have sixty : (instant.seconds % 86400).toNat % 60 + 1 = 60 := by omega
  simp only [timeOfDay, passed, if_true, sixty]

theorem timeOfDay_isValid {instant : Instant} (shown : instant.IsShown) :
    instant.timeOfDay.isValid = true ∧ instant.timeOfDay.nanos < 1000000000 := by
  obtain ⟨nanos_lt, leap⟩ := shown
  rcases Nat.lt_or_ge instant.nanos 1000000000 with noLeap | passed
  · rw [timeOfDay_of_noLeap noLeap]
    simp only [TimeOfDay.isValid, Bool.and_eq_true, decide_eq_true_eq]
    omega
  · rw [timeOfDay_of_leap passed (leap passed)]
    simp only [TimeOfDay.isValid, Bool.and_eq_true, decide_eq_true_eq]
    omega

theorem ofCivil_timeOfDay {instant : Instant} (shown : instant.IsShown) :
    ofCivil instant.date instant.timeOfDay = instant := by
  obtain ⟨nanos_lt, leap⟩ := shown
  have day : instant.date.dayNumber = instant.seconds / 86400 := (Date.ofDayNumber_within _).2
  rcases Nat.lt_or_ge instant.nanos 1000000000 with noLeap | passed
  · have below : (instant.seconds % 86400).toNat % 60 ≠ 60 := by omega
    have seconds : instant.seconds / 86400 * 86400 +
        (((instant.seconds % 86400).toNat / 3600 : Nat) : Int) * 3600 +
        (((instant.seconds % 86400).toNat / 60 % 60 : Nat) : Int) * 60 +
        (((instant.seconds % 86400).toNat % 60 : Nat) : Int) = instant.seconds := by omega
    rw [timeOfDay_of_noLeap noLeap]
    simp only [ofCivil, day, below, if_false, seconds]
  · -- Second 60 counts as second 59 and a billion of nanoseconds.
    have last := leap passed
    have seconds : instant.seconds / 86400 * 86400 +
        (((instant.seconds % 86400).toNat / 3600 : Nat) : Int) * 3600 +
        (((instant.seconds % 86400).toNat / 60 % 60 : Nat) : Int) * 60 + ((59 : Nat) : Int) =
          instant.seconds := by omega
    rw [timeOfDay_of_leap passed last]
    simp only [ofCivil, day, if_true, seconds, Nat.sub_add_cancel passed]

theorem inRange_of_year {instant : Instant} (least : Date.leastYear ≤ instant.date.year)
    (greatest : instant.date.year ≤ Date.greatestYear) : instant.inRange = true := by
  obtain ⟨after, before⟩ := Date.ofDayNumber_inYear (instant.seconds / 86400)
  have first := Date.daysBeforeYear_le least
  have last := Date.daysBeforeYear_le (Int.add_le_add_right greatest 1)
  have start : (Date.mk Date.leastYear 1 1).dayNumber =
      Date.daysBeforeYear Date.leastYear - Date.daysBeforeEpoch := by decide
  have stop : (Date.mk Date.greatestYear 12 31).dayNumber + 1 =
      Date.daysBeforeYear (Date.greatestYear + 1) - Date.daysBeforeEpoch := by decide
  simp only [inRange, Bool.and_eq_true, decide_eq_true_eq, start, stop]
  unfold date at *
  omega

end Instant

namespace TimeLiteral

theorem resolve_isShown {date : Date} {time : TimeOfDay} {offset : Int} {instant : Instant}
    (short : time.nanos < 1000000000) (minutes : offset % 60 = 0)
    (resolved : resolve date time offset = some instant) : instant.IsShown := by
  unfold resolve at resolved
  split at resolved
  · simp only at resolved
    split at resolved
    · cases resolved
      exact (Instant.ofCivil_isShown short).earlier minutes
    · cases resolved
  · cases resolved

theorem readZone_minutes {text rest : List Char} {offset : Int}
    (read : readZone text = some (offset, rest)) : offset % 60 = 0 := by
  cases text with
  | nil => cases read
  | cons c behind =>
    simp only [readZone] at read
    split at read
    · cases read
      rfl
    split at read
    · simp only [Option.bind_eq_bind, Option.bind_eq_some_iff] at read
      obtain ⟨⟨hours, _⟩, _, _, _, ⟨minutes, _⟩, _, read⟩ := read
      simp only at read
      split at read
      · cases read
        split <;> omega
      · cases read
    · cases read

theorem readLooseClock_nanos {text rest : List Char} {time : TimeOfDay}
    (read : readLooseClock text = some (time, rest)) : time.nanos < 1000000000 := by
  simp only [readLooseClock, Option.bind_eq_bind, Option.bind_eq_some_iff] at read
  obtain ⟨_, _, _, _, _, _, _, _, _, _, ⟨nanos, behind⟩, fraction, read⟩ := read
  cases read
  exact readFraction_lt fraction

theorem Form.read?_isShown {form : Form} {text : List Char} {instant : Instant}
    (read : form.read? text = some instant) : instant.IsShown := by
  cases form with
  | legacy =>
    cases legacy?_eq_some.mp read with
    | plain number target => exact Instant.isShown_of_noLeap target.noLeap
    | later number origin offset target => exact Instant.isShown_of_noLeap target.noLeap
    | earlier number origin offset target => exact Instant.isShown_of_noLeap target.noLeap
  | zoned =>
    obtain ⟨date, separator, clock, time, zone, offset, _, clockRead, zoneRead, resolved⟩ :=
      zoned?_eq_some read
    have loose := readLooseClock_of_readClock clockRead
    exact resolve_isShown (readLooseClock_nanos loose) (readZone_minutes zoneRead) resolved
  | dateOnly =>
    obtain ⟨date, _, resolved⟩ := dateOnly?_eq_some read
    exact resolve_isShown (by decide) rfl resolved
  | zoneless =>
    obtain ⟨date, clock, time, _, clockRead, resolved⟩ := zoneless?_eq_some read
    exact resolve_isShown (readLooseClock_nanos clockRead) rfl resolved

theorem resolve_shown {instant : Instant} (shown : instant.IsShown) (plain : instant.HasPlainYear) :
    resolve instant.date instant.timeOfDay 0 = some instant := by
  obtain ⟨least, greatest⟩ := plain
  have low : Date.leastYear ≤ instant.date.year := Int.le_trans (by decide) least
  have high : instant.date.year ≤ Date.greatestYear := Int.le_trans greatest (by decide)
  have date : instant.date.isValid = true := Date.ofDayNumber_isValid low high
  have reached := Instant.inRange_of_year low high
  simp only [resolve, date, (Instant.timeOfDay_isValid shown).1, Bool.and_self, if_true,
    Instant.ofCivil_timeOfDay shown, Int.sub_zero, reached]

theorem readChar_cons (c : Char) (rest : List Char) : readChar c (c :: rest) = some rest :=
  readChar_eq_some.mpr rfl

theorem readClock_writeClock {time : TimeOfDay} (valid : time.isValid = true)
    (short : time.nanos < 1000000000) {rest : List Char} (ends : EndsFraction rest) :
    readClock (Instant.writeClock time ++ Instant.writeFraction time.nanos ++ rest) =
      some (time, rest) := by
  simp only [TimeOfDay.isValid, Bool.and_eq_true, decide_eq_true_eq] at valid
  have hour : time.hour < 100 := by omega
  have minute : time.minute < 100 := by omega
  have second : time.second < 100 := by omega
  simp only [Instant.writeClock, List.append_assoc, List.cons_append, readClock,
    Option.bind_eq_bind, Option.bind_some, readChar_cons, readDigits_two hour,
    readDigits_two minute, readDigits_two second, readFraction_writeFraction short ends]

theorem zoned?_written {date : Date} {time : TimeOfDay} (plain : 0 ≤ date.year ∧ date.year ≤ 9999)
    (onCalendar : date.isValid = true) (valid : time.isValid = true)
    (short : time.nanos < 1000000000) {zone : List Char} (ends : EndsFraction zone) {offset : Int}
    (zoneRead : readZone zone = some (offset, [])) :
    zoned? (Instant.writeDate date ++ 'T' :: Instant.writeClock time ++
      Instant.writeFraction time.nanos ++ zone) = resolve date time offset := by
  obtain ⟨year, month, day⟩ := date
  obtain ⟨fourDigits, yearIs⟩ : year.toNat < 10000 ∧ (year.toNat : Int) = year := by
    simp only at plain
    omega
  have twoDigits : month < 100 ∧ day < 100 := by
    simp only [Date.isValid, Bool.and_eq_true, decide_eq_true_eq] at onCalendar
    have longest := Date.monthLength_le year (month - 1)
    omega
  have clock := readClock_writeClock valid short ends
  simp only [Instant.writeDate, Instant.writeYear, if_pos plain, zoned?, readAfterYear,
    List.append_assoc, List.cons_append, Option.bind_eq_bind, Option.bind_some, readChar_cons,
    readDigits_four fourDigits, readDigits_two twoDigits.1, readDigits_two twoDigits.2,
    yearIs] at clock ⊢
  simp only [clock, zoneRead, Option.bind_some, List.isEmpty_nil, decide_true, Bool.true_or,
    if_true]

/-- A written instant is read in a zone without offset, however that zone is written. -/
theorem parse?_writeWith {instant : Instant} (shown : instant.IsShown)
    (plain : instant.HasPlainYear) (present : instant ≠ Instant.blank) {zone : List Char}
    (ends : EndsFraction zone) (zoneRead : readZone zone = some (0, [])) :
    parse? (instant.writeWith 'T' zone) = some instant := by
  obtain ⟨valid, short⟩ := Instant.timeOfDay_isValid shown
  have onCalendar : instant.date.isValid = true :=
    Date.ofDayNumber_isValid (Int.le_trans (by decide) plain.1) (Int.le_trans plain.2 (by decide))
  refine parse?_eq_some.mpr ⟨⟨.zoned, ?_⟩, present⟩
  calc zoned? (instant.writeWith 'T' zone)
      = resolve instant.date instant.timeOfDay 0 :=
        zoned?_written plain onCalendar valid short ends zoneRead
    _ = some instant := resolve_shown shown plain

theorem parse?_writeCell {instant : Instant} (shown : instant.IsShown)
    (plain : instant.HasPlainYear) (present : instant ≠ Instant.blank) :
    parse? instant.writeCell = some instant :=
  parse?_writeWith shown plain present (by simp [EndsFraction]) (by decide)

theorem parse?_writeJson {instant : Instant} (shown : instant.IsShown)
    (plain : instant.HasPlainYear) (present : instant ≠ Instant.blank) :
    parse? instant.writeJson = some instant :=
  parse?_writeWith shown plain present (by simp [EndsFraction]) (by decide)

end TimeLiteral

/-- Digits and the marks between them lie between a plus and a Z. -/
def IsClockChar (c : Char) : Prop :=
  '+'.toNat ≤ c.toNat ∧ c.toNat ≤ 'Z'.toNat

instance : DecidablePred IsClockChar :=
  fun _ => inferInstanceAs (Decidable (_ ∧ _))

namespace Instant

theorem isClockChar_writePadded (width n : Nat) : ∀ c ∈ writePadded width n, IsClockChar c := by
  intro c member
  obtain ⟨least, greatest⟩ := toNat_of_isDigit (isDigit_of_mem_writePadded member)
  exact ⟨Nat.le_trans (by decide) least, Nat.le_trans greatest (by decide)⟩

theorem isClockChar_writeDate (date : Date) : ∀ c ∈ writeDate date, IsClockChar c := by
  have year : ∀ c ∈ writeYear date.year, IsClockChar c := by
    unfold writeYear
    split
    · exact isClockChar_writePadded _ _
    · refine List.forall_mem_cons.mpr ⟨?_, isClockChar_writePadded _ _⟩
      split <;> decide
  simp only [writeDate, List.forall_mem_append, List.forall_mem_cons]
  exact ⟨⟨year, by decide, isClockChar_writePadded _ _⟩, by decide, isClockChar_writePadded _ _⟩

theorem isClockChar_writeClock (time : TimeOfDay) : ∀ c ∈ writeClock time, IsClockChar c := by
  simp only [writeClock, List.forall_mem_append, List.forall_mem_cons]
  exact ⟨⟨isClockChar_writePadded _ _, by decide, isClockChar_writePadded _ _⟩, by decide,
    isClockChar_writePadded _ _⟩

theorem isClockChar_writeFraction (nanos : Nat) : ∀ c ∈ writeFraction nanos, IsClockChar c := by
  have places : ∀ width n, ∀ c ∈ '.' :: writePadded width n, IsClockChar c :=
    fun width n => List.forall_mem_cons.mpr ⟨by decide, isClockChar_writePadded width n⟩
  unfold writeFraction
  split
  · exact List.forall_mem_nil _
  split
  · exact places _ _
  split
  · exact places _ _
  · exact places _ _

theorem isClockChar_writeJson (instant : Instant) : ∀ c ∈ instant.writeJson, IsClockChar c := by
  simp only [writeJson, writeWith, List.forall_mem_append, List.forall_mem_cons]
  exact ⟨⟨⟨isClockChar_writeDate _, by decide, isClockChar_writeClock _⟩,
    isClockChar_writeFraction _⟩, by decide, List.forall_mem_nil _⟩

end Instant

theorem writeChar_of_isClockChar {c : Char} (clock : IsClockChar c) : Json.writeChar c = [c] := by
  have other : ∀ d : Char, ¬ IsClockChar d → c ≠ d := by
    rintro d outside rfl
    exact outside clock
  have visible : ¬ c.toNat < 0x20 := Nat.not_lt_of_le (Nat.le_trans (by decide) clock.1)
  simp only [Json.writeChar, other '"' (by decide), other '\\' (by decide), other '\n' (by decide),
    other '\r' (by decide), other '\t' (by decide), other '\x08' (by decide),
    other '\x0c' (by decide), visible, if_false]

theorem writeString_of_isClockChar {text : List Char} (clock : ∀ c ∈ text, IsClockChar c) :
    Json.writeString (String.ofList text) = '"' :: text ++ ['"'] := by
  have same : text.flatMap Json.writeChar = text := by
    induction text with
    | nil => rfl
    | cons c rest ih =>
      obtain ⟨here, after⟩ := List.forall_mem_cons.mp clock
      rw [List.flatMap_cons, writeChar_of_isClockChar here, ih after, List.singleton_append]
  rw [Json.writeString, String.toList_ofList, same]

namespace Edm

theorem tree_time (instant : Instant) :
    (Cell.time instant).tree.compact = '"' :: instant.writeJson ++ ['"'] :=
  writeString_of_isClockChar instant.isClockChar_writeJson

theorem coerce_temporal {typeName : TypeName} (temporal : typeName.isTemporal = true)
    (text : String) :
    coerce (.string text) typeName = .ok ((TimeLiteral.parse? text.toList).map .time) :=
  coerce_of_temporal Json.Value.noConfusion temporal

/-- Both texts of a cell, the printed one and the one between the quotes of its JSON text, are read
as the instant of the cell. So whatever literal a cell comes from, either text gives the cell again
in every temporal type. -/
theorem time_readsBack :
    (∀ instant : Instant, instant.IsShown → instant.HasPlainYear → instant ≠ Instant.blank →
      ∃ text, (Cell.time instant).tree.compact = '"' :: text ++ ['"'] ∧
        TimeLiteral.parse (String.ofList (Cell.time instant).write) = .ok instant ∧
        TimeLiteral.parse (String.ofList text) = .ok instant) ∧
    ∀ (literal : String) (instant : Instant), TimeLiteral.parse literal = .ok instant →
      instant.HasPlainYear →
      ∃ text, (Cell.time instant).tree.compact = '"' :: text ++ ['"'] ∧
        ∀ typeName : TypeName, typeName.isTemporal = true →
          coerce (.string literal) typeName = .ok (some (.time instant)) ∧
          coerce (.string (String.ofList (Cell.time instant).write)) typeName =
            .ok (some (.time instant)) ∧
          coerce (.string (String.ofList text)) typeName = .ok (some (.time instant)) := by
  constructor
  · intro instant shown plain present
    refine ⟨instant.writeJson, tree_time instant, ?_, ?_⟩
    · rw [TimeLiteral.parse_eq_ok, String.toList_ofList]
      exact TimeLiteral.parse?_writeCell shown plain present
    · rw [TimeLiteral.parse_eq_ok, String.toList_ofList]
      exact TimeLiteral.parse?_writeJson shown plain present
  · intro literal instant parsed plain
    rw [TimeLiteral.parse_eq_ok] at parsed
    obtain ⟨⟨form, read⟩, present⟩ := TimeLiteral.parse?_eq_some.mp parsed
    have shown := TimeLiteral.Form.read?_isShown read
    have printed := TimeLiteral.parse?_writeCell shown plain present
    have quoted := TimeLiteral.parse?_writeJson shown plain present
    refine ⟨instant.writeJson, tree_time instant, fun typeName temporal => ?_⟩
    simp only [coerce_temporal temporal, String.toList_ofList, parsed, quoted, Option.map_some,
      Cell.write, printed, and_self]

/-- A nanosecond of the leap second before 1970, from a literal without a zone. -/
theorem time_readsBack_leap :
    Instant.IsShown ⟨-1, 1000000001⟩ ∧ Instant.HasPlainYear ⟨-1, 1000000001⟩ ∧
      (⟨-1, 1000000001⟩ : Instant) ≠ Instant.blank ∧
      TimeLiteral.parse (String.ofList (Cell.time ⟨-1, 1000000001⟩).write) =
        .ok ⟨-1, 1000000001⟩ ∧
      TimeLiteral.parse "1969-12- 31T23:59:60.000000001" = .ok ⟨-1, 1000000001⟩ ∧
      TypeName.date.isTemporal = true ∧
      coerce (.string (String.ofList (Cell.time ⟨-1, 1000000001⟩).write)) .date =
        .ok (some (.time ⟨-1, 1000000001⟩)) := by
  have shown : Instant.IsShown ⟨-1, 1000000001⟩ := ⟨by decide, by decide⟩
  have plain : Instant.HasPlainYear ⟨-1, 1000000001⟩ := ⟨by decide, by decide⟩
  have present : (⟨-1, 1000000001⟩ : Instant) ≠ Instant.blank := by decide
  have parsed : TimeLiteral.parse "1969-12- 31T23:59:60.000000001" = .ok ⟨-1, 1000000001⟩ :=
    TimeLiteral.parse_eq_ok.mpr (by decide +kernel)
  obtain ⟨_, _, printed, _⟩ := time_readsBack.1 _ shown plain present
  obtain ⟨_, _, again⟩ := time_readsBack.2 _ _ parsed plain
  exact ⟨shown, plain, present, printed, parsed, rfl, (again .date rfl).2.1⟩

end Edm

end ODataTable
