import ODataTable.Proofs.Calendar.Written
import ODataTable.Query.Filter

/-! The window of time that a filter names.

Both bounds are cut to whole seconds, which is never later and never moves one bound past the other.
A bound is written as its whole second is, so it is read back as that.
-/

set_option autoImplicit false

namespace ODataTable

namespace Instant

/-- An instant that a filter can name: it lies in a year of four digits and not in the blank
second. -/
structure IsBound (instant : Instant) : Prop where
  shown : instant.IsShown
  plain : instant.HasPlainYear
  present : instant.seconds ≠ Instant.blank.seconds

theorem before_eq_false {first second : Instant} :
    second.before first = false ↔
      first.seconds < second.seconds ∨
        first.seconds = second.seconds ∧ first.nanos ≤ second.nanos := by
  simp only [before, Bool.or_eq_false_iff, Bool.and_eq_false_iff, decide_eq_false_iff_not]
  omega

/-- What an instant has below its second is dropped. A second begins at no nanoseconds, and a leap
second at a billion of them. -/
structure IsCutTo (instant whole : Instant) : Prop where
  begins : whole.nanos = 0 ∨ whole.nanos = 1000000000
  part : ∃ part < 1000000000, instant = { whole with nanos := whole.nanos + part }

theorem isCutTo_wholeSecond {instant : Instant} (shown : instant.IsShown) :
    instant.IsCutTo instant.wholeSecond := by
  obtain ⟨seconds, nanos⟩ := instant
  have bound := shown.nanos_lt
  simp only at bound
  rcases Nat.lt_or_ge nanos 1000000000 with noLeap | passed
  · simp only [wholeSecond, Nat.not_le_of_lt noLeap, if_false]
    exact ⟨.inl rfl, nanos, noLeap, by rw [Nat.zero_add]⟩
  · have whole : 1000000000 + (nanos - 1000000000) = nanos := by omega
    simp only [wholeSecond, passed, if_true]
    exact ⟨.inr rfl, nanos - 1000000000, by omega, by rw [whole]⟩

theorem not_before_wholeSecond (instant : Instant) :
    instant.before instant.wholeSecond = false := by
  rw [before_eq_false]
  refine .inr ⟨rfl, ?_⟩
  unfold wholeSecond
  split
  · assumption
  · exact Nat.zero_le _

/-- Cutting two instants keeps their order. -/
theorem wholeSecond_ordered {first second : Instant} (ordered : second.before first = false) :
    second.wholeSecond.before first.wholeSecond = false := by
  rw [before_eq_false] at ordered ⊢
  rcases ordered with earlier | ⟨same, below⟩
  · exact .inl earlier
  · refine .inr ⟨same, ?_⟩
    unfold wholeSecond
    split
    next passed =>
      rw [if_pos (Nat.le_trans passed below)]
    · exact Nat.zero_le _

theorem IsShown.wholeSecond {instant : Instant} (shown : instant.IsShown) :
    instant.wholeSecond.IsShown := by
  unfold Instant.wholeSecond
  refine ⟨?_, fun passed => ?_⟩
  · simp only
    split <;> decide
  · simp only at passed
    split at passed
    next leap => exact shown.leap leap
    · exact absurd passed (by decide)

theorem timeOfDay_wholeSecond (instant : Instant) :
    instant.wholeSecond.timeOfDay = { instant.timeOfDay with nanos := 0 } := by
  rcases Nat.lt_or_ge instant.nanos 1000000000 with noLeap | passed
  · simp only [timeOfDay, wholeSecond, Nat.not_le_of_lt noLeap, if_false]
    rfl
  · simp only [timeOfDay, wholeSecond, passed, if_true]
    rfl

theorem writeBound_eq (instant : Instant) : instant.writeBound = instant.wholeSecond.writeJson := by
  have date : instant.wholeSecond.date = instant.date := rfl
  rw [writeJson, writeWith, date, timeOfDay_wholeSecond, writeFraction, if_pos rfl, List.append_nil]
  rfl

end Instant

theorem TimeLiteral.parse_writeBound {instant : Instant} (bound : instant.IsBound) :
    parse (String.ofList instant.writeBound) = .ok instant.wholeSecond := by
  have present : instant.wholeSecond ≠ Instant.blank := by
    intro blank
    have seconds : instant.wholeSecond.seconds = Instant.blank.seconds := by rw [blank]
    exact bound.present seconds
  rw [parse_eq_ok, String.toList_ofList, Instant.writeBound_eq]
  exact parse?_writeJson bound.shown.wholeSecond bound.plain present

namespace Filter

/-- A filter with a time property and a window begins with a clause of two bounds. They are read
back as the bounds of the window without what they have below a second. So neither lies after its
bound, and they are in order. -/
theorem window_readsBack (property : Property) (range : TimeRange) (conditions : List Condition)
    (start : range.start.IsBound) (stop : range.stop.IsBound)
    (ordered : range.stop.before range.start = false) :
    ∃ lower upper : String,
      write (some property) (some range) conditions =
        List.intercalate " and ".toList
          ((property.name.toList ++ " ge ".toList ++ lower.toList ++ " and ".toList ++
            property.name.toList ++ " le ".toList ++ upper.toList) ::
              conditions.map Condition.clause) ∧
      ∃ first last : Instant,
        TimeLiteral.parse lower = .ok first ∧ TimeLiteral.parse upper = .ok last ∧
        range.start.IsCutTo first ∧ range.stop.IsCutTo last ∧
        range.start.before first = false ∧ range.stop.before last = false ∧
        last.before first = false := by
  refine ⟨String.ofList range.start.writeBound, String.ofList range.stop.writeBound, ?_,
    range.start.wholeSecond, range.stop.wholeSecond, TimeLiteral.parse_writeBound start,
    TimeLiteral.parse_writeBound stop, Instant.isCutTo_wholeSecond start.shown,
    Instant.isCutTo_wholeSecond stop.shown, Instant.not_before_wholeSecond _,
    Instant.not_before_wholeSecond _, Instant.wholeSecond_ordered ordered⟩
  simp only [write, clauses, TimeRange.clause, String.toList_ofList, List.append_assoc]
  rfl

/-- From the leap second before 1970 to the last nanosecond of the second after it. -/
theorem window_readsBack_leap :
    Instant.IsBound ⟨-1, 1500000000⟩ ∧ Instant.IsBound ⟨0, 999999999⟩ ∧
      Instant.before ⟨0, 999999999⟩ ⟨-1, 1500000000⟩ = false ∧
      ∃ (lower upper : String) (first last : Instant),
        write (some ⟨"t", .dateTime⟩) (some ⟨⟨-1, 1500000000⟩, ⟨0, 999999999⟩⟩) [] =
          "t ge ".toList ++ lower.toList ++ " and t le ".toList ++ upper.toList ∧
        TimeLiteral.parse lower = .ok first ∧ TimeLiteral.parse upper = .ok last ∧
        Instant.IsCutTo ⟨-1, 1500000000⟩ first ∧ Instant.IsCutTo ⟨0, 999999999⟩ last := by
  have start : Instant.IsBound ⟨-1, 1500000000⟩ :=
    ⟨⟨by decide, by decide⟩, ⟨by decide, by decide⟩, by decide⟩
  have stop : Instant.IsBound ⟨0, 999999999⟩ :=
    ⟨⟨by decide, by decide⟩, ⟨by decide, by decide⟩, by decide⟩
  have ordered : Instant.before ⟨0, 999999999⟩ ⟨-1, 1500000000⟩ = false := by decide
  obtain ⟨lower, upper, text, first, last, lowerRead, upperRead, firstCut, lastCut, _⟩ :=
    window_readsBack ⟨"t", .dateTime⟩ ⟨⟨-1, 1500000000⟩, ⟨0, 999999999⟩⟩ [] start stop ordered
  refine ⟨start, stop, ordered, lower, upper, first, last, by rw [text]; simp, lowerRead, upperRead,
    firstCut, lastCut⟩

end Filter

end ODataTable
