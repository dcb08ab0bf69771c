import Mathlib.Data.List.TakeWhile
import ODataTable.Calendar.Literal

/-! Literals of milliseconds, as a grammar beside their reader.

The grammar has one rule for each form: the milliseconds alone, and minutes that are added or taken
away. No rule says where the milliseconds end, because a number has no sign behind its first
character: the first sign after that is the one between the two numbers.
-/

set_option autoImplicit false

namespace ODataTable

def IsNumeral (text : List Char) : Prop :=
  text ≠ [] ∧ ∀ c ∈ text, c.isDigit = true

/-- How a whole number is written: decimal digits behind an optional sign. -/
inductive WritesInteger : List Char → Int → Prop
  | unsigned {digits : List Char} : IsNumeral digits → WritesInteger digits (digitsValue digits)
  | positive {digits : List Char} :
      IsNumeral digits → WritesInteger ('+' :: digits) (digitsValue digits)
  | negative {digits : List Char} :
      IsNumeral digits → WritesInteger ('-' :: digits) (-(digitsValue digits : Int))

def WritesInt64 (text : List Char) (n : Int) : Prop :=
  WritesInteger text n ∧ -0x8000000000000000 ≤ n ∧ n < 0x8000000000000000

theorem isNumeral_iff (text : List Char) :
    (text.isEmpty || !text.all Char.isDigit) = false ↔ IsNumeral text := by
  simp [IsNumeral]

theorem IsNumeral.noSign {text : List Char} (numeral : IsNumeral text) :
    ∀ c ∈ text, TimeLiteral.isSign c = false := by
  intro c member
  have digit := numeral.2 c member
  have plus : c ≠ '+' := by rintro rfl; cases digit
  have minus : c ≠ '-' := by rintro rfl; cases digit
  simp [TimeLiteral.isSign, plus, minus]

theorem splitSign_of_head {text : List Char}
    (first : ∀ c ∈ text.head?, TimeLiteral.isSign c = false) : splitSign text = (false, text) := by
  unfold splitSign
  split
  · cases first '-' rfl
  · cases first '+' rfl
  · rfl

theorem splitSign_of_noSign {text : List Char} (free : ∀ c ∈ text, TimeLiteral.isSign c = false) :
    splitSign text = (false, text) :=
  splitSign_of_head fun c first => free c (List.mem_of_mem_head? first)

theorem readInteger?_eq_some {text : List Char} {n : Int} :
    readInteger? text = some n ↔ WritesInteger text n := by
  constructor
  · intro read
    unfold readInteger? splitSign at read
    split at read
    next negative digits signed =>
      split at read
      · cases read
      next numeral =>
        rw [Bool.not_eq_true, isNumeral_iff] at numeral
        cases read
        -- Each way to split a sign off is the rule of that sign.
        split at signed <;> cases signed
        · exact .negative numeral
        · exact .positive numeral
        · exact .unsigned numeral
  · rintro (numeral | numeral | numeral)
    · have own := (isNumeral_iff _).mpr numeral
      simp [readInteger?, splitSign_of_noSign numeral.noSign, own]
    · have own := (isNumeral_iff _).mpr numeral
      simp [readInteger?, splitSign, own]
    · have own := (isNumeral_iff _).mpr numeral
      simp [readInteger?, splitSign, own]

theorem readInt64?_eq_some {text : List Char} {n : Int} :
    readInt64? text = some n ↔ WritesInt64 text n := by
  simp [readInt64?, WritesInt64, Option.filter_eq_some_iff, readInteger?_eq_some]

theorem WritesInteger.ne_nil {text : List Char} {n : Int} (written : WritesInteger text n) :
    text ≠ [] := by
  cases written with
  | unsigned numeral => exact numeral.1
  | positive | negative => exact List.cons_ne_nil _ _

/-- Behind its first character a number has no sign. -/
theorem WritesInteger.noSign {text : List Char} {n : Int} (written : WritesInteger text n) :
    ∀ c ∈ text.drop 1, TimeLiteral.isSign c = false := by
  cases written with
  | unsigned numeral => exact fun c member => numeral.noSign c (List.mem_of_mem_drop member)
  | positive numeral | negative numeral => exact numeral.noSign

/-- An instant of the calendar, to the nanosecond, a number of milliseconds after the start of
1970. -/
structure Instant.IsAt (instant : Instant) (millis : Int) : Prop where
  exact : instant.seconds * 1000000000 + instant.nanos = millis * 1000000
  noLeap : instant.nanos < 1000000000
  reached : instant.inRange = true

theorem Instant.eq_of_exact {first second : Instant} (noLeap : first.nanos < 1000000000)
    (noLeap' : second.nanos < 1000000000)
    (exact : first.seconds * 1000000000 + first.nanos = second.seconds * 1000000000 + second.nanos) :
    first = second := by
  obtain ⟨seconds, nanos⟩ := first
  obtain ⟨seconds', nanos'⟩ := second
  simp only at noLeap noLeap' exact
  rw [Instant.mk.injEq]
  omega

namespace TimeLiteral

theorem ofMilliseconds?_eq_some {millis : Int} {instant : Instant} :
    ofMilliseconds? millis = some instant ↔ instant.IsAt millis := by
  simp only [ofMilliseconds?]
  constructor
  · intro found
    split at found
    next reached =>
      cases found
      exact ⟨by simp only; omega, by simp only; omega, reached⟩
    · cases found
  · intro placed
    -- Seconds and nanoseconds are quotient and remainder, so the instant is this one.
    have same : ({ seconds := millis / 1000, nanos := (millis % 1000).toNat * 1000000 } : Instant) =
        instant := by
      have exact := placed.exact
      exact Instant.eq_of_exact (by simp only; omega) placed.noLeap (by simp only; omega)
    simp only [same, placed.reached, if_true]

/-- An instant some minutes later, if the calendar reaches it. -/
def moved? (start : Instant) (minutes : Int) : Option Instant :=
  let moved := { start with seconds := start.seconds + minutes * 60 }
  if moved.inRange then some moved else none

theorem moved?_eq_some {start instant : Instant} {millis : Int} (origin : start.IsAt millis)
    {minutes : Int} : moved? start minutes = some instant ↔ instant.IsAt (millis + minutes * 60000) := by
  obtain ⟨exact, noLeap, _⟩ := origin
  simp only [moved?]
  constructor
  · intro found
    split at found
    next reached =>
      cases found
      exact ⟨by simp only; omega, noLeap, reached⟩
    · cases found
  · intro placed
    have same : { start with seconds := start.seconds + minutes * 60 } = instant := by
      have exact' := placed.exact
      exact Instant.eq_of_exact noLeap placed.noLeap (by simp only; omega)
    simp only [same, placed.reached, if_true]

/-- Literals of milliseconds and the instants that they stand for. -/
inductive Legacy : List Char → Instant → Prop
  | plain {written : List Char} {millis : Int} {instant : Instant} :
      WritesInt64 written millis → instant.IsAt millis →
        Legacy ("/Date(".toList ++ written ++ ")/".toList) instant
  | later {written offset : List Char} {millis minutes : Int} {start instant : Instant} :
      WritesInt64 written millis → start.IsAt millis → WritesInt64 offset minutes →
        instant.IsAt (millis + minutes * 60000) →
        Legacy ("/Date(".toList ++ (written ++ '+' :: offset) ++ ")/".toList) instant
  | earlier {written offset : List Char} {millis minutes : Int} {start instant : Instant} :
      WritesInt64 written millis → start.IsAt millis → WritesInt64 offset minutes →
        instant.IsAt (millis - minutes * 60000) →
        Legacy ("/Date(".toList ++ (written ++ '-' :: offset) ++ ")/".toList) instant

theorem dropLead?_eq_some {lead text rest : List Char} :
    dropLead? lead text = some rest ↔ text = lead ++ rest := by
  induction lead generalizing text with
  | nil => simp [dropLead?, eq_comm]
  | cons c lead ih =>
    cases text with
    | nil => simp [dropLead?]
    | cons d text =>
      by_cases same : c = d
      · simp [dropLead?, same, ih]
      · simp [dropLead?, same, Ne.symm same]

theorem dropSuffix?_eq_some {ending text rest : List Char} :
    dropSuffix? ending text = some rest ↔ text = rest ++ ending := by
  unfold dropSuffix?
  constructor
  · intro dropped
    split at dropped
    next ends =>
      obtain ⟨front, rfl⟩ := List.isSuffixOf_iff_suffix.mp ends
      simp at dropped
      rw [dropped]
    · cases dropped
  · rintro rfl
    have ends : ending.isSuffixOf (rest ++ ending) = true :=
      List.isSuffixOf_iff_suffix.mpr (List.suffix_append rest ending)
    simp [ends]

theorem splitOffset_joined {text millis : List Char} {offset : Option (Char × List Char)}
    (split : splitOffset text = (millis, offset)) :
    (offset = none ∧ text = millis) ∨
      ∃ sign digits, offset = some (sign, digits) ∧ isSign sign = true ∧
        text = millis ++ sign :: digits := by
  have whole : text.take 1 ++ text.drop 1 = text := List.take_append_drop 1 text
  have cut : (text.drop 1).takeWhile (!isSign ·) ++ (text.drop 1).dropWhile (!isSign ·) =
      text.drop 1 := List.takeWhile_append_dropWhile
  unfold splitOffset at split
  simp only at split
  cases behind : (text.drop 1).dropWhile (!isSign ·) with
  | nil =>
    rw [behind] at split cut
    cases split
    rw [List.append_nil] at cut
    exact .inl ⟨rfl, by rw [cut, whole]⟩
  | cons sign digits =>
    rw [behind] at split cut
    cases split
    have first := List.head?_dropWhile_not (!isSign ·) (text.drop 1)
    simp only [behind, List.head?_cons, Bool.not_eq_false'] at first
    exact .inr ⟨sign, digits, rfl, first, by rw [List.append_assoc, cut, whole]⟩

theorem splitOffset_of_noSign {text : List Char}
    (free : ∀ c ∈ text.drop 1, isSign c = false) : splitOffset text = (text, none) := by
  have kept : ∀ c ∈ text.drop 1, (!isSign c) = true := fun c member => by simp [free c member]
  simp only [splitOffset, List.takeWhile_eq_self_iff.mpr kept, List.dropWhile_eq_nil_iff.mpr kept,
    List.take_append_drop]

/-- A text is split at a sign, if no earlier one stands behind its first character. -/
theorem splitOffset_at {millis digits : List Char} {sign : Char} (some : millis ≠ [])
    (free : ∀ c ∈ millis.drop 1, isSign c = false) (signed : isSign sign = true) :
    splitOffset (millis ++ sign :: digits) = (millis, .some (sign, digits)) := by
  cases millis with
  | nil => exact absurd rfl some
  | cons c rest =>
    have kept : ∀ d ∈ rest, (!isSign d) = true := fun d member => by
      have := free d member
      simp [this]
    simp [splitOffset, List.takeWhile_append_of_pos kept, List.dropWhile_append_of_pos kept, signed]

theorem isSign_iff (c : Char) : isSign c = true ↔ c = '+' ∨ c = '-' := by
  simp [isSign]

theorem legacy?_of_plain {inner : List Char} (alone : splitOffset inner = (inner, none)) :
    legacy? ("/Date(".toList ++ inner ++ ")/".toList) =
      (readInt64? inner).bind fun millis =>
        (ofMilliseconds? millis).bind fun start => moved? start 0 := by
  have lead := dropLead?_eq_some.mpr (List.append_assoc "/Date(".toList inner ")/".toList)
  have ending := dropSuffix?_eq_some.mpr (rfl : inner ++ ")/".toList = _)
  simp only [legacy?, Option.bind_eq_bind, lead, Option.bind_some, ending, alone]
  rfl

theorem legacy?_of_offset {inner written digits : List Char} {sign : Char}
    (parts : splitOffset inner = (written, some (sign, digits))) :
    legacy? ("/Date(".toList ++ inner ++ ")/".toList) =
      (readInt64? digits).bind fun count =>
        (readInt64? written).bind fun millis =>
          (ofMilliseconds? millis).bind fun start =>
            moved? start (if sign = '-' then -count else count) := by
  have lead := dropLead?_eq_some.mpr (List.append_assoc "/Date(".toList inner ")/".toList)
  have ending := dropSuffix?_eq_some.mpr (rfl : inner ++ ")/".toList = _)
  simp only [legacy?, Option.bind_eq_bind, lead, Option.bind_some, ending, parts]
  cases readInt64? digits <;> rfl

theorem legacy?_moved {written offset : List Char} {millis minutes : Int} {start : Instant}
    {sign : Char} (number : WritesInt64 written millis) (origin : start.IsAt millis)
    (shift : WritesInt64 offset minutes) (signed : isSign sign = true) :
    legacy? ("/Date(".toList ++ (written ++ sign :: offset) ++ ")/".toList) =
      moved? start (if sign = '-' then -minutes else minutes) := by
  rw [legacy?_of_offset (splitOffset_at number.1.ne_nil number.1.noSign signed),
    readInt64?_eq_some.mpr shift, Option.bind_some, readInt64?_eq_some.mpr number,
    Option.bind_some, ofMilliseconds?_eq_some.mpr origin, Option.bind_some]

theorem legacy?_enclosed {text : List Char} {instant : Instant}
    (read : legacy? text = some instant) :
    ∃ inner, text = "/Date(".toList ++ inner ++ ")/".toList := by
  simp only [legacy?, Option.bind_eq_bind, Option.bind_eq_some_iff] at read
  obtain ⟨behind, lead, inner, ending, _⟩ := read
  obtain rfl := dropLead?_eq_some.mp lead
  obtain rfl := dropSuffix?_eq_some.mp ending
  exact ⟨inner, (List.append_assoc _ _ _).symm⟩

theorem legacy?_eq_some {text : List Char} {instant : Instant} :
    legacy? text = some instant ↔ Legacy text instant := by
  constructor
  · intro read
    obtain ⟨inner, rfl⟩ := legacy?_enclosed read
    rcases parts : splitOffset inner with ⟨written, offset⟩
    rcases splitOffset_joined parts with ⟨rfl, rfl⟩ | ⟨sign, digits, rfl, signed, rfl⟩
    · rw [legacy?_of_plain parts] at read
      simp only [Option.bind_eq_some_iff] at read
      obtain ⟨millis, number, start, origin, found⟩ := read
      rw [readInt64?_eq_some] at number
      rw [ofMilliseconds?_eq_some] at origin
      have target := (moved?_eq_some origin).mp found
      exact .plain number (by simpa using target)
    · rw [legacy?_of_offset parts] at read
      simp only [Option.bind_eq_some_iff] at read
      obtain ⟨minutes, offset, millis, number, start, origin, found⟩ := read
      rw [readInt64?_eq_some] at offset number
      rw [ofMilliseconds?_eq_some] at origin
      have target := (moved?_eq_some origin).mp found
      -- Only the sign tells in which direction the minutes count.
      rcases (isSign_iff sign).mp signed with rfl | rfl
      · exact .later number origin offset (by simpa using target)
      · exact .earlier number origin offset (by simpa [Int.sub_eq_add_neg, Int.neg_mul] using target)
  · intro literal
    cases literal with
    | plain number target =>
      have parts := splitOffset_of_noSign number.1.noSign
      rw [legacy?_of_plain parts, readInt64?_eq_some.mpr number, Option.bind_some,
        ofMilliseconds?_eq_some.mpr target, Option.bind_some, moved?_eq_some target]
      simpa using target
    | later number origin offset target =>
      rw [legacy?_moved number origin offset (by decide), moved?_eq_some origin]
      simpa using target
    | earlier number origin offset target =>
      rw [legacy?_moved number origin offset (by decide), moved?_eq_some origin]
      simpa [Int.sub_eq_add_neg, Int.neg_mul] using target

/-! The other forms begin with a digit, a blank or a sign. -/

theorem zoned?_slash (rest : List Char) : zoned? ('/' :: rest) = none := rfl

theorem dateOnly?_slash (rest : List Char) : dateOnly? ('/' :: rest) = none := rfl

theorem zoneless?_slash (rest : List Char) : zoneless? ('/' :: rest) = none := rfl

theorem parse?_slash (rest : List Char) :
    parse? ('/' :: rest) = (legacy? ('/' :: rest)).filter (· ≠ Instant.blank) := by
  have all : forms ('/' :: rest) = [legacy?, zoned?, dateOnly?, zoneless?] := rfl
  rw [parse?, all]
  simp only [List.findSome?_cons, zoned?_slash, dateOnly?_slash, zoneless?_slash,
    List.findSome?_nil, Option.filter_none]
  cases (legacy? ('/' :: rest)).filter (· ≠ Instant.blank) <;> rfl

/-- A literal with a slash in front is read exactly if the grammar of milliseconds has it, as the
instant that it stands for there, and that is not the blank one. Otherwise the fault is the literal
itself. -/
theorem parse_slash {literal : String} (slash : literal.toList.head? = some '/') :
    (∀ instant, parse literal = .ok instant ↔
      Legacy literal.toList instant ∧ instant ≠ Instant.blank) ∧
    ∀ fault, parse literal = .error fault ↔
      fault = { literal } ∧ ¬ ∃ instant, Legacy literal.toList instant ∧ instant ≠ Instant.blank := by
  obtain ⟨rest, text⟩ : ∃ rest, literal.toList = '/' :: rest := by
    cases text : literal.toList with
    | nil => simp [text] at slash
    | cons c rest =>
      rw [text] at slash
      cases slash
      exact ⟨rest, rfl⟩
  have found : ∀ instant, parse? literal.toList = some instant ↔
      Legacy literal.toList instant ∧ instant ≠ Instant.blank := by
    intro instant
    rw [text, parse?_slash, Option.filter_eq_some_iff, legacy?_eq_some, decide_eq_true_eq]
  unfold parse
  cases read : parse? literal.toList with
  | some instant =>
    have own := (found instant).mp read
    refine ⟨fun other => ?_, fun fault => ?_⟩
    · rw [← found, read, Except.ok.injEq, Option.some.injEq]
    · constructor
      · exact nofun
      · rintro ⟨_, unread⟩
        exact absurd ⟨instant, own⟩ unread
  | none =>
    have unread : ¬ ∃ instant, Legacy literal.toList instant ∧ instant ≠ Instant.blank := by
      rintro ⟨instant, own⟩
      rw [← found, read] at own
      cases own
    refine ⟨fun other => ?_, fun fault => ?_⟩
    · constructor
      · exact nofun
      · exact fun own => absurd ⟨other, own⟩ unread
    · rw [Except.error.injEq, eq_comm, and_iff_left unread]

/-- Five milliseconds and minus three minutes: two signs in a row, the second of a number. -/
theorem parse_slash_signs :
    "/Date(5+-3)/".toList.head? = some '/' ∧
      Legacy "/Date(5+-3)/".toList ⟨-180, 5000000⟩ ∧
      parse "/Date(5+-3)/" = .ok ⟨-180, 5000000⟩ := by
  have slash : "/Date(5+-3)/".toList.head? = some '/' := by decide
  have millis : WritesInt64 ['5'] 5 :=
    ⟨.unsigned ⟨List.cons_ne_nil _ _, by simp⟩, by decide, by decide⟩
  have minutes : WritesInt64 ['-', '3'] (-3) :=
    ⟨.negative ⟨List.cons_ne_nil _ _, by simp⟩, by decide, by decide⟩
  have start : Instant.IsAt ⟨0, 5000000⟩ 5 := ⟨by decide, by decide, by decide⟩
  have target : Instant.IsAt ⟨-180, 5000000⟩ (5 + -3 * 60000) := ⟨by decide, by decide, by decide⟩
  have own : Legacy "/Date(5+-3)/".toList ⟨-180, 5000000⟩ := .later millis start minutes target
  exact ⟨slash, own, ((parse_slash slash).1 _).mpr ⟨own, by decide⟩⟩

end TimeLiteral

end ODataTable
