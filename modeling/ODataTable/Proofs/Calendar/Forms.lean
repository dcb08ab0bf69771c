import ODataTable.Proofs.Calendar.Legacy
import ODataTable.Proofs.Calendar.Number

/-! The forms of time literals exclude each other, so the order in which they are tried does not
matter.

Milliseconds begin with a slash, which no other form does. The three others begin with a date, and
they read the same one: numbers that a zone asks for have all their digits and no blanks, so the
forms without a zone take them as well. What follows the date decides: nothing, a clock that ends
the literal, or more.
-/

set_option autoImplicit false

namespace ODataTable.TimeLiteral

theorem isBlank_of_isDigit {c : Char} (digit : c.isDigit = true) : isBlank c = false := by
  have bounds := toNat_of_isDigit digit
  simp only [isBlank, inRanges, blankRanges, List.any_cons, List.any_nil, Bool.or_false,
    Bool.or_eq_false_iff, Bool.and_eq_false_iff, decide_eq_false_iff_not]
  omega

theorem dropWhile_isBlank_of_isDigit {c : Char} (digit : c.isDigit = true) (rest : List Char) :
    (c :: rest).dropWhile isBlank = c :: rest :=
  List.dropWhile_cons_of_neg (by simp [isBlank_of_isDigit digit])

theorem readDigits_least {least least' most : Nat} {text : List Char} {number : Nat × List Char}
    (fewer : least' ≤ least) (read : readDigits least most text = some number) :
    readDigits least' most text = some number := by
  simp only [readDigits] at read ⊢
  split at read
  · cases read
  next enough => rw [if_neg (by omega), read]

theorem readDigits_begins {least most : Nat} {text : List Char} {number : Nat × List Char}
    (least_pos : 0 < least) (read : readDigits least most text = some number) :
    ∃ c rest, text = c :: rest ∧ c.isDigit = true := by
  simp only [readDigits] at read
  split at read
  · cases read
  next enough =>
    cases text with
    | nil => simp at enough; omega
    | cons c rest =>
      refine ⟨c, rest, rfl, ?_⟩
      by_contra other
      have none : ((c :: rest).take most).takeWhile Char.isDigit = [] := by
        cases most with
        | zero => rfl
        | succ most => rw [List.take_succ_cons, List.takeWhile_cons_of_neg other]
      rw [none, List.length_nil] at enough
      exact enough least_pos

theorem readNumber_of_readDigits {least most : Nat} {text : List Char} {number : Nat × List Char}
    (least_pos : 0 < least) (read : readDigits least most text = some number) :
    readNumber most text = some number := by
  obtain ⟨c, rest, rfl, digit⟩ := readDigits_begins least_pos read
  rw [readNumber, dropWhile_isBlank_of_isDigit digit]
  exact readDigits_least least_pos read

theorem readYear_of_readDigits {text rest : List Char} {year : Nat}
    (read : readDigits 4 4 text = some (year, rest)) :
    readYear text = some ((year : Int), rest) := by
  obtain ⟨c, behind, rfl, digit⟩ := readDigits_begins (by decide) read
  have noSign : (c = '-' || c = '+') = false := by
    rw [Bool.or_eq_false_iff, decide_eq_false_iff_not, decide_eq_false_iff_not]
    constructor <;> rintro rfl <;> cases digit
  simp [readYear, dropWhile_isBlank_of_isDigit digit, noSign,
    readDigits_least (by decide : 1 ≤ 4) read]

theorem readChar_eq_some {c : Char} {text rest : List Char} :
    readChar c text = some rest ↔ text = c :: rest := by
  cases text with
  | nil => simp [readChar]
  | cons d text =>
    by_cases same : d = c
    · simp [readChar, same]
    · simp [readChar, same]

/-- Read a clock whose numbers may have blanks before them and need not have two digits. -/
def readLooseClock (text : List Char) : Option (TimeOfDay × List Char) := do
  let (hour, text) ← readNumber 2 text
  let text ← readChar ':' text
  let (minute, text) ← readNumber 2 text
  let text ← readChar ':' text
  let (second, text) ← readNumber 2 text
  let (nanos, text) ← readFraction text
  some (⟨hour, minute, second, nanos⟩, text)

theorem readLooseClock_of_readClock {text : List Char} {clock : TimeOfDay × List Char}
    (read : readClock text = some clock) : readLooseClock text = some clock := by
  simp only [readClock, Option.bind_eq_bind, Option.bind_eq_some_iff] at read
  obtain ⟨⟨hour, behindHour⟩, hourRead, beforeMinute, first, ⟨minute, behindMinute⟩, minuteRead,
    beforeSecond, second, ⟨seconds, behindSecond⟩, secondRead, rest⟩ := read
  have hourRead' := readNumber_of_readDigits Nat.zero_lt_two hourRead
  have minuteRead' := readNumber_of_readDigits Nat.zero_lt_two minuteRead
  have secondRead' := readNumber_of_readDigits Nat.zero_lt_two secondRead
  simpa only [readLooseClock, Option.bind_eq_bind, Option.bind_eq_some_iff] using
    ⟨_, hourRead', _, first, _, minuteRead', _, second, _, secondRead', rest⟩

theorem zoned?_eq_some {text : List Char} {instant : Instant} (read : zoned? text = some instant) :
    ∃ date separator clock time zone offset, readDate text = some (date, separator :: clock) ∧
      readClock clock = some (time, zone) ∧ readZone zone = some (offset, []) ∧
      resolve date time offset = some instant := by
  simp only [zoned?, readAfterYear, Option.bind_eq_bind, Option.bind_eq_some_iff] at read
  obtain ⟨⟨year, behindYear⟩, yearRead, beforeMonth, first, ⟨month, behindMonth⟩, monthRead,
    beforeDay, second, ⟨day, behindDay⟩, dayRead, read⟩ := read
  have date : readDate text = some (⟨year, month, day⟩, behindDay) := by
    have yearRead' := readYear_of_readDigits yearRead
    have monthRead' := readNumber_of_readDigits Nat.zero_lt_two monthRead
    have dayRead' := readNumber_of_readDigits Nat.zero_lt_two dayRead
    simpa only [readDate, Option.bind_eq_bind, Option.bind_eq_some_iff] using
      ⟨_, yearRead', _, first, _, monthRead', _, second, _, dayRead', rfl⟩
  cases behindDay with
  | nil => cases read
  | cons separator clock =>
    simp only at read
    split at read
    · rw [Option.bind_eq_some_iff] at read
      obtain ⟨⟨time, behindClock⟩, clockRead, read⟩ := read
      rw [Option.bind_eq_some_iff] at read
      obtain ⟨⟨offset, behindZone⟩, zoneRead, read⟩ := read
      split at read
      next ends =>
        rw [List.isEmpty_iff] at ends
        subst ends
        exact ⟨_, _, _, _, _, _, date, clockRead, zoneRead, read⟩
      · cases read
    · cases read

theorem dateOnly?_eq_some {text : List Char} {instant : Instant}
    (read : dateOnly? text = some instant) :
    ∃ date, readDate text = some (date, []) ∧ resolve date ⟨0, 0, 0, 0⟩ 0 = some instant := by
  simp only [dateOnly?, Option.bind_eq_bind, Option.bind_eq_some_iff] at read
  obtain ⟨⟨date, rest⟩, dateRead, read⟩ := read
  split at read
  next ends =>
    rw [List.isEmpty_iff] at ends
    subst ends
    exact ⟨date, dateRead, read⟩
  · cases read

theorem zoneless?_eq_some {text : List Char} {instant : Instant}
    (read : zoneless? text = some instant) :
    ∃ date clock time, readDate text = some (date, 'T' :: clock) ∧
      readLooseClock clock = some (time, []) ∧ resolve date time 0 = some instant := by
  simp only [zoneless?, Option.bind_eq_bind, Option.bind_eq_some_iff] at read
  obtain ⟨⟨date, behindDate⟩, dateRead, clock, separated, ⟨hour, behindHour⟩, hourRead,
    beforeMinute, first, ⟨minute, behindMinute⟩, minuteRead, beforeSecond, second,
    ⟨seconds, behindSecond⟩, secondRead, ⟨nanos, rest⟩, fractionRead, read⟩ := read
  split at read
  next ends =>
    rw [List.isEmpty_iff] at ends
    subst ends
    rw [readChar_eq_some] at separated
    subst separated
    refine ⟨date, clock, ⟨hour, minute, seconds, nanos⟩, dateRead, ?_, read⟩
    simpa only [readLooseClock, Option.bind_eq_bind, Option.bind_eq_some_iff] using
      ⟨_, hourRead, _, first, _, minuteRead, _, second, _, secondRead, _, fractionRead, rfl⟩
  · cases read

inductive Form where
  | legacy
  | zoned
  | dateOnly
  | zoneless
  deriving DecidableEq, Repr

def Form.read? : Form → List Char → Option Instant
  | .legacy => legacy?
  | .zoned => zoned?
  | .dateOnly => dateOnly?
  | .zoneless => zoneless?

/-- The only form that a literal can have, told by how it begins and where it ends. -/
def Form.ofText (text : List Char) : Form :=
  if text.head? = some '/' then .legacy
  else
    match readDate text with
    | some (_, []) => .dateOnly
    | some (_, separator :: clock) =>
      if separator = 'T' ∧ (readLooseClock clock).map Prod.snd = some [] then .zoneless else .zoned
    | none => .zoned

theorem head?_of_readDate {text : List Char} {date : Date × List Char}
    (read : readDate text = some date) : text.head? ≠ some '/' := by
  intro slash
  cases text with
  | nil => cases slash
  | cons c rest =>
    cases slash
    cases read

theorem readZone_nil : readZone [] = none := rfl

theorem Form.ofText_of_read? {form : Form} {text : List Char} {instant : Instant}
    (read : form.read? text = some instant) : Form.ofText text = form := by
  cases form with
  | legacy =>
    obtain ⟨inner, rfl⟩ := legacy?_enclosed read
    rfl
  | zoned =>
    obtain ⟨date, separator, clock, time, zone, offset, dateRead, clockRead, zoneRead, _⟩ :=
      zoned?_eq_some read
    have loose := readLooseClock_of_readClock clockRead
    -- The clock does not end the literal: a zone is not empty.
    have more : ¬ (separator = 'T' ∧ (readLooseClock clock).map Prod.snd = some []) := by
      rintro ⟨_, ends⟩
      rw [loose, Option.map_some, Option.some.injEq] at ends
      simp only at ends
      rw [ends, readZone_nil] at zoneRead
      cases zoneRead
    simp only [ofText, if_neg (head?_of_readDate dateRead), dateRead, if_neg more]
  | dateOnly =>
    obtain ⟨date, dateRead, _⟩ := dateOnly?_eq_some read
    simp only [ofText, if_neg (head?_of_readDate dateRead), dateRead]
  | zoneless =>
    obtain ⟨date, clock, time, dateRead, clockRead, _⟩ := zoneless?_eq_some read
    simp only [ofText, if_neg (head?_of_readDate dateRead), dateRead, clockRead, Option.map_some,
      and_self, if_true]

theorem Form.read?_unique {form other : Form} {text : List Char} {first second : Instant}
    (read : form.read? text = some first) (read' : other.read? text = some second) :
    form = other := by
  rw [← ofText_of_read? read, ofText_of_read? read']

/-- The instant of a literal, with the forms tried in an order of choice. -/
def parseIn? (order : List Form) (text : List Char) : Option Instant :=
  order.findSome? fun form => (form.read? text).filter (· ≠ Instant.blank)

def parseIn (order : List Form) (literal : String) : Except Fault Instant :=
  (parseIn? order literal.toList).elim (.error { literal }) .ok

/-- In an order that has every form, the only form that reads a literal is reached. -/
theorem parseIn?_eq_some {order : List Form} (complete : ∀ form, form ∈ order) {text : List Char}
    {instant : Instant} :
    parseIn? order text = some instant ↔
      (∃ form : Form, form.read? text = some instant) ∧ instant ≠ Instant.blank := by
  constructor
  · intro found
    obtain ⟨form, _, kept⟩ := List.exists_of_findSome?_eq_some found
    rw [Option.filter_eq_some_iff, decide_eq_true_eq] at kept
    exact ⟨⟨form, kept.1⟩, kept.2⟩
  · rintro ⟨⟨form, read⟩, present⟩
    have kept : (form.read? text).filter (· ≠ Instant.blank) = some instant := by
      rw [Option.filter_eq_some_iff, decide_eq_true_eq]
      exact ⟨read, present⟩
    have found : (parseIn? order text).isSome := by
      rw [parseIn?, List.findSome?_isSome_iff]
      exact ⟨form, complete form, by rw [kept, Option.isSome_some]⟩
    obtain ⟨other, found⟩ := Option.isSome_iff_exists.mp found
    obtain ⟨form', _, kept'⟩ := List.exists_of_findSome?_eq_some found
    rw [Option.filter_eq_some_iff] at kept'
    -- What is found is found by a form that reads the literal, and there is only one.
    obtain rfl := Form.read?_unique kept'.1 read
    rw [found, ← kept'.1, read]

theorem parse?_eq_parseIn? (text : List Char) :
    parse? text = parseIn? [.legacy, .zoned, .dateOnly, .zoneless] text := by
  by_cases slash : text.head? = some '/'
  · simp only [parse?, forms, if_pos slash, parseIn?]
    rfl
  · have unread : legacy? text = none := by
      rw [Option.eq_none_iff_forall_ne_some]
      intro instant read
      obtain ⟨inner, rfl⟩ := legacy?_enclosed read
      exact slash rfl
    simp only [parse?, forms, if_neg slash, parseIn?, List.findSome?_cons, List.findSome?_nil,
      Form.read?, unread, Option.filter_none]

theorem parse?_eq_some {text : List Char} {instant : Instant} :
    parse? text = some instant ↔
      (∃ form : Form, form.read? text = some instant) ∧ instant ≠ Instant.blank := by
  rw [parse?_eq_parseIn?]
  exact parseIn?_eq_some fun form => by cases form <;> simp

theorem parse_eq_ok {literal : String} {instant : Instant} :
    parse literal = .ok instant ↔ parse? literal.toList = some instant := by
  unfold parse
  cases parse? literal.toList <;> simp

theorem parse_eq_error {literal : String} (unread : parse? literal.toList = none) :
    parse literal = .error { literal } := by
  rw [parse, unread]

theorem parseIn_eq_parse {order : List Form} (complete : ∀ form, form ∈ order) (literal : String) :
    parseIn order literal = parse literal := by
  have same : parseIn? order literal.toList = parse? literal.toList := by
    apply Option.ext
    intro instant
    rw [parseIn?_eq_some complete, parse?_eq_some]
  rw [parseIn, parse, same]
  cases parse? literal.toList <;> rfl

/-- At most one form reads a literal. So every order of the forms gives the same result, a blank
instant of one form is not replaced by what another one finds, and a literal is read as an instant
exactly if one form alone reads it so and it is not the blank one. -/
theorem parse_anyOrder (literal : String) {order : List Form} (complete : ∀ form, form ∈ order) :
    (∀ (form other : Form) (first second : Instant), form.read? literal.toList = some first →
      other.read? literal.toList = some second → form = other) ∧
    parseIn order literal = parse literal ∧
    (∀ form : Form, form.read? literal.toList = some Instant.blank →
      parse literal = .error { literal }) ∧
    ∀ instant, parse literal = .ok instant ↔
      (∃! form : Form, form.read? literal.toList = some instant) ∧ instant ≠ Instant.blank := by
  refine ⟨fun _ _ _ _ => Form.read?_unique, parseIn_eq_parse complete literal, ?_, ?_⟩
  · intro form blank
    refine parse_eq_error (Option.eq_none_iff_forall_ne_some.mpr fun instant read => ?_)
    obtain ⟨⟨other, read⟩, present⟩ := parse?_eq_some.mp read
    obtain rfl := Form.read?_unique blank read
    exact present (Option.some.inj (read.symm.trans blank))
  · intro instant
    rw [parse_eq_ok, parse?_eq_some]
    constructor
    · rintro ⟨⟨form, read⟩, present⟩
      exact ⟨⟨form, read, fun other read' => Form.read?_unique read' read⟩, present⟩
    · rintro ⟨⟨form, read, _⟩, present⟩
      exact ⟨⟨form, read⟩, present⟩

/-- A leap second with a blank before its day, in the reverse order. -/
theorem parse_anyOrder_reversed :
    (∀ form, form ∈ [Form.zoneless, .dateOnly, .zoned, .legacy]) ∧
      zoneless? "2016-12- 31T23:59:60.5".toList = some ⟨1483228799, 1500000000⟩ ∧
      parseIn [.zoneless, .dateOnly, .zoned, .legacy] "2016-12- 31T23:59:60.5" =
        .ok ⟨1483228799, 1500000000⟩ ∧
      parse "2016-12- 31T23:59:60.5" = .ok ⟨1483228799, 1500000000⟩ := by
  have complete : ∀ form, form ∈ [Form.zoneless, .dateOnly, .zoned, .legacy] := by
    intro form
    cases form <;> decide
  have read : Form.zoneless.read? "2016-12- 31T23:59:60.5".toList =
      some ⟨1483228799, 1500000000⟩ := by decide +kernel
  obtain ⟨unique, same, _, accepted⟩ := parse_anyOrder "2016-12- 31T23:59:60.5" complete
  have parsed : parse "2016-12- 31T23:59:60.5" = .ok ⟨1483228799, 1500000000⟩ :=
    (accepted _).mpr ⟨⟨_, read, fun other read' => unique _ _ _ _ read' read⟩, by decide⟩
  exact ⟨complete, read, same.trans parsed, parsed⟩

end ODataTable.TimeLiteral
