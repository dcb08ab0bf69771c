import ODataTable.Proofs.Calendar.Legacy
import ODataTable.Proofs.Calendar.Number

/-! Literals of floating-point numbers, as a grammar beside their reader.

A decimal literal has digits, a point with digits behind it, and an exponent. Each part may be
missing, but there is a digit before or behind the point. No part can begin with a character that
the part before it could take as well, so a literal is cut in one way.
-/

set_option autoImplicit false

namespace ODataTable

theorem isNumeral_decimalDigits (n : Nat) : IsNumeral (decimalDigits n) :=
  ⟨Nat.toDigits_ne_nil, fun _ => Nat.isDigit_of_mem_toDigits (by decide) (by decide)⟩

inductive WritesFraction : List Char → List Char → Prop
  | absent : WritesFraction [] []
  | point {digits : List Char} : IsDigits digits → WritesFraction ('.' :: digits) digits

inductive WritesExponent : List Char → Int → Prop
  | absent : WritesExponent [] 0
  | marked {mark : Char} {text : List Char} {n : Int} :
      mark = 'e' ∨ mark = 'E' → WritesInteger text n → WritesExponent (mark :: text) n

theorem WritesExponent.ends {text : List Char} {n : Int} (written : WritesExponent text n) :
    EndsDigits text := by
  cases written with
  | absent => exact fun _ member => by cases member
  | marked mark _ =>
    intro c first
    cases first
    rcases mark with rfl | rfl <;> rfl

theorem WritesFraction.ends {fraction digits exponent : List Char} {n : Int}
    (written : WritesFraction fraction digits) (behind : WritesExponent exponent n) :
    EndsDigits (fraction ++ exponent) := by
  cases written with
  | absent => exact behind.ends
  | point _ =>
    intro c first
    cases first
    rfl

namespace DecimalLiteral

/-- How a literal is written: its parts one behind the other, with one digit at least. -/
structure IsWritten (literal : DecimalLiteral) (text : List Char) : Prop where
  whole : IsDigits literal.whole
  filled : literal.whole ≠ [] ∨ literal.fraction ≠ []
  parts : ∃ fraction exponent, text = literal.whole ++ (fraction ++ exponent) ∧
    WritesFraction fraction literal.fraction ∧ WritesExponent exponent literal.exponent

def splitFraction : List Char → List Char × List Char
  | '.' :: rest => (rest.takeWhile Char.isDigit, rest.dropWhile Char.isDigit)
  | rest => ([], rest)

def readExponent? : List Char → Option Int
  | [] => some 0
  | c :: rest => if c = 'e' || c = 'E' then readInteger? rest else none

/-- Reading is cutting the text into its parts, of which the last one has to be an exponent. -/
theorem parse?_of_parts {text fraction rest : List Char}
    (parts : splitFraction (text.dropWhile Char.isDigit) = (fraction, rest)) :
    parse? text =
      if (text.takeWhile Char.isDigit).isEmpty && fraction.isEmpty then none
      else (readExponent? rest).map fun exponent =>
        { whole := text.takeWhile Char.isDigit, fraction, exponent } := by
  unfold parse?
  unfold splitFraction at parts
  simp only
  generalize text.dropWhile Char.isDigit = behind at parts ⊢
  split at parts
  all_goals
    cases parts
    simp only
    congr 1
    -- At the end of the text there is no exponent.
    split <;>
      simp only [*, readExponent?, apply_ite (Option.map _), Option.map_some, Option.map_none]

theorem splitFraction_joined {text digits rest : List Char}
    (parts : splitFraction text = (digits, rest)) :
    ∃ fraction, text = fraction ++ rest ∧ WritesFraction fraction digits := by
  unfold splitFraction at parts
  split at parts
  next behind =>
    cases parts
    refine ⟨'.' :: behind.takeWhile Char.isDigit, ?_, .point (isDigits_takeWhile behind)⟩
    rw [List.cons_append, List.takeWhile_append_dropWhile]
  · cases parts
    exact ⟨[], rfl, .absent⟩

theorem splitFraction_written {fraction digits exponent : List Char} {n : Int}
    (written : WritesFraction fraction digits) (behind : WritesExponent exponent n) :
    splitFraction (fraction ++ exponent) = (digits, exponent) := by
  cases written with
  | absent =>
    cases behind with
    | absent => rfl
    | marked mark _ => rcases mark with rfl | rfl <;> rfl
  | point numeral =>
    simp only [List.cons_append, splitFraction, takeWhile_digits numeral behind.ends,
      dropWhile_digits numeral behind.ends]

theorem readExponent?_eq_some {text : List Char} {n : Int} :
    readExponent? text = some n ↔ WritesExponent text n := by
  constructor
  · intro read
    unfold readExponent? at read
    split at read
    · cases read
      exact .absent
    · split at read
      next mark => exact .marked (by simpa using mark) (readInteger?_eq_some.mp read)
      · cases read
  · intro written
    cases written with
    | absent => rfl
    | marked mark number => simpa [readExponent?, mark] using readInteger?_eq_some.mpr number

theorem parse?_eq_some {text : List Char} {literal : DecimalLiteral} :
    parse? text = some literal ↔ literal.IsWritten text := by
  constructor
  · intro read
    rcases parts : splitFraction (text.dropWhile Char.isDigit) with ⟨digits, rest⟩
    obtain ⟨fraction, joined, point⟩ := splitFraction_joined parts
    rw [parse?_of_parts parts] at read
    split at read
    · cases read
    next filled =>
      obtain ⟨n, exponent, rfl⟩ := Option.map_eq_some_iff.mp read
      rw [Bool.and_eq_true, List.isEmpty_iff, List.isEmpty_iff, not_and_or] at filled
      refine ⟨isDigits_takeWhile text, filled, fraction, rest, ?_, point,
        readExponent?_eq_some.mp exponent⟩
      rw [← joined, List.takeWhile_append_dropWhile]
  · rintro ⟨whole, filled, fraction, exponent, rfl, point, scale⟩
    have ends := point.ends scale
    have parts := splitFraction_written point scale
    rw [← dropWhile_digits whole ends] at parts
    rw [parse?_of_parts parts, takeWhile_digits whole ends, readExponent?_eq_some.mpr scale]
    have some : ¬ (literal.whole.isEmpty && literal.fraction.isEmpty) = true := by
      rwa [Bool.and_eq_true, List.isEmpty_iff, List.isEmpty_iff, not_and_or]
    rw [if_neg some]
    rfl

theorem IsWritten.numeral {digits : List Char} (numeral : IsNumeral digits) :
    IsWritten { whole := digits, fraction := [], exponent := 0 } digits :=
  ⟨numeral.2, .inl numeral.1, [], [], by rw [List.append_nil, List.append_nil], .absent, .absent⟩

theorem IsWritten.begins {literal : DecimalLiteral} {text : List Char}
    (written : literal.IsWritten text) :
    ∃ c rest, text = c :: rest ∧ (c.isDigit = true ∨ c = '.') := by
  obtain ⟨whole, filled, fraction, exponent, rfl, point, _⟩ := written
  cases digits : literal.whole with
  | cons d rest =>
    rw [digits] at whole
    exact ⟨d, _, rfl, .inl (whole d List.mem_cons_self)⟩
  | nil =>
    rw [digits] at filled
    generalize literal.fraction = digits at point filled
    cases point with
    | absent => exact absurd rfl (filled.resolve_left (absurd rfl))
    | point _ => exact ⟨'.', _, rfl, .inr rfl⟩

theorem IsWritten.noSign {literal : DecimalLiteral} {text : List Char}
    (written : literal.IsWritten text) : ∀ c ∈ text.head?, TimeLiteral.isSign c = false := by
  obtain ⟨d, rest, rfl, digit | rfl⟩ := written.begins
  · intro c first
    cases first
    exact IsNumeral.noSign ⟨List.cons_ne_nil d [], by simpa using digit⟩ d List.mem_cons_self
  · intro c first
    cases first
    rfl

/-- Behind its first digits a literal goes on with a point or an exponent, or it ends. -/
theorem IsWritten.noHyphen {literal : DecimalLiteral} {text : List Char}
    (written : literal.IsWritten text) : (text.dropWhile Char.isDigit).head? ≠ some '-' := by
  obtain ⟨whole, _, fraction, exponent, rfl, point, scale⟩ := written
  rw [dropWhile_digits whole (point.ends scale)]
  generalize literal.fraction = digits at point
  generalize literal.exponent = n at scale
  cases point with
  | point _ => exact nofun
  | absent =>
    cases scale with
    | absent => exact nofun
    | marked mark _ => rcases mark with rfl | rfl <;> exact nofun

end DecimalLiteral

/-- The names of infinity and of no number, in any letter case. -/
def IsFloatName (text : List Char) : Prop :=
  String.ofList (text.map Char.toLower) ∈ ["inf", "infinity", "nan"]

/-- A decimal literal or a name. -/
inductive IsUnsignedFloat : List Char → Prop
  | decimal {literal : DecimalLiteral} {text : List Char} :
      literal.IsWritten text → IsUnsignedFloat text
  | name {text : List Char} : IsFloatName text → IsUnsignedFloat text

/-- What stands for a floating-point number: a decimal literal or a name, behind an optional
sign. -/
inductive IsFloat : List Char → Prop
  | unsigned {text : List Char} : IsUnsignedFloat text → IsFloat text
  | positive {text : List Char} : IsUnsignedFloat text → IsFloat ('+' :: text)
  | negative {text : List Char} : IsUnsignedFloat text → IsFloat ('-' :: text)

theorem IsFloatName.noSign {text : List Char} (name : IsFloatName text) :
    ∀ c ∈ text.head?, TimeLiteral.isSign c = false := by
  intro c first
  rw [Bool.eq_false_iff]
  intro sign
  cases text with
  | nil => cases first
  | cons d rest =>
    obtain rfl : d = c := Option.some.inj first
    -- A sign has no lower case, and no name begins with one.
    rw [IsFloatName, List.map_cons] at name
    rcases (TimeLiteral.isSign_iff d).mp sign with rfl | rfl
    all_goals
      simp only [List.mem_cons, List.not_mem_nil, or_false] at name
      rcases name with same | same | same <;> simpa using congrArg String.toList same

theorem IsUnsignedFloat.noSign {text : List Char} (unsigned : IsUnsignedFloat text) :
    ∀ c ∈ text.head?, TimeLiteral.isSign c = false := by
  cases unsigned with
  | decimal written => exact written.noSign
  | name name => exact name.noSign

section
variable {format : BinaryFormat}

theorem readBinary?_of_sign {text rest : List Char} {negative : Bool}
    (parts : splitSign text = (negative, rest)) :
    (readBinary? text : Option (Binary format)).isSome ↔ IsUnsignedFloat rest := by
  unfold readBinary?
  simp only [parts]
  split
  next literal parsed =>
    have written := DecimalLiteral.parse?_eq_some.mp parsed
    exact iff_of_true rfl (.decimal written)
  next unread =>
    have named : IsUnsignedFloat rest ↔ IsFloatName rest := by
      refine ⟨fun unsigned => ?_, .name⟩
      cases unsigned with
      | decimal written =>
        rw [DecimalLiteral.parse?_eq_some.mpr written] at unread
        cases unread
      | name name => exact name
    rw [named, IsFloatName]
    grind

theorem readBinary?_isSome_iff {text : List Char} :
    (readBinary? text : Option (Binary format)).isSome ↔ IsFloat text := by
  rcases parts : splitSign text with ⟨negative, rest⟩
  rw [readBinary?_of_sign parts]
  constructor
  · intro unsigned
    unfold splitSign at parts
    split at parts <;> cases parts
    · exact .negative unsigned
    · exact .positive unsigned
    · exact .unsigned unsigned
  · rintro (unsigned | unsigned | unsigned)
    · rw [splitSign_of_head unsigned.noSign] at parts
      cases parts
      exact unsigned
    · cases parts
      exact unsigned
    · cases parts
      exact unsigned

end

end ODataTable
