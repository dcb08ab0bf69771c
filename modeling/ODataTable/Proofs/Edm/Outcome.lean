import ODataTable.Proofs.Calendar.Untimed
import ODataTable.Proofs.Edm.Coercion

/-! What becomes of a value in a column of a type.

A value is missing, refused or held. Which of them is told by the value and the type alone, and no
value is both missing and refused. Temporal types look at the text of a value, whatever value it is,
and so they depend on that no text but a string can be a time literal.
-/

set_option autoImplicit false

namespace ODataTable.Edm

/-- Numbers, and strings that write a floating-point number. -/
inductive StandsForNumber : Json.Value → Prop
  | integer (n : Int) : StandsForNumber (.integer n)
  | real (value : Double) : StandsForNumber (.real value)
  | string {text : String} : IsFloat text.toList → StandsForNumber (.string text)

inductive StandsForTime : Json.Value → Prop
  | string {text : String} {instant : Instant} :
      TimeLiteral.parse text = .ok instant → StandsForTime (.string text)

/-- There is no value, or none that a temporal type can read. -/
def IsMissing (raw : Json.Value) (typeName : TypeName) : Prop :=
  raw = .null ∨ typeName.isTemporal = true ∧ ¬ StandsForTime raw

/-- There is a value, but not of the kind that its type asks for. -/
def IsRefused (raw : Json.Value) (typeName : TypeName) : Prop :=
  raw ≠ .null ∧
    (typeName = .boolean ∧ (∀ value, raw ≠ .bool value) ∨
      typeName.isNumeric = true ∧ ¬ StandsForNumber raw)

theorem number?_isSome_iff {raw : Json.Value} : (number? raw).isSome ↔ StandsForNumber raw := by
  cases raw with
  | integer n => exact iff_of_true rfl (.integer n)
  | real value => exact iff_of_true rfl (.real value)
  | string text =>
    rw [number?, readBinary?_isSome_iff]
    exact ⟨.string, fun | .string float => float⟩
  | null | bool | array | object => exact iff_of_false Bool.false_ne_true nofun

/-- Of the texts of all values only strings are tried with success. -/
theorem parse?_stringify_isSome_iff {raw : Json.Value} (present : raw ≠ .null) :
    (TimeLiteral.parse? (stringify raw)).isSome ↔ StandsForTime raw := by
  by_cases quoted : ∃ text, raw = .string text
  · obtain ⟨text, rfl⟩ := quoted
    rw [Option.isSome_iff_exists]
    constructor
    · rintro ⟨instant, read⟩
      exact .string (TimeLiteral.parse_eq_ok.mpr read)
    · rintro ⟨parsed⟩
      exact ⟨_, TimeLiteral.parse_eq_ok.mp parsed⟩
  · have noText : ∀ text, raw ≠ .string text := not_exists.mp quoted
    rw [stringify_of_noText present noText, (Json.untimed_write noText).unread]
    refine iff_of_false Bool.false_ne_true ?_
    rintro ⟨_⟩
    exact noText _ rfl

/-! The classes of types exclude each other. -/

namespace TypeName

theorem isNumeric_of_temporal {typeName : TypeName} (temporal : typeName.isTemporal = true) :
    typeName.isNumeric = false := by
  cases typeName with
  | dateTimeOffset | dateTime | date => rfl
  | _ => cases temporal

theorem isTemporal_of_numeric {typeName : TypeName} (numeric : typeName.isNumeric = true) :
    typeName.isTemporal = false := by
  cases temporal : typeName.isTemporal with
  | false => rfl
  | true => exact absurd numeric (by simp [isNumeric_of_temporal temporal])

theorem ne_boolean_of_temporal {typeName : TypeName} (temporal : typeName.isTemporal = true) :
    typeName ≠ .boolean := by
  rintro rfl
  cases temporal

theorem ne_boolean_of_numeric {typeName : TypeName} (numeric : typeName.isNumeric = true) :
    typeName ≠ .boolean := by
  rintro rfl
  cases numeric

end TypeName

section
variable {raw : Json.Value} {typeName : TypeName}

theorem not_isMissing_of_class (present : raw ≠ .null) (notTemporal : typeName.isTemporal = false) :
    ¬ IsMissing raw typeName := by
  rintro (null | ⟨temporal, _⟩)
  · exact present null
  · rw [notTemporal] at temporal
    cases temporal

theorem not_isRefused_of_class (notBoolean : typeName ≠ .boolean)
    (notNumeric : typeName.isNumeric = false) : ¬ IsRefused raw typeName := by
  rintro ⟨_, ⟨boolean, _⟩ | ⟨numeric, _⟩⟩
  · exact notBoolean boolean
  · rw [notNumeric] at numeric
    cases numeric

theorem IsMissing.not_isRefused (missing : IsMissing raw typeName) : ¬ IsRefused raw typeName := by
  rcases missing with rfl | ⟨temporal, _⟩
  · exact fun refused => refused.1 rfl
  · exact not_isRefused_of_class (TypeName.ne_boolean_of_temporal temporal)
      (TypeName.isNumeric_of_temporal temporal)

end

/-- The three outcomes for a value and a type. -/
inductive Outcome (raw : Json.Value) (typeName : TypeName) : Except CoercionFault (Option Cell) → Prop
  | missing : IsMissing raw typeName → Outcome raw typeName (.ok none)
  | refused : IsRefused raw typeName → Outcome raw typeName (.error { value := raw, typeName })
  | held {cell : Cell} : ¬ IsMissing raw typeName → ¬ IsRefused raw typeName →
      Outcome raw typeName (.ok (some cell))

section
variable {raw : Json.Value} {typeName : TypeName} (present : raw ≠ .null)
include present

theorem outcome_boolean : Outcome raw .boolean (coerce raw .boolean) := by
  cases raw with
  | null => exact absurd rfl present
  | bool value =>
    refine .held (not_isMissing_of_class present rfl) ?_
    rintro ⟨_, ⟨_, other⟩ | ⟨numeric, _⟩⟩
    · exact other value rfl
    · cases numeric
  | integer | real | string | array | object =>
    exact .refused ⟨present, .inl ⟨rfl, nofun⟩⟩

theorem outcome_numeric (numeric : typeName.isNumeric = true) :
    Outcome raw typeName (coerce raw typeName) := by
  have stands := @number?_isSome_iff raw
  rw [coerce_of_numeric present numeric]
  cases found : number? raw with
  | none =>
    rw [found] at stands
    exact .refused ⟨present, .inr ⟨numeric, fun number => nomatch stands.mpr number⟩⟩
  | some value =>
    rw [found] at stands
    refine .held (not_isMissing_of_class present (TypeName.isTemporal_of_numeric numeric)) ?_
    rintro ⟨_, ⟨boolean, _⟩ | ⟨_, other⟩⟩
    · exact TypeName.ne_boolean_of_numeric numeric boolean
    · exact other (stands.mp rfl)

theorem outcome_temporal (temporal : typeName.isTemporal = true) :
    Outcome raw typeName (coerce raw typeName) := by
  have stands := parse?_stringify_isSome_iff present
  rw [coerce_of_temporal present temporal]
  cases read : TimeLiteral.parse? (stringify raw) with
  | none =>
    rw [read] at stands
    exact .missing (.inr ⟨temporal, fun time => nomatch stands.mpr time⟩)
  | some instant =>
    rw [read] at stands
    refine .held ?_ (not_isRefused_of_class (TypeName.ne_boolean_of_temporal temporal)
      (TypeName.isNumeric_of_temporal temporal))
    rintro (null | ⟨_, other⟩)
    · exact present null
    · exact other (stands.mp rfl)

theorem outcome_text (notBoolean : typeName ≠ .boolean) (notNumeric : typeName.isNumeric = false)
    (notTemporal : typeName.isTemporal = false) : Outcome raw typeName (coerce raw typeName) := by
  rw [coerce_of_text present notBoolean notNumeric notTemporal]
  exact .held (not_isMissing_of_class present notTemporal)
    (not_isRefused_of_class notBoolean notNumeric)

end

theorem coerce_outcome (raw : Json.Value) (typeName : TypeName) :
    Outcome raw typeName (coerce raw typeName) := by
  by_cases present : raw = .null
  · subst present
    exact .missing (.inl rfl)
  · by_cases boolean : typeName = .boolean
    · subst boolean
      exact outcome_boolean present
    · cases numeric : typeName.isNumeric with
      | true => exact outcome_numeric present numeric
      | false =>
        cases temporal : typeName.isTemporal with
        | true => exact outcome_temporal present temporal
        | false => exact outcome_text present boolean numeric temporal

section
variable {raw : Json.Value} {typeName : TypeName}

theorem coerce_error_iff {fault : CoercionFault} :
    coerce raw typeName = .error fault ↔
      IsRefused raw typeName ∧ fault = { value := raw, typeName } := by
  have outcome := coerce_outcome raw typeName
  generalize coerce raw typeName = result at outcome
  cases outcome with
  | missing missing => exact iff_of_false nofun fun refused => missing.not_isRefused refused.1
  | refused refused => rw [Except.error.injEq, and_iff_right refused, eq_comm]
  | held _ notRefused => exact iff_of_false nofun fun refused => notRefused refused.1

theorem coerce_none_iff : coerce raw typeName = .ok none ↔ IsMissing raw typeName := by
  have outcome := coerce_outcome raw typeName
  generalize coerce raw typeName = result at outcome
  cases outcome with
  | missing missing => exact iff_of_true rfl missing
  | refused refused => exact iff_of_false nofun fun missing => missing.not_isRefused refused
  | held notMissing _ => exact iff_of_false nofun notMissing

theorem coerce_some_iff : (∃ cell, coerce raw typeName = .ok (some cell)) ↔
    ¬ IsMissing raw typeName ∧ ¬ IsRefused raw typeName := by
  have outcome := coerce_outcome raw typeName
  generalize coerce raw typeName = result at outcome
  cases outcome with
  | missing missing => exact iff_of_false nofun fun held => held.1 missing
  | refused refused => exact iff_of_false nofun fun held => held.2 refused
  | held notMissing notRefused => exact iff_of_true ⟨_, rfl⟩ ⟨notMissing, notRefused⟩

end

namespace TypeName

theorem of_columnKind_string {typeName : TypeName} (text : typeName.columnKind = .string) :
    typeName ≠ .boolean ∧ typeName.isNumeric = false ∧ typeName.isTemporal = false := by
  cases typeName with
  | string | guid | time | other name => exact ⟨nofun, rfl, rfl⟩
  | _ => cases text

end TypeName

theorem coerce_columnKind_string {raw : Json.Value} {typeName : TypeName} (present : raw ≠ .null)
    (text : typeName.columnKind = .string) :
    ∃ shown, coerce raw typeName = .ok (some (.string shown)) ∧
      (raw = .string shown ∨
        (∀ other, raw ≠ .string other) ∧ shown = String.ofList raw.write) := by
  obtain ⟨notBoolean, notNumeric, notTemporal⟩ := TypeName.of_columnKind_string text
  refine ⟨_, coerce_of_text present notBoolean notNumeric notTemporal, ?_⟩
  by_cases quoted : ∃ text, raw = .string text
  · obtain ⟨text, rfl⟩ := quoted
    exact .inl (congrArg Json.Value.string String.ofList_toList.symm)
  · have noText : ∀ text, raw ≠ .string text := not_exists.mp quoted
    exact .inr ⟨noText, by rw [stringify_of_noText present noText]⟩

/-- A value is refused, missing or held, by its kind and the class of its type alone. What is held as
a text is the string itself or the compact text of the value. A fault has that text and the type,
and in a column only what is refused turns into nothing. -/
theorem coerce_classified (raw : Json.Value) (typeName : TypeName) :
    ((∃ fault, coerce raw typeName = .error fault) ↔ IsRefused raw typeName) ∧
    (coerce raw typeName = .ok none ↔ IsMissing raw typeName) ∧
    ((∃ cell, coerce raw typeName = .ok (some cell)) ↔
      ¬ IsMissing raw typeName ∧ ¬ IsRefused raw typeName) ∧
    (raw ≠ .null → typeName.columnKind = .string →
      ∃ shown, coerce raw typeName = .ok (some (.string shown)) ∧
        (raw = .string shown ∨
          (∀ other, raw ≠ .string other) ∧ shown = String.ofList raw.write)) ∧
    (∀ fault, coerce raw typeName = .error fault →
      fault.valueText = String.ofList raw.write ∧ fault.typeName = typeName ∧
        coerceOrNull raw typeName = none) ∧
    ∀ cell, coerce raw typeName = .ok cell → coerceOrNull raw typeName = cell := by
  refine ⟨?_, coerce_none_iff, coerce_some_iff, coerce_columnKind_string, ?_, ?_⟩
  · constructor
    · rintro ⟨fault, refused⟩
      exact (coerce_error_iff.mp refused).1
    · exact fun refused => ⟨_, coerce_error_iff.mpr ⟨refused, rfl⟩⟩
  · intro fault refused
    obtain ⟨_, rfl⟩ := coerce_error_iff.mp refused
    exact ⟨rfl, rfl, by rw [coerceOrNull, refused]⟩
  · intro cell coerced
    rw [coerceOrNull, coerced]

/-- A list as a number, as a time and as text. -/
theorem coerce_classified_list :
    (∃ fault, coerce (.array [.integer 5]) .byte = .error fault ∧ fault.valueText = "[5]" ∧
      coerceOrNull (.array [.integer 5]) .byte = none) ∧
    coerce (.array [.integer 5]) .date = .ok none ∧
    coerce (.array [.integer 5]) (.other "Edm.Binary") = .ok (some (.string "[5]")) := by
  have refused : IsRefused (.array [.integer 5]) .byte := ⟨nofun, .inr ⟨rfl, nofun⟩⟩
  have missing : IsMissing (.array [.integer 5]) .date := .inr ⟨rfl, nofun⟩
  have written : String.ofList (Json.Value.write (.array [.integer 5])) = "[5]" := by decide +kernel
  refine ⟨?_, (coerce_classified _ _).2.1.mpr missing, ?_⟩
  · obtain ⟨fault, failed⟩ := (coerce_classified _ _).1.mpr refused
    obtain ⟨text, _, nothing⟩ := (coerce_classified _ _).2.2.2.2.1 fault failed
    exact ⟨fault, failed, text.trans written, nothing⟩
  · obtain ⟨shown, coerced, same | ⟨_, rfl⟩⟩ :=
      (coerce_classified (.array [.integer 5]) (.other "Edm.Binary")).2.2.2.1 nofun rfl
    · cases same
    · rwa [written] at coerced

end ODataTable.Edm
