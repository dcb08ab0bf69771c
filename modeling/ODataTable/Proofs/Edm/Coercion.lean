import ODataTable.Edm.Coercion

/-! Cells have the kind of the column that their type is given.

The kind of a type, the tests for numbers and times, and the narrowing of numbers are separate
tables. What ties them together is stated for each of them, and then for whole values.
-/

set_option autoImplicit false

namespace ODataTable.Edm

namespace TypeName

theorem columnKind_of_temporal {typeName : TypeName} (temporal : typeName.isTemporal = true) :
    typeName.columnKind = .time := by
  cases typeName with
  | dateTimeOffset | dateTime | date => rfl
  | boolean | string | guid | time | other name => cases temporal
  | single | double | decimal | sbyte | byte | int16 | int32 | int64 => cases temporal

theorem columnKind_of_text {typeName : TypeName} (notBoolean : typeName ≠ .boolean)
    (notNumeric : typeName.isNumeric = false) (notTemporal : typeName.isTemporal = false) :
    typeName.columnKind = .string := by
  cases typeName with
  | boolean => exact absurd rfl notBoolean
  | string | guid | time | other name => rfl
  | dateTimeOffset | dateTime | date => cases notTemporal
  | single | double | decimal | sbyte | byte | int16 | int32 | int64 => cases notNumeric

end TypeName

theorem narrow_kind (value : Double) {typeName : TypeName} (numeric : typeName.isNumeric = true) :
    (narrow value typeName).kind = typeName.columnKind := by
  cases typeName with
  | single | double | decimal | sbyte | byte | int16 | int32 | int64 => rfl
  | boolean | string | guid | time | other name => cases numeric
  | dateTimeOffset | dateTime | date => cases numeric

/-! A value that is there is coerced by the class of its type. -/

theorem stringify_of_noText {raw : Json.Value} (present : raw ≠ .null)
    (noText : ∀ text, raw ≠ .string text) : stringify raw = raw.write := by
  cases raw with
  | null => exact absurd rfl present
  | string text => exact absurd rfl (noText text)
  | _ => rfl

section
variable {raw : Json.Value} (present : raw ≠ .null)
include present

theorem coerce_of_numeric {typeName : TypeName} (numeric : typeName.isNumeric = true) :
    coerce raw typeName =
      match number? raw with
      | some value => .ok (some (narrow value typeName))
      | none => .error { value := raw, typeName } := by
  unfold coerce
  split
  · exact absurd rfl present
  split
  · cases numeric
  · exact if_pos numeric

theorem coerce_of_temporal {typeName : TypeName} (temporal : typeName.isTemporal = true) :
    coerce raw typeName = .ok ((TimeLiteral.parse? (stringify raw)).map .time) := by
  cases raw with
  | null => exact absurd rfl present
  | _ =>
    cases typeName with
    | dateTimeOffset | dateTime | date => rfl
    | _ => cases temporal

theorem coerce_of_text {typeName : TypeName} (notBoolean : typeName ≠ .boolean)
    (notNumeric : typeName.isNumeric = false) (notTemporal : typeName.isTemporal = false) :
    coerce raw typeName = .ok (some (.string (String.ofList (stringify raw)))) := by
  unfold coerce
  split
  · exact absurd rfl present
  split
  · exact absurd rfl notBoolean
  · simp only [notNumeric, notTemporal, Bool.false_eq_true, if_false]

end

/-- Every cell of a type has the kind of the type, whatever value it is made from. -/
theorem coerce_kind {raw : Json.Value} {typeName : TypeName} {cell : Cell}
    (coerced : coerce raw typeName = .ok (some cell)) : cell.kind = typeName.columnKind := by
  unfold coerce at coerced
  split at coerced
  · cases coerced
  split at coerced
  · -- A truth value.
    split at coerced <;> cases coerced
    rfl
  next notBoolean =>
    split at coerced
    next numeric =>
      split at coerced <;> cases coerced
      exact narrow_kind _ numeric
    next notNumeric =>
      rw [Bool.not_eq_true] at notNumeric
      split at coerced
      next temporal =>
        -- A time that cannot be read has no cell.
        simp only [Except.ok.injEq, Option.map_eq_some_iff] at coerced
        obtain ⟨instant, _, rfl⟩ := coerced
        exact (TypeName.columnKind_of_temporal temporal).symm
      next notTemporal =>
        rw [Bool.not_eq_true] at notTemporal
        cases coerced
        exact (TypeName.columnKind_of_text notBoolean notNumeric notTemporal).symm

theorem coerceOrNull_kind {raw : Json.Value} {typeName : TypeName} {cell : Cell}
    (coerced : coerceOrNull raw typeName = some cell) : cell.kind = typeName.columnKind := by
  unfold coerceOrNull at coerced
  split at coerced
  next found =>
    rw [coerced] at found
    exact coerce_kind found
  · cases coerced

end ODataTable.Edm
