import ODataTable.Proofs.Edm.Coercion
import ODataTable.Proofs.Number.Whole

/-! Whole numbers in cells.

A whole number goes through a double on its way into a cell. What reaches a cell is held within the
bounds of its type. Numbers up to two to the power of 53 are doubles themselves, and all greater
ones lie beyond the bounds of the types of at most 32 bits, so only 64 bits can tell a number from
its double.
-/

set_option autoImplicit false

namespace ODataTable.Edm

inductive WholeType where
  | sbyte
  | byte
  | int16
  | int32
  | int64
  deriving DecidableEq, Repr

namespace WholeType

def typeName : WholeType → TypeName
  | .sbyte => .sbyte
  | .byte => .byte
  | .int16 => .int16
  | .int32 => .int32
  | .int64 => .int64

def cell : WholeType → Int → Cell
  | .sbyte => .int8
  | .byte => .uint8
  | .int16 => .int16
  | .int32 => .int32
  | .int64 => .int64

def bits : WholeType → Nat
  | .sbyte | .byte => 8
  | .int16 => 16
  | .int32 => 32
  | .int64 => 64

/-- The least number of a type. Only bytes have no sign. -/
def least : WholeType → Int
  | .byte => 0
  | type => -(Nat.pow 2 (type.bits - 1) : Nat)

def greatest : WholeType → Int
  | .byte => (Nat.pow 2 byte.bits : Nat) - 1
  | type => (Nat.pow 2 (type.bits - 1) : Nat) - 1

/-- The number that a cell holds for a whole number. -/
def held (type : WholeType) (n : Int) : Int :=
  max type.least (min type.greatest (Binary.nearestInt n))

theorem isNumeric_typeName (type : WholeType) : type.typeName.isNumeric = true := by
  cases type <;> rfl

theorem narrow_typeName (type : WholeType) (value : Double) :
    narrow value type.typeName = type.cell (value.truncate type.least type.greatest) := by
  cases type <;> rfl

theorem least_le_greatest (type : WholeType) : type.least ≤ type.greatest := by
  cases type <;> decide

/-- The bounds of a type of at most 32 bits are far from where doubles begin to skip numbers. -/
theorem bounds_narrow {type : WholeType} (narrow : type.bits ≤ 32) :
    -0x20000000000000 ≤ type.least ∧ type.greatest ≤ 0x20000000000000 := by
  cases type with
  | sbyte | byte | int16 | int32 => exact ⟨by decide, by decide⟩
  | int64 => exact absurd narrow (by decide)

theorem held_mono (type : WholeType) {first second : Int} (le : first ≤ second) :
    type.held first ≤ type.held second := by
  have mono := Binary.nearestInt_mono le
  unfold held
  omega

theorem held_short (type : WholeType) {n : Int} (short : n.natAbs ≤ 0x20000000000000) :
    type.held n = min type.greatest (max type.least n) := by
  have ordered := type.least_le_greatest
  rw [held, Binary.nearestInt_short short]
  omega

/-- A number that a double may miss is beyond the bounds, and so is the double. -/
theorem held_narrow {type : WholeType} (narrow : type.bits ≤ 32) (n : Int) :
    type.held n = min type.greatest (max type.least n) := by
  by_cases short : n.natAbs ≤ 0x20000000000000
  · exact held_short type short
  · have ordered := type.least_le_greatest
    have bounds := bounds_narrow narrow
    have top : Binary.nearestInt 0x20000000000000 = 0x20000000000000 :=
      Binary.nearestInt_short (by decide)
    have bottom : Binary.nearestInt (-0x20000000000000) = -0x20000000000000 :=
      Binary.nearestInt_short (by decide)
    rcases Int.le_total 0 n with natural | negative
    · have above := Binary.nearestInt_mono (show 0x20000000000000 ≤ n by omega)
      unfold held
      omega
    · have below := Binary.nearestInt_mono (show n ≤ -0x20000000000000 by omega)
      unfold held
      omega

theorem coerce_of_number {raw : Json.Value} {value : Double} (present : raw ≠ .null)
    (number : number? raw = some value) (type : WholeType) :
    coerce raw type.typeName =
      .ok (some (type.cell (value.truncate type.least type.greatest))) := by
  rw [coerce_of_numeric present type.isNumeric_typeName, number, ← type.narrow_typeName]

end WholeType

/-- A whole number of 64 bits and the string of its digits have the same cell. The cell holds the
number or the bound of the type that is nearest to it, in a type of 64 bits as long as the number is
not beyond two to the power of 53. In every type a greater number has no lesser cell. -/
theorem coerce_whole (type : WholeType) {n : Int} (least : -0x8000000000000000 ≤ n)
    (greatest : n < 0x10000000000000000) :
    coerce (.integer n) type.typeName = .ok (some (type.cell (type.held n))) ∧
    coerce (.string (String.ofList (Json.writeInteger n))) type.typeName =
      .ok (some (type.cell (type.held n))) ∧
    (type.bits ≤ 32 ∨ n.natAbs ≤ 0x20000000000000 →
      type.held n = min type.greatest (max type.least n)) ∧
    ∀ m, m ≤ n → type.held m ≤ type.held n := by
  have fits : n.natAbs ≤ 0x10000000000000000 := by omega
  have cut := Binary.truncate_ofInt fits type.least type.greatest
  have number : number? (.integer n) = some (.ofInt n) := rfl
  have digits : number? (.string (String.ofList (Json.writeInteger n))) = some (.ofInt n) := by
    rw [number?, String.toList_ofList, readBinary?_writeInteger fits]
  refine ⟨?_, ?_, ?_, fun m le => type.held_mono le⟩
  · rw [WholeType.coerce_of_number Json.Value.noConfusion number, cut, WholeType.held]
  · rw [WholeType.coerce_of_number Json.Value.noConfusion digits, cut, WholeType.held]
  · rintro (narrow | short)
    · exact WholeType.held_narrow narrow n
    · exact type.held_short short

/-- The first number that is no double: 64 bits hold the even neighbour, and 32 bits the bound. -/
theorem coerce_whole_uneven :
    coerce (.integer 9007199254740993) .int64 = .ok (some (.int64 9007199254740992)) ∧
      coerce (.string "9007199254740993") .int64 = .ok (some (.int64 9007199254740992)) ∧
      WholeType.int32.held 9007199254740993 = 2147483647 ∧
      WholeType.int32.held 9007199254740992 ≤ WholeType.int32.held 9007199254740993 := by
  have wide := coerce_whole .int64 (n := 9007199254740993) (by decide) (by decide)
  have narrow := coerce_whole .int32 (n := 9007199254740993) (by decide) (by decide)
  have even : WholeType.int64.held 9007199254740993 = 9007199254740992 := by decide +kernel
  rw [even] at wide
  exact ⟨wide.1, wide.2.1, narrow.2.2.1 (.inl (by decide)), narrow.2.2.2 _ (by decide)⟩

end ODataTable.Edm
