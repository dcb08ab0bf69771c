import Mathlib.Data.List.Forall2
import ODataTable.Text.LowerCase

/-! Texts that differ in letter case.

Characters are lowered one by one, except for the capital sigma, whose form depends on its
neighbours. Neither of its forms is ASCII, so an ASCII text is the lower case of all spellings of
one word or of none.
-/

set_option autoImplicit false

namespace ODataTable

def SameLetter (c d : Char) : Prop :=
  lowerChar c = lowerChar d

instance (c d : Char) : Decidable (SameLetter c d) :=
  inferInstanceAs (Decidable (lowerChar c = lowerChar d))

def SameLetters (first second : String) : Prop :=
  List.Forall₂ SameLetter first.toList second.toList

instance (first second : String) : Decidable (SameLetters first second) :=
  inferInstanceAs (Decidable (List.Forall₂ SameLetter first.toList second.toList))

def capitalSigma : Char := '\u03a3'

theorem lowerAfter_of_not_mem {text : List Char} (plain : capitalSigma ∉ text)
    (before : List Char) : lowerAfter before text = text.flatMap lowerChar := by
  induction text generalizing before with
  | nil => rfl
  | cons c rest ih =>
    rw [List.mem_cons, not_or] at plain
    have other : c ≠ '\u03a3' := Ne.symm plain.1
    simp [lowerAfter, other, ih plain.2]

/-- A capital sigma leaves one of its two small forms behind, whatever stands around it. -/
theorem exists_small_sigma {text : List Char} (member : capitalSigma ∈ text)
    (before : List Char) : ∃ c ∈ lowerAfter before text, 0x80 ≤ c.toNat := by
  induction text generalizing before with
  | nil => cases member
  | cons c rest ih =>
    rcases List.mem_cons.mp member with here | later
    · have sigma : c = '\u03a3' := here.symm
      by_cases ends : reachesCased before && !reachesCased rest
      · exact ⟨'\u03c2', by simp [lowerAfter, sigma, ends], by decide⟩
      · exact ⟨'\u03c3', by simp [lowerAfter, sigma, ends], by decide⟩
    · obtain ⟨small, found, high⟩ := ih later (c :: before)
      exact ⟨small, List.mem_append_right _ found, high⟩

theorem lowerChar_sigma : lowerChar capitalSigma = ['\u03c3'] := by
  decide +kernel

/-- For an ASCII result it does not matter that a sigma is lowered by its place. -/
theorem lowerAfter_eq_iff {key : List Char} (ascii : ∀ c ∈ key, c.toNat < 0x80)
    (before text : List Char) : lowerAfter before text = key ↔ text.flatMap lowerChar = key := by
  by_cases member : capitalSigma ∈ text
  · constructor
    · rintro rfl
      obtain ⟨small, found, high⟩ := exists_small_sigma member before
      exact absurd (ascii small found) (by omega)
    · rintro rfl
      have found : '\u03c3' ∈ text.flatMap lowerChar :=
        List.mem_flatMap.mpr ⟨_, member, by simp [lowerChar_sigma]⟩
      exact absurd (ascii _ found) (by decide)
  · rw [lowerAfter_of_not_mem member]

theorem SameLetters.flatMap_lowerChar {first second : String} (same : SameLetters first second) :
    first.toList.flatMap lowerChar = second.toList.flatMap lowerChar := by
  unfold SameLetters at same
  generalize first.toList = text, second.toList = other at same ⊢
  induction same with
  | nil => rfl
  | cons letter _ ih => rw [List.flatMap_cons, List.flatMap_cons, letter, ih]

theorem SameLetters.lowerCase_eq_iff {first second key : String} (same : SameLetters first second)
    (ascii : (key.toList.all fun c => c.toNat < 0x80) = true) :
    lowerCase first = key ↔ lowerCase second = key := by
  have ascii : ∀ c ∈ key.toList, c.toNat < 0x80 := by simpa using ascii
  have lowered : ∀ text : String, lowerCase text = key ↔ text.toList.flatMap lowerChar = key.toList := by
    intro text
    rw [← lowerAfter_eq_iff ascii [] text.toList, lowerCase, String.ext_iff, String.toList_ofList]
  rw [lowered, lowered, same.flatMap_lowerChar]

end ODataTable
