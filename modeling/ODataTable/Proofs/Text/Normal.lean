import ODataTable.Text.Normal

/-! The normal form of a text that ends in a character of its own.

Such a character is no mark, so it stays where it is and is never joined with what stands before
it.
-/

set_option autoImplicit false

namespace ODataTable.NormalForm

variable {last : Char} (plain : last.toNat < 0xC0)
include plain

theorem combiningClass_of_plain : combiningClass last = 0 :=
  if_pos (by omega)

theorem splitUpTo_of_plain (limit : Nat) : splitUpTo limit last = [last] := by
  cases limit with
  | zero => rfl
  | succ limit =>
    have whole : Composition.split? last = none := by
      simp [Composition.split?, Composition.leastWhole, plain]
    simp only [splitUpTo, whole]

theorem compose?_of_plain (letter : Char) : Composition.compose? letter last = none := by
  have marks : Composition.pairs.all (fun pair => 0xC0 ≤ pair.1) = true := by decide +kernel
  have unpaired : Composition.pairs.find? (·.1 = last.toNat) = none := by
    refine List.find?_eq_none.mpr fun pair member same => ?_
    have least := of_decide_eq_true (List.all_eq_true.mp marks pair member)
    have value := of_decide_eq_true same
    omega
  have noSyllable : Composition.composeSyllable? letter.toNat last.toNat = none := by
    simp only [Composition.composeSyllable?]
    rw [if_neg (by simp; omega), if_neg (by simp; omega)]
  simp only [Composition.compose?, unpaired, noSyllable, Option.map_none]

theorem place_append (c : Char) (text : List Char) :
    place c (text ++ [last]) = place c text ++ [last] := by
  induction text with
  | nil => simp [place, combiningClass_of_plain plain]
  | cons d rest ih =>
    simp only [List.cons_append, place, ih]
    split <;> rfl

theorem order_append (text : List Char) : order (text ++ [last]) = order text ++ [last] := by
  induction text with
  | nil => rfl
  | cons c rest ih =>
    simp only [order, List.cons_append, List.foldr_cons] at ih ⊢
    rw [ih, place_append plain]

theorem joinAfter_append (letter : Char) (marks text : List Char) :
    joinAfter letter marks (text ++ [last]) = joinAfter letter marks text ++ [last] := by
  induction text generalizing letter marks with
  | nil =>
    simp only [List.nil_append, joinAfter, compose?_of_plain plain, combiningClass_of_plain plain,
      ite_self, if_true, List.reverse_nil]
  | cons c rest ih =>
    simp only [List.cons_append, joinAfter]
    split
    · exact ih _ _
    · split
      · rw [ih]
        simp only [List.cons_append, List.append_assoc]
      · exact ih _ _

theorem join_append (text : List Char) : join (text ++ [last]) = join text ++ [last] := by
  induction text with
  | nil => simp [join, joinAfter, combiningClass_of_plain plain]
  | cons c rest ih =>
    simp only [List.cons_append, join]
    split
    · exact joinAfter_append plain _ _ _
    · rw [ih]
      rfl

/-- A last character that neither is a mark nor can be taken apart stays as it is. -/
theorem normalForm_append (text : List Char) :
    normalForm (text ++ [last]) = normalForm text ++ [last] := by
  have apart : split (text ++ [last]) = split text ++ [last] := by
    simp only [split, List.flatMap_append, List.flatMap_singleton, splitUpTo_of_plain plain]
  rw [normalForm, apart, order_append plain, join_append plain]
  rfl

end ODataTable.NormalForm
