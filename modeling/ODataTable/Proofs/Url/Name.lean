import Mathlib.Data.List.Basic
import ODataTable.Proofs.Text.Normal
import ODataTable.Proofs.Text.Split
import ODataTable.Url.Name

/-! Names of hosts that end in a blank or a control.

Whatever is done to a name on its way to ASCII, such a character is its own image, belongs to no
encoding, and so stands in the result.
-/

set_option autoImplicit false

namespace ODataTable

theorem ne_of_blank {c d : Char} (blank : c.toNat ≤ 0x20) (visible : 0x20 < d.toNat) : c ≠ d := by
  rintro rfl
  omega

theorem not_le_of_blank {c d : Char} (blank : c.toNat ≤ 0x20) (visible : 0x20 < d.toNat) :
    ¬ d ≤ c := by
  intro least
  have value : d.toNat ≤ c.toNat := least
  omega

theorem isDigit_of_blank {c : Char} (blank : c.toNat ≤ 0x20) : c.isDigit = false := by
  rw [Bool.eq_false_iff]
  intro digit
  simp only [Char.isDigit, Bool.and_eq_true, decide_eq_true_eq] at digit
  exact not_le_of_blank blank (by decide : 0x20 < '0'.toNat) digit.1

theorem toLower_of_blank {c : Char} (blank : c.toNat ≤ 0x20) : c.toLower = c :=
  dif_neg fun upper => not_le_of_blank blank (by decide : 0x20 < 'A'.toNat) upper.1

namespace Punycode

theorem encodeCode_extends {start : List Char} (label : List Nat) (code : Nat) {state : Encoding}
    (begun : start <+: state.text) : start <+: (encodeCode label code state).text := by
  unfold encodeCode
  induction label generalizing state with
  | nil => exact begun
  | cons c rest ih =>
    rw [List.foldl_cons]
    refine ih ?_
    split
    · exact begun
    · split
      · exact begun.trans (List.prefix_append _ _)
      · exact begun

theorem encodeFrom_extends {start : List Char} (label : List Nat) (limit least : Nat)
    {state : Encoding} (begun : start <+: state.text) :
    start <+: (encodeFrom label limit least state).text := by
  induction limit generalizing least state with
  | zero => exact begun
  | succ limit ih =>
    rw [encodeFrom]
    split
    · exact begun
    next code _ =>
      refine ih _ ?_
      exact encodeCode_extends label code begun

theorem mem_encode_of_plain {label : List Char} {c : Char} (member : c ∈ label)
    (plain : c.toNat < 0x80) : c ∈ encode label := by
  have kept : c ∈ label.filter (·.toNat < 0x80) :=
    List.mem_filter.mpr ⟨member, decide_eq_true plain⟩
  refine (encodeFrom_extends _ _ _ List.prefix_rfl).subset ?_
  dsimp only
  split
  next none =>
    rw [List.isEmpty_iff.mp none] at kept
    cases kept
  next => exact List.mem_append_left _ kept

theorem digitValue?_of_blank {c : Char} (blank : c.toNat ≤ 0x20) : digitValue? c = none := by
  have below := fun d => not_le_of_blank (d := d) blank
  simp [digitValue?, below 'a' (by decide), below 'A' (by decide), isDigit_of_blank blank]

variable {last : Char} (blank : last.toNat ≤ 0x20)
include blank

/-- A number ends before a character that is no digit. -/
theorem readNumber_keeps_last {bias position weight value result : Nat} {text rest : List Char}
    (read : readNumber bias position weight value (text ++ [last]) = some (result, rest)) :
    ∃ kept, rest = kept ++ [last] := by
  induction text generalizing position weight value with
  | nil =>
    rw [List.nil_append, readNumber, digitValue?_of_blank blank] at read
    cases read
  | cons c text ih =>
    rw [List.cons_append, readNumber] at read
    cases digit : digitValue? c with
    | none =>
      rw [digit] at read
      cases read
    | some digit' =>
      rw [digit] at read
      simp only [Option.bind_eq_bind, Option.bind_some] at read
      split at read
      · cases read
        exact ⟨text, rfl⟩
      · exact ih read

theorem decodeFrom_of_blank (limit bias code index : Nat) (label text : List Char) :
    decodeFrom limit bias code index label (text ++ [last]) = none := by
  induction limit generalizing bias code index label text with
  | zero => cases text <;> rfl
  | succ limit ih =>
    cases text with
    | nil => simp [decodeFrom, readNumber, digitValue?_of_blank blank]
    | cons c text =>
      rw [List.cons_append, decodeFrom]
      cases read : readNumber bias 36 1 0 (c :: (text ++ [last])) with
      | none => rfl
      | some number =>
        obtain ⟨value, rest⟩ := number
        rw [← List.cons_append] at read
        obtain ⟨kept, rfl⟩ := readNumber_keeps_last blank read
        simp only [Option.bind_eq_bind, Option.bind_some]
        split
        · rfl
        · exact ih _ _ _ _ _

/-- Nothing is encoded by a text that ends in a blank. -/
theorem decode_of_blank (text : List Char) : decode (text ++ [last]) = none := by
  have other : last ≠ '-' := ne_of_blank blank (by decide)
  have before : ∀ taken, taken ≤ text.length → ∃ numbers, (text ++ [last]).drop taken =
      numbers ++ [last] := fun taken bound => ⟨_, List.drop_append_of_le_length bound⟩
  unfold decode
  dsimp only
  split
  next contained =>
    -- The last mark of the encoding stands before the blank.
    have marked : '-' ∈ text.reverse := by
      rw [List.contains_iff_mem] at contained
      simpa [other.symm] using contained
    have reached : text.reverse.dropWhile (· ≠ '-') ≠ [] := by
      intro none
      rw [List.dropWhile_eq_nil_iff] at none
      exact absurd (none '-' marked) (by decide)
    have shorter := (List.dropWhile_suffix (· ≠ '-') (l := text.reverse)).length_le
    have some := List.length_pos_iff.mpr reached
    simp only [ne_eq, decide_not, List.length_reverse] at shorter some
    obtain ⟨numbers, same⟩ := before
      (((text ++ [last]).reverse.dropWhile (· ≠ '-')).drop 1).reverse.length.succ (by
        simp only [List.reverse_append, List.reverse_singleton, List.singleton_append, ne_eq,
          decide_not, other, decide_false, Bool.not_false, List.dropWhile_cons_of_pos,
          List.length_reverse, List.length_drop]
        omega)
    rw [same]
    exact decodeFrom_of_blank blank _ _ _ _ _ _
  next => exact decodeFrom_of_blank blank _ _ _ _ _ _

end Punycode

namespace HostName

variable {last : Char} (blank : last.toNat ≤ 0x20)
include blank

theorem labels_of_blank {name : List Char} {list : List (List Char)}
    (read : labels (name ++ [last]) = some list) :
    ∃ front label, list = front ++ [label ++ [last]] := by
  have image : NameImage.ofChar last = [last] := by
    rw [NameImage.ofChar, if_pos (by omega), toLower_of_blank blank]
  have free : ∀ c ∈ [last], decide (c = '.') = false := by
    intro c member
    rw [List.mem_singleton.mp member]
    exact decide_eq_false (ne_of_blank blank (by decide))
  unfold labels at read
  split at read
  · cases read
    obtain ⟨front, label, _, after⟩ := splitWhere_append
      (normalForm (name.flatMap NameImage.ofChar)) free
    refine ⟨front, label, ?_⟩
    rw [List.flatMap_append, List.flatMap_singleton, image,
      NormalForm.normalForm_append (by omega), after]
  · cases read

theorem readLabel_of_blank {label read : List Char}
    (own : readLabel (label ++ [last]) = some read) : last ∈ read := by
  unfold readLabel at own
  split at own
  next encoded same =>
    have other : last ≠ '-' := ne_of_blank blank (by decide)
    rcases List.eq_nil_or_concat' encoded with rfl | ⟨front, c, rfl⟩
    · have ends := congrArg List.getLast? same
      simp [other] at ends
    · have ends : last = c := by
        have both := congrArg List.getLast? same
        rw [← List.cons_append, ← List.cons_append, ← List.cons_append, ← List.cons_append,
          List.getLast?_concat, List.getLast?_concat] at both
        exact Option.some.inj both
      subst ends
      simp [decodeLabel, Punycode.decode_of_blank blank] at own
  next =>
    cases own
    exact List.mem_append_right _ List.mem_cons_self

theorem mem_writeLabel {label : List Char} (member : last ∈ label) : last ∈ writeLabel label := by
  unfold writeLabel
  split
  · exact member
  · exact List.mem_append_right _ (Punycode.mem_encode_of_plain member (by omega))

/-- A blank at the end of a name stands in its form in ASCII. -/
theorem toAscii_of_blank {name ascii : List Char} (read : toAscii (name ++ [last]) = some ascii) :
    last ∈ ascii := by
  simp only [toAscii, Option.bind_eq_bind, Option.bind_eq_some_iff] at read
  obtain ⟨list, split, meant, each, read⟩ := read
  obtain ⟨front, label, rfl⟩ := labels_of_blank blank split
  rw [List.mapM_append] at each
  simp only [List.mapM_cons, List.mapM_nil, Option.bind_eq_bind, Option.bind_eq_some_iff,
    Option.pure_def, Option.some.injEq] at each
  obtain ⟨before, _, after, ⟨read, own, rest, rfl, rfl⟩, rfl⟩ := each
  have inside := mem_writeLabel blank (readLabel_of_blank blank own)
  split at read
  · cases read
    refine mem_intercalate_of_mem (List.mem_map_of_mem ?_) inside
    exact List.mem_append_right _ List.mem_cons_self
  · cases read

end HostName

end ODataTable
