import ODataTable.Proofs.Json.Local

/-! What is taken of a text by skipping a value.

A value is skipped by its first octet. Lists and objects skip the values inside with the rest of
the bound, and a comma or a closing bracket stands behind each of them.
-/

set_option autoImplicit false

namespace ODataTable.Json

theorem readColon_local {input rest : List UInt8} (read : readColon input = .ok rest) :
    ∃ taken, input = taken ++ rest ∧ ∀ more, readColon (taken ++ more) = .ok more := by
  unfold readColon at read
  split at read
  · cases read
  next b after left =>
    split at read
    next colon =>
      cases read
      obtain ⟨blanks, rfl, _, skips⟩ := skipBlanks_eq_cons left
      refine ⟨blanks ++ [b], by simp, fun more => ?_⟩
      simp only [List.append_assoc, List.cons_append, List.nil_append, readColon, skips, if_pos colon]
    · cases read

theorem skipKey_local {input rest : List UInt8} (skipped : skipKey input = .ok rest) :
    ∃ taken, input = taken ++ rest ∧ ∀ more, skipKey (taken ++ more) = .ok more := by
  unfold skipKey at skipped
  split at skipped
  · cases skipped
  next b after left =>
    obtain ⟨blanks, rfl, _, skips⟩ := skipBlanks_eq_cons left
    split at skipped
    next quote =>
      simp only [bind_eq_ok] at skipped
      obtain ⟨input, text, colon⟩ := skipped
      obtain ⟨key, rfl, own⟩ := skipString_local text
      obtain ⟨taken, rfl, later⟩ := readColon_local colon
      refine ⟨blanks ++ b :: (key ++ taken), by simp, fun more => ?_⟩
      simp only [List.append_assoc, List.cons_append, skipKey, skips, if_pos quote, own, later, bind,
        Except.bind]
    · cases skipped

/-- What is skipped is a front of the text, and every bound as long is enough to skip it. -/
def SkipsFront (input rest : List UInt8) : Prop :=
  ∃ taken, taken ≠ [] ∧ input = taken ++ rest ∧ ∀ bound more : List UInt8,
    taken.length ≤ bound.length → Ends more → skipNested bound (taken ++ more) = .ok more

def skipFurther (close : UInt8) (ended wrong : Fault)
    (others : List UInt8 → Except Fault (List UInt8)) (input : List UInt8) :
    Except Fault (List UInt8) :=
  match skipBlanks input with
  | [] => .error ended
  | b :: rest =>
    if b = octet ',' then others rest
    else if b = close then .ok rest
    else .error wrong

theorem skipItems_cons (item : List UInt8 → Except Fault (List UInt8)) (x : UInt8)
    (bound input : List UInt8) :
    skipItems item (x :: bound) input =
      item input >>= skipFurther (octet ']') .endInList .expectedListEnd (skipItems item bound) :=
  rfl

theorem skipMembers_cons (item : List UInt8 → Except Fault (List UInt8)) (x : UInt8)
    (bound input : List UInt8) :
    skipMembers item (x :: bound) input =
      skipKey input >>= fun input =>
        item input >>= skipFurther (octet '\x7d') .endInObject .expectedObjectEnd (skipMembers item bound) :=
  rfl

theorem skipFurther_local {close : UInt8} {ended wrong : Fault}
    {others : List UInt8 → Except Fault (List UInt8)} {input rest : List UInt8}
    (plain : continuesNumber close = false)
    (skipped : skipFurther close ended wrong others input = .ok rest) :
    ∃ before after, input = before ++ after ∧ (∀ more, Ends (before ++ more)) ∧
      ((others after = .ok rest ∧ ∀ others more,
          skipFurther close ended wrong others (before ++ more) = others more) ∨
        (after = rest ∧ ∀ others more,
          skipFurther close ended wrong others (before ++ more) = .ok more)) := by
  unfold skipFurther at skipped
  split at skipped
  · cases skipped
  next b after front =>
    obtain ⟨blanks, rfl, blank, start⟩ := skipBlanks_eq_cons front
    have apart : ∀ more, (blanks ++ [b]) ++ more = blanks ++ b :: more := by simp
    refine ⟨blanks ++ [b], after, (apart after).symm, ?_⟩
    simp only [apart, skipFurther, start]
    split at skipped
    next comma =>
      have comma' : continuesNumber b = false := by rw [comma]; decide
      exact ⟨ends_separator blank comma', .inl ⟨skipped, fun _ _ => if_pos comma⟩⟩
    next noComma =>
      split at skipped
      next same =>
        cases skipped
        refine ⟨ends_separator blank (same ▸ plain), .inr ⟨rfl, fun _ _ => ?_⟩⟩
        rw [if_neg noComma, if_pos same]
      · cases skipped

section
variable {nested : List UInt8}
  (own : ∀ input rest, skipNested nested input = .ok rest → SkipsFront input rest)
include own

theorem skipItems_local {bound input rest : List UInt8}
    (skipped : skipItems (skipNested nested) bound input = .ok rest) :
    ∃ taken, taken ≠ [] ∧ input = taken ++ rest ∧ ∀ nested bound more : List UInt8,
      taken.length ≤ nested.length → taken.length ≤ bound.length →
        skipItems (skipNested nested) bound (taken ++ more) = .ok more := by
  induction bound generalizing input with
  | nil => cases skipped
  | cons _ bound ih =>
    rw [skipItems_cons, bind_eq_ok] at skipped
    obtain ⟨_, item, skipped⟩ := skipped
    obtain ⟨first, filled, rfl, skips⟩ := own _ _ item
    have some := List.length_pos_iff.mpr filled
    obtain ⟨before, after, rfl, ends, further⟩ := skipFurther_local (by decide) skipped
    rcases further with ⟨others, again⟩ | ⟨rfl, again⟩
    · obtain ⟨taken, _, rfl, later⟩ := ih others
      refine ⟨first ++ (before ++ taken), by simp [filled], by simp,
        fun nested bound more deep fits => ?_⟩
      simp only [List.length_append] at deep fits
      obtain ⟨_, bound, rfl, enough⟩ :=
        exists_step (Nat.le_trans (by omega : taken.length + 1 ≤ _) fits)
      have own := skips nested (before ++ (taken ++ more)) (by omega) (ends _)
      simp only [List.append_assoc, skipItems_cons, own, bind, Except.bind, again,
        later nested bound more (by omega) enough]
    · refine ⟨first ++ before, by simp [filled], by simp, fun nested bound more deep fits => ?_⟩
      simp only [List.length_append] at deep fits
      obtain ⟨_, bound, rfl, _⟩ := exists_step (Nat.le_trans (by omega : 0 + 1 ≤ _) fits)
      have own := skips nested (before ++ more) (by omega) (ends _)
      simp only [List.append_assoc, skipItems_cons, own, bind, Except.bind, again]

theorem skipMembers_local {bound input rest : List UInt8}
    (skipped : skipMembers (skipNested nested) bound input = .ok rest) :
    ∃ taken, taken ≠ [] ∧ input = taken ++ rest ∧ ∀ nested bound more : List UInt8,
      taken.length ≤ nested.length → taken.length ≤ bound.length →
        skipMembers (skipNested nested) bound (taken ++ more) = .ok more := by
  induction bound generalizing input with
  | nil => cases skipped
  | cons _ bound ih =>
    simp only [skipMembers_cons, bind_eq_ok] at skipped
    obtain ⟨_, key, _, item, skipped⟩ := skipped
    obtain ⟨name, rfl, keySkips⟩ := skipKey_local key
    obtain ⟨first, filled, rfl, skips⟩ := own _ _ item
    have some := List.length_pos_iff.mpr filled
    obtain ⟨before, after, rfl, ends, further⟩ := skipFurther_local (by decide) skipped
    rcases further with ⟨others, again⟩ | ⟨rfl, again⟩
    · obtain ⟨taken, _, rfl, later⟩ := ih others
      refine ⟨name ++ (first ++ (before ++ taken)), by simp [filled], by simp,
        fun nested bound more deep fits => ?_⟩
      simp only [List.length_append] at deep fits
      obtain ⟨_, bound, rfl, enough⟩ :=
        exists_step (Nat.le_trans (by omega : taken.length + 1 ≤ _) fits)
      have own := skips nested (before ++ (taken ++ more)) (by omega) (ends _)
      simp only [List.append_assoc, skipMembers_cons, keySkips, own, bind, Except.bind, again,
        later nested bound more (by omega) enough]
    · refine ⟨name ++ (first ++ before), by simp [filled], by simp,
        fun nested bound more deep fits => ?_⟩
      simp only [List.length_append] at deep fits
      obtain ⟨_, bound, rfl, _⟩ := exists_step (Nat.le_trans (by omega : 0 + 1 ≤ _) fits)
      have own := skips nested (before ++ more) (by omega) (ends _)
      simp only [List.append_assoc, skipMembers_cons, keySkips, own, bind, Except.bind, again]

end

/-- How a value is skipped after the octet at its front. -/
inductive SkipsAt (nested : List UInt8) : UInt8 → List UInt8 → List UInt8 → Prop
  | null {after rest : List UInt8} (word : readLiteral ['u', 'l', 'l'] after = .ok ((), rest)) :
      SkipsAt nested (octet 'n') after rest
  | true {after rest : List UInt8} (word : readLiteral ['r', 'u', 'e'] after = .ok ((), rest)) :
      SkipsAt nested (octet 't') after rest
  | false {after rest : List UInt8}
      (word : readLiteral ['a', 'l', 's', 'e'] after = .ok ((), rest)) :
      SkipsAt nested (octet 'f') after rest
  | negative {after rest : List UInt8} (number : skipNumber after = .ok rest) :
      SkipsAt nested (octet '-') after rest
  | positive {b : UInt8} {after rest : List UInt8} (digit : isDigit b = Bool.true)
      (number : skipNumber (b :: after) = .ok rest) : SkipsAt nested b after rest
  | string {after rest : List UInt8} (text : skipString after = .ok rest) :
      SkipsAt nested (octet '"') after rest
  | emptyList {after rest : List UInt8} (close : skipBlanks after = octet ']' :: rest) :
      SkipsAt nested (octet '[') after rest
  | list {c : UInt8} {after inside rest : List UInt8} (first : skipBlanks after = c :: inside)
      (more : c ≠ octet ']')
      (items : skipItems (skipNested nested) after (c :: inside) = .ok rest) :
      SkipsAt nested (octet '[') after rest
  | emptyObject {after rest : List UInt8} (close : skipBlanks after = octet '\x7d' :: rest) :
      SkipsAt nested (octet '\x7b') after rest
  | object {c : UInt8} {after inside rest : List UInt8} (first : skipBlanks after = c :: inside)
      (more : c ≠ octet '\x7d')
      (members : skipMembers (skipNested nested) after (c :: inside) = .ok rest) :
      SkipsAt nested (octet '\x7b') after rest

variable {x b : UInt8} {nested input after rest : List UInt8}

theorem skipsAt_of_skipNested (skipped : skipNested (x :: nested) input = .ok rest)
    (front : skipBlanks input = b :: after) : SkipsAt nested b after rest := by
  rw [skipNested, front] at skipped
  simp only [Except.map] at skipped
  split at skipped
  next isNull =>
    subst b
    split at skipped <;> cases skipped
    exact .null ‹_›
  split at skipped
  next isTrue =>
    subst b
    split at skipped <;> cases skipped
    exact .true ‹_›
  split at skipped
  next isFalse =>
    subst b
    split at skipped <;> cases skipped
    exact .false ‹_›
  split at skipped
  next sign =>
    subst b
    exact .negative skipped
  split at skipped
  next digit => exact .positive digit skipped
  split at skipped
  next quote =>
    subst b
    exact .string skipped
  split at skipped
  next isList =>
    subst b
    split at skipped
    · cases skipped
    next c inside first =>
    split at skipped
    next bracket =>
      cases skipped
      exact .emptyList (bracket ▸ first)
    next more => exact .list first more skipped
  split at skipped
  next isObject =>
    subst b
    split at skipped
    · cases skipped
    next c inside first =>
    split at skipped
    next brace =>
      cases skipped
      exact .emptyObject (brace ▸ first)
    next more => exact .object first more skipped
  · cases skipped

theorem skipNested_of_skipsAt (front : skipBlanks input = b :: after)
    (skips : SkipsAt nested b after rest) : skipNested (x :: nested) input = .ok rest := by
  rw [skipNested, front]
  -- No two of the octets that a value may begin with are the same.
  cases skips with
  | null word => simp [word, Except.map]
  | true word => simp +decide [word, Except.map]
  | false word => simp +decide [word, Except.map]
  | negative number => simp +decide [number]
  | positive digit number =>
    have other : ∀ letter : UInt8, isDigit letter = false → b ≠ letter := by
      rintro _ plain rfl
      rw [plain] at digit
      cases digit
    simp [other (octet 'n') (by decide), other (octet 't') (by decide),
      other (octet 'f') (by decide), other (octet '-') (by decide), digit, number]
  | string text => simp +decide [text]
  | emptyList close => simp +decide [close]
  | list first more items => simp +decide [first, more, items]
  | emptyObject close => simp +decide [close]
  | object first more members => simp +decide [first, more, members]

/-- What is skipped is told by the first octet that is no blank. -/
theorem skipNested_eq_ok : skipNested (x :: nested) input = .ok rest ↔
    ∃ b after, skipBlanks input = b :: after ∧ SkipsAt nested b after rest := by
  constructor
  · intro skipped
    cases front : skipBlanks input with
    | nil =>
      rw [skipNested, front] at skipped
      cases skipped
    | cons b after => exact ⟨b, after, rfl, skipsAt_of_skipNested skipped front⟩
  · rintro ⟨b, after, front, skips⟩
    exact skipNested_of_skipsAt front skips

theorem skipsFront_of_octet {blanks taken : List UInt8}
    (start : ∀ more, skipBlanks (blanks ++ b :: more) = b :: more) (split : after = taken ++ rest)
    (skips : ∀ nested more : List UInt8, taken.length ≤ nested.length → Ends more →
      SkipsAt nested b (taken ++ more) more) :
    SkipsFront (blanks ++ b :: after) rest := by
  subst split
  refine ⟨blanks ++ b :: taken, by simp, by simp, fun bound more fits ends => ?_⟩
  simp only [List.length_append, List.length_cons] at fits
  cases bound with
  | nil => simp at fits
  | cons x nested =>
    rw [List.append_assoc, List.cons_append]
    have enough : taken.length ≤ nested.length := by simp at fits; omega
    exact skipNested_eq_ok.mpr ⟨b, taken ++ more, start _, skips nested more enough ends⟩

theorem skipNested_local {bound : List UInt8}
    (skipped : skipNested bound input = .ok rest) : SkipsFront input rest := by
  -- Values in a list or an object are skipped with the rest of the bound.
  induction bound generalizing input rest with
  | nil => cases skipped
  | cons _ nested ih =>
    have own : ∀ input rest, skipNested nested input = .ok rest → SkipsFront input rest :=
      fun _ _ => ih
    obtain ⟨b, after, front, skips⟩ := skipNested_eq_ok.mp skipped
    obtain ⟨blanks, rfl, _, start⟩ := skipBlanks_eq_cons front
    cases skips with
    | null word =>
      obtain ⟨taken, split, reads⟩ := readLiteral_local word
      exact skipsFront_of_octet start split fun _ more _ _ => .null (reads more)
    | true word =>
      obtain ⟨taken, split, reads⟩ := readLiteral_local word
      exact skipsFront_of_octet start split fun _ more _ _ => .true (reads more)
    | false word =>
      obtain ⟨taken, split, reads⟩ := readLiteral_local word
      exact skipsFront_of_octet start split fun _ more _ _ => .false (reads more)
    | negative number =>
      obtain ⟨c, taken, split, skips⟩ := skipNumber_local number
      rw [← List.cons_append] at split
      exact skipsFront_of_octet start split fun _ more _ ends => .negative (skips more ends)
    | positive digit number =>
      obtain ⟨c, taken, split, skips⟩ := skipNumber_local number
      simp only [List.cons.injEq] at split
      obtain ⟨rfl, split⟩ := split
      exact skipsFront_of_octet start split fun _ more _ ends => .positive digit (skips more ends)
    | string text =>
      obtain ⟨taken, split, skips⟩ := skipString_local text
      exact skipsFront_of_octet start split fun _ more _ _ => .string (skips more)
    | emptyList close =>
      obtain ⟨inner, split, _, inside⟩ := skipBlanks_eq_cons close
      rw [List.append_cons] at split
      exact skipsFront_of_octet start split fun _ more _ _ => .emptyList (by simpa using inside more)
    | emptyObject close =>
      obtain ⟨inner, split, _, inside⟩ := skipBlanks_eq_cons close
      rw [List.append_cons] at split
      exact skipsFront_of_octet start split fun _ more _ _ => .emptyObject (by simpa using inside more)
    | list first other items =>
      obtain ⟨inner, split, _, inside⟩ := skipBlanks_eq_cons first
      obtain ⟨taken, filled, left, skips⟩ := skipItems_local own items
      obtain ⟨_, taken, rfl⟩ := List.exists_cons_of_ne_nil filled
      simp only [List.cons_append, List.cons.injEq] at left
      obtain ⟨rfl, rfl⟩ := left
      rw [← List.cons_append, ← List.append_assoc] at split
      refine skipsFront_of_octet start split fun nested more fits _ => ?_
      rw [List.append_assoc, List.cons_append]
      exact .list (inside _) other (skips _ _ more (by simp at fits ⊢; omega) (by simp; omega))
    | object first other members =>
      obtain ⟨inner, split, _, inside⟩ := skipBlanks_eq_cons first
      obtain ⟨taken, filled, left, skips⟩ := skipMembers_local own members
      obtain ⟨_, taken, rfl⟩ := List.exists_cons_of_ne_nil filled
      simp only [List.cons_append, List.cons.injEq] at left
      obtain ⟨rfl, rfl⟩ := left
      rw [← List.cons_append, ← List.append_assoc] at split
      refine skipsFront_of_octet start split fun nested more fits _ => ?_
      rw [List.append_assoc, List.cons_append]
      exact .object (inside _) other (skips _ _ more (by simp at fits ⊢; omega) (by simp; omega))

end ODataTable.Json
