import ODataTable.Proofs.Text.Utf8
import ODataTable.Url.Percent

/-! Percent encoding is undone by decoding, and leaves nothing but its own marks.

An escape is a percent sign and two digits. No digit is a percent sign, so escapes never
overlap and a text can be taken apart at them from its front.
-/

set_option autoImplicit false

namespace ODataTable.Percent

theorem digit?_hexDigit (n : Nat) (bound : n < 16) : Radix.digit? (hexDigit n) = some n := by
  have table : ∀ n < 16, Radix.digit? (hexDigit n) = some n := by decide
  exact table n bound

theorem isAlphanum_hexDigit (n : Nat) (bound : n < 16) : (hexDigit n).isAlphanum = true := by
  have table : ∀ n < 16, (hexDigit n).isAlphanum = true := by decide
  exact table n bound

theorem hexDigit_ne_percent (n : Nat) (bound : n < 16) : hexDigit n ≠ '%' := by
  intro same
  have letter := isAlphanum_hexDigit n bound
  rw [same] at letter
  exact absurd letter (by decide)

theorem decode_cons {c : Char} (plain : c ≠ '%') (rest : List Char) :
    decode (c :: rest) = Utf8.encodeChar c ++ decode rest := by
  rw [decode]
  intro high low tail same
  exact absurd same plain

theorem decode_encodeOctet (octet : UInt8) (rest : List Char) :
    decode (encodeOctet octet ++ rest) = octet :: decode rest := by
  have size := octet.toNat_lt
  have high := digit?_hexDigit (octet.toNat / 16) (by omega)
  have low := digit?_hexDigit (octet.toNat % 16) (by omega)
  have value : octet.toNat / 16 * 16 + octet.toNat % 16 = octet.toNat := by omega
  simp [encodeOctet, decode, high, low, value]

theorem decode_encodeOctets (octets : List UInt8) (rest : List Char) :
    decode (octets.flatMap encodeOctet ++ rest) = octets ++ decode rest := by
  induction octets with
  | nil => rfl
  | cons octet octets ih =>
    rw [List.flatMap_cons, List.append_assoc, decode_encodeOctet, ih, List.cons_append]

/-- Decoding gives the octets of a text of which at least the percent signs were encoded. -/
theorem decode_encode {set : Char → Bool} (percent : set '%' = true) (text rest : List Char) :
    decode (encode set text ++ rest) = Utf8.encode text ++ decode rest := by
  induction text with
  | nil => rfl
  | cons c text ih =>
    rw [Utf8.encode_cons, List.append_assoc, ← ih, encode, List.flatMap_cons, List.append_assoc]
    by_cases member : set c = true
    · rw [if_pos member, encodeChar, decode_encodeOctets]
      rfl
    · have plain : c ≠ '%' := fun same => member (same ▸ percent)
      rw [if_neg member, List.singleton_append, decode_cons plain]
      rfl

theorem mem_encodeOctet {c : Char} {octet : UInt8} (member : c ∈ encodeOctet octet) :
    c = '%' ∨ c.isAlphanum = true := by
  have size := octet.toNat_lt
  simp only [encodeOctet, List.mem_cons, List.not_mem_nil, or_false] at member
  rcases member with same | same | same
  · exact .inl same
  · exact .inr (same ▸ isAlphanum_hexDigit _ (by omega))
  · exact .inr (same ▸ isAlphanum_hexDigit _ (by omega))

theorem mem_encodeChar {c d : Char} (member : c ∈ encodeChar d) : c = '%' ∨ c.isAlphanum = true := by
  rw [encodeChar, List.mem_flatMap] at member
  obtain ⟨octet, _, member⟩ := member
  exact mem_encodeOctet member

theorem mem_encode_cases {set : Char → Bool} {text : List Char} {c : Char}
    (member : c ∈ encode set text) : c = '%' ∨ c.isAlphanum = true ∨ (c ∈ text ∧ set c = false) := by
  simp only [encode, List.mem_flatMap] at member
  obtain ⟨d, inside, member⟩ := member
  by_cases encoded : set d = true
  · rw [if_pos encoded] at member
    exact (mem_encodeChar member).imp_right .inl
  · rw [if_neg encoded, List.mem_singleton] at member
    subst member
    exact .inr (.inr ⟨inside, Bool.eq_false_iff.mpr encoded⟩)

/-- What stands in an encoded text is a percent sign or was not to be encoded, if letters and
digits never are. -/
theorem mem_encode {set : Char → Bool} (letters : ∀ c : Char, c.isAlphanum = true → set c = false)
    {text : List Char} {c : Char} (member : c ∈ encode set text) : c = '%' ∨ set c = false := by
  rcases mem_encode_cases member with same | letter | ⟨_, kept⟩
  · exact .inl same
  · exact .inr (letters c letter)
  · exact .inr kept

theorem encode_of_none {set : Char → Bool} {text : List Char}
    (free : ∀ c ∈ text, set c = false) : encode set text = text := by
  induction text with
  | nil => rfl
  | cons c rest ih =>
    have here := free c List.mem_cons_self
    have after := ih fun d member => free d (List.mem_cons_of_mem _ member)
    rw [encode, List.flatMap_cons, if_neg (by simp [here]), List.singleton_append]
    exact congrArg _ after

theorem componentSet_of_isAlphanum {c : Char} (letter : c.isAlphanum = true) : componentSet c = false := by
  simp [componentSet, letter]

theorem toNat_of_isAlphanum {c : Char} (letter : c.isAlphanum = true) :
    0x30 ≤ c.toNat ∧ c.toNat ≤ 0x39 ∨ 0x41 ≤ c.toNat ∧ c.toNat ≤ 0x5A ∨
      0x61 ≤ c.toNat ∧ c.toNat ≤ 0x7A := by
  change (decide ('A'.val ≤ c.val ∧ c.val ≤ 'Z'.val) || ('a'.val ≤ c.val && c.val ≤ 'z'.val) ||
    ('0'.val ≤ c.val && c.val ≤ '9'.val)) = true at letter
  simp only [Bool.or_eq_true, Bool.and_eq_true, decide_eq_true_eq, UInt32.le_iff_toNat_le] at letter
  change ((0x41 ≤ c.toNat ∧ c.toNat ≤ 0x5A) ∨ (0x61 ≤ c.toNat ∧ c.toNat ≤ 0x7A)) ∨
    (0x30 ≤ c.toNat ∧ c.toNat ≤ 0x39) at letter
  omega

theorem lt_of_componentSet {c : Char} (kept : componentSet c = false) : c.toNat < 0x80 := by
  simp only [componentSet, Bool.not_eq_false', Bool.or_eq_true, decide_eq_true_eq] at kept
  rcases kept with (((letter | rfl) | rfl) | rfl) | rfl
  · have range := toNat_of_isAlphanum letter
    omega
  all_goals decide

theorem ne_of_isAlphanum {c d : Char} (letter : c.isAlphanum = true)
    (mark : d.isAlphanum = false) : c ≠ d := by
  rintro rfl
  rw [letter] at mark
  cases mark

theorem userInfoSet_of_isAlphanum {c : Char} (letter : c.isAlphanum = true) :
    userInfoSet c = false := by
  have range := toNat_of_isAlphanum letter
  have other : ∀ d : Char, d.isAlphanum = false → c ≠ d := fun _ => ne_of_isAlphanum letter
  have visible : controls c = false := by
    simp only [controls, Bool.or_eq_false_iff, decide_eq_false_iff_not]
    omega
  have accent : c.toNat ≠ 0x60 := by omega
  simp [userInfoSet, pathSet, fragmentSet, visible, accent, other ' ' (by decide),
    other '"' (by decide), other '<' (by decide), other '>' (by decide), other '#' (by decide),
    other '?' (by decide), other '\x7b' (by decide), other '\x7d' (by decide),
    other '/' (by decide), other ':' (by decide), other ';' (by decide), other '=' (by decide),
    other '@' (by decide), other '[' (by decide), other '\\' (by decide), other ']' (by decide),
    other '^' (by decide), other '|' (by decide)]

theorem pathSet_of_userInfoSet {c : Char} (kept : userInfoSet c = false) : pathSet c = false := by
  simp_all [userInfoSet]

theorem fragmentSet_of_pathSet {c : Char} (kept : pathSet c = false) : fragmentSet c = false := by
  simp_all [pathSet]

theorem querySet_of_pathSet {c : Char} (kept : pathSet c = false) : querySet c = false := by
  simp_all [pathSet, fragmentSet, querySet]

theorem pathSet_of_isAlphanum {c : Char} (letter : c.isAlphanum = true) : pathSet c = false :=
  pathSet_of_userInfoSet (userInfoSet_of_isAlphanum letter)

theorem specialQuerySet_of_isAlphanum {c : Char} (letter : c.isAlphanum = true) :
    specialQuerySet c = false := by
  have quote : c ≠ '\'' := ne_of_isAlphanum letter (by decide)
  simp [specialQuerySet, querySet_of_pathSet (pathSet_of_isAlphanum letter), quote]

theorem specialQuerySet_of_componentSet {c : Char} (kept : componentSet c = false) :
    specialQuerySet c = false := by
  simp only [componentSet, Bool.not_eq_false', Bool.or_eq_true, decide_eq_true_eq] at kept
  rcases kept with (((letter | rfl) | rfl) | rfl) | rfl
  · exact specialQuerySet_of_isAlphanum letter
  all_goals decide

theorem lt_toNat {c : Char} (printed : controls c = false) (other : c ≠ ' ') : 0x20 < c.toNat := by
  simp only [controls, Bool.or_eq_false_iff, decide_eq_false_iff_not] at printed
  have notBlank : c.toNat ≠ 0x20 := fun same => other (Char.toNat_inj.mp same)
  omega

theorem lt_toNat_of_fragmentSet {c : Char} (kept : fragmentSet c = false) : 0x20 < c.toNat := by
  simp only [fragmentSet, Bool.or_eq_false_iff, decide_eq_false_iff_not] at kept
  exact lt_toNat kept.1.1.1.1.1 kept.1.1.1.1.2

theorem lt_toNat_of_specialQuerySet {c : Char} (kept : specialQuerySet c = false) :
    0x20 < c.toNat := by
  simp only [specialQuerySet, querySet, Bool.or_eq_false_iff, decide_eq_false_iff_not] at kept
  exact lt_toNat kept.1.1.1.1.1.1 kept.1.1.1.1.1.2

end ODataTable.Percent
