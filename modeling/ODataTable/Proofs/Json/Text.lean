import ODataTable.Json.Lexeme
import ODataTable.Json.Writer
import ODataTable.Proofs.Effect
import ODataTable.Proofs.Text.Utf8

/-! Written strings are read back.

Reading a string takes what was written of one character after the other and collects the octets
of the characters. The closing quote is written as an escape inside, so it cannot come too early.
-/

set_option autoImplicit false

namespace ODataTable.Json

theorem encodeChar_ascii {c : Char} (ascii : c.toNat < 0x80) : Utf8.encodeChar c = [octet c] := by
  simp [Utf8.encodeChar, octet, ascii]

/-- Reading the octets of a string takes some of them and gives others, and goes on behind them. -/
def Quotes (written plain : List UInt8) : Prop :=
  ∀ (bound input result rest : List UInt8), (written ++ input).length ≤ bound.length →
    (∀ left : List UInt8, input.length ≤ left.length → readQuoted left input = .ok (result, rest)) →
      readQuoted bound (written ++ input) = .ok (plain ++ result, rest)

theorem Quotes.nil : Quotes [] [] :=
  fun bound _ _ _ fits after => after bound fits

theorem Quotes.append {written others plain more : List UInt8} (first : Quotes written plain)
    (second : Quotes others more) : Quotes (written ++ others) (plain ++ more) := by
  intro bound input result rest fits after
  rw [List.append_assoc] at fits ⊢
  rw [List.append_assoc]
  exact first bound (others ++ input) (more ++ result) rest fits fun left within =>
    second left input result rest within after

theorem Quotes.plain {b : UInt8} (noQuote : b ≠ octet '"') (noEscape : b ≠ octet '\\')
    (visible : ¬ b < 0x20) : Quotes [b] [b] := by
  intro bound input result rest fits after
  cases bound with
  | nil => simp at fits
  | cons _ bound =>
    have found := after bound (by simpa using fits)
    simp only [List.cons_append, List.nil_append, readQuoted, if_neg noQuote, if_neg noEscape,
      if_neg visible, found]
    rfl

theorem Quotes.all {octets : List UInt8}
    (plain : ∀ b ∈ octets, b ≠ octet '"' ∧ b ≠ octet '\\' ∧ ¬ b < 0x20) : Quotes octets octets := by
  induction octets with
  | nil => exact .nil
  | cons b rest ih =>
    obtain ⟨noQuote, noEscape, visible⟩ := plain b List.mem_cons_self
    have others := ih fun other member => plain other (List.mem_cons_of_mem _ member)
    exact (Quotes.plain noQuote noEscape visible).append others

theorem Quotes.escape {written plain : List UInt8}
    (escape : ∀ input, readEscape (written ++ input) = .ok (plain, input)) :
    Quotes (octet '\\' :: written) plain := by
  intro bound input result rest fits after
  cases bound with
  | nil => simp at fits
  | cons _ bound =>
    have within : input.length ≤ bound.length := by
      simp only [List.cons_append, List.length_cons, List.length_append] at fits
      omega
    have other : octet '\\' ≠ octet '"' := by decide
    simp only [List.cons_append, readQuoted, if_neg other, if_true, escape, bind, Except.bind,
      after bound within]

theorem hexValue?_hexDigit : ∀ n < 16, hexValue? (octet (hexDigit n)) = some n := by
  decide

theorem hexDigit_ascii : ∀ n < 16, (hexDigit n).toNat < 0x80 := by
  decide

theorem readEscape_control {n : Nat} (control : n < 0x20) (input : List UInt8) :
    readEscape (octet 'u' :: octet '0' :: octet '0' :: octet (hexDigit (n / 16)) ::
        octet (hexDigit (n % 16)) :: input) =
      .ok (Utf8.encodeChar (Char.ofNat n), input) := by
  have letter : plainEscape? (octet 'u') = none := by decide
  have zero : hexValue? (octet '0') = some 0 := by decide
  have high := hexValue?_hexDigit (n / 16) (by omega)
  have low := hexValue?_hexDigit (n % 16) (by omega)
  have value : 0 * 0x1000 + 0 * 0x100 + n / 16 * 0x10 + n % 16 = n := by omega
  have noTrailing : isTrailingSurrogate n = false := by simp [isTrailingSurrogate]; omega
  have noLeading : isLeadingSurrogate n = false := by simp [isLeadingSurrogate]; omega
  have digits : readCodePoint (octet '0' :: octet '0' :: octet (hexDigit (n / 16)) ::
      octet (hexDigit (n % 16)) :: input) = .ok (Char.ofNat n, input) := by
    simp only [readCodePoint, readHex, zero, high, low, value, bind, Except.bind, noTrailing,
      noLeading, Bool.false_eq_true, if_false]
  simp only [readEscape, letter, if_true, digits]
  rfl

theorem encode_ascii {text : List Char} (ascii : ∀ c ∈ text, c.toNat < 0x80) :
    Utf8.encode text = text.map octet := by
  induction text with
  | nil => rfl
  | cons c rest ih =>
    have others := ih fun other member => ascii other (List.mem_cons_of_mem _ member)
    rw [Utf8.encode_cons, encodeChar_ascii (ascii c List.mem_cons_self), others]
    rfl

def lettered : List (Char × Char) :=
  [('"', '"'), ('\\', '\\'), ('\n', 'n'), ('\r', 'r'), ('\t', 't'), ('\x08', 'b'), ('\x0c', 'f')]

theorem writeChar_lettered {c letter : Char} (member : (c, letter) ∈ lettered) :
    writeChar c = ['\\', letter] ∧ c.toNat < 0x80 ∧ letter.toNat < 0x80 ∧
      plainEscape? (octet letter) = some (octet c) := by
  have all : lettered.all fun pair => writeChar pair.1 = ['\\', pair.2] ∧ pair.1.toNat < 0x80 ∧
      pair.2.toNat < 0x80 ∧ plainEscape? (octet pair.2) = some (octet pair.1) := by
    decide
  exact of_decide_eq_true (List.all_eq_true.mp all _ member)

theorem writeChar_unlettered {c : Char} (none : c ∉ lettered.map Prod.fst) :
    writeChar c = if c.toNat < 0x20 then
        ['\\', 'u', '0', '0', hexDigit (c.toNat / 16), hexDigit (c.toNat % 16)]
      else [c] := by
  simp only [lettered, List.map_cons, List.map_nil, List.mem_cons, List.not_mem_nil, or_false,
    not_or] at none
  simp [writeChar, none]

/-- Octets of characters that are written as they are do not end a string and begin no escape. -/
theorem octets_plain {c : Char} (noQuote : c ≠ '"') (noEscape : c ≠ '\\') (visible : ¬ c.toNat < 0x20) :
    ∀ b ∈ Utf8.encodeChar c, b ≠ octet '"' ∧ b ≠ octet '\\' ∧ ¬ b < 0x20 := by
  have noQuote : c.toNat ≠ 0x22 := fun same => noQuote (Char.toNat_inj.mp same)
  have noEscape : c.toNat ≠ 0x5C := fun same => noEscape (Char.toNat_inj.mp same)
  have valid := Utf8.toNat_valid c
  have quote : (octet '"').toNat = 0x22 := rfl
  have backslash : (octet '\\').toNat = 0x5C := rfl
  intro b member
  rw [ne_eq, ne_eq, ← UInt8.toNat_inj, ← UInt8.toNat_inj, quote, backslash, UInt8.lt_iff_toNat_lt]
  unfold Utf8.encodeChar at member
  generalize c.toNat = n at member noQuote noEscape valid visible
  simp only at member
  repeat' split at member
  all_goals
    simp (disch := omega) only [List.mem_cons, List.not_mem_nil, or_false, ← UInt8.toNat_inj,
      Utf8.toNat_toUInt8] at member
    simp only [UInt8.reduceToNat]
    omega

theorem quotes_writeChar (c : Char) : Quotes (Utf8.encode (writeChar c)) (Utf8.encodeChar c) := by
  by_cases known : c ∈ lettered.map Prod.fst
  · obtain ⟨⟨_, letter⟩, member, rfl⟩ := List.mem_map.mp known
    obtain ⟨written, ascii, plain, escapes⟩ := writeChar_lettered member
    rw [written, encode_ascii (by simp [plain]), encodeChar_ascii ascii]
    exact Quotes.escape fun input => by simp [readEscape, escapes]
  rw [writeChar_unlettered known]
  split
  next control =>
    have high := hexDigit_ascii (c.toNat / 16) (by omega)
    have low := hexDigit_ascii (c.toNat % 16) (by omega)
    rw [encode_ascii (by simp [high, low])]
    refine Quotes.escape fun input => ?_
    have read := readEscape_control control input
    rwa [Char.ofNat_toNat] at read
  next visible =>
    have noQuote : c ≠ '"' := by
      rintro rfl
      exact known (by decide)
    have noEscape : c ≠ '\\' := by
      rintro rfl
      exact known (by decide)
    rw [Utf8.encode_cons, show Utf8.encode [] = [] from rfl, List.append_nil]
    exact Quotes.all (octets_plain noQuote noEscape visible)

theorem quotes_text (text : List Char) :
    Quotes (Utf8.encode (text.flatMap writeChar)) (Utf8.encode text) := by
  induction text with
  | nil => exact .nil
  | cons c rest ih =>
    rw [List.flatMap_cons, Utf8.encode_append, Utf8.encode_cons]
    exact (quotes_writeChar c).append ih

theorem readString_written (text : List Char) (rest : List UInt8) :
    readString (Utf8.encode (text.flatMap writeChar) ++ octet '"' :: rest) = .ok (text, rest) := by
  have closes : ∀ left : List UInt8, (octet '"' :: rest).length ≤ left.length →
      readQuoted left (octet '"' :: rest) = .ok ([], rest) := by
    intro left fits
    cases left with
    | nil => simp at fits
    | cons => simp only [readQuoted, if_true]
  have read := quotes_text text _ _ [] rest (Nat.le_refl _) closes
  rw [List.append_nil] at read
  simp only [readString, read, bind, Except.bind, Utf8.decode_encode]

end ODataTable.Json
