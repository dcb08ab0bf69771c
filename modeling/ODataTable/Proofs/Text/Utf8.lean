import ODataTable.Text.Utf8

/-! What reading makes of well-formed UTF-8.

The octets of one character are read back as this character and nothing of what follows them is
taken. So lossy reading undoes writing.
-/

set_option autoImplicit false

namespace ODataTable.Utf8

theorem toNat_toUInt8 (n : Nat) (bound : n < 256) : n.toUInt8.toNat = n := by
  simp [Nat.mod_eq_of_lt bound]

theorem toNat_ofNat {n : Nat} (valid : n.isValidChar) : (Char.ofNat n).toNat = n := by
  rw [Char.ofNat, dif_pos valid]
  rfl

/-- A character is no surrogate and lies below the end of Unicode. -/
theorem toNat_valid (c : Char) : c.toNat < 0xD800 ∨ (0xDFFF < c.toNat ∧ c.toNat < 0x110000) :=
  c.valid

theorem owed_eq (lead : UInt8) :
    owed lead =
      if lead.toNat < 0x80 then some 0
      else if lead.toNat < 0xC2 then none
      else if lead.toNat < 0xE0 then some 1
      else if lead.toNat < 0xF0 then some 2
      else if lead.toNat < 0xF5 then some 3
      else none := by
  simp [owed, UInt8.lt_iff_toNat_lt]

/-- What may stand second is narrower only behind the four leads at the borders of the code. -/
theorem followsLead_iff {lead second : UInt8} :
    followsLead lead second = true ↔
      (0x80 ≤ second.toNat ∧ second.toNat ≤ 0xBF) ∧
      (lead.toNat = 0xE0 → 0xA0 ≤ second.toNat) ∧ (lead.toNat = 0xED → second.toNat ≤ 0x9F) ∧
      (lead.toNat = 0xF0 → 0x90 ≤ second.toNat) ∧ (lead.toNat = 0xF4 → second.toNat ≤ 0x8F) := by
  simp only [followsLead, UInt8.le_iff_toNat_le, ← UInt8.toNat_inj, Bool.and_eq_true,
    decide_eq_true_eq, apply_ite UInt8.toNat, UInt8.reduceToNat]
  constructor
  · rintro ⟨least, greatest⟩
    refine ⟨⟨?_, ?_⟩, ?_, ?_, ?_, ?_⟩ <;> grind
  · rintro ⟨tail, shortest, surrogate, supplementary, greatest⟩
    constructor <;> grind

theorem continues_eq (octet : UInt8) :
    continues octet = decide (0x80 ≤ octet.toNat ∧ octet.toNat ≤ 0xBF) := by
  simp [continues, UInt8.le_iff_toNat_le]

theorem continues_of_toNat {octet : UInt8} {n : Nat} (tail : octet.toNat = 0x80 + n % 0x40) :
    continues octet = true := by
  rw [continues_eq, decide_eq_true_eq]
  omega

theorem readTail_succ {octet : UInt8} (follows : continues octet = true) (bits taken count : Nat)
    (rest : List UInt8) :
    readTail bits taken (count + 1) (octet :: rest) =
      readTail (bits * 0x40 + (octet.toNat - 0x80)) (taken + 1) count rest := by
  rw [readTail, if_pos follows]

theorem leadBits_one (lead : UInt8) : leadBits lead 1 = lead.toNat - 0xC0 := rfl

theorem leadBits_two (lead : UInt8) : leadBits lead 2 = lead.toNat - 0xE0 := rfl

theorem leadBits_three (lead : UInt8) : leadBits lead 3 = lead.toNat - 0xF0 := rfl

theorem readPiece_succ {lead second : UInt8} {count : Nat} (owes : owed lead = some (count + 1))
    (follows : followsLead lead second = true) (rest : List UInt8) :
    readPiece lead (second :: rest) =
      readTail (leadBits lead (count + 1) * 0x40 + (second.toNat - 0x80)) 2 count rest := by
  unfold readPiece
  rw [owes]
  exact if_pos follows

section
variable {n : Nat} {lead a b c : UInt8} (rest : List UInt8)

theorem readPiece_one (least : n < 0x80) (first : lead.toNat = n) :
    readPiece lead rest = (.char (Char.ofNat n), rest) := by
  have owes : owed lead = some 0 := by rw [owed_eq, if_pos (by omega)]
  unfold readPiece
  rw [owes]
  simp only [first]

theorem readPiece_two (least : 0x80 ≤ n) (greatest : n < 0x800)
    (first : lead.toNat = 0xC0 + n / 0x40) (second : a.toNat = 0x80 + n % 0x40) :
    readPiece lead (a :: rest) = (.char (Char.ofNat n), rest) := by
  have owes : owed lead = some 1 := by
    rw [owed_eq, if_neg (by omega), if_neg (by omega), if_pos (by omega)]
  have follows : followsLead lead a = true := by
    rw [followsLead_iff]
    omega
  have value : (lead.toNat - 0xC0) * 0x40 + (a.toNat - 0x80) = n := by omega
  rw [readPiece_succ owes follows, leadBits_one, value, readTail]

theorem readPiece_three (least : 0x800 ≤ n) (greatest : n < 0x10000)
    (valid : n < 0xD800 ∨ 0xDFFF < n) (first : lead.toNat = 0xE0 + n / 0x1000)
    (second : a.toNat = 0x80 + n / 0x40 % 0x40) (third : b.toNat = 0x80 + n % 0x40) :
    readPiece lead (a :: b :: rest) = (.char (Char.ofNat n), rest) := by
  have owes : owed lead = some 2 := by
    rw [owed_eq, if_neg (by omega), if_neg (by omega), if_neg (by omega), if_pos (by omega)]
  have follows : followsLead lead a = true := by
    rw [followsLead_iff]
    omega
  have value :
      ((lead.toNat - 0xE0) * 0x40 + (a.toNat - 0x80)) * 0x40 + (b.toNat - 0x80) = n := by omega
  rw [readPiece_succ owes follows, leadBits_two, readTail_succ (continues_of_toNat third), value,
    readTail]

theorem readPiece_four (least : 0x10000 ≤ n) (greatest : n < 0x110000)
    (first : lead.toNat = 0xF0 + n / 0x40000) (second : a.toNat = 0x80 + n / 0x1000 % 0x40)
    (third : b.toNat = 0x80 + n / 0x40 % 0x40) (fourth : c.toNat = 0x80 + n % 0x40) :
    readPiece lead (a :: b :: c :: rest) = (.char (Char.ofNat n), rest) := by
  have owes : owed lead = some 3 := by
    rw [owed_eq, if_neg (by omega), if_neg (by omega), if_neg (by omega), if_neg (by omega),
      if_pos (by omega)]
  have follows : followsLead lead a = true := by
    rw [followsLead_iff]
    omega
  have value :
      (((lead.toNat - 0xF0) * 0x40 + (a.toNat - 0x80)) * 0x40 + (b.toNat - 0x80)) * 0x40 +
        (c.toNat - 0x80) = n := by omega
  rw [readPiece_succ owes follows, leadBits_three, readTail_succ (continues_of_toNat third),
    readTail_succ (continues_of_toNat fourth), value, readTail]

end

/-- The first octet of a character tells how many follow, and reading takes exactly those. -/
theorem readPiece_encodeChar (c : Char) (rest : List UInt8) :
    ∃ lead tail, encodeChar c = lead :: tail ∧ readPiece lead (tail ++ rest) = (.char c, rest) := by
  have valid := toNat_valid c
  have back : Char.ofNat c.toNat = c := Char.ofNat_toNat c
  unfold encodeChar
  generalize c.toNat = n at valid back
  subst back
  simp only
  split
  · next one =>
    exact ⟨_, _, rfl, readPiece_one rest one (toNat_toUInt8 _ (by omega))⟩
  split
  · next two =>
    exact ⟨_, _, rfl, readPiece_two rest (by omega) two (toNat_toUInt8 _ (by omega))
      (toNat_toUInt8 _ (by omega))⟩
  split
  · next three =>
    exact ⟨_, _, rfl, readPiece_three rest (by omega) three (by omega)
      (toNat_toUInt8 _ (by omega)) (toNat_toUInt8 _ (by omega)) (toNat_toUInt8 _ (by omega))⟩
  · exact ⟨_, _, rfl, readPiece_four rest (by omega) (by omega) (toNat_toUInt8 _ (by omega))
      (toNat_toUInt8 _ (by omega)) (toNat_toUInt8 _ (by omega)) (toNat_toUInt8 _ (by omega))⟩

theorem encodeChar_of_ascii {c : Char} (ascii : c.toNat < 0x80) :
    encodeChar c = [c.toNat.toUInt8] :=
  if_pos ascii

theorem le_of_mem_encodeChar {c : Char} (more : 0x80 ≤ c.toNat) :
    ∀ octet ∈ encodeChar c, 0x80 ≤ octet.toNat := by
  have valid := toNat_valid c
  intro octet member
  unfold encodeChar at member
  generalize c.toNat = n at member more valid
  simp only at member
  repeat' split at member
  all_goals
    simp (disch := omega) only [List.mem_cons, List.not_mem_nil, or_false, ← UInt8.toNat_inj,
      toNat_toUInt8] at member
    omega

theorem space_not_mem_encodeChar {c : Char} (other : c ≠ ' ') :
    ∀ octet ∈ encodeChar c, octet.toNat ≠ 0x20 := by
  intro octet member
  rcases Nat.lt_or_ge c.toNat 0x80 with ascii | more
  · rw [encodeChar_of_ascii ascii, List.mem_singleton] at member
    rw [member, toNat_toUInt8 _ (by omega)]
    exact fun same => other (Char.toNat_inj.mp same)
  · have least := le_of_mem_encodeChar more octet member
    omega

theorem encode_cons (c : Char) (text : List Char) : encode (c :: text) = encodeChar c ++ encode text :=
  List.flatMap_cons

theorem encode_append (first second : List Char) :
    encode (first ++ second) = encode first ++ encode second :=
  List.flatMap_append

theorem encodeChar_eq (c : Char) : encodeChar c = String.utf8EncodeChar c := by
  have valid := toNat_valid c
  have code : c.val.toNat = c.toNat := rfl
  unfold encodeChar String.utf8EncodeChar
  rw [code]
  generalize c.toNat = n at valid
  have tail : ∀ k, 0x80 + k % 0x40 = k % 64 + 128 := fun k => Nat.add_comm _ _
  simp only [tail]
  -- The leads differ in form only: below its bound a character fills no more than the digit.
  by_cases one : n < 0x80
  · rw [if_pos one, if_pos (by omega)]
  by_cases two : n < 0x800
  · have lead : 0xC0 + n / 0x40 = n / 64 % 32 + 192 := by omega
    rw [if_neg one, if_pos two, if_neg (by omega), if_pos (by omega), lead]
  by_cases three : n < 0x10000
  · have lead : 0xE0 + n / 0x1000 = n / 4096 % 16 + 224 := by omega
    rw [if_neg one, if_neg two, if_pos three, if_neg (by omega), if_neg (by omega),
      if_pos (by omega), lead]
  · have lead : 0xF0 + n / 0x40000 = n / 262144 % 8 + 240 := by omega
    rw [if_neg one, if_neg two, if_neg three, if_neg (by omega), if_neg (by omega),
      if_neg (by omega), lead]

theorem encode_toList (text : String) : encode text.toList = text.toUTF8.data.toList := by
  have same : encodeChar = String.utf8EncodeChar := funext encodeChar_eq
  rw [String.toUTF8, ← String.utf8Encode_toList, List.utf8Encode, List.toList_data_toByteArray,
    encode, same]

theorem length_le_length_encode (text : List Char) : text.length ≤ (encode text).length := by
  induction text with
  | nil => exact Nat.le_refl 0
  | cons c rest ih =>
    obtain ⟨lead, tail, code, _⟩ := readPiece_encodeChar c []
    simp only [encode_cons, code, List.length_cons, List.length_append]
    omega

theorem piecesUpTo_encode (text : List Char) (limit : Nat) (bound : text.length ≤ limit) :
    piecesUpTo limit (encode text) = text.map .char := by
  induction text generalizing limit with
  | nil => cases limit <;> rfl
  | cons c rest ih =>
    cases limit with
    | zero => simp at bound
    | succ limit =>
      obtain ⟨lead, tail, code, read⟩ := readPiece_encodeChar c (encode rest)
      rw [encode_cons, code, List.cons_append, piecesUpTo, read, List.map_cons]
      exact congrArg _ (ih limit (by simpa using bound))

theorem decodeLossy_encode (text : List Char) : decodeLossy (encode text) = text := by
  rw [decodeLossy, pieces, piecesUpTo_encode text _ (length_le_length_encode text), List.map_map]
  exact List.map_id text

theorem collect_chars (index : Nat) (text : List Char) : collect index (text.map .char) = .ok text := by
  induction text generalizing index with
  | nil => rfl
  | cons c rest ih => simp only [List.map_cons, collect, ih]

theorem decode_encode (text : List Char) : decode (encode text) = .ok text := by
  rw [decode, pieces, piecesUpTo_encode text _ (length_le_length_encode text), collect_chars]

theorem toUInt8_cons_lt_iff {a b : Nat} (first : a < 256) (second : b < 256) (rest others : List UInt8) :
    a.toUInt8 :: rest < b.toUInt8 :: others ↔ a < b ∨ a = b ∧ rest < others := by
  rw [List.cons_lt_cons_iff, UInt8.lt_iff_toNat_lt, ← UInt8.toNat_inj, toNat_toUInt8 a first,
    toNat_toUInt8 b second]

/-- Of two characters the lesser one has the lesser octet where their octets first differ. -/
theorem encodeChar_lt {c d : Char} (less : c < d) (rest others : List UInt8) :
    encodeChar c ++ rest < encodeChar d ++ others := by
  have validC := toNat_valid c
  have validD := toNat_valid d
  have less : c.toNat < d.toNat := less
  unfold encodeChar
  generalize c.toNat = n at validC less
  generalize d.toNat = k at validD less
  -- More octets come with a greater lead; among as many, the digits in base 0x40 decide.
  simp only
  repeat' split
  all_goals
    simp (disch := omega) only [List.cons_append, List.nil_append, toUInt8_cons_lt_iff]
    omega

theorem encode_lt {first second : List Char} (less : first < second) : encode first < encode second := by
  induction less with
  | nil =>
    rename_i c rest
    obtain ⟨lead, tail, code, _⟩ := readPiece_encodeChar c []
    rw [encode_cons, code]
    exact List.Lex.nil
  | rel less => exact encodeChar_lt less _ _
  | cons _ ih =>
    rw [encode_cons, encode_cons]
    exact List.append_left_lt ih

theorem encode_lt_iff {first second : List Char} :
    encode first < encode second ↔ first < second := by
  constructor
  · intro less
    rw [← List.not_le]
    intro above
    rcases List.le_iff_lt_or_eq.mp above with greater | same
    · exact List.lt_asymm less (encode_lt greater)
    · subst same
      exact List.lt_irrefl _ less
  · exact encode_lt

section LastOctet

variable {last : UInt8} (ascii : last.toNat < 0x80)
include ascii

theorem readTail_keeps_last {bits taken count : Nat} {rest after : List UInt8} {c : Char}
    (read : readTail bits taken count (rest ++ [last]) = (.char c, after)) :
    ∃ kept, after = kept ++ [last] ∧ kept.length ≤ rest.length := by
  induction count generalizing bits taken rest with
  | zero =>
    cases read
    exact ⟨rest, rfl, Nat.le_refl _⟩
  | succ count ih =>
    have alone : continues last = false := by
      rw [continues_eq, decide_eq_false_iff_not]
      omega
    cases rest with
    | nil =>
      simp only [List.nil_append, readTail, alone, Bool.false_eq_true, if_false] at read
      cases read
    | cons octet rest =>
      simp only [List.cons_append, readTail] at read
      split at read
      · obtain ⟨kept, same, shorter⟩ := ih read
        exact ⟨kept, same, Nat.le_succ_of_le shorter⟩
      · cases read

/-- No character before it takes the last octet. -/
theorem readPiece_keeps_last {lead : UInt8} {rest after : List UInt8} {c : Char}
    (read : readPiece lead (rest ++ [last]) = (.char c, after)) :
    ∃ kept, after = kept ++ [last] ∧ kept.length ≤ rest.length := by
  unfold readPiece at read
  split at read
  · cases read
  · cases read
    exact ⟨rest, rfl, Nat.le_refl _⟩
  · cases rest with
    | nil =>
      have refused : followsLead lead last = false :=
        Bool.eq_false_iff.mpr fun follows => absurd (followsLead_iff.mp follows).1.1 (by omega)
      simp only [List.nil_append, refused, Bool.false_eq_true, if_false] at read
      cases read
    | cons second rest =>
      simp only [List.cons_append] at read
      split at read
      · obtain ⟨kept, same, shorter⟩ := readTail_keeps_last ascii read
        exact ⟨kept, same, Nat.le_succ_of_le shorter⟩
      · cases read

theorem collect_keeps_last {limit index : Nat} {octets : List UInt8} {text : List Char}
    (bound : octets.length < limit)
    (read : collect index (piecesUpTo limit (octets ++ [last])) = .ok text) :
    ∃ front, text = front ++ [Char.ofNat last.toNat] := by
  induction limit generalizing index octets text with
  | zero => exact absurd bound (Nat.not_lt_zero _)
  | succ limit ih =>
    cases octets with
    | nil =>
      have alone : readPiece last [] = (.char (Char.ofNat last.toNat), []) :=
        readPiece_one [] ascii rfl
      have stop : piecesUpTo limit [] = [] := by cases limit <;> rfl
      simp only [List.nil_append, piecesUpTo, alone, stop, collect] at read
      cases read
      exact ⟨[], rfl⟩
    | cons lead rest =>
      simp only [List.cons_append, piecesUpTo] at read
      cases piece : readPiece lead (rest ++ [last]) with
      | mk first after =>
        rw [piece] at read
        cases first with
        | char c =>
          obtain ⟨kept, rfl, shorter⟩ := readPiece_keeps_last ascii piece
          simp only [collect] at read
          split at read
          next behind others =>
            cases read
            rw [List.length_cons] at bound
            obtain ⟨front, rfl⟩ := ih (by omega) others
            exact ⟨c :: front, rfl⟩
          next => cases read
        | illFormed length => cases read
        | cutOff => cases read

theorem decode_keeps_last {octets : List UInt8} {text : List Char}
    (read : decode (octets ++ [last]) = .ok text) :
    ∃ front, text = front ++ [Char.ofNat last.toNat] :=
  collect_keeps_last ascii (by rw [List.length_append]; exact Nat.lt_succ_self _) read

end LastOctet

end ODataTable.Utf8
