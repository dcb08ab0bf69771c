import ODataTable.Proofs.Text.Utf8

/-! What lossy reading makes of any octets.

`Shows` says it without the reader, by the octets that the text type has for a character: a text
shows a character where its octets stand, and one U+FFFD for as many octets as go on as those of
some character could. One text alone is shown by given octets, and it is the one that is read.
-/

set_option autoImplicit false

namespace ODataTable.Utf8

/-- No character stands at the front of `part ++ rest`. The part is the longest front that some
character begins with, or a single octet where none does. -/
structure IsBroken (part rest : List UInt8) : Prop where
  filled : part ≠ []
  noChar : ∀ c, ¬ String.utf8EncodeChar c <+: part ++ rest
  begun : (∃ c, part <+: String.utf8EncodeChar c) ∨ part.length = 1
  longest : ∀ c front, front <+: part ++ rest → front <+: String.utf8EncodeChar c →
    front.length ≤ part.length

inductive Shows : List UInt8 → List Char → Prop
  | nil : Shows [] []
  | char (c : Char) {rest : List UInt8} {text : List Char} :
      Shows rest text → Shows (String.utf8EncodeChar c ++ rest) (c :: text)
  | broken {part rest : List UInt8} {text : List Char} :
      IsBroken part rest → Shows rest text → Shows (part ++ rest) (Char.ofNat 0xFFFD :: text)

/-- Octets that may stand behind a leading octet, as far as they go. -/
def Trails (lead : UInt8) : List UInt8 → Prop
  | [] => True
  | second :: others => followsLead lead second = true ∧ ∀ octet ∈ others, continues octet = true

namespace Trails

variable {lead : UInt8} {tail : List UInt8}

theorem of_isPrefix {front : List UInt8} (trails : Trails lead tail) (begins : front <+: tail) :
    Trails lead front := by
  obtain ⟨behind, rfl⟩ := begins
  cases front with
  | nil => exact trivial
  | cons second others =>
    exact ⟨trails.1, fun octet member => trails.2 octet (List.mem_append_left _ member)⟩

theorem exists_followsLead (lead : UInt8) : ∃ second, followsLead lead second = true := by
  simp only [followsLead_iff]
  by_cases shortest : lead.toNat = 0xE0
  · exact ⟨0xA0, by simp [shortest]⟩
  by_cases supplementary : lead.toNat = 0xF0
  · exact ⟨0x90, by simp [supplementary]⟩
  · exact ⟨0x80, by simp [shortest, supplementary]⟩

theorem exists_append (trails : Trails lead tail) : ∃ octet, Trails lead (tail ++ [octet]) := by
  cases tail with
  | nil =>
    obtain ⟨second, follows⟩ := exists_followsLead lead
    exact ⟨second, follows, fun _ member => absurd member List.not_mem_nil⟩
  | cons second others =>
    refine ⟨0x80, trails.1, fun octet member => ?_⟩
    rcases List.mem_append.mp member with old | last
    · exact trails.2 octet old
    · rw [List.mem_singleton.mp last]
      rfl

theorem exists_filled (trails : Trails lead tail) (missing : Nat) :
    ∃ full, tail <+: full ∧ full.length = tail.length + missing ∧ Trails lead full := by
  induction missing generalizing tail with
  | zero => exact ⟨tail, List.prefix_refl tail, rfl, trails⟩
  | succ missing ih =>
    obtain ⟨octet, more⟩ := trails.exists_append
    obtain ⟨full, begins, length, all⟩ := ih more
    refine ⟨full, (List.prefix_append tail [octet]).trans begins, ?_, all⟩
    rw [length, List.length_append, List.length_singleton]
    omega

end Trails

theorem readTail_split (bits taken count : Nat) (rest : List UInt8) :
    ∃ others after, rest = others ++ after ∧ (∀ octet ∈ others, continues octet = true) ∧
      (others.length = count ∧ (readTail bits taken count rest).2 = after ∨
        others.length < count ∧ (∀ octet ∈ after.head?, continues octet = false) ∧
          ∃ piece, readTail bits taken count rest = (piece, after) ∧ ∀ c, piece ≠ .char c) := by
  induction count generalizing bits taken rest with
  | zero => exact ⟨[], rest, rfl, by simp, .inl ⟨rfl, rfl⟩⟩
  | succ count ih =>
    cases rest with
    | nil => exact ⟨[], [], rfl, by simp, .inr ⟨Nat.succ_pos _, by simp, _, rfl, by simp⟩⟩
    | cons octet rest =>
      by_cases follows : continues octet = true
      · rw [readTail_succ follows]
        obtain ⟨others, after, rfl, all, stop⟩ :=
          ih (bits * 0x40 + (octet.toNat - 0x80)) (taken + 1) rest
        refine ⟨octet :: others, after, rfl, by simpa [follows] using all, ?_⟩
        simpa only [List.length_cons, Nat.succ_lt_succ_iff, Nat.succ_inj] using stop
      · refine ⟨[], octet :: rest, rfl, by simp, .inr ⟨Nat.succ_pos _, ?_, ?_⟩⟩
        · simpa using follows
        · exact ⟨.illFormed taken, by rw [readTail, if_neg follows], by simp⟩

/-- Octets that cannot go on: no octet behind the tail trails the lead with it. -/
def Stops (lead : UInt8) (tail after : List UInt8) : Prop :=
  ∀ octet ∈ after.head?, ¬ Trails lead (tail ++ [octet])

theorem readPiece_split {lead : UInt8} {count : Nat} (owes : owed lead = some count)
    (rest : List UInt8) :
    ∃ tail after, rest = tail ++ after ∧ Trails lead tail ∧
      (tail.length = count ∧ (readPiece lead rest).2 = after ∨
        tail.length < count ∧ Stops lead tail after ∧
          ∃ piece, readPiece lead rest = (piece, after) ∧ ∀ c, piece ≠ .char c) := by
  cases count with
  | zero =>
    refine ⟨[], rest, rfl, trivial, .inl ⟨rfl, ?_⟩⟩
    unfold readPiece
    rw [owes]
  | succ count =>
    cases rest with
    | nil =>
      refine ⟨[], [], rfl, trivial, .inr ⟨Nat.succ_pos _, by simp [Stops], .cutOff, ?_, by simp⟩⟩
      unfold readPiece
      rw [owes]
    | cons second rest =>
      by_cases follows : followsLead lead second = true
      · rw [readPiece_succ owes follows]
        obtain ⟨others, after, rfl, all, stop⟩ :=
          readTail_split (leadBits lead (count + 1) * 0x40 + (second.toNat - 0x80)) 2 count rest
        refine ⟨second :: others, after, rfl, ⟨follows, all⟩, ?_⟩
        rcases stop with ⟨length, left⟩ | ⟨short, refused, piece, read, other⟩
        · exact .inl ⟨congrArg (· + 1) length, left⟩
        · refine .inr ⟨Nat.succ_lt_succ short, fun octet first more => ?_, piece, read, other⟩
          have goes := more.2 octet (List.mem_append_right _ (List.mem_singleton_self _))
          rw [refused octet first] at goes
          cases goes
      · refine ⟨[], second :: rest, rfl, trivial,
          .inr ⟨Nat.succ_pos _, ?_, .illFormed 1, ?_, by simp⟩⟩
        · intro octet first more
          cases first
          exact follows more.1
        · unfold readPiece
          rw [owes]
          exact if_neg follows

theorem readPiece_of_code {c : Char} {lead : UInt8} {tail : List UInt8}
    (code : String.utf8EncodeChar c = lead :: tail) (rest : List UInt8) :
    readPiece lead (tail ++ rest) = (.char c, rest) := by
  obtain ⟨first, others, same, read⟩ := readPiece_encodeChar c rest
  rw [encodeChar_eq, code] at same
  cases same
  exact read

theorem owed_of_code {c : Char} {lead : UInt8} {tail : List UInt8}
    (code : String.utf8EncodeChar c = lead :: tail) :
    owed lead = some tail.length ∧ Trails lead tail := by
  have read := readPiece_of_code code []
  rw [List.append_nil] at read
  cases owes : owed lead with
  | none =>
    unfold readPiece at read
    rw [owes] at read
    cases read
  | some count =>
    obtain ⟨front, after, rfl, trails, ⟨length, left⟩ | ⟨_, _, piece, other, noChar⟩⟩ :=
      readPiece_split owes tail
    · rw [read] at left
      subst left
      rw [List.append_nil, length]
      exact ⟨rfl, trails⟩
    · rw [other] at read
      cases read
      exact absurd rfl (noChar c)

theorem toUInt8_eq {octet : UInt8} {n : Nat} (same : n = octet.toNat) : n.toUInt8 = octet := by
  rw [same]
  exact UInt8.ofNat_toNat

section

variable {lead a b c : UInt8}

theorem encodeChar_one (owes : owed lead = some 0) :
    encodeChar (Char.ofNat lead.toNat) = [lead] := by
  have first : lead.toNat < 0x80 := by
    rw [owed_eq] at owes
    grind
  rw [encodeChar, toNat_ofNat (.inl (by omega)), if_pos first, toUInt8_eq rfl]

theorem encodeChar_two (owes : owed lead = some 1) (second : followsLead lead a = true) :
    encodeChar (Char.ofNat ((lead.toNat - 0xC0) * 0x40 + (a.toNat - 0x80))) = [lead, a] := by
  have first : 0xC2 ≤ lead.toNat ∧ lead.toNat < 0xE0 := by
    rw [owed_eq] at owes
    grind
  rw [followsLead_iff] at second
  generalize value : (lead.toNat - 0xC0) * 0x40 + (a.toNat - 0x80) = n
  have one : (0xC0 + n / 0x40).toUInt8 = lead := toUInt8_eq (by omega)
  have two : (0x80 + n % 0x40).toUInt8 = a := toUInt8_eq (by omega)
  simp only [encodeChar, toNat_ofNat (.inl (by omega) : n.isValidChar), one, two]
  rw [if_neg (by omega), if_pos (by omega)]

theorem encodeChar_three (owes : owed lead = some 2) (second : followsLead lead a = true)
    (third : continues b = true) :
    encodeChar (Char.ofNat
      (((lead.toNat - 0xE0) * 0x40 + (a.toNat - 0x80)) * 0x40 + (b.toNat - 0x80))) =
        [lead, a, b] := by
  have first : 0xE0 ≤ lead.toNat ∧ lead.toNat < 0xF0 := by
    rw [owed_eq] at owes
    grind
  rw [followsLead_iff] at second
  rw [continues_eq, decide_eq_true_eq] at third
  generalize value :
    ((lead.toNat - 0xE0) * 0x40 + (a.toNat - 0x80)) * 0x40 + (b.toNat - 0x80) = n
  have valid : n.isValidChar := by
    unfold Nat.isValidChar
    omega
  have one : (0xE0 + n / 0x1000).toUInt8 = lead := toUInt8_eq (by omega)
  have two : (0x80 + n / 0x40 % 0x40).toUInt8 = a := toUInt8_eq (by omega)
  have three : (0x80 + n % 0x40).toUInt8 = b := toUInt8_eq (by omega)
  simp only [encodeChar, toNat_ofNat valid, one, two, three]
  rw [if_neg (by omega), if_neg (by omega), if_pos (by omega)]

theorem encodeChar_four (owes : owed lead = some 3) (second : followsLead lead a = true)
    (third : continues b = true) (fourth : continues c = true) :
    encodeChar (Char.ofNat
      ((((lead.toNat - 0xF0) * 0x40 + (a.toNat - 0x80)) * 0x40 + (b.toNat - 0x80)) * 0x40 +
        (c.toNat - 0x80))) = [lead, a, b, c] := by
  have first : 0xF0 ≤ lead.toNat ∧ lead.toNat < 0xF5 := by
    rw [owed_eq] at owes
    grind
  rw [followsLead_iff] at second
  rw [continues_eq, decide_eq_true_eq] at third fourth
  generalize value :
    (((lead.toNat - 0xF0) * 0x40 + (a.toNat - 0x80)) * 0x40 + (b.toNat - 0x80)) * 0x40 +
      (c.toNat - 0x80) = n
  have valid : n.isValidChar := by
    unfold Nat.isValidChar
    omega
  have one : (0xF0 + n / 0x40000).toUInt8 = lead := toUInt8_eq (by omega)
  have two : (0x80 + n / 0x1000 % 0x40).toUInt8 = a := toUInt8_eq (by omega)
  have three : (0x80 + n / 0x40 % 0x40).toUInt8 = b := toUInt8_eq (by omega)
  have four : (0x80 + n % 0x40).toUInt8 = c := toUInt8_eq (by omega)
  simp only [encodeChar, toNat_ofNat valid, one, two, three, four]
  rw [if_neg (by omega), if_neg (by omega), if_neg (by omega)]

end

theorem exists_code {lead : UInt8} {tail : List UInt8} (owes : owed lead = some tail.length)
    (trails : Trails lead tail) : ∃ c, String.utf8EncodeChar c = lead :: tail := by
  simp only [← encodeChar_eq]
  rcases tail with _ | ⟨a, _ | ⟨b, _ | ⟨c, _ | ⟨d, more⟩⟩⟩⟩
  · exact ⟨_, encodeChar_one owes⟩
  · exact ⟨_, encodeChar_two owes trails.1⟩
  · exact ⟨_, encodeChar_three owes trails.1 (trails.2 b (by simp))⟩
  · exact ⟨_, encodeChar_four owes trails.1 (trails.2 b (by simp)) (trails.2 c (by simp))⟩
  · rw [owed_eq] at owes
    grind

theorem utf8EncodeChar_eq_cons (c : Char) : ∃ lead tail, String.utf8EncodeChar c = lead :: tail := by
  obtain ⟨lead, tail, code, _⟩ := readPiece_encodeChar c []
  exact ⟨lead, tail, by rw [← encodeChar_eq, code]⟩

/-- A front that some character begins with is empty, or a lead and octets that trail it. -/
theorem front_cases {c : Char} {lead : UInt8} {rest front : List UInt8}
    (here : front <+: lead :: rest) (begins : front <+: String.utf8EncodeChar c) :
    front = [] ∨ ∃ tail, front = lead :: tail ∧ tail <+: rest ∧ Trails lead tail ∧
      ∃ full, String.utf8EncodeChar c = lead :: full := by
  cases front with
  | nil => exact .inl rfl
  | cons first tail =>
    obtain ⟨rfl, stands⟩ := List.cons_prefix_cons.mp here
    obtain ⟨other, full, code⟩ := utf8EncodeChar_eq_cons c
    rw [code] at begins
    obtain ⟨rfl, front⟩ := List.cons_prefix_cons.mp begins
    exact .inr ⟨tail, rfl, stands, (owed_of_code code).2.of_isPrefix front, full, code⟩

theorem isBroken_of_unowed {lead : UInt8} (owes : owed lead = none) (rest : List UInt8) :
    IsBroken [lead] rest := by
  have none_begins : ∀ c front, front <+: lead :: rest → front <+: String.utf8EncodeChar c →
      front = [] := by
    intro c front here begins
    rcases front_cases here begins with empty | ⟨_, _, _, _, full, code⟩
    · exact empty
    · rw [(owed_of_code code).1] at owes
      cases owes
  refine ⟨List.cons_ne_nil _ _, fun c here => ?_, .inr rfl, fun c front here begins => ?_⟩
  · exact String.utf8EncodeChar_ne_nil (none_begins c _ here (List.prefix_refl _))
  · rw [none_begins c front here begins]
    exact Nat.zero_le _

theorem Stops.length_le {lead : UInt8} {tail after front : List UInt8}
    (stops : Stops lead tail after) (here : front <+: tail ++ after) (trails : Trails lead front) :
    front.length ≤ tail.length := by
  rw [← Nat.not_lt]
  intro longer
  obtain ⟨behind, rfl⟩ := List.prefix_of_prefix_length_le (List.prefix_append tail after) here
    (Nat.le_of_lt longer)
  cases behind with
  | nil => simp at longer
  | cons octet behind =>
    have first : after.head? = some octet := by
      obtain ⟨rest, rfl⟩ := (List.prefix_append_right_inj tail).mp here
      rfl
    refine stops octet first (trails.of_isPrefix ?_)
    exact (List.prefix_append_right_inj tail).mpr (by simp)

theorem isBroken_of_stops {lead : UInt8} {count : Nat} {tail after : List UInt8}
    (owes : owed lead = some count) (trails : Trails lead tail) (short : tail.length < count)
    (stops : Stops lead tail after) : IsBroken (lead :: tail) after := by
  have longest : ∀ c front, front <+: lead :: (tail ++ after) →
      front <+: String.utf8EncodeChar c → front.length ≤ (lead :: tail).length := by
    intro c front here begins
    rcases front_cases here begins with rfl | ⟨tail, rfl, here, trails, _⟩
    · exact Nat.zero_le _
    · exact Nat.succ_le_succ (stops.length_le here trails)
  refine ⟨List.cons_ne_nil _ _, fun c here => ?_, .inl ?_, longest⟩
  · -- A whole character would be longer than the tail that stops.
    have bound := longest c _ here (List.prefix_refl _)
    obtain ⟨first, full, code⟩ := utf8EncodeChar_eq_cons c
    rw [code] at here bound
    obtain ⟨rfl, _⟩ := List.cons_prefix_cons.mp here
    rw [(owed_of_code code).1, Option.some_inj] at owes
    simp only [List.length_cons] at bound
    omega
  · obtain ⟨full, begins, length, all⟩ := trails.exists_filled (count - tail.length)
    obtain ⟨c, code⟩ := exists_code (by rw [owes, length]; congr 1; omega) all
    exact ⟨c, by rw [code]; exact List.cons_prefix_cons.mpr ⟨rfl, begins⟩⟩

/-- What is read at the front is a character that stands there, or something else where none
does. -/
theorem readPiece_cases (lead : UInt8) (rest : List UInt8) :
    (∃ c after, readPiece lead rest = (.char c, after) ∧
      lead :: rest = String.utf8EncodeChar c ++ after) ∨
    ∃ piece part after, readPiece lead rest = (piece, after) ∧ (∀ c, piece ≠ .char c) ∧
      lead :: rest = part ++ after ∧ IsBroken part after := by
  cases owes : owed lead with
  | none =>
    refine .inr ⟨.illFormed 1, [lead], rest, ?_, by simp, rfl, isBroken_of_unowed owes rest⟩
    unfold readPiece
    rw [owes]
  | some count =>
    obtain ⟨tail, after, rfl, trails, ⟨rfl, _⟩ | ⟨short, stops, piece, read, other⟩⟩ :=
      readPiece_split owes rest
    · obtain ⟨c, code⟩ := exists_code owes trails
      exact .inl ⟨c, after, readPiece_of_code code after, by rw [code]; rfl⟩
    · exact .inr ⟨piece, lead :: tail, after, read, other, rfl,
        isBroken_of_stops owes trails short stops⟩

namespace IsBroken

variable {part other rest behind : List UInt8}

theorem length_le (broken : IsBroken part rest) (again : IsBroken other behind)
    (same : part ++ rest = other ++ behind) : other.length ≤ part.length := by
  rcases again.begun with ⟨c, begins⟩ | single
  · exact broken.longest c other (same ▸ List.prefix_append other behind) begins
  · rw [single]
    exact List.length_pos_iff.mpr broken.filled

theorem unique (broken : IsBroken part rest) (again : IsBroken other behind)
    (same : part ++ rest = other ++ behind) : part = other ∧ rest = behind :=
  List.append_inj same
    (Nat.le_antisymm (again.length_le broken same.symm) (broken.length_le again same))

end IsBroken

theorem code_unique {c d : Char} {rest behind : List UInt8}
    (same : String.utf8EncodeChar c ++ rest = String.utf8EncodeChar d ++ behind) :
    c = d ∧ rest = behind := by
  obtain ⟨lead, tail, code⟩ := utf8EncodeChar_eq_cons c
  obtain ⟨other, others, again⟩ := utf8EncodeChar_eq_cons d
  have read := readPiece_of_code code rest
  rw [code, again, List.cons_append, List.cons_append, List.cons.injEq] at same
  rw [same.1, same.2, readPiece_of_code again behind] at read
  cases read
  exact ⟨rfl, rfl⟩

namespace Shows

variable {octets : List UInt8} {text other : List Char}

theorem unique (shows : Shows octets text) (again : Shows octets other) : text = other := by
  induction shows generalizing other with
  | nil =>
    generalize same : ([] : List UInt8) = octets at again
    cases again with
    | nil => rfl
    | char c _ =>
      exact absurd (List.append_eq_nil_iff.mp same.symm).1 String.utf8EncodeChar_ne_nil
    | broken broken _ => exact absurd (List.append_eq_nil_iff.mp same.symm).1 broken.filled
  | char c _ ih =>
    generalize same : String.utf8EncodeChar c ++ _ = octets at again
    cases again with
    | nil => exact absurd (List.append_eq_nil_iff.mp same).1 String.utf8EncodeChar_ne_nil
    | char d rest =>
      obtain ⟨rfl, rfl⟩ := code_unique same
      rw [ih rest]
    | broken broken _ => exact absurd (same ▸ List.prefix_append _ _) (broken.noChar c)
  | @broken part rest _ broken _ ih =>
    generalize same : part ++ rest = octets at again
    cases again with
    | nil => exact absurd (List.append_eq_nil_iff.mp same).1 broken.filled
    | char d _ => exact absurd (same ▸ List.prefix_append _ _) (broken.noChar d)
    | broken others behind =>
      obtain ⟨rfl, rfl⟩ := broken.unique others same
      rw [ih behind]

end Shows

theorem length_le_of_front {front octets after : List UInt8} {limit : Nat} (filled : front ≠ [])
    (same : octets = front ++ after) (bound : octets.length ≤ limit + 1) :
    after.length ≤ limit := by
  have one := List.length_pos_iff.mpr filled
  rw [same, List.length_append] at bound
  omega

theorem shows_decodeLossy (octets : List UInt8) : Shows octets (decodeLossy octets) := by
  unfold decodeLossy pieces
  -- Each piece takes an octet, so as many pieces as octets are enough.
  generalize bound : octets.length = limit
  replace bound := Nat.le_of_eq bound
  induction limit generalizing octets with
  | zero =>
    rw [List.eq_nil_of_length_eq_zero (Nat.le_zero.mp bound)]
    exact .nil
  | succ limit ih =>
    cases octets with
    | nil => exact .nil
    | cons lead rest =>
      rcases readPiece_cases lead rest with
        ⟨c, after, read, same⟩ | ⟨piece, part, after, read, other, same, broken⟩
      · have shorter := length_le_of_front String.utf8EncodeChar_ne_nil same bound
        rw [piecesUpTo, read, same]
        exact .char c (ih after shorter)
      · have shorter := length_le_of_front broken.filled same bound
        rw [piecesUpTo, read, same]
        cases piece with
        | char c => exact absurd rfl (other c)
        | illFormed _ => exact .broken broken (ih after shorter)
        | cutOff => exact .broken broken (ih after shorter)

theorem shows_iff {octets : List UInt8} {text : List Char} :
    Shows octets text ↔ text = decodeLossy octets :=
  ⟨fun shows => shows.unique (shows_decodeLossy octets), fun same => same ▸ shows_decodeLossy octets⟩

end ODataTable.Utf8
