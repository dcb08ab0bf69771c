import Mathlib.Data.List.TakeWhile
import ODataTable.Json.Record
import ODataTable.Proofs.Effect

/-! What readers take of a text.

A reader takes a front of a text and gives what stands behind it. It takes the same front if
something else stands there, as long as that does not continue a number. The loops are given a
bound, of which they need no more octets than they take. Here are the smallest parts of a text.
-/

set_option autoImplicit false

namespace ODataTable.Json

variable {α σ : Type}

def continuesNumber (b : UInt8) : Bool :=
  isDigit b || b = octet '.' || isExponentMark b

/-- Whether a text does not continue a number before it. -/
def Ends (more : List UInt8) : Prop :=
  ∀ b ∈ more.head?, continuesNumber b = false

theorem ends_cons {b : UInt8} (plain : continuesNumber b = false) (more : List UInt8) :
    Ends (b :: more) := by
  rintro _ ⟨⟩
  exact plain

theorem Ends.append {front more : List UInt8} (own : Ends front) (later : Ends more) :
    Ends (front ++ more) := by
  cases front with
  | nil => exact later
  | cons b front => exact own

theorem not_continuesNumber_of_blank {b : UInt8} (blank : isBlank b = true) :
    continuesNumber b = false := by
  simp only [isBlank, Bool.or_eq_true, decide_eq_true_eq] at blank
  rcases blank with ((rfl | rfl) | rfl) | rfl <;> decide

theorem skipBlanks_eq_cons {input rest : List UInt8} {b : UInt8}
    (left : skipBlanks input = b :: rest) :
    ∃ blanks, input = blanks ++ b :: rest ∧ (∀ c ∈ blanks, isBlank c = true) ∧
      ∀ more, skipBlanks (blanks ++ b :: more) = b :: more := by
  refine ⟨input.takeWhile isBlank, ?_, fun c => List.mem_takeWhile_imp, fun more => ?_⟩
  · rw [← left, skipBlanks, List.takeWhile_append_dropWhile]
  · have plain : isBlank b = false := by
      have head := List.head?_dropWhile_not isBlank input
      rw [skipBlanks] at left
      simpa [left] using head
    rw [skipBlanks, List.dropWhile_append_of_pos fun c => List.mem_takeWhile_imp]
    simp [plain]

theorem ends_blanks {blanks : List UInt8} (blank : ∀ c ∈ blanks, isBlank c = true) :
    Ends blanks := by
  intro b first
  exact not_continuesNumber_of_blank (blank b (List.mem_of_mem_head? first))

theorem ends_separator {blanks : List UInt8} (blank : ∀ c ∈ blanks, isBlank c = true) {b : UInt8}
    (plain : continuesNumber b = false) (more : List UInt8) : Ends (blanks ++ b :: more) :=
  (ends_blanks blank).append (ends_cons plain more)

/-- A loop that still has something to take finds an octet in its bound. -/
theorem exists_step {n : Nat} {bound : List UInt8} (fits : n + 1 ≤ bound.length) :
    ∃ b rest, bound = b :: rest ∧ n ≤ rest.length := by
  cases bound with
  | nil => exact absurd fits (Nat.not_succ_le_zero n)
  | cons b rest => exact ⟨b, rest, rfl, Nat.le_of_succ_le_succ fits⟩

theorem readLiteral_local {text : List Char} {input rest : List UInt8}
    (read : readLiteral text input = .ok ((), rest)) :
    ∃ taken, input = taken ++ rest ∧ ∀ more, readLiteral text (taken ++ more) = .ok ((), more) := by
  induction text generalizing input with
  | nil =>
    cases read
    exact ⟨[], rfl, fun _ => rfl⟩
  | cons c text ih =>
    cases input with
    | nil => cases read
    | cons b input =>
      rw [readLiteral] at read
      split at read
      next same =>
        obtain ⟨taken, rfl, reads⟩ := ih read
        exact ⟨b :: taken, rfl, fun more => by simp [readLiteral, same, reads]⟩
      · cases read

theorem readHex_local {input rest : List UInt8} {code : Nat}
    (read : readHex input = .ok (code, rest)) :
    ∃ taken, input = taken ++ rest ∧ ∀ more, readHex (taken ++ more) = .ok (code, more) := by
  unfold readHex at read
  split at read
  next a b c d rest =>
    split at read
    next known =>
      cases read
      exact ⟨[a, b, c, d], rfl, fun more => by simp [readHex, *]⟩
    · cases read
  · cases read

theorem readCodePoint_local {input rest : List UInt8} {c : Char}
    (read : readCodePoint input = .ok (c, rest)) :
    ∃ taken, input = taken ++ rest ∧ ∀ more, readCodePoint (taken ++ more) = .ok (c, more) := by
  simp only [readCodePoint, bind_eq_ok] at read
  obtain ⟨⟨first, input⟩, hex, read⟩ := read
  obtain ⟨taken, rfl, reads⟩ := readHex_local hex
  dsimp only at read
  split at read
  · cases read
  next noTrail =>
    split at read
    next lead =>
      -- The second half of the code point is an escape of its own.
      split at read
      · cases read
      split at read
      next b input escape =>
        split at read
        · cases read
        split at read
        next u input letter =>
          simp only [bind_eq_ok] at read
          obtain ⟨⟨second, input⟩, hex, read⟩ := read
          obtain ⟨others, rfl, later⟩ := readHex_local hex
          dsimp only at read
          split at read
          next trail =>
            simp only [Except.ok.injEq, Prod.mk.injEq] at read
            obtain ⟨rfl, rfl⟩ := read
            refine ⟨taken ++ b :: u :: others, by simp, fun more => ?_⟩
            simp only [List.append_assoc, List.cons_append, readCodePoint, reads, if_neg noTrail,
              if_pos lead, if_pos escape, if_pos letter, later, if_pos trail, bind, Except.bind]
          · cases read
        · cases read
      · cases read
    next noLead =>
      cases read
      exact ⟨taken, rfl, fun more => by simp [readCodePoint, reads, noTrail, noLead, bind, Except.bind]⟩

theorem readEscape_local {input rest octets : List UInt8}
    (read : readEscape input = .ok (octets, rest)) :
    ∃ taken, input = taken ++ rest ∧ ∀ more, readEscape (taken ++ more) = .ok (octets, more) := by
  unfold readEscape at read
  split at read
  · cases read
  next b input =>
    split at read
    next known =>
      cases read
      exact ⟨[b], rfl, fun more => by simp [readEscape, known]⟩
    next unknown =>
      split at read
      next letter =>
        simp only [bind_eq_ok] at read
        obtain ⟨⟨c, input⟩, point, read⟩ := read
        cases read
        obtain ⟨taken, rfl, reads⟩ := readCodePoint_local point
        refine ⟨b :: taken, rfl, fun more => ?_⟩
        simp only [List.cons_append, readEscape, unknown, if_pos letter, reads, bind, Except.bind]
      · cases read

theorem readQuoted_local {bound input rest octets : List UInt8}
    (read : readQuoted bound input = .ok (octets, rest)) :
    ∃ taken, input = taken ++ rest ∧ ∀ bound more : List UInt8, taken.length ≤ bound.length →
      readQuoted bound (taken ++ more) = .ok (octets, more) := by
  -- A step drops one octet of the bound and takes at least one of the text.
  induction bound generalizing input octets with
  | nil => cases read
  | cons _ bound ih =>
    cases input with
    | nil => cases read
    | cons b input =>
      rw [readQuoted] at read
      split at read
      next quote =>
        cases read
        refine ⟨[b], rfl, fun bound more fits => ?_⟩
        obtain ⟨_, bound, rfl, _⟩ := exists_step fits
        simp [readQuoted, quote]
      next noQuote =>
        split at read
        next escape =>
          simp only [bind_eq_ok] at read
          obtain ⟨⟨escaped, input⟩, own, ⟨others, input⟩, read, same⟩ := read
          cases same
          obtain ⟨first, rfl, reads⟩ := readEscape_local own
          obtain ⟨taken, rfl, later⟩ := ih read
          refine ⟨b :: (first ++ taken), by simp, fun bound more fits => ?_⟩
          obtain ⟨_, bound, rfl, fits⟩ := exists_step fits
          have enough : taken.length ≤ bound.length := by simp at fits; omega
          simp only [List.cons_append, List.append_assoc, readQuoted, if_neg noQuote, if_pos escape,
            reads, later bound more enough, bind, Except.bind]
        next noEscape =>
          split at read
          · cases read
          next visible =>
            simp only [bind_eq_ok] at read
            obtain ⟨⟨others, input⟩, read, same⟩ := read
            cases same
            obtain ⟨taken, rfl, later⟩ := ih read
            refine ⟨b :: taken, rfl, fun bound more fits => ?_⟩
            obtain ⟨_, bound, rfl, enough⟩ := exists_step fits
            simp [readQuoted, noQuote, noEscape, visible, later bound more enough, bind, Except.bind]

theorem readString_local {input rest : List UInt8} {text : List Char}
    (read : readString input = .ok (text, rest)) :
    ∃ taken, input = taken ++ rest ∧ ∀ more, readString (taken ++ more) = .ok (text, more) := by
  simp only [readString, bind_eq_ok] at read
  obtain ⟨⟨octets, input⟩, quoted, read⟩ := read
  obtain ⟨taken, rfl, reads⟩ := readQuoted_local quoted
  dsimp only at read
  split at read
  next decoded =>
    cases read
    refine ⟨taken, rfl, fun more => ?_⟩
    have own := reads (taken ++ more) more (by simp)
    simp [readString, own, decoded, bind, Except.bind]
  · cases read

theorem skipEscape_local {input rest : List UInt8} (skipped : skipEscape input = .ok rest) :
    ∃ taken, input = taken ++ rest ∧ ∀ more, skipEscape (taken ++ more) = .ok more := by
  unfold skipEscape at skipped
  split at skipped
  · cases skipped
  next b input =>
    split at skipped
    next known =>
      cases skipped
      exact ⟨[b], rfl, fun more => by simp [skipEscape, known]⟩
    next unknown =>
      split at skipped
      next letter =>
        simp only [bind_eq_ok] at skipped
        obtain ⟨⟨_, input⟩, hex, skipped⟩ := skipped
        cases skipped
        obtain ⟨taken, rfl, reads⟩ := readHex_local hex
        refine ⟨b :: taken, rfl, fun more => ?_⟩
        simp only [List.cons_append, skipEscape, if_neg unknown, if_pos letter, reads, bind,
          Except.bind]
      · cases skipped

theorem skipQuoted_local {bound input rest : List UInt8} (skipped : skipQuoted bound input = .ok rest) :
    ∃ taken, input = taken ++ rest ∧ ∀ bound more : List UInt8, taken.length ≤ bound.length →
      skipQuoted bound (taken ++ more) = .ok more := by
  induction bound generalizing input with
  | nil => cases skipped
  | cons _ bound ih =>
    cases input with
    | nil => cases skipped
    | cons b input =>
      rw [skipQuoted] at skipped
      split at skipped
      next quote =>
        cases skipped
        refine ⟨[b], rfl, fun bound more fits => ?_⟩
        obtain ⟨_, bound, rfl, _⟩ := exists_step fits
        simp [skipQuoted, quote]
      next noQuote =>
        split at skipped
        next escape =>
          simp only [bind_eq_ok] at skipped
          obtain ⟨input, own, skipped⟩ := skipped
          obtain ⟨first, rfl, skips⟩ := skipEscape_local own
          obtain ⟨taken, rfl, later⟩ := ih skipped
          refine ⟨b :: (first ++ taken), by simp, fun bound more fits => ?_⟩
          obtain ⟨_, bound, rfl, fits⟩ := exists_step fits
          have enough : taken.length ≤ bound.length := by simp at fits; omega
          simp only [List.cons_append, List.append_assoc, skipQuoted, if_neg noQuote, if_pos escape,
            skips, later bound more enough, bind, Except.bind]
        next noEscape =>
          split at skipped
          · cases skipped
          next visible =>
            obtain ⟨taken, rfl, later⟩ := ih skipped
            refine ⟨b :: taken, rfl, fun bound more fits => ?_⟩
            obtain ⟨_, bound, rfl, enough⟩ := exists_step fits
            simp [skipQuoted, noQuote, noEscape, visible, later bound more enough]

theorem skipString_local {input rest : List UInt8} (skipped : skipString input = .ok rest) :
    ∃ taken, input = taken ++ rest ∧ ∀ more, skipString (taken ++ more) = .ok more := by
  obtain ⟨taken, rfl, skips⟩ := skipQuoted_local skipped
  exact ⟨taken, rfl, fun more => skips _ more (by simp)⟩

theorem Ends.noDigit {more : List UInt8} (ends : Ends more) : ∀ b ∈ more.head?, isDigit b = false := by
  intro b first
  have plain := ends b first
  simp only [continuesNumber, Bool.or_eq_false_iff] at plain
  exact plain.1.1

theorem dropDigits_local (input : List UInt8) :
    ∃ digits, input = digits ++ input.dropWhile isDigit ∧
      ∀ more : List UInt8, (∀ b ∈ more.head?, isDigit b = false) →
        (digits ++ more).dropWhile isDigit = more := by
  refine ⟨input.takeWhile isDigit, (List.takeWhile_append_dropWhile ..).symm, fun more plain => ?_⟩
  rw [List.dropWhile_append_of_pos fun c => List.mem_takeWhile_imp]
  cases more with
  | nil => rfl
  | cons b more => simp [plain b rfl]

theorem head?_dropDigits (input : List UInt8) :
    ∀ b ∈ (input.dropWhile isDigit).head?, isDigit b = false := by
  intro b first
  have plain := List.head?_dropWhile_not isDigit input
  rw [Option.mem_def.mp first] at plain
  simpa using plain

/-- What is taken of a text without a digit at its front has none there. -/
theorem noDigit_append {taken rest more : List UInt8}
    (plain : ∀ b ∈ (taken ++ rest).head?, isDigit b = false) (ends : Ends more) :
    ∀ b ∈ (taken ++ more).head?, isDigit b = false := by
  cases taken with
  | nil => exact ends.noDigit
  | cons b taken => exact plain

theorem skipScale_of_ends {more : List UInt8} (ends : Ends more) : skipScale more = .ok more := by
  cases more with
  | nil => rfl
  | cons b more =>
    have plain := ends b rfl
    simp only [continuesNumber, Bool.or_eq_false_iff] at plain
    simp [skipScale, plain.2]

theorem skipAfterWhole_of_ends {more : List UInt8} (ends : Ends more) :
    skipAfterWhole more = .ok more := by
  cases more with
  | nil => rfl
  | cons b more =>
    have plain := ends b rfl
    simp only [continuesNumber, Bool.or_eq_false_iff, decide_eq_false_iff_not] at plain
    simp only [skipAfterWhole, if_neg plain.1.2, skipScale_of_ends ends]

theorem skipExponent_local {input rest : List UInt8} (skipped : skipExponent input = .ok rest) :
    ∃ taken, input = taken ++ rest ∧ ∀ more, Ends more → skipExponent (taken ++ more) = .ok more := by
  cases input with
  | nil => cases skipped
  | cons b input =>
    simp only [skipExponent] at skipped
    -- With a sign the digits follow it, and without one they begin here.
    by_cases sign : (b = octet '+' || b = octet '-') = true
    · simp only [if_pos sign] at skipped
      cases input with
      | nil => cases skipped
      | cons d input =>
        dsimp only at skipped
        split at skipped
        next digit =>
          cases skipped
          obtain ⟨digits, split, dropped⟩ := dropDigits_local input
          refine ⟨b :: d :: digits, by simp [digit, ← split], fun more ends => ?_⟩
          simp only [List.cons_append, skipExponent, if_pos sign, if_pos digit,
            List.dropWhile_cons_of_pos digit, dropped more ends.noDigit]
        · cases skipped
    · simp only [if_neg sign] at skipped
      split at skipped
      next digit =>
        cases skipped
        obtain ⟨digits, split, dropped⟩ := dropDigits_local input
        refine ⟨b :: digits, by simp [digit, ← split], fun more ends => ?_⟩
        simp only [List.cons_append, skipExponent, if_neg sign, if_pos digit,
          List.dropWhile_cons_of_pos digit, dropped more ends.noDigit]
      · cases skipped

theorem skipScale_local {input rest : List UInt8} (skipped : skipScale input = .ok rest) :
    ∃ taken, input = taken ++ rest ∧ ∀ more, Ends more → skipScale (taken ++ more) = .ok more := by
  cases input with
  | nil =>
    cases skipped
    exact ⟨[], rfl, fun _ => skipScale_of_ends⟩
  | cons b input =>
    rw [skipScale] at skipped
    split at skipped
    next mark =>
      obtain ⟨taken, rfl, skips⟩ := skipExponent_local skipped
      exact ⟨b :: taken, rfl, fun more ends => by simp [skipScale, mark, skips more ends]⟩
    · cases skipped
      exact ⟨[], rfl, fun _ => skipScale_of_ends⟩

theorem skipAfterWhole_local {input rest : List UInt8} (skipped : skipAfterWhole input = .ok rest) :
    ∃ taken, input = taken ++ rest ∧
      ∀ more, Ends more → skipAfterWhole (taken ++ more) = .ok more := by
  cases input with
  | nil =>
    cases skipped
    exact ⟨[], rfl, fun _ => skipAfterWhole_of_ends⟩
  | cons b input =>
    rw [skipAfterWhole.eq_def] at skipped
    dsimp only at skipped
    split at skipped
    next point =>
      cases input with
      | nil => cases skipped
      | cons c input =>
        dsimp only at skipped
        split at skipped
        next digit =>
          rw [List.dropWhile_cons_of_pos digit] at skipped
          -- Behind the digits stands no other one, in the text and in what replaces its end.
          obtain ⟨digits, split, dropped⟩ := dropDigits_local input
          have plain := head?_dropDigits input
          obtain ⟨taken, left, skips⟩ := skipScale_local skipped
          rw [left] at split plain
          refine ⟨b :: c :: (digits ++ taken), by simp [split], fun more ends => ?_⟩
          have behind := dropped (taken ++ more) (noDigit_append plain ends)
          simp only [List.cons_append, List.append_assoc, skipAfterWhole, if_pos point, if_pos digit,
            List.dropWhile_cons_of_pos digit, behind, skips more ends]
        · cases skipped
    next noPoint =>
      obtain ⟨taken, left, skips⟩ := skipScale_local skipped
      -- If nothing is taken, then what stands behind may have another first octet.
      cases taken with
      | nil => exact ⟨[], left, fun _ => skipAfterWhole_of_ends⟩
      | cons c taken =>
        obtain ⟨rfl, rfl⟩ := List.cons.inj left
        exact ⟨b :: taken, rfl, fun more ends => by
          simpa only [List.cons_append, skipAfterWhole, if_neg noPoint] using skips more ends⟩

theorem skipNumber_local {input rest : List UInt8} (skipped : skipNumber input = .ok rest) :
    ∃ b taken, input = b :: (taken ++ rest) ∧
      ∀ more, Ends more → skipNumber (b :: (taken ++ more)) = .ok more := by
  cases input with
  | nil => cases skipped
  | cons b input =>
    rw [skipNumber.eq_def] at skipped
    dsimp only at skipped
    split at skipped
    next zero =>
      -- A leading zero is a number by itself, so the octet behind it is looked at.
      have after : skipAfterWhole input = .ok rest ∧ ∀ c ∈ input.head?, isDigit c = false := by
        cases input with
        | nil =>
          cases skipped
          exact ⟨rfl, nofun⟩
        | cons c input =>
          dsimp only at skipped
          split at skipped
          · cases skipped
          next plain =>
            refine ⟨skipped, ?_⟩
            rintro _ ⟨⟩
            simpa using plain
      obtain ⟨taken, rfl, skips⟩ := skipAfterWhole_local after.1
      refine ⟨b, taken, rfl, fun more ends => ?_⟩
      have plain := noDigit_append after.2 ends
      have behind := skips more ends
      rw [skipNumber.eq_def]
      simp only [if_pos zero]
      generalize taken ++ more = left at plain behind
      cases left with
      | nil => exact behind
      | cons c left => simpa [plain c rfl] using behind
    next noZero =>
      split at skipped
      next digit =>
        obtain ⟨digits, split, dropped⟩ := dropDigits_local input
        have plain := head?_dropDigits input
        obtain ⟨taken, left, skips⟩ := skipAfterWhole_local skipped
        rw [left] at split plain
        refine ⟨b, digits ++ taken, by simp [split], fun more ends => ?_⟩
        have behind := dropped (taken ++ more) (noDigit_append plain ends)
        simp only [List.append_assoc, skipNumber, if_neg noZero, if_pos digit,
          behind, skips more ends]
      · cases skipped

end ODataTable.Json
