import ODataTable.Proofs.Text.Split
import ODataTable.Url.Host

/-! The text of a host that was read has no mark in it, so an authority does not end inside. -/

set_option autoImplicit false

namespace ODataTable

/-- A character that ends an authority, or that is dropped from the text of a URL. -/
def Url.isMark (c : Char) : Bool :=
  c.toNat ≤ 0x20 || c = '/' || c = '\\' || c = '?' || c = '#'

def Url.Unmarked (text : List Char) : Prop :=
  ∀ c ∈ text, Url.isMark c = false

theorem Url.unmarked_nil : Url.Unmarked [] :=
  fun _ member => absurd member List.not_mem_nil

theorem Url.Unmarked.append {first second : List Char} (before : Url.Unmarked first)
    (after : Url.Unmarked second) : Url.Unmarked (first ++ second) := by
  intro c member
  rcases List.mem_append.mp member with member | member
  · exact before c member
  · exact after c member

theorem Url.Unmarked.cons {c : Char} {rest : List Char} (here : Url.isMark c = false)
    (after : Url.Unmarked rest) : Url.Unmarked (c :: rest) := by
  intro d member
  rcases List.mem_cons.mp member with rfl | member
  · exact here
  · exact after d member

theorem mem_toDigits {base n : Nat} (large : 1 < base) {c : Char}
    (member : c ∈ Nat.toDigits base n) : ∃ d < base, c = Nat.digitChar d := by
  induction n using Nat.strongRecOn with
  | ind n ih =>
    rw [Nat.toDigits_eq_if large] at member
    split at member
    next small => exact ⟨n, small, List.mem_singleton.mp member⟩
    next big =>
      have less : n / base < n := Nat.div_lt_self (by omega) large
      rcases List.mem_append.mp member with front | last
      · exact ih _ less front
      · exact ⟨n % base, Nat.mod_lt n (by omega), List.mem_singleton.mp last⟩

namespace UrlHost

/-- The text of a host, which is not empty and holds no mark. -/
structure Inert (text : List Char) : Prop where
  some : text ≠ []
  unmarked : Url.Unmarked text

theorem toDigits_unmarked {base : Nat} (large : 1 < base) (small : base ≤ 16) (n : Nat) :
    Url.Unmarked (Nat.toDigits base n) := by
  have table : ∀ d < 16, Url.isMark (Nat.digitChar d) = false := by decide
  intro c member
  obtain ⟨d, below, rfl⟩ := mem_toDigits large member
  exact table d (by omega)

theorem intercalate_unmarked {separator : Char} (plain : Url.isMark separator = false)
    {parts : List (List Char)} (each : ∀ part ∈ parts, Url.Unmarked part) :
    Url.Unmarked (List.intercalate [separator] parts) := by
  intro c member
  rcases mem_of_mem_intercalate member with rfl | ⟨part, own, inside⟩
  · exact plain
  · exact each part own c inside

theorem writeAddress4_inert (number : Nat) : Inert (writeAddress4 number) where
  some := by simp [writeAddress4, List.intercalate_cons_cons]
  unmarked := by
    refine intercalate_unmarked (by decide) fun part member => ?_
    obtain ⟨shift, _, rfl⟩ := List.mem_map.mp member
    exact toDigits_unmarked (by decide) (by decide) _

theorem writePieces_unmarked (pieces : List Nat) : Url.Unmarked (writePieces pieces) := by
  refine intercalate_unmarked (by decide) fun part member => ?_
  obtain ⟨piece, _, rfl⟩ := List.mem_map.mp member
  exact toDigits_unmarked (by decide) (by decide) piece

theorem writeAddress6_unmarked (pieces : List Nat) : Url.Unmarked (writeAddress6 pieces) := by
  unfold writeAddress6
  split
  · exact writePieces_unmarked pieces
  · exact (writePieces_unmarked _).append
      (.cons (by decide) (.cons (by decide) (writePieces_unmarked _)))

theorem address6_inert (pieces : List Nat) : Inert (write (.address6 pieces)) where
  some := List.cons_ne_nil _ _
  unmarked :=
    .append (.cons (by decide) (writeAddress6_unmarked pieces)) (.cons (by decide) Url.unmarked_nil)

theorem isMark_of_isForbidden {c : Char} (allowed : isForbidden c = false) :
    Url.isMark c = false := by
  simp_all [isForbidden, Url.isMark]

theorem toAscii_unmarked {octets : List UInt8} {name : List Char}
    (read : toAscii octets = .ok name) : Url.Unmarked name := by
  unfold toAscii at read
  split at read
  · cases read
  · split at read
    · cases read
    · split at read
      · cases read
      next allowed =>
        cases read
        intro c member
        refine isMark_of_isForbidden (Bool.eq_false_iff.mpr fun forbidden => allowed ?_)
        exact List.any_eq_true.mpr ⟨c, member, forbidden⟩

theorem readAddress6_address {text : List Char} {host : UrlHost}
    (read : readAddress6 text = some host) : ∃ pieces, host = .address6 pieces := by
  unfold readAddress6 at read
  split at read
  · simp only [Option.bind_eq_bind, Option.bind_eq_some_iff] at read
    obtain ⟨pieces, _, read⟩ := read
    split at read
    · exact ⟨_, (Option.some.inj read).symm⟩
    · cases read
  · simp only [Option.bind_eq_bind, Option.bind_eq_some_iff] at read
    obtain ⟨before, _, after, _, read⟩ := read
    split at read
    · exact ⟨_, (Option.some.inj read).symm⟩
    · cases read

theorem readBracketed_inert {text : List Char} {host : UrlHost}
    (read : readBracketed text = .ok host) : Inert host.write := by
  unfold readBracketed at read
  split at read
  · split at read
    next found =>
      cases read
      obtain ⟨pieces, rfl⟩ := readAddress6_address found
      exact address6_inert pieces
    · cases read
  · cases read

theorem readAddress4_inert {text : List Char} {host : UrlHost}
    (read : readAddress4 text = .ok host) : Inert host.write := by
  unfold readAddress4 at read
  split at read
  · cases read
    exact writeAddress4_inert _
  · cases read

theorem parseSpecial_inert {text : List Char} {host : UrlHost}
    (read : parseSpecial text = .ok host) : Inert host.write := by
  unfold parseSpecial at read
  split at read
  · exact readBracketed_inert read
  · cases ascii : toAscii (Percent.decode text) with
    | error fault =>
      rw [ascii] at read
      cases read
    | ok name =>
      simp only [ascii, bind, Except.bind] at read
      split at read
      · cases read
      next filled =>
        split at read
        · exact readAddress4_inert read
        · cases read
          exact ⟨fun empty => filled (List.isEmpty_iff.mpr empty), toAscii_unmarked ascii⟩

end UrlHost

end ODataTable
