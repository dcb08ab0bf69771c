import Mathlib.Data.List.Basic
import ODataTable.Proofs.Url.Delimited
import ODataTable.Proofs.Url.Name

/-! Authorities that end in a blank or a control are refused.

Such a character belongs to the port or to the host. A port has digits only, an address in brackets
ends in a bracket, and a name keeps the character until it is looked for.
-/

set_option autoImplicit false

namespace ODataTable

theorem digit?_of_blank {c : Char} (blank : c.toNat ≤ 0x20) : Radix.digit? c = none := by
  have below := fun d => not_le_of_blank (d := d) blank
  simp [Radix.digit?, below 'a' (by decide), below 'A' (by decide), isDigit_of_blank blank]

theorem separates_of_blank {c : Char} (blank : c.toNat ≤ 0x20) :
    SchemeKind.web.separates c = false := by
  have slash : c ≠ '/' := ne_of_blank blank (by decide)
  have backslash : c ≠ '\\' := ne_of_blank blank (by decide)
  simp [SchemeKind.separates, slash, backslash]

theorem encodeChar_of_blank {c : Char} (blank : c.toNat ≤ 0x20) :
    Utf8.encodeChar c = [c.toNat.toUInt8] :=
  if_pos (by omega)

theorem Percent.decode_noEscape {c : Char} {rest : List Char}
    (noEscape : ∀ high low tail, c = '%' → rest = high :: low :: tail → False) :
    Percent.decode (c :: rest) = Utf8.encodeChar c ++ Percent.decode rest := by
  rw [Percent.decode]
  exact noEscape

theorem Percent.decode_noDigits {high low : Char} {rest : List Char}
    (noDigits : ∀ a b, Radix.digit? high = some a → Radix.digit? low = some b → False) :
    Percent.decode ('%' :: high :: low :: rest) =
      Utf8.encodeChar '%' ++ Percent.decode (high :: low :: rest) := by
  rw [Percent.decode]
  split
  next a b highDigit lowDigit => exact (noDigits a b highDigit lowDigit).elim
  next => rfl

variable {last : Char} (blank : last.toNat ≤ 0x20)
include blank

theorem Percent.decode_append (text : List Char) :
    Percent.decode (text ++ [last]) = Percent.decode text ++ [last.toNat.toUInt8] := by
  have other : last ≠ '%' := ne_of_blank blank (by decide)
  have alone : Percent.decode [last] = [last.toNat.toUInt8] := by
    rw [Percent.decode_cons other, encodeChar_of_blank blank]
    rfl
  induction text using Percent.decode.induct with
  | case1 => exact alone
  | case2 high low rest a b lowDigit highDigit ih =>
    simp only [List.cons_append, Percent.decode, highDigit, lowDigit, ih]
  | case3 high low rest noDigits ih =>
    simp only [List.cons_append] at ih ⊢
    rw [Percent.decode_noDigits noDigits, Percent.decode_noDigits noDigits, ih, List.append_assoc]
  | case4 c rest noEscape ih =>
    rw [Percent.decode_noEscape noEscape, List.append_assoc, ← ih, List.cons_append]
    -- Only a percent sign with one character behind it could take the blank.
    cases rest with
    | nil => exact Percent.decode_noEscape fun _ _ _ _ same => by cases same
    | cons high rest =>
      cases rest with
      | nil =>
        by_cases percent : c = '%'
        · subst percent
          refine Percent.decode_noDigits fun _ _ _ digit => ?_
          rw [digit?_of_blank blank] at digit
          cases digit
        · exact Percent.decode_cons percent _
      | cons low rest =>
        have percent : c ≠ '%' := fun same => noEscape high low rest same rfl
        exact Percent.decode_cons percent _

namespace UrlHost

theorem toAscii_of_blank (octets : List UInt8) (name : List Char) :
    toAscii (octets ++ [last.toNat.toUInt8]) ≠ .ok name := by
  have octet : (last.toNat.toUInt8).toNat = last.toNat := Utf8.toNat_toUInt8 _ (by omega)
  intro read
  unfold toAscii at read
  split at read
  · cases read
  next decoded =>
    obtain ⟨front, rfl⟩ := Utf8.decode_keeps_last (by omega) decoded
    rw [octet, Char.ofNat_toNat] at read
    split at read
    · cases read
    next found =>
      have inside := HostName.toAscii_of_blank blank found
      rw [if_pos] at read
      · cases read
      · refine List.any_eq_true.mpr ⟨last, inside, ?_⟩
        simp [isForbidden, blank]

theorem parseSpecial_of_blank (text : List Char) (host : UrlHost) :
    parseSpecial (text ++ [last]) ≠ .ok host := by
  intro read
  unfold parseSpecial at read
  split at read
  next rest same =>
    have other : last ≠ ']' := ne_of_blank blank (by decide)
    have ends := congrArg List.getLast? same
    rw [List.getLast?_concat] at ends
    cases rest with
    | nil =>
      have bracket := Option.some.inj ends
      exact ne_of_blank blank (by decide) bracket
    | cons c rest =>
      rw [List.getLast?_cons_cons] at ends
      unfold readBracketed at read
      split at read
      next closed => exact other (Option.some.inj (ends.trans closed))
      next => cases read
  next =>
    rw [Percent.decode_append blank, bind_eq_ok] at read
    obtain ⟨name, ascii, _⟩ := read
    exact toAscii_of_blank blank _ _ ascii

end UrlHost

namespace Url

/-- The blank at the end of a host and a port is at the end of the port, if there is one. -/
theorem splitPort_append (inBrackets : Bool) (text : List Char) :
    (splitPort inBrackets (text ++ [last])).1 = (splitPort inBrackets text).1 ++ [last] ∨
      ∃ port, (splitPort inBrackets (text ++ [last])).2 = some (port ++ [last]) := by
  have other : last ≠ ':' := ne_of_blank blank (by decide)
  induction text generalizing inBrackets with
  | nil => exact .inl (by simp [splitPort, other])
  | cons c rest ih =>
    simp only [List.cons_append, splitPort]
    split
    · exact .inr ⟨rest, rfl⟩
    · rcases ih (c = '[' || (inBrackets && c ≠ ']')) with host | ⟨port, some⟩
      · exact .inl (by rw [host]; rfl)
      · exact .inr ⟨port, some⟩

theorem readPort_of_blank (scheme port : List Char) (number : Option Nat) :
    readPort scheme (port ++ [last]) ≠ .ok number := by
  have noDigits : (port ++ [last]).all Char.isDigit = false := by
    simp [isDigit_of_blank blank]
  simp [readPort, noDigits]

theorem readHostAndPort_of_blank {scheme text : List Char} {user authority : Authority}
    (web : SchemeKind.ofScheme scheme = .web) (noBackslash : '\\' ∉ text) :
    readHostAndPort scheme user (text ++ [last]) ≠ .ok authority := by
  intro read
  unfold readHostAndPort at read
  simp only [web, SchemeKind.isSpecial, Bool.true_and, if_true] at read
  split at read
  · cases read
  next filled =>
    rw [bind_eq_ok] at read
    obtain ⟨host, own, read⟩ := read
    rcases splitPort_append blank false text with hostText | ⟨port, portText⟩
    · rw [hostText] at own
      exact UrlHost.parseSpecial_of_blank blank _ host own
    · have whole : (port ++ [last]).takeWhile (· ≠ '\\') = port ++ [last] := by
        refine List.takeWhile_eq_self_iff.mpr fun c member => decide_eq_true ?_
        rintro rfl
        rcases List.mem_append.mp (mem_of_splitPort portText '\\' member) with own | same
        · exact noBackslash own
        · exact ne_of_blank blank (by decide) (List.mem_singleton.mp same).symm
      simp only [filled, Bool.false_and, if_false, Bool.false_eq_true, portText, whole] at read
      rw [bind_eq_ok] at read
      obtain ⟨number, own, _⟩ := read
      exact readPort_of_blank blank scheme port number own

theorem splitUserInfo_append (text : List Char) :
    splitUserInfo (text ++ [last]) =
      (splitUserInfo text).map fun parts => (parts.1, parts.2 ++ [last]) := by
  have other : last ≠ '@' := ne_of_blank blank (by decide)
  have behind : (text ++ [last]).reverse.dropWhile (· ≠ '@') = text.reverse.dropWhile (· ≠ '@') := by
    simp [other]
  unfold splitUserInfo
  rw [behind]
  split
  · rfl
  next before sign found =>
    have shorter := (List.dropWhile_suffix (· ≠ '@') (l := text.reverse)).length_le
    rw [found, List.length_cons, List.length_reverse] at shorter
    rw [List.drop_append_of_le_length shorter]
    rfl

theorem readAuthority_of_blank {scheme text : List Char} {followed : Bool} {authority : Authority}
    (web : SchemeKind.ofScheme scheme = .web) (noBackslash : '\\' ∉ text) :
    readAuthority scheme (text ++ [last]) followed ≠ .ok authority := by
  intro read
  unfold readAuthority at read
  rw [splitUserInfo_append blank] at read
  split at read
  · exact readHostAndPort_of_blank blank web noBackslash read
  next userInfo rest split =>
    split at read
    · cases read
    · obtain ⟨parts, own, same⟩ := Option.map_eq_some_iff.mp split
      cases same
      refine readHostAndPort_of_blank blank web (fun member => noBackslash ?_) read
      exact mem_of_splitUserInfo own _ member

end Url

end ODataTable
