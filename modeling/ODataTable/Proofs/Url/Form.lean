import ODataTable.Proofs.Text.Split
import ODataTable.Proofs.Url.Percent
import ODataTable.Service.Settings
import ODataTable.Url.Form

/-! The query of a URL gives back the pairs that were written into it.

Both ways to write a space are told by one function, which takes the text of a space. Replacing
escaped spaces in a finished query is shown to be the same as writing the other text at once,
since an escape begins at every percent sign of the query and nowhere else.
-/

set_option autoImplicit false

namespace ODataTable

def SpaceEncoding.space : SpaceEncoding → List Char
  | .plus => ['+']
  | .percent => ['%', '2', '0']

namespace Form

def encodePartWith (spaces : SpaceEncoding) (text : List Char) : List Char :=
  text.flatMap fun c => if c = ' ' then spaces.space else Percent.encode Percent.componentSet [c]

def encodePairWith (spaces : SpaceEncoding) (pair : String × String) : List Char :=
  encodePartWith spaces pair.1.toList ++ '=' :: encodePartWith spaces pair.2.toList

def writeWith (spaces : SpaceEncoding) (pairs : List (String × String)) : List Char :=
  List.intercalate ['&'] (pairs.map (encodePairWith spaces))

theorem encodePartWith_cons (spaces : SpaceEncoding) (c : Char) (text : List Char) :
    encodePartWith spaces (c :: text) =
      (if c = ' ' then spaces.space else Percent.encode Percent.componentSet [c]) ++
        encodePartWith spaces text :=
  List.flatMap_cons

theorem encodePartWith_percent (text : List Char) :
    encodePartWith .percent text = Percent.encode Percent.componentSet text := by
  have escaped : Percent.encode Percent.componentSet [' '] = ['%', '2', '0'] := by decide
  induction text with
  | nil => rfl
  | cons c text ih =>
    rw [encodePartWith_cons, ih]
    by_cases space : c = ' '
    · subst space
      rw [if_pos rfl, SpaceEncoding.space, ← escaped]
      simp [Percent.encode]
    · simp [Percent.encode, space]

theorem writeWith_percent (pairs : List (String × String)) : writeWith .percent pairs = write pairs := by
  have parts : encodePairWith .percent = encodePair := by
    funext pair
    simp only [encodePairWith, encodePair, encodePart, encodePartWith_percent]
  rw [writeWith, write, parts]

theorem plusForSpaces_cons {c : Char} (plain : c ≠ '%') (rest : List Char) :
    plusForSpaces (c :: rest) = c :: plusForSpaces rest := by
  rw [plusForSpaces]
  intro tail same
  exact absurd same plain

theorem plusForSpaces_encodeOctet {octet : UInt8} (other : octet.toNat ≠ 0x20) (rest : List Char) :
    plusForSpaces (Percent.encodeOctet octet ++ rest) =
      Percent.encodeOctet octet ++ plusForSpaces rest := by
  have size := octet.toNat_lt
  have high : octet.toNat / 16 < 16 := by omega
  have low : octet.toNat % 16 < 16 := by omega
  -- The digits after the percent sign are a two and a zero for no other octet.
  have noSpace : ∀ tail, Percent.hexDigit (octet.toNat / 16) ::
      Percent.hexDigit (octet.toNat % 16) :: rest ≠ '2' :: '0' :: tail := by
    intro tail same
    simp only [List.cons.injEq] at same
    have highValue := Percent.digit?_hexDigit _ high
    have lowValue := Percent.digit?_hexDigit _ low
    rw [same.1] at highValue
    rw [same.2.1] at lowValue
    have two := Option.some.inj (highValue.symm.trans (by decide : Radix.digit? '2' = some 2))
    have zero := Option.some.inj (lowValue.symm.trans (by decide : Radix.digit? '0' = some 0))
    omega
  simp only [Percent.encodeOctet, List.cons_append, List.nil_append]
  rw [plusForSpaces, plusForSpaces_cons (Percent.hexDigit_ne_percent _ high),
    plusForSpaces_cons (Percent.hexDigit_ne_percent _ low)]
  intro tail _ same
  exact noSpace tail same

theorem plusForSpaces_encodeOctets {octets : List UInt8} (other : ∀ octet ∈ octets, octet.toNat ≠ 0x20)
    (rest : List Char) :
    plusForSpaces (octets.flatMap Percent.encodeOctet ++ rest) =
      octets.flatMap Percent.encodeOctet ++ plusForSpaces rest := by
  induction octets with
  | nil => rfl
  | cons octet octets ih =>
    have here := other octet List.mem_cons_self
    have after := ih fun next member => other next (List.mem_cons_of_mem _ member)
    rw [List.flatMap_cons, List.append_assoc, plusForSpaces_encodeOctet here, after,
      List.append_assoc]

theorem plusForSpaces_encodePartWith (text rest : List Char) :
    plusForSpaces (encodePartWith .percent text ++ rest) =
      encodePartWith .plus text ++ plusForSpaces rest := by
  induction text with
  | nil => rfl
  | cons c text ih =>
    rw [encodePartWith_cons, encodePartWith_cons, List.append_assoc, List.append_assoc, ← ih]
    by_cases space : c = ' '
    · rw [if_pos space, if_pos space]
      simp only [SpaceEncoding.space, List.cons_append, List.nil_append, plusForSpaces]
    rw [if_neg space, if_neg space]
    by_cases encoded : Percent.componentSet c = true
    · have octets : Percent.encode Percent.componentSet [c] =
          (Utf8.encodeChar c).flatMap Percent.encodeOctet := by
        simp [Percent.encode, encoded, Percent.encodeChar]
      rw [octets]
      exact plusForSpaces_encodeOctets (Utf8.space_not_mem_encodeChar space) _
    · have plain : c ≠ '%' := fun same => encoded (same ▸ by decide)
      have single : Percent.encode Percent.componentSet [c] = [c] := by
        simp [Percent.encode, encoded]
      rw [single]
      exact plusForSpaces_cons plain _

theorem plusForSpaces_encodePairWith (pair : String × String) (rest : List Char) :
    plusForSpaces (encodePairWith .percent pair ++ rest) =
      encodePairWith .plus pair ++ plusForSpaces rest := by
  simp only [encodePairWith, List.append_assoc, List.cons_append]
  rw [plusForSpaces_encodePartWith, plusForSpaces_cons (by decide), plusForSpaces_encodePartWith]

theorem plusForSpaces_write (pairs : List (String × String)) :
    plusForSpaces (write pairs) = writeWith .plus pairs := by
  rw [← writeWith_percent]
  unfold writeWith
  induction pairs with
  | nil => rfl
  | cons pair rest ih =>
    cases rest with
    | nil =>
      have alone := plusForSpaces_encodePairWith pair []
      simpa [plusForSpaces] using alone
    | cons next rest =>
      simp only [List.map_cons, List.intercalate_cons_cons, List.append_assoc,
        List.singleton_append] at ih ⊢
      rw [plusForSpaces_encodePairWith, plusForSpaces_cons (by decide), ih]

theorem mem_encodePartWith {spaces : SpaceEncoding} {text : List Char} {c : Char}
    (member : c ∈ encodePartWith spaces text) :
    c = '+' ∨ c = '%' ∨ Percent.componentSet c = false := by
  simp only [encodePartWith, List.mem_flatMap] at member
  obtain ⟨d, _, member⟩ := member
  by_cases space : d = ' '
  · rw [if_pos space] at member
    cases spaces with
    | plus => exact .inl (List.mem_singleton.mp member)
    | percent =>
      simp only [SpaceEncoding.space, List.mem_cons, List.not_mem_nil, or_false] at member
      rcases member with rfl | rfl | rfl <;> decide
  · rw [if_neg space] at member
    exact .inr (Percent.mem_encode (fun _ => Percent.componentSet_of_isAlphanum) member)

theorem not_mem_encodePartWith {spaces : SpaceEncoding} {text : List Char} {c : Char}
    (other : c ≠ '+' ∧ c ≠ '%') (encoded : Percent.componentSet c = true) :
    c ∉ encodePartWith spaces text := by
  intro member
  rcases mem_encodePartWith member with same | same | kept
  · exact other.1 same
  · exact other.2 same
  · rw [encoded] at kept
    cases kept

theorem ampersand_not_mem_encodePairWith (spaces : SpaceEncoding) (pair : String × String) :
    '&' ∉ encodePairWith spaces pair := by
  intro member
  simp only [encodePairWith, List.mem_append, List.mem_cons] at member
  rcases member with member | same | member
  · exact not_mem_encodePartWith (by decide) (by decide) member
  · exact absurd same (by decide)
  · exact not_mem_encodePartWith (by decide) (by decide) member

theorem mem_writeWith {spaces : SpaceEncoding} {pairs : List (String × String)} {c : Char}
    (member : c ∈ writeWith spaces pairs) :
    c = '&' ∨ c = '=' ∨ c = '+' ∨ c = '%' ∨ Percent.componentSet c = false := by
  have ofPair : ∀ pair, c ∈ encodePairWith spaces pair →
      c = '=' ∨ c = '+' ∨ c = '%' ∨ Percent.componentSet c = false := by
    intro pair member
    simp only [encodePairWith, List.mem_append, List.mem_cons] at member
    rcases member with member | same | member
    · exact .inr (mem_encodePartWith member)
    · exact .inl same
    · exact .inr (mem_encodePartWith member)
  rcases mem_of_mem_intercalate member with same | ⟨part, written, inside⟩
  · exact .inl same
  · obtain ⟨pair, _, rfl⟩ := List.mem_map.mp written
    exact .inr (ofPair pair inside)

/-- A plus is read as a space. -/
def plainSpaces (text : List Char) : List Char :=
  text.map fun c => if c = '+' then ' ' else c

theorem plainSpaces_encode (text : List Char) :
    plainSpaces (Percent.encode Percent.componentSet text) = Percent.encode Percent.componentSet text := by
  have kept : ∀ c ∈ Percent.encode Percent.componentSet text, (if c = '+' then ' ' else c) = c := by
    intro c member
    refine if_neg fun same => ?_
    subst same
    rcases Percent.mem_encode (fun _ => Percent.componentSet_of_isAlphanum) member with same | plain
    · exact absurd same (by decide)
    · exact absurd plain (by decide)
  exact (List.map_congr_left kept).trans (List.map_id _)

theorem decode_space (spaces : SpaceEncoding) (rest : List Char) :
    Percent.decode (plainSpaces spaces.space ++ rest) = Utf8.encodeChar ' ' ++ Percent.decode rest := by
  cases spaces with
  | plus => exact Percent.decode_cons (by decide) rest
  | percent => exact Percent.decode_encodeOctet 0x20 rest

theorem decode_encodePartWith (spaces : SpaceEncoding) (text : List Char) :
    Percent.decode (plainSpaces (encodePartWith spaces text)) = Utf8.encode text := by
  induction text with
  | nil => rfl
  | cons c text ih =>
    rw [encodePartWith_cons, plainSpaces, List.map_append, Utf8.encode_cons, ← ih]
    by_cases space : c = ' '
    · rw [if_pos space, space]
      exact decode_space spaces _
    · -- An encoded character holds no plus, so nothing in it is taken for a space.
      have kept := plainSpaces_encode [c]
      have decoded := Percent.decode_encode (by decide : Percent.componentSet '%' = true) [c]
      rw [if_neg space]
      simp only [plainSpaces] at kept
      rw [kept, decoded, Utf8.encode_cons, List.append_assoc]
      rfl

/-- A name or a value is read back as it was, in both ways to write a space. -/
theorem decodePart_encodePartWith (spaces : SpaceEncoding) (text : List Char) :
    decodePart (encodePartWith spaces text) = text := by
  have octets := decode_encodePartWith spaces text
  rw [plainSpaces] at octets
  rw [decodePart, octets, Utf8.decodeLossy_encode]

theorem splitPair_encodePairWith (spaces : SpaceEncoding) (pair : String × String) :
    splitPair (encodePairWith spaces pair) =
      (encodePartWith spaces pair.1.toList, encodePartWith spaces pair.2.toList) := by
  have free : ∀ c ∈ encodePartWith spaces pair.1.toList, decide (c = '=') = false := by
    intro c member
    have other : c ≠ '=' := fun same =>
      not_mem_encodePartWith (by decide) (by decide) (same ▸ member)
    simp [other]
  rw [splitPair, encodePairWith, cutWhere_append_cons free (by decide)]
  rfl

/-- The pairs of a query are read back as they were written: none is lost, added or merged. -/
theorem parse_writeWith (spaces : SpaceEncoding) (pairs : List (String × String)) :
    parse (writeWith spaces pairs) = pairs := by
  cases pairs with
  | nil => rfl
  | cons pair rest =>
    -- An ampersand separates pairs only, and no pair is empty, so each part is one pair.
    have free : ∀ part ∈ (pair :: rest).map (encodePairWith spaces),
        ∀ c ∈ part, decide (c = '&') = false := by
      intro part member c inside
      obtain ⟨one, _, rfl⟩ := List.mem_map.mp member
      have other : c ≠ '&' := fun same =>
        ampersand_not_mem_encodePairWith spaces one (same ▸ inside)
      simp [other]
    have filled : ∀ part ∈ (pair :: rest).map (encodePairWith spaces), (!part.isEmpty) = true := by
      intro part member
      obtain ⟨one, _, rfl⟩ := List.mem_map.mp member
      simp [encodePairWith]
    have back : ∀ one : String × String,
        (fun text => (String.ofList (decodePart (splitPair text).1),
          String.ofList (decodePart (splitPair text).2))) (encodePairWith spaces one) = one := by
      intro one
      simp only [splitPair_encodePairWith, decodePart_encodePartWith, String.ofList_toList]
    rw [parse, writeWith, splitWhere_intercalate (by decide) (by simp) free,
      List.filter_eq_self.mpr filled, List.map_map]
    exact (List.map_congr_left fun one _ => back one).trans (List.map_id _)

end Form

end ODataTable
