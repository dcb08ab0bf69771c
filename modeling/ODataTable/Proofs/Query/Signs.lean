import ODataTable.Proofs.Query.Parameters

/-! What is written for each octet of a query.

A query is a row of signs: the octets of its names and values, and the marks between them. Each sign
has a text of its own, and a percent sign stands only where such a text begins. So the escape of a
space is never found across two signs, and replacing it does not reach any other sign.
-/

set_option autoImplicit false

namespace ODataTable

namespace Form

inductive Sign where
  | octet (value : UInt8)
  | equals
  | ampersand
  deriving DecidableEq, Repr

def unreserved : List Char :=
  "ABCDEFGHIJKLMNOPQRSTUVWXYZabcdefghijklmnopqrstuvwxyz0123456789-_.~".toList

def escape (octet : UInt8) : List Char :=
  ['%', (Nat.digitChar (octet.toNat / 16)).toUpper, (Nat.digitChar (octet.toNat % 16)).toUpper]

/-- A space is written in the given way, any other octet as its character or as its escape. -/
def Sign.text (spaces : SpaceEncoding) : Sign → List Char
  | .octet value =>
    if value = 0x20 then spaces.space
    else if Char.ofNat value.toNat ∈ unreserved then [Char.ofNat value.toNat]
    else escape value
  | .equals => ['=']
  | .ampersand => ['&']

def writeSigns (spaces : SpaceEncoding) (signs : List Sign) : List Char :=
  signs.flatMap (Sign.text spaces)

def partSigns (text : String) : List Sign :=
  text.toUTF8.data.toList.map .octet

def pairSigns (pair : String × String) : List Sign :=
  partSigns pair.1 ++ .equals :: partSigns pair.2

def signs (pairs : List (String × String)) : List Sign :=
  List.intercalate [.ampersand] (pairs.map pairSigns)

@[simp] theorem writeSigns_cons (spaces : SpaceEncoding) (sign : Sign) (rest : List Sign) :
    writeSigns spaces (sign :: rest) = sign.text spaces ++ writeSigns spaces rest :=
  List.flatMap_cons

@[simp] theorem writeSigns_append (spaces : SpaceEncoding) (first second : List Sign) :
    writeSigns spaces (first ++ second) = writeSigns spaces first ++ writeSigns spaces second :=
  List.flatMap_append

theorem mem_unreserved_iff {c : Char} : c ∈ unreserved ↔ Percent.componentSet c = false := by
  constructor
  · intro member
    have table : unreserved.all (fun c => !Percent.componentSet c) = true := by decide +kernel
    simpa using List.all_eq_true.mp table c member
  · intro kept
    have table : ∀ n < 0x80, Percent.componentSet (Char.ofNat n) = false →
        Char.ofNat n ∈ unreserved := by decide +kernel
    have ascii := Percent.lt_of_componentSet kept
    rw [← Char.ofNat_toNat c] at kept ⊢
    exact table c.toNat ascii kept

theorem lt_of_mem_unreserved {c : Char} (member : c ∈ unreserved) : c.toNat < 0x80 :=
  Percent.lt_of_componentSet (mem_unreserved_iff.mp member)

theorem escape_eq (octet : UInt8) : escape octet = Percent.encodeOctet octet := by
  have table : ∀ n < 16, (Nat.digitChar n).toUpper = Percent.hexDigit n := by decide
  have size := octet.toNat_lt
  rw [escape, table (octet.toNat / 16) (by omega), table (octet.toNat % 16) (by omega)]
  rfl

theorem text_unreserved (spaces : SpaceEncoding) {value : UInt8}
    (kept : Char.ofNat value.toNat ∈ unreserved) :
    (Sign.octet value).text spaces = [Char.ofNat value.toNat] := by
  have other : value ≠ 0x20 := by
    rintro rfl
    exact absurd (mem_unreserved_iff.mp kept) (by decide)
  rw [Sign.text, if_neg other, if_pos kept]

theorem text_escaped (spaces : SpaceEncoding) {value : UInt8} (other : value ≠ 0x20)
    (escaped : Char.ofNat value.toNat ∉ unreserved) :
    (Sign.octet value).text spaces = Percent.encodeOctet value := by
  rw [Sign.text, if_neg other, if_neg escaped, escape_eq]

/-- Only a space is written in two ways. Any other sign is one character, or the escape of its
octet. -/
theorem text_cases (sign : Sign) :
    sign = .octet 0x20 ∨
      (∃ c, c ≠ '%' ∧ c ≠ '+' ∧ ∀ spaces, sign.text spaces = [c]) ∨
      ∃ value : UInt8, value ≠ 0x20 ∧ ∀ spaces, sign.text spaces = Percent.encodeOctet value := by
  cases sign with
  | octet value =>
    by_cases space : value = 0x20
    · exact .inl (congrArg Sign.octet space)
    by_cases kept : Char.ofNat value.toNat ∈ unreserved
    · have other : ∀ c, Percent.componentSet c = true → Char.ofNat value.toNat ≠ c := by
        rintro c encoded rfl
        rw [mem_unreserved_iff, encoded] at kept
        cases kept
      exact .inr (.inl ⟨_, other '%' (by decide), other '+' (by decide),
        fun spaces => text_unreserved spaces kept⟩)
    · exact .inr (.inr ⟨value, space, fun spaces => text_escaped spaces space kept⟩)
  | equals => exact .inr (.inl ⟨'=', by decide, by decide, fun _ => rfl⟩)
  | ampersand => exact .inr (.inl ⟨'&', by decide, by decide, fun _ => rfl⟩)

theorem text_of_mem_encodeChar (spaces : SpaceEncoding) {c : Char} (other : c ≠ ' ')
    (encoded : Percent.componentSet c = true) :
    ∀ value ∈ Utf8.encodeChar c, (Sign.octet value).text spaces = Percent.encodeOctet value := by
  intro value member
  have noSpace := Utf8.space_not_mem_encodeChar other value member
  refine text_escaped spaces (fun same => noSpace (by rw [same]; rfl)) fun kept => ?_
  rcases Nat.lt_or_ge c.toNat 0x80 with single | more
  · rw [Utf8.encodeChar_of_ascii single, List.mem_singleton] at member
    rw [member, Utf8.toNat_toUInt8 _ (by omega), Char.ofNat_toNat, mem_unreserved_iff,
      encoded] at kept
    cases kept
  · have least := Utf8.le_of_mem_encodeChar more value member
    have size := value.toNat_lt
    have valid : value.toNat.isValidChar := .inl (by omega)
    have code := Utf8.toNat_ofNat valid
    have ascii := lt_of_mem_unreserved kept
    omega

theorem writeSigns_encodeChar (spaces : SpaceEncoding) (c : Char) :
    writeSigns spaces ((Utf8.encodeChar c).map .octet) =
      if c = ' ' then spaces.space else Percent.encode Percent.componentSet [c] := by
  rw [writeSigns, List.flatMap_map]
  by_cases space : c = ' '
  · subst space
    exact List.append_nil _
  rw [if_neg space]
  cases encoded : Percent.componentSet c with
  | true =>
    have octets : Percent.encode Percent.componentSet [c] =
        (Utf8.encodeChar c).flatMap Percent.encodeOctet := by
      simp [Percent.encode, encoded, Percent.encodeChar]
    rw [octets]
    exact List.flatMap_congr (text_of_mem_encodeChar spaces space encoded)
  | false =>
    have kept := mem_unreserved_iff.mpr encoded
    have ascii := lt_of_mem_unreserved kept
    have back : Char.ofNat c.toNat.toUInt8.toNat = c := by
      rw [Utf8.toNat_toUInt8 _ (by omega), Char.ofNat_toNat]
    have text := @text_unreserved spaces c.toNat.toUInt8 (by rw [back]; exact kept)
    rw [Utf8.encodeChar_of_ascii ascii, Percent.encode_of_none (by simpa using encoded),
      List.flatMap_singleton, text, back]

theorem writeSigns_partSigns (spaces : SpaceEncoding) (text : String) :
    writeSigns spaces (partSigns text) = encodePartWith spaces text.toList := by
  rw [partSigns, ← Utf8.encode_toList, Utf8.encode, List.map_flatMap, writeSigns,
    List.flatMap_assoc]
  exact List.flatMap_congr fun c _ => writeSigns_encodeChar spaces c

theorem writeSigns_pairSigns (spaces : SpaceEncoding) (pair : String × String) :
    writeSigns spaces (pairSigns pair) = encodePairWith spaces pair := by
  rw [pairSigns, writeSigns_append, writeSigns_cons, writeSigns_partSigns, writeSigns_partSigns]
  rfl

theorem writeSigns_signs (spaces : SpaceEncoding) (pairs : List (String × String)) :
    writeSigns spaces (signs pairs) = writeWith spaces pairs := by
  rw [writeSigns, signs, flatMap_intercalate, List.map_map, writeWith]
  have each : List.flatMap (Sign.text spaces) ∘ pairSigns = encodePairWith spaces :=
    funext (writeSigns_pairSigns spaces)
  rw [each]
  rfl

/-- Behind its first character the text of a sign has no percent sign. -/
theorem text_begins (spaces : SpaceEncoding) (sign : Sign) :
    ∃ c tail, sign.text spaces = c :: tail ∧ '%' ∉ tail := by
  rcases text_cases sign with rfl | ⟨c, _, _, text⟩ | ⟨value, _, text⟩
  · cases spaces with
    | plus => exact ⟨'+', [], rfl, List.not_mem_nil⟩
    | percent => exact ⟨'%', ['2', '0'], rfl, by decide⟩
  · exact ⟨c, [], text spaces, List.not_mem_nil⟩
  · refine ⟨_, _, text spaces, fun member => ?_⟩
    have size := value.toNat_lt
    have high := Percent.hexDigit_ne_percent (value.toNat / 16) (by omega)
    have low := Percent.hexDigit_ne_percent (value.toNat % 16) (by omega)
    simp only [List.mem_cons, List.not_mem_nil, or_false] at member
    rcases member with same | same
    · exact high same.symm
    · exact low same.symm

/-- Where a percent sign stands in a query, the text of a sign begins. -/
theorem percent_begins {spaces : SpaceEncoding} {signs : List Sign} {front rest : List Char}
    (same : writeSigns spaces signs = front ++ '%' :: rest) :
    ∃ before sign after, signs = before ++ sign :: after ∧ front = writeSigns spaces before ∧
      '%' :: rest = sign.text spaces ++ writeSigns spaces after := by
  induction signs generalizing front with
  | nil => simp [writeSigns] at same
  | cons sign signs ih =>
    obtain ⟨c, tail, text, free⟩ := text_begins spaces sign
    rw [writeSigns_cons, text, List.cons_append] at same
    cases front with
    | nil => exact ⟨[], sign, signs, rfl, rfl, by rw [text]; exact same.symm⟩
    | cons d front =>
      rw [List.cons_append, List.cons.injEq] at same
      obtain ⟨behind, rfl, later⟩ := append_of_not_mem free same.2
      obtain ⟨before, next, after, rfl, rfl, begins⟩ := ih later
      exact ⟨sign :: before, next, after, rfl, by rw [writeSigns_cons, text, same.1]; rfl, begins⟩

/-- The escape of a space in a query is the text of a space, and spaces are escaped. -/
theorem space_of_escape {spaces : SpaceEncoding} {sign : Sign} {rest more : List Char}
    (same : '%' :: '2' :: '0' :: rest = sign.text spaces ++ more) :
    spaces = .percent ∧ sign = .octet 0x20 ∧ rest = more := by
  rcases text_cases sign with rfl | ⟨c, other, _, text⟩ | ⟨value, other, text⟩
  · cases spaces with
    | plus => exact absurd (List.head_eq_of_cons_eq same) (by decide)
    | percent => exact ⟨rfl, rfl, (List.append_right_inj ['%', '2', '0']).mp same⟩
  · rw [text] at same
    exact absurd (List.head_eq_of_cons_eq same).symm other
  · -- Both texts are escapes, so they are decoded to the same octet.
    have decoded := congrArg Percent.decode same
    rw [text, Percent.decode_encodeOctet] at decoded
    have octet := (Percent.decode_encodeOctet 0x20 rest).symm.trans decoded
    exact absurd (List.head_eq_of_cons_eq octet).symm other

/-- Wherever the escape of a space is found in a query, a space was written. -/
theorem escape_begins_space {spaces : SpaceEncoding} {signs : List Sign} {front rest : List Char}
    (same : writeSigns spaces signs = front ++ '%' :: '2' :: '0' :: rest) :
    spaces = .percent ∧ ∃ before after, signs = before ++ .octet 0x20 :: after ∧
      front = writeSigns spaces before ∧ rest = writeSigns spaces after := by
  obtain ⟨before, sign, after, split, text, begins⟩ := percent_begins same
  obtain ⟨escaped, rfl, behind⟩ := space_of_escape begins
  exact ⟨escaped, before, after, split, text, behind⟩

def escapeForPluses (text : List Char) : List Char :=
  text.flatMap fun c => if c = '+' then "%20".toList else [c]

theorem plus_not_mem_text (sign : Sign) : '+' ∉ sign.text .percent := by
  rcases text_cases sign with rfl | ⟨c, _, other, text⟩ | ⟨value, _, text⟩
  · decide
  · rw [text, List.mem_singleton]
    exact other.symm
  · rw [text]
    intro member
    rcases Percent.mem_encodeOctet member with same | letter
    · exact absurd same (by decide)
    · exact absurd letter (by decide)

theorem plus_not_mem_writeSigns (signs : List Sign) : '+' ∉ writeSigns .percent signs := by
  intro member
  obtain ⟨sign, _, inside⟩ := List.mem_flatMap.mp member
  exact plus_not_mem_text sign inside

theorem escapeForPluses_of_free {text : List Char} (free : '+' ∉ text) :
    escapeForPluses text = text := by
  have kept : ∀ c ∈ text, (if c = '+' then "%20".toList else [c]) = [c] := by
    intro c member
    have other : c ≠ '+' := fun same => free (same ▸ member)
    exact if_neg other
  exact (List.flatMap_congr kept).trans (List.flatMap_singleton' text)

theorem escapeForPluses_text (sign : Sign) :
    escapeForPluses (sign.text .plus) = sign.text .percent := by
  have free := plus_not_mem_text sign
  rcases text_cases sign with rfl | ⟨c, _, _, text⟩ | ⟨value, _, text⟩
  · rfl
  all_goals
    rw [text] at free ⊢
    rw [text, escapeForPluses_of_free free]

/-- Escaping the plus signs of a query writes the query with escaped spaces. -/
theorem escapeForPluses_writeSigns (signs : List Sign) :
    escapeForPluses (writeSigns .plus signs) = writeSigns .percent signs := by
  rw [escapeForPluses, writeSigns, List.flatMap_assoc]
  exact List.flatMap_congr fun sign _ => escapeForPluses_text sign

end Form

namespace Address

/-- The parameters of a query are written octet by octet, in stable order of their names: a space in
the chosen way, and any other octet as itself or as its escape. Where spaces are escaped, the escape
of a space is found at spaces only, and there is no plus. Where they are plus signs, it is not found
at all, and escaping each plus gives the other text back. -/
theorem encodeParameters_octetwise (pairs : List (String × String)) :
    ∃ sorted, SortedByName pairs sorted ∧
      (∀ spaces, encodeParameters pairs spaces = Form.writeSigns spaces (Form.signs sorted)) ∧
      (∀ front rest, encodeParameters pairs .percent = front ++ "%20".toList ++ rest →
        ∃ before after, Form.signs sorted = before ++ .octet 0x20 :: after ∧
          front = Form.writeSigns .percent before ∧ rest = Form.writeSigns .percent after) ∧
      ¬ "%20".toList <:+: encodeParameters pairs .plus ∧
      '+' ∉ encodeParameters pairs .percent ∧
      Form.escapeForPluses (encodeParameters pairs .plus) = encodeParameters pairs .percent := by
  have written : ∀ spaces, encodeParameters pairs spaces =
      Form.writeSigns spaces (Form.signs (sortByName pairs)) := by
    intro spaces
    rw [encodeParameters_eq, Form.writeSigns_signs]
  refine ⟨sortByName pairs, sortByName_sorted pairs, written, ?_, ?_, ?_, ?_⟩
  · intro front rest same
    rw [written, List.append_assoc] at same
    exact (Form.escape_begins_space same).2
  · rintro ⟨front, rest, same⟩
    rw [written, List.append_assoc] at same
    cases (Form.escape_begins_space same.symm).1
  · rw [written]
    exact Form.plus_not_mem_writeSigns _
  · rw [written, written, Form.escapeForPluses_writeSigns]

/-- A text that looks like the escape of a space stays what it is, and so does a plus. -/
theorem encodeParameters_octetwise_literal :
    encodeParameters [("a b", "%20+")] .plus = "a+b=%2520%2B".toList ∧
      encodeParameters [("a b", "%20+")] .percent = "a%20b=%2520%2B".toList := by
  obtain ⟨sorted, stable, written, _⟩ := encodeParameters_octetwise [("a b", "%20+")]
  rw [List.perm_singleton.mp stable.perm] at written
  exact ⟨(written .plus).trans (by decide +kernel), (written .percent).trans (by decide +kernel)⟩

end Address

end ODataTable
