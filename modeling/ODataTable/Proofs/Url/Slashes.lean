import Mathlib.Data.List.DropRight
import ODataTable.Proofs.Url.Refused
import ODataTable.Proofs.Url.Verbatim

/-! Slashes taken off the end of the text of a URL.

What stands at the end of a text belongs to its fragment, to its query or to its path, whichever
comes last. Blanks before the slashes are no longer inside once these are gone, so that they are
dropped with them.
-/

set_option autoImplicit false

namespace ODataTable.Url

def isBlank (c : Char) : Bool := c.toNat ≤ 0x20

/-- What is read of a text: all of it but the blanks around it and the breaks in it. -/
def shown (text : List Char) : List Char := dropBreaks (trim text)

theorem dropBreaks_append (first second : List Char) :
    dropBreaks (first ++ second) = dropBreaks first ++ dropBreaks second := List.filter_append _ _

section Ends

variable {text : List Char} (visible : ∃ c ∈ text, isBlank c = false)
include visible

theorem dropWhile_isBlank_append (added : List Char) :
    (text ++ added).dropWhile isBlank = text.dropWhile isBlank ++ added := by
  obtain ⟨c, member, plain⟩ := visible
  have some : text.dropWhile isBlank ≠ [] := by
    intro none
    rw [List.dropWhile_eq_nil_iff.mp none c member] at plain
    cases plain
  exact dropWhile_append_of_reached some added

theorem rtakeWhile_dropWhile_isBlank :
    (text.dropWhile isBlank).rtakeWhile isBlank = text.rtakeWhile isBlank := by
  obtain ⟨c, member, plain⟩ := visible
  have cut : text.takeWhile isBlank ++ text.dropWhile isBlank = text :=
    List.takeWhile_append_dropWhile
  have inside : c ∈ (text.dropWhile isBlank).reverse := by
    rw [← cut] at member
    refine List.mem_reverse.mpr ((List.mem_append.mp member).resolve_left fun front => ?_)
    exact absurd (List.mem_takeWhile_imp front) (by simp [plain])
  have stops : (text.dropWhile isBlank).reverse.dropWhile isBlank ≠ [] := by
    intro none
    exact absurd (List.dropWhile_eq_nil_iff.mp none c inside) (by simp [plain])
  calc (text.dropWhile isBlank).rtakeWhile isBlank
      = (text.takeWhile isBlank ++ text.dropWhile isBlank).rtakeWhile isBlank := by
        rw [List.rtakeWhile, List.rtakeWhile, List.reverse_append,
          takeWhile_append_of_reached stops]
    _ = text.rtakeWhile isBlank := by rw [cut]

theorem trim_append_endBlanks :
    trim text ++ text.rtakeWhile isBlank = text.dropWhile isBlank := by
  rw [← rtakeWhile_dropWhile_isBlank visible]
  exact List.rdropWhile_append_rtakeWhile

/-- The slashes at the end of a text keep the blanks before them inside. -/
theorem shown_append_slashes {slashes : List Char} (some : slashes ≠ [])
    (same : ∀ c ∈ slashes, c = '/') :
    shown (text ++ slashes) = shown text ++ dropBreaks (text.rtakeWhile isBlank) ++ slashes := by
  have whole : trim (text ++ slashes) = text.dropWhile isBlank ++ slashes := by
    have last : ¬ isBlank ((text.dropWhile isBlank ++ slashes).getLast (by simp [some])) = true := by
      rw [List.getLast_append_of_ne_nil _ some, same _ (List.getLast_mem some)]
      decide
    have kept : (text.dropWhile isBlank ++ slashes).rdropWhile isBlank =
        text.dropWhile isBlank ++ slashes :=
      List.rdropWhile_eq_self_iff.mpr fun _ => last
    rw [← dropWhile_isBlank_append visible] at kept ⊢
    exact kept
  have unbroken : dropBreaks slashes = slashes := by
    refine dropBreaks_of_unbroken fun c member => ?_
    rw [same c member]
    decide
  rw [shown, whole, ← trim_append_endBlanks visible, dropBreaks_append, dropBreaks_append, unbroken]
  rfl

end Ends

theorem splitScheme_eq_some {text scheme rest : List Char}
    (split : splitScheme text = some (scheme, rest)) :
    ∃ c tail, text = c :: tail ∧ c.isAlpha = true ∧ text.dropWhile isSchemeChar = ':' :: rest ∧
      scheme = (text.takeWhile isSchemeChar).map Char.toLower := by
  unfold splitScheme at split
  split at split
  next c tail =>
    split at split
    next alpha =>
      split at split
      next rest' found =>
        cases split
        exact ⟨c, tail, rfl, alpha, found, rfl⟩
      · cases split
    · cases split
  · cases split

theorem splitScheme_append {text added scheme rest : List Char} (noColon : ':' ∉ added)
    (split : splitScheme (text ++ added) = some (scheme, rest)) :
    ∃ front, splitScheme text = some (scheme, front) ∧ rest = front ++ added := by
  obtain ⟨c, tail, whole, alpha, behind, rfl⟩ := splitScheme_eq_some split
  -- Otherwise the colon would be found in what is added.
  have reached : text.dropWhile isSchemeChar ≠ [] := by
    intro none
    rw [List.dropWhile_append, if_pos (by simpa using none)] at behind
    have colon : ':' ∈ added.dropWhile isSchemeChar := behind ▸ List.mem_cons_self
    exact noColon ((List.dropWhile_suffix isSchemeChar).subset colon)
  have before := takeWhile_append_of_reached reached added
  rw [dropWhile_append_of_reached reached] at behind
  cases text with
  | nil => exact absurd rfl reached
  | cons d front =>
    cases whole
    cases found : (c :: front).dropWhile isSchemeChar with
    | nil => exact absurd found reached
    | cons mark front' =>
      rw [found] at behind
      cases behind
      refine ⟨front', ?_, rfl⟩
      simp only [splitScheme, alpha, if_true, found, before]

theorem mem_of_mem_shown {text : List Char} {c : Char} (member : c ∈ shown text) : c ∈ text := by
  have inside : c ∈ trim text := List.mem_of_mem_filter member
  exact (List.dropWhile_suffix _).subset ((List.rdropWhile_prefix _ _).subset inside)

theorem splitScheme_of_parse {text : List Char} {url : Url} (parsed : parse text = .ok url) :
    ∃ scheme rest, splitScheme (shown text) = some (scheme, rest) := by
  unfold parse at parsed
  split at parsed
  · cases parsed
  next scheme rest split => exact ⟨scheme, rest, split⟩

/-- A URL begins with a letter, which no slash at its end is. -/
theorem visible_of_parse {text slashes : List Char} {url : Url}
    (parsed : parse (text ++ slashes) = .ok url) (same : ∀ c ∈ slashes, c = '/') :
    ∃ c ∈ text, isBlank c = false := by
  obtain ⟨scheme, rest, split⟩ := splitScheme_of_parse parsed
  obtain ⟨c, tail, whole, alpha, _⟩ := splitScheme_eq_some split
  have inside : c ∈ text ++ slashes := mem_of_mem_shown (whole ▸ List.mem_cons_self)
  have letter : c.isAlphanum = true := by simp [Char.isAlphanum, alpha]
  refine ⟨c, (List.mem_append.mp inside).resolve_right fun member => ?_, ?_⟩
  · exact Percent.ne_of_isAlphanum letter (by decide) (same c member)
  · have visible := Percent.toNat_of_isAlphanum letter
    simp only [isBlank, decide_eq_false_iff_not]
    omega

/-- A URL with a query and a fragment, which are escaped. -/
def withEnd (url : Url) (query fragment : Option (List Char)) : Url :=
  let set := if url.kind.isSpecial then Percent.specialQuerySet else Percent.querySet
  { url with
    query := query.map (Percent.encode set)
    fragment := fragment.map (Percent.encode Percent.fragmentSet) }

theorem parse_of_parts {text scheme rest middle front : List Char}
    {query fragment : Option (List Char)} (split : splitScheme (shown text) = some (scheme, rest))
    (atHash : cutWhere (· = '#') rest = (middle, fragment))
    (atMark : cutWhere (· = '?') middle = (front, query)) :
    parse text = (readAfterScheme scheme front (query.isSome || fragment.isSome)).map
      (·.withEnd query fragment) := by
  unfold shown at split
  simp only [parse, split, atHash, atMark]
  rfl

theorem readAuthority_of_followed {scheme text : List Char} {authority : Authority}
    (read : readAuthority scheme text true = .ok authority) (followed : Bool) :
    readAuthority scheme text followed = .ok authority := by
  unfold readAuthority at read ⊢
  split
  next none =>
    rw [none] at read
    exact read
  next userInfo rest some =>
    rw [some] at read
    dsimp only at read
    split at read
    · cases read
    next filled =>
      rw [if_neg]
      · exact read
      · simp_all

theorem readAuthority_nil {scheme : List Char} {followed : Bool} {authority : Authority}
    (web : SchemeKind.ofScheme scheme = .web) : readAuthority scheme [] followed ≠ .ok authority := by
  intro read
  simp [readAuthority, splitUserInfo, readHostAndPort, web, SchemeKind.isSpecial, splitPort] at read

theorem readAfterSlashes_nil {scheme : List Char} {followed : Bool} {url : Url}
    (web : SchemeKind.ofScheme scheme = .web) : readAfterSlashes scheme [] followed ≠ .ok url := by
  intro read
  rw [readAfterSlashes_web web, map_eq_ok] at read
  obtain ⟨authority, read, _⟩ := read
  exact readAuthority_nil web read

theorem blanks_of_readAuthority {scheme text blanks : List Char} {followed : Bool}
    {authority : Authority} (web : SchemeKind.ofScheme scheme = .web) (noBackslash : '\\' ∉ text)
    (blank : ∀ c ∈ blanks, c.toNat ≤ 0x20)
    (read : readAuthority scheme (text ++ blanks) followed = .ok authority) : blanks = [] := by
  rcases List.eq_nil_or_concat' blanks with none | ⟨front, last, rfl⟩
  · exact none
  · have ends := blank last (List.mem_append_right _ List.mem_cons_self)
    rw [← List.append_assoc] at read
    refine absurd read (readAuthority_of_blank ends web fun member => ?_)
    rcases List.mem_append.mp member with own | inside
    · exact noBackslash own
    · exact ne_of_blank (blank _ (List.mem_append_left _ inside)) (by decide) rfl

section Path

variable {scheme rest blanks slashes : List Char} {url : Url}
  (web : SchemeKind.ofScheme scheme = .web) (blank : ∀ c ∈ blanks, c.toNat ≤ 0x20)
  (some : slashes ≠ []) (same : ∀ c ∈ slashes, c = '/')
include web blank some same

theorem readAfterSlashes_append
    (read : readAfterSlashes scheme (rest ++ (blanks ++ slashes)) false = .ok url) :
    ∃ front, url.path = .segments (UrlPath.parse .web (front ++ (blanks ++ slashes))) ∧
      (front = [] → blanks = []) ∧ (∀ c ∈ front.head?, SchemeKind.web.separates c = true) ∧
      readAfterSlashes scheme rest false =
        .ok { url with path := .segments (UrlPath.parse .web front) } := by
  rw [readAfterSlashes_web web] at read ⊢
  by_cases ended : rest.dropWhile (!SchemeKind.web.separates ·) = []
  · -- The slashes are the path, and the blanks would belong to the authority.
    have inside := List.dropWhile_eq_nil_iff.mp ended
    have outside : ∀ c ∈ rest ++ blanks, (!SchemeKind.web.separates c) = true := by
      intro c member
      rcases List.mem_append.mp member with own | added
      · exact inside c own
      · simp [separates_of_blank (blank c added)]
    have path : slashes.dropWhile (!SchemeKind.web.separates ·) = slashes := by
      cases slashes with
      | nil => rfl
      | cons c others =>
        rw [same c List.mem_cons_self]
        rfl
    have none : slashes.takeWhile (!SchemeKind.web.separates ·) = [] := by
      cases slashes with
      | nil => rfl
      | cons c others =>
        rw [same c List.mem_cons_self]
        rfl
    have filled : slashes.isEmpty = false := by simpa using some
    rw [← List.append_assoc, List.takeWhile_append_of_pos outside, none, List.append_nil,
      List.dropWhile_append_of_pos outside, path, filled, map_eq_ok] at read
    obtain ⟨authority, read, rfl⟩ := read
    have noBackslash : '\\' ∉ rest := fun member => absurd (inside _ member) (by decide)
    have noBlanks := blanks_of_readAuthority web noBackslash blank read
    subst noBlanks
    refine ⟨[], rfl, fun _ => rfl, nofun, ?_⟩
    rw [List.append_nil] at read
    rw [ended, List.takeWhile_eq_self_iff.mpr inside, readAuthority_of_followed read]
    rfl
  · rw [takeWhile_append_of_reached ended, dropWhile_append_of_reached ended, map_eq_ok] at read
    obtain ⟨authority, read, rfl⟩ := read
    refine ⟨rest.dropWhile (!SchemeKind.web.separates ·), rfl, fun none => absurd none ended, ?_, ?_⟩
    · intro c first
      have ends := List.head?_dropWhile_not (!SchemeKind.web.separates ·) rest
      rw [Option.mem_def.mp first] at ends
      simpa using ends
    · have filled : (rest.dropWhile (!SchemeKind.web.separates ·)).isEmpty = false := by
        simpa using ended
      rw [filled, Bool.not_false, Bool.or_true]
      have other : (rest.dropWhile (!SchemeKind.web.separates ·) ++ (blanks ++ slashes)).isEmpty =
          false := by simp [ended]
      rw [other, Bool.not_false, Bool.or_true] at read
      rw [read]
      rfl

theorem readAfterScheme_append
    (read : readAfterScheme scheme (rest ++ (blanks ++ slashes)) false = .ok url) :
    ∃ front, url.path = .segments (UrlPath.parse .web (front ++ (blanks ++ slashes))) ∧
      (front = [] → blanks = []) ∧ (∀ c ∈ front.head?, SchemeKind.web.separates c = true) ∧
      readAfterScheme scheme rest false =
        .ok { url with path := .segments (UrlPath.parse .web front) } := by
  simp only [readAfterScheme, web] at read ⊢
  by_cases ended : rest.dropWhile (fun c => c = '/' || c = '\\') = []
  · -- Without the blanks nothing is left, and with them no more is read than without.
    rw [List.dropWhile_append, if_pos (by simpa using ended)] at read
    exfalso
    cases blanks with
    | nil =>
      have all : slashes.dropWhile (fun c => c = '/' || c = '\\') = [] :=
        List.dropWhile_eq_nil_iff.mpr fun c member => by simp [same c member]
      rw [List.nil_append, all] at read
      exact readAfterSlashes_nil web read
    | cons c others =>
      have slash : c ≠ '/' := ne_of_blank (blank c List.mem_cons_self) (by decide)
      have backslash : c ≠ '\\' := ne_of_blank (blank c List.mem_cons_self) (by decide)
      rw [List.cons_append, List.dropWhile_cons_of_neg (by simp [slash, backslash]),
        ← List.cons_append, ← List.nil_append (c :: others ++ slashes)] at read
      obtain ⟨_, _, _, _, nothing⟩ := readAfterSlashes_append web blank some same read
      exact readAfterSlashes_nil web nothing
  · rw [dropWhile_append_of_reached ended] at read
    exact readAfterSlashes_append web blank some same read

end Path

/-- What a URL loses with the slashes at the end of its text and the blanks before them. -/
inductive Shortened (text blanks slashes : List Char) (base : Url) : Prop where
  | fragment (front added : List Char) (marked : '#' ∈ text)
      (own : base.fragment = some (front ++ added)) (more : added ≠ [])
      (parsed : parse text = .ok { base with fragment := some front })
  | query (front added : List Char) (marked : '?' ∈ text)
      (own : base.query = some (front ++ added)) (more : added ≠ [])
      (parsed : parse text = .ok { base with query := some front })
  | path (front : List Char) (unmarked : ∀ c ∈ text, c ≠ '?' ∧ c ≠ '#')
      (own : base.path = .segments (UrlPath.parse .web (front ++ (blanks ++ slashes))))
      (noBlanks : front = [] → blanks = [])
      (begins : ∀ c ∈ front.head?, SchemeKind.web.separates c = true)
      (parsed : parse text = .ok { base with path := .segments (UrlPath.parse .web front) })

theorem mem_shown_of_visible {text : List Char} {c : Char} (member : c ∈ text)
    (plain : isBlank c = false) : c ∈ shown text := by
  have inside : c ∈ trim text := by
    have cut := trim_append_endBlanks ⟨c, member, plain⟩
    rw [← List.takeWhile_append_dropWhile (p := isBlank) (l := text), ← cut] at member
    rcases List.mem_append.mp member with front | member
    · exact absurd (List.mem_takeWhile_imp front) (by simp [plain])
    · refine (List.mem_append.mp member).resolve_right fun tail => ?_
      exact absurd (List.mem_rtakeWhile_imp tail) (by simp [plain])
  have other : ∀ d : Char, isBlank d = true → c ≠ d := by
    rintro d blank rfl
    rw [plain] at blank
    cases blank
  refine List.mem_filter.mpr ⟨inside, ?_⟩
  simp [other '\t' rfl, other '\n' rfl, other '\r' rfl]

theorem mem_iff_of_splitScheme {text scheme rest : List Char}
    (split : splitScheme (shown text) = some (scheme, rest)) {c : Char}
    (plain : isBlank c = false) (mark : isSchemeChar c = false) (other : c ≠ ':') :
    c ∈ text ↔ c ∈ rest := by
  obtain ⟨_, _, _, _, behind, _⟩ := splitScheme_eq_some split
  constructor
  · intro member
    have inside := mem_shown_of_visible member plain
    rw [← List.takeWhile_append_dropWhile (p := isSchemeChar) (l := shown text), behind] at inside
    rcases List.mem_append.mp inside with front | inside
    · exact absurd (List.mem_takeWhile_imp front) (by simp [mark])
    · exact (List.mem_cons.mp inside).resolve_left other
  · intro member
    refine mem_of_mem_shown ((List.dropWhile_suffix isSchemeChar).subset ?_)
    rw [behind]
    exact List.mem_cons_of_mem _ member

section Parts

variable {text whole scheme rest added : List Char} {base : Url}
  (split : splitScheme (shown text) = some (scheme, rest))
  (splitWhole : splitScheme (shown whole) = some (scheme, rest ++ added))
  (parsed : parse whole = .ok base)
include split splitWhole parsed

theorem parse_of_fragment {middle part : List Char}
    (hash : cutWhere (· = '#') rest = (middle, some part)) :
    '#' ∈ text ∧
      base.fragment = some (Percent.encode Percent.fragmentSet part ++
        Percent.encode Percent.fragmentSet added) ∧
      parse text = .ok { base with fragment := some (Percent.encode Percent.fragmentSet part) } := by
  cases mark : cutWhere (· = '?') middle with
  | mk front query =>
    rw [parse_of_parts splitWhole (cutWhere_append_of_some hash _) mark, map_eq_ok,
      Option.isSome_some] at parsed
    obtain ⟨url, read, rfl⟩ := parsed
    refine ⟨?_, by rw [withEnd, Option.map_some, Percent.encode_append], ?_⟩
    · obtain ⟨separator, rfl, separating, _⟩ := cutWhere_eq_some hash
      rw [mem_iff_of_splitScheme split rfl rfl (by decide), ← of_decide_eq_true separating]
      exact List.mem_append_right _ List.mem_cons_self
    · rw [parse_of_parts split hash mark, Option.isSome_some, read]
      rfl

variable (web : base.kind = .web) (free : ∀ c ∈ added, c ≠ '?' ∧ c ≠ '#')
  (noHash : ∀ c ∈ rest, decide (c = '#') = false)
include web free noHash

theorem parse_of_query {front part : List Char}
    (mark : cutWhere (· = '?') rest = (front, some part)) :
    '?' ∈ text ∧
      base.query = some (Percent.encode Percent.specialQuerySet part ++
        Percent.encode Percent.specialQuerySet added) ∧
      parse text = .ok { base with query := some (Percent.encode Percent.specialQuerySet part) } := by
  have hash := cutWhere_of_none noHash
  have hashWhole := cutWhere_append_of_none hash fun c member => decide_eq_false (free c member).2
  rw [parse_of_parts splitWhole hashWhole (cutWhere_append_of_some mark _), map_eq_ok,
    Option.isSome_some] at parsed
  obtain ⟨url, read, rfl⟩ := parsed
  have kind : url.kind = .web := web
  have set : (if url.kind.isSpecial then Percent.specialQuerySet else Percent.querySet) =
      Percent.specialQuerySet := by
    rw [kind]
    rfl
  refine ⟨?_, by simp only [withEnd, set, Option.map_some, Percent.encode_append], ?_⟩
  · obtain ⟨separator, rfl, separating, _⟩ := cutWhere_eq_some mark
    rw [mem_iff_of_splitScheme split rfl rfl (by decide), ← of_decide_eq_true separating]
    exact List.mem_append_right _ List.mem_cons_self
  · rw [parse_of_parts split hash mark, Option.isSome_some, read]
    simp only [Except.map, withEnd, set]
    rfl

theorem parse_of_path {blanks slashes : List Char} (ends : added = blanks ++ slashes)
    (blank : ∀ c ∈ blanks, isBlank c = true) (some : slashes ≠ []) (same : ∀ c ∈ slashes, c = '/')
    (noMark : ∀ c ∈ rest, decide (c = '?') = false) :
    (∀ c ∈ text, c ≠ '?' ∧ c ≠ '#') ∧
      ∃ front, base.path = .segments (UrlPath.parse .web (front ++ (blanks ++ slashes))) ∧
        (front = [] → blanks = []) ∧ (∀ c ∈ front.head?, SchemeKind.web.separates c = true) ∧
        parse text = .ok { base with path := .segments (UrlPath.parse .web front) } := by
  subst ends
  have hash := cutWhere_of_none noHash
  have mark := cutWhere_of_none noMark
  have hashWhole := cutWhere_append_of_none hash fun c member => decide_eq_false (free c member).2
  have markWhole := cutWhere_append_of_none mark fun c member => decide_eq_false (free c member).1
  rw [parse_of_parts splitWhole hashWhole markWhole, map_eq_ok] at parsed
  obtain ⟨url, read, rfl⟩ := parsed
  have kind : SchemeKind.ofScheme scheme = .web := readAfterScheme_scheme read ▸ web
  obtain ⟨front, known, noBlanks, begins, shorter⟩ := readAfterScheme_append kind
    (fun c member => of_decide_eq_true (blank c member)) some same read
  refine ⟨fun c member => ⟨?_, ?_⟩, front, known, noBlanks, begins, ?_⟩
  · rintro rfl
    have inside := (mem_iff_of_splitScheme split rfl rfl (by decide)).mp member
    exact absurd (noMark '?' inside) (by decide)
  · rintro rfl
    have inside := (mem_iff_of_splitScheme split rfl rfl (by decide)).mp member
    exact absurd (noHash '#' inside) (by decide)
  · rw [parse_of_parts split hash mark, Option.isSome_none, Bool.or_false, shorter]
    rfl

end Parts

/-- What is taken off the end of a text is missing in the last part of its URL. -/
theorem parse_shortened {text slashes : List Char} {base : Url}
    (parsed : parse (text ++ slashes) = .ok base) (web : base.kind = .web) (some : slashes ≠ [])
    (same : ∀ c ∈ slashes, c = '/') :
    Shortened text (dropBreaks (text.rtakeWhile isBlank)) slashes base := by
  have blank : ∀ c ∈ dropBreaks (text.rtakeWhile isBlank), isBlank c = true := fun c member =>
    List.mem_rtakeWhile_imp (List.mem_of_mem_filter member)
  have whole := shown_append_slashes (visible_of_parse parsed same) some same
  obtain ⟨scheme, behind, splitWhole⟩ := splitScheme_of_parse parsed
  generalize dropBreaks (text.rtakeWhile isBlank) = blanks at blank whole
  have free : ∀ d : Char, isBlank d = false → d ≠ '/' → ∀ c ∈ blanks ++ slashes, c ≠ d := by
    intro d plain other c member
    rcases List.mem_append.mp member with own | slash
    · rintro rfl
      rw [blank c own] at plain
      cases plain
    · rw [same c slash]
      exact other.symm
  have more : blanks ++ slashes ≠ [] := List.append_ne_nil_of_right_ne_nil _ some
  have splitBoth := splitWhole
  rw [whole, List.append_assoc] at splitBoth
  obtain ⟨rest, split, rfl⟩ := splitScheme_append
    (fun member => free ':' rfl (by decide) _ member rfl) splitBoth
  have unmarked : ∀ c ∈ blanks ++ slashes, c ≠ '?' ∧ c ≠ '#' := fun c member =>
    ⟨free '?' rfl (by decide) c member, free '#' rfl (by decide) c member⟩
  cases hash : cutWhere (· = '#') rest with
  | mk middle fragment =>
    cases fragment with
    | some part =>
      obtain ⟨marked, own, shorter⟩ := parse_of_fragment split splitWhole parsed hash
      exact .fragment _ _ marked own (Percent.encode_ne_nil more) shorter
    | none =>
      obtain ⟨rfl, noHash⟩ := cutWhere_eq_none hash
      cases mark : cutWhere (· = '?') middle with
      | mk front query =>
        cases query with
        | some part =>
          obtain ⟨marked, own, shorter⟩ :=
            parse_of_query split splitWhole parsed web unmarked noHash mark
          exact .query _ _ marked own (Percent.encode_ne_nil more) shorter
        | none =>
          obtain ⟨rfl, noMark⟩ := cutWhere_eq_none mark
          obtain ⟨free, path, own, noBlanks, begins, shorter⟩ :=
            parse_of_path split splitWhole parsed web unmarked noHash rfl blank some same noMark
          exact .path path free own noBlanks begins shorter

end ODataTable.Url
