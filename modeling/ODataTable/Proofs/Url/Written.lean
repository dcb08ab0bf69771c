import ODataTable.Proofs.Url.Delimited

/-! Delimited URLs are read back as they are written.

Every mark that stands in the text of such a URL is one that writing put between two parts, so
reading cuts the text where it was put together. Scheme, path, query and fragment are read as they
are. The authority is read like any text of an authority: that a name of a host is its own form in
ASCII would take more than what separates parts.
-/

set_option autoImplicit false

namespace ODataTable.Url

theorem trim_of_visible {text : List Char} (visible : ∀ c ∈ text, 0x20 < c.toNat) :
    trim text = text := by
  have kept : ∀ {text : List Char}, (∀ c ∈ text, 0x20 < c.toNat) →
      text.dropWhile (fun c => decide (c.toNat ≤ 0x20)) = text := by
    intro text visible
    refine List.dropWhile_eq_self_iff.mpr fun some => ?_
    have first := visible _ (List.getElem_mem some)
    simp only [decide_eq_true_eq]
    omega
  have reversed : ∀ c ∈ text.reverse, 0x20 < c.toNat :=
    fun c member => visible c (List.mem_reverse.mp member)
  simp only [trim]
  rw [kept visible, kept reversed, List.reverse_reverse]

theorem dropBreaks_of_visible {text : List Char} (visible : ∀ c ∈ text, 0x20 < c.toNat) :
    dropBreaks text = text := by
  refine List.filter_eq_self.mpr fun c member => ?_
  have other : ∀ d : Char, d.toNat ≤ 0x20 → c ≠ d := by
    rintro d blank rfl
    have := visible c member
    omega
  simp [other '\t' (by decide), other '\n' (by decide), other '\r' (by decide)]

def webSchemes : List (List Char) :=
  ["http".toList, "https".toList, "ws".toList, "wss".toList, "ftp".toList]

theorem kind_of_mem_webSchemes {url : Url} (member : url.scheme ∈ webSchemes) : url.kind = .web := by
  have table : ∀ scheme ∈ webSchemes, SchemeKind.ofScheme scheme = .web := by decide
  exact table _ member

theorem kind_of_http {url : Url} (member : url.scheme ∈ ["http".toList, "https".toList]) :
    url.kind = .web := by
  rw [List.mem_cons, List.mem_singleton] at member
  refine kind_of_mem_webSchemes ?_
  rcases member with same | same
  all_goals
    rw [same]
    decide

theorem mem_webSchemes {scheme : List Char} (web : SchemeKind.ofScheme scheme = .web) :
    scheme ∈ webSchemes := by
  have named : ∀ name : String, String.ofList scheme = name → scheme = name.toList := by
    rintro name rfl
    exact String.toList_ofList.symm
  unfold SchemeKind.ofScheme at web
  dsimp only at web
  split at web
  · cases web
  · split at web
    next known =>
      simp only [Bool.or_eq_true, decide_eq_true_eq] at known
      rcases known with (((same | same) | same) | same) | same
      all_goals
        rw [named _ same]
        decide
    · cases web

theorem splitScheme_web {scheme : List Char} (web : SchemeKind.ofScheme scheme = .web)
    (rest : List Char) : splitScheme (scheme ++ ':' :: rest) = some (scheme, rest) := by
  have table : ∀ scheme ∈ webSchemes,
      scheme.all isSchemeChar = true ∧ scheme.map Char.toLower = scheme ∧
        scheme.head?.map Char.isAlpha = some true := by decide
  obtain ⟨letters, lower, alpha⟩ := table scheme (mem_webSchemes web)
  rw [List.all_eq_true] at letters
  have mark : isSchemeChar ':' = false := by decide
  have taken : (scheme ++ ':' :: rest).takeWhile isSchemeChar = scheme := by
    rw [List.takeWhile_append_of_pos letters, List.takeWhile_cons_of_neg (by simp [mark]),
      List.append_nil]
  have dropped : (scheme ++ ':' :: rest).dropWhile isSchemeChar = ':' :: rest := by
    rw [List.dropWhile_append_of_pos letters, List.dropWhile_cons_of_neg (by simp [mark])]
  cases scheme with
  | nil => cases alpha
  | cons c tail =>
    have first : c.isAlpha = true := Option.some.inj alpha
    rw [List.cons_append] at taken dropped ⊢
    simp only [splitScheme, first, if_true, taken, dropped, lower]

def authorityText (url : Url) : List Char :=
  url.writeUserInfo ++ (url.host.map UrlHost.write).getD [] ++ url.writePort

def frontText (url : Url) : List Char :=
  '/' :: '/' :: url.authorityText ++ url.path.write

def withAuthority (url : Url) (authority : Authority) : Url :=
  { url with
    username := authority.username
    password := authority.password
    host := authority.host
    port := authority.port
    hasDot := false }

theorem readAfterSlashes_web {scheme : List Char} (web : SchemeKind.ofScheme scheme = .web)
    (text : List Char) (followed : Bool) :
    readAfterSlashes scheme text followed =
      (readAuthority scheme (text.takeWhile (!SchemeKind.web.separates ·))
        (followed || !(text.dropWhile (!SchemeKind.web.separates ·)).isEmpty)).map
      ({ scheme, path := .segments (UrlPath.parse .web
          (text.dropWhile (!SchemeKind.web.separates ·))) } : Url).withAuthority := by
  have noBackslash : '\\' ∉ text.takeWhile (!SchemeKind.web.separates ·) :=
    fun member => absurd (List.mem_takeWhile_imp member) (by decide)
  simp only [readAfterSlashes, web]
  cases read : readAuthority scheme (text.takeWhile (!SchemeKind.web.separates ·))
      (followed || !(text.dropWhile (!SchemeKind.web.separates ·)).isEmpty) with
  | error fault => rfl
  | ok authority =>
    have rest := readAuthority_rest web noBackslash read
    simp only [bind, Except.bind, Except.map, rest, List.nil_append, withAuthority]

theorem writePort_unmarked (url : Url) : Unmarked url.writePort := by
  unfold writePort
  split
  · exact .cons (by decide) (UrlHost.toDigits_unmarked (by decide) (by decide) _)
  · exact unmarked_nil

namespace Delimited

variable {url : Url}

theorem write_eq (delimited : Delimited url) :
    url.write =
      url.scheme ++ ':' :: (url.frontText ++ url.writeQuery ++ url.writeFragment) := by
  obtain ⟨host, known, _⟩ := delimited.host
  simp only [write, writeAuthority, frontText, authorityText, known, Option.map_some,
    Option.getD_some, List.append_assoc, List.cons_append]

theorem writeUserInfo_unmarked (delimited : Delimited url) : Unmarked url.writeUserInfo := by
  unfold writeUserInfo
  split
  · exact unmarked_nil
  · refine (delimited.username.append ?_).append (.cons (by decide) unmarked_nil)
    split
    · exact unmarked_nil
    · exact .cons (by decide) delimited.password

theorem authorityText_inert (delimited : Delimited url) : UrlHost.Inert url.authorityText := by
  obtain ⟨host, known, inert⟩ := delimited.host
  simp only [authorityText, known, Option.map_some, Option.getD_some]
  constructor
  · exact List.append_ne_nil_of_left_ne_nil
      (List.append_ne_nil_of_right_ne_nil _ inert.some) _
  · exact (delimited.writeUserInfo_unmarked.append inert.unmarked).append
      (writePort_unmarked url)

theorem visible_of_mem_scheme (delimited : Delimited url) {c : Char} (member : c ∈ url.scheme) :
    0x20 < c.toNat := by
  have table : ∀ scheme ∈ webSchemes, scheme.all (0x20 < ·.toNat) = true := by decide
  have visible := List.all_eq_true.mp (table _ (mem_webSchemes delimited.web)) c member
  exact of_decide_eq_true visible

theorem free_of_mem_path (delimited : Delimited url) {c : Char} (member : c ∈ url.path.write) :
    0x20 < c.toNat ∧ c ≠ '?' ∧ c ≠ '#' := by
  obtain ⟨list, known, some, settled⟩ := delimited.path
  rw [known, UrlPath.write_segments some] at member
  rcases List.mem_cons.mp member with rfl | member
  · decide
  · rcases mem_of_mem_intercalate member with rfl | ⟨segment, own, inside⟩
    · decide
    · have kept := (settled segment own).plain c inside
      refine ⟨Percent.lt_toNat_of_fragmentSet (Percent.fragmentSet_of_pathSet kept), ?_, ?_⟩
      all_goals
        rintro rfl
        revert kept
        decide

theorem free_of_mem_front (delimited : Delimited url) {c : Char} (member : c ∈ url.frontText) :
    0x20 < c.toNat ∧ c ≠ '?' ∧ c ≠ '#' := by
  rcases List.mem_append.mp member with front | path
  · rcases List.mem_cons.mp front with rfl | front
    · decide
    · rcases List.mem_cons.mp front with rfl | authority
      · decide
      · have unmarked := delimited.authorityText_inert.unmarked c authority
        simp only [isMark, Bool.or_eq_false_iff, decide_eq_false_iff_not, not_le] at unmarked
        exact ⟨unmarked.1.1.1.1, unmarked.1.2, unmarked.2⟩
  · exact delimited.free_of_mem_path path

theorem free_of_mem_query (delimited : Delimited url) {c : Char} (member : c ∈ url.writeQuery) :
    0x20 < c.toNat ∧ c ≠ '#' := by
  unfold writeQuery at member
  split at member
  next query known =>
    rcases List.mem_cons.mp member with rfl | member
    · decide
    · have kept := delimited.query query known c member
      refine ⟨Percent.lt_toNat_of_specialQuerySet kept, ?_⟩
      rintro rfl
      revert kept
      decide
  · cases member

theorem visible_of_mem_fragment (delimited : Delimited url) {c : Char}
    (member : c ∈ url.writeFragment) : 0x20 < c.toNat := by
  unfold writeFragment at member
  split at member
  next fragment known =>
    rcases List.mem_cons.mp member with rfl | member
    · decide
    · exact Percent.lt_toNat_of_fragmentSet (delimited.fragment fragment known c member)
  · cases member

theorem write_visible (delimited : Delimited url) : ∀ c ∈ url.write, 0x20 < c.toNat := by
  intro c member
  rw [delimited.write_eq] at member
  rcases List.mem_append.mp member with scheme | member
  · exact delimited.visible_of_mem_scheme scheme
  · rcases List.mem_cons.mp member with rfl | member
    · decide
    · rcases List.mem_append.mp member with member | fragment
      · rcases List.mem_append.mp member with front | query
        · exact (delimited.free_of_mem_front front).1
        · exact (delimited.free_of_mem_query query).1
      · exact delimited.visible_of_mem_fragment fragment

theorem cut_fragment (delimited : Delimited url) :
    cutWhere (· = '#') (url.frontText ++ url.writeQuery ++ url.writeFragment) =
      (url.frontText ++ url.writeQuery, url.fragment) := by
  have free : ∀ c ∈ url.frontText ++ url.writeQuery, decide (c = '#') = false := by
    intro c member
    rcases List.mem_append.mp member with front | query
    · simp [(delimited.free_of_mem_front front).2.2]
    · simp [(delimited.free_of_mem_query query).2]
  unfold writeFragment
  split
  next fragment known => rw [cutWhere_append_cons free rfl, known]
  next known => rw [List.append_nil, cutWhere_of_none free, known]

theorem cut_query (delimited : Delimited url) :
    cutWhere (· = '?') (url.frontText ++ url.writeQuery) = (url.frontText, url.query) := by
  have free : ∀ c ∈ url.frontText, decide (c = '?') = false := by
    intro c member
    simp [(delimited.free_of_mem_front member).2.1]
  unfold writeQuery
  split
  next query known => rw [cutWhere_append_cons free rfl, known]
  next known => rw [List.append_nil, cutWhere_of_none free, known]

theorem readAfterSlashes_write (delimited : Delimited url) (followed : Bool) :
    readAfterSlashes url.scheme (url.authorityText ++ url.path.write) followed =
      (readAuthority url.scheme url.authorityText true).map
        ({ scheme := url.scheme, path := url.path } : Url).withAuthority := by
  obtain ⟨list, known, some, settled⟩ := delimited.path
  have inert := delimited.authorityText_inert
  have inside : ∀ c ∈ url.authorityText, (!SchemeKind.web.separates c) = true := by
    intro c member
    have unmarked := inert.unmarked c member
    simp_all [isMark, SchemeKind.separates]
  -- The path begins with the first slash there is, so the authority ends at it.
  have slash : (!SchemeKind.web.separates '/') = false := rfl
  have written : url.path.write = '/' :: List.intercalate ['/'] list := by
    rw [known, UrlPath.write_segments some]
  have taken : (url.authorityText ++ url.path.write).takeWhile (!SchemeKind.web.separates ·) =
      url.authorityText := by
    rw [List.takeWhile_append_of_pos inside, written, List.takeWhile_cons_of_neg (by simp [slash]),
      List.append_nil]
  have dropped : (url.authorityText ++ url.path.write).dropWhile (!SchemeKind.web.separates ·) =
      url.path.write := by
    rw [List.dropWhile_append_of_pos inside, written, List.dropWhile_cons_of_neg (by simp [slash])]
  have filled : url.path.write.isEmpty = false := by rw [written]; rfl
  have path : UrlPath.segments (UrlPath.parse .web url.path.write) = url.path := by
    rw [known, UrlPath.parse_write some settled]
  rw [readAfterSlashes_web delimited.web, taken, dropped, filled, path, Bool.not_false, Bool.or_true]

/-- The slashes before an authority are all there are, because it does not begin with one. -/
theorem readAfterScheme_write (delimited : Delimited url) (followed : Bool) :
    readAfterScheme url.scheme url.frontText followed =
      readAfterSlashes url.scheme (url.authorityText ++ url.path.write) followed := by
  have web : SchemeKind.ofScheme url.scheme = .web := delimited.web
  have inert := delimited.authorityText_inert
  simp only [readAfterScheme, web, frontText, List.cons_append]
  congr 1
  cases text : url.authorityText with
  | nil => exact absurd text inert.some
  | cons c rest =>
    have unmarked := inert.unmarked c (text ▸ List.mem_cons_self)
    simp_all [isMark]

theorem parse_write (delimited : Delimited url) :
    parse url.write =
      (readAuthority url.scheme url.authorityText true).map url.withAuthority := by
  have web : SchemeKind.ofScheme url.scheme = .web := delimited.web
  have split : splitScheme (dropBreaks (trim url.write)) =
      some (url.scheme, url.frontText ++ url.writeQuery ++ url.writeFragment) := by
    rw [trim_of_visible delimited.write_visible, dropBreaks_of_visible delimited.write_visible,
      delimited.write_eq, splitScheme_web web]
  -- What is encoded already is not encoded again.
  have query : url.query.map (Percent.encode Percent.specialQuerySet) = url.query := by
    cases known : url.query with
    | none => rfl
    | some text => rw [Option.map_some, Percent.encode_of_none (delimited.query text known)]
  have fragment : url.fragment.map (Percent.encode Percent.fragmentSet) = url.fragment := by
    cases known : url.fragment with
    | none => rfl
    | some text => rw [Option.map_some, Percent.encode_of_none (delimited.fragment text known)]
  simp only [parse, split, delimited.cut_fragment, delimited.cut_query,
    delimited.readAfterScheme_write, delimited.readAfterSlashes_write]
  cases readAuthority url.scheme url.authorityText true with
  | error fault => rfl
  | ok authority =>
    simp only [bind, Except.bind, Except.map, kind, web, SchemeKind.isSpecial, if_true, query,
      fragment, withAuthority]

end Delimited

end ODataTable.Url
