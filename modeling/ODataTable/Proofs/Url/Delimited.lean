import ODataTable.Proofs.Effect
import ODataTable.Proofs.Url.Host
import ODataTable.Proofs.Url.Path
import ODataTable.Url.Parser

/-! URLs of the web as they are read: no part of them holds what would end it.

The user is encoded, a host is refused if it holds a mark, the path is split at its slashes, and
query and fragment are encoded. None of this depends on where the text comes from.
-/

set_option autoImplicit false

namespace ODataTable.Url

theorem isMark_of_userInfoSet {c : Char} (kept : Percent.userInfoSet c = false) :
    isMark c = false := by
  have path := Percent.pathSet_of_userInfoSet kept
  have visible := Percent.lt_toNat_of_fragmentSet (Percent.fragmentSet_of_pathSet path)
  simp_all [isMark, Percent.userInfoSet, Percent.pathSet]

theorem encode_userInfoSet_unmarked (text : List Char) :
    Unmarked (Percent.encode Percent.userInfoSet text) := by
  intro c member
  rcases Percent.mem_encode (fun _ => Percent.userInfoSet_of_isAlphanum) member with rfl | kept
  · decide
  · exact isMark_of_userInfoSet kept

theorem encode_specialQuerySet_free {text : List Char} {c : Char}
    (member : c ∈ Percent.encode Percent.specialQuerySet text) :
    Percent.specialQuerySet c = false := by
  rcases Percent.mem_encode (fun _ => Percent.specialQuerySet_of_isAlphanum) member with rfl | kept
  · decide
  · exact kept

theorem encode_fragmentSet_free {text : List Char} {c : Char}
    (member : c ∈ Percent.encode Percent.fragmentSet text) : Percent.fragmentSet c = false := by
  have letters : ∀ c : Char, c.isAlphanum = true → Percent.fragmentSet c = false :=
    fun _ letter => Percent.fragmentSet_of_pathSet (Percent.pathSet_of_isAlphanum letter)
  rcases Percent.mem_encode letters member with rfl | kept
  · decide
  · exact kept

theorem mem_of_splitPort {inBrackets : Bool} {text port : List Char}
    (split : (splitPort inBrackets text).2 = some port) : ∀ c ∈ port, c ∈ text := by
  induction text generalizing inBrackets with
  | nil => cases split
  | cons d rest ih =>
    unfold splitPort at split
    split at split
    · cases split
      exact fun c member => List.mem_cons_of_mem d member
    · exact fun c member => List.mem_cons_of_mem d (ih split c member)

theorem readHostAndPort_web {scheme text : List Char} {user authority : Authority}
    (web : SchemeKind.ofScheme scheme = .web)
    (read : readHostAndPort scheme user text = .ok authority) :
    ∃ host port, UrlHost.Inert host.write ∧
      authority =
        { user with
          host := some host, port
          rest := ((splitPort false text).2.getD []).dropWhile (· ≠ '\\') } := by
  unfold readHostAndPort at read
  simp only [web, SchemeKind.isSpecial, Bool.true_and, if_true] at read
  split at read
  · cases read
  next filled =>
    rw [bind_eq_ok] at read
    obtain ⟨host, hostRead, read⟩ := read
    simp only [filled, Bool.false_and, if_false, Bool.false_eq_true] at read
    -- With a port and without one, the host is the same.
    split at read
    all_goals
      rw [bind_eq_ok] at read
      obtain ⟨port, _, read⟩ := read
      exact ⟨host, port, UrlHost.parseSpecial_inert hostRead, (Except.ok.inj read).symm⟩

theorem mem_of_splitUserInfo {text userInfo rest : List Char}
    (split : splitUserInfo text = some (userInfo, rest)) : ∀ c ∈ rest, c ∈ text := by
  unfold splitUserInfo at split
  split at split
  · cases split
  · cases split
    exact fun c member => List.mem_of_mem_drop member

theorem readAuthority_cases {scheme text : List Char} {followed : Bool} {authority : Authority}
    (read : readAuthority scheme text followed = .ok authority) :
    ∃ user rest, readHostAndPort scheme user rest = .ok authority ∧ (∀ c ∈ rest, c ∈ text) ∧
      Unmarked user.username ∧ Unmarked user.password := by
  unfold readAuthority at read
  split at read
  · exact ⟨{}, text, read, fun _ => id, unmarked_nil, unmarked_nil⟩
  next userInfo rest split =>
    split at read
    · cases read
    · exact ⟨_, rest, read, mem_of_splitUserInfo split, encode_userInfoSet_unmarked _,
        encode_userInfoSet_unmarked _⟩

/-- An authority leaves something to the path only at a backslash. -/
theorem readAuthority_rest {scheme text : List Char} {followed : Bool} {authority : Authority}
    (web : SchemeKind.ofScheme scheme = .web) (noBackslash : '\\' ∉ text)
    (read : readAuthority scheme text followed = .ok authority) : authority.rest = [] := by
  obtain ⟨user, hostText, own, inside, _⟩ := readAuthority_cases read
  obtain ⟨host, port, _, rfl⟩ := readHostAndPort_web web own
  refine List.dropWhile_eq_nil_iff.mpr fun c member => ?_
  cases split : (splitPort false hostText).2 with
  | none =>
    rw [split] at member
    cases member
  | some portText =>
    rw [split] at member
    refine decide_eq_true fun same => noBackslash ?_
    exact same ▸ inside c (mem_of_splitPort split c member)

/-- A URL of the web of which no part holds what would end it. -/
structure Delimited (url : Url) : Prop where
  web : url.kind = .web
  username : Unmarked url.username
  password : Unmarked url.password
  host : ∃ host, url.host = some host ∧ UrlHost.Inert host.write
  path : ∃ list, url.path = .segments list ∧ list ≠ [] ∧ ∀ segment ∈ list, UrlPath.Settled segment
  query : ∀ text, url.query = some text → ∀ c ∈ text, Percent.specialQuerySet c = false
  fragment : ∀ text, url.fragment = some text → ∀ c ∈ text, Percent.fragmentSet c = false

theorem readAfterSlashes_scheme {scheme text : List Char} {followed : Bool} {url : Url}
    (read : readAfterSlashes scheme text followed = .ok url) : url.scheme = scheme := by
  simp only [readAfterSlashes, bind_eq_ok] at read
  obtain ⟨authority, _, read⟩ := read
  cases read
  rfl

theorem readFile_scheme {scheme text : List Char} {url : Url}
    (read : readFile scheme text = .ok url) : url.scheme = scheme := by
  unfold readFile at read
  split at read
  · split at read
    · dsimp only at read
      split at read
      · cases read
        rfl
      · split at read
        · cases read
          rfl
        · rw [bind_eq_ok] at read
          obtain ⟨host, _, read⟩ := read
          cases read
          split <;> rfl
    · cases read
      rfl
  · cases read
    rfl

theorem readAfterScheme_scheme {scheme text : List Char} {followed : Bool} {url : Url}
    (read : readAfterScheme scheme text followed = .ok url) : url.scheme = scheme := by
  unfold readAfterScheme at read
  split at read
  · exact readFile_scheme read
  · exact readAfterSlashes_scheme read
  · split at read
    · exact readAfterSlashes_scheme read
    · cases read
      rfl
    · cases read
      rfl

/-- What is read after the slashes has neither query nor fragment yet. -/
theorem readAfterSlashes_delimited {scheme text : List Char} {followed : Bool} {url : Url}
    (web : SchemeKind.ofScheme scheme = .web)
    (read : readAfterSlashes scheme text followed = .ok url) : Delimited url := by
  simp only [readAfterSlashes, bind_eq_ok, web] at read
  obtain ⟨authority, own, read⟩ := read
  obtain ⟨user, rest, own, _, username, password⟩ := readAuthority_cases own
  obtain ⟨host, port, inert, rfl⟩ := readHostAndPort_web web own
  cases read
  exact
    { web, username, password
      host := ⟨host, rfl, inert⟩
      path := ⟨_, rfl, UrlPath.parse_ne_nil _, UrlPath.parse_settled _⟩
      query := fun _ same => absurd same (Option.some_ne_none _).symm
      fragment := fun _ same => absurd same (Option.some_ne_none _).symm }

/-- Whatever text it is read from, a URL of the web is delimited. -/
theorem parse_delimited {text : List Char} {url : Url} (parsed : parse text = .ok url)
    (web : url.kind = .web) : Delimited url := by
  unfold parse at parsed
  split at parsed
  · cases parsed
  next scheme rest split =>
    rw [bind_eq_ok] at parsed
    obtain ⟨front, read, parsed⟩ := parsed
    cases parsed
    -- Query and fragment are put onto a URL that has its scheme already.
    have frontWeb : front.kind = .web := web
    have schemeWeb : SchemeKind.ofScheme scheme = .web := readAfterScheme_scheme read ▸ frontWeb
    simp only [readAfterScheme, schemeWeb] at read
    have delimited := readAfterSlashes_delimited schemeWeb read
    refine { delimited with query := fun query same c member => ?_, fragment := ?_ }
    · simp only [frontWeb, SchemeKind.isSpecial, if_true] at same
      obtain ⟨own, _, rfl⟩ := Option.map_eq_some_iff.mp same
      exact encode_specialQuerySet_free member
    · intro fragment same c member
      obtain ⟨own, _, rfl⟩ := Option.map_eq_some_iff.mp same
      exact encode_fragmentSet_free member

namespace Delimited

variable {url : Url}

theorem withPath (delimited : Delimited url) (text : List Char) : Delimited (url.withPath text) := by
  obtain ⟨list, known, _⟩ := delimited.path
  have path : (url.withPath text).path = .segments (UrlPath.parse .web (dropBreaks text)) := by
    simp only [Url.withPath, known, delimited.web]
  exact
    { web := delimited.web
      username := delimited.username
      password := delimited.password
      host := delimited.host
      path := ⟨_, path, UrlPath.parse_ne_nil _, UrlPath.parse_settled _⟩
      query := delimited.query
      fragment := delimited.fragment }

theorem withQuery_path (delimited : Delimited url) (query : Option (List Char)) :
    (url.withQuery query).path = url.path := by
  obtain ⟨list, known, _⟩ := delimited.path
  simp only [Url.withQuery, known]
  cases query <;> cases url.fragment <;> rfl

theorem withQuery (delimited : Delimited url) (query : Option (List Char)) :
    Delimited (url.withQuery query) where
  web := delimited.web
  username := delimited.username
  password := delimited.password
  host := delimited.host
  path := delimited.withQuery_path query ▸ delimited.path
  query text same c member := by
    simp only [Url.withQuery, delimited.web, SchemeKind.isSpecial, if_true] at same
    obtain ⟨own, _, rfl⟩ := Option.map_eq_some_iff.mp same
    exact encode_specialQuerySet_free member
  fragment := delimited.fragment

end Delimited

end ODataTable.Url
