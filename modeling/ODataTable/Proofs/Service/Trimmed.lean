import ODataTable.Proofs.Query.Below
import ODataTable.Proofs.Url.PathEnd
import ODataTable.Proofs.Url.Slashes
import ODataTable.Service.Client

/-! What becomes of an address whose slashes at the end are taken off.

Of a path nothing is lost, since empty segments count for nothing below it. In a query or a
fragment a slash is a character like any other, and with blanks before it the text ends elsewhere.
-/

set_option autoImplicit false

namespace ODataTable

/-- A connection whose client requests what the address of the connection says. -/
structure Connection.KeepsAddress (connection : Connection) : Prop where
  metadata :
    (Client.ofConnection connection).request .metadata =
      (Address.join connection.url "$metadata").map fun url =>
        { url := String.ofList url.write, accept := Client.xmlContent }
  entities : ∀ (entitySet : String) (properties : List Property) (timeProperty : Option Property)
      (range : Option TimeRange) (conditions : List Condition),
    (Client.ofConnection connection).request
        (.entities entitySet properties timeProperty range conditions) =
      (Address.entities connection.url entitySet properties timeProperty range conditions
        connection.settings.spaces).map fun url =>
          { url := String.ofList url.write, accept := Client.jsonContent }

namespace Url

/-- A text whose last part is its path, and at whose end no blank stands but breaks. -/
structure EndsInPath (text : List Char) : Prop where
  unmarked : ∀ c ∈ text, c ≠ '?' ∧ c ≠ '#'
  noBlanks : ∀ c ∈ text.rtakeWhile isBlank, isBreak c = true

instance (text : List Char) : Decidable (EndsInPath text) :=
  decidable_of_iff
    (text.all (fun c => c ≠ '?' && c ≠ '#') = true ∧
      (text.rtakeWhile isBlank).all isBreak = true) (by
    simp only [List.all_eq_true, Bool.and_eq_true, decide_eq_true_eq]
    exact ⟨fun ends => ⟨ends.1, ends.2⟩, fun ends => ⟨ends.unmarked, ends.noBlanks⟩⟩)

theorem dropBreaks_eq_nil_iff (text : List Char) :
    dropBreaks text = [] ↔ ∀ c ∈ text, isBreak c = true := by
  induction text with
  | nil => exact ⟨fun _ => nofun, fun _ => rfl⟩
  | cons c rest ih =>
    rw [dropBreaks_cons, List.forall_mem_cons, ← ih]
    cases isBreak c <;> simp

theorem write_fragment_inj {url : Url} {front added : List Char}
    (own : url.fragment = some (front ++ added))
    (same : ({ url with fragment := some front } : Url).write = url.write) : added = [] := by
  have ends : ({ url with fragment := some front } : Url).writeFragment = url.writeFragment :=
    List.append_cancel_left same
  simp only [writeFragment, own, List.cons.injEq, true_and] at ends
  simpa using ends.symm

theorem write_query_inj {url : Url} {front added : List Char}
    (own : url.query = some (front ++ added))
    (same : ({ url with query := some front } : Url).write = url.write) : added = [] := by
  have ends : ({ url with query := some front } : Url).writeQuery = url.writeQuery :=
    List.append_cancel_left (List.append_cancel_right same)
  simp only [writeQuery, own, List.cons.injEq, true_and] at ends
  simpa using ends.symm

theorem write_path_inj {url : Url} {path : UrlPath}
    (same : ({ url with path } : Url).write = url.write) : path.write = url.path.write := by
  have whole : ({ url with path } : Url).scheme ++ ':' :: ({ url with path } : Url).writeAuthority ++
      path.write = url.scheme ++ ':' :: url.writeAuthority ++ url.path.write :=
    List.append_cancel_right (List.append_cancel_right same)
  exact List.append_cancel_left whole

end Url

namespace Address

theorem parts_write_parse (text : List Char) :
    parts (UrlPath.write (.segments (UrlPath.parse .web text))) =
      UrlPath.filled (UrlPath.parse .web text) :=
  parts_write (UrlPath.parse_settled text)

variable {base : Url} {whole front : List Char}
  (own : base.path = .segments (UrlPath.parse .web whole))
include own

theorem below_of_filled
    (same : UrlPath.filled (UrlPath.parse .web front) = UrlPath.filled (UrlPath.parse .web whole))
    (segment : String) :
    below { base with path := .segments (UrlPath.parse .web front) } segment =
      below base segment := by
  have known : parts (UrlPath.write (.segments (UrlPath.parse .web front))) =
      parts base.path.write := by
    rw [own, parts_write_parse, parts_write_parse, same]
  simp only [below, Url.withPath, own, known]
  rfl

/-- The path of the metadata is longer than that of the service by the one segment. -/
theorem length_below_metadata (delimited : base.Delimited) :
    (below base "$metadata").path.write.length =
      (UrlPath.write (.segments (UrlPath.filled (UrlPath.parse .web whole)))).length +
        "/$metadata".toList.length := by
  have plain : ∀ part ∈ parts "$metadata".toList, UrlPath.Plain part := by decide +kernel
  have path := ((below_appends_iff delimited "$metadata").mpr plain).path
  have added : (parts "$metadata".toList).map (Percent.encode Percent.pathSet) =
      ["$metadata".toList] := by decide +kernel
  rw [path, appended, added, own, parts_write_parse,
    ← UrlPath.write_segments (List.append_ne_nil_of_right_ne_nil _ (List.cons_ne_nil _ _)),
    UrlPath.write_append, List.length_append]
  rfl

end Address

namespace Connection

open Address (below)

section Requests

variable {connection : Connection} {base shorter : Url}
  (parsed : Url.parse connection.url.toList = .ok base)
  (parsedShorter : Url.parse connection.baseUrl.toList = .ok shorter)
include parsed parsedShorter

theorem request_metadata_iff :
    (Client.ofConnection connection).request .metadata =
        (Address.join connection.url "$metadata").map (fun url =>
          { url := String.ofList url.write, accept := Client.xmlContent }) ↔
      (below shorter "$metadata").write = (below base "$metadata").write := by
  have requested : (Client.ofConnection connection).request .metadata =
      .ok { url := String.ofList (below shorter "$metadata").write, accept := Client.xmlContent } := by
    simp only [Client.request, Client.ofConnection, Address.join_eq parsedShorter]
    rfl
  rw [requested, Address.join_eq parsed]
  simp only [Except.map, Except.ok.injEq, Request.mk.injEq, and_true]
  exact ⟨fun same => String.ofList_injective same, fun same => congrArg String.ofList same⟩

theorem keepsAddress_of_below (query : shorter.query = base.query)
    (same : ∀ segment, below shorter segment = below base segment) : connection.KeepsAddress where
  metadata := by rw [request_metadata_iff parsed parsedShorter, same]
  entities entitySet properties timeProperty range conditions := by
    have pairs : ∀ filter select, Address.parameters shorter filter select =
        Address.parameters base filter select := by
      intro filter select
      simp only [Address.parameters, query]
    simp only [Client.request, Client.ofConnection, Address.entities, Address.query_eq parsedShorter,
      Address.query_eq parsed, same, pairs]
    rfl

omit parsedShorter

/-- What is lost in a fragment or a query is missing in every request. -/
theorem not_keepsAddress_of_fragment {front added : List Char}
    (own : base.fragment = some (front ++ added)) (more : added ≠ [])
    (shorter : Url.parse connection.baseUrl.toList = .ok { base with fragment := some front }) :
    ¬ connection.KeepsAddress := by
  intro keeps
  have same := (request_metadata_iff parsed shorter).mp keeps.metadata
  exact more (@Url.write_fragment_inj (below base "$metadata") front added own same)

theorem not_keepsAddress_of_query {front added : List Char}
    (own : base.query = some (front ++ added)) (more : added ≠ [])
    (shorter : Url.parse connection.baseUrl.toList = .ok { base with query := some front }) :
    ¬ connection.KeepsAddress := by
  intro keeps
  have same := (request_metadata_iff parsed shorter).mp keeps.metadata
  exact more (@Url.write_query_inj (below base "$metadata") front added own same)

/-- A path that loses slashes is the same to every request, unless it loses blanks as well. -/
theorem keepsAddress_iff_of_path (kind : base.kind = .web) {front blanks slashes : List Char}
    (own : base.path = .segments (UrlPath.parse .web (front ++ (blanks ++ slashes))))
    (shorter : Url.parse connection.baseUrl.toList =
      .ok { base with path := .segments (UrlPath.parse .web front) })
    (begins : ∀ c ∈ front.head?, SchemeKind.web.separates c = true)
    (noBlanks : front = [] → blanks = []) (blank : ∀ c ∈ blanks, c.toNat ≤ 0x20)
    (same : ∀ c ∈ slashes, c = '/') : connection.KeepsAddress ↔ blanks = [] := by
  constructor
  · intro keeps
    refine Classical.byContradiction fun some => ?_
    have written := (request_metadata_iff parsed shorter).mp keeps.metadata
    have path := congrArg List.length (@Url.write_path_inj (below base "$metadata")
      (below { base with path := .segments (UrlPath.parse .web front) } "$metadata").path written)
    have longer := UrlPath.length_parse_blanks blank same begins
      (fun none => some (noBlanks none)) some
    rw [Address.length_below_metadata rfl (Url.parse_delimited shorter kind),
      Address.length_below_metadata own (Url.parse_delimited parsed kind)] at path
    omega
  · rintro rfl
    rw [List.nil_append] at own
    refine keepsAddress_of_below parsed shorter rfl (Address.below_of_filled own ?_)
    exact (UrlPath.filled_parse_slashes same begins).symm

/-- What a client requests is what the address of its connection says, exactly if that address has
no slashes at its end, or a path and nothing else before them. -/
theorem keepsAddress_iff (web : base.scheme ∈ ["http".toList, "https".toList]) :
    connection.KeepsAddress ↔
      connection.baseUrl = connection.url ∨ Url.EndsInPath connection.baseUrl.toList := by
  have kind := Url.kind_of_http web
  have split : connection.url.toList =
      connection.baseUrl.toList ++ connection.url.toList.rtakeWhile (· = '/') := by
    rw [baseUrl, String.toList_ofList]
    exact List.rdropWhile_append_rtakeWhile.symm
  by_cases none : connection.url.toList.rtakeWhile (· = '/') = []
  · have unchanged : connection.baseUrl = connection.url := by
      rw [none, List.append_nil] at split
      exact (String.toList_inj.mp split).symm
    refine iff_of_true ?_ (.inl unchanged)
    exact keepsAddress_of_below parsed (unchanged ▸ parsed) rfl fun _ => rfl
  · have changed : connection.baseUrl ≠ connection.url := by
      intro same
      rw [same] at split
      exact none (List.append_right_eq_self.mp split.symm)
    have slashes : ∀ c ∈ connection.url.toList.rtakeWhile (· = '/'), c = '/' :=
      fun c member => by simpa using List.mem_rtakeWhile_imp member
    have blank : ∀ c ∈ Url.dropBreaks (connection.baseUrl.toList.rtakeWhile Url.isBlank),
        c.toNat ≤ 0x20 := by
      intro c member
      have own : Url.isBlank c = true := List.mem_rtakeWhile_imp (List.mem_of_mem_filter member)
      exact of_decide_eq_true own
    have ends := parsed
    rw [split] at ends
    rw [or_iff_right changed]
    cases Url.parse_shortened ends kind none slashes with
    | fragment front added marked own more shorter =>
      exact iff_of_false (not_keepsAddress_of_fragment parsed own more shorter) fun path =>
        (path.unmarked '#' marked).2 rfl
    | query front added marked own more shorter =>
      exact iff_of_false (not_keepsAddress_of_query parsed own more shorter) fun path =>
        (path.unmarked '?' marked).1 rfl
    | path front unmarked own noBlanks begins shorter =>
      rw [keepsAddress_iff_of_path parsed kind own shorter begins noBlanks blank slashes,
        Url.dropBreaks_eq_nil_iff]
      exact ⟨fun breaks => ⟨unmarked, breaks⟩, Url.EndsInPath.noBlanks⟩

end Requests

def slashedConnection : Connection where
  url := "http://[::1]/odata//v4//"
  timeoutSeconds := 30
  connectTimeoutSeconds := 10
  settings := {}

theorem keepsAddress_iff_slashed :
    ∃ base, Url.parse slashedConnection.url.toList = .ok base ∧
      base.scheme ∈ ["http".toList, "https".toList] ∧ slashedConnection.KeepsAddress := by
  have parsed : Url.parse slashedConnection.url.toList =
      .ok ⟨"http".toList, [], [], some (.address6 [0, 0, 0, 0, 0, 0, 0, 1]), none, false,
        .segments ["odata".toList, [], "v4".toList, [], []], none, none⟩ := by decide +kernel
  refine ⟨_, parsed, List.mem_cons_self, ?_⟩
  exact (keepsAddress_iff parsed List.mem_cons_self).mpr (.inr (by decide +kernel))

def queryConnection : Connection where
  url := "http://[::1]/?a=b/"
  timeoutSeconds := 30
  connectTimeoutSeconds := 10
  settings := {}

/-- The value of the parameter loses its slash. -/
theorem query_not_kept :
    ∃ base, Url.parse queryConnection.url.toList = .ok base ∧
      base.scheme ∈ ["http".toList, "https".toList] ∧
      (Client.ofConnection queryConnection).request .metadata =
        .ok { url := "http://[::1]/$metadata?a=b", accept := Client.xmlContent } ∧
      (Address.join queryConnection.url "$metadata").map (fun url => String.ofList url.write) =
        .ok "http://[::1]/$metadata?a=b/" ∧
      ¬ queryConnection.KeepsAddress := by
  have requested : (Client.ofConnection queryConnection).request .metadata =
      .ok { url := "http://[::1]/$metadata?a=b", accept := Client.xmlContent } := by decide +kernel
  refine ⟨⟨"http".toList, [], [], some (.address6 [0, 0, 0, 0, 0, 0, 0, 1]), none, false,
      .segments [[]], some "a=b/".toList, none⟩, by decide +kernel, List.mem_cons_self, requested,
    by decide +kernel, fun keeps => ?_⟩
  have other : ¬ (Address.join queryConnection.url "$metadata").map (fun url =>
      ({ url := String.ofList url.write, accept := Client.xmlContent } : Request)) =
        .ok { url := "http://[::1]/$metadata?a=b", accept := Client.xmlContent } := by decide +kernel
  exact other (keeps.metadata.symm.trans requested)

end Connection

end ODataTable
