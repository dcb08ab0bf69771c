import ODataTable.Proofs.Query.Parameters

/-! Where a request goes is settled by the address of the service alone.

Entity sets, properties and filters are texts of their own, put into the path and into the values
of the query. Whatever they hold, they neither make an address invalid nor lead it elsewhere. That
is said of the parts of the address, and of the parts that whoever reads its text finds.
-/

set_option autoImplicit false

namespace ODataTable

/-- A URL that differs from another one in path and query only. -/
structure Url.StaysAt (base url : Url) : Prop where
  scheme : url.scheme = base.scheme
  username : url.username = base.username
  password : url.password = base.password
  host : url.host = base.host
  port : url.port = base.port
  fragment : url.fragment = base.fragment

/-- A text from which all is read as from the text of another URL, apart from path and query. -/
def Url.ReadsAt (base url : Url) : Prop :=
  Url.parse url.write =
    (Url.parse base.write).map fun read => { read with path := url.path, query := url.query }

namespace Url

theorem Delimited.readsAt {base url : Url} (origin : Delimited base) (delimited : Delimited url)
    (stays : StaysAt base url) : ReadsAt base url := by
  have user : url.writeUserInfo = base.writeUserInfo := by
    simp only [writeUserInfo, stays.username, stays.password]
  have port : url.writePort = base.writePort := by
    simp only [writePort, stays.port]
  have authority : url.authorityText = base.authorityText := by
    simp only [authorityText, user, port, stays.host]
  -- Both texts are read like the one authority that they share.
  unfold ReadsAt
  rw [delimited.parse_write, origin.parse_write, authority, stays.scheme]
  cases readAuthority base.scheme base.authorityText true with
  | error fault => rfl
  | ok authority => simp only [Except.map, withAuthority, stays.scheme, stays.fragment]

theorem withPath_staysAt (url : Url) (text : List Char) : StaysAt url (url.withPath text) :=
  ⟨rfl, rfl, rfl, rfl, rfl, rfl⟩

theorem withQuery_staysAt (url : Url) (query : Option (List Char)) :
    StaysAt url (url.withQuery query) :=
  ⟨rfl, rfl, rfl, rfl, rfl, rfl⟩

theorem StaysAt.trans {first second third : Url} (left : StaysAt first second)
    (right : StaysAt second third) : StaysAt first third where
  scheme := right.scheme.trans left.scheme
  username := right.username.trans left.username
  password := right.password.trans left.password
  host := right.host.trans left.host
  port := right.port.trans left.port
  fragment := right.fragment.trans left.fragment

end Url

namespace Address

theorem join_of_invalid {address : String} {fault : UrlFault}
    (refused : Url.parse address.toList = .error fault) (segment : String) :
    join address segment = .error { address, fault } := by
  simp only [join, parse, refused]
  rfl

theorem query_of_invalid {address : String} {fault : UrlFault}
    (refused : Url.parse address.toList = .error fault) (entitySet : String)
    (properties : List Property) (timeProperty : Option Property) (filter : List Char)
    (spaces : SpaceEncoding) :
    query address entitySet properties timeProperty filter spaces =
      .error { address, fault } := by
  simp only [query, join_of_invalid refused]
  rfl

theorem error_iff {address : String} {made : Except InvalidAddress Url}
    (invalid : ∀ fault, Url.parse address.toList = .error fault →
      made = .error { address, fault })
    (valid : ∀ base, Url.parse address.toList = .ok base → ∃ url, made = .ok url)
    (reason : InvalidAddress) :
    made = .error reason ↔
      reason.address = address ∧ Url.parse address.toList = .error reason.fault := by
  constructor
  · intro failed
    cases parsed : Url.parse address.toList with
    | error fault =>
      have same := (invalid fault parsed).symm.trans failed
      cases same
      exact ⟨rfl, rfl⟩
    | ok base =>
      obtain ⟨url, done⟩ := valid base parsed
      rw [done] at failed
      cases failed
  · rintro ⟨rfl, refused⟩
    exact invalid reason.fault refused

theorem join_error_iff (address segment : String) (reason : InvalidAddress) :
    join address segment = .error reason ↔
      reason.address = address ∧ Url.parse address.toList = .error reason.fault :=
  error_iff (fun _ refused => join_of_invalid refused segment)
    (fun _ parsed => ⟨_, join_eq parsed segment⟩) reason

theorem query_error_iff (address entitySet : String) (properties : List Property)
    (timeProperty : Option Property) (filter : List Char) (spaces : SpaceEncoding)
    (reason : InvalidAddress) :
    query address entitySet properties timeProperty filter spaces = .error reason ↔
      reason.address = address ∧ Url.parse address.toList = .error reason.fault :=
  error_iff
    (fun _ refused => query_of_invalid refused entitySet properties timeProperty filter spaces)
    (fun _ parsed => ⟨_, query_eq parsed entitySet properties timeProperty filter spaces⟩) reason

variable {address : String} {base : Url}

theorem below_staysAt (base : Url) (segment : String) : base.StaysAt (below base segment) :=
  base.withPath_staysAt _

theorem carrying_staysAt (url : Url) (pairs : List (String × String)) (spaces : SpaceEncoding) :
    url.StaysAt (carrying url pairs spaces) :=
  url.withQuery_staysAt _

theorem below_delimited (delimited : base.Delimited) (segment : String) :
    (below base segment).Delimited :=
  delimited.withPath _

theorem carrying_delimited {url : Url} (delimited : url.Delimited)
    (pairs : List (String × String)) (spaces : SpaceEncoding) :
    (carrying url pairs spaces).Delimited :=
  delimited.withQuery _

theorem join_stays (parsed : Url.parse address.toList = .ok base) (web : base.kind = .web)
    (segment : String) :
    ∃ url, join address segment = .ok url ∧ base.StaysAt url ∧ base.ReadsAt url ∧
      url.query = base.query := by
  have delimited := Url.parse_delimited parsed web
  have stays := below_staysAt base segment
  exact ⟨below base segment, join_eq parsed segment, stays,
    delimited.readsAt (below_delimited delimited segment) stays, rfl⟩

/-- A query is put behind the path that is joined, and says nothing but what is requested. -/
theorem query_stays (parsed : Url.parse address.toList = .ok base) (web : base.kind = .web)
    (entitySet : String) (properties : List Property) (timeProperty : Option Property)
    (filter : List Char) (spaces : SpaceEncoding) :
    ∃ joined url, join address entitySet = .ok joined ∧
      query address entitySet properties timeProperty filter spaces = .ok url ∧
      base.StaysAt url ∧ base.ReadsAt url ∧ url.path = joined.path ∧
      SortedByName (requested base filter (selection properties timeProperty))
        (Form.parse (url.query.getD [])) := by
  have delimited := Url.parse_delimited parsed web
  have joined := below_delimited delimited entitySet
  have made := carrying_delimited joined
    (parameters base filter (selection properties timeProperty)) spaces
  have stays := (below_staysAt base entitySet).trans (carrying_staysAt (below base entitySet)
    (parameters base filter (selection properties timeProperty)) spaces)
  refine ⟨below base entitySet, _, join_eq parsed entitySet,
    query_eq parsed entitySet properties timeProperty filter spaces, stays,
    delimited.readsAt made stays, joined.withQuery_path _, ?_⟩
  rw [parse_carrying, parameters_eq_requested]
  exact sortByName_sorted _

/-- Only the text of an address makes it invalid. An address of the web, which http and https are,
leads where it leads whatever is put below it: no entity set reaches more than its path, and no
properties and no filter reach more than the values of its query. -/
theorem addresses_stay (address : String) :
    (∀ segment reason, join address segment = .error reason ↔
      reason.address = address ∧ Url.parse address.toList = .error reason.fault) ∧
    (∀ entitySet properties timeProperty filter spaces reason,
      query address entitySet properties timeProperty filter spaces = .error reason ↔
        reason.address = address ∧ Url.parse address.toList = .error reason.fault) ∧
    ∀ base, Url.parse address.toList = .ok base → base.scheme ∈ Url.webSchemes →
      (∀ segment, ∃ url, join address segment = .ok url ∧ base.StaysAt url ∧ base.ReadsAt url ∧
        url.query = base.query) ∧
      ∀ entitySet properties timeProperty filter spaces, ∃ joined url,
        join address entitySet = .ok joined ∧
        query address entitySet properties timeProperty filter spaces = .ok url ∧
        base.StaysAt url ∧ base.ReadsAt url ∧ url.path = joined.path ∧
        SortedByName (requested base filter (selection properties timeProperty))
          (Form.parse (url.query.getD [])) := by
  refine ⟨join_error_iff address, query_error_iff address, fun base parsed member => ?_⟩
  have web := Url.kind_of_mem_webSchemes member
  exact ⟨join_stays parsed web, query_stays parsed web⟩

def fullAddress : String := "http://u:p@[::1]:81/a?x=1#f"

def fullUrl : Url :=
  { scheme := ['h', 't', 't', 'p']
    username := ['u']
    password := ['p']
    host := some (.address6 [0, 0, 0, 0, 0, 0, 0, 1])
    port := some 81
    path := .segments [['a']]
    query := some ['x', '=', '1']
    fragment := some ['f'] }

/-- An entity set that looks like another address ends up in the path. -/
theorem addresses_stay_full :
    Url.parse fullAddress.toList = .ok fullUrl ∧ fullUrl.scheme ∈ Url.webSchemes ∧
      ∃ joined url, join fullAddress "//v@[::2]:82/?q#g" = .ok joined ∧
        query fullAddress "//v@[::2]:82/?q#g" [⟨"?p#", .string⟩] none "#f@&=".toList .plus =
          .ok url ∧
        fullUrl.StaysAt url ∧ fullUrl.ReadsAt url ∧
        String.ofList joined.write = "http://u:p@[::1]:81/a/v@[::2]:82/%3Fq%23g?x=1#f" ∧
        url.path = .segments [['a'], "v@[::2]:82".toList, "%3Fq%23g".toList] := by
  have parsed : Url.parse fullAddress.toList = .ok fullUrl := by decide +kernel
  have member : fullUrl.scheme ∈ Url.webSchemes := by decide
  obtain ⟨joined, url, below, made, stays, reads, path, _⟩ :=
    ((addresses_stay fullAddress).2.2 fullUrl parsed member).2 "//v@[::2]:82/?q#g"
      [⟨"?p#", .string⟩] none "#f@&=".toList .plus
  have seen : (join fullAddress "//v@[::2]:82/?q#g").map
      (fun url => (String.ofList url.write, url.path)) =
        .ok ("http://u:p@[::1]:81/a/v@[::2]:82/%3Fq%23g?x=1#f",
          .segments [['a'], "v@[::2]:82".toList, "%3Fq%23g".toList]) := by
    decide +kernel
  rw [below, Except.map, Except.ok.injEq, Prod.mk.injEq] at seen
  exact ⟨parsed, member, joined, url, below, made, stays, reads, seen.1, path.trans seen.2⟩

end Address

end ODataTable
