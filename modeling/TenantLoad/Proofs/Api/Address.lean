import TenantLoad.Api.Client
import TenantLoad.Proofs.Config.Validation
import TenantLoad.Proofs.Url.Base
import TenantLoad.Proofs.Url.Endpoint

/-!
# Addresses of calls

All calls of a client go to the host that its base names.  The path of an
address goes on from the folders of the base, and where a table is concerned, it
says which one.  Two bases and a few slugs are excepted, and the query of the
base is kept in addresses of tables alone.
-/

namespace TenantLoad
namespace Api

open Url (Turn tableSegments IsPlain)

/-- A URL that is accepted is one that a service is reached by. -/
theorem isService_of_accepted
    {baseUrl field domain : String}
    {url : Url}
    (accepted : Config.Check.url baseUrl field domain = .ok ())
    (isRead : Url.parse baseUrl = .ok url) :
    url.IsService := by
  obtain ⟨-, own, ownRead, isScheme⟩ := Config.Check.url_eq_ok_iff.mp accepted
  obtain rfl : own = url := Except.ok.inj (ownRead.symm.trans isRead)
  obtain ⟨isSpecial, notFile⟩ := Config.Check.special_of_schemes isScheme
  exact
    { isSpecial, notFile
      hasHost := Url.host_isSome_of_parse isRead isSpecial notFile
      isBase := Url.isBase_of_parse isRead isSpecial
      isSegment := Url.isSegment_of_parse isRead }

namespace Client

variable {baseUrl userAgent field domain : String} {url : Url} {client : Client}
variable {slug action : String} {call : Call}

theorem base_of_connect
    (isRead : Url.parse baseUrl = .ok url)
    (connected : connect baseUrl userAgent = .ok client) :
    client.base = url.asDirectory := by
  simp only [connect, isRead] at connected
  split at connected
  · cases connected
  · split at connected
    · cases connected
    · cases connected
      rfl

/-- What can be done with a table. -/
def tableActions : List String := ["columns", "rows", "search"]

theorem isPlain_of_mem_tableActions (isAction : action ∈ tableActions) : IsPlain action := by
  have all : ∀ action ∈ tableActions, IsPlain action := by decide
  exact all action isAction

/-- A call that is about a table is one of the actions on tables. -/
theorem exists_action
    (client : Client)
    (ofTable : call.slug? = some slug) :
    ∃ action ∈ tableActions, client.address call = client.tableEndpoint slug action := by
  cases call <;> cases ofTable
  · exact ⟨"columns", by decide, rfl⟩
  · exact ⟨"rows", by decide, rfl⟩
  · exact ⟨"search", by decide, rfl⟩

/-- A call about no table goes to an endpoint below the base. -/
theorem exists_endpoint
    (client : Client)
    (ofNone : call.slug? = none) :
    ∃ first rest, client.address call = client.endpoint (first :: rest) := by
  cases call <;> cases ofNone
  · exact ⟨"auth", ["signup"], rfl⟩
  · exact ⟨"tables", [""], rfl⟩

theorem tableEndpoint_eq
    (service : url.IsService)
    (base : client.base = url.asDirectory)
    (slug : String)
    (isAction : action ∈ tableActions) :
    client.tableEndpoint slug action =
      url.withSegments (tableSegments url.tableFolders (Turn.ofText slug) ++ [action]) := by
  rw [tableEndpoint, base,
    Url.appendSegments_eq service (isPlain_of_mem_tableActions isAction)]

/-! ## Tables are told apart -/

/-- What the address of an action tells of the table. -/
structure TellsSlug (client : Client) (url : Url) (slug action : String) : Prop where
  /-- It leads to where the base leads. -/
  origin : (client.tableEndpoint slug action).SharesOrigin url
  /-- Behind the folders of the base, it stands for the tables, the slug and the action,
  unless the slug is made of dots or has tabs or line breaks, or the path of the base is
  two slashes. -/
  path : (client.tableEndpoint slug action).decodedPath =
      url.asDirectory.decodedPath.dropLast ++
        [some "tables".toList, some slug.toList, some action.toList] ↔
    (slug ≠ "." ∧ slug ≠ ".." ∧
        ∀ character ∈ slug.toList, Url.Reader.isDroppable character = false) ∧
      url.pathText ≠ "//"
  /-- It is that of another action or table only where the turns are the same. -/
  apart : ∀ otherSlug, ∀ otherAction ∈ tableActions,
    ((client.tableEndpoint slug action).text = (client.tableEndpoint otherSlug otherAction).text ↔
      Turn.ofText slug = Turn.ofText otherSlug ∧ action = otherAction)

/-- The address of an action on a table keeps to the base and tells which table it is,
whatever the slug is, up to dots, tabs and line breaks. -/
theorem table_address_tells_slug
    (accepted : Config.Check.url baseUrl field domain = .ok ())
    (isRead : Url.parse baseUrl = .ok url)
    (connected : connect baseUrl userAgent = .ok client)
    (isAction : action ∈ tableActions) :
    client.TellsSlug url slug action := by
  have service := isService_of_accepted accepted isRead
  have base := base_of_connect isRead connected
  have plain := isPlain_of_mem_tableActions isAction
  have address := tableEndpoint_eq service base slug isAction
  have isSegment := Url.isSegment_tableSegments service plain (Turn.ofText slug)
  refine ⟨?_, ?_, ?_⟩
  · rw [address]
    exact Url.sharesOrigin_withSegments url _
  · rw [address, Url.decodedPath_of_segments rfl isSegment, Url.decodedPath_asDirectory service,
      Url.map_decode?_tableSegments_eq_iff plain, Url.Turn.ofText_eq_enter_iff]
    exact and_congr_right' (not_congr (Url.folders_eq_iff service))
  · intro otherSlug otherAction isOther
    have otherPlain := isPlain_of_mem_tableActions isOther
    rw [address, tableEndpoint_eq service base otherSlug isOther,
      Url.text_withSegments_inj service.hasHost isSegment
        (Url.isSegment_tableSegments service otherPlain _)]
    simp [Url.tableSegments_inj]

/-- A slug of marks that divide and end paths stays one segment below its base. -/
theorem table_address_tells_slug_of_marks :
    ∃ url client,
      Config.Check.url "https://me@h:8443/api?v=2#top" "url" "target" = .ok () ∧
        Url.parse "https://me@h:8443/api?v=2#top" = .ok url ∧
        connect "https://me@h:8443/api?v=2#top" "agent" = .ok client ∧
        "rows" ∈ tableActions ∧
        client.TellsSlug url "../é?%2E#" "rows" ∧
        (client.tableEndpoint "../é?%2E#" "rows").pathText =
          "/api/tables/..%2F%C3%A9%3F%252E%23/rows" := by
  let url : Url :=
    { scheme := "https", username := "me", host := some (.named "h"), port := some 8443
      path := .rooted ["api"], query := some "v=2", fragment := some "top" }
  have accepted : Config.Check.url "https://me@h:8443/api?v=2#top" "url" "target" = .ok () := by
    decide +kernel
  have isRead : Url.parse "https://me@h:8443/api?v=2#top" = .ok url := by decide +kernel
  have connected :
      connect "https://me@h:8443/api?v=2#top" "agent" = .ok ⟨url.asDirectory⟩ := by
    decide +kernel
  have isAction : "rows" ∈ tableActions := by decide
  exact ⟨url, ⟨url.asDirectory⟩, accepted, isRead, connected, isAction,
    table_address_tells_slug accepted isRead connected isAction, by decide +kernel⟩

/-- A slug of one dot is left out of its address, and a tab within a slug makes no
difference. -/
theorem table_address_loses_slug :
    Config.Check.url "http://127.0.0.1/" "url" "target" = .ok () ∧
      ∃ client, connect "http://127.0.0.1/" "agent" = .ok client ∧
        (client.tableEndpoint "." "columns").pathText = "/tables/columns" ∧
        (client.tableEndpoint "." "columns").decodedPath ≠
          [some "tables".toList, some ".".toList, some "columns".toList] ∧
        "a\tb" ≠ "ab" ∧
        (client.tableEndpoint "a\tb" "columns").text =
          (client.tableEndpoint "ab" "columns").text := by
  let client : Client :=
    ⟨{ scheme := "http", host := some (.ipv4 0x7F000001), path := .rooted [""] }⟩
  refine ⟨by decide +kernel, client, by decide +kernel, by decide +kernel, ?_, by decide,
    by decide +kernel⟩
  intro same
  have lengths := congrArg List.length same
  revert lengths
  decide +kernel

/-! ## What addresses share with their base -/

/-- What the addresses of a client share with its base. -/
structure SharesBase (client : Client) (url : Url) : Prop where
  /-- They lead to where the base leads. -/
  origin : ∀ call, (client.address call).SharesOrigin url
  /-- They go on from the directory of the base, except that a path of two slashes is no
  directory for tables. -/
  below : ∀ call, (client.address call).IsBelow url.asDirectory ↔
    call.slug? = none ∨ url.pathText ≠ "//"
  /-- Those of tables alone keep the query of the base. -/
  query : ∀ call, (client.address call).query = if call.slug? = none then none else url.query

/-- The folders of the base are on the way to an endpoint. -/
theorem endpoint_eq
    (base : client.base = url.asDirectory)
    (segments : List String) :
    client.endpoint segments =
      { url.asDirectory.withSegments (url.folders ++ segments) with
        query := none, fragment := none } := by
  rw [endpoint, base]
  rfl

/-- An action on a table is found below the directory of the base unless its path is two
slashes. -/
theorem isBelow_tableEndpoint
    (service : url.IsService)
    (base : client.base = url.asDirectory)
    (slug : String)
    (isAction : action ∈ tableActions) :
    (client.tableEndpoint slug action).IsBelow url.asDirectory ↔ url.pathText ≠ "//" := by
  rw [tableEndpoint_eq service base slug isAction]
  obtain ⟨first, rest, segments, atTop⟩ :=
    Url.exists_tableSegments_eq_append url.tableFolders (Turn.ofText slug) action
  rw [segments]
  by_cases slashes : url.pathText = "//"
  · have alone : url.folders = [""] := (Url.folders_eq_iff service).mpr slashes
    have none : url.tableFolders = [] := by rw [Url.tableFolders, if_pos alone]
    have named : ∀ segment ∈ "tables" :: tableActions, segment ≠ "" := by decide
    have isFirst : first ∈ "tables" :: tableActions := by
      rcases atTop none with rfl | rfl <;> simp [isAction]
    have isSegment := Url.isSegment_tableSegments service
      (isPlain_of_mem_tableActions isAction) (Turn.ofText slug) first (by simp [segments])
    have directory : url.asDirectory.pathText = "//" := by
      rw [Url.asDirectory_eq service.isBase, alone]
      rfl
    refine iff_of_false ?_ (not_not_intro slashes)
    exact Url.not_isBelow_of_segment directory isSegment (named first isFirst)
      (by rw [none]; rfl)
  · have kept : url.folders ≠ [""] := mt (Url.folders_eq_iff service).mp slashes
    have all : url.tableFolders = url.folders := by rw [Url.tableFolders, if_neg kept]
    rw [all]
    exact iff_of_true (Url.isBelow_asDirectory service.isBase rfl) slashes

/-- What the address of one call shares with the base: where it leads, the directory
and the query. -/
theorem address_shares
    (service : url.IsService)
    (base : client.base = url.asDirectory)
    (call : Call) :
    (client.address call).SharesOrigin url ∧
      ((client.address call).IsBelow url.asDirectory ↔ call.slug? = none ∨ url.pathText ≠ "//") ∧
      (client.address call).query = if call.slug? = none then none else url.query := by
  cases ofSlug : call.slug? with
  | none =>
      have toDirectory : url.asDirectory.SharesOrigin url := by
        rw [Url.asDirectory_eq service.isBase]
        exact Url.sharesOrigin_withSegments url _
      obtain ⟨first, rest, address⟩ := client.exists_endpoint ofSlug
      rw [address, endpoint_eq base, if_pos rfl]
      refine ⟨?_, iff_of_true (Url.isBelow_asDirectory service.isBase rfl) (.inl rfl), rfl⟩
      exact ⟨toDirectory.scheme, toDirectory.username, toDirectory.password, toDirectory.host,
        toDirectory.port⟩
  | some slug =>
      obtain ⟨action, isAction, address⟩ := client.exists_action ofSlug
      have below := isBelow_tableEndpoint service base slug isAction
      rw [tableEndpoint_eq service base slug isAction] at address below
      rw [address, if_neg (by simp)]
      exact ⟨Url.sharesOrigin_withSegments url _, by simpa using below, rfl⟩

theorem sharesBase
    (service : url.IsService)
    (base : client.base = url.asDirectory) :
    client.SharesBase url where
  origin := fun call => (address_shares service base call).1
  below := fun call => (address_shares service base call).2.1
  query := fun call => (address_shares service base call).2.2

/-- All addresses of a client lead to where its base leads.  They go on from one
directory exactly if the path of the base is not two slashes, and all of them or
none keep the query of the base exactly if it has none. -/
theorem addresses_share_their_base
    (accepted : Config.Check.url baseUrl field domain = .ok ())
    (isRead : Url.parse baseUrl = .ok url)
    (connected : connect baseUrl userAgent = .ok client) :
    client.SharesBase url ∧
      ((∀ call, (client.address call).IsBelow url.asDirectory) ↔ url.pathText ≠ "//") ∧
      ((∀ call, (client.address call).query = url.query) ∨
          (∀ call, (client.address call).query = none) ↔
        url.query = none) := by
  have shared := sharesBase (isService_of_accepted accepted isRead)
    (base_of_connect isRead connected)
  let ofTable : Call := .addRow "" "" .null
  let ofNone : Call := .createTable { name := "" }
  refine ⟨shared, ?_, ?_⟩
  · refine ⟨fun below => ?_, fun apart call => (shared.below call).mpr (.inr apart)⟩
    exact ((shared.below ofTable).mp (below ofTable)).resolve_left (by simp [ofTable, Call.slug?])
  · constructor
    · rintro (kept | left)
      · exact (kept ofNone).symm.trans (shared.query ofNone)
      · exact (shared.query ofTable).symm.trans (left ofTable)
    · intro none
      refine .inr fun call => ?_
      rw [shared.query call, none, ite_self]

/-- Below a plain base all addresses share the directory, and none has a query. -/
theorem addresses_share_a_plain_base :
    ∃ url client,
      Config.Check.url "https://h/api//v1" "url" "target" = .ok () ∧
        Url.parse "https://h/api//v1" = .ok url ∧
        connect "https://h/api//v1" "agent" = .ok client ∧
        (∀ call, (client.address call).IsBelow url.asDirectory) ∧
        url.asDirectory.pathText = "/api//v1/" ∧
        ∀ call, (client.address call).query = none := by
  let url : Url :=
    { scheme := "https", host := some (.named "h"), path := .rooted ["api", "", "v1"] }
  have accepted : Config.Check.url "https://h/api//v1" "url" "target" = .ok () := by
    decide +kernel
  have isRead : Url.parse "https://h/api//v1" = .ok url := by decide +kernel
  have connected : connect "https://h/api//v1" "agent" = .ok ⟨url.asDirectory⟩ := by
    decide +kernel
  obtain ⟨-, below, query⟩ := addresses_share_their_base accepted isRead connected
  refine ⟨url, ⟨url.asDirectory⟩, accepted, isRead, connected, below.mpr (by decide +kernel),
    by decide +kernel, ?_⟩
  exact (query.mpr rfl).elim id id

/-- The query of a base is kept for the columns of a table and not for its creation, and
below two slashes tables are found in another directory. -/
theorem addresses_leave_their_base :
    (∃ url client,
      Config.Check.url "http://127.0.0.1/?q=1" "url" "target" = .ok () ∧
        Url.parse "http://127.0.0.1/?q=1" = .ok url ∧
        connect "http://127.0.0.1/?q=1" "agent" = .ok client ∧
        ¬((∀ call, (client.address call).query = url.query) ∨
          ∀ call, (client.address call).query = none)) ∧
      ∃ url client,
        Config.Check.url "http://127.0.0.1//" "url" "target" = .ok () ∧
          Url.parse "http://127.0.0.1//" = .ok url ∧
          connect "http://127.0.0.1//" "agent" = .ok client ∧
          ¬∀ call, (client.address call).IsBelow url.asDirectory := by
  let host : Url.Host := .ipv4 0x7F000001
  let ofTable : Call := .addRow "t" "t:0" .null
  constructor
  · let url : Url := { scheme := "http", host, path := .rooted [""], query := some "q=1" }
    refine ⟨url, ⟨url⟩, by decide +kernel, by decide +kernel, by decide +kernel, ?_⟩
    rintro (kept | left)
    · exact absurd (kept (.createTable ⟨"t"⟩)) (by decide +kernel)
    · exact absurd (left ofTable) (by decide +kernel)
  · let url : Url := { scheme := "http", host, path := .rooted ["", ""] }
    refine ⟨url, ⟨url⟩, by decide +kernel, by decide +kernel, by decide +kernel, ?_⟩
    intro below
    exact absurd (below ofTable) (by decide +kernel)

end Client
end Api
end TenantLoad
