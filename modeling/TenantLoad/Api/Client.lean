import TenantLoad.Api.Call
import TenantLoad.Json.Printer
import TenantLoad.Url.Endpoint

/-!
# Connections to the service

A connection turns calls into requests below its base and answers into the
results of calls.  Everything but a status of the two hundreds is a failure,
and only the creation of a table and a search look at the body of an answer.
-/

namespace TenantLoad
namespace Api

/-- A connection to the service. -/
structure Client where
  /-- The directory that endpoints are found in. -/
  base : Url
  deriving Repr, DecidableEq

/-- A request: a body posted to an address. -/
structure Request where
  url : Url
  /-- The headers that the call asks for, with their names. -/
  headers : List (String × String)
  body : Json

/-- The key of a request that may be repeated. -/
def Request.key? (request : Request) : Option String := request.headers.lookup Call.keyHeader

/-- An answer to a request. -/
structure Answer where
  status : Nat
  body : String
  deriving Repr, DecidableEq

/-- Whether a text may stand in a header: it has no control characters but
tabs. -/
def isHeaderText (text : String) : Bool :=
  text.toList.all fun character =>
    character == '\t' || (0x20 ≤ character.toNat && character.toNat ≠ 0x7F)

/-- What is said of a text that may not stand in a header. -/
def headerFault : String := "builder error: failed to parse header value"

namespace Client

/-- A connection to a base; the user agent is sent with every request. -/
def connect (baseUrl userAgent : String) : Except Error Client :=
  match Url.parse baseUrl with
  | .error fault => .error (.invalidUrl fault.message)
  | .ok url =>
    if !url.isBase then .error (.invalidUrl url.text)
    else if !isHeaderText userAgent then .error (.client headerFault)
    else .ok ⟨url.asDirectory⟩

/-- The address of an endpoint that is no table's. -/
def endpoint (client : Client) (segments : List String) : Url := client.base.resolve segments

/-- The address of an action on a table. -/
def tableEndpoint (client : Client) (slug action : String) : Url :=
  client.base.dropEmptyLast.appendSegments ["tables", slug, action]

/-- The address that a call is sent to. -/
def address (client : Client) : Call → Url
  | .signup _ => client.endpoint ["auth", "signup"]
  | .createTable _ => client.endpoint ["tables", ""]
  | .addColumn slug _ => client.tableEndpoint slug "columns"
  | .addRow slug _ _ => client.tableEndpoint slug "rows"
  | .search slug _ => client.tableEndpoint slug "search"

/-- The request of a call; nothing is sent if its key may not stand in a
header. -/
def request (client : Client) (call : Call) : Except Error Request :=
  if call.headers.all fun header => isHeaderText header.2 then
    .ok { url := client.address call, headers := call.headers, body := call.body }
  else
    .error (.client headerFault)

end Client

namespace Answer

/-- Whether the status is that of a success. -/
def isSuccess (answer : Answer) : Bool := 200 ≤ answer.status && answer.status < 300

/-- What is said of a body that is not of the expected shape. -/
def shapeFault : String := "unexpected shape"

/-- The content that a call expects in an answer that succeeded. -/
def content (answer : Answer) : Call → Except Error Content
  | .createTable _ =>
    match Json.readRecord? TableCreated.read? answer.body with
    | none => .error (.invalidBody answer.status shapeFault)
    | some created =>
      match created.slug? with
      | none => .error (.missingField answer.status "table.slug")
      | some slug => .ok (.slug slug)
  | .search .. =>
    match Json.readRecord? SearchResult.read? answer.body with
    | none => .error (.invalidBody answer.status shapeFault)
    | some result => .ok (.found result)
  | _ => .ok .nothing

/-- The result of a call that is answered. -/
def result (answer : Answer) (call : Call) : Except Error Reply :=
  if answer.isSuccess then
    (answer.content call).map fun content => ⟨answer.status, content⟩
  else
    .error (.rejected answer.status answer.body)

end Answer

/-- What the network makes of a request: an answer, or why there is none. -/
abbrev Network := Request → Except String Answer

namespace Network

/-- The result of a call on a network. -/
def perform (network : Network) (client : Client) (call : Call) : Except Error Reply := do
  let request ← client.request call
  match network request with
  | .error reason => .error (.transport reason)
  | .ok answer => answer.result call

/-- What is said when there is no way to an address. -/
def unreachableFault : String :=
  "client error (Connect): tcp connect error: Network is unreachable (os error 101)"

/-- A network that reaches nothing; user names do not show in what it says. -/
def unreachable : Network := fun request =>
  let url := { request.url with username := "", password := "" }
  .error s!"error sending request for url ({url.text}): {unreachableFault}"

end Network
end Api
end TenantLoad
