import TenantLoad.Api.Body
import TenantLoad.Api.Error
import TenantLoad.Tenant.Stage

/-!
# Calls to the service

A call belongs to a stage and carries one body.  Only the insertion of a row
carries a key, which lets the service recognise a repeated attempt.
-/

namespace TenantLoad
namespace Api

/-- A call to the service. -/
inductive Call where
  | signup (signup : Signup)
  | createTable (table : NewTable)
  | addColumn (slug : String) (column : Column)
  | addRow (slug key : String) (row : Json)
  | search (slug : String) (search : Search)

namespace Call

/-- The stage of a call. -/
def stage : Call → Stage
  | .signup _ => .signup
  | .createTable _ => .createTable
  | .addColumn .. => .addColumn
  | .addRow .. => .addRow
  | .search .. => .search

/-- The body that a call sends. -/
def body : Call → Json
  | .signup identity => identity.toJson
  | .createTable table => table.toJson
  | .addColumn _ column => column.toJson
  | .addRow _ _ row => row
  | .search _ query => query.toJson

/-- The slug of the table that a call is about. -/
def slug? : Call → Option String
  | .signup _ | .createTable _ => none
  | .addColumn slug _ | .addRow slug _ _ | .search slug _ => some slug

/-- The key of a call that may be repeated without effect. -/
def key? : Call → Option String
  | .addRow _ key _ => some key
  | _ => none

/-- The name of the header that carries the key. -/
def keyHeader : String := "Idempotency-Key"

/-- The headers that a call asks for, with their names. -/
def headers (call : Call) : List (String × String) :=
  call.key?.toList.map fun key => (keyHeader, key)

/-- The key of the row of the given index of a table. -/
def rowKey (slug : String) (row : Nat) : String := s!"{slug}:{row}"

end Call

/-- What an answer that succeeded carries. -/
inductive Content where
  | nothing
  /-- The slug of a new table. -/
  | slug (slug : String)
  /-- The answer to a search. -/
  | found (result : SearchResult)

/-- An answer that succeeded. -/
structure Reply where
  status : Nat
  content : Content := .nothing

namespace Reply

/-- The slug of the table that an answer tells of, empty where it tells of
none. -/
def slug (reply : Reply) : String :=
  match reply.content with
  | .slug slug => slug
  | _ => ""

end Reply

/-- How an attempt at a call ended. -/
abbrev Attempt := Retry.Attempt Reply Error

end Api
end TenantLoad
