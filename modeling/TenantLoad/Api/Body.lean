import TenantLoad.Json.Printer
import TenantLoad.Json.Record

/-!
# Bodies of requests and answers

Every body has a written form and is read back by the names or, as a list, by
the positions of its fields.
-/

namespace TenantLoad
namespace Api

/-- A request to sign up. -/
structure Signup where
  email : String
  username : String
  name : String
  password : String
  orgSlug : String
  deriving Repr, DecidableEq

namespace Signup

/-- The written form of a signup. -/
def toJson (signup : Signup) : Json :=
  .object
    [("email", .text signup.email), ("username", .text signup.username),
      ("name", .text signup.name), ("password", .text signup.password),
      ("org_slug", .text signup.orgSlug)]

/-- Read a signup. -/
def read? (data : Json.Nested) : Option Signup := do
  let fields ← Source.fields? ["email", "username", "name", "password", "org_slug"] data
  match fields with
  | [email, username, name, password, orgSlug] =>
    pure
      { email := ← Source.required? Source.text? email
        username := ← Source.required? Source.text? username
        name := ← Source.required? Source.text? name
        password := ← Source.required? Source.text? password
        orgSlug := ← Source.required? Source.text? orgSlug }
  | _ => none

end Signup

/-- A request for a new table. -/
structure NewTable where
  name : String
  deriving Repr, DecidableEq

namespace NewTable

/-- The written form of a request for a table. -/
def toJson (table : NewTable) : Json := .object [("name", .text table.name)]

/-- Read a request for a table. -/
def read? (data : Json.Nested) : Option NewTable := do
  match ← Source.fields? ["name"] data with
  | [name] => pure { name := ← Source.required? Source.text? name }
  | _ => none

end NewTable

/-- What the service tells of a table. -/
structure TableInfo where
  slug : Option String
  name : Option String
  deriving Repr, DecidableEq

namespace TableInfo

/-- Read what the service tells of a table. -/
def read? (data : Json.Nested) : Option TableInfo := do
  let optionalText (field : Option Json.Nested) :=
    Source.defaulted? none (Source.optional? Source.text?) field
  match ← Source.fields? ["slug", "name"] data with
  | [slug, name] => pure { slug := ← optionalText slug, name := ← optionalText name }
  | _ => none

end TableInfo

/-- The answer to a request for a table. -/
structure TableCreated where
  created : Option Bool
  table : Option TableInfo
  deriving Repr, DecidableEq

namespace TableCreated

/-- Read the answer to a request for a table. -/
def read? (data : Json.Nested) : Option TableCreated := do
  match ← Source.fields? ["created", "table"] data with
  | [created, table] =>
    pure
      { created := ← Source.defaulted? none (Source.optional? Source.boolean?) created
        table := ← Source.defaulted? none (Source.optional? TableInfo.read?) table }
  | _ => none

/-- The slug of the table, if there is one that is not empty. -/
def slug? (answer : TableCreated) : Option String :=
  (answer.table.bind TableInfo.slug).filter fun slug => slug ≠ ""

end TableCreated

/-- The types of columns. -/
inductive ColumnType where
  | text
  | choice
  | number
  | truth
  deriving Repr, DecidableEq

namespace ColumnType

/-- The word for a type. -/
def word : ColumnType → String
  | .text => "text"
  | .choice => "enum"
  | .number => "float"
  | .truth => "bool"

/-- All types by their words. -/
def words : List (String × ColumnType) :=
  [.text, .choice, .number, .truth].map fun type => (type.word, type)

end ColumnType

/-- The definition of a column. -/
structure Column where
  name : String
  type : ColumnType
  required : Bool := false
  indexed : Bool := false
  /-- The values that a column may be restricted to. -/
  values : Option (List String) := none
  deriving Repr, DecidableEq

namespace Column

/-- The column with a value in every row. -/
def asRequired (column : Column) : Column := { column with required := true }

/-- The column with an index. -/
def asIndexed (column : Column) : Column := { column with indexed := true }

/-- The column restricted to some values. -/
def withValues (column : Column) (values : List String) : Column :=
  { column with values := some values }

/-- The written form of a column: no values are left out. -/
def toJson (column : Column) : Json :=
  .object
    ([("name", .text column.name), ("type", .text column.type.word),
      ("required", .boolean column.required), ("indexed", .boolean column.indexed)] ++
      match column.values with
      | none => []
      | some values => [("enum_values", .list (values.map .text))])

/-- Read a column. -/
def read? (data : Json.Nested) : Option Column := do
  let fields ← Source.fields? ["name", "type", "required", "indexed", "enum_values"] data
  match fields with
  | [name, type, required, indexed, values] =>
    pure
      { name := ← Source.required? Source.text? name
        type := ← Source.required? (Source.choice? ColumnType.words) type
        required := ← Source.required? Source.boolean? required
        indexed := ← Source.required? Source.boolean? indexed
        values :=
          ← Source.defaulted? none (Source.optional? (Source.list? Source.text?)) values }
  | _ => none

end Column

/-- The directions of sorting. -/
inductive Direction where
  | ascending
  | descending
  deriving Repr, DecidableEq

namespace Direction

/-- The word for a direction. -/
def word : Direction → String
  | .ascending => "asc"
  | .descending => "desc"

/-- All directions by their words. -/
def words : List (String × Direction) :=
  [.ascending, .descending].map fun direction => (direction.word, direction)

end Direction

/-- A condition on one column. -/
structure Filter where
  field : String
  operation : String
  value : Json

namespace Filter

/-- The operation that asks for equal values. -/
def equality : String := "eq"

/-- The condition that a column has a value. -/
def equal (field : String) (value : Json) : Filter := ⟨field, equality, value⟩

/-- The written form of a condition. -/
def toJson (filter : Filter) : Json :=
  .object [("field", .text filter.field), ("operation", .text filter.operation),
    ("value", filter.value)]

/-- Read a condition. -/
def read? (data : Json.Nested) : Option Filter := do
  match ← Source.fields? ["field", "operation", "value"] data with
  | [field, operation, value] =>
    pure
      { field := ← Source.required? Source.text? field
        operation := ← Source.required? Source.text? operation
        value := ← Source.required? Json.Nested.value? value }
  | _ => none

end Filter

/-- A search of a table. -/
structure Search where
  pageNumber : Nat
  pageSize : Nat
  filters : List Filter
  sortField : String
  direction : Direction

namespace Search

/-- The written form of a search. -/
def toJson (search : Search) : Json :=
  .object
    [("pageNum", .natural search.pageNumber), ("pageSize", .natural search.pageSize),
      ("filterFields", .list (search.filters.map Filter.toJson)),
      ("sortField", .text search.sortField), ("direction", .text search.direction.word)]

/-- Read a search. -/
def read? (data : Json.Nested) : Option Search := do
  let fields ←
    Source.fields? ["pageNum", "pageSize", "filterFields", "sortField", "direction"] data
  match fields with
  | [pageNumber, pageSize, filters, sortField, direction] =>
    pure
      { pageNumber := ← Source.required? (Source.natural? 32) pageNumber
        pageSize := ← Source.required? (Source.natural? 32) pageSize
        filters := ← Source.required? (Source.list? Filter.read?) filters
        sortField := ← Source.required? Source.text? sortField
        direction := ← Source.required? (Source.choice? Direction.words) direction }
  | _ => none

end Search

/-- The answer to a search. -/
structure SearchResult where
  content : List Json
  totalCount : Int
  columns : List Json

namespace SearchResult

/-- The written form of an answer to a search. -/
def toJson (result : SearchResult) : Json :=
  .object [("content", .list result.content), ("total_count", .integer result.totalCount),
    ("columns", .list result.columns)]

/-- Read an answer to a search: the columns may be absent. -/
def read? (data : Json.Nested) : Option SearchResult := do
  match ← Source.fields? ["content", "total_count", "columns"] data with
  | [content, totalCount, columns] =>
    pure
      { content := ← Source.required? (Source.list? Json.Nested.value?) content
        totalCount :=
          ← Source.required? (Source.integer? (-9223372036854775808) 9223372036854775807) totalCount
        columns := ← Source.defaulted? [] (Source.list? Json.Nested.value?) columns }
  | _ => none

end SearchResult
end Api
end TenantLoad
