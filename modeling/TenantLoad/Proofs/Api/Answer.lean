import TenantLoad.Proofs.Api.Request
import TenantLoad.Proofs.Json.Record

/-!
# What answers say

The shapes of the bodies that calls look at, and what every answer makes of
every call.  An answer that succeeded is never worth another attempt, whatever
its body is and whatever statuses are.
-/

namespace TenantLoad
namespace Api

open Json (Gives IsBoolean IsInteger IsList IsText Nested Optionally)

variable {data : Nested}

/-! ## Shapes of bodies -/

/-- The data tells of a table: its slug and its name may be absent. -/
def TableInfo.Shape (data : Nested) (info : TableInfo) : Prop :=
  ∃ slug name, Gives ["slug", "name"] data [slug, name] ∧
    Optionally IsText slug info.slug ∧ Optionally IsText name info.name

/-- The data answers a request for a table: all of it may be absent. -/
def TableCreated.Shape (data : Nested) (created : TableCreated) : Prop :=
  ∃ flag table, Gives ["created", "table"] data [flag, table] ∧
    Optionally IsBoolean flag created.created ∧ Optionally TableInfo.Shape table created.table

/-- The data answers a search: with a list of what was found, a number of 64 bits
and maybe a list of columns. -/
def SearchResult.Shape (data : Nested) (result : SearchResult) : Prop :=
  ∃ content totalCount columns,
    Gives ["content", "total_count", "columns"] data [some content, some totalCount, columns] ∧
      IsList content result.content ∧
      IsInteger (-9223372036854775808) 9223372036854775807 totalCount result.totalCount ∧
      (columns = none ∧ result.columns = [] ∨
        ∃ listed, columns = some listed ∧ IsList listed result.columns)

theorem TableInfo.read?_eq_some_iff
    {info : TableInfo} :
    TableInfo.read? data = some info ↔ TableInfo.Shape data info := by
  obtain ⟨slug, name⟩ := info
  simp only [TableInfo.read?, Option.bind_eq_bind, Option.bind_eq_some_iff,
    Json.fields?_eq_some_iff, Json.Gives.exists_pair_iff,
    Json.defaulted?_optional?_eq_some_iff, Json.text?_eq_some_iff, Option.pure_def,
    Option.some.injEq, TableInfo.mk.injEq, ↓existsAndEq, and_true, TableInfo.Shape]

theorem TableCreated.read?_eq_some_iff
    {created : TableCreated} :
    TableCreated.read? data = some created ↔ TableCreated.Shape data created := by
  obtain ⟨flag, table⟩ := created
  simp only [TableCreated.read?, Option.bind_eq_bind, Option.bind_eq_some_iff,
    Json.fields?_eq_some_iff, Json.Gives.exists_pair_iff,
    Json.defaulted?_optional?_eq_some_iff, Json.boolean?_eq_some_iff,
    TableInfo.read?_eq_some_iff, Option.pure_def, Option.some.injEq, TableCreated.mk.injEq,
    ↓existsAndEq, and_true, TableCreated.Shape]

theorem SearchResult.read?_eq_some_iff
    {result : SearchResult} :
    SearchResult.read? data = some result ↔ SearchResult.Shape data result := by
  obtain ⟨content, totalCount, columns⟩ := result
  simp only [SearchResult.read?, Option.bind_eq_bind, Option.bind_eq_some_iff,
    Json.fields?_eq_some_iff, Json.Gives.exists_triple_iff, Source.required?,
    Json.list?_eq_some_iff, Json.integer?_eq_some_iff, Json.defaulted?_list?_eq_some_iff,
    Option.pure_def, Option.some.injEq, SearchResult.mk.injEq, SearchResult.Shape]
  constructor
  · rintro ⟨_, _, columns, gives, _, ⟨content, rfl, ofContent⟩, _, ⟨count, rfl, ofCount⟩, _,
      ofColumns, rfl, rfl, rfl⟩
    exact ⟨content, count, columns, gives, ofContent, ofCount, ofColumns⟩
  · rintro ⟨content, count, columns, gives, ofContent, ofCount, ofColumns⟩
    exact ⟨_, _, columns, gives, _, ⟨content, rfl, ofContent⟩, _, ⟨count, rfl, ofCount⟩, _,
      ofColumns, rfl, rfl, rfl⟩

/-! ## Results of calls -/

/-- The body is a JSON text of a shape. -/
def Answer.Tells {Value : Type} (answer : Answer) (Shape : Nested → Value → Prop)
    (value : Value) : Prop :=
  ∃ written, Json.Written.parse? answer.body = some written ∧
    Shape ⟨Json.Written.levelLimit, written⟩ value

/-- How the attempt at a call ends that is answered. -/
def Answer.attempt (answer : Answer) (call : Call) : Attempt :=
  match answer.result call with
  | .ok reply => .returned reply
  | .error error => .failed error

section Results

variable {answer : Answer}

/-- What a body tells of a new table is what is read. -/
theorem Answer.tells_tableCreated_iff
    {created : TableCreated} :
    answer.Tells TableCreated.Shape created ↔
      Json.readRecord? TableCreated.read? answer.body = some created := by
  simp only [Answer.Tells, Json.readRecord?, Option.bind_eq_some_iff,
    TableCreated.read?_eq_some_iff]

theorem Answer.tells_searchResult_iff
    {result : SearchResult} :
    answer.Tells SearchResult.Shape result ↔
      Json.readRecord? SearchResult.read? answer.body = some result := by
  simp only [Answer.Tells, Json.readRecord?, Option.bind_eq_some_iff,
    SearchResult.read?_eq_some_iff]

/-- The slug of a new table is one that is told and not empty. -/
theorem TableCreated.slug?_eq_some_iff
    {created : TableCreated}
    {slug : String} :
    created.slug? = some slug ↔
      slug ≠ "" ∧ ∃ info, created.table = some info ∧ info.slug = some slug := by
  simp only [TableCreated.slug?, Option.filter_eq_some_iff, Option.bind_eq_some_iff,
    decide_eq_true_eq]
  exact and_comm

theorem TableCreated.slug?_eq_none_iff
    {created : TableCreated} :
    created.slug? = none ↔
      ∀ info slug, created.table = some info → info.slug = some slug → slug = "" := by
  simp only [Option.eq_none_iff_forall_ne_some, ne_eq, slug?_eq_some_iff]
  constructor
  · intro unnamed info slug ofTable ofInfo
    by_contra named
    exact unnamed slug ⟨named, info, ofTable, ofInfo⟩
  · rintro empty slug ⟨named, info, ofTable, ofInfo⟩
    exact named (empty info slug ofTable ofInfo)

/-- What an answer that succeeded makes of the creation of a table. -/
theorem Answer.result_createTable
    (succeeded : answer.isSuccess = true)
    (table : NewTable) :
    answer.result (.createTable table) =
      match Json.readRecord? TableCreated.read? answer.body with
      | none => .error (.invalidBody answer.status shapeFault)
      | some created =>
        match created.slug? with
        | none => .error (.missingField answer.status "table.slug")
        | some slug => .ok ⟨answer.status, .slug slug⟩ := by
  simp only [Answer.result, succeeded, if_true, Answer.content]
  cases Json.readRecord? TableCreated.read? answer.body with
  | none => rfl
  | some created => cases named : created.slug? <;> simp [Except.map, named]

/-- What an answer that succeeded makes of a search. -/
theorem Answer.result_search
    (succeeded : answer.isSuccess = true)
    (slug : String)
    (search : Search) :
    answer.result (.search slug search) =
      match Json.readRecord? SearchResult.read? answer.body with
      | none => .error (.invalidBody answer.status shapeFault)
      | some result => .ok ⟨answer.status, .found result⟩ := by
  simp only [Answer.result, succeeded, if_true, Answer.content]
  cases Json.readRecord? SearchResult.read? answer.body <;> rfl

/-- A call that is answered fails by the status of the answer or, after a success, by its
body. -/
theorem Answer.error_of_result
    {call : Call}
    {error : Error}
    (fails : answer.result call = .error error) :
    answer.isSuccess = false ∧ error = .rejected answer.status answer.body ∨
      answer.isSuccess = true ∧
        ((∃ field, error = .missingField answer.status field) ∨
          ∃ message, error = .invalidBody answer.status message) := by
  cases succeeded : answer.isSuccess with
  | false =>
      rw [Answer.result, succeeded] at fails
      exact .inl ⟨rfl, (Except.error.inj fails).symm⟩
  | true =>
      refine .inr ⟨rfl, ?_⟩
      cases call with
      | createTable table =>
          rw [result_createTable succeeded] at fails
          split at fails
          · exact .inr ⟨_, (Except.error.inj fails).symm⟩
          · split at fails
            · exact .inl ⟨_, (Except.error.inj fails).symm⟩
            · cases fails
      | search slug search =>
          rw [result_search succeeded] at fails
          split at fails
          · exact .inr ⟨_, (Except.error.inj fails).symm⟩
          · cases fails
      | signup | addColumn | addRow => simp [Answer.result, succeeded, content, Except.map] at fails

end Results

/-- What an answer makes of every call. -/
structure Answer.Settles (answer : Answer) : Prop where
  /-- A call is sent exactly if its key, where it has one, may stand in a header. -/
  sent : ∀ (client : Client) (call : Call),
    (∃ request, client.request call = .ok request) ↔ call.IsSendable
  /-- A call that is sent and answered ends as the answer says. -/
  performed : ∀ (network : Network) (client : Client) (call : Call) (request : Request),
    client.request call = .ok request → network request = .ok answer →
      network.perform client call = answer.result call
  /-- Without a success all calls fail alike. -/
  rejected : answer.isSuccess = false → ∀ call,
    answer.result call = .error (.rejected answer.status answer.body)
  /-- The body is not looked at by most calls. -/
  plain : answer.isSuccess = true → ∀ call, call.stage ≠ .createTable → call.stage ≠ .search →
    answer.result call = .ok ⟨answer.status, .nothing⟩
  created : answer.isSuccess = true → ∀ table slug,
    answer.result (.createTable table) = .ok ⟨answer.status, .slug slug⟩ ↔
      slug ≠ "" ∧ ∃ created info, answer.Tells TableCreated.Shape created ∧
        created.table = some info ∧ info.slug = some slug
  nameless : answer.isSuccess = true → ∀ table,
    answer.result (.createTable table) = .error (.missingField answer.status "table.slug") ↔
      ∃ created, answer.Tells TableCreated.Shape created ∧
        ∀ info slug, created.table = some info → info.slug = some slug → slug = ""
  uncreated : answer.isSuccess = true → ∀ table,
    (∃ message, answer.result (.createTable table) = .error (.invalidBody answer.status message)) ↔
      ∀ created, ¬answer.Tells TableCreated.Shape created
  found : answer.isSuccess = true → ∀ slug search result,
    answer.result (.search slug search) = .ok ⟨answer.status, .found result⟩ ↔
      answer.Tells SearchResult.Shape result
  unfound : answer.isSuccess = true → ∀ slug search,
    (∃ message, answer.result (.search slug search) =
        .error (.invalidBody answer.status message)) ↔
      ∀ result, ¬answer.Tells SearchResult.Shape result
  /-- Every failure carries the status of the answer. -/
  status : ∀ call error, answer.result call = .error error → error.status? = some answer.status

theorem Answer.settles (answer : Answer) : answer.Settles where
  sent := fun _ _ => Client.exists_request_iff
  performed := by
    intro network client call request asked answered
    simp only [Network.perform, asked, bind, Except.bind, answered]
  rejected := by
    intro failed call
    simp [Answer.result, failed]
  plain := by
    intro succeeded call notCreation notSearch
    cases call <;> first
      | exact absurd rfl notCreation
      | exact absurd rfl notSearch
      | simp [Answer.result, succeeded, Answer.content, Except.map]
  created := by
    intro succeeded table slug
    rw [result_createTable succeeded]
    have told : (slug ≠ "" ∧ ∃ created info, answer.Tells TableCreated.Shape created ∧
        created.table = some info ∧ info.slug = some slug) ↔
          ∃ created, answer.Tells TableCreated.Shape created ∧ created.slug? = some slug := by
      simp only [TableCreated.slug?_eq_some_iff]
      grind
    rw [told]
    simp only [tells_tableCreated_iff]
    cases isRead : Json.readRecord? TableCreated.read? answer.body with
    | none => simp
    | some created => cases named : created.slug? <;> simp [named]
  nameless := by
    intro succeeded table
    rw [result_createTable succeeded]
    simp only [← TableCreated.slug?_eq_none_iff, tells_tableCreated_iff]
    cases isRead : Json.readRecord? TableCreated.read? answer.body with
    | none => simp
    | some created => cases named : created.slug? <;> simp [named]
  uncreated := by
    intro succeeded table
    rw [result_createTable succeeded]
    simp only [tells_tableCreated_iff]
    cases isRead : Json.readRecord? TableCreated.read? answer.body with
    | none => simp
    | some created => cases named : created.slug? <;> simp [named]
  found := by
    intro succeeded slug search result
    rw [result_search succeeded, tells_searchResult_iff]
    cases isRead : Json.readRecord? SearchResult.read? answer.body <;> simp
  unfound := by
    intro succeeded slug search
    rw [result_search succeeded]
    simp only [tells_searchResult_iff]
    cases isRead : Json.readRecord? SearchResult.read? answer.body <;> simp
  status := by
    intro call error fails
    rcases error_of_result fails with ⟨-, rfl⟩ | ⟨-, ⟨_, rfl⟩ | ⟨_, rfl⟩⟩ <;> rfl

/-- A failure is worth another attempt if there was no answer, or if its status is in the
set or is that of a bad request whose body shows a signature. -/
theorem Error.verdict_eq_retry_iff
    {classifier : Retry.Classifier}
    {error : Error} :
    error.verdict classifier = .retry ↔
      error.isTransport = true ∨
        ∃ status body, error = .rejected status body ∧
          (status ∈ classifier.statuses ∨
            status = 400 ∧ Pattern.isMatch classifier.signatures body.toList = true) := by
  cases error with
  | transport => simp [Error.verdict, Retry.Classifier.classify, Error.isTransport]
  | rejected status body =>
      have same : (∃ other text, Error.rejected status body = .rejected other text ∧
          (other ∈ classifier.statuses ∨
            other = 400 ∧ Pattern.isMatch classifier.signatures text.toList = true)) ↔
          status ∈ classifier.statuses ∨
            status = 400 ∧ Pattern.isMatch classifier.signatures body.toList = true := by
        simp
      rw [same, Error.verdict, Retry.Classifier.classify, Retry.bodyStatus]
      by_cases inSet : status ∈ classifier.statuses
      · simp [inSet]
      · by_cases bad : status = 400
        · subst bad
          simp [inSet, Error.isTransport]
        · simp [inSet, bad, Error.isTransport]
  | missingField | invalidBody | invalidUrl | client => simp [Error.verdict, Error.isTransport]

/-- A failure after a success is final, whatever the classifier. -/
theorem Answer.verdict_eq_fatal
    {answer : Answer}
    {call : Call}
    {error : Error}
    (succeeded : answer.isSuccess = true)
    (fails : answer.result call = .error error)
    (classifier : Retry.Classifier) :
    error.verdict classifier = .fatal := by
  rcases error_of_result fails with ⟨failed, -⟩ | ⟨-, ⟨_, rfl⟩ | ⟨_, rfl⟩⟩
  · rw [succeeded] at failed
    cases failed
  · rfl
  · rfl

end Api
end TenantLoad
