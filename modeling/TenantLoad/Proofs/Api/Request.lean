import TenantLoad.Api.Client
import TenantLoad.Text.Number

/-!
# Requests of calls

Whether a call is sent depends on its key alone: a call without one is always
sent, and one with a key exactly if the key may stand in a header.  The key of a
row may stand there exactly if the slug of the table may, since a colon and
digits always may.
-/

namespace TenantLoad
namespace Api

/-- The texts that may stand in a header do so piece by piece. -/
theorem isHeaderText_append
    (left right : String) :
    isHeaderText (left ++ right) = (isHeaderText left && isHeaderText right) := by
  simp only [isHeaderText, String.toList_append, List.all_append]

/-- A decimal number may stand in a header. -/
theorem isHeaderText_toString
    (number : Nat) :
    isHeaderText (toString number) = true := by
  apply List.all_eq_true.mpr
  intro character member
  have digit := Text.isDigit_of_mem_repr member
  simp only [Char.isDigit, Bool.and_eq_true, decide_eq_true_eq] at digit
  have atLeast : 0x30 ≤ character.toNat := digit.1
  have atMost : character.toNat ≤ 0x39 := digit.2
  simp only [Bool.or_eq_true, Bool.and_eq_true, decide_eq_true_eq]
  exact .inr ⟨by omega, by omega⟩

namespace Call

theorem rowKey_eq
    (slug : String)
    (row : Nat) :
    rowKey slug row = slug ++ ":" ++ toString row := rfl

/-- The slug alone decides whether the key of a row may stand in a header. -/
theorem isHeaderText_rowKey
    (slug : String)
    (row : Nat) :
    isHeaderText (rowKey slug row) = isHeaderText slug := by
  have colon : isHeaderText ":" = true := by decide
  rw [rowKey_eq, isHeaderText_append, isHeaderText_append, colon, isHeaderText_toString,
    Bool.and_true, Bool.and_true]

/-- The key of a call, where it has one, may stand in a header. -/
def IsSendable (call : Call) : Prop := ∀ key, call.key? = some key → isHeaderText key = true

/-- The key is found under the name of its header. -/
theorem lookup_headers
    (call : Call) :
    call.headers.lookup keyHeader = call.key? := by
  cases keyed : call.key? <;> simp [headers, keyed]

theorem isSendable_iff
    (call : Call) :
    call.IsSendable ↔ (call.headers.all fun header => isHeaderText header.2) = true := by
  cases keyed : call.key? <;> simp [IsSendable, headers, keyed]

end Call

namespace Client

variable {client : Client} {call : Call}

/-- The request of a call that is sent. -/
theorem request_eq_ok_iff
    {request : Request} :
    client.request call = .ok request ↔
      call.IsSendable ∧
        request = { url := client.address call, headers := call.headers, body := call.body } := by
  rw [Client.request, Call.isSendable_iff]
  by_cases sendable : (call.headers.all fun header => isHeaderText header.2) = true
  · rw [if_pos sendable, Except.ok.injEq, eq_comm]
    exact (and_iff_right sendable).symm
  · rw [if_neg sendable]
    exact ⟨nofun, fun sent => absurd sent.1 sendable⟩

/-- A call is sent exactly if its key, where it has one, may stand in a header. -/
theorem exists_request_iff :
    (∃ request, client.request call = .ok request) ↔ call.IsSendable := by
  simp only [request_eq_ok_iff, exists_and_left, exists_eq, and_true]

end Client

end Api
end TenantLoad
