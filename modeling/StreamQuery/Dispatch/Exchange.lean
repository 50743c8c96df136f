import StreamQuery.Dispatch.Transport
import StreamQuery.Response.Collected
import StreamQuery.Response.ErrorBody
/-!
# Exchanges

An exchange sends one request, waits for the head of the response, and where the whole body is
wanted reads it to its end.
-/

namespace StreamQuery.Dispatch

open Response

inductive Exchange where
  | unsent
  | awaitingHead (answer : Answer) (due : Nat)
  | collecting (status : Nat) (body : Body) (collected : Collected)

/-- How an exchange goes on. -/
inductive ExchangeStep where
  | onward (exchange : Exchange)
  | blocked (exchange : Exchange)
  | failed (error : RequestError)
  | head (status : Nat) (body : Body)
  | whole (status : Nat) (bytes : ByteArray)

namespace Exchange

/-- One part more of a body that is read whole. -/
def collect (now : Nat) (limit status : Nat) (body : Body) (collected : Collected) :
    ExchangeStep :=
  match body.poll now with
  | .part bytes rest =>
      match collected.add? limit bytes with
      | some more => .onward (.collecting status rest more)
      | none => .failed (.protocol (.bodyTooLong limit))
  | .finished => .whole status collected.bytes
  | .broken cause => .failed (.cannotRead cause)
  | .awaited waiting => .blocked (.collecting status waiting collected)

def step (now : Nat) (limit : Nat) (post : Post) (transport : Transport) :
    Exchange → ExchangeStep × Transport
  | .unsent =>
      let (answered, transport) := transport.send post
      match answered with
      | .ok answer => (.onward (.awaitingHead answer (now + answer.latency)), transport)
      | .error error => (.failed error, transport)
  | .awaitingHead answer due =>
      if due ≤ now then (.head answer.status answer.body, transport)
      else (.blocked (.awaitingHead answer due), transport)
  | .collecting status body collected => (collect now limit status body collected, transport)

/-- When the exchange can go on, where it waits for a point in time. -/
def due? : Exchange → Option Nat
  | .unsent => none
  | .awaitingHead _ due => some due
  | .collecting _ body _ => body.due

/-- True while a response is open at the transport. -/
def isOpen : Exchange → Bool
  | .unsent => false
  | _ => true

/-- The number of parts and bytes that may still be read. -/
def remaining : Exchange → Nat
  | .unsent => 0
  | .awaitingHead answer _ => answer.body.remaining
  | .collecting _ body _ => body.remaining

end Exchange

/-- What a response that was read whole amounts to. -/
def wholeResult (status : Nat) (bytes : ByteArray) : Except RequestError ByteArray :=
  if isSuccess status then .ok bytes else .error (.badStatus status (errorText bytes))

end StreamQuery.Dispatch
