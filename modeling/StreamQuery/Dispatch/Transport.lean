import StreamQuery.Request.Error
import StreamQuery.Response.Body
/-!
# A scripted transport

Requests are answered from a script: the next answer in line, then a standing answer, and without
one as if nobody were there. An answer is a response or a failure of the line. What was posted is
kept for inspection.
-/

namespace StreamQuery.Dispatch

open Response

/-- A request body and where it is posted to. -/
structure Post where
  path : String
  body : String
  deriving DecidableEq, Repr

/-- A response: its head arrives a while after the request, its body after the head. -/
structure Answer where
  status : Nat
  latency : Nat
  body : Body

/-- True for the statuses of success. -/
def isSuccess (status : Nat) : Bool :=
  200 ≤ status && status < 300

inductive Scripted where
  | answer (answer : Answer)
  | failure (error : RequestError)

structure Transport where
  queue : List Scripted
  standing : Option Scripted
  /-- How many requests were sent. -/
  sends : Nat
  /-- How many of them a failure of the line cut off. -/
  failures : Nat
  /-- What was posted, the latest first. -/
  posts : List Post

namespace Transport

def ofScript (queue : List Scripted) (standing : Option Scripted) : Transport :=
  ⟨queue, standing, 0, 0, []⟩

/-- The next scripted answer. -/
def next? (transport : Transport) : Option Scripted × Transport :=
  match transport.queue with
  | scripted :: rest => (some scripted, { transport with queue := rest })
  | [] => (transport.standing, transport)

def send (post : Post) (transport : Transport) : Except RequestError Answer × Transport :=
  let (scripted, rest) := { transport with sends := transport.sends + 1 }.next?
  match scripted with
  | none => (.error (.cannotDial "no scripted response"), rest)
  | some (.failure error) => (.error error, { rest with failures := rest.failures + 1 })
  | some (.answer answer) => (.ok answer, { rest with posts := post :: rest.posts })

end Transport

end StreamQuery.Dispatch
