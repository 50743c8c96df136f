import StreamQuery.Settings
/-!
# Bodies as they arrive

A body is a sequence of parts. Each part arrives a fixed pause after it is asked for. After the last
part the body is complete, breaks off, or stays open for ever.
-/

namespace StreamQuery.Response

inductive Ending where
  | complete
  | held
  | broken (cause : String)
  deriving DecidableEq, Repr

structure Body where
  parts : List ByteArray
  pause : Nat
  ending : Ending
  /-- When the part that was asked for arrives. -/
  due : Option Nat

/-- What a reader finds when it asks for the next part. -/
inductive Arrival where
  | part (bytes : ByteArray) (rest : Body)
  | finished
  | broken (cause : String)
  | awaited (body : Body)

namespace Body

def empty : Body :=
  ⟨[], 0, .complete, none⟩

/-- Asks for the next part at a point in time. -/
def poll (now : Nat) (body : Body) : Arrival :=
  match body.parts with
  | [] =>
      match body.ending with
      | .complete => .finished
      | .held => .awaited body
      | .broken cause => .broken cause
  | part :: rest =>
      if body.pause = 0 then
        .part part { body with parts := rest }
      else
        match body.due with
        | none => .awaited { body with due := some (now + body.pause) }
        | some due =>
            if due ≤ now then .part part { body with parts := rest, due := none }
            else .awaited body

/-- The number of parts and bytes still to come. -/
def remaining (body : Body) : Nat :=
  body.parts.foldl (fun total part => total + part.size + 1) 0

end Body

end StreamQuery.Response
