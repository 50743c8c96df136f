/-!
# Channels

A channel keeps what a stream has read until its consumer takes it, up to a fixed number of items.
The consumer may close the channel: what is kept can still be taken, and nothing is added. It may
also drop the channel with all that it keeps.
-/

namespace StreamQuery.Dispatch

/-- How many items a channel keeps. -/
def channelCapacity : Nat := 64

inductive Receiver where
  | listening
  | closed
  | dropped
  deriving DecidableEq, Repr

structure Channel (α : Type) where
  kept : List α
  receiver : Receiver
  /-- True when the sender is gone. -/
  finished : Bool
  deriving Repr

/-- What a consumer finds in a channel. -/
inductive Received (α : Type) where
  | item (item : α) (rest : Channel α)
  | ended
  | pending

namespace Channel

variable {α : Type}

def empty : Channel α :=
  ⟨[], .listening, false⟩

def isListening (channel : Channel α) : Bool :=
  channel.receiver = .listening

def hasRoom (channel : Channel α) : Bool :=
  channel.kept.length < channelCapacity

def push (item : α) (channel : Channel α) : Channel α :=
  { channel with kept := channel.kept ++ [item] }

def receive (channel : Channel α) : Received α :=
  match channel.kept with
  | item :: rest => .item item { channel with kept := rest }
  | [] => if channel.finished || !channel.isListening then .ended else .pending

/-- True when a consumer need not wait. -/
def isReceivable (channel : Channel α) : Bool :=
  !channel.kept.isEmpty || channel.finished || !channel.isListening

def close (channel : Channel α) : Channel α :=
  { channel with receiver := if channel.receiver = .dropped then .dropped else .closed }

def drop (channel : Channel α) : Channel α :=
  { channel with kept := [], receiver := .dropped }

def finish (channel : Channel α) : Channel α :=
  { channel with finished := true }

end Channel

end StreamQuery.Dispatch
