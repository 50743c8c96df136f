import StreamQuery.Settings
/-!
# Contexts

A context bounds requests by a deadline and by a cancellation signal. A context made from another
one keeps the earlier deadline, and a signal made from another one is raised after it: for each such
pair a relay watches the source and passes its signal on. A relay ends when it has passed the signal
on, when nobody can raise the source any more, or when nobody watches its own signal.
-/

namespace StreamQuery.Dispatch

structure Context where
  /-- A point in time, in nanoseconds. -/
  deadline : Option Nat
  /-- The place of the signal among all signals. -/
  signal : Option Nat
  deriving DecidableEq, Repr

namespace Context

/-- No deadline, never cancelled. -/
def background : Context :=
  ⟨none, none⟩

/-- Keeps the earlier of two deadlines. -/
def withDeadline (deadline : Nat) (context : Context) : Context :=
  { context with deadline := some ((context.deadline.map (min deadline)).getD deadline) }

def withTimeout (now timeout : Nat) (context : Context) : Context :=
  context.withDeadline (now + timeout)

def isExpired (now : Nat) (context : Context) : Bool :=
  context.deadline.any (· ≤ now)

/-- The deadline, or one a timeout from now. -/
def deadlineOr (now timeout : Nat) (context : Context) : Nat :=
  context.deadline.getD (now + timeout)

end Context

structure Signal where
  raised : Bool
  /-- True while the handle that raises the signal is kept. -/
  handled : Bool
  /-- How many contexts watch the signal. -/
  watchers : Nat
  /-- The signal that this one was made from. -/
  source : Option Nat
  /-- True while the relay from the source runs. -/
  relaying : Bool
  deriving DecidableEq, Repr

/-- All signals, each under the number of its place. -/
structure Cancellation where
  signals : List Signal
  deriving Repr

namespace Cancellation

def empty : Cancellation :=
  ⟨[]⟩

def modify (id : Nat) (change : Signal → Signal) (cancellation : Cancellation) :
    Cancellation :=
  ⟨cancellation.signals.modify id change⟩

/-- A new signal with its handle and one context, made from another signal if there is one. -/
def derive (source : Option Nat) (cancellation : Cancellation) : Cancellation × Nat :=
  (⟨cancellation.signals ++ [⟨false, true, 1, source, source.isSome⟩]⟩,
    cancellation.signals.length)

def raise (id : Nat) : Cancellation → Cancellation :=
  modify id fun signal => { signal with raised := true }

def dropHandle (id : Nat) : Cancellation → Cancellation :=
  modify id fun signal => { signal with handled := false }

def shareContext (id : Nat) : Cancellation → Cancellation :=
  modify id fun signal => { signal with watchers := signal.watchers + 1 }

def dropContext (id : Nat) : Cancellation → Cancellation :=
  modify id fun signal => { signal with watchers := signal.watchers - 1 }

def isRaised (cancellation : Cancellation) (id : Nat) : Bool :=
  (cancellation.signals[id]?).any Signal.raised

def isCancelled (cancellation : Cancellation) (context : Context) : Bool :=
  context.signal.any cancellation.isRaised

/-- True while a handle or a relay can still raise the signal. -/
def canBeRaised (cancellation : Cancellation) (id : Nat) : Bool :=
  (cancellation.signals[id]?).any fun signal => signal.handled || signal.relaying

/-- True while a context or a relay watches the signal. -/
def isWatched (cancellation : Cancellation) (id : Nat) : Bool :=
  (cancellation.signals[id]?).any (fun signal => 0 < signal.watchers) ||
    cancellation.signals.any fun signal => signal.relaying && signal.source = some id

/-- One look of the relay of a signal at its source; the answer tells whether the relay has ended
by it. -/
def relay (id : Nat) (cancellation : Cancellation) : Cancellation × Bool :=
  match cancellation.signals[id]? with
  | some ⟨_, _, _, some source, true⟩ =>
      if cancellation.isRaised source then
        (cancellation.modify id fun signal => { signal with raised := true, relaying := false },
          true)
      else if cancellation.canBeRaised source && cancellation.isWatched id then
        (cancellation, false)
      else
        (cancellation.modify id fun signal => { signal with relaying := false }, true)
  | _ => (cancellation, false)

/-- The signals whose relays watch a signal. -/
def relaysFrom (cancellation : Cancellation) (id : Nat) : List Nat :=
  (List.range cancellation.signals.length).filter fun other =>
    (cancellation.signals[other]?).any fun signal => signal.relaying && signal.source = some id

end Cancellation

end StreamQuery.Dispatch
