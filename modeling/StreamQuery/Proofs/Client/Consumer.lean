import StreamQuery.Client.Query
import StreamQuery.Proofs.Client.Rows
import StreamQuery.Proofs.Dispatch.Taking
/-!
# Consumers of a stream

Each row that a client asks for takes some chunks from the channel of its stream, and what was taken
in the end means just the rows and failures that the client has got. The account is kept for chunks
yet to come as well, so that the accounts of single rows add up to that of a whole reading.
-/

namespace StreamQuery.Client

open Dispatch Row

namespace Delivery

variable {α : Type}

/-- The item of a delivery, if there is one. -/
def items : Delivery α → List (Except RequestError α)
  | .item found => [found]
  | _ => []

def isEnd : Delivery α → Bool
  | .ended => true
  | _ => false

end Delivery

variable {client : Client} {index : Nat}

theorem takeChunk_takes (present : (client.dispatcher.streams[index]?).isSome = true) :
    ∃ chunk after, (takeChunk index).run client =
        (chunk, { client with dispatcher := after }) ∧
      Takes index client.dispatcher chunk.items chunk.isEnd.toNat after := by
  have taken {items ends} (hears : client.dispatcher.hears index (.receive index) =
      items.map some ++ List.replicate ends none) :
      Takes index client.dispatcher items ends (client.dispatcher.receive index).2 :=
    ⟨[.receive index], rfl, by simp [Event.keepsChannel], fun written => by
      rw [← hears]
      rfl⟩
  rcases Dispatcher.receive_present present with
    ⟨item, rest, got, hears⟩ | ⟨got, hears⟩ | ⟨got, hears⟩
  · refine ⟨.item item, _, ?_, @taken [item] 0 hears⟩
    simp [takeChunk, got]
    rfl
  · refine ⟨.ended, _, ?_, @taken [] 1 hears⟩
    simp [takeChunk, got]
    rfl
  · refine ⟨.pending, _, ?_, @taken [] 0 hears⟩
    simp [takeChunk, got]
    rfl

/-- A consumer that may wait gets the next chunk, or finds that it has not come in time. -/
theorem awaitChunk_takes (present : (client.dispatcher.streams[index]?).isSome = true)
    (target : Nat) :
    ∃ chunk after, (awaitChunk index target).run client =
        (chunk, { client with dispatcher := after }) ∧
      Takes index client.dispatcher chunk.items chunk.isEnd.toNat after := by
  have waits : Takes index client.dispatcher [] 0
      (client.dispatcher.runUntil (isReceivable index) target) :=
    .leads (client.dispatcher.runUntil_leads _ _)
  obtain ⟨chunk, after, taken, takes⟩ := @takeChunk_takes
    { client with dispatcher := client.dispatcher.runUntil (isReceivable index) target } index
    (waits.present present)
  exact ⟨chunk, after, taken, waits.trans takes⟩

/-- What a consumer reads of a stream: items that the chunks it takes amount to, and whether it
comes to the end. It closes the stream itself where the messages say that the query has ended. -/
inductive Reads (index : Nat) (before : Dispatcher) (reader : RowReader)
    (items : List (Except RequestError RecordValue)) : Bool → RowReader → Dispatcher → Prop where
  | taken {chunks done next after} (takes : Takes index before chunks (Bool.toNat done) after)
      (means : ∀ later, reader.yields (chunks ++ later) = items ++ next.yields later) :
      Reads index before reader items done next after
  | closed {chunks next between} (takes : Takes index before chunks 0 between)
      (means : ∀ later, reader.yields (chunks ++ later) = items) :
      Reads index before reader items true next (between.closeStream index)

namespace Reads

variable {before between after : Dispatcher} {reader middle next : RowReader}
  {first second : List (Except RequestError RecordValue)} {done : Bool}

theorem refl (index : Nat) (before : Dispatcher) (reader : RowReader) :
    Reads index before reader [] false reader before :=
  .taken (.leads (Dispatcher.leads_refl before)) fun _ => rfl

theorem trans (left : Reads index before reader first false middle between)
    (right : Reads index between middle second done next after) :
    Reads index before reader (first ++ second) done next after := by
  cases left with
  | @taken earlier _ _ _ taken meant =>
      cases right with
      | @taken chunks _ _ _ takes means =>
          refine .taken (taken.trans takes) fun later => ?_
          rw [List.append_assoc, meant, means, List.append_assoc]
      | @closed chunks _ _ takes means =>
          refine .closed (taken.trans takes) fun later => ?_
          rw [List.append_assoc, meant, means]

theorem present (reads : Reads index before reader first done next after)
    (found : (before.streams[index]?).isSome = true) :
    (after.streams[index]?).isSome = true := by
  cases reads with
  | taken takes => exact takes.present found
  | closed takes => exact Dispatcher.play_present [.closeStream index] _ (takes.present found)

end Reads

/-- A chunk is taken at once, or waited for where the consumer may wait. -/
theorem chunkFor_takes (present : (client.dispatcher.streams[index]?).isSome = true)
    (target : Nat) (patient : Bool) :
    ∃ chunk after, (chunkFor index target patient).run client =
        (chunk, { client with dispatcher := after }) ∧
      Takes index client.dispatcher chunk.items chunk.isEnd.toNat after := by
  obtain ⟨chunk, after, taken, takes⟩ := takeChunk_takes present
  unfold chunkFor
  rw [StateT.run_bind, taken]
  cases chunk with
  | item item => exact ⟨_, _, rfl, takes⟩
  | ended => exact ⟨_, _, rfl, takes⟩
  | pending =>
      cases patient with
      | false => exact ⟨_, _, rfl, takes⟩
      | true =>
          obtain ⟨chunk, later, awaited, got⟩ := @awaitChunk_takes
            { client with dispatcher := after } index (takes.present present) target
          exact ⟨chunk, later, awaited, takes.trans got⟩

theorem noteFailure_takes (error : RequestError) (client : Client) (index : Nat) :
    ∃ after, (noteFailure error).run client = ((), { client with dispatcher := after }) ∧
      Takes index client.dispatcher [] 0 after := by
  obtain ⟨events, counting, noted⟩ := noteFailure_run error client
  refine ⟨_, noted, .spared (fun event member => ?_) client.dispatcher⟩
  rw [counting event member]
  rfl

/-- What a consumer gets as a row is what its chunks amount to. -/
theorem readRow_reads (target : Nat) (patient : Bool) (fuel : Nat) (rows : RowStream)
    (present : (client.dispatcher.streams[rows.index]?).isSome = true) :
    ∃ next delivery after, (readRow target patient fuel rows).run client =
        (({ rows with reader := next }, delivery), { client with dispatcher := after }) ∧
      Reads rows.index client.dispatcher rows.reader delivery.items delivery.isEnd next after := by
  induction fuel generalizing client rows with
  | zero => exact ⟨rows.reader, .pending, _, rfl, .refl _ _ _⟩
  | succ fuel induction =>
      obtain ⟨chunk, between, taken, takes⟩ := chunkFor_takes present target patient
      unfold readRow
      have given : (chunkFor rows.index target patient).run client =
          pure (chunk, { client with dispatcher := between }) := taken
      rw [StateT.run_bind, given, pure_bind]
      cases chunk with
      | pending => exact ⟨rows.reader, .pending, between, rfl, .taken takes fun _ => rfl⟩
      | ended => exact ⟨rows.reader, .ended, between, rfl, .taken takes fun _ => rfl⟩
      | item chunk =>
          cases chunk with
          | error error =>
              exact ⟨rows.reader, .item (.error error), between, rfl, .taken takes fun _ => rfl⟩
          | ok line =>
              have means (later : List (Except RequestError String)) :
                  rows.reader.yields (.ok line :: later) = (rows.reader.readLine line).2.before
                    ((rows.reader.readLine line).1.yields later) := rfl
              cases reaction : rows.reader.readLine line with
              | mk reader event =>
                  rw [reaction] at means
                  simp only [reaction]
                  cases event with
                  | nothing =>
                      obtain ⟨next, delivery, after, ran, reads⟩ := @induction
                        { client with dispatcher := between } { rows with reader := reader }
                        (takes.present present)
                      have first : Reads rows.index client.dispatcher rows.reader [] false reader
                          between := .taken takes means
                      exact ⟨next, delivery, after, ran, first.trans reads⟩
                  | row value =>
                      exact ⟨reader, .item (.ok value), between, rfl, .taken takes means⟩
                  | failed error =>
                      obtain ⟨after, noted, counted⟩ := noteFailure_takes error
                        { client with dispatcher := between } rows.index
                      refine ⟨reader, .item (.error error), after, ?_,
                        .taken (takes.trans counted) fun later => means later⟩
                      simp only [StateT.run_bind, noted]
                      rfl
                  | ended =>
                      exact ⟨reader, .ended, _, rfl, .closed takes means⟩

theorem nextRow_reads (wait : Nat) (rows : RowStream)
    (present : (client.dispatcher.streams[rows.index]?).isSome = true) :
    ∃ next delivery after, (nextRow wait rows).run client =
        (({ rows with reader := next }, delivery), { client with dispatcher := after }) ∧
      Reads rows.index client.dispatcher rows.reader delivery.items delivery.isEnd next after := by
  have settles : Takes rows.index client.dispatcher [] 0 client.dispatcher.settle :=
    .leads client.dispatcher.settle_leads
  have first : Reads rows.index client.dispatcher rows.reader [] false rows.reader
      client.dispatcher.settle := .taken settles fun _ => rfl
  obtain ⟨next, delivery, after, ran, reads⟩ := @readRow_reads
    { client with dispatcher := client.dispatcher.settle } _ _ _ rows (settles.present present)
  exact ⟨next, delivery, after, ran, first.trans reads⟩

/-! ### A whole reading -/

/-- What happens until a consumer asks for the next row, and how long it waits for it then. -/
structure Turn where
  meanwhile : List Event
  wait : Nat

/-- Reads a stream for some turns, at most to its end; the answer tells whether it has come to it. -/
def readRows : List Turn → RowStream →
    StateM Client (List (Except RequestError RecordValue) × Bool)
  | [], _ => return ([], false)
  | turn :: rest, rows => do
      modifyDispatcher fun dispatcher => dispatcher.play turn.meanwhile
      match ← nextRow turn.wait rows with
      | (_, .ended) => return ([], true)
      | (rows, .pending) => readRows rest rows
      | (rows, .item item) => do
          let (items, done) ← readRows rest rows
          return (item :: items, done)

/-- The consumer of a stream is the only one that takes from its channel, or closes or drops it. -/
def Turn.Spares (index : Nat) (turn : Turn) : Prop :=
  ∀ event ∈ turn.meanwhile, event.spares index = true

theorem readRows_reads (turns : List Turn) (rows : RowStream)
    (spares : ∀ turn ∈ turns, turn.Spares rows.index)
    (present : (client.dispatcher.streams[rows.index]?).isSome = true) :
    ∃ items done next after, (readRows turns rows).run client =
        ((items, done), { client with dispatcher := after }) ∧
      Reads rows.index client.dispatcher rows.reader items done next after := by
  induction turns generalizing client rows with
  | nil => exact ⟨[], false, rows.reader, _, rfl, .refl _ _ _⟩
  | cons turn rest induction =>
      have others : ∀ turn ∈ rest, turn.Spares rows.index :=
        fun turn member => spares turn (List.mem_cons_of_mem _ member)
      have played : Takes rows.index client.dispatcher [] 0
          (client.dispatcher.play turn.meanwhile) :=
        .spared (spares turn List.mem_cons_self) _
      have first : Reads rows.index client.dispatcher rows.reader [] false rows.reader
          (client.dispatcher.play turn.meanwhile) := .taken played fun _ => rfl
      obtain ⟨next, delivery, between, asked, reads⟩ := @nextRow_reads
        { client with dispatcher := client.dispatcher.play turn.meanwhile } turn.wait rows
        (played.present present)
      have given : (nextRow turn.wait rows).run
            { client with dispatcher := client.dispatcher.play turn.meanwhile } =
          pure (({ rows with reader := next }, delivery), { client with dispatcher := between }) :=
        asked
      have started : (readRows (turn :: rest) rows).run client =
          (match delivery with
            | .ended => return ([], true)
            | .pending => readRows rest { rows with reader := next }
            | .item item => do
                let (items, done) ← readRows rest { rows with reader := next }
                return (item :: items, done) : StateM Client _).run
            { client with dispatcher := between } := by
        rw [readRows, StateT.run_bind]
        change (_ >>= _ : StateM Client _).run
          { client with dispatcher := client.dispatcher.play turn.meanwhile } = _
        rw [StateT.run_bind, given, pure_bind]
        cases delivery <;> rfl
      rw [started]
      cases delivery with
      | ended => exact ⟨[], true, next, between, rfl, first.trans reads⟩
      | pending =>
          obtain ⟨items, done, last, after, ran, more⟩ := @induction
            { client with dispatcher := between } { rows with reader := next } others
            (reads.present (played.present present))
          exact ⟨items, done, last, after, ran, first.trans (reads.trans more)⟩
      | item item =>
          obtain ⟨items, done, last, after, ran, more⟩ := @induction
            { client with dispatcher := between } { rows with reader := next } others
            (reads.present (played.present present))
          refine ⟨item :: items, done, last, after, ?_, first.trans (reads.trans more)⟩
          rw [StateT.run_bind, ran]
          rfl

end StreamQuery.Client
