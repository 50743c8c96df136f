import Mathlib.Data.List.Basic
import StreamQuery.Client.Query
import StreamQuery.Dispatch.Event
/-!
# What a query yields

A consumer of a stream gets one item for each row and each failure until the query ends. A query that
is read whole gives the rows alone, or the first failure in their place.
-/

namespace StreamQuery.Client

open Dispatch Response Row

/-- All rows, or the first failure. -/
def collect {α : Type} (items : List (Except RequestError α)) : Except RequestError (List α) :=
  items.mapM id

theorem collect_ok {α : Type} (values : List α) :
    collect (values.map .ok) = .ok values := by
  unfold collect
  induction values with
  | nil => rfl
  | cons value rest induction =>
      rw [List.map_cons, List.mapM_cons, induction]
      rfl

theorem collect_error {α : Type} (before : List α) (error : RequestError)
    (after : List (Except RequestError α)) :
    collect (before.map .ok ++ .error error :: after) = .error error := by
  unfold collect
  induction before with
  | nil => rfl
  | cons value rest induction =>
      rw [List.map_cons, List.cons_append, List.mapM_cons, induction]
      rfl

/-- What an event is for a consumer, and what comes after it. -/
def RowEvent.before (event : RowEvent) (later : List (Except RequestError RecordValue)) :
    List (Except RequestError RecordValue) :=
  match event with
  | .nothing => later
  | .row value => .ok value :: later
  | .failed error => .error error :: later
  | .ended => []

namespace RowReader

/-- The items of a query that consists of some messages. -/
def items : List Message → RowReader → List (Except RequestError RecordValue)
  | [], _ => []
  | message :: rest, reader =>
      (reader.react message).2.before (items rest (reader.react message).1)

/-- The items that the chunks of a stream amount to. -/
def yields : List (Except RequestError String) → RowReader → List (Except RequestError RecordValue)
  | [], _ => []
  | .error error :: rest, reader => .error error :: yields rest reader
  | .ok line :: rest, reader =>
      (reader.readLine line).2.before (yields rest (reader.readLine line).1)

/-- To read a whole query is to collect what a stream of it yields. -/
theorem readAll_collect (messages : List Message) (reader : RowReader) :
    reader.readAll messages = collect (reader.items messages) := by
  induction messages generalizing reader with
  | nil => rfl
  | cons message rest induction =>
      rw [readAll, items]
      split
      · next reaction => rw [reaction, induction]; rfl
      · next reaction =>
          rw [reaction, induction]
          simp only [RowEvent.before, collect, List.mapM_cons]
          cases List.mapM id (items rest _) <;> rfl
      · next reaction => rw [reaction]; rfl
      · next reaction => rw [reaction]; rfl

end RowReader

/-- A failure to decode a row is counted, and nothing else happens by it. -/
theorem noteFailure_run (error : RequestError) (client : Client) :
    ∃ events, (∀ event ∈ events, event = .countFailure) ∧
      (noteFailure error).run client =
        ((), { client with dispatcher := client.dispatcher.play events }) := by
  unfold noteFailure
  split
  · exact ⟨[.countFailure], List.forall_mem_singleton.mpr rfl, rfl⟩
  · exact ⟨[], List.forall_mem_nil _, rfl⟩

end StreamQuery.Client
