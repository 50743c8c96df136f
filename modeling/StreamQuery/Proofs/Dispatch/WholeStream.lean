import Mathlib.Data.List.TakeWhile
import StreamQuery.Proofs.Dispatch.Served
import StreamQuery.Proofs.Text.Blanks
/-!
# Streams that are read to their end

A response that no blank line aborts is read to the final marker or to its own end, unless a line
grows past the limit. A stream whose answer is complete, has no blank line, and no line past the
limit has nothing to fail from and is never sent again. Its consumer gets the lines up to the final
marker, and the end after them.
-/

namespace StreamQuery.Dispatch

open Response Text

/-- A body that is read to its end, or to the final marker. -/
structure Readable (limit : Nat) (body : Body) : Prop where
  complete : body.ending = .complete
  visible : ∀ line ∈ body.lines, isBlankText line = false
  short : ∀ piece ∈ body.pieces, piece.length ≤ limit

/-- The lines of a body that are passed on. -/
def passedOn (body : Body) : List String :=
  body.lines.takeWhile isUnmarked

theorem isUnmarked_of_blank {line : String} (blank : isBlankText line = true) :
    isUnmarked line = true := by
  have unmarked : containsText Dispatcher.finalMarker.toList line.toList = false :=
    Bool.eq_false_iff.mpr fun inside => absurd (all_of_containsText inside blank) (by decide)
  rw [isUnmarked, unmarked]
  rfl

/-- All slots may have been in use as the stream stopped to read, but no line was blank. -/
def Sighting.IsClear (sighting : Sighting) : Prop :=
  sighting.full = some true → ∀ line ∈ sighting.body.lines, isBlankText line = false

theorem Readable.isClear {limit : Nat} {sighting : Sighting}
    (readable : Readable limit sighting.body) : sighting.IsClear :=
  fun _ => readable.visible

/-- The errors with which a response comes to its end, and what is so where no line was cut off. -/
inductive Closing (limit : Nat) (body : Body) (whole : Prop) : List RequestError → Prop where
  | ended (all : whole) : Closing limit body whole []
  | broken {cause} (ending : body.ending = .broken cause) (all : whole) :
      Closing limit body whole [.cannotRead cause]
  | overlong {piece} (member : piece ∈ body.pieces) (long : limit < piece.length) :
      Closing limit body whole [.protocol (.lineTooLong limit)]

theorem Closing.imp {limit : Nat} {body : Body} {whole other : Prop} {errors : List RequestError}
    (closing : Closing limit body whole errors) (implies : whole → other) :
    Closing limit body other errors := by
  cases closing with
  | ended all => exact .ended (implies all)
  | broken ending all => exact .broken ending (implies all)
  | overlong member long => exact .overlong member long

/-- A readable body ends without an error. -/
theorem Closing.readable {limit : Nat} {body : Body} {whole : Prop} {errors : List RequestError}
    (closing : Closing limit body whole errors) (readable : Readable limit body) :
    errors = [] ∧ whole := by
  cases closing with
  | ended all => exact ⟨rfl, all⟩
  | broken ending => cases ending.symm.trans readable.complete
  | overlong member long => exact absurd (readable.short _ member) (Nat.not_le.mpr long)

namespace Attempt.Records

variable {limit : Nat} {attempt : Attempt} {sighting : Sighting}

theorem begins (records : Records limit attempt sighting) : attempt.seen <+: attempt.body.lines :=
  (List.prefix_append _ _).trans records.reads.seen_begins

theorem unsaturated (records : Records limit attempt sighting) (clear : sighting.IsClear) :
    attempt.stop ≠ some .saturated := by
  intro stopped
  cases records.stops _ stopped with
  | saturated next blank =>
      have inside := next.subset (List.mem_append_right _ List.mem_cons_self)
      rw [records.body] at inside
      have visible := clear (records.full stopped) _ inside
      exact Bool.false_ne_true (visible.symm.trans blank)

/-- All lines that were dealt with were passed on. -/
theorem payload (records : Records limit attempt sighting)
    (readable : Readable limit attempt.body) : attempt.payload = attempt.seen := by
  refine List.filter_eq_self.mpr fun line member => ?_
  rw [readable.visible line (records.begins.subset member)]
  rfl

theorem seen_unmarked (records : Records limit attempt sighting) :
    ∀ line ∈ attempt.seen, isUnmarked line = true := by
  intro line member
  rcases records.unmarked line member with blank | ⟨content, unmarked⟩
  · exact isUnmarked_of_blank blank
  · rw [isUnmarked, unmarked]
    rfl

theorem seen_passed (records : Records limit attempt sighting) :
    attempt.seen <+: passedOn attempt.body := by
  obtain ⟨rest, lines⟩ := records.begins
  rw [passedOn, ← lines, List.takeWhile_append_of_pos records.seen_unmarked]
  exact List.prefix_append _ _

theorem seen_all (records : Records limit attempt sighting)
    (all : attempt.seen = attempt.body.lines) : attempt.seen = passedOn attempt.body := by
  rw [passedOn, ← all]
  exact (List.takeWhile_eq_self_iff.mpr records.seen_unmarked).symm

/-- Where an attempt was not interrupted, all lines up to the marker were passed on, unless a line
was too long. -/
theorem closing {stop : Stop} {errors : List RequestError}
    (records : Records limit attempt sighting) (clear : sighting.IsClear)
    (stopped : attempt.stop = some stop) (outcome : Outcome limit stop errors) :
    Closing limit attempt.body (attempt.seen = passedOn attempt.body) errors := by
  have stops := records.stops _ stopped
  cases outcome with
  | saturated => exact absurd stopped (records.unsaturated clear)
  | marker =>
      cases stops with
      | @marker line next content marker =>
          obtain ⟨rest, lines⟩ := next
          have marked : isUnmarked line = false := by rw [isUnmarked, marker]; rfl
          refine .ended ?_
          rw [passedOn, ← lines, List.append_assoc,
            List.takeWhile_append_of_pos records.seen_unmarked]
          simp [marked]
  | finished =>
      cases stops with
      | finished ending all => exact .ended (records.seen_all all)
  | broken =>
      cases stops with
      | broken ending all => exact .broken ending (records.seen_all all)
  | overlong =>
      cases stops with
      | overlong place long => exact .overlong (List.mem_of_getElem? place) long

end Attempt.Records

/-- The first response that was read has the first attempt. -/
theorem records_first {limit : Nat} {attempts : List Attempt} {sightings : List Sighting}
    (records : List.Forall₂ (Attempt.Records limit) attempts sightings) {sighting : Sighting}
    (found : sightings.getLast? = some sighting) :
    ∃ attempt, attempts.getLast? = some attempt ∧ attempt.Records limit sighting := by
  induction records with
  | nil => cases found
  | @cons attempt sighting' attempts sightings first rest induction =>
      cases rest with
      | nil =>
          cases found
          exact ⟨attempt, rfl, first⟩
      | cons second others =>
          rw [List.getLast?_cons_cons] at found ⊢
          exact induction found

/-- A stream whose first response is readable reads no other. -/
theorem Followed.single {limit : Nat} {task : StreamTask} {written : Chronicle}
    {attempts : List Attempt} {errors : List RequestError} {items : List Item} {ends : Nat}
    {body : Body} (followed : Followed limit task written attempts errors items ends)
    (first : written.sightings.getLast?.map Sighting.body = some body)
    (readable : Readable limit body) :
    ∃ attempt sighting, attempts = [attempt] ∧ attempt.body = body ∧
      attempt.Records limit sighting := by
  obtain ⟨sighting, found, same⟩ := Option.map_eq_some_iff.mp first
  obtain ⟨attempt, last, records⟩ := records_first followed.records found
  have body_eq : attempt.body = body := records.body.trans same
  refine ⟨attempt, sighting, ?_, body_eq, records⟩
  obtain ⟨before, rfl⟩ := List.getLast?_eq_some_iff.mp last
  cases before with
  | nil => rfl
  | cons latest between =>
      have resent := followed.stands.resent attempt (by simp)
      exact absurd resent (records.unsaturated (same.symm ▸ readable).isClear)

/-- The one attempt of an undisturbed stream: there is an error only as the stream leaves, and then
the response has come to its end. -/
theorem Stands.calm_single {limit : Nat} {stage : Stage} {attempt : Attempt}
    {sighting : Sighting} {errors : List RequestError}
    (stands : Stands limit false stage [attempt] errors)
    (records : attempt.Records limit sighting) (clear : sighting.IsClear) :
    (stage ≠ .leaving → errors = []) ∧ (stage = .leaving →
      Closing limit attempt.body (attempt.seen = passedOn attempt.body) errors) := by
  cases stands with
  | reading | between | failing => exact ⟨fun _ => rfl, fun leaving => by cases leaving⟩
  | leaving stopped outcome =>
      refine ⟨fun other => absurd rfl other, fun _ => ?_⟩
      exact records.closing clear stopped (outcome.resolve_right Bool.false_ne_true)

namespace Dispatcher

variable {index : Nat} {answer : Answer} {context : Context} {deadline : Nat}
  {dispatcher : Dispatcher} {written : Chronicle}

/-- The consumer of a readable answer that keeps its channel gets the lines that are passed on, and
an end only after all of them. -/
theorem Served.hears (served : Served index answer context deadline dispatcher written)
    (first : written.sightings.getLast?.map Sighting.body = some answer.body)
    (readable : Readable dispatcher.policy.lineLimit answer.body)
    (calm : dispatcher.isCancelled context = false)
    (current : dispatcher.isExpired context = false) :
    ∃ lines ends, written.heard =
        lines.map (fun line => some (.ok line)) ++ List.replicate ends none ∧
      lines <+: passedOn answer.body ∧ (0 < ends → lines = passedOn answer.body) := by
  obtain ⟨task, found, same, listening, meets⟩ := served.found
  obtain ⟨attempts, errors, items, ends, followed⟩ := served.follows.found task found
  obtain ⟨attempt, sighting, rfl, body, records⟩ := followed.single first readable
  rw [← body] at readable ⊢
  have undisturbed : written.disturbed = false := by
    refine Bool.eq_false_iff.mpr fun disturbed => ?_
    simpa [calm, current] using served.stirred disturbed
  have stands := followed.stands
  rw [undisturbed] at stands
  obtain ⟨silent, closes⟩ := stands.calm_single records (records.body ▸ readable).isClear
  have leaves (leaving : task.phase.stage = .leaving) :=
    (closes leaving).readable readable
  obtain rfl : errors = [] := by
    by_cases leaving : task.phase.stage = .leaving
    · exact (leaves leaving).1
    · exact silent leaving
  have passed : sent [attempt] [] = attempt.seen.map .ok := by
    simp [sent, delivered, records.payload readable]
  have hears := followed.hears
  have kept := hears.kept (by simp [listening])
  rw [passed, List.append_eq_map_iff] at kept
  obtain ⟨lines, waiting, seen, rfl, rest⟩ := kept
  refine ⟨lines, ends, ?_, ?_, fun some => ?_⟩
  · rw [hears.order]
    simp
  · exact (seen ▸ List.prefix_append _ _ : lines <+: attempt.seen).trans
      records.seen_passed
  · obtain ⟨none, spent⟩ := hears.spent some
    have finished : task.channel.finished = true :=
      spent.resolve_right (by simp [Channel.isListening, listening])
    have ended := (served.last task found).mp finished
    rw [none] at rest
    have nothing : waiting = [] := List.map_eq_nil_iff.mp rest
    rw [← (leaves (by rw [ended]; rfl)).2, seen, nothing, List.append_nil]

end Dispatcher

end StreamQuery.Dispatch
