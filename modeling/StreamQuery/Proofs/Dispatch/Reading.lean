import StreamQuery.Dispatch.Task
import StreamQuery.Proofs.Response.Lines
/-!
# How far a stream has read

A stream that has taken some lines of a body keeps the rest of it: parts that have not come, lines
that have, and the beginning of a line. Whatever comes next, the lines taken are the first lines of
the body.
-/

namespace StreamQuery.Dispatch

open Response Text

/-- Some lines of a body were taken, and this is what is left of it. -/
inductive ReadsFrom (body : Body) (seen : List String) (reading : Reading) : Prop where
  | within {arrived taken} (parts : body.parts = arrived ++ reading.body.parts)
      (ending : reading.body.ending = body.ending)
      (keeps : reading.lines.Keeps (arrived.flatMap contents) taken)
      (texts : seen = taken.map pieceText)
      (ended : reading.lines.ended = true → reading.body.parts = [] ∧ body.ending = .complete)
  /-- What followed the last line feed was taken too. -/
  | past (ending : body.ending = .complete) (all : seen = body.lines)
      (nothing : reading.lines = ⟨[], [], 0, true⟩)

namespace ReadsFrom

variable {body : Body} {seen : List String} {reading : Reading} {limit : Nat}

theorem ofBody (body : Body) : ReadsFrom body [] (.ofBody body) :=
  have keeps : LineBuffer.empty.Keeps (List.flatMap contents []) [] := LineBuffer.empty_keeps
  .within rfl rfl keeps rfl fun ended => by cases ended

/-- The bytes that have come are the first bytes of the body. -/
theorem bytes_split {arrived rest : List ByteArray} (parts : body.parts = arrived ++ rest) :
    body.bytes = arrived.flatMap contents ++ rest.flatMap contents := by
  rw [Body.bytes, parts, List.flatMap_append]

/-- The pieces that were taken are ended by line feeds, and so are those that are kept. -/
theorem pieces_split {arrived rest : List ByteArray} {taken : List (List UInt8)}
    {buffer : LineBuffer} (parts : body.parts = arrived ++ rest)
    (keeps : buffer.Keeps (arrived.flatMap contents) taken) :
    ∃ first after, body.pieces =
      taken ++ buffer.lines.map contents ++ (contents buffer.unfinished ++ first) :: after := by
  rw [Body.pieces, bytes_split parts]
  exact splitOn_extend keeps.cut _

/-- Where all has come and no line is kept, the lines that were taken are all but what follows the
last line feed. -/
theorem lines_split {arrived : List ByteArray} {taken : List (List UInt8)} {buffer : LineBuffer}
    (parts : body.parts = arrived) (keeps : buffer.Keeps (arrived.flatMap contents) taken)
    (none : buffer.lines = []) :
    body.lines = taken.map pieceText ++
      (if body.ending = .complete ∧ buffer.length ≠ 0 then
        [Utf8.decodeLossy buffer.unfinished] else []) := by
  have pieces : body.pieces = taken ++ [contents buffer.unfinished] := by
    have cut := keeps.cut
    rw [none] at cut
    rw [Body.pieces, Body.bytes, parts, cut]
    simp
  have empty : contents buffer.unfinished = [] ↔ buffer.length = 0 := by
    rw [keeps.length, ← length_contents, List.length_eq_zero_iff]
  rw [Body.lines, Body.remainder, pieces]
  simp [empty, toByteArray_contents]

/-- The next line of a buffer is the next line of the body. -/
theorem line {line : String} {rest : LineBuffer} (reads : ReadsFrom body seen reading)
    (next : reading.lines.take limit = .line line rest) :
    ReadsFrom body (seen ++ [line]) { reading with lines := rest } := by
  have follows := reading.lines.take_follows limit
  rw [next] at follows
  cases reads with
  | past ending all nothing =>
      rcases follows with ⟨first, others, lines, _⟩ | ⟨_, _, some, _⟩
      · simp [nothing] at lines
      · simp [nothing] at some
  | within parts ending keeps texts ended =>
      rcases follows with ⟨first, others, lines, rfl, rfl⟩ | ⟨none, last, some, rfl, rfl⟩
      · refine .within parts ending (keeps.rest lines) ?_ ended
        simp [texts, pieceText, toByteArray_contents]
      · obtain ⟨gone, complete⟩ := ended last
        rw [gone, List.append_nil] at parts
        refine .past complete ?_ rfl
        rw [lines_split parts keeps none, if_pos ⟨complete, some⟩, texts]

/-- The lines that were taken are the first lines of the body. -/
theorem seen_begins (reads : ReadsFrom body seen reading) : seen <+: body.lines := by
  cases reads with
  | past ending all nothing => exact all ▸ List.prefix_refl _
  | within parts ending keeps texts ended =>
      obtain ⟨first, after, pieces⟩ := pieces_split parts keeps
      rw [texts, Body.lines, pieces, List.dropLast_append_cons]
      simp only [List.map_append, List.append_assoc]
      exact List.prefix_append _ _

/-- A line that grows past the limit is a piece of the body. -/
theorem tooLong (reads : ReadsFrom body seen reading)
    (next : reading.lines.take limit = .tooLong) :
    ∃ piece, body.pieces[seen.length]? = some piece ∧ limit < piece.length := by
  have follows := reading.lines.take_follows limit
  rw [next] at follows
  obtain ⟨none, long⟩ := follows
  cases reads with
  | past ending all nothing => simp [nothing] at long
  | within parts ending keeps texts ended =>
      obtain ⟨first, after, pieces⟩ := pieces_split parts keeps
      refine ⟨contents reading.lines.unfinished ++ first, ?_, ?_⟩
      · rw [texts, pieces, none, List.map_nil, List.append_nil, List.length_map,
          List.getElem?_append_right (Nat.le_refl _), Nat.sub_self]
        rfl
      · rw [List.length_append, length_contents, ← keeps.length]
        omega

/-- After its last line a body is complete, and all its lines were taken. -/
theorem finished (reads : ReadsFrom body seen reading)
    (next : reading.lines.take limit = .finished) : body.ending = .complete ∧ seen = body.lines := by
  have follows := reading.lines.take_follows limit
  rw [next] at follows
  obtain ⟨none, last, short⟩ := follows
  cases reads with
  | past ending all nothing => exact ⟨ending, all⟩
  | within parts ending keeps texts ended =>
      obtain ⟨gone, complete⟩ := ended last
      rw [gone, List.append_nil] at parts
      refine ⟨complete, ?_⟩
      rw [lines_split parts keeps none, if_neg (by simp [short]), texts, List.append_nil]

/-- A reading that asks its body for more keeps no line, and has not come to the end. -/
theorem awaited (reads : ReadsFrom body seen reading)
    (next : reading.lines.take limit = .awaited) :
    ∃ arrived taken, body.parts = arrived ++ reading.body.parts ∧
      reading.body.ending = body.ending ∧
      reading.lines.Keeps (arrived.flatMap contents) taken ∧ seen = taken.map pieceText ∧
      reading.lines.lines = [] ∧ reading.lines.ended = false := by
  have follows := reading.lines.take_follows limit
  rw [next] at follows
  obtain ⟨none, last⟩ := follows
  cases reads with
  | past ending all nothing => simp [nothing] at last
  | within parts ending keeps texts ended => exact ⟨_, _, parts, ending, keeps, texts, none, last⟩

theorem fed {now : Nat} {bytes : ByteArray} {rest : Body} (reads : ReadsFrom body seen reading)
    (next : reading.lines.take limit = .awaited)
    (arrival : reading.body.poll now = .part bytes rest) :
    ReadsFrom body seen ⟨rest, reading.lines.feed bytes⟩ := by
  obtain ⟨arrived, taken, parts, ending, keeps, texts, none, last⟩ := reads.awaited next
  have follows := reading.body.poll_follows now
  rw [arrival] at follows
  obtain ⟨first, same⟩ := follows
  have more : body.parts = (arrived ++ [bytes]) ++ rest.parts := by
    rw [parts, first]
    simp
  have fed := LineBuffer.feed_keeps keeps bytes
  have joined : arrived.flatMap contents ++ contents bytes =
      (arrived ++ [bytes]).flatMap contents := by
    simp
  rw [joined] at fed
  refine .within more (same.trans ending) fed texts fun ended => ?_
  rw [LineBuffer.feed_ended, last] at ended
  cases ended

theorem drained {now : Nat} (reads : ReadsFrom body seen reading)
    (next : reading.lines.take limit = .awaited)
    (arrival : reading.body.poll now = .finished) :
    ReadsFrom body seen { reading with lines := reading.lines.finish } := by
  obtain ⟨arrived, taken, parts, ending, keeps, texts, none, last⟩ := reads.awaited next
  have follows := reading.body.poll_follows now
  rw [arrival] at follows
  exact .within parts ending ⟨keeps.cut, keeps.length⟩ texts fun _ =>
    ⟨follows.1, ending ▸ follows.2⟩

/-- A body that does not end has given all its lines when all its parts have come. -/
theorem unended (reads : ReadsFrom body seen reading)
    (next : reading.lines.take limit = .awaited) (gone : reading.body.parts = [])
    (cut : reading.body.ending ≠ .complete) : seen = body.lines := by
  obtain ⟨arrived, taken, parts, ending, keeps, texts, none, last⟩ := reads.awaited next
  rw [gone, List.append_nil] at parts
  rw [ending] at cut
  rw [lines_split parts keeps none, if_neg fun whole => cut whole.1, texts, List.append_nil]

/-- A body that breaks off has given all its lines by then. -/
theorem broken {now : Nat} {cause : String} (reads : ReadsFrom body seen reading)
    (next : reading.lines.take limit = .awaited)
    (arrival : reading.body.poll now = .broken cause) :
    body.ending = .broken cause ∧ seen = body.lines := by
  obtain ⟨arrived, taken, parts, ending, _⟩ := reads.awaited next
  have follows := reading.body.poll_follows now
  rw [arrival] at follows
  exact ⟨ending ▸ follows.2, reads.unended next follows.1 (by simp [follows.2])⟩

theorem waits {now : Nat} {waiting : Body} (reads : ReadsFrom body seen reading)
    (next : reading.lines.take limit = .awaited)
    (arrival : reading.body.poll now = .awaited waiting) :
    ReadsFrom body seen { reading with body := waiting } := by
  obtain ⟨arrived, taken, parts, ending, keeps, texts, none, last⟩ := reads.awaited next
  have follows := reading.body.poll_follows now
  rw [arrival] at follows
  refine .within (parts.trans (by rw [follows.1])) (follows.2.trans ending) keeps texts ?_
  intro ended
  rw [last] at ended
  cases ended

end ReadsFrom

end StreamQuery.Dispatch
