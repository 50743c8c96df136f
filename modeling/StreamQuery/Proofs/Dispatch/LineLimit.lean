import Mathlib.Data.Nat.Find
import StreamQuery.Proofs.Dispatch.NextLine
import StreamQuery.Proofs.Dispatch.Reading
/-!
# The limit on lines

A reader compares a line with the limit only while the line has no end. So what it refuses depends
on where the parts of a body end: a line that is too long is refused if some part ends inside it
beyond the limit, and is given if the part that takes it past the limit also brings its line feed.
-/

namespace StreamQuery

open Response Text

namespace Response

/-- What follows the last line feed. -/
def unended (bytes : List UInt8) : List UInt8 :=
  (bytes.splitOn lineFeed).getLastD []

theorem splitOn_unended (bytes : List UInt8) :
    ∃ before, bytes.splitOn lineFeed = before ++ [unended bytes] := by
  have some := List.splitOn_ne_nil lineFeed bytes
  refine ⟨(bytes.splitOn lineFeed).dropLast, ?_⟩
  rw [unended, List.getLastD_eq_getLast?, List.getLast?_eq_some_getLast some]
  exact (List.dropLast_concat_getLast some).symm

/-- Where two texts meet, two of their pieces become one. -/
theorem length_splitOn_append (left right : List UInt8) :
    ((left ++ right).splitOn lineFeed).length + 1 =
      (left.splitOn lineFeed).length + (right.splitOn lineFeed).length := by
  obtain ⟨before, leftCut⟩ := splitOn_unended left
  obtain ⟨first, after, rightCut⟩ :=
    List.exists_cons_of_ne_nil (List.splitOn_ne_nil lineFeed right)
  rw [splitOn_append leftCut rightCut, leftCut, rightCut]
  simp only [List.length_append, List.length_cons, List.length_nil]
  omega

theorem length_splitOn_pos (bytes : List UInt8) : 0 < (bytes.splitOn lineFeed).length :=
  List.length_pos_iff.mpr (List.splitOn_ne_nil lineFeed bytes)

/-- Some first parts of a body end within the line at an index, and hold more of it than the
limit. -/
def Body.Outgrows (limit : Nat) (body : Body) (index : Nat) : Prop :=
  ∃ arrived rest, body.parts = arrived ++ rest ∧
    ((arrived.flatMap contents).splitOn lineFeed).length = index + 1 ∧
    limit < (unended (arrived.flatMap contents)).length

namespace Body

variable {limit index : Nat} {body : Body}

/-- Only a line that is too long outgrows the limit. -/
theorem Outgrows.long (outgrows : body.Outgrows limit index) :
    ∃ piece, body.pieces[index]? = some piece ∧ limit < piece.length := by
  obtain ⟨arrived, rest, parts, count, long⟩ := outgrows
  obtain ⟨before, cut⟩ := splitOn_unended (arrived.flatMap contents)
  obtain ⟨first, after, whole⟩ := splitOn_extend cut (rest.flatMap contents)
  have place : before.length = index := by
    rw [cut, List.length_append, List.length_singleton] at count
    omega
  refine ⟨unended (arrived.flatMap contents) ++ first, ?_, ?_⟩
  · rw [pieces, bytes, parts, List.flatMap_append, whole, ← place]
    simp
  · rw [List.length_append]
    omega

/-- A line that outgrows the limit is a line before the last line feed, or the end of a body that
is cut off. -/
theorem Outgrows.place (outgrows : body.Outgrows limit index) :
    index < body.lines.length ∨ index = body.lines.length ∧ body.ending ≠ .complete := by
  obtain ⟨piece, found, long⟩ := outgrows.long
  have inside : index < body.pieces.length := (List.getElem?_eq_some_iff.mp found).1
  by_cases last : index + 1 = body.pieces.length
  · by_cases complete : body.ending = .complete
    · left
      have content : body.pieces.getLastD [] ≠ [] := by
        rw [List.getLastD_eq_getLast?, List.getLast?_eq_getElem?, ← last, Nat.add_sub_cancel,
          found]
        rintro rfl
        simp at long
      simp only [lines, remainder, if_pos (And.intro complete content), List.length_append,
        List.length_map, List.length_dropLast, List.length_singleton]
      omega
    · right
      refine ⟨?_, complete⟩
      simp only [lines, remainder, if_neg (fun both => complete (And.left both)),
        List.length_append, List.length_map, List.length_dropLast, List.length_nil]
      omega
  · left
    simp only [lines, List.length_append, List.length_map, List.length_dropLast]
    omega

theorem Outgrows.past (outgrows : body.Outgrows limit index) (past : body.lines.length ≤ index) :
    body.Outgrows limit body.lines.length := by
  rcases outgrows.place with inside | ⟨last, _⟩
  · omega
  · exact last ▸ outgrows

/-- The first part with which so many bytes have more pieces than a number. -/
theorem exists_part_past {number : Nat} (begun : List UInt8) (parts : List ByteArray)
    (few : (begun.splitOn lineFeed).length ≤ number)
    (many : number < ((begun ++ parts.flatMap contents).splitOn lineFeed).length) :
    ∃ before part after, parts = before ++ part :: after ∧
      ((begun ++ before.flatMap contents).splitOn lineFeed).length ≤ number ∧
      number < ((begun ++ before.flatMap contents ++ contents part).splitOn lineFeed).length := by
  induction parts generalizing begun with
  | nil =>
      rw [List.flatMap_nil, List.append_nil] at many
      omega
  | cons part rest induction =>
      by_cases past : number < ((begun ++ contents part).splitOn lineFeed).length
      · exact ⟨[], part, rest, rfl, by simpa using few, by simpa using past⟩
      · have later : number <
            (((begun ++ contents part) ++ rest.flatMap contents).splitOn lineFeed).length := by
          simpa using many
        obtain ⟨before, next, after, split, short, beyond⟩ :=
          induction (begun ++ contents part) (Nat.le_of_not_lt past) later
        refine ⟨part :: before, next, after, by rw [split]; rfl, ?_, ?_⟩
        · simpa using short
        · simpa using beyond

/-- No piece is longer than the bytes, and each further piece takes a line feed of them. -/
theorem length_piece {piece bytes : List UInt8} (member : piece ∈ bytes.splitOn lineFeed) :
    piece.length + (bytes.splitOn lineFeed).length ≤ bytes.length + 1 := by
  induction bytes generalizing piece with
  | nil =>
      rw [List.splitOn_nil, List.mem_singleton] at member
      simp [member]
  | cons byte rest induction =>
      obtain ⟨first, after, cut⟩ := List.exists_cons_of_ne_nil (List.splitOn_ne_nil lineFeed rest)
      rw [cut] at induction
      have headLength := induction List.mem_cons_self
      rw [List.splitOn_cons_eq_if_modifyHead, cut] at member ⊢
      split at member
      · next ends =>
          rw [if_pos ends]
          simp only [List.length_cons] at headLength ⊢
          rcases List.mem_cons.mp member with rfl | member
          · simp only [List.length_nil]
            omega
          · have := induction member
            simp only [List.length_cons] at this
            omega
      · next within =>
          rw [if_neg within]
          simp only [List.modifyHead_cons, List.length_cons] at headLength ⊢ member
          rcases List.mem_cons.mp member with rfl | member
          · simp only [List.length_cons]
            omega
          · have := induction (List.mem_cons_of_mem _ member)
            simp only [List.length_cons] at this
            omega

/-- A piece that is ended by some bytes is shorter than what it had before and these bytes. -/
theorem length_ended_piece {before others : List (List UInt8)}
    {begun first piece bytes : List UInt8}
    (cut : bytes.splitOn lineFeed = first :: others) (several : others ≠ [])
    (place : before.length ≤ index)
    (found : (before ++ (begun ++ first) :: others)[index]? = some piece) :
    piece.length < bytes.length ∨
      before.length = index ∧ piece.length < begun.length + bytes.length := by
  have some : 0 < others.length := List.length_pos_iff.mpr several
  have size {part : List UInt8} (member : part ∈ first :: others) : part.length < bytes.length := by
    have bound := length_piece (cut ▸ member)
    rw [cut, List.length_cons] at bound
    omega
  by_cases here : before.length = index
  · right
    have same : begun ++ first = piece := by
      rw [← here] at found
      simpa using found
    have short := size List.mem_cons_self
    rw [← same, List.length_append]
    exact ⟨here, by omega⟩
  · left
    obtain ⟨offset, shifted⟩ : ∃ offset, index - before.length = offset + 1 :=
      ⟨index - before.length - 1, by omega⟩
    rw [List.getElem?_append_right place, shifted, List.getElem?_cons_succ] at found
    exact size (List.mem_cons_of_mem _ (List.mem_of_getElem? found))

/-- The pieces of the first parts are pieces of the body, all but the last one. -/
theorem getElem?_pieces {arrived rest : List ByteArray} (parts : body.parts = arrived ++ rest)
    (early : index + 1 < ((arrived.flatMap contents).splitOn lineFeed).length) :
    body.pieces[index]? = ((arrived.flatMap contents).splitOn lineFeed)[index]? := by
  obtain ⟨before, cut⟩ := splitOn_unended (arrived.flatMap contents)
  obtain ⟨first, after, whole⟩ := splitOn_extend cut (rest.flatMap contents)
  have inside : index < before.length := by
    rw [cut, List.length_append, List.length_singleton] at early
    omega
  rw [pieces, Body.bytes, parts, List.flatMap_append, whole, cut,
    List.getElem?_append_left inside, List.getElem?_append_left inside]

/-- The last piece of a body has not come to an end, and outgrows the limit if it is too long. -/
theorem outgrows_last {piece : List UInt8} (found : body.pieces[index]? = some piece)
    (long : limit < piece.length) (last : body.pieces.length ≤ index + 1) :
    body.Outgrows limit index := by
  obtain ⟨before, cut⟩ := splitOn_unended body.bytes
  have inside : index < body.pieces.length := (List.getElem?_eq_some_iff.mp found).1
  have place : body.pieces.length = index + 1 := by omega
  refine ⟨body.parts, [], (List.append_nil _).symm, place, ?_⟩
  have whole : body.pieces = before ++ [unended body.bytes] := cut
  have count : before.length = index := by
    rw [whole, List.length_append, List.length_singleton] at place
    omega
  rw [whole, ← count] at found
  have same : unended body.bytes = piece := by simpa using found
  exact same ▸ long

/-- A line that is too long and does not outgrow the limit is ended by the part that takes it past
the limit. -/
theorem exists_part_of_long {piece : List UInt8} (found : body.pieces[index]? = some piece)
    (long : limit < piece.length) (unseen : ¬body.Outgrows limit index) :
    ∃ part ∈ body.parts, lineFeed ∈ contents part ∧ piece.length < limit + part.size := by
  have many : index + 1 < body.pieces.length := by
    by_contra last
    exact unseen (outgrows_last found long (Nat.le_of_not_lt last))
  have none : (([] : List UInt8).splitOn lineFeed).length ≤ index + 1 := by simp
  obtain ⟨arrived, part, after, parts, few, past⟩ := exists_part_past [] body.parts none many
  rw [List.nil_append] at few past
  obtain ⟨before, cut⟩ := splitOn_unended (arrived.flatMap contents)
  obtain ⟨first, others, partCut⟩ :=
    List.exists_cons_of_ne_nil (List.splitOn_ne_nil lineFeed (contents part))
  have joined := splitOn_append cut partCut
  have early : index + 1 < (((arrived ++ [part]).flatMap contents).splitOn lineFeed).length := by
    simpa using past
  have place : (before ++ (unended (arrived.flatMap contents) ++ first) :: others)[index]? =
      some piece := by
    rw [← joined, ← found, getElem?_pieces (by simpa using parts) early]
    simp
  rw [cut, List.length_append, List.length_singleton] at few
  rw [joined, List.length_append, List.length_cons] at past
  have several : others ≠ [] := by
    rintro rfl
    rw [List.length_nil] at past
    omega
  refine ⟨part, by rw [parts]; simp, ?_, ?_⟩
  · by_contra none
    rw [List.splitOn_eq_singleton none] at partCut
    exact several (List.cons.inj partCut).2.symm
  · rw [← length_contents]
    rcases length_ended_piece partCut several (by omega) place with short | ⟨here, short⟩
    · omega
    · have kept : (unended (arrived.flatMap contents)).length ≤ limit := by
        by_contra longer
        apply unseen
        refine ⟨arrived, part :: after, parts, ?_, Nat.lt_of_not_le longer⟩
        rw [cut, List.length_append, List.length_singleton, here]
      omega

end Body

/-- The beginning of a line that a buffer keeps is what follows the last line feed. -/
theorem LineBuffer.Keeps.unended_eq {bytes : List UInt8} {taken : List (List UInt8)}
    {buffer : LineBuffer} (keeps : buffer.Keeps bytes taken) :
    unended bytes = contents buffer.unfinished := by
  rw [unended, keeps.cut]
  simp

theorem LineBuffer.take_short {limit : Nat} {buffer : LineBuffer} (none : buffer.lines = [])
    (allowed : buffer.take limit ≠ .tooLong) : buffer.length ≤ limit := by
  by_contra long
  apply allowed
  rw [take, none]
  exact if_pos (Nat.lt_of_not_le long)

end Response

namespace Dispatch

/-- Some lines of a body were taken, and wherever the reader has asked for a further part, what it
had of a line was not longer than the limit. -/
structure ReadsWithin (limit : Nat) (body : Body) (seen : List String) (reading : Reading) :
    Prop where
  reads : ReadsFrom body seen reading
  asked : ∀ arrived part rest, body.parts = arrived ++ part :: rest →
    reading.body.parts.length ≤ rest.length → (unended (arrived.flatMap contents)).length ≤ limit

/-- What a look says about a body of which some lines were taken. -/
def Look.Within (limit now : Nat) (body : Body) (seen : List String) : Look → Prop
  | .line text next =>
      ReadsWithin limit body (seen ++ [text]) next ∧ ¬body.Outgrows limit seen.length
  | .tooLong => body.Outgrows limit seen.length
  | .ended => body.ending = .complete ∧ seen = body.lines
  | .broken _ => seen = body.lines ∧ ¬body.Outgrows limit seen.length
  | .onward next => ReadsWithin limit body seen next
  | .waiting next =>
      ReadsWithin limit body seen next ∧ ((∃ due, next.body.due = some due ∧ now < due) ∨
        seen = body.lines ∧ ¬body.Outgrows limit seen.length)

namespace ReadsWithin

variable {limit : Nat} {body : Body} {seen : List String} {reading : Reading}

theorem ofBody (limit : Nat) (body : Body) : ReadsWithin limit body [] (.ofBody body) where
  reads := .ofBody body
  asked := by
    intro arrived part rest parts come
    have lengths := congrArg List.length parts
    have all : body.parts.length ≤ rest.length := come
    simp only [List.length_append, List.length_cons] at lengths
    omega

/-- A line that is whole, and one after which no part comes, did not outgrow the limit. -/
theorem settled {arrived : List ByteArray} {taken : List (List UInt8)}
    (within : ReadsWithin limit body seen reading)
    (parts : body.parts = arrived ++ reading.body.parts)
    (keeps : reading.lines.Keeps (arrived.flatMap contents) taken)
    (texts : seen = taken.map pieceText)
    (done : reading.lines.lines ≠ [] ∨ reading.body.parts = [] ∧ reading.lines.length ≤ limit) :
    ¬body.Outgrows limit seen.length := by
  rintro ⟨first, rest, split, count, long⟩
  rw [texts, List.length_map] at count
  by_cases fewer : reading.body.parts.length < rest.length
  · -- These parts were looked at before the next was asked for.
    cases rest with
    | nil => simp at fewer
    | cons part rest =>
        have short := within.asked first part rest split (Nat.le_of_lt_succ fewer)
        omega
  · obtain ⟨more, begun⟩ : arrived <+: first := by
      have lengths := congrArg List.length (parts.symm.trans split)
      simp only [List.length_append] at lengths
      exact List.prefix_of_prefix_length_le ⟨_, parts.symm⟩ ⟨_, split.symm⟩ (by omega)
    rcases done with whole | ⟨gone, short⟩
    · have some : 0 < reading.lines.lines.length := List.length_pos_iff.mpr whole
      have pieces := congrArg List.length keeps.cut
      simp only [List.length_append, List.length_map, List.length_singleton] at pieces
      have joined := length_splitOn_append (arrived.flatMap contents) (more.flatMap contents)
      rw [← List.flatMap_append, begun] at joined
      have positive := length_splitOn_pos (more.flatMap contents)
      omega
    · rw [gone, List.append_nil] at parts
      have none : more = [] := by
        have lengths := congrArg List.length split
        rw [parts, ← begun] at lengths
        simp only [List.length_append] at lengths
        exact List.eq_nil_of_length_eq_zero (by omega)
      rw [← begun, none, List.append_nil, keeps.unended_eq, length_contents, ← keeps.length] at long
      omega

theorem line {text : String} {rest : LineBuffer} (within : ReadsWithin limit body seen reading)
    (next : reading.lines.take limit = .line text rest) :
    ReadsWithin limit body (seen ++ [text]) { reading with lines := rest } ∧
      ¬body.Outgrows limit seen.length := by
  refine ⟨⟨within.reads.line next, within.asked⟩, ?_⟩
  have follows := reading.lines.take_follows limit
  rw [next] at follows
  cases within.reads with
  | past ending all nothing =>
      rcases follows with ⟨first, others, lines, _⟩ | ⟨_, _, some, _⟩
      · simp [nothing] at lines
      · simp [nothing] at some
  | within parts ending keeps texts ended =>
      rcases follows with ⟨first, others, lines, _⟩ | ⟨none, last, some, _⟩
      · exact within.settled parts keeps texts (.inl (by simp [lines]))
      · have allowed : reading.lines.take limit ≠ .tooLong := by simp [next]
        have short := LineBuffer.take_short none allowed
        exact within.settled parts keeps texts (.inr ⟨(ended last).1, short⟩)

theorem tooLong (within : ReadsWithin limit body seen reading)
    (next : reading.lines.take limit = .tooLong) : body.Outgrows limit seen.length := by
  have follows := reading.lines.take_follows limit
  rw [next] at follows
  obtain ⟨none, long⟩ := follows
  cases within.reads with
  | past ending all nothing => simp [nothing] at long
  | @within arrived taken parts ending keeps texts ended =>
      refine ⟨arrived, reading.body.parts, parts, ?_, ?_⟩
      · rw [keeps.cut, none, texts]
        simp
      · rw [keeps.unended_eq, length_contents, ← keeps.length]
        exact long

theorem fed {now : Nat} {bytes : ByteArray} {rest : Body}
    (within : ReadsWithin limit body seen reading)
    (next : reading.lines.take limit = .awaited)
    (arrival : reading.body.poll now = .part bytes rest) :
    ReadsWithin limit body seen ⟨rest, reading.lines.feed bytes⟩ := by
  refine ⟨within.reads.fed next arrival, ?_⟩
  intro first part after split come
  obtain ⟨arrived, taken, parts, _, keeps, _, none, _⟩ := within.reads.awaited next
  have follows := reading.body.poll_follows now
  rw [arrival] at follows
  have same : arrived ++ bytes :: rest.parts = first ++ part :: after := by
    rw [← follows.1, ← parts, split]
  have come : rest.parts.length ≤ after.length := come
  by_cases earlier : reading.body.parts.length ≤ after.length
  · exact within.asked first part after split earlier
  · rw [follows.1, List.length_cons] at earlier
    have lengths := congrArg List.length same
    simp only [List.length_append, List.length_cons] at lengths
    obtain ⟨begun, _⟩ := List.append_inj same (by omega)
    rw [← begun, keeps.unended_eq, length_contents, ← keeps.length]
    exact LineBuffer.take_short none (by simp [next])

/-- When all parts have come and no line is kept, nothing of the body outgrew the limit since. -/
theorem exhausted (within : ReadsWithin limit body seen reading)
    (next : reading.lines.take limit = .awaited) (gone : reading.body.parts = [])
    (cut : reading.body.ending ≠ .complete) :
    seen = body.lines ∧ ¬body.Outgrows limit seen.length := by
  obtain ⟨arrived, taken, parts, _, keeps, texts, none, _⟩ := within.reads.awaited next
  refine ⟨within.reads.unended next gone cut, within.settled parts keeps texts (.inr ⟨gone, ?_⟩)⟩
  exact LineBuffer.take_short none (by simp [next])

theorem look (now : Nat) (within : ReadsWithin limit body seen reading) :
    (reading.look limit now).Within limit now body seen := by
  unfold Reading.look
  cases next : reading.lines.take limit with
  | line text rest => exact within.line next
  | tooLong => exact within.tooLong next
  | finished => exact within.reads.finished next
  | awaited =>
      have follows := reading.body.poll_follows now
      cases arrival : reading.body.poll now with
      | part part rest => exact within.fed next arrival
      | finished => exact ⟨within.reads.drained next arrival, within.asked⟩
      | broken cause =>
          rw [arrival] at follows
          exact within.exhausted next follows.1 (by simp [follows.2])
      | awaited waiting =>
          rw [arrival] at follows
          refine ⟨⟨within.reads.waits next arrival, ?_⟩, ?_⟩
          · intro arrived part rest parts come
            exact within.asked arrived part rest parts (follows.1 ▸ come)
          · rcases (Body.poll_awaited arrival).1 with due | ⟨gone, held⟩
            · exact .inl due
            · exact .inr (within.exhausted next gone (by simp [held]))

end ReadsWithin

/-! ### Calls for the next line -/

/-- What a reply says about a body of which some lines were taken. -/
def LineReply.Within (limit : Nat) (body : Body) (seen : List String) (next : Reading) :
    LineReply → Prop
  | .line text =>
      ReadsWithin limit body (seen ++ [text]) next ∧ ¬body.Outgrows limit seen.length
  | .tooLong => body.Outgrows limit seen.length
  | .ended => ReadsWithin limit body seen next ∧ body.ending = .complete ∧ seen = body.lines
  | .broken _ | .never => seen = body.lines ∧ ¬body.Outgrows limit seen.length

namespace ReadsWithin

variable {limit : Nat} {body : Body} {seen : List String}

theorem nextLine (now : Nat) (reading : Reading) (within : ReadsWithin limit body seen reading) :
    (reading.nextLine limit now).1.Within limit body seen (reading.nextLine limit now).2.2 := by
  fun_induction Reading.nextLine limit now reading with
  | case1 now reading text next looked =>
      have found := within.look now
      rw [looked] at found
      exact found
  | case2 now reading looked =>
      have found := within.look now
      rw [looked] at found
      exact found
  | case3 now reading looked =>
      have found := within.look now
      rw [looked] at found
      exact ⟨within, found⟩
  | case4 now reading cause looked =>
      have found := within.look now
      rw [looked] at found
      exact found
  | case5 now reading next looked less induction =>
      have found := within.look now
      rw [looked] at found
      exact induction found
  | case6 now reading next looked unasked =>
      have found := within.look now
      rw [looked] at found
      rcases found.2 with ⟨due, asked, _⟩ | outgrown
      · rw [unasked] at asked
        cases asked
      · exact outgrown
  | case7 now reading next looked due asked early less induction =>
      have found := within.look now
      rw [looked] at found
      exact induction found.1
  | case8 now reading next looked due asked late =>
      have found := within.look now
      rw [looked] at found
      rcases found.2 with ⟨other, same, early⟩ | outgrown
      · rw [asked] at same
        cases same
        exact absurd early late
      · exact outgrown

/-- A line is refused only if it outgrew the limit. -/
theorem exists_outgrown (count now : Nat) (reading : Reading)
    (within : ReadsWithin limit body seen reading)
    (refused : .tooLong ∈ (reading.reads limit count now).1) :
    ∃ index, body.Outgrows limit index := by
  induction count generalizing now reading seen with
  | zero => simp [Reading.reads] at refused
  | succ count induction =>
      have found := within.nextLine now
      generalize called : reading.nextLine limit now = outcome at found
      obtain ⟨reply, later, next⟩ := outcome
      cases reply with
      | line text =>
          apply induction later next found.1
          simpa [Reading.reads, called, LineReply.stops] using refused
      | ended =>
          apply induction later next found.1
          simpa [Reading.reads, called, LineReply.stops] using refused
      | tooLong => exact ⟨seen.length, found⟩
      | broken cause => simp [Reading.reads, called, LineReply.stops] at refused
      | never => simp [Reading.reads, called, LineReply.stops] at refused

/-- The replies up to the first line that outgrows the limit. -/
theorem reads_outgrown {index : Nat} (outgrows : body.Outgrows limit index)
    (first : ∀ earlier < index, ¬body.Outgrows limit earlier) (count now : Nat)
    (reading : Reading) (within : ReadsWithin limit body seen reading)
    (before : seen.length ≤ index) :
    (reading.reads limit count now).1 =
      (((body.lines.take index).drop seen.length).map LineReply.line ++
        [LineReply.tooLong]).take count := by
  induction count generalizing now reading seen with
  | zero => simp [Reading.reads]
  | succ count induction =>
      have found := within.nextLine now
      generalize called : reading.nextLine limit now = outcome at found
      obtain ⟨reply, later, next⟩ := outcome
      cases reply with
      | line text =>
          obtain ⟨onward, kept⟩ := found
          have other : seen.length ≠ index := by
            rintro rfl
            exact kept outgrows
          have inside : seen.length < index := by omega
          have rest := induction later next onward (by
            rw [List.length_append, List.length_singleton]
            exact inside)
          obtain ⟨others, lines⟩ := onward.reads.seen_begins
          have left : (body.lines.take index).drop seen.length =
              text :: (body.lines.take index).drop (seen ++ [text]).length := by
            have here : (body.lines.take index)[seen.length]? = some text := by
              rw [List.getElem?_take_of_lt inside, ← lines]
              simp
            obtain ⟨bounded, same⟩ := List.getElem?_eq_some_iff.mp here
            rw [List.drop_eq_getElem_cons bounded, same, List.length_append, List.length_singleton]
          rw [left]
          simpa [Reading.reads, called, LineReply.stops] using rest
      | ended =>
          obtain ⟨_, complete, all⟩ := found
          rcases outgrows.place with inside | ⟨_, cut⟩
          · rw [all] at before
            omega
          · exact absurd complete cut
      | tooLong =>
          have here : seen.length = index := by
            by_contra other
            exact first seen.length (by omega) found
          have none : (body.lines.take index).drop seen.length = [] := by
            apply List.drop_eq_nil_of_le
            rw [here]
            exact List.length_take_le _ _
          simp [Reading.reads, called, LineReply.stops, none]
      | broken cause =>
          obtain ⟨rfl, kept⟩ := found
          exact absurd (outgrows.past before) kept
      | never =>
          obtain ⟨rfl, kept⟩ := found
          exact absurd (outgrows.past before) kept

end ReadsWithin

theorem Body.lines_of_bytes {body other : Body} (bytes : other.bytes = body.bytes)
    (ending : other.ending = body.ending) : other.lines = body.lines := by
  change other.ending.lines other.bytes = body.ending.lines body.bytes
  rw [bytes, ending]

namespace Reading

theorem reads_upTo {limit index : Nat} {body : Body} (outgrows : body.Outgrows limit index)
    (first : ∀ earlier < index, ¬body.Outgrows limit earlier) (count now : Nat) :
    ((ofBody body).reads limit count now).1 =
      ((body.lines.take index).map LineReply.line ++ [LineReply.tooLong]).take count := by
  have within := ReadsWithin.ofBody limit body
  simpa using within.reads_outgrown outgrows first count now (ofBody body) (Nat.zero_le index)

theorem reads_whole {limit : Nat} {body : Body} (none : ∀ index, ¬body.Outgrows limit index)
    (count now : Nat) :
    ((ofBody body).reads limit count now).1 =
      (body.lines.map LineReply.line ++ LineReply.afterwards count body.ending).take count := by
  have carries := ofBody_carries body
  have reads := (ofBody body).reads_allowed limit count now carries.sound (by
    intro refused
    obtain ⟨index, outgrows⟩ := (ReadsWithin.ofBody limit body).exists_outgrown count now _ refused
    exact none index outgrows)
  rw [carries.bytes] at reads
  exact reads.replies

/-- What is refused is the first line that a part leaves without its end when it has grown past
the limit; a line that is too long and is not refused came to its end in the part that took it past
the limit. All else, and so the replies to bodies that let the same lines outgrow the limit, depends
on the bytes alone. -/
theorem limit_by_parts (limit now count : Nat) (body : Body) :
    (∀ index, body.Outgrows limit index → (∀ earlier < index, ¬body.Outgrows limit earlier) →
        ((ofBody body).reads limit count now).1 =
          ((body.lines.take index).map LineReply.line ++ [LineReply.tooLong]).take count) ∧
      ((∀ index, ¬body.Outgrows limit index) →
        ((ofBody body).reads limit count now).1 =
          (body.lines.map LineReply.line ++ LineReply.afterwards count body.ending).take count) ∧
      (∀ index, body.Outgrows limit index →
        ∃ piece, body.pieces[index]? = some piece ∧ limit < piece.length) ∧
      (∀ index piece, body.pieces[index]? = some piece → limit < piece.length →
        ¬body.Outgrows limit index →
        ∃ part ∈ body.parts, lineFeed ∈ contents part ∧ piece.length < limit + part.size) ∧
      ∀ other later, other.bytes = body.bytes → other.ending = body.ending →
        (∀ index, other.Outgrows limit index ↔ body.Outgrows limit index) →
        ((ofBody other).reads limit count later).1 = ((ofBody body).reads limit count now).1 := by
  refine ⟨fun index outgrows first => reads_upTo outgrows first count now,
    fun none => reads_whole none count now, fun index outgrows => outgrows.long,
    fun index piece found long unseen => Body.exists_part_of_long found long unseen, ?_⟩
  intro other later bytes ending same
  have lines := Body.lines_of_bytes bytes ending
  by_cases some : ∃ index, body.Outgrows limit index
  · obtain ⟨index, outgrows, first⟩ : ∃ index, body.Outgrows limit index ∧
        ∀ earlier < index, ¬body.Outgrows limit earlier := by
      classical
      exact ⟨Nat.find some, Nat.find_spec some, fun _ => Nat.find_min some⟩
    rw [reads_upTo outgrows first, reads_upTo ((same index).mpr outgrows), lines]
    intro earlier before outgrown
    exact first earlier before ((same earlier).mp outgrown)
  · have none : ∀ index, ¬body.Outgrows limit index := not_exists.mp some
    rw [reads_whole none, reads_whole, lines, ending]
    intro index outgrows
    exact none index ((same index).mp outgrows)

/-- A line of four bytes that comes in one part with its end. -/
def wholeLine : Body :=
  ⟨[⟨#[110, 101, 120, 116, 10]⟩], 0, .complete, none⟩

/-- The same line, its end in a part of its own. -/
def partedLine : Body :=
  ⟨[⟨#[110, 101, 120, 116]⟩, ⟨#[10]⟩], 0, .complete, none⟩

theorem partedLine_outgrows : partedLine.Outgrows 3 0 := by
  refine ⟨[⟨#[110, 101, 120, 116]⟩], [⟨#[10]⟩], rfl, ?_, ?_⟩ <;> decide

theorem partedLine_refused :
    partedLine.Outgrows 3 0 ∧ ((ofBody partedLine).reads 3 5 0).1 = [.tooLong] ∧
      ∃ piece, partedLine.pieces[0]? = some piece ∧ 3 < piece.length :=
  have refused := (limit_by_parts 3 0 5 partedLine).1 0 partedLine_outgrows (by omega)
  ⟨partedLine_outgrows, refused, (limit_by_parts 3 0 5 partedLine).2.2.1 0 partedLine_outgrows⟩

/-- With the same bytes a line past the limit is given in the one division and refused in the
other. -/
theorem long_line_given :
    wholeLine.bytes = partedLine.bytes ∧ wholeLine.ending = partedLine.ending ∧
      ((ofBody wholeLine).reads 3 2 0).1 = [.line "next", .ended] ∧
      ((ofBody partedLine).reads 3 2 0).1 = [.tooLong] := by
  refine ⟨by decide, rfl, by decide +kernel, by decide +kernel⟩

end Reading

end Dispatch

end StreamQuery
