import StreamQuery.Dispatch.StreamStep
import StreamQuery.Proofs.Response.Lines
/-!
# One line after another

A reader that is asked for a line looks at what has arrived, and asks the body for more until a line
is whole or there is none. What it then gives, and what it keeps, is a matter of the bytes that were
not taken yet: those that have arrived and those that have not, as one text. So the lines that
successive calls give are the lines of the body, wherever its parts begin and end.
-/

namespace StreamQuery

open Response Text

namespace Response

/-- The bytes that have arrived and are not taken yet. -/
def LineBuffer.bytes (buffer : LineBuffer) : List UInt8 :=
  [lineFeed].intercalate (buffer.lines.map contents ++ [contents buffer.unfinished])

/-- The first piece between separators has none. -/
theorem not_mem_of_splitOn {α : Type} [BEq α] [LawfulBEq α] {separator : α} {items first : List α}
    {others : List (List α)} (cut : items.splitOn separator = first :: others) :
    separator ∉ first := by
  induction items generalizing first others with
  | nil =>
      rw [List.splitOn_nil] at cut
      obtain ⟨rfl, _⟩ := List.cons.inj cut
      exact List.not_mem_nil
  | cons item rest induction =>
      obtain ⟨head, tail, restCut⟩ :=
        List.exists_cons_of_ne_nil (List.splitOn_ne_nil separator rest)
      rw [List.splitOn_cons_eq_if_modifyHead, restCut] at cut
      split at cut
      · obtain ⟨rfl, _⟩ := List.cons.inj cut
        exact List.not_mem_nil
      · next within =>
          obtain ⟨rfl, _⟩ := List.cons.inj cut
          have other : separator ≠ item := fun same => within (by simp [same])
          exact List.not_mem_cons_of_ne_of_not_mem other (induction restCut)

namespace LineBuffer

variable {buffer : LineBuffer} {bytes : List UInt8}

/-- A buffer from which nothing was taken keeps all bytes that have arrived. -/
theorem Keeps.bytes_eq (keeps : buffer.Keeps bytes []) : buffer.bytes = bytes := by
  have cut := keeps.cut
  rw [List.nil_append] at cut
  rw [LineBuffer.bytes, ← cut, List.intercalate_splitOn]

theorem Keeps.self (keeps : buffer.Keeps bytes []) : buffer.Keeps buffer.bytes [] :=
  keeps.bytes_eq.symm ▸ keeps

theorem bytes_cons {line : ByteArray} {others : List ByteArray}
    (lines : buffer.lines = line :: others) :
    buffer.bytes = contents line ++ lineFeed :: { buffer with lines := others }.bytes := by
  obtain ⟨first, rest, tail⟩ := List.exists_cons_of_ne_nil
    (List.append_ne_nil_of_right_ne_nil (others.map contents)
      (List.cons_ne_nil (contents buffer.unfinished) []))
  have left : { buffer with lines := others }.bytes = [lineFeed].intercalate (first :: rest) :=
    congrArg [lineFeed].intercalate tail
  rw [LineBuffer.bytes, lines, List.map_cons, List.cons_append, tail, List.intercalate_cons_cons,
    left]
  simp

/-- A line that is taken leaves what follows its line feed. -/
theorem Keeps.next {line : ByteArray} {others : List ByteArray}
    (keeps : buffer.Keeps buffer.bytes []) (lines : buffer.lines = line :: others) :
    lineFeed ∉ contents line ∧
      { buffer with lines := others }.Keeps { buffer with lines := others }.bytes [] := by
  have cut := keeps.cut
  rw [lines, List.nil_append, List.map_cons, List.cons_append] at cut
  have single : lineFeed ∉ contents line := not_mem_of_splitOn cut
  rw [bytes_cons lines, List.splitOn_append_cons_self_of_not_mem single] at cut
  exact ⟨single, (List.cons.inj cut).2, keeps.length⟩

/-- Without a line that is whole a buffer keeps the beginning of one. -/
theorem Keeps.begun (keeps : buffer.Keeps buffer.bytes []) (none : buffer.lines = []) :
    buffer.bytes = contents buffer.unfinished ∧ lineFeed ∉ contents buffer.unfinished := by
  have cut := keeps.cut
  rw [none] at cut
  constructor
  · rw [LineBuffer.bytes, none]
    exact List.intercalate_singleton
  · exact not_mem_of_splitOn cut

end LineBuffer

end Response

namespace Dispatch

/-! ### Looking for a line -/

/-- What a reader that wants a line comes to. -/
inductive Look where
  | line (text : String) (next : Reading)
  | tooLong
  | ended
  | broken (cause : String)
  /-- It looks again. -/
  | onward (next : Reading)
  /-- Nothing has arrived that it could go on with. -/
  | waiting (next : Reading)

/-- What a call for the next line gives. -/
inductive LineReply where
  | line (text : String)
  | ended
  | tooLong
  | broken (cause : String)
  /-- The body stays open and nothing more arrives. -/
  | never
  deriving DecidableEq

namespace Reading

/-- Takes a line that is whole, or else asks the body for more. -/
def look (limit now : Nat) (reading : Reading) : Look :=
  match reading.lines.take limit with
  | .line text rest => .line text { reading with lines := rest }
  | .tooLong => .tooLong
  | .finished => .ended
  | .awaited =>
      match reading.body.poll now with
      | .part bytes rest => .onward ⟨rest, reading.lines.feed bytes⟩
      | .finished => .onward { reading with lines := reading.lines.finish }
      | .broken cause => .broken cause
      | .awaited body => .waiting { reading with body := body }

/-- How long the part that was asked for is still to be waited for, in coarse stages. -/
def stage (now : Nat) (body : Body) : Nat :=
  match body.due with
  | none => 2
  | some due => if now < due then 1 else 0

/-- What a reader has still to do before it stops to look. -/
def effort (now : Nat) (reading : Reading) : Nat :=
  3 * reading.body.parts.length + (if reading.lines.ended then 0 else 3) + stage now reading.body

/-- A reader that goes on has less to do. -/
theorem effort_onward {limit now : Nat} {reading next : Reading}
    (looked : reading.look limit now = .onward next) :
    next.effort now < reading.effort now := by
  have taken := reading.lines.take_follows limit
  unfold look at looked
  split at looked
  · cases looked
  · cases looked
  · cases looked
  · next waited =>
      rw [waited] at taken
      obtain ⟨_, running⟩ := taken
      have arrived := reading.body.poll_follows now
      split at looked
      · next part rest arrival =>
          cases looked
          rw [arrival] at arrived
          have few : stage now rest ≤ 2 := by
            unfold stage
            split
            · exact Nat.le_refl 2
            · split <;> omega
          simp only [effort, arrived.1, LineBuffer.feed_ended, List.length_cons]
          omega
      · cases looked
        simp [effort, LineBuffer.finish, running]
      · cases looked
      · cases looked

/-- A reader that has waited until its part is due has less to do. -/
theorem effort_waiting {limit now due : Nat} {reading next : Reading}
    (looked : reading.look limit now = .waiting next) (asked : next.body.due = some due)
    (early : now < due) : next.effort due < reading.effort now := by
  unfold look at looked
  split at looked
  · cases looked
  · cases looked
  · cases looked
  · split at looked
    · cases looked
    · cases looked
    · cases looked
    · next waiting arrival =>
        cases looked
        have arrived := reading.body.poll_follows now
        rw [arrival] at arrived
        have before : 0 < stage now reading.body := by
          rcases (Body.poll_awaited arrival).2 with unasked | same
          · simp [stage, unasked]
          · simp [stage, same.trans asked, early]
        have after : stage due waiting = 0 := by
          simp [stage, show waiting.due = some due from asked]
        simp only [effort, after, arrived.1]
        omega

/-- Reads until a line is whole, or until it is known that none comes, and says when that is. -/
def nextLine (limit now : Nat) (reading : Reading) : LineReply × Nat × Reading :=
  match looked : reading.look limit now with
  | .line text next => (.line text, now, next)
  | .tooLong => (.tooLong, now, reading)
  | .ended => (.ended, now, reading)
  | .broken cause => (.broken cause, now, reading)
  | .onward next =>
      have := effort_onward looked
      next.nextLine limit now
  | .waiting next =>
      match asked : next.body.due with
      | none => (.never, now, next)
      | some due =>
          if early : now < due then
            have := effort_waiting looked asked early
            next.nextLine limit due
          else (.never, now, next)
termination_by reading.effort now

/-- A reader keeps what has arrived as it was cut, and has come to the end only of a body that is
complete. -/
structure Sound (reading : Reading) : Prop where
  keeps : reading.lines.Keeps reading.lines.bytes []
  ended : reading.lines.ended = true → reading.body.parts = [] ∧ reading.body.ending = .complete

/-- All bytes that were not taken yet, whether they have arrived or not. -/
def bytes (reading : Reading) : List UInt8 :=
  reading.lines.bytes ++ reading.body.bytes

end Reading

/-- A step of a stream that reads is a look for the next line. -/
theorem Dispatcher.stepReading_look (index : Nat) (task : StreamTask) (reading : Reading)
    (dispatcher : Dispatcher) :
    dispatcher.stepReading index task reading =
      match reading.look dispatcher.policy.lineLimit dispatcher.now with
      | .line text next => dispatcher.stepLine index task text next
      | .tooLong =>
          dispatcher.failHolding index (.protocol (.lineTooLong dispatcher.policy.lineLimit))
            reading.body
      | .ended => (dispatcher.endStream index task, true)
      | .broken cause => dispatcher.failHolding index (.cannotRead cause) reading.body
      | .onward next => (dispatcher.setStream index (.forwarding next), true)
      | .waiting next => (dispatcher.setStream index (.forwarding next), false) := by
  unfold Reading.look
  cases next : reading.lines.take dispatcher.policy.lineLimit with
  | line text rest => simp only [stepReading, next]
  | tooLong => simp only [stepReading, next]
  | finished => simp only [stepReading, next]
  | awaited =>
      cases arrival : reading.body.poll dispatcher.now with
      | part bytes rest => simp only [stepReading, next, arrival]
      | finished => simp only [stepReading, next, arrival]
      | broken cause => simp only [stepReading, next, arrival]
      | awaited body => simp only [stepReading, next, arrival]

/-! ### What a look leaves -/

/-- A reader that had `bytes` to give, from a body that ends in some way, gives a line and keeps
what is left. -/
inductive Gives (ending : Ending) (bytes left : List UInt8) (text : String) : Prop where
  | whole {piece} (single : lineFeed ∉ piece) (split : bytes = piece ++ lineFeed :: left)
      (reads : text = pieceText piece)
  | rest (complete : ending = .complete) (single : lineFeed ∉ bytes) (some : bytes ≠ [])
      (nothing : left = []) (reads : text = Utf8.decodeLossy bytes.toByteArray)

theorem Gives.lines {ending : Ending} {bytes left : List UInt8} {text : String}
    (gives : Gives ending bytes left text) :
    ending.lines bytes = text :: ending.lines left := by
  cases gives with
  | whole single split reads => rw [split, reads, Ending.lines_cons ending single]
  | rest complete single some nothing reads =>
      rw [nothing, reads, Ending.lines_single ending single,
        Ending.lines_single ending List.not_mem_nil, if_pos ⟨complete, some⟩]
      simp

/-- A reader that went on has the same bytes to give. -/
structure Carries (ending : Ending) (bytes : List UInt8) (next : Reading) : Prop where
  sound : next.Sound
  bytes : next.bytes = bytes
  ending : next.body.ending = ending

/-- What a look says about the bytes that were not taken, and about how the body ends. -/
def Look.Follows (limit now : Nat) (ending : Ending) (bytes : List UInt8) : Look → Prop
  | .line text next => Carries ending next.bytes next ∧ Gives ending bytes next.bytes text
  | .tooLong => ∃ piece ∈ bytes.splitOn lineFeed, limit < piece.length
  | .ended => ending = .complete ∧ bytes = []
  | .broken cause => ending = .broken cause ∧ lineFeed ∉ bytes
  | .onward next => Carries ending bytes next
  | .waiting next =>
      Carries ending bytes next ∧
        ((∃ due, next.body.due = some due ∧ now < due) ∨ ending = .held ∧ lineFeed ∉ bytes)

namespace Reading

theorem ofBody_carries (body : Body) : Carries body.ending body.bytes (.ofBody body) where
  sound := ⟨LineBuffer.empty_keeps, fun ended => by cases ended⟩
  bytes := by
    have none : LineBuffer.empty.bytes = [] := LineBuffer.empty_keeps.bytes_eq
    rw [bytes, ofBody, none, List.nil_append]
  ending := rfl

variable {reading : Reading}

/-- Without a line that is whole, the bytes to give are those that have arrived of one line, and all
that have not arrived. -/
theorem Sound.begun (sound : reading.Sound) (none : reading.lines.lines = []) :
    reading.bytes = contents reading.lines.unfinished ++ reading.body.bytes ∧
      lineFeed ∉ contents reading.lines.unfinished := by
  obtain ⟨begun, single⟩ := sound.keeps.begun none
  exact ⟨by rw [bytes, begun], single⟩

/-- Where nothing more arrives either, the bytes to give are the beginning of one line. -/
theorem Sound.last (sound : reading.Sound) (none : reading.lines.lines = [])
    (gone : reading.body.parts = []) :
    reading.bytes = contents reading.lines.unfinished ∧ lineFeed ∉ reading.bytes := by
  obtain ⟨begun, single⟩ := sound.begun none
  rw [Body.bytes, gone, List.flatMap_nil, List.append_nil] at begun
  exact ⟨begun, begun ▸ single⟩

theorem Sound.line {limit : Nat} {text : String} {rest : LineBuffer} (sound : reading.Sound)
    (next : reading.lines.take limit = .line text rest) :
    Carries reading.body.ending { reading with lines := rest }.bytes
        { reading with lines := rest } ∧
      Gives reading.body.ending reading.bytes { reading with lines := rest }.bytes text := by
  have follows := reading.lines.take_follows limit
  rw [next] at follows
  rcases follows with ⟨line, others, lines, rfl, rfl⟩ | ⟨none, ended, some, rfl, rfl⟩
  · obtain ⟨single, keeps⟩ := sound.keeps.next lines
    refine ⟨⟨⟨keeps, sound.ended⟩, rfl, rfl⟩, .whole single ?_ ?_⟩
    · rw [bytes, LineBuffer.bytes_cons lines, List.append_assoc, List.cons_append]
      rfl
    · rw [pieceText, toByteArray_contents]
  · obtain ⟨gone, complete⟩ := sound.ended ended
    obtain ⟨all, single⟩ := sound.last none gone
    have nothing : ({ reading with lines := ⟨[], [], 0, true⟩ } : Reading).bytes = [] := by
      rw [bytes, Body.bytes, gone]
      rfl
    have content : reading.bytes ≠ [] := by
      rw [all]
      intro empty
      rw [sound.keeps.length, ← length_contents, empty] at some
      exact some rfl
    refine ⟨⟨⟨⟨rfl, rfl⟩, fun _ => ⟨gone, complete⟩⟩, rfl, rfl⟩, ?_⟩
    refine .rest complete single content nothing ?_
    rw [all, toByteArray_contents]

/-- A line that grows past the limit is the first of the bytes to give. -/
theorem Sound.tooLong {limit : Nat} (sound : reading.Sound)
    (next : reading.lines.take limit = .tooLong) :
    ∃ piece ∈ reading.bytes.splitOn lineFeed, limit < piece.length := by
  have follows := reading.lines.take_follows limit
  rw [next] at follows
  obtain ⟨none, long⟩ := follows
  obtain ⟨begun, single⟩ := sound.begun none
  have alone : (contents reading.lines.unfinished).splitOn lineFeed =
      [] ++ [contents reading.lines.unfinished] := List.splitOn_eq_singleton single
  obtain ⟨first, after, cut⟩ := splitOn_extend alone reading.body.bytes
  refine ⟨contents reading.lines.unfinished ++ first, ?_, ?_⟩
  · rw [begun, cut]
    simp
  · rw [sound.keeps.length, ← length_contents] at long
    rw [List.length_append]
    omega

theorem Sound.fed {now : Nat} {part : ByteArray} {rest : Body} (sound : reading.Sound)
    (running : reading.lines.ended = false)
    (arrival : reading.body.poll now = .part part rest) :
    Carries reading.body.ending reading.bytes ⟨rest, reading.lines.feed part⟩ := by
  have follows := reading.body.poll_follows now
  rw [arrival] at follows
  obtain ⟨first, same⟩ := follows
  have keeps := LineBuffer.feed_keeps sound.keeps part
  refine ⟨⟨keeps.self, fun ended => ?_⟩, ?_, same⟩
  · rw [LineBuffer.feed_ended, running] at ended
    cases ended
  · rw [bytes, keeps.bytes_eq, bytes, Body.bytes, Body.bytes, first, List.flatMap_cons,
      List.append_assoc]

theorem look_follows (limit now : Nat) (sound : reading.Sound) :
    (reading.look limit now).Follows limit now reading.body.ending reading.bytes := by
  have taken := reading.lines.take_follows limit
  unfold look
  cases next : reading.lines.take limit with
  | line text rest => exact sound.line next
  | tooLong => exact sound.tooLong next
  | finished =>
      rw [next] at taken
      obtain ⟨none, ended, short⟩ := taken
      obtain ⟨gone, complete⟩ := sound.ended ended
      refine ⟨complete, ?_⟩
      rw [(sound.last none gone).1, ← List.length_eq_zero_iff, length_contents,
        ← sound.keeps.length, short]
  | awaited =>
      rw [next] at taken
      obtain ⟨none, running⟩ := taken
      have arrived := reading.body.poll_follows now
      cases arrival : reading.body.poll now with
      | part part rest => exact sound.fed running arrival
      | finished =>
          rw [arrival] at arrived
          exact ⟨⟨⟨sound.keeps.cut, sound.keeps.length⟩, fun _ => arrived⟩, rfl, rfl⟩
      | broken cause =>
          rw [arrival] at arrived
          exact ⟨arrived.2, (sound.last none arrived.1).2⟩
      | awaited waiting =>
          rw [arrival] at arrived
          refine ⟨⟨⟨sound.keeps, fun ended => ?_⟩, ?_, arrived.2⟩, ?_⟩
          · rw [running] at ended
            cases ended
          · rw [bytes, bytes, Body.bytes, arrived.1, Body.bytes]
          · rcases (Body.poll_awaited arrival).1 with due | ⟨gone, held⟩
            · exact .inl due
            · exact .inr ⟨held, (sound.last none gone).2⟩

end Reading

/-! ### Calls for the next line -/

/-- What a reply says about the bytes that were not taken, and about how the body ends. -/
def LineReply.Follows (limit : Nat) (ending : Ending) (bytes : List UInt8) (next : Reading) :
    LineReply → Prop
  | .line text => Carries ending next.bytes next ∧ Gives ending bytes next.bytes text
  | .ended => Carries ending [] next ∧ ending = .complete ∧ bytes = []
  | .tooLong => ∃ piece ∈ bytes.splitOn lineFeed, limit < piece.length
  | .broken cause => ending = .broken cause ∧ lineFeed ∉ bytes
  | .never => ending = .held ∧ lineFeed ∉ bytes

namespace Reading

/-- A call gives what the looks that it takes come to. -/
theorem nextLine_follows (limit now : Nat) (reading : Reading) (sound : reading.Sound) :
    (reading.nextLine limit now).1.Follows limit reading.body.ending reading.bytes
      (reading.nextLine limit now).2.2 := by
  fun_induction nextLine limit now reading with
  | case1 now reading text next looked =>
      have follows := reading.look_follows limit now sound
      rw [looked] at follows
      exact follows
  | case2 now reading looked =>
      have follows := reading.look_follows limit now sound
      rw [looked] at follows
      exact follows
  | case3 now reading looked =>
      have follows := reading.look_follows limit now sound
      rw [looked] at follows
      exact ⟨⟨sound, follows.2, rfl⟩, follows⟩
  | case4 now reading cause looked =>
      have follows := reading.look_follows limit now sound
      rw [looked] at follows
      exact follows
  | case5 now reading next looked less induction =>
      have follows := reading.look_follows limit now sound
      rw [looked] at follows
      rw [← follows.ending, ← follows.bytes]
      exact induction follows.sound
  | case6 now reading next looked unasked =>
      have follows := reading.look_follows limit now sound
      rw [looked] at follows
      rcases follows.2 with ⟨due, asked, _⟩ | held
      · rw [unasked] at asked
        cases asked
      · exact held
  | case7 now reading next looked due asked early less induction =>
      have follows := reading.look_follows limit now sound
      rw [looked] at follows
      rw [← follows.1.ending, ← follows.1.bytes]
      exact induction follows.1.sound
  | case8 now reading next looked due asked late =>
      have follows := reading.look_follows limit now sound
      rw [looked] at follows
      rcases follows.2 with ⟨other, same, early⟩ | held
      · rw [asked] at same
        cases same
        exact absurd early late
      · exact held

end Reading

/-! ### Successive calls -/

/-- After a reply of this kind no further call is made. -/
def LineReply.stops : LineReply → Bool
  | .line _ | .ended => false
  | .tooLong | .broken _ | .never => true

/-- The replies to so many successive calls, and the reader after them. -/
def Reading.reads (limit : Nat) : Nat → Nat → Reading → List LineReply × Reading
  | 0, _, reading => ([], reading)
  | count + 1, now, reading =>
      let (reply, later, next) := reading.nextLine limit now
      if reply.stops then ([reply], next)
      else
        let (replies, left) := reads limit count later next
        (reply :: replies, left)

/-- The replies that follow the lines of a body. -/
def LineReply.afterwards (count : Nat) : Ending → List LineReply
  | .complete => List.replicate count .ended
  | .held => [.never]
  | .broken cause => [.broken cause]

theorem LineReply.take_afterwards (lines : List LineReply) (count : Nat) (ending : Ending) :
    (lines ++ afterwards (count + 1) ending).take count =
      (lines ++ afterwards count ending).take count := by
  cases ending with
  | complete =>
      simp only [afterwards, List.take_append, List.take_replicate]
      congr 2
      omega
  | held => rfl
  | broken cause => rfl

/-- What the replies to successive calls say about the bytes that were not taken. -/
structure Reads (count : Nat) (ending : Ending) (bytes : List UInt8) (replies : List LineReply)
    (left : Reading) : Prop where
  replies :
    replies =
      ((ending.lines bytes).map LineReply.line ++ LineReply.afterwards count ending).take count
  /-- Each line was taken with its line feed, and all that follows is kept. -/
  kept : count < (bytes.splitOn lineFeed).length →
    bytes = ((bytes.splitOn lineFeed).take count).flatMap (· ++ [lineFeed]) ++ left.bytes
  drained : ending = .complete → (bytes.splitOn lineFeed).length ≤ count → left.bytes = []

namespace Reads

variable {count : Nat} {ending : Ending} {bytes : List UInt8} {replies : List LineReply}
  {next left : Reading}

theorem none (ending : Ending) (left : Reading) : Reads 0 ending left.bytes [] left where
  replies := rfl
  kept _ := rfl
  drained _ few := absurd few (by simp [List.splitOn_ne_nil])

/-- A reader that had nothing to give any more keeps nothing. -/
theorem nothing (reads : Reads count ending [] replies left) (complete : ending = .complete) :
    left.bytes = [] := by
  cases count with
  | zero => simpa using (reads.kept (by simp)).symm
  | succ count => exact reads.drained complete (by simp)

theorem line {text : String} (gives : Gives ending bytes next.bytes text)
    (reads : Reads count ending next.bytes replies left) :
    Reads (count + 1) ending bytes (.line text :: replies) left where
  replies := by
    rw [gives.lines, List.map_cons, List.cons_append, List.take_succ_cons,
      LineReply.take_afterwards, ← reads.replies]
  kept more := by
    cases gives with
    | whole single split _ =>
        rw [split, List.splitOn_append_cons_self_of_not_mem single] at more ⊢
        have rest := reads.kept (Nat.lt_of_succ_lt_succ more)
        rw [List.take_succ_cons, List.flatMap_cons, List.append_assoc, ← rest, List.append_assoc]
        rfl
    | rest _ single =>
        rw [List.splitOn_eq_singleton single, List.length_singleton] at more
        omega
  drained complete few := by
    cases gives with
    | whole single split _ =>
        rw [split, List.splitOn_append_cons_self_of_not_mem single] at few
        exact reads.drained complete (Nat.le_of_succ_le_succ few)
    | rest _ _ _ nothing => exact (nothing ▸ reads).nothing complete

/-- Without a further line there is one stretch, and no line feed to be taken. -/
theorem last (single : lineFeed ∉ bytes)
    (reads : replies = (LineReply.afterwards (count + 1) ending).take (count + 1))
    (lines : ending.lines bytes = [])
    (drained : ending = .complete → left.bytes = []) :
    Reads (count + 1) ending bytes replies left where
  replies := by rw [lines, List.map_nil, List.nil_append, reads]
  kept more := by
    rw [List.splitOn_eq_singleton single, List.length_singleton] at more
    omega
  drained complete _ := drained complete

theorem ended (reads : Reads count ending [] replies left) (complete : ending = .complete) :
    Reads (count + 1) ending [] (.ended :: replies) left := by
  have none : ending.lines [] = [] := by simp [Ending.lines]
  have rest := reads.replies
  rw [none, List.map_nil, List.nil_append, complete] at rest
  refine .last List.not_mem_nil ?_ none fun _ => reads.nothing complete
  rw [rest, complete, LineReply.afterwards, LineReply.afterwards, List.replicate_succ,
    List.take_succ_cons]

end Reads

namespace Reading

/-- No stretch is longer than the limit. -/
def Short (limit : Nat) (bytes : List UInt8) : Prop :=
  ∀ piece ∈ bytes.splitOn lineFeed, piece.length ≤ limit

theorem Short.left {limit : Nat} {ending : Ending} {bytes left : List UInt8} {text : String}
    (short : Short limit bytes) (gives : Gives ending bytes left text) : Short limit left := by
  intro piece member
  cases gives with
  | whole single split _ =>
      rw [Short, split, List.splitOn_append_cons_self_of_not_mem single] at short
      exact short piece (List.mem_cons_of_mem _ member)
  | rest _ _ _ nothing =>
      rw [nothing, List.splitOn_nil, List.mem_singleton] at member
      simp [member]

/-- As long as no line is too long, replies follow the bytes that were not taken. -/
theorem reads_allowed (limit count : Nat) (now : Nat) (reading : Reading) (sound : reading.Sound)
    (allowed : .tooLong ∉ (reading.reads limit count now).1) :
    Reads count reading.body.ending reading.bytes (reading.reads limit count now).1
      (reading.reads limit count now).2 := by
  induction count generalizing now reading with
  | zero => exact .none _ reading
  | succ count induction =>
      have follows := reading.nextLine_follows limit now sound
      generalize called : reading.nextLine limit now = outcome at follows
      obtain ⟨reply, later, next⟩ := outcome
      cases reply with
      | line text =>
          obtain ⟨carries, gives⟩ := follows
          have rest := induction later next carries.sound (by
            intro member
            apply allowed
            simp [reads, called, LineReply.stops, member])
          rw [carries.ending] at rest
          simpa [reads, called, LineReply.stops] using Reads.line gives rest
      | ended =>
          obtain ⟨carries, complete, nothing⟩ := follows
          have rest := induction later next carries.sound (by
            intro member
            apply allowed
            simp [reads, called, LineReply.stops, member])
          rw [carries.ending, carries.bytes] at rest
          rw [nothing]
          simpa [reads, called, LineReply.stops] using rest.ended complete
      | tooLong =>
          refine absurd ?_ allowed
          simp [reads, called, LineReply.stops]
      | broken cause =>
          obtain ⟨broken, single⟩ := follows
          have last : Reads (count + 1) reading.body.ending reading.bytes [.broken cause] next :=
            .last single (by simp [broken, LineReply.afterwards])
              (Ending.lines_open single (by simp [broken])) (by simp [broken])
          simpa [reads, called, LineReply.stops] using last
      | never =>
          obtain ⟨held, single⟩ := follows
          have last : Reads (count + 1) reading.body.ending reading.bytes [.never] next :=
            .last single (by simp [held, LineReply.afterwards])
              (Ending.lines_open single (by simp [held])) (by simp [held])
          simpa [reads, called, LineReply.stops] using last

theorem Short.allows (limit count : Nat) (now : Nat) (reading : Reading) (sound : reading.Sound)
    (short : Short limit reading.bytes) : .tooLong ∉ (reading.reads limit count now).1 := by
  induction count generalizing now reading with
  | zero => simp [reads]
  | succ count induction =>
      have follows := reading.nextLine_follows limit now sound
      generalize called : reading.nextLine limit now = outcome at follows
      obtain ⟨reply, later, next⟩ := outcome
      cases reply with
      | line text =>
          obtain ⟨carries, gives⟩ := follows
          have rest := induction later next carries.sound (short.left gives)
          simpa [reads, called, LineReply.stops] using rest
      | ended =>
          obtain ⟨carries, complete, nothing⟩ := follows
          have rest := induction later next carries.sound (by
            rw [carries.bytes]
            exact nothing ▸ short)
          simpa [reads, called, LineReply.stops] using rest
      | tooLong =>
          obtain ⟨piece, member, long⟩ := follows
          exact absurd (short piece member) (Nat.not_le_of_lt long)
      | broken cause => simp [reads, called, LineReply.stops]
      | never => simp [reads, called, LineReply.stops]

theorem reads_follow (limit count : Nat) (now : Nat) (reading : Reading) (sound : reading.Sound)
    (short : Short limit reading.bytes) :
    Reads count reading.body.ending reading.bytes (reading.reads limit count now).1
      (reading.reads limit count now).2 :=
  reading.reads_allowed limit count now sound (short.allows limit count now reading sound)

/-- The replies to successive calls are the lines of a body, and then how it ends; they depend on
its bytes alone, not on the parts in which these arrive. The first calls take whole stretches of the
bytes with their line feeds and keep the others. -/
theorem successive_lines (limit now count : Nat) (body : Body) (short : Short limit body.bytes) :
    ((ofBody body).reads limit count now).1 =
        (body.lines.map LineReply.line ++ LineReply.afterwards count body.ending).take count ∧
      (count < body.pieces.length →
        body.bytes = (body.pieces.take count).flatMap (· ++ [lineFeed]) ++
          ((ofBody body).reads limit count now).2.bytes) ∧
      (body.ending = .complete → body.pieces.length ≤ count →
        ((ofBody body).reads limit count now).2.bytes = []) := by
  have carries := ofBody_carries body
  have reads := (ofBody body).reads_follow limit count now carries.sound (by
    rw [carries.bytes]
    exact short)
  rw [carries.bytes] at reads
  exact ⟨reads.replies, reads.kept, reads.drained⟩

/-- A letter of two bytes and the end of its line are divided between parts, one of them empty. -/
def dividedBody : Body :=
  ⟨[⟨#[123, 195]⟩, ⟨#[]⟩, ⟨#[169, 13]⟩, ⟨#[10, 10, 116]⟩], 3, .complete, none⟩

theorem dividedBody_short : Short 4 dividedBody.bytes := by
  unfold Short
  decide

theorem dividedBody_read :
    Short 4 dividedBody.bytes ∧
      ((ofBody dividedBody).reads 4 5 0).1 =
        [.line "\x7bé", .line "", .line "t", .ended, .ended] ∧
      dividedBody.bytes = [123, 195, 169, 13, 10] ++ ((ofBody dividedBody).reads 4 1 0).2.bytes ∧
      ((ofBody dividedBody).reads 4 5 0).2.bytes = [] :=
  ⟨dividedBody_short,
    (successive_lines 4 0 5 dividedBody dividedBody_short).1.trans (by decide +kernel),
    (successive_lines 4 0 1 dividedBody dividedBody_short).2.1 (by decide),
    (successive_lines 4 0 5 dividedBody dividedBody_short).2.2 rfl (by decide)⟩

end Reading

end Dispatch

end StreamQuery
