import StreamQuery.Response.Body
import StreamQuery.Response.Lines
import Mathlib.Data.List.Basic
/-!
# The lines of a body

What the lines of a body are does not depend on how its bytes are divided into parts: they are the
stretches between the line feeds of all its bytes. A stream that reads a body takes these lines in
order. How far it has come is a relation between the body, the lines that were taken, and what is
kept of the rest; every way in which a reading goes on or stops is one lemma about it.
-/

namespace StreamQuery.Response

open Text

/-- The bytes of an array as a list. -/
def contents (bytes : ByteArray) : List UInt8 :=
  bytes.data.toList

/-- The text of a piece that a line feed ends. -/
def pieceText (piece : List UInt8) : String :=
  LineBuffer.lineText piece.toByteArray

namespace Body

/-- All bytes of a body. -/
def bytes (body : Body) : List UInt8 :=
  body.parts.flatMap contents

/-- The stretches between line feeds, one more than there are line feeds. -/
def pieces (body : Body) : List (List UInt8) :=
  body.bytes.splitOn lineFeed

/-- What follows the last line feed is a line where the body is complete, unless it is empty. -/
def remainder (body : Body) : List String :=
  let last := body.pieces.getLastD []
  if body.ending = .complete ∧ last ≠ [] then [Utf8.decodeLossy last.toByteArray] else []

def lines (body : Body) : List String :=
  body.pieces.dropLast.map pieceText ++ body.remainder

end Body

/-- The lines of some bytes that end in some way. -/
def Ending.lines (ending : Ending) (bytes : List UInt8) : List String :=
  let pieces := bytes.splitOn lineFeed
  let last := pieces.getLastD []
  pieces.dropLast.map pieceText ++
    if ending = .complete ∧ last ≠ [] then [Utf8.decodeLossy last.toByteArray] else []

namespace Ending

variable {ending : Ending} {bytes : List UInt8}

theorem lines_cons {piece rest : List UInt8} (ending : Ending) (single : lineFeed ∉ piece) :
    ending.lines (piece ++ lineFeed :: rest) = pieceText piece :: ending.lines rest := by
  obtain ⟨first, others, cut⟩ := List.exists_cons_of_ne_nil (List.splitOn_ne_nil lineFeed rest)
  simp only [lines, List.splitOn_append_cons_self_of_not_mem single, cut]
  simp

theorem lines_single (ending : Ending) (single : lineFeed ∉ bytes) :
    ending.lines bytes =
      if ending = .complete ∧ bytes ≠ [] then [Utf8.decodeLossy bytes.toByteArray] else [] := by
  simp [lines, List.splitOn_eq_singleton single]

theorem lines_open (single : lineFeed ∉ bytes) (cut : ending ≠ .complete) :
    ending.lines bytes = [] := by
  rw [lines_single ending single, if_neg fun whole => cut whole.1]

end Ending

/-! ### Cutting -/

theorem contents_append (left right : ByteArray) :
    contents (left ++ right) = contents left ++ contents right := by
  simp [contents, ByteArray.data_append]

theorem length_contents (bytes : ByteArray) : (contents bytes).length = bytes.size := by
  simp [contents, ByteArray.size_data]

theorem toByteArray_contents (bytes : ByteArray) : (contents bytes).toByteArray = bytes := by
  apply ByteArray.ext
  simp [contents, List.data_toByteArray]

/-- Where two texts meet, the last piece of the one and the first piece of the other are one. -/
theorem splitOn_append {α : Type} [BEq α] {separator : α} {left right : List α}
    {before after : List (List α)} {last first : List α}
    (leftCut : left.splitOn separator = before ++ [last])
    (rightCut : right.splitOn separator = first :: after) :
    (left ++ right).splitOn separator = before ++ (last ++ first) :: after := by
  unfold List.splitOn at leftCut rightCut ⊢
  induction left generalizing before last with
  | nil =>
      cases before with
      | nil =>
          have empty : last = [] := by simpa using leftCut.symm
          simpa [empty] using rightCut
      | cons head tail => simp at leftCut
  | cons item rest induction =>
      rw [List.cons_append, List.splitOnP_cons_eq_if_modifyHead]
      rw [List.splitOnP_cons_eq_if_modifyHead] at leftCut
      have cut := List.dropLast_concat_getLast (List.splitOnP_ne_nil (· == separator) rest)
      generalize (rest.splitOnP (· == separator)).dropLast = inner at cut
      generalize (rest.splitOnP (· == separator)).getLast _ = innerLast at cut
      rw [induction cut.symm]
      rw [← cut] at leftCut
      split at leftCut
      · next ends =>
          have halves : ([] :: inner) ++ [innerLast] = before ++ [last] := leftCut
          obtain ⟨rfl, rfl⟩ := List.append_singleton_inj.mp halves
          rw [if_pos ends]
          rfl
      · next within =>
          rw [if_neg within]
          cases inner with
          | nil =>
              have halves : [] ++ [item :: innerLast] = before ++ [last] := leftCut
              obtain ⟨rfl, rfl⟩ := List.append_singleton_inj.mp halves
              rfl
          | cons head tail =>
              have halves : ((item :: head) :: tail) ++ [innerLast] = before ++ [last] := leftCut
              obtain ⟨rfl, rfl⟩ := List.append_singleton_inj.mp halves
              rfl

/-- More bytes leave all pieces but the last as they are, and continue the last one. -/
theorem splitOn_extend {α : Type} [BEq α] {separator : α} {left : List α}
    {before : List (List α)} {last : List α}
    (cut : left.splitOn separator = before ++ [last]) (right : List α) :
    ∃ first after, (left ++ right).splitOn separator = before ++ (last ++ first) :: after := by
  obtain ⟨first, after, rightCut⟩ :=
    List.exists_cons_of_ne_nil (List.splitOnP_ne_nil (· == separator) right)
  exact ⟨first, after, splitOn_append cut rightCut⟩

theorem contents_extract (bytes : ByteArray) (start stop : Nat) :
    contents (bytes.extract start stop) = ((contents bytes).take stop).drop start := by
  simp [contents, ByteArray.data_extract, List.extract_eq_take_drop, List.drop_take]

theorem drop_contents {bytes : ByteArray} {index : Nat} (bound : index < bytes.size) :
    (contents bytes).drop index = bytes[index] :: (contents bytes).drop (index + 1) := by
  have inside : index < (contents bytes).length := by
    rw [length_contents]
    exact bound
  rw [List.drop_eq_getElem_cons inside]
  rfl

theorem modifyHead_self {α : Type} (items : List α) :
    items.modifyHead (fun item => item) = items := by
  cases items <;> rfl

/-- Cutting an array from an index on: the piece that was begun is put before the first one. -/
theorem cutOnto_contents (bytes : ByteArray) (start index : Nat) (pieces : List ByteArray)
    (begun : start ≤ index) (inside : index ≤ bytes.size) :
    (cutOnto bytes start index pieces).map contents =
      pieces.reverse.map contents ++
        (((contents bytes).drop index).splitOn lineFeed).modifyHead
          (((contents bytes).take index).drop start ++ ·) := by
  fun_induction cutOnto bytes start index pieces with
  | case1 start index pieces bound ends induction =>
      rw [induction (Nat.le_refl _) bound, drop_contents bound]
      unfold List.splitOn
      rw [List.splitOnP_cons_eq_if_modifyHead, if_pos (by simp [ends])]
      have none : ((contents bytes).take (index + 1)).drop (index + 1) = [] :=
        List.drop_eq_nil_of_le (List.length_take_le _ _)
      simp [none, modifyHead_self, contents_extract]
  | case2 start index pieces bound within induction =>
      rw [induction (Nat.le_succ_of_le begun) bound, drop_contents bound]
      unfold List.splitOn
      rw [List.splitOnP_cons_eq_if_modifyHead, if_neg (by simp [within]),
        List.modifyHead_modifyHead]
      have longer : ((contents bytes).take (index + 1)).drop start =
          ((contents bytes).take index).drop start ++ [bytes[index]] := by
        have bounded : index < (contents bytes).length := by
          rw [length_contents]
          exact bound
        have short : start ≤ ((contents bytes).take index).length := by
          rw [List.length_take]
          omega
        rw [List.take_succ_eq_append_getElem bounded, List.drop_append_of_le_length short]
        rfl
      rw [longer]
      simp [Function.comp_def]
  | case3 start index pieces bound =>
      have last : index = bytes.size := Nat.le_antisymm inside (Nat.le_of_not_lt bound)
      have none : (contents bytes).drop bytes.size = [] :=
        List.drop_eq_nil_of_le (Nat.le_of_eq (length_contents bytes))
      simp [last, none, contents_extract]

theorem cutLines_contents (bytes : ByteArray) :
    (cutLines bytes).map contents = (contents bytes).splitOn lineFeed := by
  unfold cutLines
  rw [cutOnto_contents bytes 0 0 [] (Nat.le_refl _) (Nat.zero_le _)]
  simp [modifyHead_self]

/-! ### Buffers -/

/-- What a buffer keeps of some bytes when some of their pieces were taken from it. -/
structure LineBuffer.Keeps (bytes : List UInt8) (taken : List (List UInt8)) (buffer : LineBuffer) :
    Prop where
  cut : bytes.splitOn lineFeed =
    taken ++ buffer.lines.map contents ++ [contents buffer.unfinished]
  length : buffer.length = buffer.unfinished.size

namespace LineBuffer

variable {bytes : List UInt8} {taken : List (List UInt8)} {buffer : LineBuffer}

theorem empty_keeps : empty.Keeps [] [] := by
  constructor <;> rfl

/-- The first line of a buffer is the next piece. -/
theorem Keeps.rest {line : ByteArray} {others : List ByteArray} (keeps : buffer.Keeps bytes taken)
    (lines : buffer.lines = line :: others) :
    { buffer with lines := others }.Keeps bytes (taken ++ [contents line]) := by
  constructor
  · rw [keeps.cut, lines]
    simp [unfinished]
  · exact keeps.length

theorem unfinished_push (lines : List ByteArray) (piece : ByteArray) (buffer : LineBuffer)
    (length : Nat) (ended : Bool) :
    unfinished ⟨lines, piece :: buffer.pieces, length, ended⟩ = buffer.unfinished ++ piece := by
  simp [unfinished]

theorem unfinished_single (lines : List ByteArray) (piece : ByteArray) (length : Nat)
    (ended : Bool) : unfinished ⟨lines, [piece], length, ended⟩ = piece := by
  simp [unfinished]

theorem feed_ended (buffer : LineBuffer) (part : ByteArray) :
    (buffer.feed part).ended = buffer.ended := by
  unfold feed
  split <;> rfl

/-- A part of a body continues the line without end, and may end it. -/
theorem feed_keeps (keeps : buffer.Keeps bytes taken) (part : ByteArray) :
    (buffer.feed part).Keeps (bytes ++ contents part) taken := by
  have cut := cutLines_contents part
  unfold feed
  split
  · next none =>
      rw [none] at cut
      exact absurd cut.symm (List.splitOnP_ne_nil _ _)
  · next piece single =>
      rw [single] at cut
      constructor
      · rw [splitOn_append keeps.cut cut.symm, unfinished_push, contents_append]
        rfl
      · rw [unfinished_push, ByteArray.size_append, ← keeps.length]
  · next first rest several pieces =>
      rw [pieces] at cut
      have some : rest ≠ [] := by
        rintro rfl
        exact several rfl
      have last : rest = rest.dropLast ++ [rest.getLastD ByteArray.empty] := by
        rw [List.getLastD_eq_getLast?, List.getLast?_eq_some_getLast some]
        exact (List.dropLast_concat_getLast some).symm
      constructor
      · rw [splitOn_append keeps.cut cut.symm, unfinished_single]
        conv_lhs => rw [last]
        simp [contents_append]
      · rw [unfinished_single]

end LineBuffer

/-- What an answer about the next line says about the buffer that gave it. -/
def NextLine.Follows (limit : Nat) (buffer : LineBuffer) : NextLine → Prop
  | .line text rest =>
      (∃ line others, buffer.lines = line :: others ∧ text = LineBuffer.lineText line ∧
        rest = { buffer with lines := others }) ∨
      (buffer.lines = [] ∧ buffer.ended = true ∧ buffer.length ≠ 0 ∧
        text = Utf8.decodeLossy buffer.unfinished ∧ rest = ⟨[], [], 0, true⟩)
  | .tooLong => buffer.lines = [] ∧ limit < buffer.length
  | .finished => buffer.lines = [] ∧ buffer.ended = true ∧ buffer.length = 0
  | .awaited => buffer.lines = [] ∧ buffer.ended = false

theorem LineBuffer.take_follows (limit : Nat) (buffer : LineBuffer) :
    (buffer.take limit).Follows limit buffer := by
  unfold take
  split
  · next line others lines => exact .inl ⟨line, others, lines, rfl, rfl⟩
  · next none =>
      split
      · next long => exact ⟨none, long⟩
      · split
        · next ended =>
            split
            · next short => exact ⟨none, ended, short⟩
            · next some => exact .inr ⟨none, ended, some, rfl, by rw [none, ended]⟩
        · next open_ => exact ⟨none, by simpa using open_⟩

/-- A buffer that gave a line is another one. -/
theorem LineBuffer.take_ne (buffer : LineBuffer) (limit : Nat) (text : String) :
    buffer.take limit ≠ .line text buffer := by
  intro next
  have follows := buffer.take_follows limit
  rw [next] at follows
  rcases follows with ⟨line, others, lines, _, same⟩ | ⟨_, _, some, _, same⟩
  · rw [congrArg LineBuffer.lines same] at lines
    exact absurd lines.symm (List.cons_ne_self _ _)
  · exact some (congrArg LineBuffer.length same)

/-! ### Arrivals -/

/-- What an answer to a reader says about the body that gave it. -/
def Arrival.Follows (body : Body) : Arrival → Prop
  | .part bytes rest => body.parts = bytes :: rest.parts ∧ rest.ending = body.ending
  | .finished => body.parts = [] ∧ body.ending = .complete
  | .broken cause => body.parts = [] ∧ body.ending = .broken cause
  | .awaited waiting => waiting.parts = body.parts ∧ waiting.ending = body.ending

theorem Body.poll_follows (now : Nat) (body : Body) : (body.poll now).Follows body := by
  unfold poll
  split
  · next parts =>
      split
      · next ending => exact ⟨parts, ending⟩
      · exact ⟨rfl, rfl⟩
      · next ending => exact ⟨parts, ending⟩
  · next parts =>
      split
      · exact ⟨parts, rfl⟩
      · split
        · exact ⟨rfl, rfl⟩
        · split
          · exact ⟨parts, rfl⟩
          · exact ⟨rfl, rfl⟩

/-- A reader that has to wait knows until when, unless the body stays open with nothing to come; it
does not ask twice. -/
theorem Body.poll_awaited {now : Nat} {body waiting : Body}
    (arrival : body.poll now = .awaited waiting) :
    ((∃ due, waiting.due = some due ∧ now < due) ∨ body.parts = [] ∧ body.ending = .held) ∧
      (body.due = none ∨ body.due = waiting.due) := by
  unfold poll at arrival
  split at arrival
  · next parts =>
      split at arrival
      · cases arrival
      · next held =>
          cases arrival
          exact ⟨.inr ⟨parts, held⟩, .inr rfl⟩
      · cases arrival
  · split at arrival
    · cases arrival
    · next slow =>
        split at arrival
        · next unasked =>
            cases arrival
            exact ⟨.inl ⟨now + body.pause, rfl, by omega⟩, .inl unasked⟩
        · next due asked =>
            split at arrival
            · cases arrival
            · next early =>
                cases arrival
                exact ⟨.inl ⟨due, asked, by omega⟩, .inr rfl⟩

end StreamQuery.Response
