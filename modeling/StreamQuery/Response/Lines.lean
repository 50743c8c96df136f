import StreamQuery.Text.Blank
import StreamQuery.Text.Utf8
/-!
# Lines of a body

A stream's body is cut at its line feeds, wherever its parts begin and end. Carriage returns before
a line feed are dropped; what follows the last line feed is a line of its own unless it is empty.
While a line has no end yet, it may not grow past a limit.
-/

namespace StreamQuery.Response

open Text

/-- The longest line that is read from a stream, in bytes. -/
def maximalLineLength : Nat := 4 * 1024 * 1024

def lineFeed : UInt8 := 10

/-- Cuts bytes at line feeds from an index on; `start` is where the current piece begins, and the
pieces before it are in reverse. -/
def cutOnto (bytes : ByteArray) (start index : Nat) (pieces : List ByteArray) : List ByteArray :=
  if bound : index < bytes.size then
    if bytes[index] = lineFeed then
      cutOnto bytes (index + 1) (index + 1) (bytes.extract start index :: pieces)
    else
      cutOnto bytes start (index + 1) pieces
  else
    (bytes.extract start bytes.size :: pieces).reverse
termination_by bytes.size - index

/-- The pieces between line feeds, one more than there are line feeds. -/
def cutLines (bytes : ByteArray) : List ByteArray :=
  cutOnto bytes 0 0 []

/-- Bytes that have arrived and are not taken yet. -/
structure LineBuffer where
  /-- Lines with their ends, in order. -/
  lines : List ByteArray
  /-- The parts of the line without end, the last one first. -/
  pieces : List ByteArray
  /-- The number of bytes in these parts. -/
  length : Nat
  ended : Bool

/-- What is next in a buffer. -/
inductive NextLine where
  | line (text : String) (rest : LineBuffer)
  | tooLong
  | finished
  | awaited

namespace LineBuffer

def empty : LineBuffer :=
  ⟨[], [], 0, false⟩

/-- The line without end, its parts put together. -/
def unfinished (buffer : LineBuffer) : ByteArray :=
  buffer.pieces.reverse.foldl (· ++ ·) ByteArray.empty

/-- Adds a part of the body. -/
def feed (bytes : ByteArray) (buffer : LineBuffer) : LineBuffer :=
  match cutLines bytes with
  | [] => buffer
  | [piece] =>
      { buffer with pieces := piece :: buffer.pieces, length := buffer.length + piece.size }
  | first :: rest =>
      let last := rest.getLastD ByteArray.empty
      { buffer with
        lines := buffer.lines ++ (buffer.unfinished ++ first) :: rest.dropLast
        pieces := [last]
        length := last.size }

def finish (buffer : LineBuffer) : LineBuffer :=
  { buffer with ended := true }

/-- The text of a line that had an end. -/
def lineText (line : ByteArray) : String :=
  String.ofList (dropTrailing (· = '\r') (Utf8.decodeLossy line).toList)

/-- Takes the next line. The limit is checked only when no complete line is left. -/
def take (limit : Nat) (buffer : LineBuffer) : NextLine :=
  match buffer.lines with
  | line :: rest => .line (lineText line) { buffer with lines := rest }
  | [] =>
      if limit < buffer.length then .tooLong
      else if buffer.ended then
        if buffer.length = 0 then .finished
        else .line (Utf8.decodeLossy buffer.unfinished) { buffer with pieces := [], length := 0 }
      else .awaited

/-- The number of lines and bytes that are not taken yet. -/
def remaining (buffer : LineBuffer) : Nat :=
  buffer.lines.length + buffer.length + 1

end LineBuffer

end StreamQuery.Response
