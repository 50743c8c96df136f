import StreamQuery.Proofs.Response.Lines
/-!
# The lines of a text

When the bytes of a body are a text, its lines are those of the text, wherever the parts of the body
begin and end. No character but the line feed has the byte of a line feed in it, so cutting the bytes
cuts the text between its characters.
-/

namespace StreamQuery.Response

open Text

/-- The bytes of a text. -/
def utf8 (text : List Char) : List UInt8 :=
  text.flatMap String.utf8EncodeChar

theorem utf8_append (left right : List Char) : utf8 (left ++ right) = utf8 left ++ utf8 right :=
  List.flatMap_append

theorem utf8_eq_nil {text : List Char} : utf8 text = [] ↔ text = [] := by
  cases text with
  | nil => simp [utf8]
  | cons c rest => simp [utf8, String.utf8EncodeChar_ne_nil]

theorem lineFeed_utf8EncodeChar {c : Char} (member : lineFeed ∈ String.utf8EncodeChar c) :
    c = '\n' := by
  have value {code : Nat} (same : lineFeed = UInt8.ofNat code) : code % 256 = 10 := by
    have numbers := congrArg UInt8.toNat same
    rw [UInt8.toNat_ofNat'] at numbers
    exact numbers.symm
  unfold String.utf8EncodeChar at member
  simp only at member
  split at member
  · next small =>
      have ten := value (List.mem_singleton.mp member)
      have code : c.val.toNat = 10 := by omega
      exact Char.ext (UInt32.toNat_inj.mp code)
  · simp only [apply_ite (lineFeed ∈ ·), List.mem_cons, List.not_mem_nil, or_false] at member
    -- Every byte of a longer encoding is at least 128.
    split at member
    · rcases member with byte | byte <;> have ten := value byte <;> omega
    · split at member
      · rcases member with byte | byte | byte <;> have ten := value byte <;> omega
      · rcases member with byte | byte | byte | byte <;> have ten := value byte <;> omega

theorem lineFeed_utf8 {text : List Char} (unbroken : '\n' ∉ text) : lineFeed ∉ utf8 text := by
  intro member
  obtain ⟨c, inside, byte⟩ := List.mem_flatMap.mp member
  exact unbroken (lineFeed_utf8EncodeChar byte ▸ inside)

theorem fromUTF8_utf8 (text : List Char) :
    String.fromUTF8? (utf8 text).toByteArray = some (String.ofList text) := by
  have valid : (utf8 text).toByteArray.IsValidUTF8 := .intro text rfl
  rw [String.fromUTF8?, dif_pos valid]
  rfl

theorem decodeLossy_utf8 (text : List Char) :
    Utf8.decodeLossy (utf8 text).toByteArray = String.ofList text := by
  rw [Utf8.decodeLossy, fromUTF8_utf8]

theorem pieceText_utf8 (text : List Char) :
    pieceText (utf8 text) = String.ofList (dropTrailing (· = '\r') text) := by
  rw [pieceText, LineBuffer.lineText, decodeLossy_utf8, String.toList_ofList]

/-! ### Lines of bytes -/

/-- The lines of a complete body of some bytes. -/
def linesOf (bytes : List UInt8) : List String :=
  (bytes.splitOn lineFeed).dropLast.map pieceText ++
    if (bytes.splitOn lineFeed).getLastD [] ≠ [] then
      [Utf8.decodeLossy ((bytes.splitOn lineFeed).getLastD []).toByteArray]
    else []

theorem Body.lines_complete {body : Body} (complete : body.ending = .complete) :
    body.lines = linesOf body.bytes := by
  simp [Body.lines, Body.remainder, Body.pieces, linesOf, complete]

theorem linesOf_eq (bytes : List UInt8) : linesOf bytes = Ending.complete.lines bytes := by
  simp [linesOf, Ending.lines]

theorem linesOf_nil : linesOf [] = [] := by
  simp [linesOf]

/-- A line with its end, and what follows it. -/
theorem linesOf_feed {text : List Char} (unbroken : '\n' ∉ text) (rest : List UInt8) :
    linesOf (utf8 text ++ lineFeed :: rest) =
      String.ofList (dropTrailing (· = '\r') text) :: linesOf rest := by
  rw [linesOf_eq, linesOf_eq, Ending.lines_cons _ (lineFeed_utf8 unbroken), pieceText_utf8]

/-- The last line, without an end. -/
theorem linesOf_last {text : List Char} (unbroken : '\n' ∉ text) (some : text ≠ []) :
    linesOf (utf8 text) = [String.ofList text] := by
  have present : utf8 text ≠ [] := mt utf8_eq_nil.mp some
  rw [linesOf_eq, Ending.lines_single _ (lineFeed_utf8 unbroken), if_pos ⟨rfl, present⟩,
    decodeLossy_utf8]

end StreamQuery.Response
