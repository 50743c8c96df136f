import StreamQuery.Proofs.ColumnType.TypeText
import StreamQuery.Proofs.Results
/-!
# Pieces of a header

A header is cut into the texts between its commas. Texts that are put together with commas are cut
apart again exactly where they met, if none has a comma outside brackets and none but the last
leaves a bracket open; and the pieces of every header are such.
-/

namespace StreamQuery

open Text

/-- No text is cut, and none but the last leaves a bracket open. -/
def Apart : List (List Char) → Prop
  | [] => True
  | [last] => ∃ depth, depthAfter? 0 last = some depth
  | text :: next :: rest => depthAfter? 0 text = some 0 ∧ Apart (next :: rest)

theorem splitColumns_cut {text : List Char} (uncut : depthAfter? 0 text = some 0)
    (rest : List Char) : splitColumns 0 (text ++ ',' :: rest) = text :: splitColumns 0 rest := by
  rw [splitColumns_uncut uncut, splitColumns, if_pos ⟨rfl, rfl⟩, inFront, List.append_nil]

theorem splitColumns_whole {text : List Char} {depth : Nat}
    (uncut : depthAfter? 0 text = some depth) : splitColumns 0 text = [text] := by
  have pieces := splitColumns_uncut uncut []
  rwa [List.append_nil, splitColumns, inFront, List.append_nil] at pieces

/-- A text that is not cut stands in front of the first piece. -/
theorem splitColumns_begins {text : List Char} {depth : Nat}
    (uncut : depthAfter? 0 text = some depth) (rest : List Char) :
    ∃ others pieces, splitColumns 0 (text ++ rest) = (text ++ others) :: pieces := by
  rw [splitColumns_uncut uncut]
  cases split : splitColumns depth rest with
  | nil => exact absurd split (splitColumns_some depth rest)
  | cons piece pieces => exact ⟨piece, pieces, rfl⟩

/-- Texts with a comma between neighbours. -/
def joined (texts : List (List Char)) : List Char :=
  [','].intercalate texts

theorem joined_cons (text next : List Char) (rest : List (List Char)) :
    joined (text :: next :: rest) = text ++ ',' :: joined (next :: rest) := by
  rw [joined, List.intercalate_cons_cons, List.append_assoc]
  rfl

theorem joined_singleton (text : List Char) : joined [text] = text :=
  List.intercalate_singleton

theorem joined_letter (c : Char) (text : List Char) (rest : List (List Char)) :
    joined ((c :: text) :: rest) = c :: joined (text :: rest) := by
  cases rest with
  | nil => rw [joined_singleton, joined_singleton]
  | cons next others => rw [joined_cons, joined_cons, List.cons_append]

theorem joined_begins (text : List Char) (rest : List (List Char)) :
    ∃ behind, joined (text :: rest) = text ++ behind := by
  cases rest with
  | nil => exact ⟨[], by rw [joined_singleton, List.append_nil]⟩
  | cons next others => exact ⟨_, joined_cons text next others⟩

theorem splitColumns_joined {texts : List (List Char)} (some : texts ≠ []) (apart : Apart texts) :
    splitColumns 0 (joined texts) = texts := by
  induction texts with
  | nil => exact absurd rfl some
  | cons text rest ih =>
      cases rest with
      | nil =>
          obtain ⟨depth, uncut⟩ := apart
          rw [joined_singleton, splitColumns_whole uncut]
      | cons next others =>
          rw [joined_cons, splitColumns_cut apart.1, ih (List.cons_ne_nil _ _) apart.2]

/-- Every text is its pieces with the commas. -/
theorem splitColumns_apart (text : List Char) :
    Apart (splitColumns 0 text) ∧ joined (splitColumns 0 text) = text := by
  induction size : text.length using Nat.strong_induction_on generalizing text with
  | h number induction =>
      cases depths : depthAfter? 0 text with
      | some depth =>
          rw [splitColumns_whole depths]
          exact ⟨⟨depth, depths⟩, joined_singleton text⟩
      | none =>
          obtain ⟨left, right, rfl, uncut⟩ := depthAfter?_none depths
          obtain ⟨apart, same⟩ := induction right.length (by simp at size; omega) right rfl
          rw [splitColumns_cut uncut]
          cases split : splitColumns 0 right with
          | nil => exact absurd split (splitColumns_some 0 right)
          | cons next others =>
              rw [split] at apart same
              exact ⟨⟨uncut, apart⟩, by rw [joined_cons, same]⟩

theorem Apart.cons {text : List Char} (closed : depthAfter? 0 text = some 0)
    {rest : List (List Char)} (apart : Apart rest) : Apart (text :: rest) := by
  cases rest with
  | nil => exact ⟨0, closed⟩
  | cons next others => exact ⟨closed, apart⟩

theorem Apart.append {before after : List (List Char)}
    (closed : ∀ text ∈ before, depthAfter? 0 text = some 0) (apart : Apart after) :
    Apart (before ++ after) := by
  induction before with
  | nil => exact apart
  | cons text rest ih =>
      apply Apart.cons (closed text List.mem_cons_self)
      exact ih fun other member => closed other (List.mem_cons_of_mem _ member)

theorem Apart.tail {text : List Char} {rest : List (List Char)} (apart : Apart (text :: rest)) :
    Apart rest := by
  cases rest with
  | nil => exact trivial
  | cons next others => exact apart.2

theorem Apart.drop {texts : List (List Char)} (apart : Apart texts) (count : Nat) :
    Apart (texts.drop count) := by
  induction count generalizing texts with
  | zero => exact apart
  | succ count ih =>
      cases texts with
      | nil => exact trivial
      | cons text rest => exact ih apart.tail

/-- Only the last text may leave a bracket open. -/
theorem Apart.closed {texts : List (List Char)} (apart : Apart texts) {count : Nat}
    (fewer : count < texts.length) :
    ∀ text ∈ texts.take count, depthAfter? 0 text = some 0 := by
  induction count generalizing texts with
  | zero => simp
  | succ count ih =>
      cases texts with
      | nil => simp at fewer
      | cons text rest =>
          cases rest with
          | nil => simp at fewer
          | cons next others =>
              intro other member
              rw [List.take_succ_cons] at member
              rcases List.mem_cons.mp member with rfl | later
              · exact apart.1
              · exact ih apart.2 (by simpa using fewer) other later

/-! ### Reading pieces -/

/-- Reads the pieces of a header; those that hold only blanks are passed over. -/
def parsePieces (pieces : List (List Char)) : Except SchemaError (List Column) :=
  ((pieces.map trimChars).filter fun piece => !piece.isEmpty).mapM parseColumn

theorem parseColumns_pieces (header : String) :
    parseColumns header = parsePieces (splitColumns 0 header.toList) :=
  rfl

theorem parsePieces_append (left right : List (List Char)) :
    parsePieces (left ++ right) = (do
      let before ← parsePieces left
      let after ← parsePieces right
      pure (before ++ after)) := by
  rw [parsePieces, List.map_append, List.filter_append, List.mapM_append]
  rfl

theorem parsePieces_length {pieces : List (List Char)} {columns : List Column}
    (read : parsePieces pieces = .ok columns) :
    columns.length = pieces.countP fun piece => !(trimChars piece).isEmpty := by
  rw [← (forall₂_of_mapM read).length_eq, ← List.countP_eq_length_filter, List.countP_map]
  rfl

theorem parsePieces_cons {piece : List Char} (visible : trimChars piece ≠ [])
    (pieces : List (List Char)) :
    parsePieces (piece :: pieces) = (do
      let column ← parseColumn (trimChars piece)
      let columns ← parsePieces pieces
      pure (column :: columns)) := by
  have kept : (!(trimChars piece).isEmpty) = true := by simpa using visible
  rw [parsePieces, List.map_cons, List.filter_cons, if_pos kept, List.mapM_cons]
  rfl

/-- A piece that is no column makes the whole header fail, wherever it stands. -/
theorem parsePieces_refused {piece : List Char} (visible : trimChars piece ≠ [])
    (refused : ∃ error, parseColumn (trimChars piece) = .error error)
    (before after : List (List Char)) :
    ∃ error, parsePieces (before ++ piece :: after) = .error error := by
  obtain ⟨error, refused⟩ := refused
  rw [parsePieces_append, parsePieces_cons visible, refused]
  cases parsePieces before with
  | error earlier => exact ⟨earlier, rfl⟩
  | ok columns => exact ⟨error, rfl⟩

end StreamQuery
