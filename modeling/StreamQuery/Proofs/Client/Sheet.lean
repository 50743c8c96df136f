import StreamQuery.Proofs.Client.Rows
import StreamQuery.Proofs.Dispatch.StreamTurn
import StreamQuery.Proofs.Json.Extension
import StreamQuery.Proofs.Response.TextLines
import StreamQuery.Proofs.Text.Blanks
/-!
# Messages written line by line

A response is an array of messages, one compact message on each line, with brackets and commas where
the lines begin and end. Such a text can be read as one value, or line by line without the
punctuation around each message; both ways give the same messages.
-/

namespace StreamQuery.Client

open Dispatch Response Text

/-- What a line holds that ends a stream. -/
abbrev finalMarker : List Char :=
  Dispatcher.finalMarker.toList

/-- A message as it is written. The array around it takes one level of nesting. -/
structure WrittenMessage where
  text : List Char
  value : Json
  message : Message
  opens : text.head? = some '\x7b'
  closes : text.getLast? = some '\x7d'
  unbroken : '\n' ∉ text
  reads : Json.readValue? (Json.maximalDepth - 1) text = some (value, [])
  means : Message.ofJson value = .ok message
  /-- Only a final message holds the marker. -/
  marked : containsText finalMarker text = true → ∃ reason, message = .final reason

/-- How lines are ended. -/
structure Layout where
  /-- A carriage return stands before each line feed. -/
  returns : Bool
  /-- The last line is ended, too. -/
  closed : Bool

namespace Layout

def lineEnd (layout : Layout) : List Char :=
  if layout.returns then ['\r', '\n'] else ['\n']

/-- What follows the last message. -/
def tail (layout : Layout) : List Char :=
  ']' :: if layout.closed then layout.lineEnd else []

/-- The messages with commas and line ends between them. -/
def list (layout : Layout) (messages : List WrittenMessage) : List Char :=
  (',' :: layout.lineEnd).intercalate (messages.map WrittenMessage.text)

/-- An array of messages, one on each line. -/
def text (layout : Layout) (messages : List WrittenMessage) : List Char :=
  '[' :: (layout.list messages ++ layout.tail)

end Layout

/-! ### The text as one value -/

namespace WrittenMessage

variable (written : WrittenMessage)

theorem text_cons : ∃ inside, written.text = '\x7b' :: inside := by
  have opens := written.opens
  cases characters : written.text with
  | nil =>
      rw [characters] at opens
      cases opens
  | cons c inside =>
      rw [characters] at opens
      cases opens
      exact ⟨inside, rfl⟩

theorem text_concat : ∃ inside, written.text = inside ++ ['\x7d'] := by
  obtain ⟨inside, same⟩ := List.getLast?_eq_some_iff.mp written.closes
  exact ⟨inside, same⟩

/-- A message with blanks before it and text behind it. -/
theorem reads_before {blanks : List Char} (blank : ∀ c ∈ blanks, Json.isSpace c = true)
    (rest : List Char) :
    Json.readValue? (Json.maximalDepth - 1) (blanks ++ written.text ++ rest) =
      some (written.value, rest) := by
  obtain ⟨inside, same⟩ := written.text_cons
  have opens : Json.skipSpace written.text = '\x7b' :: inside := by
    rw [same]
    rfl
  have extended := Json.readValue_object_append opens written.reads rest
  have skipped : Json.skipSpace (blanks ++ written.text ++ rest) =
      Json.skipSpace (written.text ++ rest) := by
    rw [List.append_assoc]
    unfold Json.skipSpace
    exact List.dropWhile_append_of_pos blank
  unfold Json.readValue? at extended ⊢
  rw [skipped]
  exact extended

end WrittenMessage

theorem lineEnd_blank (layout : Layout) : ∀ c ∈ layout.lineEnd, Json.isSpace c = true := by
  unfold Layout.lineEnd
  split
  · exact List.forall_mem_cons.mpr ⟨rfl, List.forall_mem_singleton.mpr rfl⟩
  · exact List.forall_mem_singleton.mpr rfl

theorem list_length (layout : Layout) (messages : List WrittenMessage) :
    messages.length ≤ (layout.list messages).length := by
  unfold Layout.list
  induction messages with
  | nil => exact Nat.le_refl 0
  | cons first rest induction =>
      obtain ⟨inside, same⟩ := first.text_cons
      cases rest with
      | nil => simp [same]
      | cons second rest =>
          simp only [List.map_cons, List.intercalate_cons_cons, List.length_append,
            List.length_cons, same] at induction ⊢
          omega

theorem list_cons (layout : Layout) (first : WrittenMessage) (rest : List WrittenMessage) :
    ∃ inside, layout.list (first :: rest) = '\x7b' :: inside := by
  obtain ⟨inside, same⟩ := first.text_cons
  unfold Layout.list
  cases rest with
  | nil => exact ⟨inside, by simp [same]⟩
  | cons second rest => exact ⟨_, by simp [same]; rfl⟩

theorem readSequence_list (layout : Layout) {messages : List WrittenMessage}
    (some : messages ≠ []) {fuel : Nat} (enough : messages.length ≤ fuel) (read : List Json)
    {blanks : List Char} (blank : ∀ c ∈ blanks, Json.isSpace c = true) (rest : List Char) :
    Json.readSequence? ']' (Json.readValue? (Json.maximalDepth - 1)) fuel read
        (blanks ++ layout.list messages ++ ']' :: rest) =
      Option.some (read.reverse ++ messages.map WrittenMessage.value, rest) := by
  induction messages generalizing fuel read blanks with
  | nil => exact absurd rfl some
  | cons first others induction =>
      obtain ⟨fuel, rfl⟩ := Nat.exists_eq_add_of_lt (Nat.lt_of_lt_of_le (Nat.succ_pos _) enough)
      rw [Nat.zero_add] at enough ⊢
      cases others with
      | nil =>
          have one := first.reads_before blank (']' :: rest)
          simp only [Layout.list, List.map_cons, List.map_nil, List.intercalate_singleton]
          rw [Json.readSequence?, one]
          simp [Json.skipSpace, Json.isSpace]
      | cons second others =>
          have one := first.reads_before blank
            (',' :: (layout.lineEnd ++ layout.list (second :: others) ++ ']' :: rest))
          have later := induction (by simp) (Nat.le_of_succ_le_succ enough) (first.value :: read)
            (lineEnd_blank layout)
          have split : blanks ++ layout.list (first :: second :: others) ++ ']' :: rest =
              blanks ++ first.text ++
                ',' :: (layout.lineEnd ++ layout.list (second :: others) ++ ']' :: rest) := by
            simp [Layout.list]
          rw [split, Json.readSequence?, one]
          simpa [Json.skipSpace, Json.isSpace] using later

theorem mapM_means (messages : List WrittenMessage) :
    (messages.map WrittenMessage.value).mapM Message.ofJson =
      Except.ok (messages.map WrittenMessage.message) := by
  induction messages with
  | nil => rfl
  | cons first rest induction =>
      rw [List.map_cons, List.mapM_cons, first.means, induction]
      rfl

/-- The whole text reads as the array of the messages. -/
theorem parseBody_text (layout : Layout) (messages : List WrittenMessage) :
    Message.parseBody (utf8 (layout.text messages)).toByteArray =
      .ok (messages.map WrittenMessage.message) := by
  have blank : (Json.skipSpace layout.tail.tail).isEmpty = true := by
    unfold Layout.tail Layout.lineEnd
    split
    · split <;> decide
    · decide
  have array : Json.readBracketed? ']' (Json.readValue? (Json.maximalDepth - 1))
      (layout.list messages ++ layout.tail) =
      some (messages.map WrittenMessage.value, layout.tail.tail) := by
    cases messages with
    | nil => rfl
    | cons first rest =>
        obtain ⟨inside, begins⟩ := list_cons layout first rest
        have enough : (first :: rest).length ≤
            (layout.list (first :: rest) ++ layout.tail).length := by
          have length := list_length layout (first :: rest)
          rw [List.length_append]
          omega
        have sequence := readSequence_list layout (List.cons_ne_nil first rest) enough []
          (List.forall_mem_nil _) layout.tail.tail
        rw [begins] at sequence ⊢
        exact sequence
  have value : Json.parseChars? (layout.text messages) =
      some (.array (messages.map WrittenMessage.value)) := by
    have opens : Json.skipSpace (layout.text messages) =
        '[' :: (layout.list messages ++ layout.tail) := rfl
    have whole : Json.readValue? Json.maximalDepth (layout.text messages) = _ :=
      Json.readValue_array opens array
    rw [Json.parseChars?, whole]
    simp only
    rw [if_pos blank]
  have read : Json.parseBytes? (utf8 (layout.text messages)).toByteArray =
      some (.array (messages.map WrittenMessage.value)) := by
    rw [Json.parseBytes?, fromUTF8_utf8]
    simp only [Json.parse?, String.toList_ofList, value]
  rw [Message.parseBody, read]
  exact mapM_means messages

/-! ### The text as lines -/

/-- The lines without their ends; `front` stands before the first message. -/
def rows (front : List Char) : List WrittenMessage → List (List Char)
  | [] => [front ++ [']']]
  | [last] => [front ++ last.text ++ [']']]
  | first :: second :: rest => (front ++ first.text ++ [',']) :: rows [] (second :: rest)

/-- A line that ends in a mark, its end, and what follows. -/
theorem linesOf_row (layout : Layout) {row : List Char} {mark : Char}
    (unbroken : '\n' ∉ row ++ [mark]) (visible : mark ≠ '\r') (rest : List Char) :
    linesOf (utf8 (row ++ [mark] ++ layout.lineEnd ++ rest)) =
      String.ofList (row ++ [mark]) :: linesOf (utf8 rest) := by
  have other : decide (mark = '\r') = false := by simpa using visible
  have feed : utf8 ('\n' :: rest) = lineFeed :: utf8 rest := rfl
  unfold Layout.lineEnd
  split
  · have cut : row ++ [mark] ++ ['\r', '\n'] ++ rest =
        (row ++ [mark] ++ ['\r']) ++ '\n' :: rest := by simp
    have whole : '\n' ∉ row ++ [mark] ++ ['\r'] := by simpa using unbroken
    rw [cut, utf8_append, feed, linesOf_feed whole, dropTrailing_member (by decide),
      dropTrailing_concat other]
  · have cut : row ++ [mark] ++ ['\n'] ++ rest = (row ++ [mark]) ++ '\n' :: rest := by simp
    rw [cut, utf8_append, feed, linesOf_feed unbroken, dropTrailing_concat other]

theorem linesOf_lastRow (layout : Layout) {row : List Char} (unbroken : '\n' ∉ row ++ [']']) :
    linesOf (utf8 (row ++ layout.tail)) = [String.ofList (row ++ [']'])] := by
  have split : row ++ layout.tail =
      row ++ [']'] ++ if layout.closed then layout.lineEnd else [] := by
    simp [Layout.tail]
  rw [split]
  split
  · have ended := linesOf_row layout unbroken (by decide) []
    rw [List.append_nil] at ended
    rw [ended]
    simp [utf8, linesOf_nil]
  · rw [List.append_nil]
    exact linesOf_last unbroken (by simp)

theorem linesOf_rows (layout : Layout) (messages : List WrittenMessage) {front : List Char}
    (unbroken : '\n' ∉ front) :
    linesOf (utf8 (front ++ layout.list messages ++ layout.tail)) =
      (rows front messages).map String.ofList := by
  induction messages generalizing front with
  | nil =>
      simp only [Layout.list, List.map_nil, List.intercalate_nil, List.append_nil]
      exact linesOf_lastRow layout (by simpa using unbroken)
  | cons first rest induction =>
      have whole : '\n' ∉ front ++ first.text := by simpa [first.unbroken] using unbroken
      cases rest with
      | nil =>
          simp only [Layout.list, List.map_cons, List.map_nil, List.intercalate_singleton]
          exact linesOf_lastRow layout (by simpa using whole)
      | cons second rest =>
          have split : front ++ layout.list (first :: second :: rest) ++ layout.tail =
              front ++ first.text ++ [','] ++ layout.lineEnd ++
                ([] ++ layout.list (second :: rest) ++ layout.tail) := by
            simp [Layout.list]
          rw [split, linesOf_row layout (by simpa using whole) (by decide),
            induction List.not_mem_nil]
          rfl

/-! ### One line -/

namespace WrittenMessage

variable (written : WrittenMessage)

/-- The punctuation around a message is dropped from its line. -/
theorem stripPunctuation_row {front : List Char} (bracket : front = [] ∨ front = ['['])
    {mark : Char} (closes : mark = ',' ∨ mark = ']') :
    stripPunctuation (front ++ written.text ++ [mark]) = written.text := by
  obtain ⟨inside, opens⟩ := written.text_cons
  obtain ⟨before, ends⟩ := written.text_concat
  have visible : isBlank mark = false := by rcases closes with rfl | rfl <;> decide
  have bare : trimChars written.text = written.text :=
    trimChars_visible (by decide) (by decide) opens ends
  have line : trimChars (front ++ written.text ++ [mark]) = front ++ written.text ++ [mark] := by
    rcases bracket with rfl | rfl
    · have brace : isBlank '\x7b' = false := by decide
      exact trimChars_visible brace visible (by rw [opens]; rfl) rfl
    · have squared : isBlank '[' = false := by decide
      exact trimChars_visible squared visible rfl rfl
  have unopened : dropOpening (front ++ written.text ++ [mark]) = written.text ++ [mark] := by
    rcases bracket with rfl | rfl
    · rw [opens]
      rfl
    · rfl
  have unclosed : dropClosing (written.text ++ [mark]) = written.text := by
    rcases closes with rfl | rfl <;> simp [dropClosing]
  rw [stripPunctuation, line, unopened, unclosed, bare]

theorem parseLine_row {front : List Char} (bracket : front = [] ∨ front = ['['])
    {mark : Char} (closes : mark = ',' ∨ mark = ']') :
    Message.parseLine (String.ofList (front ++ written.text ++ [mark])) =
      .ok (some written.message) := by
  obtain ⟨inside, opens⟩ := written.text_cons
  have deeper : Json.readValue? Json.maximalDepth written.text = some (written.value, []) :=
    Json.readValue_deeper _ written.reads
  have parsed : Json.parseChars? written.text = some written.value := by
    rw [Json.parseChars?, deeper]
    rfl
  rw [Message.parseLine, String.toList_ofList, written.stripPunctuation_row bracket closes]
  split
  · next none =>
      rw [opens] at none
      cases none
  · rw [parsed]
    simp only
    rw [written.means]
    rfl

theorem row_visible {front : List Char} {mark : Char} (closes : mark = ',' ∨ mark = ']') :
    isBlankText (String.ofList (front ++ written.text ++ [mark])) = false := by
  have visible : isBlank mark = false := by rcases closes with rfl | rfl <;> decide
  simp [isBlankText, visible]

end WrittenMessage

/-- A character that a part does not hold may be taken off the front. -/
theorem infix_uncons {part rest : List Char} {c : Char} (other : c ∉ part) (some : part ≠ [])
    (inside : part <:+: c :: rest) : part <:+: rest := by
  rcases List.infix_cons_iff.mp inside with first | later
  · obtain ⟨d, more, rfl⟩ := List.exists_cons_of_ne_nil some
    obtain ⟨rfl, _⟩ := List.cons_prefix_cons.mp first
    exact absurd List.mem_cons_self other
  · exact later

theorem infix_unconcat {part rest : List Char} {c : Char} (other : c ∉ part) (some : part ≠ [])
    (inside : part <:+: rest ++ [c]) : part <:+: rest := by
  have turned := List.reverse_infix.mpr inside
  rw [List.reverse_append] at turned
  exact List.reverse_infix.mp (infix_uncons (by simpa using other) (by simpa using some) turned)

/-- The marker is in a line only where it is in the message. -/
theorem WrittenMessage.marked_row (written : WrittenMessage) {front : List Char}
    (bracket : front = [] ∨ front = ['[']) {mark : Char} (closes : mark = ',' ∨ mark = ']')
    (found : containsText finalMarker (front ++ written.text ++ [mark]) = true) :
    ∃ reason, written.message = .final reason := by
  have unclosed := infix_unconcat (by rcases closes with rfl | rfl <;> decide) (by decide)
    (containsText_iff.mp found)
  refine written.marked (containsText_iff.mpr ?_)
  rcases bracket with rfl | rfl
  · exact unclosed
  · exact infix_uncons (by decide) (by decide) unclosed

theorem yields_row (written : WrittenMessage) {front : List Char}
    (bracket : front = [] ∨ front = ['[']) {mark : Char} (closes : mark = ',' ∨ mark = ']')
    {rest : List String} {later : List Message} (reader : RowReader)
    (next : ∀ reader : RowReader,
      reader.yields ((rest.takeWhile isUnmarked).map .ok) = reader.items later) :
    reader.yields (((String.ofList (front ++ written.text ++ [mark]) :: rest).takeWhile
      isUnmarked).map .ok) = reader.items (written.message :: later) := by
  by_cases found : containsText finalMarker (front ++ written.text ++ [mark]) = true
  · obtain ⟨reason, final⟩ := written.marked_row bracket closes found
    have stops : isUnmarked (String.ofList (front ++ written.text ++ [mark])) = false := by
      simp only [isUnmarked, String.toList_ofList, found]
      rfl
    rw [List.takeWhile_cons_of_neg (by rw [stops]; exact Bool.false_ne_true), final]
    rfl
  · have goes : isUnmarked (String.ofList (front ++ written.text ++ [mark])) = true := by
      simp only [isUnmarked, String.toList_ofList]
      simpa using found
    have line : reader.readLine (String.ofList (front ++ written.text ++ [mark])) =
        reader.react written.message := by
      rw [RowReader.readLine, written.parseLine_row bracket closes]
    rw [List.takeWhile_cons_of_pos goes, List.map_cons, RowReader.yields, RowReader.items, line,
      next]

/-- The lines up to the marker yield what the messages yield. -/
theorem yields_rows (messages : List WrittenMessage) {front : List Char}
    (bracket : front = [] ∨ front = ['[']) (reader : RowReader) :
    reader.yields ((((rows front messages).map String.ofList).takeWhile isUnmarked).map .ok) =
      reader.items (messages.map WrittenMessage.message) := by
  induction messages generalizing front reader with
  | nil => rcases bracket with rfl | rfl <;> rfl
  | cons first rest induction =>
      cases rest with
      | nil =>
          refine yields_row first bracket (.inr rfl) reader fun reader => ?_
          rfl
      | cons second rest =>
          exact yields_row first bracket (.inl rfl) reader fun reader =>
            induction (.inl rfl) reader

/-- No line is blank. -/
theorem rows_visible (messages : List WrittenMessage) (front : List Char) :
    ∀ row ∈ rows front messages, isBlankText (String.ofList row) = false := by
  induction messages generalizing front with
  | nil =>
      intro row member
      have same : row = front ++ [']'] := by simpa [rows] using member
      have visible : isBlank ']' = false := by decide
      simp [same, isBlankText, visible]
  | cons first rest induction =>
      intro row member
      cases rest with
      | nil =>
          have same : row = front ++ first.text ++ [']'] := by simpa [rows] using member
          rw [same]
          exact first.row_visible (.inr rfl)
      | cons second rest =>
          rcases List.mem_cons.mp member with rfl | later
          · exact first.row_visible (.inl rfl)
          · exact induction [] row later

end StreamQuery.Client
