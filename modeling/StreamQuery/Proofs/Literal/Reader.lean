import StreamQuery.Literal.Checked
import StreamQuery.Proofs.Text.Reading
/-!
# Reading literals

The text of a literal without doubles is read back as that literal, and the reader stops where the
literal ends. So no other literal is written by the beginning of a text that begins with it.
-/

namespace StreamQuery.Literal

open Filter ColumnType Text

/-! ### The reader -/

def readWordLiteral? (text : List Char) : Option Literal :=
  if text = "NULL".toList then some .null
  else if text = "TRUE".toList then some (.boolean true)
  else if text = "FALSE".toList then some (.boolean false)
  else (readInt? text).map .integer

def readBytes : Reader Literal := fun text => do
  let rest ← after? "('".toList text
  let (digits, rest) ← readQuoted rest
  let bytes ← Hex.decode? digits
  let rest ← after? ", 'hex')".toList rest
  pure (.bytes bytes, rest)

def readEntry (value : Reader Literal) : Reader (String × Literal) := fun text => do
  let rest ← after? "'".toList text
  let (key, rest) ← readQuoted rest
  let rest ← after? " := ".toList rest
  let (literal, rest) ← value rest
  pure ((String.ofList key, literal), rest)

def readLiteral : Nat → Reader Literal
  | 0, _ => none
  | _ + 1, '\'' :: rest =>
      (readQuoted rest).map fun read => (.string (String.ofList read.1), read.2)
  | fuel + 1, text =>
      if word text = "TO_BYTES".toList then
        readBytes (afterWord text)
      else if word text = "ARRAY".toList then do
        let rest ← after? "[".toList (afterWord text)
        let (items, rest) ← readList (readLiteral fuel) ']' fuel rest
        pure (.array items, rest)
      else if word text = "MAP".toList then do
        let rest ← after? "(".toList (afterWord text)
        let (entries, rest) ← readList (readEntry (readLiteral fuel)) ')' fuel rest
        pure (.map entries, rest)
      else
        (readWordLiteral? (word text)).map fun literal => (literal, afterWord text)

mutual

/-- No double at any depth. -/
def isDoubleFree : Literal → Bool
  | .double _ => false
  | .array items => itemsDoubleFree items
  | .map entries => entriesDoubleFree entries
  | _ => true

def itemsDoubleFree : List Literal → Bool
  | [] => true
  | item :: rest => item.isDoubleFree && itemsDoubleFree rest

def entriesDoubleFree : List (String × Literal) → Bool
  | [] => true
  | (_, value) :: rest => value.isDoubleFree && entriesDoubleFree rest

end

/-! ### Reading back -/

/-- The first character of a value, which no value ends with and no list does. -/
def Starts (text : List Char) : Prop :=
  ∃ c rest, text = c :: rest ∧ c ∉ [' ', '*', ')', ']']

theorem starts_cons {c : Char} (plain : c ∉ [' ', '*', ')', ']']) (rest : List Char) :
    Starts (c :: rest) :=
  ⟨c, rest, rfl, plain⟩

theorem starts_of_head {text : List Char}
    (plain : text.head?.any (fun c => !List.contains [' ', '*', ')', ']'] c) = true) :
    Starts text := by
  cases text with
  | nil => cases plain
  | cons c rest => exact starts_cons (by simpa using plain) rest

theorem digit_starts {c : Char} (digit : c.isDigit = true) : c ∉ [' ', '*', ')', ']'] := by
  simp only [List.mem_cons, List.not_mem_nil, or_false, not_or]
  refine ⟨?_, ?_, ?_, ?_⟩ <;> rintro rfl <;> revert digit <;> decide

theorem int_starts (value : Int) : Starts (toString value).toList := by
  rw [int_chars]
  split
  · exact starts_cons (by decide) _
  · cases digits : Nat.toDigits 10 value.natAbs with
    | nil => exact absurd digits Nat.toDigits_ne_nil
    | cons c rest =>
        have digit : c.isDigit = true :=
          Nat.isDigit_of_mem_toDigits (b := 10) (n := value.natAbs) (by decide) (by decide)
            (by simp [digits])
        exact starts_cons (digit_starts digit) rest

theorem text_starts {value : Literal} (free : value.isDoubleFree = true) :
    Starts value.text.toList := by
  cases value with
  | null => exact starts_cons (by decide) _
  | boolean value => cases value <;> exact starts_cons (by decide) _
  | integer value => exact int_starts value
  | double value => cases free
  | string content =>
      rw [text, quote]
      simp only [String.toList_append]
      exact starts_cons (by decide) _
  | bytes content =>
      rw [text]
      simp only [String.toList_append]
      exact starts_cons (by decide) _
  | array items =>
      rw [text]
      simp only [String.toList_append]
      exact starts_cons (by decide) _
  | map entries =>
      rw [text]
      simp only [String.toList_append]
      exact starts_cons (by decide) _

theorem unquoted_of_word {chars : List Char} (all : ∀ c ∈ chars, isWordChar c = true)
    (some : chars ≠ []) (rest : List Char) : (chars ++ rest).head? ≠ .some '\'' := by
  intro head
  cases chars with
  | nil => exact absurd rfl some
  | cons c chars =>
      cases head
      exact absurd (all '\'' List.mem_cons_self) (by decide)

theorem readLiteral_word {chars rest : List Char} (all : ∀ c ∈ chars, isWordChar c = true)
    (ends : ∀ c ∈ rest.head?, isWordChar c = false)
    (unquoted : (chars ++ rest).head? ≠ some '\'') (fuel : Nat) :
    readLiteral (fuel + 1) (chars ++ rest) =
      if chars = "TO_BYTES".toList then
        readBytes rest
      else if chars = "ARRAY".toList then do
        let rest ← after? "[".toList rest
        let (items, rest) ← readList (readLiteral fuel) ']' fuel rest
        pure (.array items, rest)
      else if chars = "MAP".toList then do
        let rest ← after? "(".toList rest
        let (entries, rest) ← readList (readEntry (readLiteral fuel)) ')' fuel rest
        pure (.map entries, rest)
      else
        (readWordLiteral? chars).map fun literal => (literal, rest) := by
  rw [readLiteral]
  · rw [word_append all ends, afterWord_append all ends]
  · intro others same
    rw [same] at unquoted
    exact absurd rfl unquoted

/-- Text that starts like no literal. -/
theorem readLiteral_other {chars rest : List Char} (all : ∀ c ∈ chars, isWordChar c = true)
    (ends : ∀ c ∈ rest.head?, isWordChar c = false)
    (unquoted : (chars ++ rest).head? ≠ some '\'') (unread : readWordLiteral? chars = none)
    (apart : chars ∉ ["TO_BYTES".toList, "ARRAY".toList, "MAP".toList] ∨
      ∀ c ∈ rest.head?, c ∉ ['(', '[']) (fuel : Nat) :
    readLiteral fuel (chars ++ rest) = none := by
  have closed {mark : Char} {others : List Char} (marks : mark ∈ ['(', '['])
      (free : ∀ c ∈ rest.head?, c ∉ ['(', '[']) : after? (mark :: others) rest = none := by
    cases rest with
    | nil => rfl
    | cons c rest =>
        have other : mark ≠ c := by
          rintro rfl
          exact free mark rfl marks
        rw [after?, if_neg other]
  cases fuel with
  | zero => rfl
  | succ fuel =>
      rw [readLiteral_word all ends unquoted, unread]
      rcases apart with other | free
      · simp only [List.mem_cons, List.not_mem_nil, or_false, not_or] at other
        rw [if_neg other.1, if_neg other.2.1, if_neg other.2.2]
        rfl
      · have bytes : readBytes rest = none := by
          have none : after? "('".toList rest = .none := closed (by decide) free
          rw [readBytes, none]
          rfl
        have bracket : after? "[".toList rest = none := closed (by decide) free
        have parenthesis : after? "(".toList rest = none := closed (by decide) free
        rw [bytes, bracket, parenthesis]
        split
        · rfl
        · split
          · rfl
          · split
            · rfl
            · rfl

/-- A literal that is written as one word. -/
theorem readLiteral_plain {chars rest : List Char} {value : Literal}
    (all : ∀ c ∈ chars, isWordChar c = true) (found : readWordLiteral? chars = some value)
    (stops : Stops rest) (fuel : Nat) :
    readLiteral (fuel + 1) (chars ++ rest) = some (value, rest) := by
  have other {name : List Char} (not : readWordLiteral? name = none) : chars ≠ name := by
    rintro rfl
    rw [not] at found
    cases found
  have unquoted := unquoted_of_word all (other (by decide)) rest
  rw [readLiteral_word all stops.notWord unquoted, if_neg (other (by decide)),
    if_neg (other (by decide)), if_neg (other (by decide)), found]
  rfl

theorem readWordLiteral?_int (value : Int) :
    readWordLiteral? (toString value).toList = some (.integer value) := by
  have read := readInt?_toString value
  have other {name : List Char} (not : readInt? name = none) : (toString value).toList ≠ name := by
    intro same
    rw [same, not] at read
    cases read
  rw [readWordLiteral?, if_neg (other (by decide)), if_neg (other (by decide)),
    if_neg (other (by decide)), read]
  rfl

theorem readBytes_encoded (content : List UInt8) (rest : List Char) :
    readBytes ("('".toList ++ (Hex.encodeBytes content ++ "', 'hex')".toList ++ rest)) =
      some (.bytes content, rest) := by
  have digits := readQuoted_doubled (Hex.encodeBytes content) (", 'hex')".toList ++ rest)
    (by simp)
  rw [doubleQuotes_hex] at digits
  have chars : Hex.encodeBytes content ++ "', 'hex')".toList ++ rest =
      Hex.encodeBytes content ++ '\'' :: (", 'hex')".toList ++ rest) := by simp
  rw [readBytes, after?_append, chars]
  simp only [Option.bind_eq_bind, Option.bind_some, digits, decode?_encodeBytes, after?_append]
  rfl

theorem readEntry_text {read : Nat → Reader Literal} {value : Literal} (key : String)
    (inner : ReadsTo read Stops value.text value) :
    ReadsTo (fun n => readEntry (read n)) Stops (quote key ++ " := " ++ value.text)
      (key, value) := by
  intro rest stops
  filter_upwards [inner rest stops] with n valueRead
  have keyRead := readQuoted_doubled key.toList (" := ".toList ++ (value.text.toList ++ rest))
    (by simp)
  have chars : (quote key ++ " := " ++ value.text).toList ++ rest =
      "'".toList ++ (doubleQuotes key.toList ++ '\'' ::
        (" := ".toList ++ (value.text.toList ++ rest))) := by
    simp [quote]
  rw [chars, readEntry, after?_append]
  simp only [Option.bind_eq_bind, Option.bind_some, keyRead, after?_append, valueRead,
    String.ofList_toList]
  rfl

mutual

/-- The text of a literal is read as the literal, whatever stops it. -/
theorem text_read : (value : Literal) → value.isDoubleFree = true →
    ReadsTo readLiteral Stops value.text value
  | .null, _ => fun rest stops => by
      apply eventually_of_succ
      exact .of_forall (readLiteral_plain (List.all_eq_true.mp (by decide)) rfl stops)
  | .boolean true, _ => fun rest stops => by
      apply eventually_of_succ
      exact .of_forall (readLiteral_plain (List.all_eq_true.mp (by decide)) rfl stops)
  | .boolean false, _ => fun rest stops => by
      apply eventually_of_succ
      exact .of_forall (readLiteral_plain (List.all_eq_true.mp (by decide)) rfl stops)
  | .integer value, _ => fun rest stops => by
      apply eventually_of_succ
      exact .of_forall (readLiteral_plain (int_word value) (readWordLiteral?_int value) stops)
  | .double value, free => by cases free
  | .string content, _ => fun rest stops => by
      apply eventually_of_succ
      apply Eventually.of_forall
      intro n
      have free : rest.head? ≠ some '\'' := by
        intro head
        exact absurd (stops '\'' head) (by decide)
      have chars : (text (.string content)).toList ++ rest =
          '\'' :: (doubleQuotes content.toList ++ '\'' :: rest) := by
        simp [text, quote]
      rw [chars, readLiteral, readQuoted_doubled _ _ free]
      simp
  | .bytes content, _ => fun rest stops => by
      apply eventually_of_succ
      apply Eventually.of_forall
      intro n
      have ends := notWord_append "('" (by decide)
      have chars : (text (.bytes content)).toList ++ rest =
          "TO_BYTES".toList ++ ("('".toList ++
            (Hex.encodeBytes content ++ "', 'hex')".toList ++ rest)) := by
        simp [text, Hex.encode]
      rw [chars, readLiteral_word (List.all_eq_true.mp (by decide)) (ends _) (by simp),
        if_pos rfl,
        readBytes_encoded]
  | .array items, free => fun rest stops => by
      apply eventually_of_succ
      have each := items_read items free
      have listed := readList_joined ']' each.1 (by decide) (fun _ => rfl) each.2 rest
      filter_upwards [listed] with n listed
      have ends := notWord_append "[" (by decide)
      have chars : (text (.array items)).toList ++ rest =
          "ARRAY".toList ++ ("[".toList ++
            ((joinWith ", " (itemTexts items)).toList ++ ']' :: rest)) := by
        simp [text]
      rw [chars, readLiteral_word (List.all_eq_true.mp (by decide)) (ends _) (by simp),
        if_neg (by decide),
        if_pos rfl, after?_append]
      simp only [Option.bind_eq_bind, Option.bind_some, listed]
      rfl
  | .map entries, free => fun rest stops => by
      apply eventually_of_succ
      have each := entries_read entries free
      have listed := readList_joined ')' each.1 (by decide) (fun _ => rfl) each.2 rest
      filter_upwards [listed] with n listed
      have ends := notWord_append "(" (by decide)
      have chars : (text (.map entries)).toList ++ rest =
          "MAP".toList ++ ("(".toList ++
            ((joinWith ", " (entryTexts entries)).toList ++ ')' :: rest)) := by
        simp [text]
      rw [chars, readLiteral_word (List.all_eq_true.mp (by decide)) (ends _) (by simp),
        if_neg (by decide),
        if_neg (by decide), if_pos rfl, after?_append]
      simp only [Option.bind_eq_bind, Option.bind_some, listed]
      rfl

theorem items_read : (items : List Literal) → itemsDoubleFree items = true →
    List.Forall₂ (ReadsTo readLiteral Stops) (itemTexts items) items ∧
      ∀ text ∈ itemTexts items, ∃ c others, text.toList = c :: others ∧ c ≠ ']'
  | [], _ => ⟨.nil, by simp [itemTexts]⟩
  | item :: rest, free => by
      rw [itemsDoubleFree, Bool.and_eq_true] at free
      have later := items_read rest free.2
      obtain ⟨c, others, chars, plain⟩ := text_starts free.1
      refine ⟨.cons (text_read item free.1) later.1, ?_⟩
      exact List.forall_mem_cons.2 ⟨⟨c, others, chars, by rintro rfl; simp at plain⟩, later.2⟩

theorem entries_read : (entries : List (String × Literal)) → entriesDoubleFree entries = true →
    List.Forall₂ (ReadsTo (fun n => readEntry (readLiteral n)) Stops) (entryTexts entries)
        entries ∧
      ∀ text ∈ entryTexts entries, ∃ c others, text.toList = c :: others ∧ c ≠ ')'
  | [], _ => ⟨.nil, by simp [entryTexts]⟩
  | (key, value) :: rest, free => by
      rw [entriesDoubleFree, Bool.and_eq_true] at free
      have later := entries_read rest free.2
      refine ⟨.cons (readEntry_text key (text_read value free.1)) later.1, ?_⟩
      have quoted : ∃ c others,
          (quote key ++ " := " ++ value.text).toList = c :: others ∧ c ≠ ')' := by
        refine ⟨'\'', doubleQuotes key.toList ++ "'".toList ++ " := ".toList ++
          value.text.toList, ?_, by decide⟩
        simp [quote]
      rw [entryTexts]
      exact List.forall_mem_cons.2 ⟨quoted, later.2⟩

end

/-! ### Unique decoding -/

/-- A text splits in one way at most into a literal without doubles and something that can stand
behind a literal. -/
theorem text_append_inj {first second : Literal} (firstFree : first.isDoubleFree = true)
    (secondFree : second.isDoubleFree = true) {left right : String}
    (leftStops : Stops left.toList) (rightStops : Stops right.toList)
    (same : first.text ++ left = second.text ++ right) : first = second ∧ left = right := by
  have chars : first.text.toList ++ left.toList = second.text.toList ++ right.toList := by
    rw [← String.toList_append, same, String.toList_append]
  have firstRead := text_read first firstFree left.toList leftStops
  have secondRead := text_read second secondFree right.toList rightStops
  -- From some number of steps on the reader finds both, and it finds one thing only.
  obtain ⟨steps, found, again⟩ := (firstRead.and secondRead).exists
  rw [chars, again] at found
  obtain ⟨value, rest⟩ := Prod.mk.inj (Option.some.inj found)
  exact ⟨value.symm, String.toList_inj.1 rest.symm⟩

/-- Quotes, brackets and commas within strings do not mislead, and the order in which the entries of
a map were given leaves no trace. -/
theorem hostile_array_determined :
    let first := Literal.array [.string "x'], 7", .bytes [39],
      .map [("a", .null), ("b'", .integer (-5))]]
    let second := Literal.array [.string "x'], 7", .bytes [39],
      .ofEntries [("b'", .integer (-5)), ("a", .null)]]
    first.isDoubleFree = true ∧ second.isDoubleFree = true ∧ Stops ", TRUE)".toList ∧
      first.text ++ ", TRUE)" =
        "ARRAY['x''], 7', TO_BYTES('27', 'hex'), MAP('a' := NULL, 'b''' := -5)], TRUE)" ∧
      first.text ++ ", TRUE)" = second.text ++ ", TRUE)" ∧
      first = second ∧ ", TRUE)" = ", TRUE)" := by
  intro first second
  have firstFree : first.isDoubleFree = true := by decide
  have secondFree : second.isDoubleFree = true := by decide
  have stops : Stops ", TRUE)".toList := stops_cons (by decide) _
  have written : first.text ++ ", TRUE)" =
      "ARRAY['x''], 7', TO_BYTES('27', 'hex'), MAP('a' := NULL, 'b''' := -5)], TRUE)" := by rfl
  have same : first.text ++ ", TRUE)" = second.text ++ ", TRUE)" := by rfl
  exact ⟨firstFree, secondFree, stops, written, same,
    text_append_inj firstFree secondFree stops stops same⟩

end StreamQuery.Literal
