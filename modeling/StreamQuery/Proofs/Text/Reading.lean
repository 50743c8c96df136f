import Mathlib.Order.Filter.AtTopBot.Basic
import StreamQuery.Proofs.ColumnType.TypeText
import StreamQuery.Text.Ascii
import StreamQuery.Text.Hex
import StreamQuery.Text.Numeral
import StreamQuery.Text.Quoted
/-!
# Reading a text from its front

A reader takes a value off the front of a text and leaves the rest. Readers for nested texts take a
number of steps after which they give up; what is said of them is said of all numbers that are large
enough.
-/

namespace StreamQuery.Text

open Filter ColumnType

abbrev Reader (α : Type) :=
  List Char → Option (α × List Char)

/-- A bound on the number of steps may be raised by one. -/
theorem eventually_of_succ {property : Nat → Prop} (later : ∀ᶠ n in atTop, property (n + 1)) :
    ∀ᶠ n in atTop, property n := by
  obtain ⟨bound, holds⟩ := eventually_atTop.1 later
  refine eventually_atTop.2 ⟨bound + 1, ?_⟩
  intro n large
  obtain ⟨m, rfl⟩ := Nat.exists_eq_add_of_le' (Nat.le_of_add_left_le large)
  exact holds m (by omega)

/-! ### Words -/

def isWordChar (c : Char) : Bool :=
  !List.contains [' ', ',', '.', '\'', '(', ')', '[', ']'] c

def word (text : List Char) : List Char :=
  text.takeWhile isWordChar

def afterWord (text : List Char) : List Char :=
  text.dropWhile isWordChar

/-- The end of the text, or something that ends a value. -/
def Stops (rest : List Char) : Prop :=
  ∀ c ∈ rest.head?, c ∈ [' ', ',', ')', ']']

theorem stops_nil : Stops [] := by
  intro c head
  cases head

theorem stops_cons {c : Char} (stop : c ∈ [' ', ',', ')', ']']) (rest : List Char) :
    Stops (c :: rest) := by
  intro d head
  cases head
  exact stop

theorem Stops.notWord {rest : List Char} (stops : Stops rest) :
    ∀ c ∈ rest.head?, isWordChar c = false := by
  intro c head
  have among := stops c head
  simp only [List.mem_cons, List.not_mem_nil, or_false] at among
  rcases among with rfl | rfl | rfl | rfl <;> decide

theorem notWord_append (mark : String)
    (other : mark.toList.head?.any (fun c => !isWordChar c) = true) (rest : List Char) :
    ∀ c ∈ (mark.toList ++ rest).head?, isWordChar c = false := by
  intro c head
  cases chars : mark.toList with
  | nil =>
      rw [chars] at other
      cases other
  | cons d others =>
      rw [chars] at other head
      cases head
      simpa using other

theorem word_append {chars rest : List Char} (all : ∀ c ∈ chars, isWordChar c = true)
    (ends : ∀ c ∈ rest.head?, isWordChar c = false) : word (chars ++ rest) = chars := by
  rw [word, List.takeWhile_append_of_pos all]
  cases rest with
  | nil => simp
  | cons c rest => rw [List.takeWhile_cons, ends c rfl]; simp

theorem afterWord_append {chars rest : List Char} (all : ∀ c ∈ chars, isWordChar c = true)
    (ends : ∀ c ∈ rest.head?, isWordChar c = false) : afterWord (chars ++ rest) = rest := by
  rw [afterWord, List.dropWhile_append_of_pos all]
  cases rest with
  | nil => rfl
  | cons c rest => rw [List.dropWhile_cons, ends c rfl]; simp

/-! ### Numbers -/

theorem readNat?_toDigits (value : Nat) : readNat? (Nat.toDigits 10 value) = some value := by
  have digits : (Nat.toDigits 10 value).all Char.isDigit = true :=
    List.all_eq_true.2 fun c member => Nat.isDigit_of_mem_toDigits (by decide) (by decide) member
  have some : Nat.toDigits 10 value ≠ [] := Nat.toDigits_ne_nil
  have number : readDigits (Nat.toDigits 10 value) = value :=
    Nat.ofDigitChars_eq_foldl.symm.trans Nat.ofDigitChars_ten_toDigits
  simp [readNat?, digits, some, number]

theorem int_chars (value : Int) :
    (toString value).toList = if value < 0 then '-' :: Nat.toDigits 10 value.natAbs
      else Nat.toDigits 10 value.natAbs := by
  rw [Int.toString_eq_repr]
  cases value with
  | ofNat value =>
      have positive : ¬ Int.ofNat value < 0 := by simp
      rw [if_neg positive]
      simp [Int.repr, Nat.repr]
  | negSucc value =>
      rw [if_pos (Int.negSucc_lt_zero value)]
      simp [Int.repr, Nat.repr]

theorem readInt?_toString (value : Int) : readInt? (toString value).toList = some value := by
  rw [int_chars]
  split
  · next negative =>
      have opposite : -(value.natAbs : Int) = value := by omega
      rw [readInt?, readNat?_toDigits]
      exact congrArg some opposite
  · next positive =>
      have number := readNat?_toDigits value.natAbs
      have first : ∀ c ∈ (Nat.toDigits 10 value.natAbs).head?, c.isDigit = true :=
        fun c head => Nat.isDigit_of_mem_toDigits (by decide) (by decide) (List.mem_of_mem_head? head)
      unfold readInt?
      split
      · next same => exact absurd (first '-' (by simp [same])) (by decide)
      · next same => exact absurd (first '+' (by simp [same])) (by decide)
      · rw [number]
        simp
        omega

theorem int_word (value : Int) : ∀ c ∈ (toString value).toList, isWordChar c = true := by
  have digit {c : Char} (isDigit : c.isDigit = true) : isWordChar c = true := by
    simp only [isWordChar, Bool.not_eq_true', List.contains_eq_mem, decide_eq_false_iff_not,
      List.mem_cons, List.not_mem_nil, or_false, not_or]
    refine ⟨?_, ?_, ?_, ?_, ?_, ?_, ?_, ?_⟩ <;> rintro rfl <;> revert isDigit <;> decide
  have all : ∀ c ∈ Nat.toDigits 10 value.natAbs, isWordChar c = true :=
    fun c member => digit (Nat.isDigit_of_mem_toDigits (by decide) (by decide) member)
  rw [int_chars]
  split
  · exact List.forall_mem_cons.2 ⟨by decide, all⟩
  · exact all

/-! ### Quoted strings and bytes -/

/-- The content of a literal whose opening quote was read. -/
def readQuoted : Reader (List Char)
  | [] => none
  | '\'' :: '\'' :: rest => (readQuoted rest).map fun read => ('\'' :: read.1, read.2)
  | '\'' :: rest => some ([], rest)
  | c :: rest => (readQuoted rest).map fun read => (c :: read.1, read.2)

theorem readQuoted_doubled (content rest : List Char) (free : rest.head? ≠ some '\'') :
    readQuoted (doubleQuotes content ++ '\'' :: rest) = some (content, rest) := by
  induction content with
  | nil =>
      rw [doubleQuotes, List.nil_append]
      unfold readQuoted
      split
      · next same => cases same
      · next same =>
          cases same
          exact absurd rfl free
      · next same =>
          cases same
          rfl
      · next c others other same =>
          cases same
          exact absurd rfl other
  | cons c content induction =>
      rw [doubleQuotes]
      split
      · next quote =>
          rw [quote, List.cons_append, List.cons_append, readQuoted, induction]
          rfl
      · next plain =>
          have step (text : List Char) :
              readQuoted (c :: text) = (readQuoted text).map fun read => (c :: read.1, read.2) := by
            rw [readQuoted]
            · rintro others rfl
              exact absurd rfl plain
            · exact plain
          rw [List.cons_append, step, induction]
          rfl

theorem digitValue?_digit {value : Nat} (small : value < 16) :
    Hex.digitValue? (Hex.digit value) = some value := by
  revert small value
  decide

theorem decode?_encodeBytes (bytes : List UInt8) :
    Hex.decode? (Hex.encodeBytes bytes) = some bytes := by
  induction bytes with
  | nil => rfl
  | cons byte rest induction =>
      have high : byte.toNat / 16 < 16 := by
        have bound := byte.toNat_lt
        omega
      have low : byte.toNat % 16 < 16 := Nat.mod_lt _ (by decide)
      have whole : UInt8.ofNat (16 * (byte.toNat / 16) + byte.toNat % 16) = byte := by
        rw [Nat.div_add_mod, UInt8.ofNat_toNat]
      have read : Hex.decode? (Hex.encodeBytes (byte :: rest)) =
          some (UInt8.ofNat (16 * (byte.toNat / 16) + byte.toNat % 16) :: rest) := by
        unfold Hex.encodeBytes at induction ⊢
        simp only [List.flatMap_cons, Hex.encodeByte, List.cons_append, List.nil_append,
          Hex.decode?, digitValue?_digit high, digitValue?_digit low, induction]
        rfl
      rw [read, whole]

theorem doubleQuotes_hex (bytes : List UInt8) :
    doubleQuotes (Hex.encodeBytes bytes) = Hex.encodeBytes bytes := by
  have plain {value : Nat} (small : value < 16) : Hex.digit value ≠ '\'' := by
    revert small value
    decide
  induction bytes with
  | nil => rfl
  | cons byte rest induction =>
      have high : byte.toNat / 16 < 16 := by
        have bound := byte.toNat_lt
        omega
      have low : byte.toNat % 16 < 16 := Nat.mod_lt _ (by decide)
      unfold Hex.encodeBytes at induction ⊢
      simp only [List.flatMap_cons, Hex.encodeByte, List.cons_append, List.nil_append,
        doubleQuotes, plain high, plain low, if_false, induction]

/-! ### Lists -/

/-- One or more values with a separator between neighbours, up to a closing character. -/
def readMany {α : Type} (read : Reader α) (separator : List Char) (close : Char) :
    Nat → Reader (List α)
  | 0, _ => none
  | fuel + 1, text => do
      let (first, rest) ← read text
      match after? separator rest with
      | some rest => do
          let (others, rest) ← readMany read separator close fuel rest
          pure (first :: others, rest)
      | none => do
          let rest ← after? [close] rest
          pure ([first], rest)

/-- Any number of values separated by commas, up to a closing character. -/
def readList {α : Type} (read : Reader α) (close : Char) (fuel : Nat) : Reader (List α)
  | c :: rest =>
      if c = close then some ([], rest) else readMany read ", ".toList close fuel (c :: rest)
  | [] => none

section Lists

variable {α : Type} {read : Nat → Reader α} {ends : List Char → Prop} {texts : List String}
  {items : List α}

/-- A reader takes a text for a value, whatever the number of steps if it is large enough. -/
def ReadsTo (read : Nat → Reader α) (ends : List Char → Prop) (text : String) (value : α) : Prop :=
  ∀ rest, ends rest → ∀ᶠ n in atTop, read n (text.toList ++ rest) = some (value, rest)

theorem readMany_joined (separator : String) (close : Char)
    (all : List.Forall₂ (ReadsTo read ends) texts items)
    (separated : ∀ rest, ends (separator.toList ++ rest)) (closed : ∀ rest, ends (close :: rest))
    (apart : ∀ rest, after? separator.toList (close :: rest) = none) (some : texts ≠ [])
    (rest : List Char) :
    ∀ᶠ n in atTop, ∀ fuel, texts.length ≤ fuel →
      readMany (read n) separator.toList close fuel
        ((joinWith separator texts).toList ++ close :: rest) = .some (items, rest) := by
  induction all with
  | nil => exact absurd rfl some
  | @cons text item texts items here later induction =>
      cases later with
      | nil =>
          filter_upwards [here (close :: rest) (closed rest)] with n first
          intro fuel enough
          obtain ⟨fuel, rfl⟩ := Nat.exists_eq_add_of_le' enough
          have closing : after? [close] (close :: rest) = .some rest := after?_append [close] rest
          simp [readMany, joinWith, first, apart, closing]
      | @cons next nextItem texts items nextHere later =>
          have following := induction (List.cons_ne_nil _ _)
          have first := here _ (separated ((joinWith separator (next :: texts)).toList ++
            close :: rest))
          filter_upwards [first, following] with n first following
          intro fuel enough
          obtain ⟨fuel, rfl⟩ : ∃ less, fuel = less + 1 :=
            Nat.exists_eq_succ_of_ne_zero (Nat.ne_of_gt (Nat.lt_of_lt_of_le (by simp) enough))
          have others := following fuel (by simpa using enough)
          have text_eq : (joinWith separator (text :: next :: texts)).toList ++ close :: rest =
              text.toList ++ (separator.toList ++
                ((joinWith separator (next :: texts)).toList ++ close :: rest)) := by
            simp [joinWith]
          rw [text_eq, readMany, first]
          simp [after?_append, others]

theorem readList_joined (close : Char) (all : List.Forall₂ (ReadsTo read Stops) texts items)
    (stops : close ∈ [' ', ',', ')', ']'])
    (apart : ∀ rest, after? ", ".toList (close :: rest) = none)
    (visible : ∀ text ∈ texts, ∃ c others, text.toList = c :: others ∧ c ≠ close)
    (rest : List Char) :
    ∀ᶠ n in atTop, readList (read n) close n
      ((joinWith ", " texts).toList ++ close :: rest) = .some (items, rest) := by
  cases all with
  | nil => simp [joinWith, readList]
  | @cons text item texts items here later =>
      have many := readMany_joined ", " close (.cons here later)
        (fun rest => stops_cons (by decide) _) (fun rest => stops_cons stops rest) apart
        (List.cons_ne_nil _ _) rest
      obtain ⟨c, others, chars, other⟩ := visible text List.mem_cons_self
      obtain ⟨behind, whole⟩ : ∃ behind,
          (joinWith ", " (text :: texts)).toList ++ close :: rest = c :: behind := by
        cases texts with
        | nil => exact ⟨_, by rw [joinWith, chars]; rfl⟩
        | cons next texts => exact ⟨_, by simp [joinWith, chars]; rfl⟩
      filter_upwards [many, eventually_ge_atTop (text :: texts).length] with n many enough
      have read := many n enough
      rw [whole] at read ⊢
      rw [readList, if_neg other, read]

end Lists

end StreamQuery.Text
