import StreamQuery.Proofs.Text.Blanks
import StreamQuery.Text.Numeral
/-!
# Words and numerals

The words of a text are what stands between its blanks: each is not empty and has no blank in it,
and blanks separate it from the next one. An integer is read from decimal digits behind at most one
sign, and from nothing else.
-/

namespace StreamQuery.Text

/-- A text of words with blanks between them; blanks may also stand at its ends. -/
inductive Spaced : List Char → List (List Char) → Prop
  | blank {text : List Char} (blank : ∀ c ∈ text, isBlank c = true) : Spaced text []
  | word {before word rest : List Char} {others : List (List Char)}
      (blank : ∀ c ∈ before, isBlank c = true) (some : word ≠ [])
      (visible : ∀ c ∈ word, isBlank c = false) (ends : ∀ c ∈ rest.head?, isBlank c = true)
      (spaced : Spaced rest others) : Spaced (before ++ (word ++ rest)) (word :: others)

theorem Spaced.visible {text : List Char} {words : List (List Char)} (spaced : Spaced text words) :
    ∀ word ∈ words, ∀ c ∈ word, isBlank c = false := by
  induction spaced with
  | blank blank => exact List.forall_mem_nil _
  | word blank some visible ends spaced induction =>
      intro word member
      rcases List.mem_cons.1 member with rfl | member
      · exact visible
      · exact induction word member

/-- Pieces between blanks that are not empty. -/
def visiblePieces (text : List Char) : List (List Char) :=
  (splitBy isBlank text).filter fun piece => !piece.isEmpty

theorem words_eq (text : String) :
    words text = (visiblePieces text.toList).map String.ofList :=
  rfl

theorem visiblePieces_blank {c : Char} (blank : isBlank c = true) (text : List Char) :
    visiblePieces (c :: text) = visiblePieces text := by
  simp [visiblePieces, splitBy, blank]

theorem visiblePieces_blanks {blanks : List Char} (blank : ∀ c ∈ blanks, isBlank c = true)
    (text : List Char) : visiblePieces (blanks ++ text) = visiblePieces text := by
  induction blanks with
  | nil => rfl
  | cons c rest induction =>
      rw [List.cons_append, visiblePieces_blank (blank c List.mem_cons_self)]
      exact induction fun d member => blank d (List.mem_cons_of_mem c member)

/-- What is no separator goes in front of the first piece. -/
theorem splitBy_visible {separator : Char → Bool} {word : List Char}
    (visible : ∀ c ∈ word, separator c = false) {rest piece : List Char}
    {pieces : List (List Char)} (split : splitBy separator rest = piece :: pieces) :
    splitBy separator (word ++ rest) = (word ++ piece) :: pieces := by
  induction word with
  | nil => exact split
  | cons c word induction =>
      have behind := induction fun d member => visible d (List.mem_cons_of_mem c member)
      simp [splitBy, visible c List.mem_cons_self, behind]

theorem visiblePieces_word {word rest : List Char} (some : word ≠ [])
    (visible : ∀ c ∈ word, isBlank c = false) (ends : ∀ c ∈ rest.head?, isBlank c = true) :
    visiblePieces (word ++ rest) = word :: visiblePieces rest := by
  cases rest with
  | nil =>
      have split : splitBy isBlank (word ++ []) = [word ++ []] := splitBy_visible visible rfl
      rw [visiblePieces, split]
      simp [visiblePieces, splitBy, some]
  | cons c rest =>
      have blank : isBlank c = true := ends c rfl
      have behind : splitBy isBlank (c :: rest) = [] :: splitBy isBlank rest := by
        simp [splitBy, blank]
      simp [visiblePieces, splitBy_visible visible behind, behind, some]

theorem Spaced.pieces {text : List Char} {words : List (List Char)} (spaced : Spaced text words) :
    visiblePieces text = words := by
  induction spaced with
  | blank blank =>
      have none := visiblePieces_blanks blank []
      rw [List.append_nil] at none
      exact none
  | word blank some visible ends spaced induction =>
      rw [visiblePieces_blanks blank, visiblePieces_word some visible ends, induction]

/-- Every text has words, found from its end on: a character in front of them is a blank more, the
beginning of the first word, or a word of its own. -/
theorem exists_spaced (text : List Char) : ∃ words, Spaced text words := by
  induction text with
  | nil => exact ⟨[], .blank (List.forall_mem_nil _)⟩
  | cons c rest induction =>
      obtain ⟨words, spaced⟩ := induction
      cases visible : isBlank c with
      | true =>
          cases spaced with
          | blank blank => exact ⟨_, .blank (List.forall_mem_cons.2 ⟨visible, blank⟩)⟩
          | word blank some shown ends spaced =>
              exact ⟨_, .word (List.forall_mem_cons.2 ⟨visible, blank⟩) some shown ends spaced⟩
      | false =>
          have alone : ∀ d ∈ [c], isBlank d = false := List.forall_mem_singleton.2 visible
          have begins (ends : ∀ d ∈ rest.head?, isBlank d = true) : Spaced (c :: rest) ([c] :: words) :=
            .word (List.forall_mem_nil _) (List.cons_ne_nil c []) alone ends spaced
          cases spaced with
          | blank blank =>
              exact ⟨_, begins fun d head => blank d (List.mem_of_mem_head? head)⟩
          | @word before word rest others blank some shown ends spaced =>
              cases before with
              | nil =>
                  have longer : ∀ d ∈ c :: word, isBlank d = false :=
                    List.forall_mem_cons.2 ⟨visible, shown⟩
                  exact ⟨_, .word (List.forall_mem_nil _) (List.cons_ne_nil c word) longer ends spaced⟩
              | cons b before =>
                  refine ⟨_, begins ?_⟩
                  intro d head
                  cases head
                  exact blank b List.mem_cons_self

theorem spaced_pieces (text : List Char) : Spaced text (visiblePieces text) := by
  obtain ⟨words, spaced⟩ := exists_spaced text
  rw [spaced.pieces]
  exact spaced

/-- The words of a text are the ones that it is spaced into. -/
theorem words_iff (text : String) (found : List String) :
    words text = found ↔ Spaced text.toList (found.map String.toList) := by
  rw [words_eq]
  constructor
  · rintro rfl
    rw [List.map_map]
    have kept : String.toList ∘ String.ofList = id := funext fun _ => String.toList_ofList
    rw [kept, List.map_id]
    exact spaced_pieces text.toList
  · intro spaced
    rw [spaced.pieces, List.map_map]
    have kept : String.ofList ∘ String.toList = id := funext fun _ => String.ofList_toList
    rw [kept, List.map_id]

/-! ### Numerals -/

/-- A decimal integer: digits behind at most one sign. -/
inductive Numeral : List Char → Int → Prop
  | bare {digits : List Char} (some : digits ≠ []) (decimal : ∀ c ∈ digits, c.isDigit = true) :
      Numeral digits (readDigits digits)
  | plus {digits : List Char} (some : digits ≠ []) (decimal : ∀ c ∈ digits, c.isDigit = true) :
      Numeral ('+' :: digits) (readDigits digits)
  | minus {digits : List Char} (some : digits ≠ []) (decimal : ∀ c ∈ digits, c.isDigit = true) :
      Numeral ('-' :: digits) (-(readDigits digits : Int))

theorem readNat?_iff (digits : List Char) (value : Nat) :
    readNat? digits = some value ↔
      (digits ≠ [] ∧ ∀ c ∈ digits, c.isDigit = true) ∧ readDigits digits = value := by
  simp [readNat?]

theorem Numeral.read {text : List Char} {value : Int} (numeral : Numeral text value) :
    readInt? text = some value := by
  have natural {digits : List Char} (some : digits ≠ [])
      (decimal : ∀ c ∈ digits, c.isDigit = true) :
      readNat? digits = .some (readDigits digits) := (readNat?_iff _ _).2 ⟨⟨some, decimal⟩, rfl⟩
  cases numeral with
  | plus some decimal => rw [readInt?, natural some decimal]; rfl
  | minus some decimal => rw [readInt?, natural some decimal]; rfl
  | bare some decimal =>
      unfold readInt?
      split
      · exact absurd (decimal '-' List.mem_cons_self) (by decide)
      · exact absurd (decimal '+' List.mem_cons_self) (by decide)
      · rw [natural some decimal]
        rfl

theorem readInt?_iff (text : List Char) (value : Int) :
    readInt? text = some value ↔ Numeral text value := by
  constructor
  · intro read
    unfold readInt? at read
    split at read
    all_goals
      obtain ⟨integer, lifted, rfl⟩ := Option.map_eq_some_iff.1 read
      obtain ⟨number, natural, same⟩ := Option.bind_eq_some_iff.1 lifted
      cases same
      obtain ⟨⟨some, decimal⟩, rfl⟩ := (readNat?_iff _ _).1 natural
    · exact .minus some decimal
    · exact .plus some decimal
    · exact .bare some decimal
  · exact Numeral.read

end StreamQuery.Text
