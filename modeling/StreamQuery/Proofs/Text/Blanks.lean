import Mathlib.Data.List.Basic
import Mathlib.Data.List.TakeWhile
import StreamQuery.Text.Blank
/-!
# Trimmed texts and texts in texts

A text between two visible characters is trimmed already, and nothing is left of a blank text. A
text that occurs in a blank text is blank.
-/

namespace StreamQuery.Text

theorem space_blank : ∀ c ∈ [' '], isBlank c = true := by
  simp [isBlank]

theorem dropTrailing_concat {class_ : Char → Bool} {c : Char} (other : class_ c = false)
    (text : List Char) : dropTrailing class_ (text ++ [c]) = text ++ [c] := by
  simp [dropTrailing, other]

theorem dropTrailing_member {class_ : Char → Bool} {c : Char} (member : class_ c = true)
    (text : List Char) : dropTrailing class_ (text ++ [c]) = dropTrailing class_ text := by
  simp [dropTrailing, member]

theorem trimChars_visible {first last : Char} (begins : isBlank first = false)
    (ends : isBlank last = false) {text middle : List Char} (front : text = first :: middle)
    {before : List Char} (back : text = before ++ [last]) : trimChars text = text := by
  have kept : dropBlanks text = text := by
    rw [front]
    simp [dropBlanks, begins]
  rw [trimChars, kept, back, dropTrailing_concat ends]

theorem trimChars_blank {blank : Char} (isBlank : isBlank blank = true) (text : List Char) :
    trimChars (blank :: text) = trimChars text := by
  rw [trimChars, dropBlanks, List.dropWhile_cons_of_pos isBlank, ← dropBlanks, ← trimChars]

theorem trimChars_before {blanks : List Char} (blank : ∀ c ∈ blanks, isBlank c = true)
    (text : List Char) : trimChars (blanks ++ text) = trimChars text := by
  rw [trimChars, dropBlanks, List.dropWhile_append_of_pos blank, ← dropBlanks, ← trimChars]

theorem mem_dropWhile {class_ : Char → Bool} {c : Char} (other : class_ c = false)
    {text : List Char} (member : c ∈ text) : c ∈ text.dropWhile class_ := by
  rw [← List.takeWhile_append_dropWhile (p := class_) (l := text), List.mem_append] at member
  rcases member with dropped | kept
  · rw [List.mem_takeWhile_imp dropped] at other
    cases other
  · exact kept

theorem dropTrailing_sublist {class_ : Char → Bool} (text : List Char) :
    (dropTrailing class_ text).Sublist text := by
  have dropped := List.dropWhile_sublist class_ (l := text.reverse)
  simpa [dropTrailing] using List.reverse_sublist.mpr dropped

theorem mem_dropTrailing {class_ : Char → Bool} {c : Char} (other : class_ c = false)
    {text : List Char} (member : c ∈ text) : c ∈ dropTrailing class_ text := by
  rw [dropTrailing, List.mem_reverse]
  exact mem_dropWhile other (List.mem_reverse.mpr member)

theorem mem_trimChars {c : Char} (visible : isBlank c = false) {text : List Char}
    (member : c ∈ text) : c ∈ trimChars text :=
  mem_dropTrailing visible (mem_dropWhile visible member)

/-- Behind a visible character only what follows it is trimmed. -/
theorem dropTrailing_behind {class_ : Char → Bool} {c : Char} (other : class_ c = false)
    (before after : List Char) :
    dropTrailing class_ (before ++ c :: after) = before ++ c :: dropTrailing class_ after := by
  have reversed : (before ++ c :: after).reverse = after.reverse ++ c :: before.reverse := by
    simp
  rw [dropTrailing, dropTrailing, reversed, List.dropWhile_append]
  cases left : after.reverse.dropWhile class_ with
  | nil => simp [other]
  | cons d rest => simp

theorem trimChars_begun {first : Char} (begins : isBlank first = false) (text : List Char) :
    trimChars (first :: text) = first :: dropTrailing isBlank text := by
  have kept : dropBlanks (first :: text) = first :: text := by
    simp [dropBlanks, begins]
  rw [trimChars, kept]
  exact dropTrailing_behind begins [] text

theorem dropTrailing_after {class_ : Char → Bool} {after : List Char}
    (members : ∀ c ∈ after, class_ c = true) (text : List Char) :
    dropTrailing class_ (text ++ after) = dropTrailing class_ text := by
  have reversed : ∀ c ∈ after.reverse, class_ c = true := by simpa using members
  rw [dropTrailing, List.reverse_append, List.dropWhile_append_of_pos reversed, ← dropTrailing]

theorem trimChars_blanks {text : List Char} (blank : text.all isBlank = true) :
    trimChars text = [] := by
  have none : dropBlanks text = [] :=
    List.dropWhile_eq_nil_iff.mpr (by simpa using blank)
  rw [trimChars, none]
  rfl

theorem trimChars_after {after : List Char} (blank : ∀ c ∈ after, isBlank c = true)
    (text : List Char) : trimChars (text ++ after) = trimChars text := by
  have cut := List.takeWhile_append_dropWhile (p := isBlank) (l := text)
  have before : ∀ c ∈ text.takeWhile isBlank, isBlank c = true := fun c member =>
    List.mem_takeWhile_imp member
  rw [← cut, List.append_assoc, trimChars_before before, trimChars_before before]
  cases visible : text.dropWhile isBlank with
  | nil =>
      rw [List.nil_append, trimChars_blanks (by simpa using blank)]
      rfl
  | cons c rest =>
      have begins : isBlank c = false := by
        have first := List.head?_dropWhile_not isBlank text
        rw [visible] at first
        simpa using first
      rw [List.cons_append, trimChars_begun begins, trimChars_begun begins,
        dropTrailing_after blank]

/-- What is dropped at the end of a text is of the class. -/
theorem dropTrailing_cut (class_ : Char → Bool) (text : List Char) :
    ∃ dropped, text = dropTrailing class_ text ++ dropped ∧ ∀ c ∈ dropped, class_ c = true := by
  have cut := List.takeWhile_append_dropWhile (p := class_) (l := text.reverse)
  refine ⟨(text.reverse.takeWhile class_).reverse, ?_, fun c member =>
    List.mem_takeWhile_imp (List.mem_reverse.mp member)⟩
  rw [dropTrailing, ← List.reverse_append, cut, List.reverse_reverse]

theorem trimChars_dropTrailing (text : List Char) :
    trimChars (dropTrailing isBlank text) = trimChars text := by
  obtain ⟨dropped, whole, blank⟩ := dropTrailing_cut isBlank text
  rw [← trimChars_after blank (dropTrailing isBlank text), ← whole]

/-- A text is its trimmed text between blanks. -/
theorem trimChars_cut (text : List Char) :
    ∃ before after, text = before ++ (trimChars text ++ after) ∧
      (∀ c ∈ before, isBlank c = true) ∧ ∀ c ∈ after, isBlank c = true := by
  obtain ⟨after, whole, blankAfter⟩ := dropTrailing_cut isBlank (dropBlanks text)
  refine ⟨text.takeWhile isBlank, after, ?_, fun c member => List.mem_takeWhile_imp member,
    blankAfter⟩
  rw [trimChars, ← whole, dropBlanks, List.takeWhile_append_dropWhile]

theorem containsText_iff {part text : List Char} :
    containsText part text = true ↔ part <:+: text := by
  induction text with
  | nil => simp [containsText]
  | cons c rest induction =>
      rw [containsText, Bool.or_eq_true, induction, List.isPrefixOf_iff_prefix, List.infix_cons_iff]

theorem all_of_containsText {class_ : Char → Bool} {part text : List Char}
    (inside : containsText part text = true) (all : text.all class_ = true) :
    part.all class_ = true := by
  rw [List.all_eq_true] at all ⊢
  exact fun c member => all c ((containsText_iff.mp inside).subset member)

end StreamQuery.Text
