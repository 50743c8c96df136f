import StreamQuery.Proofs.Text.Blanks
import StreamQuery.Schema.HeaderText
/-!
# Texts of column types

The text of a column type is read as that type. In a list of columns it is never cut: a comma in it
stands between angle brackets, and all brackets it opens it also closes.
-/

namespace StreamQuery

open Text

/-- The nesting of brackets at the end of a text, if no comma stands outside all of them. -/
def depthAfter? : Nat → List Char → Option Nat
  | depth, [] => some depth
  | depth, c :: rest =>
      if c = ',' ∧ depth = 0 then none
      else
        depthAfter?
          (if c = '<' ∨ c = '(' then depth + 1
          else if c = '>' ∨ c = ')' then depth - 1
          else depth)
          rest

theorem depthAfter?_append (depth : Nat) (left right : List Char) :
    depthAfter? depth (left ++ right) = (depthAfter? depth left).bind (depthAfter? · right) := by
  induction left generalizing depth with
  | nil => rfl
  | cons c rest ih =>
      simp only [List.cons_append, depthAfter?]
      split
      · rfl
      · exact ih _

/-- The comma and the brackets. -/
def dividers : List Char :=
  [',', '<', '>', '(', ')']

theorem depthAfter?_quiet {text : List Char} (quiet : ∀ c ∈ text, c ∉ dividers) (depth : Nat) :
    depthAfter? depth text = some depth := by
  induction text with
  | nil => rfl
  | cons c rest ih =>
      have first := quiet c List.mem_cons_self
      simp only [dividers, List.mem_cons, List.not_mem_nil, or_false, not_or] at first
      obtain ⟨comma, less, greater, opened, closed⟩ := first
      rw [depthAfter?, if_neg fun cut => comma cut.1, if_neg (not_or.2 ⟨less, opened⟩),
        if_neg (not_or.2 ⟨greater, closed⟩)]
      exact ih fun d member => quiet d (List.mem_cons_of_mem _ member)

theorem depthAfter?_blanks {text : List Char} (blank : ∀ c ∈ text, isBlank c = true)
    (depth : Nat) : depthAfter? depth text = some depth := by
  apply depthAfter?_quiet
  intro c member divider
  have visible : ∀ mark ∈ dividers, isBlank mark = false := by simp [dividers, isBlank]
  have other := blank c member
  rw [visible c divider] at other
  cases other

/-- Where a text is cut first. -/
theorem depthAfter?_none {depth : Nat} {text : List Char} (cut : depthAfter? depth text = none) :
    ∃ left right, text = left ++ ',' :: right ∧ depthAfter? depth left = some 0 := by
  induction text generalizing depth with
  | nil => cases cut
  | cons c rest ih =>
      rw [depthAfter?] at cut
      by_cases here : c = ',' ∧ depth = 0
      · exact ⟨[], rest, by rw [here.1, List.nil_append], by rw [here.2, depthAfter?]⟩
      · rw [if_neg here] at cut
        obtain ⟨left, right, same, depths⟩ := ih cut
        refine ⟨c :: left, right, by rw [same, List.cons_append], ?_⟩
        rw [depthAfter?, if_neg here, depths]

/-- Puts a text in front of the first piece. -/
def inFront (text : List Char) : List (List Char) → List (List Char)
  | [] => [text]
  | piece :: pieces => (text ++ piece) :: pieces

theorem splitColumns_some (depth : Nat) (text : List Char) : splitColumns depth text ≠ [] := by
  cases text with
  | nil => exact List.cons_ne_nil _ _
  | cons c rest =>
      simp only [splitColumns]
      split
      · exact List.cons_ne_nil _ _
      · split <;> exact List.cons_ne_nil _ _

theorem splitColumns_uncut {depth inner : Nat} {text : List Char}
    (uncut : depthAfter? depth text = some inner) (rest : List Char) :
    splitColumns depth (text ++ rest) = inFront text (splitColumns inner rest) := by
  induction text generalizing depth with
  | nil =>
      cases uncut
      cases pieces : splitColumns inner rest with
      | nil => exact absurd pieces (splitColumns_some inner rest)
      | cons piece others => exact pieces
  | cons c text ih =>
      rw [depthAfter?] at uncut
      split at uncut
      · cases uncut
      · next outside =>
          simp only [List.cons_append, splitColumns, if_neg outside, ih uncut]
          cases splitColumns inner rest <;> rfl

namespace ColumnType

theorem array_chars (element : ColumnType) :
    element.array.text.toList = "ARRAY<".toList ++ (element.text.toList ++ ['>']) := by
  simp [text]

theorem map_chars (value : ColumnType) :
    value.map.text.toList = "MAP<STRING, ".toList ++ (value.text.toList ++ ['>']) := by
  simp [text]

/-- Whatever brackets the text stands in, it closes those that it opens. -/
theorem depthAfter?_text (type : ColumnType) (depth : Nat) :
    depthAfter? depth type.text.toList = some depth := by
  induction type generalizing depth with
  | array element ih =>
      rw [array_chars]
      simp [depthAfter?_append, depthAfter?, ih]
  | map value ih =>
      rw [map_chars]
      simp [depthAfter?_append, depthAfter?, ih]
  | _ => simp [text, depthAfter?]

/-- No type has a blank at an end of its text, or an end like that of a key marker. -/
theorem text_ends (type : ColumnType) :
    (∃ first middle, type.text.toList = first :: middle ∧ isBlank first = false) ∧
      ∃ before last, type.text.toList = before ++ [last] ∧ isBlank last = false ∧ last ≠ 'Y' := by
  cases type with
  | array element =>
      rw [array_chars, ← List.append_assoc]
      exact ⟨⟨'A', _, rfl, by decide⟩, _, '>', rfl, by decide, by decide⟩
  | map value =>
      rw [map_chars, ← List.append_assoc]
      exact ⟨⟨'M', _, rfl, by decide⟩, _, '>', rfl, by decide, by decide⟩
  | boolean => exact ⟨⟨'B', _, rfl, by decide⟩, "BOOLEA".toList, 'N', rfl, by decide, by decide⟩
  | int => exact ⟨⟨'I', _, rfl, by decide⟩, "IN".toList, 'T', rfl, by decide, by decide⟩
  | bigint => exact ⟨⟨'B', _, rfl, by decide⟩, "BIGIN".toList, 'T', rfl, by decide, by decide⟩
  | double => exact ⟨⟨'D', _, rfl, by decide⟩, "DOUBL".toList, 'E', rfl, by decide, by decide⟩
  | string => exact ⟨⟨'S', _, rfl, by decide⟩, "STRIN".toList, 'G', rfl, by decide, by decide⟩
  | bytes => exact ⟨⟨'B', _, rfl, by decide⟩, "BYTE".toList, 'S', rfl, by decide, by decide⟩

theorem trimChars_text (type : ColumnType) : trimChars type.text.toList = type.text.toList := by
  obtain ⟨⟨first, middle, front, begins⟩, before, last, back, ends, -⟩ := type.text_ends
  exact trimChars_visible begins ends front back

theorem upper_text (type : ColumnType) :
    type.text.toList.map Char.toUpper = type.text.toList := by
  induction type with
  | array element ih =>
      rw [array_chars, List.map_append, List.map_append, ih]
      rfl
  | map value ih =>
      rw [map_chars, List.map_append, List.map_append, ih]
      rfl
  | _ => rfl

/-- Blanks around a type do not matter. -/
theorem parseChars_trim {text : List Char} {trimmed : List Char}
    (same : trimChars text = trimChars trimmed) : parseChars text = parseChars trimmed := by
  rw [parseChars, parseChars, same]

theorem after?_append (part rest : List Char) : after? part (part ++ rest) = some rest := by
  induction part with
  | nil => rfl
  | cons c part ih => simpa [after?] using ih

theorem between?_array (element : ColumnType) :
    between? ['A', 'R', 'R', 'A', 'Y'] element.array.text.toList = some element.text.toList := by
  rw [array_chars]
  simp [between?, after?, dropBlanks, isBlank]

theorem between?_map (value : ColumnType) :
    between? ['A', 'R', 'R', 'A', 'Y'] value.map.text.toList = none ∧
      between? ['M', 'A', 'P'] value.map.text.toList =
        some ("STRING, ".toList ++ value.text.toList) := by
  rw [map_chars]
  simp [between?, after?, dropBlanks, isBlank, List.getLast?_cons, List.dropLast_cons_of_ne_nil]

theorem cutAtComma?_entry (value : ColumnType) :
    cutAtComma? 0 ("STRING, ".toList ++ value.text.toList) =
      some ("STRING".toList, ' ' :: value.text.toList) := by
  simp [cutAtComma?]

theorem parseChars_text (type : ColumnType) : parseChars type.text.toList = .ok type := by
  induction type with
  | array element ih =>
      have found := between?_array element
      rw [parseChars, trimChars_text, upper_text]
      split
      · next inner inside =>
          cases found.symm.trans inside
          rw [ih]
          rfl
      · next outside => cases found.symm.trans outside
  | map value ih =>
      obtain ⟨noArray, found⟩ := between?_map value
      have blank : parseChars (' ' :: value.text.toList) = .ok value := by
        rw [parseChars_trim (trimChars_blank (by decide) _), ih]
      have key : parseChars "STRING".toList = .ok .string := by decide +kernel
      rw [parseChars, trimChars_text, upper_text]
      split
      · next inside => cases noArray.symm.trans inside
      · split
        · next entry inside =>
            cases found.symm.trans inside
            split
            · next uncut => cases (cutAtComma?_entry value).symm.trans uncut
            · next cut =>
                cases (cutAtComma?_entry value).symm.trans cut
                rw [key, blank]
                rfl
        · next outside => cases found.symm.trans outside
  | _ => decide +kernel

end ColumnType

end StreamQuery
