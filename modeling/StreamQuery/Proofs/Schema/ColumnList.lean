import StreamQuery.Proofs.ColumnType.TypeText
import StreamQuery.Proofs.Schema.Building
import StreamQuery.Proofs.Schema.Pieces
import StreamQuery.Statement.Create
/-!
# Written column lists

A created relation lists its columns as names with types and key markers. A header with the same
list gives the same columns, for all names that need no backquotes.
-/

namespace StreamQuery

open Text

/-- A character that does not end a name in a column list. All characters of identifiers are such. -/
def isNameChar (c : Char) : Bool :=
  !isBlank c && !List.contains ['\x60', ',', '<', '>', '(', ')'] c

/-- A name that needs no backquotes. -/
def isPlainName (name : String) : Bool :=
  !name.toList.isEmpty && name.toList.all isNameChar

theorem isPlainName_chars {name : String} (plain : isPlainName name = true) :
    ∃ first rest, name.toList = first :: rest ∧ ∀ c ∈ first :: rest, isNameChar c = true := by
  unfold isPlainName at plain
  cases chars : name.toList with
  | nil => simp [chars] at plain
  | cons first rest => exact ⟨first, rest, rfl, by simpa [chars] using plain⟩

theorem isNameChar_visible {c : Char} (plain : isNameChar c = true) : isBlank c = false := by
  unfold isNameChar at plain
  simp at plain
  exact plain.1

theorem isNameChar_ne {c mark : Char} (plain : isNameChar c = true)
    (marks : isNameChar mark = false) : c ≠ mark := by
  rintro rfl
  exact absurd plain (by simp [marks])

theorem isPlainName_visible {name : String} (plain : isPlainName name = true) :
    isBlankText name = false := by
  obtain ⟨first, rest, chars, letters⟩ := isPlainName_chars plain
  have visible : isBlank first = false := isNameChar_visible (letters first List.mem_cons_self)
  rw [isBlankText, chars, List.all_cons, visible, Bool.false_and]

theorem depthAfter?_name {text : List Char} (plain : ∀ c ∈ text, isNameChar c = true)
    (depth : Nat) : depthAfter? depth text = some depth := by
  apply depthAfter?_quiet
  intro c member divider
  have marks : ∀ mark ∈ dividers, isNameChar mark = false := by
    simp [dividers, isNameChar, isBlank]
  have letter := plain c member
  rw [marks c divider] at letter
  cases letter

theorem splitName?_plain {name : List Char} (some : name ≠ [])
    (plain : ∀ c ∈ name, isNameChar c = true) (rest : List Char) :
    splitName? (name ++ ' ' :: rest) = .some (name, rest) := by
  have visible : ∀ c ∈ name, (!isBlank c) = true := fun c member => by
    rw [isNameChar_visible (plain c member)]
    rfl
  have taken : (name ++ ' ' :: rest).takeWhile (fun c => !isBlank c) = name := by
    rw [List.takeWhile_append_of_pos visible]
    simp [isBlank]
  have dropped : (name ++ ' ' :: rest).dropWhile (fun c => !isBlank c) = ' ' :: rest := by
    rw [List.dropWhile_append_of_pos visible]
    simp [isBlank]
  unfold splitName?
  split
  · next quoted same =>
      cases name with
      | nil => exact absurd rfl some
      | cons c others =>
          cases same
          exact absurd rfl (isNameChar_ne (plain '\x60' List.mem_cons_self) (by decide))
  · rw [dropped, taken]

theorem splitName?_unended {name : List Char} (plain : ∀ c ∈ name, isNameChar c = true) :
    splitName? name = none := by
  have none : name.dropWhile (fun c => !isBlank c) = [] := by
    apply List.dropWhile_eq_nil_iff.mpr
    intro c member
    rw [isNameChar_visible (plain c member)]
    rfl
  unfold splitName?
  split
  · exact absurd (plain _ List.mem_cons_self) (by decide)
  · rw [none]

/-! ### Key markers -/

theorem withoutEnding?_append (ending : List Char) (upper : ending.map Char.toUpper = ending)
    (text : List Char) : withoutEnding? ending (text ++ ending) = some text := by
  have reversed : ((text ++ ending).map Char.toUpper).reverse =
      ending.reverse ++ (text.map Char.toUpper).reverse := by
    rw [List.map_append, upper, List.reverse_append]
  rw [withoutEnding?, reversed, ColumnType.after?_append]
  simp

/-- A type's text has no letter in common with the end of a key marker. -/
theorem withoutEnding?_text (type : ColumnType) (before behind : List Char)
    (upper : behind.map Char.toUpper = behind) :
    withoutEnding? (before ++ 'Y' :: behind) (type.text.toList ++ behind) = none := by
  obtain ⟨-, front, last, back, -, other⟩ := type.text_ends
  have reversed : ((type.text.toList ++ behind).map Char.toUpper).reverse =
      behind.reverse ++ last :: front.reverse := by
    rw [List.map_append, type.upper_text, upper, back]
    simp
  have ending : (before ++ 'Y' :: behind).reverse = behind.reverse ++ 'Y' :: before.reverse := by
    simp
  have none (common : List Char) :
      ColumnType.after? (common ++ 'Y' :: before.reverse) (common ++ last :: front.reverse) =
        .none := by
    induction common with
    | nil => simp [ColumnType.after?, Ne.symm other]
    | cons c common ih => simpa [ColumnType.after?] using ih
  rw [withoutEnding?, reversed, ending, none]
  rfl

theorem splitMarker_bare (type : ColumnType) :
    splitMarker type.text.toList = (type.text.toList, false) := by
  have primary : withoutEnding? " PRIMARY KEY".toList type.text.toList = none := by
    simpa using withoutEnding?_text type " PRIMARY KE".toList [] rfl
  have key : withoutEnding? " KEY".toList type.text.toList = none := by
    simpa using withoutEnding?_text type " KE".toList [] rfl
  rw [splitMarker, primary, key]

theorem dropTrailing_text (type : ColumnType) :
    dropTrailing isBlank type.text.toList = type.text.toList := by
  obtain ⟨-, before, last, back, visible, -⟩ := type.text_ends
  rw [back, dropTrailing_concat visible]

theorem splitMarker_marked (kind : RelationKind) (type : ColumnType) :
    splitMarker (type.text.toList ++ (Create.keyMarker kind).toList) =
      (type.text.toList, true) := by
  cases kind with
  | table =>
      have found := withoutEnding?_append " PRIMARY KEY".toList (by decide)
        type.text.toList
      simp only [splitMarker, Create.keyMarker, found, dropTrailing_text]
  | stream =>
      have primary : withoutEnding? " PRIMARY KEY".toList (type.text.toList ++ " KEY".toList) =
          none :=
        withoutEnding?_text type " PRIMAR".toList " KEY".toList (by decide)
      have found := withoutEnding?_append " KEY".toList (by decide) type.text.toList
      simp only [splitMarker, Create.keyMarker, primary, found, dropTrailing_text]

/-! ### One column -/

namespace Column

/-- Type and key marker of a column in the list of a created relation. -/
def behindName (kind : RelationKind) (column : Column) : List Char :=
  column.type.text.toList ++ if column.primary then (Create.keyMarker kind).toList else []

/-- A column as the list of a created relation holds it. -/
def definition (kind : RelationKind) (column : Column) : String :=
  column.name ++ " " ++ column.type.text ++ if column.primary then Create.keyMarker kind else ""

variable (kind : RelationKind) {column : Column}

theorem definition_chars (column : Column) :
    (column.definition kind).toList = column.name.toList ++ ' ' :: column.behindName kind := by
  unfold definition behindName
  split <;> simp

theorem behindName_ends (column : Column) :
    (∃ first middle, column.behindName kind = first :: middle ∧ isBlank first = false) ∧
      ∃ before last, column.behindName kind = before ++ [last] ∧ isBlank last = false := by
  obtain ⟨⟨first, middle, front, begins⟩, before, last, back, ends, -⟩ := column.type.text_ends
  unfold behindName
  refine ⟨⟨first, _, by rw [front]; rfl, begins⟩, ?_⟩
  split
  · cases kind with
    | table =>
        exact ⟨column.type.text.toList ++ " PRIMARY KE".toList, 'Y', by simp [Create.keyMarker],
          by decide⟩
    | stream =>
        exact ⟨column.type.text.toList ++ " KE".toList, 'Y', by simp [Create.keyMarker],
          by decide⟩
  · exact ⟨before, last, by rw [back, List.append_nil], ends⟩

theorem splitMarker_behindName (column : Column) :
    splitMarker (column.behindName kind) = (column.type.text.toList, column.primary) := by
  unfold behindName
  cases column.primary with
  | false => simpa using splitMarker_bare column.type
  | true => exact splitMarker_marked kind column.type

theorem definition_uncut (plain : isPlainName column.name = true) :
    depthAfter? 0 (column.definition kind).toList = some 0 := by
  obtain ⟨first, rest, chars, letters⟩ := isPlainName_chars plain
  have blank : ' ' :: column.behindName kind = [' '] ++ column.behindName kind := rfl
  rw [definition_chars, chars, depthAfter?_append, depthAfter?_name letters, blank, behindName]
  simp only [Option.bind_some, depthAfter?_append, ColumnType.depthAfter?_text]
  cases column.primary <;> cases kind <;> rfl

theorem trimChars_definition (plain : isPlainName column.name = true) :
    trimChars (column.definition kind).toList = (column.definition kind).toList := by
  obtain ⟨first, rest, chars, letters⟩ := isPlainName_chars plain
  have begins : isBlank first = false := isNameChar_visible (letters first List.mem_cons_self)
  obtain ⟨-, before, last, back, ends⟩ := column.behindName_ends kind
  have whole : (first :: rest) ++ ' ' :: (before ++ [last]) =
      ((first :: rest) ++ ' ' :: before) ++ [last] := by simp
  rw [definition_chars, chars, back]
  exact trimChars_visible begins ends rfl whole

theorem parseColumn_definition (plain : isPlainName column.name = true) :
    parseColumn (column.definition kind).toList = .ok column.told := by
  obtain ⟨first, rest, chars, letters⟩ := isPlainName_chars plain
  have split := splitName?_plain (List.cons_ne_nil first rest) letters (column.behindName kind)
  have named : String.ofList (first :: rest) = column.name := by
    rw [← chars, String.ofList_toList]
  obtain ⟨⟨begin, middle, front, begins⟩, before, last, back, ends⟩ :=
    column.behindName_ends kind
  obtain ⟨⟨letter, letters, text, -⟩, -⟩ := column.type.text_ends
  have some : column.type.text.toList.isEmpty = false := by rw [text]; rfl
  rw [definition_chars, chars, parseColumn, split]
  simp only [trimChars_visible begins ends front back, splitMarker_behindName, some,
    ColumnType.parseChars_text, named, List.isEmpty_cons, Bool.false_eq_true, if_false]
  rfl

end Column

/-! ### The list -/

/-- The blank of a separator is the first character of the next piece. -/
theorem joinWith_joined (text : String) (rest : List String) :
    (joinWith ", " (text :: rest)).toList =
      joined (text.toList :: rest.map fun other => ' ' :: other.toList) := by
  induction rest generalizing text with
  | nil => rw [joinWith, List.map_nil, joined_singleton]
  | cons next others ih =>
      rw [List.map_cons, joined_cons, joined_letter, ← ih next]
      simp [joinWith]

/-- The texts between the separators of a list are its pieces, up to blanks. -/
theorem splitColumns_join (texts : List String) (some : texts ≠ [])
    (uncut : ∀ text ∈ texts, depthAfter? 0 text.toList = .some 0)
    (trimmed : ∀ text ∈ texts, trimChars text.toList = text.toList) :
    (splitColumns 0 (joinWith ", " texts).toList).map trimChars = texts.map String.toList := by
  obtain ⟨text, rest, rfl⟩ := List.exists_cons_of_ne_nil some
  have later : Apart (rest.map fun other => ' ' :: other.toList) := by
    have closed : ∀ piece ∈ rest.map fun other => ' ' :: other.toList,
        depthAfter? 0 piece = .some 0 := by
      intro piece member
      obtain ⟨other, among, rfl⟩ := List.mem_map.1 member
      exact uncut other (List.mem_cons_of_mem _ among)
    rw [← List.append_nil (rest.map _)]
    exact Apart.append closed (show Apart [] from trivial)
  have apart := Apart.cons (uncut text List.mem_cons_self) later
  rw [joinWith_joined, splitColumns_joined (List.cons_ne_nil _ _) apart, List.map_cons,
    List.map_cons, trimmed text List.mem_cons_self, List.map_map]
  congr 1
  apply List.map_congr_left
  intro other member
  change trimChars (' ' :: other.toList) = other.toList
  rw [trimChars_blank (by decide), trimmed other (List.mem_cons_of_mem _ member)]

/-- A written column list is read as its columns. -/
theorem parseColumns_definitions (kind : RelationKind) (columns : List Column)
    (plain : ∀ column ∈ columns, isPlainName column.name = true) :
    parseColumns (joinWith ", " (columns.map (Column.definition kind))) =
      .ok (columns.map Column.told) := by
  by_cases none : columns = []
  · subst none
    rfl
  · have pieces := splitColumns_join (columns.map (Column.definition kind))
      (by simpa using none)
      (by simpa using fun column member => Column.definition_uncut kind (plain column member))
      (by simpa using fun column member => Column.trimChars_definition kind (plain column member))
    have some : ∀ text ∈ (columns.map (Column.definition kind)).map String.toList,
        (!text.isEmpty) = true := by
      simp [Column.definition_chars]
    simp only [parseColumns, pieces, List.filter_eq_self.2 some]
    rw [List.map_map, List.mapM_map]
    exact mapM_ok fun column member => Column.parseColumn_definition kind (plain column member)

end StreamQuery
