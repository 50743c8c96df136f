import StreamQuery.Proofs.ColumnType.AnyCase
import StreamQuery.Proofs.Schema.ColumnList
import StreamQuery.Proofs.Schema.Pieces
/-!
# Headers with quoted names

A header tells each column by a name between backquotes, a type and an optional key marker. Names
between backquotes are cut like the rest of the header: a header is read as the columns that it
tells exactly if no name has a comma outside brackets, and none but the last leaves a bracket open.
-/

namespace StreamQuery

open Text

/-! ### Key markers in any case -/

theorem withoutEnding?_upper (ending text : List Char) :
    withoutEnding? ending (text.map Char.toUpper) =
      (withoutEnding? ending text).map (List.map Char.toUpper) := by
  rw [withoutEnding?, withoutEnding?, map_toUpper_upper, Option.map_map]
  congr 1
  funext rest
  exact List.map_take.symm

theorem splitMarker_upper (text : List Char) :
    splitMarker (text.map Char.toUpper) =
      ((splitMarker text).1.map Char.toUpper, (splitMarker text).2) := by
  simp only [splitMarker, withoutEnding?_upper]
  cases withoutEnding? " PRIMARY KEY".toList text with
  | some type => simp only [Option.map_some, dropTrailing_upper]
  | none =>
      cases withoutEnding? " KEY".toList text with
      | some type => simp only [Option.map_some, Option.map_none, dropTrailing_upper]
      | none => rfl

theorem withoutEnding?_eq {ending text rest : List Char}
    (found : withoutEnding? ending text = some rest) :
    ∃ behind, text = rest ++ behind ∧ behind.map Char.toUpper = ending := by
  obtain ⟨front, after, rfl⟩ := Option.map_eq_some_iff.mp found
  have reversed := congrArg List.reverse (ColumnType.after?_eq after)
  rw [List.reverse_reverse, List.reverse_append, List.reverse_reverse] at reversed
  refine ⟨text.drop front.length, (List.take_append_drop _ _).symm, ?_⟩
  rw [List.map_drop, reversed, ← List.length_reverse, List.drop_left]

/-- No key marker has a backquote, and so none is dropped with it. -/
theorem splitMarker_quoted {text : List Char} (quoted : '\x60' ∈ text) :
    '\x60' ∈ (splitMarker text).1 := by
  have kept {ending rest : List Char} (found : withoutEnding? ending text = some rest)
      (free : '\x60' ∉ ending) : '\x60' ∈ dropTrailing isBlank rest := by
    obtain ⟨behind, same, upper⟩ := withoutEnding?_eq found
    rw [same, List.mem_append] at quoted
    rcases quoted with inside | after
    · obtain ⟨left, right, rfl⟩ := List.append_of_mem inside
      rw [dropTrailing_behind (by decide)]
      simp
    · rw [← upper] at free
      exact absurd (List.mem_map.mpr ⟨'\x60', after, by decide⟩) free
  rw [splitMarker]
  split
  · next found => exact kept found (by decide)
  · split
    · next found => exact kept found (by decide)
    · exact quoted

/-! ### One column -/

theorem splitName?_quoted {name : List Char} (unquoted : '\x60' ∉ name) (rest : List Char) :
    splitName? ('\x60' :: (name ++ '\x60' :: rest)) = some (name, rest) := by
  have other : ∀ c ∈ name, (c != '\x60') = true := by
    intro c member
    rw [bne_iff_ne]
    rintro rfl
    exact unquoted member
  have taken : (name ++ '\x60' :: rest).takeWhile (· != '\x60') = name := by
    rw [List.takeWhile_append_of_pos other]
    simp
  have dropped : (name ++ '\x60' :: rest).dropWhile (· != '\x60') = '\x60' :: rest := by
    rw [List.dropWhile_append_of_pos other]
    simp
  rw [splitName?, dropped, taken]

theorem splitName?_unclosed {name : List Char} (unquoted : '\x60' ∉ name) :
    splitName? ('\x60' :: name) = none := by
  have none : name.dropWhile (· != '\x60') = [] := by
    apply List.dropWhile_eq_nil_iff.mpr
    intro c member
    rw [bne_iff_ne]
    rintro rfl
    exact unquoted member
  rw [splitName?, none]

theorem parseColumn_iff {column : List Char} {result : Column} :
    parseColumn column = .ok result ↔
      ∃ name rest type, splitName? column = some (name, rest) ∧ name ≠ [] ∧
        (splitMarker (trimChars rest)).1 ≠ [] ∧
        ColumnType.parseChars (splitMarker (trimChars rest)).1 = .ok type ∧
        result = { Column.plain (String.ofList name) type with
          primary := (splitMarker (trimChars rest)).2 } := by
  unfold parseColumn
  cases named : splitName? column with
  | none => simp
  | some parts =>
      obtain ⟨name, rest⟩ := parts
      by_cases blank : name = []
      · simp [blank]
      · by_cases bare : (splitMarker (trimChars rest)).1 = []
        · simp [blank, bare]
        · cases read : ColumnType.parseChars (splitMarker (trimChars rest)).1 with
          | error error => simp [blank, bare, read]
          | ok type =>
              simp only [List.isEmpty_iff, blank, bare, read, if_false]
              constructor
              · rintro same
                exact ⟨name, rest, type, rfl, blank, bare, read, (Except.ok.inj same).symm⟩
              · rintro ⟨_, _, other, same, -, -, again, rfl⟩
                cases same
                rw [read] at again
                cases again
                rfl

theorem parseColumn_quoteBehind {name rest : List Char} (unquoted : '\x60' ∉ name)
    (quoted : '\x60' ∈ rest) :
    ∃ error, parseColumn ('\x60' :: (name ++ '\x60' :: rest)) = .error error := by
  cases outcome : parseColumn ('\x60' :: (name ++ '\x60' :: rest)) with
  | error error => exact ⟨error, rfl⟩
  | ok result =>
      obtain ⟨_, _, type, split, -, -, read, -⟩ := parseColumn_iff.mp outcome
      rw [splitName?_quoted unquoted] at split
      cases split
      have inside := splitMarker_quoted (mem_trimChars (by decide) quoted)
      exact absurd inside (ColumnType.parseChars_unquoted read)

/-- A column of a header: what it tells, and how it is written. -/
structure WrittenColumn where
  column : Column
  kind : RelationKind
  before : List Char
  gap : List Char
  spelling : List Char
  after : List Char
  named : column.name.toList ≠ []
  unquoted : '\x60' ∉ column.name.toList
  blankBefore : ∀ c ∈ before, isBlank c = true
  blankGap : ∀ c ∈ gap, isBlank c = true
  blankAfter : ∀ c ∈ after, isBlank c = true
  spelled : spelling.map Char.toUpper = column.behindName kind

namespace WrittenColumn

/-- From the opening backquote to the end of the type or marker. -/
def bare (written : WrittenColumn) : List Char :=
  '\x60' :: (written.column.name.toList ++ '\x60' :: (written.gap ++ written.spelling))

def text (written : WrittenColumn) : List Char :=
  written.before ++ (written.bare ++ written.after)

variable (written : WrittenColumn)

theorem spelling_ends :
    (∃ first middle, written.spelling = first :: middle ∧ isBlank first = false) ∧
      ∃ before last, written.spelling = before ++ [last] ∧ isBlank last = false := by
  obtain ⟨⟨first, middle, front, begins⟩, before, last, back, ends⟩ :=
    written.column.behindName_ends written.kind
  rw [← written.spelled] at front back
  constructor
  · obtain ⟨c, rest, spelled, rfl, -⟩ := List.map_eq_cons_iff.mp front
    exact ⟨c, rest, spelled, by rwa [isBlank_toUpper] at begins⟩
  · obtain ⟨start, rest, spelled, -, single⟩ := List.map_eq_append_iff.mp back
    obtain ⟨c, rfl, rfl⟩ := List.map_eq_singleton_iff.mp single
    exact ⟨start, c, spelled, by rwa [isBlank_toUpper] at ends⟩

theorem depthAfter?_spelling (depth : Nat) :
    depthAfter? depth written.spelling = some depth := by
  rw [← depthAfter?_upper, written.spelled, Column.behindName, depthAfter?_append,
    ColumnType.depthAfter?_text, Option.bind_some]
  cases written.column.primary <;> cases written.kind <;> rfl

/-- Only the name can leave brackets open. -/
theorem depthAfter?_bare (depth : Nat) :
    depthAfter? depth written.bare = depthAfter? depth written.column.name.toList := by
  have opening (rest : List Char) : depthAfter? depth ('\x60' :: rest) = depthAfter? depth rest :=
    rfl
  have closing (inner : Nat) :
      depthAfter? inner ('\x60' :: (written.gap ++ written.spelling)) = some inner := by
    change depthAfter? inner (written.gap ++ written.spelling) = some inner
    rw [depthAfter?_append, depthAfter?_blanks written.blankGap, Option.bind_some,
      depthAfter?_spelling]
  rw [bare, opening, depthAfter?_append, funext closing, Option.bind_fun_some]

theorem depthAfter?_text (depth : Nat) :
    depthAfter? depth written.text = depthAfter? depth written.column.name.toList := by
  rw [text, depthAfter?_append, depthAfter?_blanks written.blankBefore, Option.bind_some,
    depthAfter?_append, funext (depthAfter?_blanks written.blankAfter), depthAfter?_bare,
    Option.bind_fun_some]

theorem trimChars_text_append (rest : List Char) :
    trimChars (written.text ++ rest) =
      '\x60' :: (written.column.name.toList ++ '\x60' :: dropTrailing isBlank
        (written.gap ++ (written.spelling ++ (written.after ++ rest)))) := by
  simp only [text, bare, List.append_assoc, List.cons_append, trimChars_before written.blankBefore]
  rw [trimChars_begun (by decide), dropTrailing_behind (by decide)]

theorem trimChars_text : trimChars written.text = written.bare := by
  obtain ⟨-, start, last, back, ends⟩ := written.spelling_ends
  have trimmed := written.trimChars_text_append []
  rw [List.append_nil, List.append_nil, ← List.append_assoc,
    dropTrailing_after written.blankAfter, back, ← List.append_assoc, dropTrailing_concat ends,
    List.append_assoc, ← back] at trimmed
  exact trimmed

theorem splitMarker_spelling :
    ∃ type, splitMarker written.spelling = (type, written.column.primary) ∧
      type.map Char.toUpper = written.column.type.text.toList := by
  have upper := splitMarker_upper written.spelling
  rw [written.spelled, Column.splitMarker_behindName, Prod.mk.injEq] at upper
  exact ⟨(splitMarker written.spelling).1, Prod.ext rfl upper.2.symm, upper.1.symm⟩

theorem parseColumn_bare : parseColumn written.bare = .ok written.column.told := by
  obtain ⟨⟨first, middle, front, begins⟩, start, last, back, ends⟩ := written.spelling_ends
  obtain ⟨type, marked, upper⟩ := written.splitMarker_spelling
  have behind : trimChars (written.gap ++ written.spelling) = written.spelling := by
    rw [trimChars_before written.blankGap, trimChars_visible begins ends front back]
  have read : ColumnType.parseChars type = .ok written.column.type := by
    rw [← ColumnType.parseChars_upper, upper, ColumnType.parseChars_text]
  have some : type ≠ [] := by
    rintro rfl
    obtain ⟨⟨letter, letters, text, -⟩, -⟩ := written.column.type.text_ends
    rw [text] at upper
    cases upper
  apply parseColumn_iff.mpr
  refine ⟨written.column.name.toList, written.gap ++ written.spelling, written.column.type,
    splitName?_quoted written.unquoted _, written.named, ?_, ?_, ?_⟩
  · rwa [behind, marked]
  · rwa [behind, marked]
  · rw [behind, marked, String.ofList_toList]
    rfl

/-- A name that is cut leaves a piece whose backquote is not closed. -/
theorem parsePieces_cutName (cut : depthAfter? 0 written.column.name.toList = none)
    (rest : List Char) :
    ∃ error, parsePieces (splitColumns 0 (written.text ++ rest)) = .error error := by
  obtain ⟨left, right, name, uncut⟩ := depthAfter?_none cut
  have free : '\x60' ∉ dropTrailing isBlank left := by
    intro member
    apply written.unquoted
    rw [name]
    exact List.mem_append_left _ ((dropTrailing_sublist left).subset member)
  have whole : ∃ others, written.text ++ rest =
      (written.before ++ '\x60' :: left) ++ ',' :: others := by
    refine ⟨right ++ '\x60' :: (written.gap ++ (written.spelling ++ (written.after ++ rest))), ?_⟩
    rw [text, bare, name]
    simp only [List.append_assoc, List.cons_append]
  obtain ⟨others, whole⟩ := whole
  have piece : depthAfter? 0 (written.before ++ '\x60' :: left) = some 0 := by
    rw [depthAfter?_append, depthAfter?_blanks written.blankBefore]
    exact uncut
  have trimmed : trimChars (written.before ++ '\x60' :: left) =
      '\x60' :: dropTrailing isBlank left := by
    rw [trimChars_before written.blankBefore, trimChars_begun (by decide)]
  rw [whole, splitColumns_cut piece, parsePieces_cons (by simp [trimmed]), trimmed, parseColumn,
    splitName?_unclosed free]
  exact ⟨_, rfl⟩

/-- A name that leaves a bracket open takes the next column into its own piece. -/
theorem parsePieces_openName {depth : Nat}
    (opened : depthAfter? 0 written.column.name.toList = some (depth + 1)) (next : WrittenColumn)
    (rest : List Char) :
    ∃ error, parsePieces (splitColumns 0
      (written.text ++ ',' :: (next.text ++ rest))) = .error error := by
  have crossed : depthAfter? (depth + 1) (',' :: (next.before ++ ['\x60'])) = some (depth + 1) := by
    change depthAfter? (depth + 1) (next.before ++ ['\x60']) = some (depth + 1)
    rw [depthAfter?_append, depthAfter?_blanks next.blankBefore]
    rfl
  have uncut : depthAfter? 0 (written.text ++ ',' :: (next.before ++ ['\x60'])) =
      some (depth + 1) := by
    rw [depthAfter?_append, depthAfter?_text, opened]
    exact crossed
  obtain ⟨others, pieces, split⟩ := splitColumns_begins uncut
    (next.column.name.toList ++ '\x60' :: (next.gap ++ (next.spelling ++ (next.after ++ rest))))
  have whole : written.text ++ ',' :: (next.text ++ rest) =
      written.text ++ ',' :: (next.before ++ ['\x60']) ++ (next.column.name.toList ++
        '\x60' :: (next.gap ++ (next.spelling ++ (next.after ++ rest)))) := by
    simp only [text, bare, List.append_assoc, List.cons_append, List.nil_append]
  have trimmed := written.trimChars_text_append (',' :: (next.before ++ ['\x60']) ++ others)
  have behind : '\x60' ∈ written.gap ++
      (written.spelling ++ (written.after ++ (',' :: (next.before ++ ['\x60']) ++ others))) := by
    simp
  obtain ⟨error, refused⟩ := parseColumn_quoteBehind written.unquoted
    (mem_dropTrailing (show isBlank '\x60' = false by decide) behind)
  rw [whole, split, List.append_assoc, parsePieces_cons (by rw [trimmed]; simp), trimmed, refused]
  exact ⟨error, rfl⟩

end WrittenColumn

/-- No name is cut, and none but the last leaves a bracket open. -/
def NamesKept (columns : List WrittenColumn) : Prop :=
  Apart (columns.map fun written => written.column.name.toList)

def headerText (columns : List WrittenColumn) : String :=
  String.ofList (joined (columns.map WrittenColumn.text))

theorem parseColumns_text (columns : List WrittenColumn) :
    parseColumns (headerText columns) =
      parsePieces (splitColumns 0 (joined (columns.map WrittenColumn.text))) := by
  rw [parseColumns_pieces, headerText, String.toList_ofList]

theorem NamesKept.apart {columns : List WrittenColumn} (kept : NamesKept columns) :
    Apart (columns.map WrittenColumn.text) := by
  induction columns with
  | nil => exact trivial
  | cons written rest ih =>
      cases rest with
      | nil =>
          obtain ⟨depth, uncut⟩ := kept
          exact ⟨depth, by rw [written.depthAfter?_text, uncut]⟩
      | cons next others =>
          obtain ⟨closed, kept⟩ := kept
          exact ⟨by rw [written.depthAfter?_text, closed], ih kept⟩

theorem parseColumns_kept {columns : List WrittenColumn} (kept : NamesKept columns) :
    parseColumns (headerText columns) =
      .ok (columns.map fun written => written.column.told) := by
  by_cases none : columns = []
  · rw [none]
    rfl
  · have pieces := splitColumns_joined (by simpa using none) kept.apart
    have visible : ∀ piece ∈ columns.map WrittenColumn.bare, (!piece.isEmpty) = true := by
      simp [WrittenColumn.bare]
    have trimmed : (columns.map WrittenColumn.text).map trimChars =
        columns.map WrittenColumn.bare := by
      rw [List.map_map]
      exact List.map_congr_left fun written _ => written.trimChars_text
    rw [parseColumns_text, pieces, parsePieces, trimmed, List.filter_eq_self.2 visible,
      List.mapM_map]
    exact mapM_ok fun written _ => written.parseColumn_bare

theorem parseColumns_lost {columns : List WrittenColumn} (lost : ¬NamesKept columns) :
    ∃ error, parseColumns (headerText columns) = .error error := by
  rw [parseColumns_text]
  induction columns with
  | nil => exact absurd trivial lost
  | cons written rest ih =>
      rw [List.map_cons]
      cases names : depthAfter? 0 written.column.name.toList with
      | none =>
          obtain ⟨behind, same⟩ := joined_begins written.text (rest.map WrittenColumn.text)
          rw [same]
          exact written.parsePieces_cutName names behind
      | some depth =>
          cases rest with
          | nil => exact absurd ⟨depth, names⟩ lost
          | cons next others =>
              rw [List.map_cons, joined_cons]
              cases depth with
              | succ depth =>
                  obtain ⟨behind, same⟩ := joined_begins next.text (others.map WrittenColumn.text)
                  rw [same]
                  exact written.parsePieces_openName names next behind
              | zero =>
                  have closed : depthAfter? 0 written.text = some 0 := by
                    rw [written.depthAfter?_text, names]
                  have visible : trimChars written.text ≠ [] := by
                    rw [written.trimChars_text]
                    exact List.cons_ne_nil _ _
                  obtain ⟨error, refused⟩ := ih fun kept => lost ⟨names, kept⟩
                  rw [List.map_cons] at refused
                  rw [splitColumns_cut closed, parsePieces_cons visible, written.trimChars_text,
                    written.parseColumn_bare, refused]
                  exact ⟨error, rfl⟩

/-- A header is read as the columns that it tells, each in its place, if its names are kept; and it
is refused as a whole if not. -/
theorem parseColumns_headerText (columns : List WrittenColumn) :
    (NamesKept columns → parseColumns (headerText columns) =
        .ok (columns.map fun written => written.column.told)) ∧
      (¬NamesKept columns → ∃ error, parseColumns (headerText columns) = .error error) :=
  ⟨parseColumns_kept, parseColumns_lost⟩

/-- Two columns with blanks, a type in small letters, and a comma inside brackets of a name. -/
def keptColumns : List WrittenColumn :=
  [{ column := { Column.plain "a(b,c)" (.map .int) with primary := true }
     kind := .table
     before := [], gap := [' '], spelling := "map<string, int> primary key".toList, after := [' ']
     named := by decide, unquoted := by decide
     blankBefore := by simp, blankGap := space_blank, blankAfter := space_blank
     spelled := by decide },
   { column := Column.plain "d>" .string
     kind := .table
     before := [' '], gap := [], spelling := "String".toList, after := []
     named := by decide, unquoted := by decide
     blankBefore := space_blank, blankGap := by simp, blankAfter := by simp
     spelled := by decide }]

theorem keptColumns_read :
    NamesKept keptColumns ∧
      headerText keptColumns = "`a(b,c)` map<string, int> primary key , `d>`String" ∧
      parseColumns (headerText keptColumns) =
        .ok (keptColumns.map fun written => written.column.told) :=
  have kept : NamesKept keptColumns := ⟨by decide, 0, by decide⟩
  ⟨kept, by decide +kernel, (parseColumns_headerText keptColumns).1 kept⟩

/-- A column whose name has a comma. -/
def commaColumn : WrittenColumn where
  column := Column.plain "a,b" .int
  kind := .stream
  before := []
  gap := [' ']
  spelling := "INT".toList
  after := []
  named := by decide
  unquoted := by decide
  blankBefore := by simp
  blankGap := space_blank
  blankAfter := by simp
  spelled := by decide

theorem commaColumn_refused :
    headerText [commaColumn] = "`a,b` INT" ∧
      parseColumns (headerText [commaColumn]) = .error (.malformed "`a") :=
  ⟨by decide +kernel, by rfl⟩

end StreamQuery
