import StreamQuery.Proofs.Statement.SelectScan
import StreamQuery.Statement
/-!
# Strings cannot leave their literals

Whatever the strings of a statement contain, a scan of its text finds them and nothing else inside
literals, and the text outside of the literals keeps its brackets balanced and its only semicolon at
the end. Names are written as they are, so this is said of statements whose names hold no character
that means anything to the scan.
-/

namespace StreamQuery

open Text

/-! ### The parts of a statement -/

/-- A text that shows some literals, and a semicolon behind it. -/
def Ended (text : String) (literals : List String) : Prop :=
  ∃ body, text = body ++ ";" ∧ Shows false body literals [] []

theorem Text.Shows.ended {solid : Bool} {body : String} {literals : List String}
    (shows : Shows solid body literals [] []) : Ended (body ++ ";") literals :=
  ⟨body, rfl, shows.soften⟩

theorem kind_frame (kind : RelationKind) : isFrame [] kind.keyword [] = true := by
  cases kind <;> decide

theorem inert_if (condition : Bool) (text : String) (inert : IsInert text) :
    Shows true (if condition then text else "") [] [] [] := by
  split
  · exact .inert inert
  · exact .inert (by decide)

/-- Names with a fixed text between neighbours. -/
theorem names_show {names : List String} (inert : AllInert names) : ShowAll names [] := by
  induction names with
  | nil => exact .nil
  | cons name rest induction =>
      have first : IsInert name := inert name List.mem_cons_self
      have later := induction fun other member => inert other (List.mem_cons_of_mem _ member)
      exact .cons (Shows.inert first).soften later

theorem columnType_inert (type : ColumnType) : IsInert type.text := by
  induction type with
  | array element induction =>
      unfold IsInert at induction ⊢
      simp [ColumnType.text, induction, isInert]
  | map value induction =>
      unfold IsInert at induction ⊢
      simp [ColumnType.text, induction, isInert]
  | _ => decide

namespace Metadata

/-- The properties that hold text, in the order written. -/
def strings (metadata : Metadata) : List String :=
  metadata.topic.toList ++ (metadata.keyFormat.toList ++
    (metadata.valueFormat.toList ++ metadata.timestamp.toList))

theorem quoted_shows {name value text : String} (framed : isFrame [] name [] = true)
    (written : quoted name value = .ok text) : Shows false text [value] [] [] := by
  cases written
  exact ((Shows.frame framed).andThen "=" [] (by decide)).append (Shows.quoted value)

theorem positive_shows {name text : String} {value : Nat} (framed : isFrame [] name [] = true)
    (written : positive name value = .ok text) : Shows true text [] [] [] := by
  unfold positive at written
  split at written
  · cases written
  · cases written
    exact ((Shows.frame framed).andThen "=" [] (by decide)).append (.inert (nat_inert value))

theorem properties_show {metadata : Metadata} {texts : List String}
    (written : metadata.propertyTexts = .ok texts) : ShowAll texts metadata.strings := by
  unfold propertyTexts at written
  obtain ⟨topic, topicWritten, written⟩ := ok_of_bind written
  obtain ⟨keyFormat, keyWritten, written⟩ := ok_of_bind written
  obtain ⟨valueFormat, valueWritten, written⟩ := ok_of_bind written
  obtain ⟨partitions, partitionsWritten, written⟩ := ok_of_bind written
  obtain ⟨replicas, replicasWritten, written⟩ := ok_of_bind written
  obtain ⟨timestamp, timestampWritten, written⟩ := ok_of_bind written
  cases written
  have topicShows := optionalText_shows (fun _ _ _ done => quoted_shows (by decide) done)
    topicWritten
  have keyShows := optionalText_shows (fun _ _ _ done => quoted_shows (by decide) done) keyWritten
  have valueShows := optionalText_shows (fun _ _ _ done => quoted_shows (by decide) done)
    valueWritten
  have partitionsShow := optionalText_plain (fun _ _ _ done => positive_shows (by decide) done)
    partitionsWritten
  have replicasShow := optionalText_plain (fun _ _ _ done => positive_shows (by decide) done)
    replicasWritten
  have timestampShows := optionalText_shows (fun _ _ _ done => quoted_shows (by decide) done)
    timestampWritten
  have whole := ((((topicShows.append keyShows).append valueShows).append partitionsShow).append
    replicasShow).append timestampShows
  simpa [strings] using whole

/-- The clause of properties as it stands behind a name. -/
theorem clause_shows {metadata : Metadata} {clause : Option String}
    (written : metadata.text = .ok clause) :
    Shows true ((clause.map (" " ++ ·)).getD "") metadata.strings [] [] := by
  unfold text at written
  obtain ⟨properties, propertiesWritten, written⟩ := ok_of_bind written
  have shown := properties_show propertiesWritten
  split at written
  · cases written
    rw [shown.literals_of_nil]
    exact .inert (by decide)
  · cases written
    have blank : Shows true " " [] [] [] := .frame (by decide)
    have opening : Shows true "WITH (" [] [] [')'] := .frame (by decide)
    have body := opening.append ((shown.join ", " (by decide)).deepen [')'])
    exact blank.append (body.andThen ")" [] (by decide))

end Metadata

/-! ### Statements -/

namespace Create

def strings (create : Create) : List String :=
  create.metadata.strings ++ create.source.toList.flatMap Select.strings

def names (create : Create) : List String :=
  create.name :: (create.columns.map Column.name ++ create.source.toList.flatMap Select.names)

theorem columns_show {create : Create} {columns : List Column} {first : Option Column}
    {texts : List String} (inert : AllInert (columns.map Column.name))
    (written : create.columnTexts first columns = .ok texts) : ShowAll texts [] := by
  induction columns generalizing first texts with
  | nil =>
      cases written
      exact .nil
  | cons column rest induction =>
      have name : IsInert column.name := inert _ List.mem_cons_self
      have later : AllInert (rest.map Column.name) :=
        fun other member => inert other (List.mem_cons_of_mem _ member)
      have definition : Shows true (column.name ++ " " ++ column.type.text) [] [] [] :=
        ((Shows.inert name).andThen " " [] (by decide)).append (.inert (columnType_inert _))
      have marker : isFrame [] (keyMarker create.kind) [] = true := by
        unfold keyMarker
        split <;> decide
      unfold columnTexts at written
      split at written
      · cases written
      · split at written
        · split at written
          · cases written
          · obtain ⟨others, othersWritten, rfl⟩ := ok_of_map written
            exact .cons (definition.andThen _ [] marker).soften (induction later othersWritten)
        · obtain ⟨others, othersWritten, rfl⟩ := ok_of_map written
          exact .cons definition.soften (induction later othersWritten)

theorem head_shows {create : Create} (name : IsInert create.name) :
    Shows true create.headText [] [] [] := by
  have opening : Shows true "CREATE " [] [] [] := .frame (by decide)
  have replaced := opening.append (inert_if create.orReplace "OR REPLACE " (by decide))
  have kind := replaced.append (.frame (kind_frame create.kind))
  have guarded := kind.append (inert_if create.ifNotExists " IF NOT EXISTS" (by decide))
  exact (guarded.andThen " " [] (by decide)).append (.inert name)

theorem text_ended {create : Create} {text : String} (inert : AllInert create.names)
    (written : create.text = .ok text) : Ended text create.strings := by
  have name : IsInert create.name := inert _ List.mem_cons_self
  have later : AllInert (create.columns.map Column.name ++
      create.source.toList.flatMap Select.names) :=
    fun other member => inert other (List.mem_cons_of_mem _ member)
  have head := head_shows name
  unfold Create.text at written
  split at written
  · cases written
  · split at written
    · cases written
    · cases sourced : create.source with
      | none =>
          simp only [sourced] at written
          obtain ⟨_, _, written⟩ := ok_of_bind written
          obtain ⟨clause, clauseWritten, written⟩ := ok_of_bind written
          split at written
          · next conflicting _ => cases conflicting
          · cases written
          · obtain ⟨texts, textsWritten, written⟩ := ok_of_bind written
            cases written
            have columns := (columns_show later.split.1 textsWritten).join ", " (by decide)
            have opened := (head.andThen " (" [')'] (by decide)).append (columns.deepen [')'])
            have closed := (opened.andThen ")" [] (by decide)).append
              (Metadata.clause_shows clauseWritten)
            simpa [strings, sourced] using closed.ended
          · next conflicting _ => cases conflicting
      | some query =>
          simp only [sourced] at written
          obtain ⟨_, _, written⟩ := ok_of_bind written
          obtain ⟨clause, clauseWritten, written⟩ := ok_of_bind written
          split at written
          · cases written
          · next conflicting _ => cases conflicting
          · next conflicting _ => cases conflicting
          · next same _ =>
            cases same
            obtain ⟨body, bodyWritten, written⟩ := ok_of_bind written
            cases written
            have queryInert : AllInert query.names := later.split.2.each query (by simp [sourced])
            have described := head.append (Metadata.clause_shows clauseWritten)
            have whole := (described.andThen " AS " [] (by decide)).append
              (query.bodyText_shows queryInert bodyWritten)
            simpa [strings, sourced] using whole.ended

end Create

namespace Insert

def strings (insert : Insert) : List String :=
  insert.row.flatMap (fun entry => entry.2.strings) ++ insert.source.toList.flatMap Select.strings

def names (insert : Insert) : List String :=
  insert.relation :: (insert.row.map Prod.fst ++ insert.source.toList.flatMap Select.names)

theorem values_show {row : List (String × Literal)} {texts : List String}
    (written : valueTexts row = .ok texts) :
    ShowAll texts (row.flatMap fun entry => entry.2.strings) := by
  induction row generalizing texts with
  | nil =>
      cases written
      exact .nil
  | cons entry rest induction =>
      rw [valueTexts] at written
      split at written
      · cases written
      · obtain ⟨first, firstWritten, written⟩ := ok_of_bind written
        obtain ⟨others, othersWritten, written⟩ := ok_of_bind written
        cases written
        exact .cons (checkedText_shows firstWritten) (induction othersWritten)

theorem text_ended {insert : Insert} {text : String} (inert : AllInert insert.names)
    (written : insert.text = .ok text) : Ended text insert.strings := by
  have name : IsInert insert.relation := inert _ List.mem_cons_self
  have later : AllInert (insert.row.map Prod.fst ++ insert.source.toList.flatMap Select.names) :=
    fun other member => inert other (List.mem_cons_of_mem _ member)
  have opening : Shows true "INSERT INTO " [] [] [] := .frame (by decide)
  have head := opening.append (.inert name)
  unfold Insert.text at written
  split at written
  · cases written
  · split at written
    · cases written
    · split at written
      · cases written
      · cases written
      · next query sourced empty =>
          obtain ⟨body, bodyWritten, rfl⟩ := ok_of_map written
          have queryInert : AllInert query.names := later.split.2.each query (by simp [sourced])
          have whole := (head.andThen " " [] (by decide)).append
            (query.bodyText_shows queryInert bodyWritten)
          simpa [strings, sourced, empty] using whole.ended
      · next sourceless _ =>
          obtain ⟨values, valuesWritten, written⟩ := ok_of_bind written
          cases written
          have columns := (names_show later.split.1).join ", " (by decide)
          have shown := (values_show valuesWritten).join ", " (by decide)
          have named := (head.andThen " (" [')'] (by decide)).append (columns.deepen [')'])
          have between := named.andThen ") VALUES (" [')'] (by decide)
          have whole := (between.append (shown.deepen [')'])).andThen ")" [] (by decide)
          obtain ⟨body, same, shows⟩ := whole.ended
          refine ⟨body, ?_, by simpa [strings, sourceless] using shows⟩
          rw [← same]
          simp only [String.append_assoc]
          rfl

end Insert

theorem Drop.text_ended {drop : Drop} {text : String} (name : IsInert drop.name)
    (written : drop.text = .ok text) : Ended text [] := by
  unfold Drop.text at written
  split at written
  · cases written
  · cases written
    have opening : Shows true "DROP " [] [] [] := .frame (by decide)
    have kind := opening.append (.frame (kind_frame drop.kind))
    have guarded := kind.append (inert_if drop.ifExists " IF EXISTS" (by decide))
    have named := (guarded.andThen " " [] (by decide)).append (.inert name)
    exact (named.append (inert_if drop.deleteTopic " DELETE TOPIC" (by decide))).ended

theorem Describe.text_ended {describe : Describe} {text : String}
    (name : IsInert describe.relation) (written : describe.text = .ok text) : Ended text [] := by
  unfold Describe.text at written
  split at written
  · cases written
  · cases written
    have opening : Shows true "DESCRIBE " [] [] [] := .frame (by decide)
    have named := opening.append (.inert name)
    exact (named.append (inert_if describe.extended " EXTENDED" (by decide))).ended

theorem Listing.text_ended {listing : Listing} {text : String}
    (written : listing.text = .ok text) : Ended text [] := by
  cases written
  have opening : Shows true "LIST " [] [] [] := .frame (by decide)
  have what : isFrame [] listing.what.keyword [] = true := by
    cases listing.what <;> decide
  have named := opening.append (.frame what)
  exact (named.append (inert_if listing.extended " EXTENDED" (by decide))).ended

def Terminate.names : Terminate → List String
  | .query id => [id]
  | .all => []

theorem Terminate.text_ended {terminate : Terminate} {text : String}
    (inert : AllInert terminate.names) (written : terminate.text = .ok text) : Ended text [] := by
  cases terminate with
  | all =>
      cases written
      have whole : Shows true "TERMINATE ALL" [] [] [] := .frame (by decide)
      exact whole.ended
  | query id =>
      unfold Terminate.text at written
      simp only at written
      split at written
      · cases written
      · cases written
        have name : IsInert id := inert id List.mem_cons_self
        have opening : Shows true "TERMINATE " [] [] [] := .frame (by decide)
        exact (opening.append (.inert name)).ended

namespace Statement

/-- The strings of a statement in the order in which they are written: string literals, patterns,
map keys and properties, and byte strings as the two literals they are written as. -/
def strings : Statement → List String
  | .select statement => statement.strings
  | .create statement => statement.strings
  | .insert statement => statement.strings
  | .drop _ | .describe _ | .list _ | .terminate _ => []

/-- All that a statement names: relations, columns, queries, qualifiers and aliases. -/
def names : Statement → List String
  | .select statement => statement.names
  | .create statement => statement.names
  | .insert statement => statement.names
  | .drop statement => [statement.name]
  | .describe statement => [statement.relation]
  | .list _ => []
  | .terminate statement => statement.names

theorem text_ended {statement : Statement} {text : String} (inert : AllInert statement.names)
    (written : statement.text = .ok text) : Ended text statement.strings := by
  cases statement with
  | select statement =>
      obtain ⟨body, bodyWritten, rfl⟩ := ok_of_map written
      exact (statement.bodyText_shows inert bodyWritten).ended
  | create statement => exact statement.text_ended inert written
  | insert statement => exact statement.text_ended inert written
  | drop statement => exact statement.text_ended (inert _ List.mem_cons_self) written
  | describe statement => exact statement.text_ended (inert _ List.mem_cons_self) written
  | list statement => exact statement.text_ended written
  | terminate statement => exact statement.text_ended inert written

/-- Whatever the strings of a statement contain, its text is scanned to exactly these strings, with
no literal left open; outside of them brackets are balanced, and the only semicolon is the last
character of the text. -/
theorem strings_contained (statement : Statement) {text : String}
    (inert : AllInert statement.names) (written : statement.text = .ok text) :
    ∃ body outside, text = body ++ ";" ∧
      scan text.toList = some ⟨statement.strings, outside ++ [';']⟩ ∧
      IsBalanced (outside ++ [';']) ∧ ';' ∉ outside := by
  obtain ⟨body, rfl, shows⟩ := text_ended inert written
  obtain ⟨outside, scanned, balanced, semicolon⟩ := scan_ended shows
  exact ⟨body, outside, rfl, scanned, balanced, semicolon⟩

/-- A row whose strings try to end the statement. -/
def hostileRow : Statement :=
  .insert
    { Insert.start "orders" with
      row := [("note", .array [.string "x'); DROP TABLE orders; --", .string "'"]),
        ("tags", .map [("k'", .bytes [39])])] }

theorem hostile_row_contained :
    ∃ text, AllInert hostileRow.names ∧ hostileRow.text = .ok text ∧
      ∃ body outside, text = body ++ ";" ∧
        scan text.toList = some ⟨hostileRow.strings, outside ++ [';']⟩ ∧
        IsBalanced (outside ++ [';']) ∧ ';' ∉ outside := by
  have inert : AllInert hostileRow.names := by
    unfold AllInert hostileRow
    decide
  have written : hostileRow.text = .ok
      ("INSERT INTO orders (note, tags) VALUES (ARRAY['x''); DROP TABLE orders; --', ''''], " ++
        "MAP('k''' := TO_BYTES('27', 'hex')));") := by
    rfl
  exact ⟨_, inert, written, strings_contained hostileRow inert written⟩

end Statement

end StreamQuery
