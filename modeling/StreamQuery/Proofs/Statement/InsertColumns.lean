import StreamQuery.Proofs.Expr.Shape
import StreamQuery.Proofs.Record.InsertedRow
/-!
# The columns of an insertion

Whatever calls put an insertion together, its row has each column once, where and as it was first
named, with the value that it was given last. The first record that could not be written stays the
failure of the insertion, and columns and values are written in the same order.
-/

namespace StreamQuery

open Text

theorem sameWord_comm (first second : String) : sameWord first second = sameWord second first :=
  Bool.beq_comm

namespace Insert

/-- The calls by which an insertion is put together. -/
inductive Call where
  | setValue (column : String) (value : Literal)
  | addRow (row : List (String × Literal))
  | addColumns (columns : List Column)
  | addRecord (record : RecordType) (data : Except String Json)
  | fillFrom (query : Select)

def Call.run : Call → Insert → Insert
  | .setValue column content => Insert.value column content
  | .addRow row => Insert.addRow row
  | .addColumns columns => Insert.addColumns columns
  | .addRecord record data => Insert.addRecord record data
  | .fillFrom query => Insert.fillFrom query

/-- An insertion after more calls, the first one first. -/
def runAll (calls : List Call) (insert : Insert) : Insert :=
  calls.foldl (fun insert call => call.run insert) insert

/-- The insertion that some calls put together from nothing. -/
def built (relation : String) (calls : List Call) : Insert :=
  runAll calls (start relation)

/-- The value that a field of a record gives, if it gives one. -/
def fieldValue? (members : Keyed Json) (field : RecordField) : Option (String × Literal) :=
  (fieldLiteral field members).toOption.join.map (field.name, ·)

/-- Why a field of a record cannot be written. -/
def fieldFailure? (members : Keyed Json) (field : RecordField) : Option String :=
  match fieldLiteral field members with
  | .ok _ => none
  | .error reason => some ("field " ++ field.name ++ ": " ++ reason.message)

/-- The values that a call gives, in order; a record gives those of its fields in front of the first
that cannot be written. -/
def Call.given : Call → List (String × Literal)
  | .setValue column content => [(column, content)]
  | .addRow row => row
  | .addColumns columns =>
      columns.filterMap fun column => column.literal.map (column.name, ·)
  | .addRecord record (.ok (.object members)) =>
      (record.takeWhile fun field => (fieldFailure? members field).isNone).filterMap
        (fieldValue? members)
  | .addRecord _ _ | .fillFrom _ => []

/-- Why a record cannot be written. -/
def Call.failure? : Call → Option String
  | .addRecord record (.ok (.object members)) => record.findSome? (fieldFailure? members)
  | .addRecord _ (.ok _) => some "record is not a JSON object"
  | .addRecord _ (.error reason) => some reason
  | _ => none

/-- A row has each column that was given once, under its first name and with its last value. -/
structure Keeps (given row : List (String × Literal)) : Prop where
  distinct : (row.map Prod.fst).Pairwise fun first second => sameWord first second = false
  names : row.map Prod.fst = (given.map Prod.fst).eraseDupsBy sameWord
  last : ∀ set ∈ row,
    (given.reverse.find? fun entry => sameWord entry.1 set.1).map Prod.snd = some set.2

/-! ### Setting one column -/

section Set

variable {column : String} {value : Literal} {row given : List (String × Literal)}

theorem setValue_names (column : String) (value : Literal) (row : List (String × Literal)) :
    (setValue column value row).map Prod.fst =
      if (row.map Prod.fst).any (sameWord · column) then row.map Prod.fst
      else row.map Prod.fst ++ [column] := by
  induction row with
  | nil => rfl
  | cons first rest ih =>
      obtain ⟨name, current⟩ := first
      rw [setValue, List.map_cons, List.any_cons]
      cases same : sameWord name column with
      | true => simp
      | false =>
          simp only [Bool.false_eq_true, if_false, List.map_cons, ih, Bool.false_or]
          split <;> rfl

/-- What is in a row after a column has been set: the new value in that column, and all others. -/
theorem mem_setValue
    (distinct : (row.map Prod.fst).Pairwise fun first second => sameWord first second = false)
    {set : String × Literal} (member : set ∈ setValue column value row) :
    (sameWord set.1 column = true ∧ set.2 = value) ∨
      (sameWord set.1 column = false ∧ set ∈ row) := by
  induction row with
  | nil =>
      cases List.mem_singleton.1 member
      exact .inl ⟨beq_self_eq_true _, rfl⟩
  | cons first rest ih =>
      obtain ⟨name, current⟩ := first
      obtain ⟨apart, distinct⟩ := List.pairwise_cons.1 distinct
      rw [setValue] at member
      cases same : sameWord name column with
      | true =>
          rw [same, if_pos rfl] at member
          rcases List.mem_cons.1 member with rfl | later
          · exact .inl ⟨same, rfl⟩
          · refine .inr ⟨?_, List.mem_cons_of_mem _ later⟩
            have other := apart set.1 (List.mem_map_of_mem later)
            by_contra both
            have joined := sameWord_trans same (sameWord_symm (by simpa using both))
            rw [other] at joined
            cases joined
      | false =>
          rw [same, if_neg Bool.false_ne_true] at member
          rcases List.mem_cons.1 member with rfl | later
          · exact .inr ⟨same, List.mem_cons_self⟩
          · exact (ih distinct later).imp_right (And.imp_right (List.mem_cons_of_mem _))

theorem setValue_distinct
    (distinct : (row.map Prod.fst).Pairwise fun first second => sameWord first second = false)
    (column : String) (value : Literal) :
    ((setValue column value row).map Prod.fst).Pairwise
      fun first second => sameWord first second = false := by
  rw [setValue_names]
  split
  · exact distinct
  · next new =>
      refine List.pairwise_append.2 ⟨distinct, List.pairwise_singleton _ _, ?_⟩
      intro name member other last
      cases List.mem_singleton.1 last
      simpa using fun same => new (List.any_eq_true.2 ⟨name, member, same⟩)

end Set

/-! ### Setting one column after another -/

/-- A row after the columns that were given have been set. -/
def setAll (given row : List (String × Literal)) : List (String × Literal) :=
  given.foldl (fun row entry => setValue entry.1 entry.2 row) row

theorem setAll_append (first second row : List (String × Literal)) :
    setAll (first ++ second) row = setAll second (setAll first row) :=
  List.foldl_append

theorem setAll_distinct (given : List (String × Literal)) {row : List (String × Literal)}
    (distinct : (row.map Prod.fst).Pairwise fun first second => sameWord first second = false) :
    ((setAll given row).map Prod.fst).Pairwise
      fun first second => sameWord first second = false := by
  induction given generalizing row with
  | nil => exact distinct
  | cons entry rest ih => exact ih (setValue_distinct distinct entry.1 entry.2)

/-- Names that a row does not have yet come behind those that it has, each when it first comes. -/
theorem setAll_names (given row : List (String × Literal)) :
    (setAll given row).map Prod.fst = row.map Prod.fst ++
      ((given.map Prod.fst).filter fun name =>
        !(row.map Prod.fst).any (sameWord · name)).eraseDupsBy sameWord := by
  induction given generalizing row with
  | nil => simp [setAll]
  | cons entry rest ih =>
      have step : setAll (entry :: rest) row = setAll rest (setValue entry.1 entry.2 row) := rfl
      rw [step, ih, setValue_names, List.map_cons, List.filter_cons]
      cases held : (row.map Prod.fst).any (sameWord · entry.1) with
      | true => simp
      | false =>
          have others (name : String) :
              (!(row.map Prod.fst ++ [entry.1]).any (sameWord · name)) =
                (decide (sameWord name entry.1 = false) &&
                  !(row.map Prod.fst).any (sameWord · name)) := by
            rw [List.any_append, List.any_cons, List.any_nil, Bool.or_false, Bool.not_or,
              Bool.and_comm, sameWord_comm name]
            cases sameWord entry.1 name <;> rfl
          simp only [Bool.false_eq_true, if_false, Bool.not_false, if_true, others,
            List.eraseDupsBy_cons, List.filter_filter, List.append_assoc, List.singleton_append]

/-- What is in a row at the end was given last or was there before. -/
theorem mem_setAll {given row : List (String × Literal)}
    (distinct : (row.map Prod.fst).Pairwise fun first second => sameWord first second = false)
    {set : String × Literal} (member : set ∈ setAll given row) :
    (given.reverse.find? fun entry => sameWord entry.1 set.1).map Prod.snd = some set.2 ∨
      (given.reverse.find? fun entry => sameWord entry.1 set.1) = none ∧ set ∈ row := by
  induction given generalizing row with
  | nil => exact .inr ⟨rfl, member⟩
  | cons entry rest ih =>
      rw [List.reverse_cons, List.find?_append]
      rcases ih (setValue_distinct distinct entry.1 entry.2) member with later | ⟨none, earlier⟩
      · left
        obtain ⟨found, here, same⟩ := Option.map_eq_some_iff.1 later
        rw [here, Option.some_or, Option.map_some, same]
      · rw [none, Option.none_or, List.find?_singleton, sameWord_comm entry.1]
        rcases mem_setValue distinct earlier with ⟨same, value⟩ | ⟨other, before⟩
        · simp [same, value]
        · simp [other, before]

theorem setAll_keeps (given : List (String × Literal)) : Keeps given (setAll given []) where
  distinct := setAll_distinct given .nil
  names := by simpa using setAll_names given []
  last := by
    intro set member
    exact (mem_setAll .nil member).resolve_right fun earlier => nomatch earlier.2

/-! ### What a call does -/

theorem addRow_row (row : List (String × Literal)) (insert : Insert) :
    (insert.addRow row).row = setAll row insert.row ∧
      (insert.addRow row).fault = insert.fault := by
  induction row generalizing insert with
  | nil => exact ⟨rfl, rfl⟩
  | cons entry rest ih => exact ih (insert.value entry.1 entry.2)

theorem addColumns_row (columns : List Column) (insert : Insert) :
    (insert.addColumns columns).row =
        setAll (columns.filterMap fun column => column.literal.map (column.name, ·)) insert.row ∧
      (insert.addColumns columns).fault = insert.fault := by
  induction columns generalizing insert with
  | nil => exact ⟨rfl, rfl⟩
  | cons column rest ih =>
      rw [addColumns, List.foldl_cons, ← addColumns, List.filterMap_cons]
      cases column.literal with
      | none => exact ih insert
      | some literal => exact ih (insert.value column.name literal)

/-- A failure is remembered unless there is one. -/
theorem fail_fault (reason : String) (insert : Insert) :
    (insert.fail reason).fault = insert.fault.or (some (.unwritable reason)) := by
  unfold fail
  cases insert.fault <;> rfl

theorem addFields_row_fault (members : Keyed Json) (record : RecordType) (insert : Insert) :
    (addFields members record insert).row =
        setAll ((record.takeWhile fun field => (fieldFailure? members field).isNone).filterMap
          (fieldValue? members)) insert.row ∧
      (addFields members record insert).fault =
        insert.fault.or ((record.findSome? (fieldFailure? members)).map .unwritable) := by
  induction record generalizing insert with
  | nil => exact ⟨rfl, Option.or_none.symm⟩
  | cons field rest ih =>
      rw [addFields, List.takeWhile_cons, List.findSome?_cons]
      cases found : fieldLiteral field members with
      | error reason =>
          have failure : fieldFailure? members field =
              some ("field " ++ field.name ++ ": " ++ reason.message) := by
            rw [fieldFailure?, found]
          simp only [failure, Option.isNone_some, Bool.false_eq_true, if_false]
          exact ⟨rfl, fail_fault _ insert⟩
      | ok content =>
          have calm : fieldFailure? members field = none := by rw [fieldFailure?, found]
          have value : fieldValue? members field = content.map (field.name, ·) := by
            rw [fieldValue?, found]
            cases content <;> rfl
          simp only [calm, Option.isNone_none, if_true, List.filterMap_cons, value]
          cases content with
          | none => exact ih insert
          | some literal => exact ih (insert.value field.name literal)

theorem run_row (call : Call) (insert : Insert) :
    (call.run insert).row = setAll call.given insert.row ∧
      (call.run insert).fault = insert.fault.or (call.failure?.map .unwritable) := by
  cases call with
  | setValue column content => exact ⟨rfl, Option.or_none.symm⟩
  | addRow row =>
      obtain ⟨row, fault⟩ := addRow_row row insert
      exact ⟨row, fault.trans Option.or_none.symm⟩
  | addColumns columns =>
      obtain ⟨row, fault⟩ := addColumns_row columns insert
      exact ⟨row, fault.trans Option.or_none.symm⟩
  | addRecord record data =>
      cases data with
      | error reason => exact ⟨rfl, fail_fault reason insert⟩
      | ok json =>
          cases json with
          | object members => exact addFields_row_fault members record insert
          | _ => exact ⟨rfl, fail_fault _ insert⟩
  | fillFrom query => exact ⟨rfl, Option.or_none.symm⟩

theorem runAll_row (calls : List Call) (insert : Insert) :
    (runAll calls insert).row = setAll (calls.flatMap Call.given) insert.row ∧
      (runAll calls insert).fault =
        insert.fault.or ((calls.findSome? Call.failure?).map .unwritable) := by
  induction calls generalizing insert with
  | nil => exact ⟨rfl, Option.or_none.symm⟩
  | cons call rest ih =>
      obtain ⟨row, fault⟩ := run_row call insert
      obtain ⟨laterRow, laterFault⟩ := ih (call.run insert)
      constructor
      · rw [List.flatMap_cons, setAll_append, ← row]
        exact laterRow
      · rw [List.findSome?_cons]
        refine laterFault.trans ?_
        rw [fault, Option.or_assoc]
        cases call.failure? <;> rfl

theorem built_keeps (relation : String) (calls : List Call) :
    Keeps (calls.flatMap Call.given) (built relation calls).row := by
  rw [built, (runAll_row calls (start relation)).1]
  exact setAll_keeps _

theorem built_fault (relation : String) (calls : List Call) :
    (built relation calls).fault = (calls.findSome? Call.failure?).map .unwritable := by
  rw [built, (runAll_row calls (start relation)).2]
  exact Option.none_or

/-! ### The text of a row -/

theorem valueTexts_eq {row : List (String × Literal)} {texts : List String}
    (written : valueTexts row = .ok texts) :
    texts = row.map (fun set => set.2.text) ∧
      ∀ set ∈ row, set.2.checkedText = .ok set.2.text := by
  induction row generalizing texts with
  | nil =>
      cases written
      exact ⟨rfl, nofun⟩
  | cons set rest ih =>
      unfold valueTexts at written
      split at written
      · cases written
      · obtain ⟨text, here, written⟩ := ok_of_bind written
        obtain ⟨others, later, written⟩ := ok_of_bind written
        cases written
        obtain ⟨rfl, each⟩ := ih later
        obtain rfl := Expr.checkedText_eq here
        exact ⟨rfl, List.forall_mem_cons.2 ⟨here, each⟩⟩

/-- The text of an insertion with a row is made of its columns and, in the same order, of the
literals of their values. -/
theorem text_row {insert : Insert} {text : String} (some : insert.row ≠ [])
    (written : insert.text = .ok text) :
    (∀ set ∈ insert.row, set.2.checkedText = .ok set.2.text) ∧
      text = "INSERT INTO " ++ insert.relation ++ " (" ++
        joinWith ", " (insert.row.map Prod.fst) ++ ") VALUES (" ++
        joinWith ", " (insert.row.map fun set => set.2.text) ++ ");" := by
  unfold Insert.text at written
  split at written
  · cases written
  · split at written
    · cases written
    · split at written
      · cases written
      · cases written
      · next none => exact absurd none some
      · obtain ⟨values, valuesWritten, written⟩ := ok_of_bind written
        obtain ⟨rfl, each⟩ := valueTexts_eq valuesWritten
        cases written
        exact ⟨each, rfl⟩

theorem text_fault {insert : Insert} {error : StatementError} (fault : insert.fault = some error) :
    insert.text = .error error := by
  rw [Insert.text, fault]

/-- Whatever calls put an insertion together: its row has each column that was given once, in the
order and spelling of the first mention and with the last value; the first record that could not be
written is what the insertion fails with, whatever is called later; and a row that is written has
one value for each column, the literal of the column's value. -/
theorem columns_kept (relation : String) (calls : List Call) :
    Keeps (calls.flatMap Call.given) (built relation calls).row ∧
      (∀ reason, calls.findSome? Call.failure? = some reason → ∀ later,
        (built relation (calls ++ later)).text = .error (.unwritable reason)) ∧
      ∀ text, (built relation calls).row ≠ [] → (built relation calls).text = .ok text →
        ∃ values, List.Forall₂
            (fun set value => value = set.2.text ∧ set.2.checkedText = .ok value)
            (built relation calls).row values ∧
          text = "INSERT INTO " ++ (built relation calls).relation ++ " (" ++
            joinWith ", " ((built relation calls).row.map Prod.fst) ++ ") VALUES (" ++
            joinWith ", " values ++ ");" := by
  refine ⟨built_keeps relation calls, ?_, ?_⟩
  · intro reason first later
    apply text_fault
    rw [built_fault, List.findSome?_append, first]
    rfl
  · intro text some written
    obtain ⟨each, shown⟩ := text_row some written
    refine ⟨_, ?_, shown⟩
    rw [List.forall₂_map_right_iff, List.forall₂_same]
    exact fun set member => ⟨rfl, each set member⟩

/-- A gauge that may have a note, and a level that data exchange shows as null when it is none. -/
def gauge : RecordType :=
  [⟨"ID", .integer ⟨true, 64, false⟩, true, none⟩, ⟨"note", .option .string, false, none⟩,
    ⟨"level", .double, false, none⟩]

/-- A value, a column without a literal, a column named again, and a record. -/
def gaugeCalls (level : Json) : List Call :=
  [.setValue "id" (.integer 1),
    .addColumns [.plain "note" .string, { Column.plain "Unit" .string with
      literal := some (.string "bar") }],
    .addRow [("UNIT", .string "mbar"), ("place", .null)],
    .addRecord gauge (.ok (.object [("id", .int 2), ("level", level), ("note", .null)]))]

theorem gauge_kept :
    (built "gauges" (gaugeCalls (.int 3))).text =
        .ok "INSERT INTO gauges (id, Unit, place, level) VALUES (2, 'mbar', NULL, 3.0);" ∧
      Keeps ((gaugeCalls (.int 3)).flatMap Call.given) (built "gauges" (gaugeCalls (.int 3))).row ∧
      (∃ values, List.Forall₂
          (fun set value => value = set.2.text ∧ set.2.checkedText = .ok value)
          (built "gauges" (gaugeCalls (.int 3))).row values) ∧
      ∀ later, (built "gauges" (gaugeCalls .null ++ later)).text =
        .error (.unwritable "field level: null value for a non-nullable field") := by
  obtain ⟨keeps, -, row⟩ := columns_kept "gauges" (gaugeCalls (.int 3))
  have written : (built "gauges" (gaugeCalls (.int 3))).text =
      .ok "INSERT INTO gauges (id, Unit, place, level) VALUES (2, 'mbar', NULL, 3.0);" := by
    rfl
  obtain ⟨values, all, -⟩ := row _ (by decide) written
  have failed := (columns_kept "gauges" (gaugeCalls .null)).2.1
    "field level: null value for a non-nullable field" rfl
  exact ⟨written, keeps, ⟨values, all⟩, failed⟩

end Insert

end StreamQuery
