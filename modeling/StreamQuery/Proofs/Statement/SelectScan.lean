import StreamQuery.Proofs.Statement.ExprScan
import StreamQuery.Statement.Select
/-!
# What a query shows to a scan

The strings of a query are those of its named queries, each with all of its own, and then those of
its clauses in the order in which the clauses are written. Relations, joins and windows hold names
and numbers only.
-/

namespace StreamQuery

open Text

/-! ### Lists of parts -/

theorem AllInert.each {α : Type} {names : α → List String} {items : List α}
    (inert : AllInert (items.flatMap names)) : ∀ item ∈ items, AllInert (names item) :=
  fun item member name found => inert name (List.mem_flatMap.mpr ⟨item, member, found⟩)

/-- Parts that are written one by one. -/
theorem mapM_shows {α : Type} {write : α → Written} {strings : α → List String} {items : List α}
    {texts : List String}
    (each : ∀ item ∈ items, ∀ {text}, write item = .ok text →
      Shows false text (strings item) [] [])
    (written : items.mapM write = .ok texts) : ShowAll texts (items.flatMap strings) := by
  induction items generalizing texts with
  | nil =>
      cases written
      exact .nil
  | cons item rest induction =>
      rw [List.mapM_cons] at written
      obtain ⟨first, firstWritten, written⟩ := ok_of_bind written
      obtain ⟨others, othersWritten, written⟩ := ok_of_bind written
      cases written
      have later := induction (fun other member => each other (List.mem_cons_of_mem _ member))
        othersWritten
      exact .cons (each item List.mem_cons_self firstWritten) later

/-- Parts that hold no strings. -/
theorem mapM_plain {α : Type} {write : α → Written} {items : List α} {texts : List String}
    (each : ∀ item ∈ items, ∀ {text}, write item = .ok text → Shows true text [] [] [])
    (written : items.mapM write = .ok texts) : ShowAll texts [] := by
  have shown : ShowAll texts (items.flatMap fun _ => []) :=
    mapM_shows (fun item member _ done => (each item member done).soften) written
  have nothing : items.flatMap (fun _ => ([] : List String)) = [] := by simp
  exact nothing ▸ shown

/-- A clause that may be missing is a list of at most one part. -/
theorem optionalText_eq {α : Type} (write : α → Written) (part : Option α) :
    Select.optionalText write part = part.toList.mapM write := by
  cases part with
  | none => rfl
  | some part =>
      rw [Option.toList_some, List.mapM_cons]
      simp only [Select.optionalText, List.mapM_nil]
      cases write part <;> rfl

theorem optionalText_shows {α : Type} {write : α → Written} {strings : α → List String}
    {part : Option α} {texts : List String}
    (each : ∀ item ∈ part.toList, ∀ {text}, write item = .ok text →
      Shows false text (strings item) [] [])
    (written : Select.optionalText write part = .ok texts) :
    ShowAll texts (part.toList.flatMap strings) :=
  mapM_shows each ((optionalText_eq write part).symm.trans written)

/-- A clause that holds no strings. -/
theorem optionalText_plain {α : Type} {write : α → Written} {part : Option α}
    {texts : List String}
    (each : ∀ item ∈ part.toList, ∀ {text}, write item = .ok text → Shows true text [] [] [])
    (written : Select.optionalText write part = .ok texts) : ShowAll texts [] :=
  mapM_plain each ((optionalText_eq write part).symm.trans written)

/-! ### Relations, joins and windows -/

def Relation.names (relation : Relation) : List String :=
  relation.name :: relation.aliasName.toList

def Join.names (join : Join) : List String :=
  join.relation.names ++ join.condition.toList.flatMap fun (left, right) =>
    left.names ++ right.names

theorem relation_shows {relation : Relation} {text : String} (inert : AllInert relation.names)
    (written : relation.text = .ok text) : Shows true text [] [] [] := by
  have name : IsInert relation.name := inert _ List.mem_cons_self
  unfold Relation.text at written
  split at written
  · cases written
  · split at written
    · next other given =>
        cases written
        have present : relation.aliasName = some other := (Option.filter_eq_some_iff.mp given).1
        have inertAlias : IsInert other := inert _ (by simp [Relation.names, present])
        exact ((Shows.inert name).andThen " " [] (by decide)).append (.inert inertAlias)
    · cases written
      exact .inert name

theorem timeUnit_frame (unit : TimeUnit) : isFrame [] unit.keyword [] = true := by
  cases unit <;> decide

theorem duration_shows {duration : Duration} {window part text : String}
    (written : duration.checkedText window part = .ok text) : Shows true text [] [] [] := by
  unfold Duration.checkedText at written
  split at written
  · cases written
  · cases written
    have amount := (Shows.inert (int_inert duration.amount)).andThen " " [] (by decide)
    exact amount.andThen _ [] (timeUnit_frame duration.unit)

theorem joinKind_frame (kind : JoinKind) : isFrame [] kind.keyword [] = true := by
  cases kind <;> decide

theorem join_shows {join : Join} {text : String} (inert : AllInert join.names)
    (written : join.text = .ok text) : Shows true text [] [] [] := by
  unfold Join.text at written
  split at written
  · cases written
  · obtain ⟨⟨querySide, joinSide⟩, condition, written⟩ := ok_of_bind written
    obtain ⟨relation, relationWritten, written⟩ := ok_of_bind written
    have sides : AllInert (querySide.names ++ joinSide.names) := by
      unfold Join.conditionOf at condition
      split at condition
      · next given =>
          cases condition
          exact inert.split.2.each (querySide, joinSide) (by simp [given])
      · cases condition
    have kind := (Shows.frame (joinKind_frame join.kind)).andThen " " [] (by decide)
    have joined := kind.append (relation_shows inert.split.1 relationWritten)
    have matched {within : String} (withinShows : Shows true within [] [] []) {text : String}
        (written : (do
          let left ← querySide.operandText
          let right ← joinSide.operandText
          pure (join.kind.keyword ++ " " ++ relation ++ within ++ " ON " ++ left ++ " = " ++
            right)) = Except.ok text) : Shows true text [] [] [] := by
      obtain ⟨left, leftWritten, written⟩ := ok_of_bind written
      obtain ⟨right, rightWritten, written⟩ := ok_of_bind written
      cases written
      have leftSide := ((joined.append withinShows).andThen " ON " [] (by decide)).append
        (operandText_field sides.split.1 leftWritten)
      exact (leftSide.andThen " = " [] (by decide)).append
        (operandText_field sides.split.2 rightWritten)
    split at written
    · obtain ⟨within, withinWritten, written⟩ := ok_of_bind written
      obtain ⟨shown, shownWritten, rfl⟩ := ok_of_map withinWritten
      have opening : Shows true " WITHIN " [] [] [] := .frame (by decide)
      exact matched (opening.append (duration_shows shownWritten)) written
    · exact matched (.inert (by decide)) written

theorem windowPart_shows {window : Window} {text : String}
    {part : String × String × Duration} (member : part ∈ window.parts)
    (written : (part.2.2.checkedText window.keyword part.2.1).map (part.1 ++ ·) = .ok text) :
    Shows true text [] [] [] := by
  obtain ⟨shown, shownWritten, rfl⟩ := ok_of_map written
  have words : IsInert part.1 := by
    have known : part.1 ∈ ["SIZE ", "ADVANCE BY ", "", "RETENTION ", "GRACE PERIOD "] := by
      unfold Window.parts at member
      simp only [List.mem_append, Option.mem_toList, Option.map_eq_some_iff] at member
      rcases member with (required | ⟨_, _, rfl⟩) | ⟨_, _, rfl⟩
      · split at required <;> simp only [List.mem_cons, List.not_mem_nil, or_false] at required
        · simp [required]
        · rcases required with rfl | rfl <;> simp
        · simp [required]
      · simp
      · simp
    have each : ∀ words ∈ ["SIZE ", "ADVANCE BY ", "", "RETENTION ", "GRACE PERIOD "],
        IsInert words := by decide
    exact each _ known
  exact (Shows.inert words).append (duration_shows shownWritten)

theorem window_shows {window : Window} {text : String} (written : window.text = .ok text) :
    Shows true text [] [] [] := by
  unfold Window.text at written
  obtain ⟨parts, partsWritten, written⟩ := ok_of_bind written
  cases written
  have shown : ShowAll parts [] :=
    mapM_plain (fun part member _ done => windowPart_shows member done) partsWritten
  have keyword : isFrame [] window.keyword [] = true := by
    unfold Window.keyword WindowShape.keyword
    split <;> decide
  have opening : Shows true "WINDOW " [] [] [] := .frame (by decide)
  have head := (opening.andThen _ [] keyword).andThen " (" [')'] (by decide)
  exact (head.append ((shown.join ", " (by decide)).deepen [')'])).andThen ")" [] (by decide)

/-! ### Clauses -/

theorem alias_named {expr : Expr} {name : String} (given : expr.aliasName? = some name) :
    name ∈ expr.names := by
  have written {aliasName : Option String} (given : givenAlias? aliasName = some name) :
      aliasName = some name := (Option.filter_eq_some_iff.mp given).1
  cases expr with
  | field reference => simp [Expr.names, FieldRef.names, written given]
  | arithmetic left op right aliasName => simp [Expr.names, written given]
  | aggregate function argument aliasName => cases argument <;> simp [Expr.names, written given]
  | cases branches otherwise aliasName => simp [Expr.names, written given]
  | _ => cases given

/-- An expression as an output column. -/
theorem column_shows {expr : Expr} {text : String} (inert : AllInert expr.names)
    (written : expr.text = .ok text) : Shows false text expr.strings [] [] := by
  unfold Expr.text at written
  obtain ⟨body, bodyWritten, written⟩ := ok_of_bind written
  have bodyShows := expr.operandText_shows inert bodyWritten
  split at written
  · next name given =>
      cases written
      have inertAlias : IsInert name := inert _ (alias_named given)
      have whole := (bodyShows.andThen " AS " [] (by decide)).append (.inert inertAlias)
      simpa using whole.soften
  · cases written
    exact bodyShows

/-- A condition or a key behind a word. -/
theorem worded_shows {expr : Expr} {word text : String} (framed : isFrame [] word [] = true)
    (inert : AllInert expr.names) (written : expr.operandText.map (word ++ ·) = .ok text) :
    Shows false text expr.strings [] [] := by
  obtain ⟨body, bodyWritten, rfl⟩ := ok_of_map written
  exact (Shows.frame framed).append (expr.operandText_shows inert bodyWritten)

theorem where_shows {condition : Expr} {text : String} (inert : AllInert condition.names)
    (written : whereText condition = .ok text) : Shows false text condition.strings [] [] := by
  unfold whereText at written
  split at written
  · cases written
  · exact worded_shows (by decide) inert written

theorem key_shows {clause : String} {key : Expr} {text : String} (inert : AllInert key.names)
    (written : keyText clause key = .ok text) : Shows false text key.strings [] [] := by
  unfold keyText at written
  split at written
  · cases written
  · exact key.operandText_shows inert written

theorem keys_show {clause : String} (framed : isFrame [] clause [] = true) {keys : List Expr}
    {text : String} (inert : AllInert (keys.flatMap Expr.names))
    (written : keysText clause keys = .ok text) :
    Shows false text (keys.flatMap Expr.strings) [] [] := by
  unfold keysText at written
  split at written
  · cases written
  · obtain ⟨texts, textsWritten, written⟩ := ok_of_bind written
    cases written
    have each := mapM_shows (fun key member _ done => key_shows (inert.each key member) done)
      textsWritten
    exact ((Shows.frame framed).andThen " " [] (by decide)).append (each.join ", " (by decide))

theorem order_shows {keys : List (Expr × SortOrder)} {text : String}
    (inert : AllInert (keys.flatMap fun key => key.1.names))
    (written : orderByText keys = .ok text) :
    Shows false text (keys.flatMap fun key => key.1.strings) [] [] := by
  unfold orderByText at written
  split at written
  · cases written
  · obtain ⟨texts, textsWritten, written⟩ := ok_of_bind written
    cases written
    have each : ShowAll texts (keys.flatMap fun key => key.1.strings) := by
      refine mapM_shows (fun (key, order) member text done => ?_) textsWritten
      obtain ⟨body, bodyWritten, rfl⟩ := ok_of_map done
      have bodyShows := key.operandText_shows (inert.each (key, order) member) bodyWritten
      have direction : isFrame [] order.keyword [] = true := by cases order <;> decide
      exact ((bodyShows.andThen " " [] (by decide)).andThen _ [] direction).soften
    have opening : Shows true "ORDER BY " [] [] [] := .frame (by decide)
    exact opening.append (each.join ", " (by decide))

theorem limit_shows {limit : Nat} {text : String} (written : Select.limitText limit = .ok text) :
    Shows true text [] [] [] := by
  unfold Select.limitText at written
  split at written
  · cases written
  · cases written
    have opening : Shows true "LIMIT " [] [] [] := .frame (by decide)
    exact opening.append (.inert (nat_inert limit))

/-! ### Queries -/

namespace Select

/-- The strings of the clauses of a query, without those of its named queries. -/
def clauseStrings (select : Select) : List String :=
  select.columns.flatMap Expr.strings ++ (select.filter.toList.flatMap Expr.strings ++
    (select.groupBy.toList.flatMap (·.flatMap Expr.strings) ++
      (select.having.toList.flatMap Expr.strings ++
        (select.partitionBy.toList.flatMap (·.flatMap Expr.strings) ++
          select.orderBy.toList.flatMap (·.flatMap fun key => key.1.strings)))))

/-- All names in the clauses of a query. -/
def clauseNames (select : Select) : List String :=
  select.columns.flatMap Expr.names ++ (select.source.toList.flatMap Relation.names ++
    (select.joins.flatMap Join.names ++ (select.filter.toList.flatMap Expr.names ++
      (select.groupBy.toList.flatMap (·.flatMap Expr.names) ++
        (select.having.toList.flatMap Expr.names ++
          (select.partitionBy.toList.flatMap (·.flatMap Expr.names) ++
            select.orderBy.toList.flatMap (·.flatMap fun key => key.1.names)))))))

mutual

/-- The strings of a query in the order in which they are written. -/
def strings : Select → List String
  | ⟨registry, queries, columns, source, joins, window, filter, groupBy, having, partitionBy,
      orderBy, emitChanges, limit, fault⟩ =>
    queryStrings queries ++ clauseStrings
      ⟨registry, queries, columns, source, joins, window, filter, groupBy, having, partitionBy,
        orderBy, emitChanges, limit, fault⟩

def queryStrings : List (String × Select) → List String
  | [] => []
  | (_, query) :: rest => strings query ++ queryStrings rest

end

mutual

/-- All names in a query: relations, columns, named queries, qualifiers and aliases. -/
def names : Select → List String
  | ⟨registry, queries, columns, source, joins, window, filter, groupBy, having, partitionBy,
      orderBy, emitChanges, limit, fault⟩ =>
    queryNames queries ++ clauseNames
      ⟨registry, queries, columns, source, joins, window, filter, groupBy, having, partitionBy,
        orderBy, emitChanges, limit, fault⟩

def queryNames : List (String × Select) → List String
  | [] => []
  | (name, query) :: rest => name :: (names query ++ queryNames rest)

end

theorem bodyText_eq (select : Select) :
    select.bodyText = (do
      let relation ← select.opening
      let queryTexts ← queryTexts select.queries
      let clauses ← select.clauseTexts relation
      let named := if queryTexts.isEmpty then [] else ["WITH " ++ joinWith ", " queryTexts]
      pure (joinWith " " (named ++ clauses))) := by
  cases select
  rw [bodyText]

theorem opening_source {select : Select} {relation : Relation}
    (opened : select.opening = .ok relation) : select.source = some relation := by
  unfold opening at opened
  split at opened
  · cases opened
  · split at opened
    · cases opened
    · split at opened
      · cases opened
      · next given =>
          cases opened
          exact given

/-- The texts of all clauses of a query, from those of its parts. -/
inductive Clauses (relation : Relation) (select : Select) : List String → Prop
  | written {columns joins window filter groupBy having partitionBy orderBy limit : List String}
      {source : String} (columnTexts : select.columns.mapM Expr.text = .ok columns)
      (sourceText : relation.text = .ok source)
      (joinTexts : select.joins.mapM Join.text = .ok joins)
      (windowText : optionalText Window.text select.window = .ok window)
      (filterText : optionalText whereText select.filter = .ok filter)
      (groupText : optionalText groupByText select.groupBy = .ok groupBy)
      (havingText : optionalText havingText select.having = .ok having)
      (partitionText : optionalText partitionByText select.partitionBy = .ok partitionBy)
      (orderText : optionalText orderByText select.orderBy = .ok orderBy)
      (limitText : optionalText limitText select.limit = .ok limit) :
      Clauses relation select
        (["SELECT " ++ joinWith ", " columns, "FROM " ++ source] ++ joins ++ window ++ filter ++
          groupBy ++ having ++ partitionBy ++ orderBy ++
          (if select.emitChanges then ["EMIT CHANGES"] else []) ++ limit)

theorem clauses_of_written {relation : Relation} {select : Select} {texts : List String}
    (written : select.clauseTexts relation = .ok texts) : Clauses relation select texts := by
  unfold clauseTexts at written
  obtain ⟨columns, columnTexts, written⟩ := ok_of_bind written
  obtain ⟨source, sourceText, written⟩ := ok_of_bind written
  obtain ⟨joins, joinTexts, written⟩ := ok_of_bind written
  obtain ⟨window, windowText, written⟩ := ok_of_bind written
  obtain ⟨filter, filterText, written⟩ := ok_of_bind written
  obtain ⟨groupBy, groupText, written⟩ := ok_of_bind written
  obtain ⟨having, havingText, written⟩ := ok_of_bind written
  obtain ⟨partitionBy, partitionText, written⟩ := ok_of_bind written
  obtain ⟨orderBy, orderText, written⟩ := ok_of_bind written
  obtain ⟨limit, limitText, written⟩ := ok_of_bind written
  cases written
  exact .written columnTexts sourceText joinTexts windowText filterText groupText havingText
    partitionText orderText limitText

theorem clauses_show {select : Select} {relation : Relation} {texts : List String}
    (inert : AllInert select.clauseNames) (source : select.source = some relation)
    (written : select.clauseTexts relation = .ok texts) : ShowAll texts select.clauseStrings := by
  obtain ⟨columnNames, inert⟩ := inert.split
  obtain ⟨sourceNames, inert⟩ := inert.split
  obtain ⟨joinNames, inert⟩ := inert.split
  obtain ⟨filterNames, inert⟩ := inert.split
  obtain ⟨groupNames, inert⟩ := inert.split
  obtain ⟨havingNames, inert⟩ := inert.split
  obtain ⟨partitionNames, orderNames⟩ := inert.split
  obtain ⟨columnsWritten, sourceWritten, joinsWritten, windowWritten, filterWritten, groupWritten,
    havingWritten, partitionWritten, orderWritten, limitWritten⟩ := clauses_of_written written
  have columnsShow := mapM_shows (fun column member _ done =>
    column_shows (columnNames.each column member) done) columnsWritten
  have select_ : Shows true "SELECT " [] [] [] := .frame (by decide)
  have fromClause : Shows true "FROM " [] [] [] := .frame (by decide)
  have relationNames : AllInert relation.names := sourceNames.each relation (by simp [source])
  have first := select_.append (columnsShow.join ", " (by decide))
  have second := fromClause.append (relation_shows relationNames sourceWritten)
  have head := ShowAll.cons first (.cons second.soften .nil)
  have joinsShow := mapM_plain (fun join member _ done =>
    join_shows (joinNames.each join member) done) joinsWritten
  have windowShows := optionalText_plain (fun window _ _ done => window_shows done) windowWritten
  have filterShows := optionalText_shows (fun condition member _ done =>
    where_shows (filterNames.each condition member) done) filterWritten
  have groupShows := optionalText_shows (fun keys member _ done =>
    keys_show (by decide) (groupNames.each keys member) done) groupWritten
  have havingShows := optionalText_shows (fun condition member _ done =>
    worded_shows (by decide) (havingNames.each condition member) done) havingWritten
  have partitionShows := optionalText_shows (fun keys member _ done =>
    keys_show (by decide) (partitionNames.each keys member) done) partitionWritten
  have orderShows := optionalText_shows (fun keys member _ done =>
    order_shows (orderNames.each keys member) done) orderWritten
  have changesShow : ShowAll (if select.emitChanges then ["EMIT CHANGES"] else []) [] := by
    split
    · have changes : Shows true "EMIT CHANGES" [] [] [] := .frame (by decide)
      exact .cons changes.soften .nil
    · exact .nil
  have limitShows := optionalText_plain (fun limit _ _ done => limit_shows done) limitWritten
  have whole := ((((((((head.append joinsShow).append windowShows).append filterShows).append
    groupShows).append havingShows).append partitionShows).append orderShows).append
    changesShow).append limitShows
  simpa [clauseStrings] using whole

mutual

theorem bodyText_shows : (select : Select) → {text : String} → AllInert select.names →
    select.bodyText = .ok text → Shows false text select.strings [] []
  | ⟨registry, queries, columns, source, joins, window, filter, groupBy, having, partitionBy,
      orderBy, emitChanges, limit, fault⟩, text, inert, written => by
      rw [bodyText] at written
      obtain ⟨relation, opened, written⟩ := ok_of_bind written
      obtain ⟨named, namedWritten, written⟩ := ok_of_bind written
      obtain ⟨clauses, clausesWritten, written⟩ := ok_of_bind written
      cases written
      have queriesShow := queryTexts_show queries inert.split.1 namedWritten
      have clausesShow := clauses_show inert.split.2 (opening_source opened) clausesWritten
      rw [strings]
      refine ShowAll.join (.append ?_ clausesShow) " " (by decide)
      split
      · next none =>
          rw [List.isEmpty_iff.mp none] at queriesShow
          rw [queriesShow.literals_of_nil]
          exact .nil
      · have opening : Shows true "WITH " [] [] [] := .frame (by decide)
        simpa using ShowAll.cons (opening.append (queriesShow.join ", " (by decide))) .nil

/-- The named queries, in parentheses each. -/
theorem queryTexts_show : (queries : List (String × Select)) → {texts : List String} →
    AllInert (queryNames queries) → queryTexts queries = .ok texts →
    ShowAll texts (queryStrings queries)
  | [], texts, inert, written => by
      cases written
      exact .nil
  | (name, query) :: rest, texts, inert, written => by
      rw [queryTexts] at written
      split at written
      · cases written
      · obtain ⟨body, bodyWritten, written⟩ := ok_of_bind written
        obtain ⟨others, othersWritten, written⟩ := ok_of_bind written
        cases written
        have nameInert : IsInert name := inert _ List.mem_cons_self
        have later : AllInert (query.names ++ queryNames rest) :=
          fun other member => inert other (List.mem_cons_of_mem _ member)
        have bodyShows := query.bodyText_shows later.split.1 bodyWritten
        have opening := (Shows.inert nameInert).andThen " AS (" [')'] (by decide)
        have entry := (opening.append (bodyShows.deepen [')'])).andThen ")" [] (by decide)
        exact .cons entry.soften (queryTexts_show rest later.split.2 othersWritten)

end

end Select

end StreamQuery
