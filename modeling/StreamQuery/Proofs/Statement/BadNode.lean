import StreamQuery.Proofs.Expr.Shape
import StreamQuery.Proofs.Statement.Creation
import StreamQuery.Proofs.Statement.Nodes
import StreamQuery.Proofs.Statement.SelectScan
/-!
# One bad node fails the statement

A node has a text only if every node in it has one: no clause, operator or container leaves out the
failure of something that it is built from. So a statement with a node that has no text by itself
has no text either.
-/

namespace StreamQuery

open Text

namespace Node

def HasText (node : Node) : Prop :=
  ∃ text, node.text = .ok text

theorem hasText_or_error (node : Node) : node.HasText ∨ ∃ error, node.text = .error error := by
  cases written : node.text with
  | ok text => exact .inl ⟨text, written⟩
  | error error => exact .inr ⟨error, rfl⟩

/-! ### Literals -/

theorem hasText_literal_iff (value : Literal) :
    (literal value).HasText ↔ value.notFinite? = none := by
  unfold HasText text Literal.checkedText
  cases finite : value.notFinite? with
  | none => simp [finite]
  | some found => simp [finite]

theorem items_finite {items : List Literal} (finite : Literal.notFiniteItem? items = none) :
    ∀ item ∈ items, item.notFinite? = none := by
  induction items with
  | nil => simp
  | cons item rest induction =>
      unfold Literal.notFiniteItem? at finite
      split at finite
      · cases finite
      · next here =>
          exact List.forall_mem_cons.2 ⟨here, induction finite⟩

theorem entries_finite {entries : List (String × Literal)}
    (finite : Literal.notFiniteEntry? entries = none) :
    ∀ entry ∈ entries, entry.2.notFinite? = none := by
  induction entries with
  | nil => simp
  | cons entry rest induction =>
      unfold Literal.notFiniteEntry? at finite
      split at finite
      · cases finite
      · next here =>
          exact List.forall_mem_cons.2 ⟨here, induction finite⟩

theorem literal_children {value : Literal} (written : (literal value).HasText) :
    ∀ child ∈ (literal value).children, child.HasText := by
  rw [hasText_literal_iff] at written
  intro child inside
  cases value with
  | array items =>
      obtain ⟨item, member, rfl⟩ := List.mem_map.1 inside
      rw [Literal.notFinite?] at written
      exact (hasText_literal_iff item).2 (items_finite written item member)
  | map entries =>
      obtain ⟨entry, member, rfl⟩ := List.mem_map.1 inside
      rw [Literal.notFinite?] at written
      exact (hasText_literal_iff entry.2).2 (entries_finite written entry member)
  | _ => cases inside

/-! ### Expressions -/

theorem items_written {items : List Literal} {texts : List String}
    (written : items.mapM Literal.checkedText = .ok texts) : (literal (.array items)).HasText := by
  rw [hasText_literal_iff, Literal.notFinite?]
  have each (item : Literal) (member : item ∈ items) : item.notFinite? = none :=
    (hasText_literal_iff item).1 (ok_of_mapM written member)
  clear written
  induction items with
  | nil => rfl
  | cons item rest induction =>
      rw [Literal.notFiniteItem?, each item List.mem_cons_self]
      exact induction fun other member => each other (List.mem_cons_of_mem _ member)

theorem branchTexts_branches {branches : List (Expr × Operand)} {text : String}
    (written : branchTexts branches = .ok text) :
    ∀ branch ∈ branches, (expr branch.1).HasText ∧ (operand branch.2).HasText := by
  induction branches generalizing text with
  | nil => simp
  | cons branch rest induction =>
      obtain ⟨condition, result, others, conditionWritten, resultWritten, later, _⟩ :=
        Expr.branchTexts_cons written
      have here : (expr branch.1).HasText ∧ (operand branch.2).HasText :=
        ⟨⟨condition, conditionWritten⟩, ⟨result, resultWritten⟩⟩
      exact List.forall_mem_cons.2 ⟨here, induction later⟩

theorem expr_children {inner : Expr} {text : String} (shape : inner.Shape text) :
    ∀ child ∈ (expr inner).children, child.HasText := by
  intro child inside
  cases shape with
  | field written =>
      cases List.mem_singleton.1 inside
      exact ⟨_, written⟩
  | literal written =>
      cases List.mem_singleton.1 inside
      exact ⟨_, written⟩
  | @unary left op upper leftText leftWritten isUnary =>
      have only : child = expr left := by simpa [children, comparedOperands] using inside
      rw [only]
      exact ⟨_, leftWritten⟩
  | @set left op items upper leftText texts leftWritten isSet itemsWritten =>
      have either : child = expr left ∨ child = operand (.value (.array items)) := by
        simpa [children, comparedOperands, isSet] using inside
      rcases either with rfl | rfl
      · exact ⟨_, leftWritten⟩
      · exact items_written itemsWritten
  | @binary left op right leftText rightText leftWritten rightWritten notUnary notSet notBetween =>
      have either : child = expr left ∨ child = operand right := by
        simpa [children, comparedOperands, notSet] using inside
      rcases either with rfl | rfl
      · exact ⟨_, leftWritten⟩
      · exact ⟨_, rightWritten⟩
  | @bounded left op low high leftText lowText highText leftWritten lowWritten highWritten notSet =>
      have each : child = expr left ∨ child = operand low ∨ child = operand high := by
        simpa [children, comparedOperands, notSet] using inside
      rcases each with rfl | rfl | rfl
      · exact ⟨_, leftWritten⟩
      · exact ⟨_, lowWritten⟩
      · exact ⟨_, highWritten⟩
  | single written =>
      cases List.mem_singleton.1 inside
      exact ⟨_, written⟩
  | junction written =>
      obtain ⟨member, among, rfl⟩ := List.mem_map.1 inside
      rw [Expr.operandTexts_eq] at written
      exact ok_of_mapM written among
  | negation written =>
      cases List.mem_singleton.1 inside
      exact ⟨_, written⟩
  | arithmetic leftWritten rightWritten =>
      rcases List.mem_pair.1 inside with rfl | rfl
      · exact ⟨_, leftWritten⟩
      · exact ⟨_, rightWritten⟩
  | count => cases inside
  | aggregate written =>
      cases List.mem_singleton.1 inside
      exact ⟨_, written⟩
  | @cases branches otherwise aliasName branchText otherwiseText branchesWritten otherwiseWritten =>
      rcases List.mem_append.1 inside with inside | inside
      · obtain ⟨branch, member, inside⟩ := List.mem_flatMap.1 inside
        have each := branchTexts_branches branchesWritten branch member
        rcases List.mem_pair.1 inside with rfl | rfl
        · exact each.1
        · exact each.2
      · obtain ⟨side, present, rfl⟩ := List.mem_map.1 inside
        have given : otherwise = some side := Option.mem_toList.1 present
        rw [given] at otherwiseWritten
        exact ⟨_, otherwiseWritten⟩

/-! ### Clauses -/

theorem output_child {column : Expr} (written : (output column).HasText) :
    (expr column).HasText := by
  obtain ⟨text, written⟩ := written
  obtain ⟨body, bodyWritten, _⟩ := ok_of_bind written
  exact ⟨body, bodyWritten⟩

theorem operand_child {side : Operand} (written : (operand side).HasText) :
    ∀ child ∈ (operand side).children, child.HasText := by
  intro child inside
  obtain ⟨text, written⟩ := written
  cases side with
  | value value =>
      cases List.mem_singleton.1 inside
      rw [Node.text, Operand.text] at written
      exact ⟨text, written⟩
  | expr inner =>
      cases List.mem_singleton.1 inside
      rw [Node.text, Operand.text] at written
      exact ⟨text, written⟩

theorem window_children {frame : Window} (written : (window frame).HasText) :
    ∀ child ∈ (window frame).children, child.HasText := by
  obtain ⟨text, written⟩ := written
  obtain ⟨texts, partsWritten, _⟩ := ok_of_bind written
  intro child inside
  obtain ⟨part, member, rfl⟩ := List.mem_map.1 inside
  obtain ⟨worded, partWritten⟩ := ok_of_mapM partsWritten member
  obtain ⟨shown, shownWritten, _⟩ := ok_of_map partWritten
  exact ⟨shown, shownWritten⟩

theorem join_children {joined : Join} (written : (join joined).HasText) :
    ∀ child ∈ (join joined).children, child.HasText := by
  obtain ⟨text, written⟩ := written
  simp only [Node.text] at written
  unfold Join.text at written
  split at written
  · cases written
  · obtain ⟨sides, condition, written⟩ := ok_of_bind written
    obtain ⟨source, sourceWritten, written⟩ := ok_of_bind written
    have rest : (∀ length ∈ joined.within, (duration "JOIN" "within" length).HasText) ∧
        (reference sides.1).HasText ∧ (reference sides.2).HasText := by
      cases limited : joined.within with
      | none =>
          simp only [limited] at written
          obtain ⟨_, _, written⟩ := ok_of_bind written
          obtain ⟨left, leftWritten, written⟩ := ok_of_bind written
          obtain ⟨right, rightWritten, _⟩ := ok_of_bind written
          exact ⟨by simp, ⟨left, leftWritten⟩, ⟨right, rightWritten⟩⟩
      | some length =>
          simp only [limited] at written
          obtain ⟨_, withinWritten, written⟩ := ok_of_bind written
          obtain ⟨shown, shownWritten, _⟩ := ok_of_map withinWritten
          obtain ⟨left, leftWritten, written⟩ := ok_of_bind written
          obtain ⟨right, rightWritten, _⟩ := ok_of_bind written
          have within : (duration "JOIN" "within" length).HasText := ⟨shown, shownWritten⟩
          exact ⟨by simpa using within, ⟨left, leftWritten⟩, ⟨right, rightWritten⟩⟩
    have given : joined.condition = some sides := by
      unfold Join.conditionOf at condition
      split at condition
      · next present =>
          cases condition
          exact present
      · cases condition
    intro child inside
    simp only [children, given, List.mem_cons, List.mem_append, List.mem_map, List.mem_flatMap,
      Option.mem_toList, Option.some.injEq, exists_eq_left', List.not_mem_nil, or_false] at inside
    rcases inside with rfl | ⟨length, present, rfl⟩ | rfl | rfl
    · exact ⟨source, sourceWritten⟩
    · exact rest.1 length present
    · exact rest.2.1
    · exact rest.2.2

theorem filter_child {condition : Expr} (written : (filter condition).HasText) :
    (expr condition).HasText := by
  obtain ⟨text, written⟩ := written
  simp only [Node.text] at written
  unfold whereText at written
  split at written
  · cases written
  · obtain ⟨shown, shownWritten, _⟩ := ok_of_map written
    exact ⟨shown, shownWritten⟩

theorem having_child {condition : Expr} (written : (having condition).HasText) :
    (expr condition).HasText := by
  obtain ⟨text, written⟩ := written
  obtain ⟨shown, shownWritten, _⟩ := ok_of_map written
  exact ⟨shown, shownWritten⟩

theorem keysText_keys {clause text : String} {keys : List Expr}
    (written : keysText clause keys = .ok text) : ∀ key ∈ keys, (expr key).HasText := by
  unfold keysText at written
  split at written
  · cases written
  · obtain ⟨texts, textsWritten, _⟩ := ok_of_bind written
    intro key member
    obtain ⟨shown, keyWritten⟩ := ok_of_mapM textsWritten member
    unfold keyText at keyWritten
    split at keyWritten
    · cases keyWritten
    · exact ⟨shown, keyWritten⟩

theorem orderByText_keys {text : String} {keys : List (Expr × SortOrder)}
    (written : orderByText keys = .ok text) : ∀ key ∈ keys, (expr key.1).HasText := by
  unfold orderByText at written
  split at written
  · cases written
  · obtain ⟨texts, textsWritten, _⟩ := ok_of_bind written
    intro key member
    obtain ⟨ordered, keyWritten⟩ := ok_of_mapM textsWritten member
    obtain ⟨shown, shownWritten, _⟩ := ok_of_map keyWritten
    exact ⟨shown, shownWritten⟩

/-! ### Queries and statements -/

theorem optionalText_part {α : Type} {write : α → Written} {part : Option α} {texts : List String}
    (written : Select.optionalText write part = .ok texts) {item : α} (present : part = some item) :
    ∃ text, write item = .ok text := by
  rw [optionalText_eq] at written
  exact ok_of_mapM written (Option.mem_toList.2 present)

theorem clauses_have {select : Select} {source : Relation} {texts : List String}
    (given : select.source = some source) (written : select.clauseTexts source = .ok texts) :
    ∀ node ∈ clauses select, node.HasText := by
  obtain ⟨columnsWritten, sourceWritten, joinsWritten, windowWritten, filterWritten, groupWritten,
    havingWritten, partitionWritten, orderWritten, limitWritten⟩ :=
    Select.clauses_of_written written
  intro node inside
  simp only [clauses, List.mem_append, List.mem_map, Option.mem_toList] at inside
  rcases inside with ⟨column, member, rfl⟩ | ⟨relation, present, rfl⟩ | ⟨joined, member, rfl⟩ |
    ⟨frame, present, rfl⟩ | ⟨condition, present, rfl⟩ | ⟨keys, present, rfl⟩ |
    ⟨condition, present, rfl⟩ | ⟨keys, present, rfl⟩ | ⟨keys, present, rfl⟩ | ⟨count, present, rfl⟩
  · exact ok_of_mapM columnsWritten member
  · rw [given] at present
    cases present
    exact ⟨_, sourceWritten⟩
  · exact ok_of_mapM joinsWritten member
  · exact optionalText_part windowWritten present
  · exact optionalText_part filterWritten present
  · exact optionalText_part groupWritten present
  · exact optionalText_part havingWritten present
  · exact optionalText_part partitionWritten present
  · exact optionalText_part orderWritten present
  · exact optionalText_part limitWritten present

theorem queryTexts_queries {queries : List (String × Select)} {texts : List String}
    (written : Select.queryTexts queries = .ok texts) :
    ∀ named ∈ queries, (namedQuery named.1 named.2).HasText := by
  induction queries generalizing texts with
  | nil => simp
  | cons named rest induction =>
      unfold Select.queryTexts at written
      split at written
      · cases written
      · next nameGiven =>
          obtain ⟨body, bodyWritten, written⟩ := ok_of_bind written
          obtain ⟨others, later, _⟩ := ok_of_bind written
          have here : (namedQuery named.1 named.2).HasText := by
            refine ⟨named.1 ++ " AS (" ++ body ++ ")", ?_⟩
            rw [Node.text, if_neg nameGiven, bodyWritten]
            rfl
          exact List.forall_mem_cons.2 ⟨here, induction later⟩

theorem query_children {select : Select} (written : (query select).HasText) :
    ∀ child ∈ (query select).children, child.HasText := by
  obtain ⟨text, written⟩ := written
  simp only [Node.text] at written
  rw [Select.bodyText_eq] at written
  obtain ⟨source, opened, written⟩ := ok_of_bind written
  obtain ⟨queries, queriesWritten, written⟩ := ok_of_bind written
  obtain ⟨clauseTexts, clausesWritten, _⟩ := ok_of_bind written
  intro child inside
  rcases List.mem_append.1 inside with inside | inside
  · obtain ⟨named, member, rfl⟩ := List.mem_map.1 inside
    exact queryTexts_queries queriesWritten named member
  · exact clauses_have (Select.opening_source opened) clausesWritten child inside

theorem namedQuery_child {name : String} {select : Select}
    (written : (namedQuery name select).HasText) : (query select).HasText := by
  obtain ⟨text, written⟩ := written
  simp only [Node.text] at written
  split at written
  · cases written
  · obtain ⟨body, bodyWritten, _⟩ := ok_of_map written
    exact ⟨body, bodyWritten⟩

theorem entry_child {column : String} {value : Literal} (written : (entry column value).HasText) :
    (literal value).HasText := by
  obtain ⟨text, written⟩ := written
  simp only [Node.text] at written
  split at written
  · cases written
  · exact ⟨text, written⟩

theorem columnTexts_definitions {create : Create} {first : Option Column} {columns : List Column}
    {texts : List String} (written : create.columnTexts first columns = .ok texts) :
    ∀ column ∈ columns, (definition column).HasText := by
  induction columns generalizing first texts with
  | nil => simp
  | cons column rest induction =>
      unfold Create.columnTexts at written
      split at written
      · cases written
      · next nameGiven =>
          have here : (definition column).HasText := by
            rw [HasText, Node.text, if_neg nameGiven]
            exact ⟨_, rfl⟩
          refine List.forall_mem_cons.2 ⟨here, ?_⟩
          split at written
          · split at written
            · cases written
            · obtain ⟨others, later, _⟩ := ok_of_map written
              exact induction later
          · obtain ⟨others, later, _⟩ := ok_of_map written
            exact induction later

theorem create_children {create : Create} (written : (statement (.create create)).HasText) :
    ∀ child ∈ (statement (.create create)).children, child.HasText := by
  obtain ⟨_, _, _, ⟨clause, clauseWritten⟩, content⟩ := create.written_iff.1 written
  have properties : (properties create.metadata).HasText := by
    rw [HasText, Node.text, clauseWritten]
    exact ⟨_, rfl⟩
  refine List.forall_mem_cons.2 ⟨properties, ?_⟩
  intro child inside
  rcases content with ⟨sourceless, _, texts, textsWritten⟩ | ⟨select, sourced, noColumns, body⟩
  · rw [sourceless, Option.toList_none, List.map_nil, List.append_nil] at inside
    obtain ⟨column, member, rfl⟩ := List.mem_map.1 inside
    exact columnTexts_definitions textsWritten column member
  · rw [sourced, noColumns, List.map_nil, List.nil_append] at inside
    cases List.mem_singleton.1 inside
    exact body

theorem valueTexts_entries {row : List (String × Literal)} {texts : List String}
    (written : Insert.valueTexts row = .ok texts) :
    ∀ value ∈ row, (entry value.1 value.2).HasText := by
  induction row generalizing texts with
  | nil => simp
  | cons value rest induction =>
      unfold Insert.valueTexts at written
      split at written
      · cases written
      · next nameGiven =>
          obtain ⟨text, valueWritten, written⟩ := ok_of_bind written
          obtain ⟨others, later, _⟩ := ok_of_bind written
          have here : (entry value.1 value.2).HasText := by
            rw [HasText, Node.text, if_neg nameGiven]
            exact ⟨text, valueWritten⟩
          exact List.forall_mem_cons.2 ⟨here, induction later⟩

theorem insert_children {insert : Insert} (written : (statement (.insert insert)).HasText) :
    ∀ child ∈ (statement (.insert insert)).children, child.HasText := by
  obtain ⟨text, written⟩ := written
  simp only [Node.text, Statement.text] at written
  unfold Insert.text at written
  intro child inside
  split at written
  · cases written
  · split at written
    · cases written
    · split at written
      · cases written
      · cases written
      · next select sourced noRow =>
          obtain ⟨body, bodyWritten, _⟩ := ok_of_map written
          simp only [children, sourced, noRow] at inside
          cases List.mem_singleton.1 inside
          exact ⟨body, bodyWritten⟩
      · next sourceless _ =>
          obtain ⟨values, valuesWritten, _⟩ := ok_of_bind written
          simp only [children, sourceless, Option.toList_none, List.map_nil, List.append_nil]
            at inside
          obtain ⟨value, member, rfl⟩ := List.mem_map.1 inside
          exact valueTexts_entries valuesWritten value member

theorem select_child {select : Select} (written : (statement (.select select)).HasText) :
    (query select).HasText := by
  obtain ⟨text, written⟩ := written
  obtain ⟨body, bodyWritten, _⟩ := ok_of_map written
  exact ⟨body, bodyWritten⟩

/-- A node with a text is built from nodes with a text. -/
theorem hasText_child {node child : Node} (written : node.HasText)
    (inside : child ∈ node.children) : child.HasText := by
  cases node with
  | literal value => exact literal_children written child inside
  | operand side => exact operand_child written child inside
  | expr inner =>
      obtain ⟨text, written⟩ := written
      exact expr_children (Expr.shape written) child inside
  | output column =>
      cases List.mem_singleton.1 inside
      exact output_child written
  | window frame => exact window_children written child inside
  | join joined => exact join_children written child inside
  | filter condition =>
      cases List.mem_singleton.1 inside
      exact filter_child written
  | having condition =>
      cases List.mem_singleton.1 inside
      exact having_child written
  | groupBy keys =>
      obtain ⟨text, written⟩ := written
      obtain ⟨key, member, rfl⟩ := List.mem_map.1 inside
      exact keysText_keys written key member
  | partitionBy keys =>
      obtain ⟨text, written⟩ := written
      obtain ⟨key, member, rfl⟩ := List.mem_map.1 inside
      exact keysText_keys written key member
  | orderBy keys =>
      obtain ⟨text, written⟩ := written
      obtain ⟨key, member, rfl⟩ := List.mem_map.1 inside
      exact orderByText_keys written key member
  | query select => exact query_children written child inside
  | namedQuery name select =>
      cases List.mem_singleton.1 inside
      exact namedQuery_child written
  | entry column value =>
      cases List.mem_singleton.1 inside
      exact entry_child written
  | statement whole =>
      cases whole with
      | select select =>
          cases List.mem_singleton.1 inside
          exact select_child written
      | create create => exact create_children written child inside
      | insert insert => exact insert_children written child inside
      | drop _ | describe _ | list _ | terminate _ => cases inside
  | reference _ | duration _ _ _ | relation _ | limit _ | properties _ | definition _ =>
      cases inside

theorem hasText_part {node part : Node} (written : node.HasText) (inside : node.Holds part) :
    part.HasText := by
  induction inside with
  | refl => exact written
  | tail _ last induction => exact hasText_child induction last

end Node

namespace Statement

/-- Whatever a statement holds, at any depth and in any clause: if it has no text by itself, the
statement has none. -/
theorem bad_node_fails (statement : Statement) {part : Node} {error : StatementError}
    (inside : (Node.statement statement).Holds part) (bad : part.text = .error error) :
    ∃ error, statement.text = .error error := by
  rcases Node.hasText_or_error (.statement statement) with written | failed
  · obtain ⟨text, good⟩ := Node.hasText_part written inside
    rw [bad] at good
    cases good
  · exact failed

/-- A row source whose named query compares with a case distinction that holds an infinite double
inside a map inside an array. -/
def overflowingCopy : Statement :=
  let unbounded : Literal := .array [.map [("most", .double (.infinity false))]]
  let bound : Expr := .cases [(.field ⟨none, "id", none⟩, .value unbounded)] none (some "bound")
  let recent : Select :=
    { Select.empty with
      columns := [.field ⟨none, "id", none⟩]
      source := some ⟨"orders", none, none⟩
      filter := some (.comparison (.field ⟨none, "total", none⟩) .less (some (.expr bound)) none) }
  let all : Select :=
    { Select.empty with
      queries := [("recent", recent)]
      columns := [.field ⟨none, "id", none⟩]
      source := some ⟨"recent", none, none⟩ }
  .insert { Insert.start "copies" with source := some all }

/-- The path to the infinite double: source, named query, its query, filter, condition, right-hand
side, case distinction, result, array, map, value. -/
theorem overflowing_copy_fails :
    (Node.statement overflowingCopy).Holds (.literal (.double (.infinity false))) ∧
      (∃ error, (Node.literal (.double (.infinity false))).text = .error error) ∧
      ∃ error, overflowingCopy.text = .error error := by
  have inside : (Node.statement overflowingCopy).Holds (.literal (.double (.infinity false))) :=
    Node.holds_of_at? [0, 0, 0, 2, 0, 1, 0, 1, 0, 0, 0] rfl
  have bad : (Node.literal (.double (.infinity false))).text =
      .error (.invalidOperand "literal" (.noLiteralForm "inf")) := by
    rfl
  exact ⟨inside, ⟨_, bad⟩, bad_node_fails overflowingCopy inside bad⟩

end Statement

end StreamQuery
