import StreamQuery.Proofs.Expr.Reader
/-!
# Texts of expressions read back

The text of an expression over plain names and without doubles is read back as what is left of the
expression in it.
-/

namespace StreamQuery

open Filter ColumnType Text

/-! ### Plain names and expressions -/

/-- Letters, digits and the underscore; all characters beyond ASCII may count as letters. -/
def isIdentifierChar (c : Char) : Bool :=
  c.isAlphanum || c = '_' || 128 ≤ c.toNat

/-- The keywords that stand where a name can. -/
def reservedWords : List String :=
  ["NULL", "TRUE", "FALSE", "NOT", "CASE"]

def isIdentifier (name : String) : Bool :=
  name.toList.head?.any (fun c => isIdentifierChar c && !c.isDigit) &&
    name.toList.all isIdentifierChar && !reservedWords.contains name

def FieldRef.isPlain (reference : FieldRef) : Bool :=
  reference.qualifier.all isIdentifier && isIdentifier reference.column

def Operand.isDoubleFree : Operand → Bool
  | .value literal => literal.isDoubleFree
  | .expr _ => true

/-- Plain names, literals without doubles, and an upper bound only where one belongs. -/
def Expr.isPlainNode : Expr → Bool
  | .field reference => reference.isPlain
  | .literal value => value.isDoubleFree
  | .comparison _ op right upper =>
      right.all Operand.isDoubleFree && upper.all Operand.isDoubleFree &&
        (upper.isNone || op = .between)
  | .arithmetic _ _ right _ => right.isDoubleFree
  | .cases branches otherwise _ =>
      branches.all (fun branch => branch.2.isDoubleFree) && otherwise.all Operand.isDoubleFree
  | _ => true

def Expr.Plain (expr : Expr) : Prop :=
  ∀ part, expr.Contains part → part.isPlainNode = true

theorem Expr.Plain.part {whole part : Expr} (plain : whole.Plain) (inside : part ∈ whole.parts) :
    part.Plain :=
  fun inner within => plain inner (.head inside within)

theorem Expr.plain_of_parts {whole : Expr} (node : whole.isPlainNode = true)
    (parts : ∀ part ∈ whole.parts, part.Plain) : whole.Plain := by
  intro inner within
  rcases Relation.ReflTransGen.cases_head within with rfl | ⟨part, inside, within⟩
  · exact node
  · exact parts part inside inner within

theorem identifierChar_ne {c mark : Char} (plain : isIdentifierChar c = true)
    (marks : isIdentifierChar mark = false) : c ≠ mark := by
  rintro rfl
  rw [plain] at marks
  cases marks

theorem identifierChar_word {c : Char} (plain : isIdentifierChar c = true) :
    isWordChar c = true := by
  have other {mark : Char} (marks : isIdentifierChar mark = false) := identifierChar_ne plain marks
  simp only [isWordChar, Bool.not_eq_true', List.contains_eq_mem, decide_eq_false_iff_not,
    List.mem_cons, List.not_mem_nil, or_false, not_or]
  exact ⟨other (by decide), other (by decide), other (by decide), other (by decide),
    other (by decide), other (by decide), other (by decide), other (by decide)⟩

/-- What is known of an identifier, character by character. -/
structure IsIdentifier (chars : List Char) : Prop where
  first : ∃ c rest, chars = c :: rest ∧ isIdentifierChar c = true ∧ c.isDigit = false
  all : ∀ c ∈ chars, isWordChar c = true
  unreserved : ∀ reserved ∈ reservedWords, chars ≠ reserved.toList

theorem isIdentifier_chars {name : String} (identifier : isIdentifier name = true) :
    IsIdentifier name.toList := by
  simp only [isIdentifier, Bool.and_eq_true, Bool.not_eq_true'] at identifier
  obtain ⟨⟨first, all⟩, unreserved⟩ := identifier
  constructor
  · cases chars : name.toList with
    | nil =>
        rw [chars] at first
        cases first
    | cons c rest =>
        rw [chars] at first
        have both : isIdentifierChar c = true ∧ c.isDigit = false := by simpa using first
        exact ⟨c, rest, rfl, both.1, both.2⟩
  · intro c member
    exact identifierChar_word (List.all_eq_true.1 all c member)
  · intro reserved member same
    have found : reservedWords.contains name = true := by
      rw [String.toList_inj.1 same]
      simpa using member
    rw [unreserved] at found
    cases found

namespace IsIdentifier

variable {chars : List Char} (identifier : IsIdentifier chars)

include identifier

theorem some : chars ≠ [] := by
  obtain ⟨c, rest, same, _⟩ := identifier.first
  rw [same]
  exact List.cons_ne_nil _ _

theorem starts : Literal.Starts chars := by
  obtain ⟨c, rest, same, plain, _⟩ := identifier.first
  refine ⟨c, rest, same, ?_⟩
  have other {mark : Char} (marks : isIdentifierChar mark = false) := identifierChar_ne plain marks
  simp only [List.mem_cons, List.not_mem_nil, or_false, not_or]
  exact ⟨other (by decide), other (by decide), other (by decide), other (by decide)⟩

theorem unread : Literal.readWordLiteral? chars = none := by
  obtain ⟨c, rest, same, plain, notDigit⟩ := identifier.first
  have number : readInt? chars = none := by
    have digits : readNat? (c :: rest) = none := by simp [readNat?, notDigit]
    rw [same]
    unfold readInt?
    split
    · next sign =>
        cases sign
        exact absurd plain (by decide)
    · next sign =>
        cases sign
        exact absurd plain (by decide)
    · rw [digits]
      rfl
  have unreserved := identifier.unreserved
  rw [Literal.readWordLiteral?, if_neg (unreserved "NULL" (by decide)),
    if_neg (unreserved "TRUE" (by decide)), if_neg (unreserved "FALSE" (by decide)), number]
  rfl

end IsIdentifier

namespace Expr

/-! ### The first character -/

theorem starts_append {text : List Char} (starts : Literal.Starts text) (rest : List Char) :
    Literal.Starts (text ++ rest) := by
  obtain ⟨c, others, same, plain⟩ := starts
  exact ⟨c, others ++ rest, by rw [same]; rfl, plain⟩

theorem display_starts {reference : FieldRef} (plain : reference.isPlain = true) :
    Literal.Starts reference.display.toList := by
  simp only [FieldRef.isPlain, Bool.and_eq_true] at plain
  unfold FieldRef.display
  cases qualified : reference.qualifier with
  | none => exact (isIdentifier_chars plain.2).starts
  | some qualifier =>
      have identifier : isIdentifier qualifier = true := by simpa [qualified] using plain.1
      simp only [String.toList_append, List.append_assoc]
      exact starts_append (isIdentifier_chars identifier).starts _

def aggregateNames : List String :=
  ["COUNT", "SUM", "AVG", "MIN", "MAX", "COLLECT_LIST", "COLLECT_SET", "LATEST_BY_OFFSET",
    "EARLIEST_BY_OFFSET", "TOPK", "TOPKDISTINCT", "HISTOGRAM"]

theorem name_known (function : AggregateFunction) : function.name ∈ aggregateNames := by
  cases function <;> simp [AggregateFunction.name, aggregateNames]

theorem name_starts (function : AggregateFunction) : Literal.Starts function.name.toList := by
  have each : ∀ name ∈ aggregateNames,
      name.toList.head?.any (fun c => !List.contains [' ', '*', ')', ']'] c) = true := by decide
  exact Literal.starts_of_head (each _ (name_known function))

theorem callText_starts (function : AggregateFunction) (argument : String) :
    Literal.Starts (function.callText argument).toList := by
  unfold AggregateFunction.callText
  split
  · simp only [String.toList_append, List.append_assoc]
    exact starts_append (name_starts function) _
  · simp only [String.toList_append, List.append_assoc]
    exact starts_append (name_starts function) _

theorem operandText_starts {expr : Expr} (plain : expr.Plain) {text : String}
    (written : expr.operandText = .ok text) : Literal.Starts text.toList := by
  induction expr using induction_on_parts generalizing text with
  | step whole induction =>
      have node := plain whole .refl
      have leading {part : Expr} (inside : part ∈ whole.parts) {partText : String}
          (partWritten : part.operandText = .ok partText) : Literal.Starts partText.toList :=
        induction part inside (plain.part inside) partWritten
      cases shape written with
      | field written => exact display_starts node
      | literal written => exact Literal.text_starts node
      | unary leftWritten =>
          simp only [String.toList_append, List.append_assoc]
          exact starts_append (leading List.mem_cons_self leftWritten) _
      | set leftWritten =>
          simp only [String.toList_append, List.append_assoc]
          exact starts_append (leading List.mem_cons_self leftWritten) _
      | binary leftWritten =>
          simp only [String.toList_append, List.append_assoc]
          exact starts_append (leading List.mem_cons_self leftWritten) _
      | bounded leftWritten =>
          simp only [String.toList_append, List.append_assoc]
          exact starts_append (leading List.mem_cons_self leftWritten) _
      | single written => exact leading List.mem_cons_self written
      | junction =>
          simp only [String.toList_append, List.append_assoc]
          exact Literal.starts_cons (by decide) _
      | negation =>
          simp only [String.toList_append, List.append_assoc]
          exact Literal.starts_cons (by decide) _
      | arithmetic =>
          simp only [String.toList_append, List.append_assoc]
          exact Literal.starts_cons (by decide) _
      | count => exact callText_starts _ _
      | aggregate => exact callText_starts _ _
      | cases =>
          simp only [String.toList_append, List.append_assoc]
          exact Literal.starts_cons (by decide) _

/-! ### Atoms -/

theorem ReadsAs.literal {value : Literal} (free : value.isDoubleFree = true) :
    ReadsAs value.text (.literal value) := by
  apply ReadsAs.of_atom rfl
  intro rest stops
  filter_upwards [Literal.text_read value free rest stops] with n read
  unfold readAtom
  rw [read]

theorem readAtom_word {expr : Reader Expr} {fuel : Nat} {chars rest : List Char}
    (all : ∀ c ∈ chars, isWordChar c = true) (ends : ∀ c ∈ rest.head?, isWordChar c = false)
    (some : chars ≠ []) (unread : Literal.readWordLiteral? chars = none)
    (apart : chars ∉ ["TO_BYTES".toList, "ARRAY".toList, "MAP".toList] ∨
      ∀ c ∈ rest.head?, c ∉ ['(', '[']) :
    readAtom expr fuel (chars ++ rest) = readNamed expr fuel chars rest := by
  have unquoted := Literal.unquoted_of_word all some rest
  have notLiteral := Literal.readLiteral_other all ends unquoted unread apart fuel
  have notOpening : (chars ++ rest).head? ≠ .some '(' := by
    cases chars with
    | nil => exact absurd rfl some
    | cons c chars =>
        intro head
        cases head
        exact absurd (all '(' List.mem_cons_self) (by decide)
  unfold readAtom
  rw [notLiteral]
  simp only
  split
  · next same =>
      rw [same] at notOpening
      exact absurd rfl notOpening
  · next same =>
      rw [same] at notOpening
      exact absurd rfl notOpening
  · rw [word_append all ends, afterWord_append all ends]

theorem ReadsAs.field {reference : FieldRef} (plain : reference.isPlain = true) :
    ReadsAs reference.display (.field { reference with aliasName := none }) := by
  simp only [FieldRef.isPlain, Bool.and_eq_true] at plain
  have column := isIdentifier_chars plain.2
  apply ReadsAs.of_atom rfl
  intro rest stops
  apply Eventually.of_forall
  intro n
  unfold FieldRef.display
  cases qualified : reference.qualifier with
  | none =>
      have apart : ∀ c ∈ rest.head?, c ∉ ['(', '['] := by
        intro c head
        have among := stops c head
        simp only [List.mem_cons, List.not_mem_nil, or_false] at among
        rcases among with rfl | rfl | rfl | rfl <;> decide
      rw [readAtom_word column.all stops.notWord column.some column.unread (.inr apart)]
      unfold readNamed
      rw [if_neg (column.unreserved "NOT" (by decide)), if_neg (column.unreserved "CASE" (by decide))]
      split
      · exact absurd (stops '(' rfl) (by decide)
      · exact absurd (stops '.' rfl) (by decide)
      · rw [String.ofList_toList]
  | some qualifier =>
      have identifier : isIdentifier qualifier = true := by simpa [qualified] using plain.1
      have owner := isIdentifier_chars identifier
      have chars : (qualifier ++ "." ++ reference.column).toList ++ rest =
          qualifier.toList ++ (".".toList ++ (reference.column.toList ++ rest)) := by simp
      have ends := notWord_append "." (by decide)
      have apart : ∀ c ∈ (".".toList ++ (reference.column.toList ++ rest)).head?,
          c ∉ ['(', '['] := by
        intro c head
        cases head
        decide
      rw [chars, readAtom_word owner.all (ends _) owner.some owner.unread (.inr apart)]
      unfold readNamed
      rw [if_neg (owner.unreserved "NOT" (by decide)), if_neg (owner.unreserved "CASE" (by decide))]
      have columnRead := word_append column.all stops.notWord
      have columnAfter := afterWord_append column.all stops.notWord
      show some (Expr.field ⟨some (String.ofList qualifier.toList),
        String.ofList (word (reference.column.toList ++ rest)), none⟩,
        afterWord (reference.column.toList ++ rest)) = _
      rw [columnRead, columnAfter, String.ofList_toList, String.ofList_toList]

theorem ReadsAs.negation {text : String} {inner : Expr} (reads : ReadsAs text inner) :
    ReadsAs ("NOT (" ++ text ++ ")") (.negation inner) := by
  apply ReadsAs.of_atom rfl
  intro rest stops
  have ends : Ends (")".toList ++ rest) := ⟨stops_cons (by decide) _, rfl⟩
  filter_upwards [reads.whole _ ends] with n read
  have chars : ("NOT (" ++ text ++ ")").toList ++ rest =
      "NOT".toList ++ (" (".toList ++ (text.toList ++ (")".toList ++ rest))) := by simp
  have behind := notWord_append " (" (by decide)
  rw [chars, readAtom_word (List.all_eq_true.mp (by decide)) (behind _) (by decide) rfl
    (.inl (by decide))]
  unfold readNamed readNegation
  rw [if_pos rfl, after?_append]
  simp only [Option.bind_eq_bind, Option.bind_some, read, after?_append]
  rfl

/-- The text of an atom that opens with a parenthesis is no literal. -/
theorem parenthesis_other (rest : List Char) (fuel : Nat) :
    Literal.readLiteral fuel ('(' :: rest) = none := by
  have ends : ∀ c ∈ ('(' :: rest).head?, isWordChar c = false := by
    intro c head
    cases head
    decide
  have unquoted : ([] ++ '(' :: rest).head? ≠ some '\'' := by simp
  show Literal.readLiteral fuel ([] ++ '(' :: rest) = none
  exact Literal.readLiteral_other (by simp) ends unquoted rfl (.inl (by decide)) fuel

theorem ReadsAs.arithmetic {leftText rightText : String} {left right : Expr}
    (leftReads : ReadsAs leftText left) (op : ArithmeticOp) (rightReads : ReadsAs rightText right) :
    ReadsAs ("( " ++ leftText ++ op.mark ++ rightText ++ " )")
      (.arithmetic left op right.asOperand none) := by
  apply ReadsAs.of_atom rfl
  intro rest stops
  have between (rest : List Char) : Ends (op.mark.toList ++ rest) := by
    cases op <;> exact ⟨stops_cons (by decide) _, rfl⟩
  have behind : Ends (" )".toList ++ rest) := ⟨stops_cons (by decide) _, rfl⟩
  have leftWhole := leftReads.whole _ (between (rightText.toList ++ (" )".toList ++ rest)))
  filter_upwards [leftWhole, rightReads.whole _ behind] with n leftRead rightRead
  have chars : ("( " ++ leftText ++ op.mark ++ rightText ++ " )").toList ++ rest =
      '(' :: ' ' :: (leftText.toList ++ (op.mark.toList ++
        (rightText.toList ++ (" )".toList ++ rest)))) := by
    simp
  unfold readAtom
  rw [chars, parenthesis_other]
  simp only [readArithmetic, leftRead, Option.bind_eq_bind, Option.bind_some, arithmeticOp?_mark,
    rightRead, after?_append]
  rfl

theorem connective_ends (op : Connective) (rest : List Char) : Ends (op.mark.toList ++ rest) := by
  cases op <;> exact ⟨stops_cons (by decide) _, rfl⟩

theorem closing_ends (rest : List Char) : Ends (')' :: rest) :=
  ⟨stops_cons (by decide) _, rfl⟩

theorem ReadsAs.junction {op : Connective} {texts : List String} {members : List Expr}
    (all : List.Forall₂ (ReadsTo readExpr Ends) texts members) (several : 2 ≤ texts.length)
    (starts : ∀ text ∈ texts, Literal.Starts text.toList) :
    ReadsAs ("(" ++ joinWith op.mark texts ++ ")") (.junction op members) := by
  apply ReadsAs.of_atom rfl
  intro rest stops
  cases all with
  | nil => simp at several
  | @cons firstText first texts members here later =>
      cases later with
      | nil => simp at several
      | @cons nextText next texts members nextHere later =>
          have apart (rest : List Char) : after? op.mark.toList (')' :: rest) = none := by
            cases op <;> rfl
          have others := readMany_joined op.mark ')' (.cons nextHere later) (connective_ends op)
            closing_ends apart (List.cons_ne_nil _ _) rest
          have firstRead := here _ (connective_ends op
            ((joinWith op.mark (nextText :: texts)).toList ++ ')' :: rest))
          have enough := eventually_ge_atTop (nextText :: texts).length
          filter_upwards [firstRead, others, enough] with n firstRead others enough
          have chars : ("(" ++ joinWith op.mark (firstText :: nextText :: texts) ++ ")").toList ++
              rest = '(' :: (firstText.toList ++ (op.mark.toList ++
                ((joinWith op.mark (nextText :: texts)).toList ++ ')' :: rest))) := by
            simp [joinWith]
          obtain ⟨c, behind, firstChars, plain⟩ := starts firstText List.mem_cons_self
          have notBlank : c ≠ ' ' := by
            rintro rfl
            simp at plain
          have junction (text : List Char) :
              readAtom (readExpr n) n ('(' :: c :: text) =
                readJunction (readExpr n) n (c :: text) := by
            unfold readAtom
            rw [parenthesis_other]
            simp only
            split
            · next same =>
                cases same
                exact absurd rfl notBlank
            · next same =>
                cases same
                rfl
            · next other =>
                exact absurd rfl (other (c :: text))
          have read : readJunction (readExpr n) n (firstText.toList ++ (op.mark.toList ++
              ((joinWith op.mark (nextText :: texts)).toList ++ ')' :: rest))) =
              some (.junction op (first :: next :: members), rest) := by
            unfold readJunction
            simp only [firstRead, Option.bind_eq_bind, Option.bind_some, connective?_mark,
              others n enough]
            rfl
          rw [chars]
          rw [firstChars] at read ⊢
          exact (junction _).trans read

/-! ### Aggregates -/

theorem function?_name (function : AggregateFunction) :
    function? function.name.toList function.parameter? = some function := by
  cases function <;> simp [function?, AggregateFunction.name, AggregateFunction.parameter?,
    AggregateFunction.all]

/-- What stands behind the argument of an aggregate. -/
def parameterText (function : AggregateFunction) : String :=
  match function.parameter? with
  | some value => ", " ++ toString value ++ ")"
  | none => ")"

theorem callText_parts (function : AggregateFunction) (argument : String) :
    function.callText argument = function.name ++ "(" ++ argument ++ parameterText function := by
  cases given : function.parameter? with
  | none => simp [AggregateFunction.callText, parameterText, given]
  | some value =>
      simp [AggregateFunction.callText, parameterText, given, ← String.toList_inj]

theorem readParameter_text (function : AggregateFunction) (rest : List Char) :
    readParameter ((parameterText function).toList ++ rest) = some (function.parameter?, rest) := by
  unfold parameterText
  split
  · next value parameter =>
      have chars : (", " ++ toString value ++ ")").toList ++ rest =
          ", ".toList ++ ((toString value).toList ++ (")".toList ++ rest)) := by simp
      have open_ : after? ")".toList (", ".toList ++ ((toString value).toList ++
          (")".toList ++ rest))) = none := rfl
      have ends := notWord_append ")" (by decide) rest
      unfold readParameter
      rw [chars, open_]
      simp only [after?_append, Option.bind_eq_bind, Option.bind_some,
        word_append (int_word value) ends, afterWord_append (int_word value) ends,
        readInt?_toString, parameter]
      rfl
  · next parameter =>
      have closed : after? ")".toList (")".toList ++ rest) = some rest := after?_append _ _
      unfold readParameter
      rw [closed, parameter]

theorem parameter_ends (function : AggregateFunction) (rest : List Char) :
    Ends ((parameterText function).toList ++ rest) := by
  unfold parameterText
  split
  · simp only [String.toList_append, List.append_assoc]
    exact ⟨stops_cons (by decide) _, rfl⟩
  · exact ⟨stops_cons (by decide) _, rfl⟩

theorem readAtom_call {function : AggregateFunction} {argument : String} {read : Reader Expr}
    {fuel : Nat} {found : Option Expr} {rest : List Char}
    (argumentRead : readArgument read
        (argument.toList ++ ((parameterText function).toList ++ rest)) =
      some (found, (parameterText function).toList ++ rest)) :
    readAtom read fuel ((function.callText argument).toList ++ rest) =
      some (.aggregate function found none, rest) := by
  have chars : (function.callText argument).toList ++ rest =
      function.name.toList ++ ("(".toList ++
        (argument.toList ++ ((parameterText function).toList ++ rest))) := by
    rw [callText_parts]
    simp
  have word : ∀ name ∈ aggregateNames, name.toList.all isWordChar = true := by decide
  have some : ∀ name ∈ aggregateNames, name.toList ≠ [] := by decide
  have unread : ∀ name ∈ aggregateNames, Literal.readWordLiteral? name.toList = none := by decide
  have apart : ∀ name ∈ aggregateNames,
      name.toList ∉ ["TO_BYTES".toList, "ARRAY".toList, "MAP".toList] := by decide
  have notNot : ∀ name ∈ aggregateNames, name.toList ≠ "NOT".toList := by decide
  have notCase : ∀ name ∈ aggregateNames, name.toList ≠ "CASE".toList := by decide
  have known := name_known function
  have ends := notWord_append "(" (by decide)
  rw [chars, readAtom_word (List.all_eq_true.mp (word _ known)) (ends _) (some _ known)
    (unread _ known) (.inl (apart _ known))]
  unfold readNamed
  rw [if_neg (notNot _ known), if_neg (notCase _ known)]
  show readAggregate read function.name.toList
    (argument.toList ++ ((parameterText function).toList ++ rest)) = _
  unfold readAggregate
  simp only [argumentRead, Option.bind_eq_bind, Option.bind_some, readParameter_text,
    function?_name]
  rfl

theorem ReadsAs.count (function : AggregateFunction) :
    ReadsAs (function.callText "*") (.aggregate function none none) := by
  apply ReadsAs.of_atom rfl
  intro rest stops
  apply Eventually.of_forall
  intro n
  exact readAtom_call rfl

theorem ReadsAs.aggregate {function : AggregateFunction} {text : String} {argument : Expr}
    (reads : ReadsAs text argument) (starts : Literal.Starts text.toList) :
    ReadsAs (function.callText text) (.aggregate function (some argument) none) := by
  apply ReadsAs.of_atom rfl
  intro rest stops
  filter_upwards [reads.whole _ (parameter_ends function rest)] with n read
  apply readAtom_call
  obtain ⟨c, behind, chars, plain⟩ := starts
  have notStar : '*' ≠ c := by
    rintro rfl
    simp at plain
  unfold readArgument
  have other : after? "*".toList (text.toList ++ ((parameterText function).toList ++ rest)) =
      none := by
    rw [chars]
    show (if '*' = c then _ else _) = none
    rw [if_neg notStar]
  rw [other, read]
  rfl

/-! ### Case distinctions -/

/-- A branch as it is read. -/
def branchReading (branch : Expr × Operand) : Expr × Operand :=
  (branch.1.reading, branch.2.asExpr.reading.asOperand)

theorem branchTexts_ends {branches : List (Expr × Operand)} {text : String}
    (written : branchTexts branches = .ok text) {rest : List Char} (ends : Ends rest) :
    Ends (text.toList ++ rest) := by
  cases branches with
  | nil =>
      cases written
      exact ends
  | cons branch branches =>
      obtain ⟨condition, result, others, _, _, _, rfl⟩ := branchTexts_cons written
      simp only [String.toList_append, List.append_assoc]
      exact ⟨stops_cons (by decide) _, rfl⟩

theorem branches_read {branches : List (Expr × Operand)} {text : String}
    (written : branchTexts branches = .ok text)
    (conditions : ∀ branch ∈ branches, ∀ {text}, branch.1.operandText = .ok text →
      ReadsAs text branch.1.reading)
    (results : ∀ branch ∈ branches, ∀ {text}, branch.2.text = .ok text →
      ReadsAs text branch.2.asExpr.reading)
    {rest : List Char} (ends : Ends rest) (last : after? " WHEN ".toList rest = none) :
    ∀ᶠ n in atTop, ∀ fuel, branches.length < fuel →
      readBranches (readExpr n) fuel (text.toList ++ rest) =
        some (branches.map branchReading, rest) := by
  induction branches generalizing text with
  | nil =>
      cases written
      apply Eventually.of_forall
      intro n fuel enough
      obtain ⟨fuel, rfl⟩ := Nat.exists_eq_add_of_le' enough
      unfold readBranches
      rw [String.toList_empty, List.nil_append, last]
      rfl
  | cons branch branches induction =>
      obtain ⟨conditionText, resultText, othersText, conditionWritten, resultWritten,
        othersWritten, rfl⟩ := branchTexts_cons written
      have othersRead := induction othersWritten
        (fun other member => conditions other (List.mem_cons_of_mem _ member))
        (fun other member => results other (List.mem_cons_of_mem _ member))
      have then_ (rest : List Char) : Ends (" THEN ".toList ++ rest) :=
        ⟨stops_cons (by decide) _, rfl⟩
      have conditionRead := (conditions branch List.mem_cons_self conditionWritten).whole _
        (then_ (resultText.toList ++ (othersText.toList ++ rest)))
      have resultRead := (results branch List.mem_cons_self resultWritten).whole _
        (branchTexts_ends othersWritten ends)
      filter_upwards [conditionRead, resultRead, othersRead] with n conditionRead resultRead
        othersRead
      intro fuel enough
      obtain ⟨fuel, rfl⟩ := Nat.exists_eq_add_of_le' (Nat.lt_of_le_of_lt (Nat.zero_le _) enough)
      have others := othersRead fuel (by simpa using enough)
      have chars : (" WHEN " ++ conditionText ++ " THEN " ++ resultText ++ othersText).toList ++
          rest = " WHEN ".toList ++ (conditionText.toList ++ (" THEN ".toList ++
            (resultText.toList ++ (othersText.toList ++ rest)))) := by
        simp
      unfold readBranches
      rw [chars, after?_append]
      simp only [conditionRead, Option.bind_eq_bind, Option.bind_some, after?_append, resultRead,
        others]
      rfl

theorem ReadsAs.cases {branches : List (Expr × Operand)} {branchText otherwiseText : String}
    {otherwise : Expr} (written : branchTexts branches = .ok branchText)
    (conditions : ∀ branch ∈ branches, ∀ {text}, branch.1.operandText = .ok text →
      ReadsAs text branch.1.reading)
    (results : ∀ branch ∈ branches, ∀ {text}, branch.2.text = .ok text →
      ReadsAs text branch.2.asExpr.reading)
    (otherwiseReads : ReadsAs otherwiseText otherwise) :
    ReadsAs ("CASE" ++ branchText ++ " ELSE " ++ otherwiseText ++ " END")
      (.cases (branches.map branchReading) (.some otherwise.asOperand) none) := by
  apply ReadsAs.of_atom rfl
  intro rest stops
  have else_ (rest : List Char) : Ends (" ELSE ".toList ++ rest) :=
    ⟨stops_cons (by decide) _, rfl⟩
  have end_ : Ends (" END".toList ++ rest) := ⟨stops_cons (by decide) _, rfl⟩
  have branchesRead := branches_read written conditions results
    (else_ (otherwiseText.toList ++ (" END".toList ++ rest))) rfl
  have enough := eventually_gt_atTop branches.length
  filter_upwards [branchesRead, otherwiseReads.whole _ end_, enough] with n branchesRead
    otherwiseRead enough
  have chars : ("CASE" ++ branchText ++ " ELSE " ++ otherwiseText ++ " END").toList ++ rest =
      "CASE".toList ++ (branchText.toList ++ (" ELSE ".toList ++
        (otherwiseText.toList ++ (" END".toList ++ rest)))) := by
    simp
  have behind : ∀ c ∈ (branchText.toList ++ (" ELSE ".toList ++
      (otherwiseText.toList ++ (" END".toList ++ rest)))).head?, isWordChar c = false :=
    (branchTexts_ends written (else_ _)).1.notWord
  rw [chars, readAtom_word (List.all_eq_true.mp (by decide)) behind (by decide) rfl
    (.inl (by decide))]
  unfold readNamed readCases
  rw [if_neg (by decide), if_pos rfl]
  simp only [branchesRead n enough, Option.bind_eq_bind, Option.bind_some, after?_append,
    otherwiseRead]
  rfl

/-! ### All expressions -/

theorem items_read {items : List Literal} {texts : List String}
    (written : items.mapM Literal.checkedText = .ok texts)
    (free : Literal.itemsDoubleFree items = true) :
    List.Forall₂ (ReadsTo Literal.readLiteral Stops) texts items ∧
      ∀ text ∈ texts, ∃ c others, text.toList = c :: others ∧ c ≠ ')' := by
  induction items generalizing texts with
  | nil =>
      cases written
      exact ⟨.nil, by simp⟩
  | cons item rest induction =>
      rw [Literal.itemsDoubleFree, Bool.and_eq_true] at free
      rw [List.mapM_cons] at written
      obtain ⟨text, here, written⟩ := ok_of_bind written
      obtain ⟨others, later, written⟩ := ok_of_bind written
      cases written
      have others := induction later free.2
      have same := checkedText_eq here
      subst same
      obtain ⟨c, behind, chars, plain⟩ := Literal.text_starts free.1
      have notClosing : c ≠ ')' := by
        rintro rfl
        simp at plain
      exact ⟨.cons (Literal.text_read item free.1) others.1,
        List.forall_mem_cons.2 ⟨⟨c, behind, chars, notClosing⟩, others.2⟩⟩

theorem members_read {members : List Expr} {texts : List String}
    (written : operandTexts members = .ok texts)
    (each : ∀ member ∈ members, ∀ {text}, member.operandText = .ok text →
      ReadsAs text member.reading ∧ Literal.Starts text.toList) :
    List.Forall₂ (ReadsTo readExpr Ends) texts (members.map reading) ∧
      ∀ text ∈ texts, Literal.Starts text.toList := by
  induction members generalizing texts with
  | nil =>
      cases written
      exact ⟨.nil, by simp⟩
  | cons member rest induction =>
      rw [operandTexts] at written
      obtain ⟨text, here, written⟩ := ok_of_bind written
      obtain ⟨others, later, written⟩ := ok_of_bind written
      cases written
      have first := each member List.mem_cons_self here
      have others := induction later fun other among => each other (List.mem_cons_of_mem _ among)
      exact ⟨.cons first.1.whole others.1, List.forall_mem_cons.2 ⟨first.2, others.2⟩⟩

/-- The text of an operand is read as the operand, given that of an expression is. -/
theorem operand_read {operand : Operand} (free : operand.isDoubleFree = true)
    (inner : ∀ expr ∈ operand.expr?, ∀ {text}, expr.operandText = .ok text →
      ReadsAs text expr.reading)
    {text : String} (written : operand.text = .ok text) : ReadsAs text operand.asExpr.reading := by
  cases operand with
  | value literal =>
      rw [Operand.text] at written
      have same := checkedText_eq written
      subst same
      exact ReadsAs.literal free
  | expr expr =>
      rw [Operand.text] at written
      exact inner expr rfl written

/-- Only a comparison with two bounds has an upper one. -/
theorem upper_eq_none {left : Expr} {op : Comparator} {right upper : Option Operand}
    (node : (comparison left op right upper).isPlainNode = true) (other : op ≠ .between) :
    upper = none := by
  cases upper with
  | none => rfl
  | some upper =>
      simp only [isPlainNode, Bool.and_eq_true] at node
      exact absurd (by simpa using node.2) other

/-- The text of a plain expression is read as what is left of the expression in it. -/
theorem operandText_read {expr : Expr} (plain : expr.Plain) {text : String}
    (written : expr.operandText = .ok text) : ReadsAs text expr.reading := by
  induction expr using induction_on_parts generalizing text with
  | step whole induction =>
      have node := plain whole .refl
      have part {part : Expr} (inside : part ∈ whole.parts) {partText : String}
          (partWritten : part.operandText = .ok partText) : ReadsAs partText part.reading :=
        induction part inside (plain.part inside) partWritten
      have operand {operand : Operand} {operandText : String}
          (inside : ∀ part, operand.expr? = some part → part ∈ whole.parts)
          (free : operand.isDoubleFree = true) (operandWritten : operand.text = .ok operandText) :
          ReadsAs operandText operand.asExpr.reading :=
        operand_read free (fun expr found _ exprWritten => part (inside expr found) exprWritten)
          operandWritten
      have shaped := shape written
      clear written
      cases shaped with
      | field written => exact ReadsAs.field node
      | literal written => exact ReadsAs.literal node
      | @unary left op upper leftText leftWritten isUnary =>
          have upperNone : upper = none := upper_eq_none node (by rintro rfl; cases isUnary)
          rw [upperNone, reading_unary]
          exact (part List.mem_cons_self leftWritten).unary isUnary
      | @set left op items upper leftText texts leftWritten isSet itemsWritten =>
          have upperNone : upper = none := upper_eq_none node (by rintro rfl; cases isSet)
          have free : Literal.itemsDoubleFree items = true := by
            simp only [isPlainNode, Bool.and_eq_true] at node
            exact node.1.1
          have each := items_read itemsWritten free
          rw [upperNone, reading_binary]
          exact (part List.mem_cons_self leftWritten).set isSet each.1 each.2
      | @binary left op right leftText rightText leftWritten rightWritten notUnary notSet
          notBetween =>
          simp only [isPlainNode, Bool.and_eq_true] at node
          have rightRead := operand (fun _ found => mem_parts_comparison found (by simp)) node.1.1
            rightWritten
          rw [reading_binary]
          exact (part List.mem_cons_self leftWritten).binary rightRead notUnary notSet notBetween
      | @bounded left op low high leftText lowText highText leftWritten lowWritten highWritten
          notSet =>
          simp only [isPlainNode, Bool.and_eq_true] at node
          have between : op = .between := by simpa using node.2
          have lowRead := operand (fun _ found => mem_parts_comparison found (by simp)) node.1.1
            lowWritten
          have highRead := operand (fun _ found => mem_parts_comparison found (by simp)) node.1.2
            highWritten
          rw [reading_between, between]
          exact (part List.mem_cons_self leftWritten).between lowRead highRead
      | single written =>
          rw [reading_single]
          exact part List.mem_cons_self written
      | junction written =>
          have each := members_read written fun member among _ memberWritten =>
            ⟨part among memberWritten, operandText_starts (plain.part among) memberWritten⟩
          have several := each.1.length_eq
          rw [reading_junction]
          exact ReadsAs.junction each.1 (by rw [several]; simp) each.2
      | negation written =>
          rw [reading_negation]
          exact (part List.mem_cons_self written).negation
      | @arithmetic left op right aliasName leftText rightText leftWritten rightWritten =>
          have rightRead := operand (fun _ found => mem_parts_arithmetic found) node rightWritten
          rw [reading_arithmetic]
          exact (part List.mem_cons_self leftWritten).arithmetic op rightRead
      | count =>
          rw [reading_count]
          exact ReadsAs.count _
      | aggregate written =>
          rw [reading_aggregate]
          have starts := operandText_starts (plain.part List.mem_cons_self) written
          exact (part List.mem_cons_self written).aggregate starts
      | @cases branches otherwise aliasName branchText otherwiseText branchesWritten
          otherwiseWritten =>
          simp only [isPlainNode, Bool.and_eq_true, List.all_eq_true] at node
          have results (branch : Expr × Operand) (member : branch ∈ branches) {text : String}
              (resultWritten : branch.2.text = .ok text) :
              ReadsAs text branch.2.asExpr.reading :=
            operand (fun _ found => mem_parts_result found member) (node.1 branch member)
              resultWritten
          have last : ReadsAs otherwiseText (fallback otherwise).reading := by
            cases otherwise with
            | none => exact operand_read rfl (fun _ found => by cases found) otherwiseWritten
            | some given =>
                exact operand (fun _ found => mem_parts_otherwise found) node.2 otherwiseWritten
          rw [reading_cases]
          exact ReadsAs.cases branchesWritten (fun branch member _ conditionWritten =>
            part (mem_parts_condition member) conditionWritten) results last

/-- Two plain expressions of one text leave the same in it. -/
theorem reading_eq_of_text {first second : Expr} (firstPlain : first.Plain)
    (secondPlain : second.Plain) {text : String} (firstWritten : first.operandText = .ok text)
    (secondWritten : second.operandText = .ok text) : first.reading = second.reading := by
  have ends : Ends [] := ⟨stops_nil, rfl⟩
  have firstRead := (operandText_read firstPlain firstWritten).whole [] ends
  have secondRead := (operandText_read secondPlain secondWritten).whole [] ends
  obtain ⟨n, firstSame, secondSame⟩ := (firstRead.and secondRead).exists
  rw [firstSame] at secondSame
  exact congrArg Prod.fst (Option.some.inj secondSame)

end Expr

end StreamQuery
