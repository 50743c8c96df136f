import StreamQuery.Proofs.Expr.Erasure
import StreamQuery.Proofs.Expr.Shape
import StreamQuery.Proofs.Literal.Reader
/-!
# Reading expressions

A reader for the texts of expressions. An atom is a literal, or is enclosed by parentheses or words,
or is a name; comparisons follow an atom one after the other, each taking what is read so far as its
left-hand side.
-/

namespace StreamQuery

open Filter ColumnType Text

/-! ### Marks between operands -/

def Comparator.mark (op : Comparator) : String :=
  " " ++ op.text ++ (if op.isUnary then "" else " ")

def comparator? (text : List Char) : Option (Comparator × List Char) :=
  Comparator.all.findSome? fun op => (after? op.mark.toList text).map fun rest => (op, rest)

def arithmeticOp? (text : List Char) : Option (ArithmeticOp × List Char) :=
  ArithmeticOp.all.findSome? fun op => (after? op.mark.toList text).map fun rest => (op, rest)

def connective? (text : List Char) : Option (Connective × List Char) :=
  [Connective.and, .or].findSome? fun op =>
    (after? op.mark.toList text).map fun rest => (op, rest)

theorem comparator?_mark (op : Comparator) (rest : List Char) :
    comparator? (op.mark.toList ++ rest) = some (op, rest) := by
  cases op <;> rfl

theorem arithmeticOp?_mark (op : ArithmeticOp) (rest : List Char) :
    arithmeticOp? (op.mark.toList ++ rest) = some (op, rest) := by
  cases op <;> rfl

theorem connective?_mark (op : Connective) (rest : List Char) :
    connective? (op.mark.toList ++ rest) = some (op, rest) := by
  cases op <;> rfl

namespace Expr

/-! ### The reader -/

section Atoms

variable (expr : Reader Expr)

/-- Behind the word of a negation. -/
def readNegation : Reader Expr := fun text => do
  let rest ← after? " (".toList text
  let (inner, rest) ← expr rest
  let rest ← after? ")".toList rest
  pure (.negation inner, rest)

/-- Behind the parenthesis and the blank that open an arithmetic expression. -/
def readArithmetic : Reader Expr := fun text => do
  let (left, rest) ← expr text
  let (op, rest) ← arithmeticOp? rest
  let (right, rest) ← expr rest
  let rest ← after? " )".toList rest
  pure (.arithmetic left op right.asOperand none, rest)

/-- Behind the parenthesis that opens a junction. -/
def readJunction (fuel : Nat) : Reader Expr := fun text => do
  let (first, rest) ← expr text
  let (op, rest) ← connective? rest
  let (others, rest) ← readMany expr op.mark.toList ')' fuel rest
  pure (.junction op (first :: others), rest)

def readArgument : Reader (Option Expr) := fun text =>
  match after? "*".toList text with
  | some rest => some (none, rest)
  | none => (expr text).map fun read => (some read.1, read.2)

/-- The number behind an argument, if there is one, and the closing parenthesis. -/
def readParameter : Reader (Option Int) := fun text =>
  match after? ")".toList text with
  | some rest => some (none, rest)
  | none => do
      let rest ← after? ", ".toList text
      let value ← readInt? (word rest)
      let rest ← after? ")".toList (afterWord rest)
      pure (some value, rest)

def function? (name : List Char) (parameter : Option Int) : Option AggregateFunction :=
  let value := parameter.getD 0
  (AggregateFunction.all value value value).find? fun function => function.name.toList = name

/-- Behind the name and the parenthesis of an aggregate. -/
def readAggregate (name : List Char) : Reader Expr := fun text => do
  let (argument, rest) ← readArgument expr text
  let (parameter, rest) ← readParameter rest
  let function ← function? name parameter
  pure (.aggregate function argument none, rest)

def readBranches : Nat → Reader (List (Expr × Operand))
  | 0, _ => none
  | fuel + 1, text =>
      match after? " WHEN ".toList text with
      | none => some ([], text)
      | some rest => do
          let (condition, rest) ← expr rest
          let rest ← after? " THEN ".toList rest
          let (result, rest) ← expr rest
          let (others, rest) ← readBranches fuel rest
          pure ((condition, result.asOperand) :: others, rest)

/-- Behind the word of a case distinction. -/
def readCases (fuel : Nat) : Reader Expr := fun text => do
  let (branches, rest) ← readBranches expr fuel text
  let rest ← after? " ELSE ".toList rest
  let (otherwise, rest) ← expr rest
  let rest ← after? " END".toList rest
  pure (.cases branches (some otherwise.asOperand) none, rest)

/-- What starts with a word. -/
def readNamed (fuel : Nat) (name rest : List Char) : Option (Expr × List Char) :=
  if name = "NOT".toList then readNegation expr rest
  else if name = "CASE".toList then readCases expr fuel rest
  else
    match rest with
    | '(' :: rest => readAggregate expr name rest
    | '.' :: rest =>
        some (.field ⟨some (String.ofList name), String.ofList (word rest), none⟩, afterWord rest)
    | rest => some (.field ⟨none, String.ofList name, none⟩, rest)

def readAtom (fuel : Nat) : Reader Expr := fun text =>
  match Literal.readLiteral fuel text with
  | some (value, rest) => some (.literal value, rest)
  | none =>
      match text with
      | '(' :: ' ' :: rest => readArithmetic expr rest
      | '(' :: rest => readJunction expr fuel rest
      | text => readNamed expr fuel (word text) (afterWord text)

end Atoms

mutual

/-- An atom with `wrap` around it, and the comparisons that follow. -/
def readWrapped : Nat → (Expr → Expr) → Reader Expr
  | 0, _, _ => none
  | fuel + 1, wrap, text => do
      let (first, rest) ← readAtom (fun text => readWrapped fuel id text) fuel text
      readChain fuel (wrap first) rest

/-- The comparisons that follow an expression. -/
def readChain : Nat → Expr → Reader Expr
  | 0, _, _ => none
  | fuel + 1, left, text =>
      match comparator? text with
      | none => some (left, text)
      | some (op, rest) =>
          if op.isUnary then
            readChain fuel (.comparison left op none none) rest
          else if op.isSet then do
            let rest ← after? "(".toList rest
            let (items, rest) ← readList (Literal.readLiteral fuel) ')' fuel rest
            readChain fuel (.comparison left op (some (.value (.array items))) none) rest
          else if op = .between then do
            let (low, rest) ← readWrapped fuel id rest
            let rest ← after? " AND ".toList rest
            readWrapped fuel
              (fun high => .comparison left op (some low.asOperand) (some high.asOperand)) rest
          else
            readWrapped fuel (fun right => .comparison left op (some right.asOperand) none) rest

end

/-- What ends an expression. -/
def Ends (rest : List Char) : Prop :=
  Stops rest ∧ comparator? rest = none

def readExpr (fuel : Nat) : Reader Expr :=
  readWrapped fuel id

/-- A text is read as an expression wherever it stands in a chain of comparisons: what follows it is
read as if the expression had been given. -/
def ReadsAs (text : String) (expr : Expr) : Prop :=
  ∀ (wrap : Expr → Expr) (rest : List Char) (result : Option (Expr × List Char)), Stops rest →
    (∀ᶠ n in atTop, readChain n (expr.graft wrap) rest = result) →
    ∀ᶠ n in atTop, readWrapped n wrap (text.toList ++ rest) = result

theorem ReadsAs.whole {text : String} {expr : Expr} (reads : ReadsAs text expr) :
    ReadsTo readExpr Ends text expr := by
  intro rest ends
  apply reads id rest _ ends.1
  rw [graft_id]
  apply eventually_of_succ
  apply Eventually.of_forall
  intro n
  rw [readChain, ends.2]

theorem ReadsAs.of_atom {text : String} {atom : Expr} (other : atom.isComparison = false)
    (reads : ∀ rest, Stops rest →
      ∀ᶠ n in atTop, readAtom (readExpr n) n (text.toList ++ rest) = some (atom, rest)) :
    ReadsAs text atom := by
  intro wrap rest result stops chain
  rw [graft_of_not other] at chain
  apply eventually_of_succ
  filter_upwards [reads rest stops, chain] with n read chain
  unfold readExpr at read
  rw [readWrapped, read]
  exact chain

/-! ### Comparisons -/

section Comparisons

variable {leftText : String} {left : Expr}

theorem stops_mark (op : Comparator) (rest : List Char) : Stops (op.mark.toList ++ rest) := by
  have blank : ∃ others, op.mark.toList = ' ' :: others := by cases op <;> exact ⟨_, rfl⟩
  obtain ⟨others, chars⟩ := blank
  rw [chars]
  exact stops_cons (by decide) _

theorem ReadsAs.unary (leftReads : ReadsAs leftText left) {op : Comparator}
    (unary : op.isUnary = true) :
    ReadsAs (leftText ++ " " ++ op.text) (.comparison left op none none) := by
  intro wrap rest result stops chain
  have chars : (leftText ++ " " ++ op.text).toList ++ rest =
      leftText.toList ++ (op.mark.toList ++ rest) := by
    simp [Comparator.mark, unary]
  rw [chars]
  apply leftReads wrap _ _ (stops_mark op rest)
  apply eventually_of_succ
  filter_upwards [chain] with n chain
  rw [readChain, comparator?_mark]
  simpa [unary] using chain

theorem ReadsAs.binary (leftReads : ReadsAs leftText left) {op : Comparator} {rightText : String}
    {right : Expr} (rightReads : ReadsAs rightText right) (notUnary : op.isUnary = false)
    (notSet : op.isSet = false) (notBetween : op ≠ .between) :
    ReadsAs (leftText ++ " " ++ op.text ++ " " ++ rightText)
      (right.graft fun last => .comparison left op (some last.asOperand) none) := by
  intro wrap rest result stops chain
  have chars : (leftText ++ " " ++ op.text ++ " " ++ rightText).toList ++ rest =
      leftText.toList ++ (op.mark.toList ++ (rightText.toList ++ rest)) := by
    simp [Comparator.mark, notUnary]
  rw [chars]
  apply leftReads wrap _ _ (stops_mark op _)
  apply eventually_of_succ
  rw [graft_graft (fun _ => rfl)] at chain
  filter_upwards [rightReads _ _ _ stops chain] with n read
  rw [readChain, comparator?_mark]
  simpa [notUnary, notSet, notBetween] using read

theorem ReadsAs.between (leftReads : ReadsAs leftText left) {lowText highText : String}
    {low high : Expr} (lowReads : ReadsAs lowText low) (highReads : ReadsAs highText high) :
    ReadsAs (leftText ++ " " ++ Comparator.between.text ++ " " ++ lowText ++ " AND " ++ highText)
      (high.graft fun last =>
        .comparison left .between (some low.asOperand) (some last.asOperand)) := by
  intro wrap rest result stops chain
  have chars :
      (leftText ++ " " ++ Comparator.between.text ++ " " ++ lowText ++ " AND " ++
        highText).toList ++ rest =
      leftText.toList ++ (Comparator.between.mark.toList ++
        (lowText.toList ++ (" AND ".toList ++ (highText.toList ++ rest)))) := by
    simp [Comparator.mark, Comparator.isUnary]
  have ends (rest : List Char) : Ends (" AND ".toList ++ rest) :=
    ⟨stops_cons (by decide) _, rfl⟩
  rw [chars]
  apply leftReads wrap _ _ (stops_mark _ _)
  apply eventually_of_succ
  rw [graft_graft (fun _ => rfl)] at chain
  have lowWhole := lowReads.whole _ (ends (highText.toList ++ rest))
  filter_upwards [lowWhole, highReads _ _ _ stops chain] with n lowRead highRead
  rw [readExpr] at lowRead
  rw [readChain, comparator?_mark]
  simp only [Comparator.isUnary, Comparator.isSet, Bool.false_eq_true, if_false, if_true,
    Option.bind_eq_bind, Option.bind_some, lowRead, after?_append]
  exact highRead

theorem ReadsAs.set (leftReads : ReadsAs leftText left) {op : Comparator} (set : op.isSet = true)
    {items : List Literal} {texts : List String}
    (all : List.Forall₂ (ReadsTo Literal.readLiteral Stops) texts items)
    (visible : ∀ text ∈ texts, ∃ c others, text.toList = c :: others ∧ c ≠ ')') :
    ReadsAs (leftText ++ " " ++ op.text ++ " " ++ ("(" ++ joinWith ", " texts ++ ")"))
      (.comparison left op (some (.value (.array items))) none) := by
  intro wrap rest result stops chain
  have notUnary : op.isUnary = false := by
    revert set
    cases op <;> decide
  have chars : (leftText ++ " " ++ op.text ++ " " ++
      ("(" ++ joinWith ", " texts ++ ")")).toList ++ rest =
      leftText.toList ++ (op.mark.toList ++
        ("(".toList ++ ((joinWith ", " texts).toList ++ ')' :: rest))) := by
    simp [Comparator.mark, notUnary]
  rw [chars]
  apply leftReads wrap _ _ (stops_mark _ _)
  apply eventually_of_succ
  have listed := readList_joined ')' all (by decide) (fun _ => rfl) visible rest
  filter_upwards [listed, chain] with n listed chain
  rw [readChain, comparator?_mark]
  simp only [notUnary, set, Bool.false_eq_true, if_false, if_true, Option.bind_eq_bind,
    Option.bind_some, after?_append, listed]
  exact chain

end Comparisons

end Expr

end StreamQuery
