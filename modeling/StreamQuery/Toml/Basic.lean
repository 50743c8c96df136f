import StreamQuery.Toml.DateTime
/-!
# Settings documents

A document is a table of values under keys. How a table came about decides who may add to it: a
table written on one line is complete, one made by a dotted key grows by dotted keys only, one made
on the way to a heading may still get its own heading, and a heading is written once.
-/

namespace StreamQuery

inductive TableForm where
  | sealed
  | dotted
  | implied
  | headed
  deriving DecidableEq, Repr

inductive Toml where
  | string (text : String)
  | integer (value : Int)
  /-- A number with a fraction or an exponent; no setting is one. -/
  | real
  | bool (value : Bool)
  | dateTime (moment : Toml.DateTime)
  | array (items : List Toml)
  | table (form : TableForm) (entries : List (String × Toml))
  /-- Tables under repeated headings, in order. -/
  | tables (items : List Toml)
  deriving Repr, Inhabited

namespace Toml

def emptyDocument : Toml :=
  .table .headed []

def valueAt? (key : String) (entries : List (String × Toml)) : Option Toml :=
  (entries.find? fun entry => entry.1 = key).map Prod.snd

/-- Puts a value in the place of the one under its key, or behind all others. -/
def setEntry (key : String) (value : Toml) (entries : List (String × Toml)) :
    List (String × Toml) :=
  if entries.any fun entry => entry.1 = key then
    entries.map fun entry => if entry.1 = key then (key, value) else entry
  else
    entries ++ [(key, value)]

/-- Changes the table that is entered through a value: a table of an open form, or the last of
repeated tables. -/
def enter? (isOpen : TableForm → Bool) (change : Toml → Option Toml) : Toml → Option Toml
  | .table form entries =>
      if form ≠ .sealed ∧ isOpen form then change (.table form entries) else none
  | .tables items => do
      let last ← items.getLast?
      let changed ← change last
      pure (.tables (items.dropLast ++ [changed]))
  | _ => none

/-- Changes the table at the end of a path; tables missing on the way are made. -/
def alter? (made : TableForm) (isOpen : TableForm → Bool) (change : Toml → Option Toml) :
    List String → Toml → Option Toml
  | [], found => change found
  | key :: path, .table form entries => do
      let child := (valueAt? key entries).getD (.table made [])
      let changed ← enter? isOpen (alter? made isOpen change path) child
      pure (.table form (setEntry key changed entries))
  | _ :: _, _ => none

/-- Adds an entry under a new key. -/
def addEntry? (key : String) (value : Toml) : Toml → Option Toml
  | .table form entries =>
      if (valueAt? key entries).isNone then some (.table form (entries ++ [(key, value)])) else none
  | _ => none

def isDotted : Toml → Bool
  | .table .dotted _ => true
  | _ => false

/-- Adds a value under a dotted key, whose leading part names tables of dotted keys only. -/
def assign? (keys : List String) (value : Toml) (target : Toml) : Option Toml := do
  let last ← keys.getLast?
  let path := keys.dropLast
  alter? .dotted (fun form => form = .dotted ∨ form = .implied)
    (fun found =>
      if found.isDotted = path.isEmpty then none else addEntry? last value found)
    path target

/-- Assigns within the table that is open under the last heading. -/
def assignUnder? (heading keys : List String) (value : Toml) (document : Toml) : Option Toml :=
  alter? .implied (fun _ => true) (assign? keys value) heading document

/-- Opens the table of a heading. -/
def openTable? (heading : List String) (document : Toml) : Option Toml := do
  let last ← heading.getLast?
  alter? .implied (fun _ => true)
    (fun
      | .table form entries =>
          match valueAt? last entries with
          | none => some (.table form (entries ++ [(last, emptyDocument)]))
          | some (.table .implied inner) =>
              some (.table form (setEntry last (.table .headed inner) entries))
          | some _ => none
      | _ => none)
    heading.dropLast document

/-- Opens one more table of a repeated heading. -/
def openRepeated? (heading : List String) (document : Toml) : Option Toml := do
  let last ← heading.getLast?
  alter? .implied (fun _ => true)
    (fun
      | .table form entries =>
          match valueAt? last entries with
          | none => some (.table form (entries ++ [(last, .tables [emptyDocument])]))
          | some (.tables items) =>
              some (.table form (setEntry last (.tables (items ++ [emptyDocument])) entries))
          | some _ => none
      | _ => none)
    heading.dropLast document

end Toml

end StreamQuery
