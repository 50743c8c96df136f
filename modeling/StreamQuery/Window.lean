import StreamQuery.StatementError
import StreamQuery.Text.Ascii
import StreamQuery.Text.Blank
import StreamQuery.Text.Numeral
/-!
# Durations and windows

A duration is an amount of a unit, read from two words. A window cuts a stream into pieces of time;
each of its durations must be positive when the window is written.
-/

namespace StreamQuery

open Text

inductive TimeUnit where
  | milliseconds
  | seconds
  | minutes
  | hours
  | days
  deriving DecidableEq, Repr

namespace TimeUnit

def keyword : TimeUnit → String
  | milliseconds => "MILLISECONDS"
  | seconds => "SECONDS"
  | minutes => "MINUTES"
  | hours => "HOURS"
  | days => "DAYS"

/-- Units by the upper-case spelling of their singular names. -/
def ofSingular? (name : String) : Option TimeUnit :=
  match name with
  | "MILLISECOND" => some milliseconds
  | "SECOND" => some seconds
  | "MINUTE" => some minutes
  | "HOUR" => some hours
  | "DAY" => some days
  | _ => none

/-- Reads a unit in any case, any number of final letters S dropped. -/
def parse (text : String) : Except StatementError TimeUnit :=
  let upper := (trimChars text.toList).map Char.toUpper
  match ofSingular? (String.ofList (dropTrailing (· == 'S') upper)) with
  | some unit => .ok unit
  | none => .error (.unknownTimeUnit text)

end TimeUnit

structure Duration where
  amount : Int
  unit : TimeUnit
  deriving DecidableEq, Repr

namespace Duration

/-- Reads an amount and a unit, exactly two words. -/
def parse (text : String) : Except StatementError Duration :=
  match words text with
  | [amount, unit] =>
      match readInt? amount.toList with
      | some amount =>
          if fitsSigned 64 amount then
            (TimeUnit.parse unit).map fun unit => ⟨amount, unit⟩
          else
            .error (.unknownTimeUnit text)
      | none => .error (.unknownTimeUnit text)
  | _ => .error (.unknownTimeUnit text)

def text (duration : Duration) : String :=
  toString duration.amount ++ " " ++ duration.unit.keyword

/-- The text of a positive duration; `part` names it within its window. -/
def checkedText (window part : String) (duration : Duration) : Written :=
  if duration.amount ≤ 0 then
    .error (.invalidWindowDuration window part duration.amount)
  else
    .ok duration.text

end Duration

inductive WindowShape where
  | tumbling (size : Duration)
  | hopping (size advance : Duration)
  | session (gap : Duration)
  deriving DecidableEq, Repr

def WindowShape.keyword : WindowShape → String
  | .tumbling _ => "TUMBLING"
  | .hopping .. => "HOPPING"
  | .session _ => "SESSION"

structure Window where
  shape : WindowShape
  retention : Option Duration
  grace : Option Duration
  deriving DecidableEq, Repr

namespace Window

def keyword (window : Window) : String :=
  window.shape.keyword

/-- The durations of a window in the order written: words in front, name of the part, amount. -/
def parts (window : Window) : List (String × String × Duration) :=
  let required :=
    match window.shape with
    | .tumbling size => [("SIZE ", "size", size)]
    | .hopping size advance => [("SIZE ", "size", size), ("ADVANCE BY ", "advance", advance)]
    | .session gap => [("", "gap", gap)]
  required ++ (window.retention.map fun d => ("RETENTION ", "retention", d)).toList ++
    (window.grace.map fun d => ("GRACE PERIOD ", "grace period", d)).toList

def text (window : Window) : Written := do
  let parts ← window.parts.mapM fun (words, part, duration) =>
    (duration.checkedText window.keyword part).map (words ++ ·)
  pure ("WINDOW " ++ window.keyword ++ " (" ++ joinWith ", " parts ++ ")")

end Window

end StreamQuery
