import StreamQuery.Settings
import StreamQuery.Text.Numeral
/-!
# Texts of time spans

A span is written as counts with their units, such as `1m 30.5s`. Blanks may stand anywhere but
inside a unit. A fraction must come out as a whole number of nanoseconds, and past a minute as one
of seconds. Counts, products and sums stay within 64 bits.
-/

namespace StreamQuery

open Text

inductive SpanUnit where
  | nanosecond
  | microsecond
  | millisecond
  | second
  | minute
  | hour
  | day
  | week
  | month
  | year
  deriving DecidableEq, Repr

namespace SpanUnit

def ofName? : String → Option SpanUnit
  | "nanos" | "nsec" | "ns" => some .nanosecond
  | "usec" | "us" | "µs" => some .microsecond
  | "millis" | "msec" | "ms" => some .millisecond
  | "seconds" | "second" | "secs" | "sec" | "s" => some .second
  | "minutes" | "minute" | "min" | "mins" | "m" => some .minute
  | "hours" | "hour" | "hr" | "hrs" | "h" => some .hour
  | "days" | "day" | "d" => some .day
  | "weeks" | "week" | "wk" | "wks" | "w" => some .week
  | "months" | "month" | "M" => some .month
  | "years" | "year" | "yr" | "yrs" | "y" => some .year
  | _ => none

/-- The seconds in a unit that is at least one second; a month has 30.44 days and a year 365.25. -/
def seconds? : SpanUnit → Option Nat
  | nanosecond | microsecond | millisecond => none
  | second => some 1
  | minute => some 60
  | hour => some 3600
  | day => some 86400
  | week => some 604800
  | month => some 2630016
  | year => some 31557600

/-- The nanoseconds in a unit that is at most one minute. -/
def nanoseconds? : SpanUnit → Option Nat
  | nanosecond => some 1
  | microsecond => some 1000
  | millisecond => some 1000000
  | second => some 1000000000
  | minute => some 60000000000
  | hour | day | week | month | year => none

end SpanUnit

/-- A part of one behind the point: a number over a power of ten. -/
structure SpanFraction where
  numerator : Nat
  denominator : Nat
  deriving DecidableEq, Repr

/-- What the characters since the last whole unit began. -/
inductive SpanPhase where
  | start
  | between
  | count (value : Nat)
  | fraction (value : Nat) (read : SpanFraction)
  | unit (value : Nat) (fraction : Option SpanFraction) (letters : List Char)
  deriving DecidableEq, Repr

/-- A span read so far: whole seconds, nanoseconds below a second, and the phase of its reader. -/
structure SpanReading where
  whole : Nat
  part : Nat
  phase : SpanPhase
  deriving Repr

namespace SpanReading

def initial : SpanReading :=
  ⟨0, 0, .start⟩

def word? (value : Nat) : Option Nat :=
  if value < wordSize 64 then some value else none

/-- Adds seconds and nanoseconds. -/
def add? (whole part : Nat) (reading : SpanReading) : Option SpanReading := do
  let part ← word? (reading.part + part)
  let whole ← word? (reading.whole + whole + part / 1000000000)
  pure { reading with whole := whole, part := part % 1000000000 }

def addCount? (unit : SpanUnit) (count : Nat) (reading : SpanReading) : Option SpanReading :=
  match unit.seconds?, unit.nanoseconds? with
  | some size, _ => (word? (count * size)).bind fun whole => reading.add? whole 0
  | none, some size => (word? (count * size)).bind fun part => reading.add? 0 part
  | none, none => none

/-- A fraction of so many grains, if that is a whole number of them. -/
def share? (fraction : SpanFraction) (size : Nat) : Option Nat := do
  let product ← word? (fraction.numerator * size)
  if product % fraction.denominator = 0 then some (product / fraction.denominator) else none

/-- Adds a fraction of a unit; a nanosecond has none. -/
def addFraction? (unit : SpanUnit) (fraction : SpanFraction) (reading : SpanReading) :
    Option SpanReading :=
  match unit, unit.nanoseconds?, unit.seconds? with
  | .nanosecond, _, _ => none
  | _, some size, _ => (share? fraction size).bind fun part => reading.add? 0 part
  | _, none, some size => (share? fraction size).bind fun whole => reading.add? whole 0
  | _, none, none => none

/-- Adds a count of the unit that the letters, last one first, name. -/
def addNamed? (value : Nat) (fraction : Option SpanFraction) (letters : List Char)
    (reading : SpanReading) : Option SpanReading := do
  let unit ← SpanUnit.ofName? (String.ofList letters.reverse)
  let reading ← reading.addCount? unit value
  match fraction with
  | none => pure reading
  | some fraction => reading.addFraction? unit fraction

def isUnitLetter (c : Char) : Bool :=
  c.isAlpha || c == 'µ'

/-- A number with one more digit at its end. -/
def appendDigit? (value : Nat) (c : Char) : Option Nat :=
  word? (10 * value + digitValue c)

/-- Reads one more character. -/
def step? (reading : SpanReading) (c : Char) : Option SpanReading :=
  match reading.phase with
  | .start | .between =>
      if c.isDigit then some { reading with phase := .count (digitValue c) }
      else if isBlank c then some reading
      else none
  | .count value =>
      if c.isDigit then
        (appendDigit? value c).map fun value => { reading with phase := .count value }
      else if isBlank c then some reading
      else if isUnitLetter c then some { reading with phase := .unit value none [c] }
      else if c = '.' then some { reading with phase := .fraction value ⟨0, 1⟩ }
      else none
  | .fraction value read =>
      if c.isDigit then do
        let numerator ← appendDigit? read.numerator c
        let denominator ← word? (10 * read.denominator)
        pure { reading with phase := .fraction value ⟨numerator, denominator⟩ }
      else if isBlank c then some reading
      else if isUnitLetter c ∧ read.denominator ≠ 1 then
        some { reading with phase := .unit value (some read) [c] }
      else none
  | .unit value fraction letters =>
      if c.isDigit then
        (reading.addNamed? value fraction letters).map fun reading =>
          { reading with phase := .count (digitValue c) }
      else if isBlank c then
        (reading.addNamed? value fraction letters).map fun reading =>
          { reading with phase := .between }
      else if isUnitLetter c then
        some { reading with phase := .unit value fraction (c :: letters) }
      else none

/-- Nanoseconds of the span after the last character. -/
def finish? (reading : SpanReading) : Option Nat :=
  match reading.phase with
  | .between => some (seconds reading.whole + reading.part)
  | .unit value fraction letters =>
      (reading.addNamed? value fraction letters).map fun reading =>
        seconds reading.whole + reading.part
  | .start | .count _ | .fraction _ _ => none

end SpanReading

/-- Reads a span; a zero alone needs no unit. -/
def parseSpan? (text : String) : Option Nat :=
  if text = "0" then
    some 0
  else
    (text.toList.foldlM SpanReading.step? SpanReading.initial).bind SpanReading.finish?

end StreamQuery
