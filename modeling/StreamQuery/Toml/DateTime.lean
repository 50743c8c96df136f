import StreamQuery.Text.Numeral
/-!
# Dates and times of settings documents

A date, a time of day, or both, and then also how far the clock is from universal time. A second
may be the sixtieth, for leap seconds. Fractions of a second are kept to nine digits.
-/

namespace StreamQuery.Toml

open Text

structure Date where
  year : Nat
  month : Nat
  day : Nat
  deriving DecidableEq, Repr

structure TimeOfDay where
  hour : Nat
  minute : Nat
  second : Nat
  nanosecond : Nat
  deriving DecidableEq, Repr

inductive ClockOffset where
  | universal
  | minutes (count : Int)
  deriving DecidableEq, Repr

inductive DateTime where
  | date (day : Date)
  | time (clock : TimeOfDay)
  | both (day : Date) (clock : TimeOfDay) (offset : Option ClockOffset)
  deriving DecidableEq, Repr

/-- The last digits of a number, with zeros in front where it has fewer. -/
def paddedDigits : Nat → Nat → List Char
  | 0, _ => []
  | width + 1, value =>
      paddedDigits width (value / 10) ++ [Char.ofNat ('0'.toNat + value % 10)]

def twoDigits (value : Nat) : List Char :=
  paddedDigits 2 value

namespace Date

def isLeapYear (year : Nat) : Bool :=
  year % 4 = 0 && (year % 100 ≠ 0 || year % 400 = 0)

def daysInMonth (year month : Nat) : Nat :=
  if month = 2 then (if isLeapYear year then 29 else 28)
  else if month = 4 ∨ month = 6 ∨ month = 9 ∨ month = 11 then 30
  else 31

def isValid (date : Date) : Bool :=
  1 ≤ date.month && date.month ≤ 12 && 1 ≤ date.day &&
    date.day ≤ daysInMonth date.year date.month

def chars (date : Date) : List Char :=
  paddedDigits 4 date.year ++ '-' :: twoDigits date.month ++ '-' :: twoDigits date.day

end Date

namespace TimeOfDay

def isValid (time : TimeOfDay) : Bool :=
  time.hour ≤ 23 && time.minute ≤ 59 && time.second ≤ 60

/-- A fraction of zero is left out, and so are the zeros at the end of another one. -/
def chars (time : TimeOfDay) : List Char :=
  let fraction :=
    if time.nanosecond = 0 then []
    else
      '.' :: ((paddedDigits 9 time.nanosecond).reverse.dropWhile (· = '0')).reverse
  twoDigits time.hour ++ ':' :: twoDigits time.minute ++ ':' :: twoDigits time.second ++ fraction

end TimeOfDay

def ClockOffset.chars : ClockOffset → List Char
  | universal => ['Z']
  | minutes count =>
      let sign := if count < 0 then '-' else '+'
      sign :: twoDigits (count.natAbs / 60) ++ ':' :: twoDigits (count.natAbs % 60)

namespace DateTime

def chars : DateTime → List Char
  | .date day => day.chars
  | .time clock => clock.chars
  | .both day clock offset =>
      day.chars ++ 'T' :: clock.chars ++ (offset.map ClockOffset.chars).getD []

/-- The normal form of a date or time. -/
def text (moment : DateTime) : String :=
  String.ofList moment.chars

end DateTime

/-- A number of exactly so many digits. -/
def readFixed? (width : Nat) (text : List Char) : Option (Nat × List Char) :=
  let digits := text.take width
  if digits.length = width ∧ digits.all Char.isDigit then
    some (readDigits digits, text.drop width)
  else
    none

def readMark? (mark : Char) : List Char → Option (List Char)
  | c :: rest => if c = mark then some rest else none
  | [] => none

def readDate? (text : List Char) : Option (Date × List Char) := do
  let (year, rest) ← readFixed? 4 text
  let (month, rest) ← readFixed? 2 (← readMark? '-' rest)
  let (day, rest) ← readFixed? 2 (← readMark? '-' rest)
  let date : Date := ⟨year, month, day⟩
  if date.isValid then some (date, rest) else none

/-- Nanoseconds after a decimal point; digits past the ninth are dropped. -/
def readSubsecond (text : List Char) : Nat × List Char :=
  match text with
  | '.' :: rest =>
      let digits := rest.takeWhile Char.isDigit
      if digits.isEmpty then (0, text)
      else (readDigits ((digits ++ List.replicate 9 '0').take 9), rest.drop digits.length)
  | _ => (0, text)

def readTime? (text : List Char) : Option (TimeOfDay × List Char) := do
  let (hour, rest) ← readFixed? 2 text
  let (minute, rest) ← readFixed? 2 (← readMark? ':' rest)
  let (second, rest) ← readFixed? 2 (← readMark? ':' rest)
  let (nanosecond, rest) := readSubsecond rest
  let time : TimeOfDay := ⟨hour, minute, second, nanosecond⟩
  if time.isValid then some (time, rest) else none

/-- Hours and minutes of an offset after its sign. -/
def readOffsetSize? (text : List Char) : Option (Nat × List Char) := do
  let (hour, rest) ← readFixed? 2 text
  let (minute, rest) ← readFixed? 2 (← readMark? ':' rest)
  if hour ≤ 23 ∧ minute ≤ 59 then some (60 * hour + minute, rest) else none

/-- An offset where there is one. -/
def readOffset (text : List Char) : Option ClockOffset × List Char :=
  match text with
  | 'Z' :: rest | 'z' :: rest => (some .universal, rest)
  | '+' :: rest =>
      match readOffsetSize? rest with
      | some (size, rest) => (some (.minutes size), rest)
      | none => (none, text)
  | '-' :: rest =>
      match readOffsetSize? rest with
      | some (size, rest) => (some (.minutes (-size)), rest)
      | none => (none, text)
  | _ => (none, text)

/-- The time behind a date and one separating character. -/
def readTimeAfter? : List Char → Option (TimeOfDay × List Char)
  | 'T' :: rest | 't' :: rest | ' ' :: rest => readTime? rest
  | _ => none

def readDateTime? (text : List Char) : Option (DateTime × List Char) :=
  match readDate? text with
  | some (date, rest) =>
      match readTimeAfter? rest with
      | some (time, rest) =>
          let (offset, rest) := readOffset rest
          some (.both date time offset, rest)
      | none => some (.date date, rest)
  | none => (readTime? text).map fun (time, rest) => (.time time, rest)

end StreamQuery.Toml
