import Subschema.Decimal.Numeral

namespace Subschema

/-- A day of the calendar. -/
structure Date where
  year : Nat
  month : Nat
  day : Nat
  deriving DecidableEq

/-- A time of the day. -/
structure TimeOfDay where
  hour : Nat
  minute : Nat
  second : Nat
  nanosecond : Nat := 0
  deriving DecidableEq

/-- How far a local time is from universal time. -/
inductive ZoneOffset where
  | universal
  | by (minutes : Int)
  deriving DecidableEq

/-- A date, a time, or both, then perhaps with an offset. Each part has a fixed number of digits and
a fixed range; only the fraction of a second may have any number of digits, of which nine count. -/
inductive Moment where
  | date (d : Date)
  | time (t : TimeOfDay)
  | both (d : Date) (t : TimeOfDay) (offset : Option ZoneOffset)
  deriving DecidableEq

namespace Moment

/-- A number of exactly the given number of digits and in a range, and what follows it. -/
def readPart (width low high : Nat) (cs : List Char) : Option (Nat × List Char) :=
  let digits := cs.take width
  let n := numeralValue digits
  if digits.length = width ∧ digits.all Char.isDigit ∧ low ≤ n ∧ n ≤ high then
    some (n, cs.drop width)
  else none

/-- What follows a given character. -/
def after (c : Char) : List Char → Option (List Char)
  | [] => none
  | d :: cs => if d = c then some cs else none

/-- Whether a year has a twenty-ninth of February. -/
def isLeapYear (year : Nat) : Bool :=
  year % 4 == 0 && (year % 100 != 0 || year % 400 == 0)

/-- The number of days in a month. -/
def daysIn (year month : Nat) : Nat :=
  if month = 2 then if isLeapYear year then 29 else 28
  else if month = 4 ∨ month = 6 ∨ month = 9 ∨ month = 11 then 30
  else 31

/-- A date with dashes between its parts. -/
def readDate (cs : List Char) : Option (Date × List Char) := do
  let (year, cs) ← readPart 4 0 9999 cs
  let (month, cs) ← readPart 2 1 12 (← after '-' cs)
  let (day, cs) ← readPart 2 1 (daysIn year month) (← after '-' cs)
  return (⟨year, month, day⟩, cs)

/-- The billionths that digits after a point stand for. Digits after the ninth do not count. -/
def nanoseconds (digits : List Char) : Nat :=
  numeralValue ((digits ++ List.replicate 9 '0').take 9)

/-- A fraction of a second, if one comes next. -/
def readFraction : List Char → Nat × List Char
  | '.' :: cs =>
    let digits := cs.takeWhile Char.isDigit
    if digits.isEmpty then (0, '.' :: cs) else (nanoseconds digits, cs.dropWhile Char.isDigit)
  | cs => (0, cs)

/-- A time with colons between its parts. A minute may have a leap second. -/
def readTime (cs : List Char) : Option (TimeOfDay × List Char) := do
  let (hour, cs) ← readPart 2 0 23 cs
  let (minute, cs) ← readPart 2 0 59 (← after ':' cs)
  let (second, cs) ← readPart 2 0 60 (← after ':' cs)
  let (nanosecond, cs) := readFraction cs
  return (⟨hour, minute, second, nanosecond⟩, cs)

/-- Hours and minutes of an offset, as minutes. -/
def readShift (cs : List Char) : Option (Nat × List Char) := do
  let (hour, cs) ← readPart 2 0 23 cs
  let (minute, cs) ← readPart 2 0 59 (← after ':' cs)
  return (hour * 60 + minute, cs)

/-- An offset, if one comes next. -/
def readOffset (cs : List Char) : Option ZoneOffset × List Char :=
  match cs with
  | 'Z' :: rest | 'z' :: rest => (some .universal, rest)
  | '+' :: rest =>
    match readShift rest with
    | some (n, rest) => (some (.by n), rest)
    | none => (none, cs)
  | '-' :: rest =>
    match readShift rest with
    | some (n, rest) => (some (.by (-(n : Int))), rest)
    | none => (none, cs)
  | _ => (none, cs)

/-- What follows the sign between a date and a time. -/
def afterDelimiter : List Char → Option (List Char)
  | 'T' :: cs | 't' :: cs | ' ' :: cs => some cs
  | _ => none

/-- A date or a time or both, and what follows. A blank after a date belongs to it only if a time
follows. -/
def read (cs : List Char) : Option (Moment × List Char) :=
  match readDate cs with
  | none => (readTime cs).map fun (t, rest) => (.time t, rest)
  | some (d, rest) =>
    match (afterDelimiter rest).bind readTime with
    | none => some (.date d, rest)
    | some (t, rest) =>
      let (offset, rest) := readOffset rest
      some (.both d t offset, rest)

/-- A number in at least the given number of digits. -/
def writePart (width n : Nat) : List Char :=
  let digits := Nat.toDigits 10 n
  List.replicate (width - digits.length) '0' ++ digits

/-- The text of a date. -/
def writeDate (d : Date) : List Char :=
  writePart 4 d.year ++ '-' :: writePart 2 d.month ++ '-' :: writePart 2 d.day

/-- The text of a fraction of a second, without zeros at its end. -/
def writeFraction (nanosecond : Nat) : List Char :=
  if nanosecond = 0 then []
  else '.' :: ((writePart 9 nanosecond).reverse.dropWhile (· == '0')).reverse

/-- The text of a time. -/
def writeTime (t : TimeOfDay) : List Char :=
  writePart 2 t.hour ++ ':' :: writePart 2 t.minute ++ ':' :: writePart 2 t.second ++
    writeFraction t.nanosecond

/-- The text of an offset. -/
def writeOffset : ZoneOffset → List Char
  | .universal => ['Z']
  | .by minutes =>
    let n := minutes.natAbs
    (if minutes < 0 then '-' else '+') :: (writePart 2 (n / 60) ++ ':' :: writePart 2 (n % 60))

/-- The characters of a moment. -/
def write : Moment → List Char
  | .date d => writeDate d
  | .time t => writeTime t
  | .both d t offset => writeDate d ++ 'T' :: writeTime t ++ (offset.map writeOffset).getD []

/-- The text of a moment. -/
def render (moment : Moment) : String := String.ofList moment.write

end Moment

end Subschema
