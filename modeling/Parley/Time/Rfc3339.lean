/-
Instants as RFC 3339 text.

Written in UTC with a fraction of none, three, six or nine digits, as few
as hold it. `write` ends in `Z` and `stamp` in a zero offset; `display` has
a space between date and time and ends in ` UTC`.

`read?` takes any offset and is lenient about layout: numbers may have
fewer digits and blanks around them, the separator may be a space, and
fraction digits behind the ninth are dropped.
-/
import Parley.Text.Blank
import Parley.Text.Decimal
import Parley.Time.Instant

namespace Parley.Time

open Text

/-! ## Writing -/

/-- A year in four digits, with a sign outside 0 to 9999. -/
def writeYear (year : Int) : List Char :=
  if 0 ≤ year ∧ year ≤ 9999 then padded 4 year.toNat
  else if year < 0 then '-' :: padded 4 (-year).toNat
  else '+' :: padded 4 year.toNat

def writeDate (d : Date) : List Char :=
  writeYear d.year ++ ['-'] ++ padded 2 d.month ++ ['-'] ++ padded 2 d.day

/-- A fraction of a second in the fewest of 0, 3, 6 and 9 digits. -/
def writeFraction (nano : Nat) : List Char :=
  if nano = 0 then []
  else if nano % 1000000 = 0 then '.' :: padded 3 (nano / 1000000)
  else if nano % 1000 = 0 then '.' :: padded 6 (nano / 1000)
  else '.' :: padded 9 nano

/-- The time of day; a leap second is written as second 60. -/
def writeTime (secondOfDay nano : Nat) : List Char :=
  let leap := nano / Instant.nanosPerSecond
  padded 2 (secondOfDay / 3600) ++ [':'] ++ padded 2 (secondOfDay / 60 % 60) ++ [':']
    ++ padded 2 (secondOfDay % 60 + leap) ++ writeFraction (nano % Instant.nanosPerSecond)

namespace Instant

/-- An instant in UTC, with a `T` inside and a `Z` behind. -/
def write (t : Instant) : List Char :=
  writeDate t.date ++ ['T'] ++ writeTime t.secondOfDay t.nano ++ ['Z']

def toRfc3339 (t : Instant) : String := String.ofList t.write

/-- An instant in UTC with a zero offset behind. -/
def stamp (t : Instant) : String :=
  String.ofList (writeDate t.date ++ ['T'] ++ writeTime t.secondOfDay t.nano
    ++ ['+', '0', '0', ':', '0', '0'])

/-- An instant in UTC for people to read. -/
def display (t : Instant) : String :=
  String.ofList (writeDate t.date ++ [' '] ++ writeTime t.secondOfDay t.nano ++ [' ', 'U', 'T', 'C'])

end Instant

/-! ## Reading -/

/-- Reads at most `width` digits: their value and the rest. -/
def readDigits (width : Nat) (s : List Char) : Option (Nat × List Char) :=
  let digits := (s.take width).takeWhile isDigit
  (digitsValue? digits).map fun n => (n, s.drop digits.length)

/-- Reads a number of at most `width` digits behind blanks. -/
def readNumber (width : Nat) (s : List Char) : Option (Nat × List Char) :=
  readDigits width (trimStart s)

/-- Reads a year behind blanks: up to four digits, or a sign and any number
of digits. -/
def readYear (s : List Char) : Option (Int × List Char) :=
  match trimStart s with
  | '-' :: s => (readDigits s.length s).map fun (n, rest) => (-(n : Int), rest)
  | '+' :: s => (readDigits s.length s).map fun (n, rest) => ((n : Int), rest)
  | s => (readDigits 4 s).map fun (n, rest) => ((n : Int), rest)

/-- Reads one character behind blanks. -/
def readMark (mark : Char) (s : List Char) : Option (List Char) :=
  match trimStart s with
  | c :: rest => if c = mark then some rest else none
  | [] => none

/-- Reads a point and a fraction of a second in nanoseconds, or nothing. -/
def readFraction : List Char → Option (Nat × List Char)
  | '.' :: s => do
    let digits := s.takeWhile isDigit
    let n ← digitsValue? (digits.take 9)
    pure (n * Nat.pow 10 (9 - digits.length), s.dropWhile isDigit)
  | s => some (0, s)

/-- Reads two digits. -/
def readPair : List Char → Option (Nat × List Char)
  | a :: b :: rest => do
    let x ← digitValue? a
    let y ← digitValue? b
    pure (10 * x + y, rest)
  | _ => none

/-- Reads an offset in hours and minutes: its seconds and the rest. -/
def readOffset (s : List Char) : Option (Int × List Char) := do
  let (hours, s) ← readPair s
  let (minutes, s) ← readPair (s.dropWhile fun c => c = ':' || isBlank c)
  if minutes < 60 then pure (((hours * 3600 + minutes * 60 : Nat) : Int), s) else none

/-- Reads a time zone: `UTC` in any case, the letter Z, or a signed offset. -/
def readZone (s : List Char) : Option (Int × List Char) :=
  match s with
  | u :: t :: c :: rest =>
    if u.toUpper = 'U' ∧ t.toUpper = 'T' ∧ c.toUpper = 'C' then some (0, rest) else signed s
  | _ => signed s
where
  signed : List Char → Option (Int × List Char)
    | [] => none
    | c :: s =>
      if c = 'z' ∨ c = 'Z' then some (0, s)
      else if c = '+' then readOffset s
      else if c = '-' ∨ c = '\u2212' then (readOffset s).map fun (n, rest) => (-n, rest)
      else none

/-- The years that a date may lie in. -/
def yearRange : IntRange := ⟨-262143, 262142⟩

/-- The instant of a date, a time of day and an offset from UTC. -/
def instantOf? (d : Date) (hour minute second nano : Nat) (offset : Int) : Option Instant :=
  if d.valid ∧ yearRange.contains d.year ∧ hour ≤ 23 ∧ minute ≤ 59 ∧ second ≤ 60
      ∧ -86400 < offset ∧ offset < 86400 then
    let leap := second / 60
    let local_ := dayNumber d * 86400 + ((hour * 3600 + minute * 60 + (second - leap) : Nat) : Int)
    let t : Instant := ⟨local_ - offset, nano + leap * Instant.nanosPerSecond⟩
    if yearRange.contains t.date.year then some t else none
  else none

namespace Instant

/-- Reads an instant. -/
def read? (s : List Char) : Option Instant := do
  let (year, s) ← readYear s
  let s ← readMark '-' s
  let (month, s) ← readNumber 2 s
  let s ← readMark '-' s
  let (day, s) ← readNumber 2 s
  let s ← match s with
    | c :: rest => if c = 't' ∨ c = 'T' ∨ c = ' ' then some rest else none
    | [] => none
  let (hour, s) ← readNumber 2 s
  let s ← readMark ':' s
  let (minute, s) ← readNumber 2 s
  let s ← readMark ':' s
  let (second, s) ← readNumber 2 s
  let (nano, s) ← readFraction s
  let (offset, s) ← readZone (trimStart s)
  if (trimStart s).isEmpty then instantOf? ⟨year, month, day⟩ hour minute second nano offset
  else none

/-- Reads an instant from a string. -/
def ofRfc3339? (s : String) : Option Instant := read? s.toList

end Instant
end Parley.Time
