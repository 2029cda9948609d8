/-!
# Dates and times

A TOML date or time is a date, a time of day, or both, and in the last case it may have an offset
from universal time. Seconds and their fraction may be left out, and are zero then; a fraction is
kept to nine places.

## Main definitions

* `DateTime`: a date, a time, or both
* `DateTime.parse?`: the date or time that a text writes
* `DateTime.text`: its normal form
-/

namespace GradleScript.Toml

/-- A day of the calendar. -/
structure Date where
  year : Nat
  month : Nat
  day : Nat
  deriving DecidableEq, Repr

/-- A time of day. -/
structure Time where
  hour : Nat
  minute : Nat
  second : Nat
  /-- Billionths of a second. -/
  nanosecond : Nat
  deriving DecidableEq, Repr

/-- A distance from universal time. -/
inductive Offset where
  /-- Universal time itself. -/
  | zulu
  | ahead (minutes : Nat)
  | behind (minutes : Nat)
  deriving DecidableEq, Repr

/-- A date, a time of day, or both. -/
inductive DateTime where
  | day (date : Date)
  | clock (time : Time)
  | moment (date : Date) (time : Time) (offset : Option Offset)
  deriving DecidableEq, Repr

namespace Date

/-- Whether a year has a 29th of February. -/
def isLeap (year : Nat) : Bool :=
  year % 4 == 0 && (year % 100 != 0 || year % 400 == 0)

/-- How many days a month has. -/
def daysIn (year month : Nat) : Nat :=
  if month = 2 then (if isLeap year then 29 else 28)
  else if month = 4 ∨ month = 6 ∨ month = 9 ∨ month = 11 then 30
  else 31

/-- Whether the calendar has this day. -/
def IsValid (d : Date) : Prop :=
  1 ≤ d.month ∧ d.month ≤ 12 ∧ 1 ≤ d.day ∧ d.day ≤ daysIn d.year d.month

instance (d : Date) : Decidable d.IsValid :=
  inferInstanceAs (Decidable (_ ∧ _ ∧ _ ∧ _))

end Date

/-- The number that decimal digits write. -/
def decimalValue (digits : List Char) : Nat :=
  digits.foldl (fun n c => 10 * n + (c.toNat - '0'.toNat)) 0

/-- The number that the first `count` characters write, all of which are digits, and what is left
of the text. -/
def readDigits (count : Nat) (cs : List Char) : Option (Nat × List Char) :=
  let digits := cs.take count
  if digits.length = count ∧ digits.all Char.isDigit then
    some (decimalValue digits, cs.drop count)
  else none

/-- What follows one given character. -/
def readMark (mark : Char) : List Char → Option (List Char)
  | [] => none
  | c :: rest => if c = mark then some rest else none

namespace Date

/-- Reads a date, with four digits for the year and two each for month and day. -/
def read? (cs : List Char) : Option (Date × List Char) := do
  let (year, cs) ← readDigits 4 cs
  let cs ← readMark '-' cs
  let (month, cs) ← readDigits 2 cs
  let cs ← readMark '-' cs
  let (day, cs) ← readDigits 2 cs
  let date : Date := ⟨year, month, day⟩
  if date.IsValid then some (date, cs) else none

end Date

namespace Time

/-- Reads the fraction of a second after its point: at least one digit, of which nine count. -/
def readFraction? : List Char → Option (Nat × List Char)
  | '.' :: cs =>
    let digits := cs.takeWhile Char.isDigit
    if digits.isEmpty then none
    else
      let kept := digits.take 9
      some (decimalValue kept * Nat.pow 10 (9 - kept.length), cs.dropWhile Char.isDigit)
  | cs => some (0, cs)

/-- Reads the seconds after their colon, and the fraction after its point. -/
def readSeconds? : List Char → Option (Nat × Nat × List Char)
  | ':' :: cs => do
    let (second, cs) ← readDigits 2 cs
    let (nanosecond, cs) ← readFraction? cs
    if second ≤ 60 then some (second, nanosecond, cs) else none
  | cs => some (0, 0, cs)

/-- Reads a time of day, with two digits each for hours, minutes and seconds. The sixtieth second
of a minute is allowed. -/
def read? (cs : List Char) : Option (Time × List Char) := do
  let (hour, cs) ← readDigits 2 cs
  let cs ← readMark ':' cs
  let (minute, cs) ← readDigits 2 cs
  let (second, nanosecond, cs) ← readSeconds? cs
  if hour ≤ 23 ∧ minute ≤ 59 then some (⟨hour, minute, second, nanosecond⟩, cs) else none

end Time

namespace Offset

/-- Reads hours and minutes of an offset. -/
def readMinutes? (cs : List Char) : Option (Nat × List Char) := do
  let (hours, cs) ← readDigits 2 cs
  let cs ← readMark ':' cs
  let (minutes, cs) ← readDigits 2 cs
  if hours ≤ 23 ∧ minutes ≤ 59 then some (60 * hours + minutes, cs) else none

/-- Reads an offset, if there is one. -/
def read? : List Char → Option (Option Offset × List Char)
  | 'Z' :: cs => some (some .zulu, cs)
  | 'z' :: cs => some (some .zulu, cs)
  | '+' :: cs => do
    let (minutes, cs) ← readMinutes? cs
    some (some (.ahead minutes), cs)
  | '-' :: cs => do
    let (minutes, cs) ← readMinutes? cs
    some (some (if minutes = 0 then .ahead 0 else .behind minutes), cs)
  | cs => some (none, cs)

end Offset

namespace DateTime

/-- Reads what comes after a date: nothing, or a time and perhaps an offset. -/
def readAfterDate? (date : Date) : List Char → Option DateTime
  | [] => some (.day date)
  | c :: cs => do
    if c = 'T' ∨ c = 't' ∨ c = ' ' then
      let (time, cs) ← Time.read? cs
      let (offset, cs) ← Offset.read? cs
      if cs.isEmpty then some (.moment date time offset) else none
    else none

/-- The date or time that a text writes. A text is a time of day when a colon comes first after
its digits, and otherwise starts with a date. -/
def parse? (cs : List Char) : Option DateTime :=
  match cs.dropWhile Char.isDigit with
  | ':' :: _ => do
    let (time, rest) ← Time.read? cs
    if rest.isEmpty then some (.clock time) else none
  | _ => do
    let (date, rest) ← Date.read? cs
    readAfterDate? date rest

/-- A number with zeros in front, up to `width` digits. -/
def pad (width n : Nat) : String :=
  let digits := Nat.toDigits 10 n
  String.ofList (List.replicate (width - digits.length) '0' ++ digits)

/-- A fraction of a second with its point, without the zeros it ends with. Nothing is written for
no fraction at all. -/
def fractionText (nanosecond : Nat) : String :=
  if nanosecond = 0 then ""
  else
    let digits := ((pad 9 nanosecond).toList.reverse.dropWhile (· == '0')).reverse
    "." ++ String.ofList digits

end DateTime

/-- A date with dashes between its parts. -/
def Date.text (d : Date) : String :=
  DateTime.pad 4 d.year ++ "-" ++ DateTime.pad 2 d.month ++ "-" ++ DateTime.pad 2 d.day

/-- A time with colons between its parts. -/
def Time.text (t : Time) : String :=
  DateTime.pad 2 t.hour ++ ":" ++ DateTime.pad 2 t.minute ++ ":" ++ DateTime.pad 2 t.second ++
    DateTime.fractionText t.nanosecond

/-- An offset: a letter for universal time, hours and minutes for any other. -/
def Offset.text : Offset → String
  | .zulu => "Z"
  | .ahead m => "+" ++ DateTime.pad 2 (m / 60) ++ ":" ++ DateTime.pad 2 (m % 60)
  | .behind m => "-" ++ DateTime.pad 2 (m / 60) ++ ":" ++ DateTime.pad 2 (m % 60)

/-- The normal form of a date or time, with a capital letter between date and time. -/
def DateTime.text : DateTime → String
  | .day date => date.text
  | .clock time => time.text
  | .moment date time offset =>
    date.text ++ "T" ++ time.text ++
      match offset with
      | some offset => offset.text
      | none => ""

end GradleScript.Toml
