import SolidityLayout.Number.Binary64
import SolidityLayout.Number.Literal
import SolidityLayout.Text.WordCharacter

/-!
# Dates and times

A date takes ten characters, and a time of day may follow it.  The places of its numbers are fixed,
and what stands between them does not matter, but for one hyphen at least.  Behind the seconds there
may be a fraction and an offset from universal time; the offset is not kept.  A time of day also
stands by itself; what follows it is ignored.
-/

namespace SolidityLayout.Toml

open Number Text

/-- A day of the calendar. -/
structure Date where
  year : Nat
  month : Nat
  day : Nat
  deriving DecidableEq, Repr

/-- A time of day. -/
structure Time where
  hour : Nat
  minute : Nat
  second : Nat
  microsecond : Nat
  deriving DecidableEq, Repr

/-- A date, with or without a time of day. -/
structure Moment where
  date : Date
  time? : Option Time
  deriving DecidableEq, Repr

/-- A natural number within closed bounds. -/
def within? (low high : Nat) (n : Int) : Option Nat :=
  if (low : Int) ≤ n ∧ n ≤ high then some n.toNat else none

/-- Numbers as the arguments of a call. -/
def callText (name : String) (arguments : List Nat) : String :=
  name ++ "(" ++ String.intercalate ", " (arguments.map toString) ++ ")"

namespace Date

/-- Whether a year has a leap day. -/
def isLeapYear (year : Nat) : Bool :=
  year % 4 == 0 && (year % 100 != 0 || year % 400 == 0)

/-- The number of days in a month. -/
def daysIn (year month : Nat) : Nat :=
  if month = 2 then if isLeapYear year then 29 else 28
  else if month = 4 ∨ month = 6 ∨ month = 9 ∨ month = 11 then 30
  else 31

/-- The date with given numbers, if the calendar has it. -/
def of? (year month day : Int) : Option Date := do
  let year ← within? 1 9999 year
  let month ← within? 1 12 month
  return ⟨year, month, ← within? 1 (daysIn year month) day⟩

/-- The numbers of a date. -/
def numbers (d : Date) : List Nat :=
  [d.year, d.month, d.day]

end Date

namespace Time

/-- The time with given numbers, if there is one. -/
def of? (hour minute second microsecond : Int) : Option Time := do
  return ⟨← within? 0 23 hour, ← within? 0 59 minute, ← within? 0 59 second,
    ← within? 0 999999 microsecond⟩

/-- The numbers of a time; the smallest ones are left out if they are zero. -/
def numbers (t : Time) : List Nat :=
  [t.hour, t.minute] ++
    (if t.microsecond ≠ 0 then [t.second, t.microsecond]
     else if t.second ≠ 0 then [t.second]
     else [])

/-- A time as messages show it. -/
def text (t : Time) : String :=
  callText "datetime.time" t.numbers

/-- The number of microseconds behind the point that may follow a time: three to six digits. -/
def microseconds : List Char → Nat
  | '.' :: rest =>
    match (rest.take 6).takeWhile isDigit with
    | a :: b :: c :: more => Nat.ofDigitChars 10 (a :: b :: c :: more) 0
    | _ => 0
  | _ => 0

/-- The numbers of the time at the start of a text, in two digits each, with colons between. -/
def scan? : List Char → Option (List Nat)
  | a :: b :: ':' :: c :: d :: ':' :: e :: f :: rest =>
    if [a, b, c, d, e, f].all isDigit then
      some [Nat.ofDigitChars 10 [a, b] 0, Nat.ofDigitChars 10 [c, d] 0,
        Nat.ofDigitChars 10 [e, f] 0, microseconds rest]
    else none
  | _ => none

/-- The time with the numbers that were found at the start of a text. -/
def ofNumbers? : List Nat → Option Time
  | [hour, minute, second, microsecond] => of? hour minute second microsecond
  | _ => none

end Time

namespace Moment

/-- A moment as messages show it. -/
def text (m : Moment) : String :=
  match m.time? with
  | none => callText "datetime.date" m.date.numbers
  | some t => callText "datetime.datetime" (m.date.numbers ++ t.numbers)

/-- The number in `size` characters of a text from a place on. -/
def numberAt? (place size : Nat) (cs : List Char) : Option Int :=
  decimal? ((cs.drop place).take size)

/-- Whether a text is an offset: a sign, hours, any character and minutes. -/
def isOffset (cs : List Char) : Bool :=
  (numberAt? 1 2 cs).isSome && (numberAt? 4 2 cs).isSome

/-- What stands behind the point of the seconds: the digits of the fraction, unless what follows
them is no offset. -/
def fraction? (cs : List Char) : Option (List Char) :=
  match cs.getLast? with
  | some 'Z' | some 'z' => some cs.dropLast
  | _ =>
    let sign := if cs.contains '+' then '+' else '-'
    let digits := cs.takeWhile (· != sign)
    match cs.dropWhile (· != sign) with
    | [] => some digits
    | offset => if isOffset offset then some digits else none

/-- A fraction of a second in microseconds.  More than six digits are scaled as a floating-point
number, which is then cut off. -/
def scaledFraction? (digits : List Char) : Option Int := do
  let n ← decimal? digits
  let size : Int := digits.length
  if digits.length ≤ 6 then return n * (Nat.pow 10 (6 - digits.length) : Nat)
  else
    let scale := Binary64.ofDecimal false 1 (6 - size)
    (Binary64.ofQuotient (n < 0) n.natAbs 1).times scale |>.floor?

/-- The microseconds of a moment; a fraction that cannot be read counts as none. -/
def microsecondAt (cs : List Char) : Int :=
  match cs.drop 19 with
  | '.' :: rest => ((fraction? rest).bind scaledFraction?).getD 0
  | _ => 0

/-- Read a moment. -/
def read? (cs : List Char) : Option Moment := do
  guard ((cs.drop 1).contains '-')
  let year ← numberAt? 0 4 cs
  let month ← numberAt? 5 2 cs
  let day ← numberAt? 8 2 cs
  let date ← Date.of? year month day
  if cs.length = 10 then return ⟨date, none⟩
  else
    let hour ← numberAt? 11 2 cs
    let minute ← numberAt? 14 2 cs
    let second ← numberAt? 17 2 cs
    return ⟨date, some (← Time.of? hour minute second (microsecondAt cs))⟩

end Moment

end SolidityLayout.Toml
