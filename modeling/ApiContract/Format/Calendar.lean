import ApiContract.Text.Ascii
import ApiContract.Text.Blank

/-!
# Dates and times

Dates are of the proleptic Gregorian calendar, with years from -262143 to 262142.
`isDate` and `isTime` are tolerant: blanks may stand before a number, and a
number may have fewer digits.  `isDateTime` takes the fixed form of RFC 3339.
-/

namespace ApiContract
namespace Calendar

/-- Whether a year has a 29th of February. -/
def isLeap (year : Int) : Bool :=
  year % 4 = 0 && (year % 100 ≠ 0 || year % 400 = 0)

/-- How many days a month has. -/
def daysIn (year : Int) (month : Nat) : Nat :=
  if month = 2 then (if isLeap year then 29 else 28)
  else if month = 4 || month = 6 || month = 9 || month = 11 then 30
  else 31

/-- Whether there is such a day. -/
def isDay (year : Int) (month day : Nat) : Bool :=
  -262143 ≤ year && year ≤ 262142 && 1 ≤ month && month ≤ 12 &&
    1 ≤ day && day ≤ daysIn year month

/-- Whether there is such a time of day; the second 60 is a leap second. -/
def isTimeOfDay (hour minute second : Nat) : Bool :=
  hour ≤ 23 && minute ≤ 59 && second ≤ 60

/-- Takes digits from the front of a text, at least `least` and at most `most`. -/
def takeNumber? (least : Nat) (most : Option Nat) (text : List Char) :
    Option (Nat × List Char) :=
  let digits := text.takeWhile Ascii.isDigit
  let digits := match most with
    | some m => digits.take m
    | none => digits
  if digits.length < least then none
  else
    some (Ascii.decimal digits, text.drop digits.length)

/-- Takes a character from the front of a text. -/
def takeChar? (c : Char) : List Char → Option (List Char)
  | [] => none
  | d :: rest => if d = c then some rest else none

/-- Takes a year after blanks: four digits at most, or any number of them after a
sign. -/
def takeYear? (text : List Char) : Option (Int × List Char) :=
  match Blank.trimStart text with
  | '-' :: rest => (takeNumber? 1 none rest).map fun (n, rest) => (-(n : Int), rest)
  | '+' :: rest => (takeNumber? 1 none rest).map fun (n, rest) => ((n : Int), rest)
  | rest => (takeNumber? 1 (some 4) rest).map fun (n, rest) => ((n : Int), rest)

/-- Takes one or two digits after blanks. -/
def takeShort? (text : List Char) : Option (Nat × List Char) :=
  takeNumber? 1 (some 2) (Blank.trimStart text)

/-- The day of a text of the form year, month, day with hyphens. -/
def date? (text : List Char) : Option (Int × Nat × Nat) := do
  let (year, rest) ← takeYear? text
  let (month, rest) ← takeShort? (← takeChar? '-' rest)
  let (day, rest) ← takeShort? (← takeChar? '-' rest)
  if rest.isEmpty then return (year, month, day) else none

/-- Whether a text is a date. -/
def isDate (text : List Char) : Bool :=
  match date? text with
  | some (year, month, day) => isDay year month day
  | none => false

/-- Whether a text is a time of day: hour, minute and second with colons. -/
def isTime (text : List Char) : Bool :=
  let parsed : Option Bool := do
    let (hour, rest) ← takeShort? text
    let (minute, rest) ← takeShort? (← takeChar? ':' rest)
    let (second, rest) ← takeShort? (← takeChar? ':' rest)
    return rest.isEmpty && isTimeOfDay hour minute second
  parsed.getD false

/-- Takes exactly `count` digits. -/
def takeExact? (count : Nat) (text : List Char) : Option (Nat × List Char) :=
  takeNumber? count (some count) text

/-- Takes the fraction of a second after its point, where there is one. -/
def takeFraction? (text : List Char) : Option (List Char) :=
  match text with
  | '.' :: rest => (takeNumber? 1 none rest).map (·.2)
  | _ => some text

/-- Takes the offset from universal time: `Z`, or a sign with hours and minutes. -/
def takeOffset? (text : List Char) : Option (List Char) :=
  match text with
  | [] => none
  | c :: rest =>
      if c = 'Z' || c = 'z' then some rest
      else if c = '+' || c = '-' || c = '\u2212' then do
        let (hours, rest) ← takeExact? 2 rest
        let (minutes, rest) ← takeExact? 2 (← takeChar? ':' rest)
        if hours ≤ 23 && minutes ≤ 59 then return rest else none
      else none

/-- Whether a text is a date and time in the form of RFC 3339. -/
def isDateTime (text : List Char) : Bool :=
  let parsed : Option Bool := do
    let (year, rest) ← takeExact? 4 text
    let (month, rest) ← takeExact? 2 (← takeChar? '-' rest)
    let (day, rest) ← takeExact? 2 (← takeChar? '-' rest)
    let rest ← match rest with
      | c :: rest => if c = 'T' || c = 't' || c = ' ' then some rest else none
      | [] => none
    let (hour, rest) ← takeExact? 2 rest
    let (minute, rest) ← takeExact? 2 (← takeChar? ':' rest)
    let (second, rest) ← takeExact? 2 (← takeChar? ':' rest)
    let rest ← takeOffset? (← takeFraction? rest)
    return rest.isEmpty && isDay year month day && isTimeOfDay hour minute second
  parsed.getD false

end Calendar
end ApiContract
