import ZfsReplication.Text.Unicode

/-!
# Calendar dates

Dates of the proleptic Gregorian calendar, read from `YYYY-MM-DD` text and written as `YYYYMMDD`
for snapshot names. Reading takes up to four digits of year (more with an explicit sign), one or two
digits of month and day, and refuses a date the calendar does not have.
-/

set_option autoImplicit false

namespace ZfsReplication.Calendar

/-- A calendar date. -/
structure Date where
  year : Int
  month : Nat
  day : Nat
deriving DecidableEq, Repr

/-- Why a text is not a date. -/
inductive DateError where
  /-- A field or the date is outside its range. -/
  | outOfRange
  /-- A character is not what the format expects. -/
  | invalid
  /-- The text ends early. -/
  | tooShort
  /-- The text goes on after the date. -/
  | tooLong
deriving DecidableEq, Repr

/-- The text of a date reading failure. -/
def DateError.message : DateError → String
  | .outOfRange => "input is out of range"
  | .invalid => "input contains invalid characters"
  | .tooShort => "premature end of input"
  | .tooLong => "trailing input"

/-- Whether `y` is a leap year. -/
def isLeapYear (y : Int) : Bool := (y % 4 == 0 && y % 100 != 0) || y % 400 == 0

/-- The number of days of a month. -/
def daysInMonth (y : Int) (m : Nat) : Nat :=
  match m with
  | 2 => if isLeapYear y then 29 else 28
  | 4 | 6 | 9 | 11 => 30
  | _ => 31

/-- Reads between `least` and `most` ASCII digits, stopping at the first other character. -/
def readDigits (least most : Nat) (cs : List Char) : Except DateError (Nat × List Char) :=
  if cs.length < least then .error .tooShort
  else
    let ds := (cs.take most).takeWhile Char.isDigit
    if ds.length < least then .error .invalid
    else .ok (ds.foldl (fun acc c => acc * 10 + (c.toNat - '0'.toNat)) 0, cs.drop ds.length)

/-- Expects `c` at the front. -/
def expectChar (c : Char) : List Char → Except DateError (List Char)
  | [] => .error .tooShort
  | d :: rest => if d == c then .ok rest else .error .invalid

/-- Reads the year: four digits at most without a sign, any number after `+` or `-`; leading
blanks are skipped. -/
def readYear (cs : List Char) : Except DateError (Int × List Char) :=
  match cs.dropWhile Text.isBlank with
  | '-' :: rest => (readDigits 1 rest.length rest).map fun (n, r) => (-(n : Int), r)
  | '+' :: rest => (readDigits 1 rest.length rest).map fun (n, r) => ((n : Int), r)
  | rest => (readDigits 1 4 rest).map fun (n, r) => ((n : Int), r)

/-- Reads `YYYY-MM-DD`. -/
def Date.parse (text : String) : Except DateError Date := do
  let (year, r) ← readYear text.toList
  let r ← expectChar '-' r
  let (month, r) ← readDigits 1 2 (r.dropWhile Text.isBlank)
  if month < 1 || month > 12 then throw .outOfRange
  let r ← expectChar '-' r
  let (day, r) ← readDigits 1 2 (r.dropWhile Text.isBlank)
  if day < 1 || day > 31 then throw .outOfRange
  if !r.isEmpty then throw .tooLong
  if year < -262143 || year > 262142 || day > daysInMonth year month then throw .outOfRange
  pure ⟨year, month, day⟩

/-- `n` in decimal, zero-padded to `width` digits. -/
def padded (width n : Nat) : String :=
  let ds := Nat.toDigits 10 n
  String.ofList (List.replicate (width - ds.length) '0' ++ ds)

/-- The date as `YYYYMMDD`; a year outside 0 to 9999 carries its sign. -/
def Date.compact (d : Date) : String :=
  let year :=
    if 0 ≤ d.year && d.year < 10000 then padded 4 d.year.toNat
    else (if d.year < 0 then "-" else "+") ++ padded 4 d.year.natAbs
  year ++ padded 2 d.month ++ padded 2 d.day

example : (Date.parse "2026-10-19").toOption = some ⟨2026, 10, 19⟩ := by decide
example : Date.compact ⟨2026, 10, 9⟩ = "20261009" := by decide

end ZfsReplication.Calendar
