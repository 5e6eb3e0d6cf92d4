import ExpenseReport.Calendar.Date
import ExpenseReport.Text.Blank
import ExpenseReport.Text.Digits

/-!
# Dates as text

A date is written as year, month and day with hyphens between them. A year of the first ten
millennia has four digits and no sign, any other a sign and at least four digits. Reading is more
generous: it passes over blanks around the parts, wants no zeros in front, and takes a sign before
any year.
-/

namespace ExpenseReport.Date

open Text

/-- A year, with a sign unless it has four digits at most and is not negative. -/
def writeYear (year : Int) : List Char :=
  if year < 0 then '-' :: paddedDigits 4 year.natAbs
  else if 9999 < year then '+' :: paddedDigits 4 year.natAbs
  else paddedDigits 4 year.natAbs

/-- A date as year, month and day. -/
def write (d : Date) : List Char :=
  writeYear d.year ++ '-' :: paddedDigits 2 d.month ++ '-' :: paddedDigits 2 d.day

def toText (d : Date) : String :=
  String.ofList d.write

/-- The first moment of a date. -/
def toMomentText (d : Date) : String :=
  String.ofList (d.write ++ "T00:00:00".toList)

/-- Takes a number of digits, `most` of them at most, and at least one. -/
def readNumber? (most : Nat) (cs : List Char) : Option (Nat × List Char) := do
  let run := (cs.take most).takeWhile isDigit
  return (← value? run, cs.drop run.length)

/-- Takes a year: any number of digits behind a sign, four at most without one. -/
def readYear? : List Char → Option (Int × List Char)
  | '-' :: rest => (readNumber? rest.length rest).map fun (n, rest) => (-(n : Int), rest)
  | '+' :: rest => (readNumber? rest.length rest).map fun (n, rest) => ((n : Int), rest)
  | cs => (readNumber? 4 cs).map fun (n, rest) => ((n : Int), rest)

/-- Takes the hyphen between two parts, with any blanks on both sides. -/
def readHyphen? (cs : List Char) : Option (List Char) :=
  match dropBlanks cs with
  | '-' :: rest => some (dropBlanks rest)
  | _ => none

/-- Reads a date that exists. -/
def read? (cs : List Char) : Option Date := do
  let (year, rest) ← readYear? (dropBlanks cs)
  let (month, rest) ← readNumber? 2 (← readHyphen? rest)
  let (day, rest) ← readNumber? 2 (← readHyphen? rest)
  if (dropBlanks rest).isEmpty then ofParts? year month day else none

def ofText? (text : String) : Option Date :=
  read? text.toList

end ExpenseReport.Date
