import ClusterSingleton.Text.Blank
import ClusterSingleton.Text.Cut
import ClusterSingleton.Text.Decimal

/-!
# Timestamps

A point in calendar time, always in UTC, to the nanosecond; any minute may have a leap second. A
timestamp is written as `2024-01-02T03:04:05.678Z`, with as many groups of three decimals as it
needs. It is read more liberally: with blanks before numbers, with fewer digits, and with any offset
from UTC.
-/

namespace ClusterSingleton

/-! ## The calendar -/

structure Date : Type where
  year : Int
  month : Nat
  day : Nat
deriving DecidableEq, Repr

namespace Date

def minYear : Int := -262143

def maxYear : Int := 262142

def isLeap (year : Int) : Bool := year % 4 == 0 && (year % 100 != 0 || year % 400 == 0)

def daysIn (year : Int) (month : Nat) : Nat :=
  if month = 2 then if isLeap year then 29 else 28
  else if month = 4 ∨ month = 6 ∨ month = 9 ∨ month = 11 then 30
  else 31

/-- Whether the calendar has the day. -/
def Exists (d : Date) : Prop :=
  minYear ≤ d.year ∧ d.year ≤ maxYear ∧ 1 ≤ d.month ∧ d.month ≤ 12
    ∧ 1 ≤ d.day ∧ d.day ≤ daysIn d.year d.month

instance (d : Date) : Decidable d.Exists := by
  unfold Exists
  infer_instance

def next (d : Date) : Date :=
  if d.day < daysIn d.year d.month then { d with day := d.day + 1 }
  else if d.month < 12 then ⟨d.year, d.month + 1, 1⟩
  else ⟨d.year + 1, 1, 1⟩

def previous (d : Date) : Date :=
  if 1 < d.day then { d with day := d.day - 1 }
  else if 1 < d.month then ⟨d.year, d.month - 1, daysIn d.year (d.month - 1)⟩
  else ⟨d.year - 1, 12, 31⟩

end Date

/-- A time of day; the second 60 is a leap second. -/
structure TimeOfDay : Type where
  hour : Nat
  minute : Nat
  second : Nat
  nano : Nat
deriving DecidableEq, Repr

def TimeOfDay.Exists (t : TimeOfDay) : Prop :=
  t.hour < 24 ∧ t.minute < 60 ∧ t.second ≤ 60 ∧ t.nano < 1000000000

instance (t : TimeOfDay) : Decidable t.Exists := by
  unfold TimeOfDay.Exists
  infer_instance

structure Timestamp : Type where
  date : Date
  time : TimeOfDay
  date_exists : date.Exists
  time_exists : time.Exists
deriving DecidableEq, Repr

namespace Timestamp

def create? (date : Date) (time : TimeOfDay) : Option Timestamp :=
  if hd : date.Exists then
    if ht : time.Exists then some ⟨date, time, hd, ht⟩ else none
  else none

/-- The timestamp of a local date and time that is `offset` minutes ahead of UTC, by less than a
day. -/
def ofLocal? (date : Date) (time : TimeOfDay) (offset : Int) : Option Timestamp :=
  if date.Exists then
    let minutes : Int := time.hour * 60 + time.minute - offset
    let date := if minutes < 0 then date.previous else if minutes < 1440 then date else date.next
    let ofDay := (minutes % 1440).toNat
    create? date { time with hour := ofDay / 60, minute := ofDay % 60 }
  else none

/-! ## Writing -/

/-- A number with at least `width` digits. -/
def padded (width n : Nat) : List Char :=
  let ds := (toString n).toList
  List.replicate (width - ds.length) '0' ++ ds

/-- Years of more than four digits, and those before the year 0, have a sign. -/
def yearChars (y : Int) : List Char :=
  if 0 ≤ y ∧ y ≤ 9999 then padded 4 y.toNat
  else (if y < 0 then '-' else '+') :: padded 4 y.natAbs

/-- The decimals of a second: none, three, six or nine. -/
def fractionChars (nano : Nat) : List Char :=
  if nano = 0 then []
  else if nano % 1000000 = 0 then '.' :: padded 3 (nano / 1000000)
  else if nano % 1000 = 0 then '.' :: padded 6 (nano / 1000)
  else '.' :: padded 9 nano

def chars (t : Timestamp) : List Char :=
  yearChars t.date.year ++ '-' :: padded 2 t.date.month ++ '-' :: padded 2 t.date.day
    ++ 'T' :: padded 2 t.time.hour ++ ':' :: padded 2 t.time.minute ++ ':' :: padded 2 t.time.second
    ++ fractionChars t.time.nano ++ ['Z']

def text (t : Timestamp) : String := String.ofList t.chars

/-! ## Reading -/

def skipBlanks (cs : List Char) : List Char := cs.dropWhile Text.isBlank

/-- A number of at most `limit` digits, and what follows it. -/
def number? (limit : Nat) (cs : List Char) : Option (Nat × List Char) :=
  let ds := (cs.takeWhile Text.isDigit).take limit
  if ds.isEmpty then none else some (Text.decimalValue ds, cs.drop ds.length)

/-- A year: of at most four digits, or of any number of them behind a sign. -/
def year? (cs : List Char) : Option (Int × List Char) :=
  match cs with
  | '-' :: rest => (number? rest.length rest).map (fun p => (-p.1, p.2))
  | '+' :: rest => (number? rest.length rest).map (fun p => (p.1, p.2))
  | _ => (number? 4 cs).map (fun p => (p.1, p.2))

/-- A two-digit field behind blanks and a separator. -/
def field? (separator : Char) (cs : List Char) : Option (Nat × List Char) :=
  match skipBlanks cs with
  | c :: rest => if c = separator then number? 2 (skipBlanks rest) else none
  | [] => none

/-- The decimals of a second in nanoseconds: as if there were nine of them, with zeros in place of
those that are missing. -/
def fraction? (cs : List Char) : Option (Nat × List Char) :=
  match cs with
  | '.' :: rest =>
      let ds := rest.takeWhile Text.isDigit
      if ds.isEmpty then none
      else some (Text.decimalValue ((ds ++ List.replicate 9 '0').take 9), rest.drop ds.length)
  | _ => some (0, cs)

/-- Two digits. -/
def pair? (cs : List Char) : Option (Nat × List Char) :=
  match cs with
  | a :: b :: rest =>
      if Text.isDigit a && Text.isDigit b then some (Text.decimalValue [a, b], rest) else none
  | _ => none

/-- Hours and minutes of an offset, with colons and blanks between them. -/
def offset? (cs : List Char) : Option (Nat × List Char) := do
  let (hours, cs) ← pair? cs
  let (minutes, cs) ← pair? (cs.dropWhile (fun c => c == ':' || Text.isBlank c))
  if hours < 24 ∧ minutes < 60 then some (hours * 60 + minutes, cs) else none

def isUtc (cs : List Char) : Bool :=
  match cs with
  | [u, t, c] => (u == 'u' || u == 'U') && (t == 't' || t == 'T') && (c == 'c' || c == 'C')
  | _ => false

/-- The offset from UTC in minutes. -/
def zone? (cs : List Char) : Option (Int × List Char) :=
  if isUtc (cs.take 3) then some (0, cs.drop 3)
  else
    match cs with
    | c :: rest =>
        if c = 'Z' ∨ c = 'z' then some (0, rest)
        else if c = '+' then (offset? rest).map (fun p => (p.1, p.2))
        else if c = '-' ∨ c = '−' then (offset? rest).map (fun p => (-p.1, p.2))
        else none
    | [] => none

def parse? (cs : List Char) : Option Timestamp := do
  let (year, cs) ← year? (skipBlanks cs)
  let (month, cs) ← field? '-' cs
  let (day, cs) ← field? '-' cs
  let cs ← match cs with
    | c :: rest => if c = 't' ∨ c = 'T' ∨ c = ' ' then some rest else none
    | [] => none
  let (hour, cs) ← number? 2 (skipBlanks cs)
  let (minute, cs) ← field? ':' cs
  let (second, cs) ← field? ':' cs
  let (nano, cs) ← fraction? cs
  let (offset, cs) ← zone? (skipBlanks cs)
  let time : TimeOfDay := ⟨hour, minute, second, nano⟩
  if time.Exists ∧ skipBlanks cs = [] then ofLocal? ⟨year, month, day⟩ time offset else none

end Timestamp

end ClusterSingleton
