/-! Points in time to the nanosecond, and their written form: a date of the calendar, a time of day,
and how far that is ahead of UTC. A leap second counts as the last nanosecond before it. -/

namespace CredentialResolution
set_option autoImplicit false

/-- The point `nanos` nanoseconds after `seconds` whole seconds, counted from the epoch. -/
structure Timestamp where
  seconds : Int
  nanos : Nat
  deriving DecidableEq, Repr

namespace Timestamp

def isLeap (year : Nat) : Bool := year % 4 == 0 && (year % 100 != 0 || year % 400 == 0)

def monthDays (year : Nat) : List Nat :=
  [31, if isLeap year then 29 else 28, 31, 30, 31, 30, 31, 31, 30, 31, 30, 31]

def daysIn (year month : Nat) : Nat :=
  if month = 0 then 0 else (monthDays year).getD (month - 1) 0

def daysBeforeYear (year : Nat) : Int :=
  let y : Int := (year : Int) - 1
  365 * y + y / 4 - y / 100 + y / 400

def daysTo (year month day : Nat) : Int :=
  daysBeforeYear year - daysBeforeYear 1970 +
    ((monthDays year).take (month - 1)).foldl Nat.add 0 + (day - 1)

structure Date where
  year : Nat
  month : Nat
  day : Nat
  deriving DecidableEq, Repr

/-- A time of day. The second 60 is a leap second. -/
structure Clock where
  hour : Nat
  minute : Nat
  second : Nat
  nanos : Nat
  deriving DecidableEq, Repr

/-- A number of exactly `count` digits at the front, and what follows it. -/
def readCount? : Nat → Nat → List Char → Option (Nat × List Char)
  | 0, n, cs => some (n, cs)
  | _ + 1, _, [] => none
  | count + 1, n, c :: cs =>
    if '0' ≤ c ∧ c ≤ '9' then readCount? count (10 * n + (c.toNat - 48)) cs else none

/-- What follows one of the characters in `marks`. -/
def readMark? (marks : List Char) : List Char → Option (List Char)
  | c :: cs => if c ∈ marks then some cs else none
  | [] => none

def readPair? (least greatest : Nat) (cs : List Char) : Option (Nat × List Char) :=
  match readCount? 2 0 cs with
  | some (n, rest) => if least ≤ n ∧ n ≤ greatest then some (n, rest) else none
  | none => none

def readDate? (cs : List Char) : Option (Date × List Char) := do
  let (year, cs) ← readCount? 4 0 cs
  let (month, cs) ← readPair? 1 12 (← readMark? ['-'] cs)
  let (day, cs) ← readPair? 1 (daysIn year month) (← readMark? ['-'] cs)
  return (⟨year, month, day⟩, cs)

/-- The nanoseconds of a fraction of a second, of which nine digits count. -/
def readNanos? : List Char → Option (Nat × List Char)
  | '.' :: cs =>
    let digits := cs.takeWhile fun c => '0' ≤ c && c ≤ '9'
    let nine := (digits ++ List.replicate 9 '0').take 9
    if digits.isEmpty then none
    else (readCount? 9 0 nine).map fun r => (r.1, cs.drop digits.length)
  | cs => some (0, cs)

def readClock? (cs : List Char) : Option (Clock × List Char) := do
  let (hour, cs) ← readPair? 0 23 cs
  let (minute, cs) ← readPair? 0 59 (← readMark? [':'] cs)
  let (second, cs) ← readPair? 0 60 (← readMark? [':'] cs)
  let (nanos, cs) ← readNanos? cs
  return (⟨hour, minute, second, nanos⟩, cs)

def readOffset? : List Char → Option Int
  | ['Z'] | ['z'] => some 0
  | sign :: cs => do
    let (hour, cs) ← readPair? 0 23 cs
    let (minute, cs) ← readPair? 0 59 (← readMark? [':'] cs)
    let ahead : Int := hour * 3600 + minute * 60
    if cs ≠ [] then none
    else if sign = '+' then some ahead
    else if sign = '-' then some (-ahead)
    else none
  | [] => none

/-- Leap seconds come only at the end of a month of UTC. -/
def endsMonth (d : Date) (seconds : Int) : Bool :=
  let month := daysTo d.year d.month 1
  seconds == month * 86400 || seconds == (month + daysIn d.year d.month) * 86400

def ofParts? (d : Date) (c : Clock) (ahead : Int) : Option Timestamp :=
  let seconds := daysTo d.year d.month d.day * 86400 + c.hour * 3600 + c.minute * 60 + c.second - ahead
  if c.second < 60 then some ⟨seconds, c.nanos⟩
  else if endsMonth d seconds then some ⟨seconds - 1, 999999999⟩
  else none

/-- Reads a date with a time of day, as in `2021-08-16T20:52:53Z`. -/
def read? (s : String) : Option Timestamp := do
  let (date, cs) ← readDate? s.toList
  let (clock, cs) ← readClock? (← readMark? ['T', 't'] cs)
  ofParts? date clock (← readOffset? cs)

/-- The distance from the epoch in whole seconds, negative before it, and the nanoseconds left. -/
def distance (t : Timestamp) : Int × Nat :=
  if 0 ≤ t.seconds ∨ t.nanos = 0 then (t.seconds, t.nanos)
  else (t.seconds + 1, 1000000000 - t.nanos)

end Timestamp
end CredentialResolution
