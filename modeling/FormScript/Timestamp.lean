import FormScript.Text.Blank

/-! Points in time, kept as civil date and time in UTC. Reading takes a date, a time and an offset,
with white space allowed around the separators and leading zeros left out at will; writing gives
the fewest of 0, 3, 6 and 9 places after the second that lose nothing. -/
namespace FormScript

def isLeapYear (year : Int) : Bool :=
  year % 4 == 0 && (year % 100 != 0 || year % 400 == 0)

def daysInMonth (year : Int) (month : Nat) : Nat :=
  if month = 2 then if isLeapYear year then 29 else 28
  else if month = 4 ∨ month = 6 ∨ month = 9 ∨ month = 11 then 30
  else 31

def isDay (year : Int) (month day : Nat) : Bool :=
  decide (-262143 ≤ year) && decide (year ≤ 262142) && decide (1 ≤ month) && decide (month ≤ 12) &&
    decide (1 ≤ day) && decide (day ≤ daysInMonth year month)

/-- A time of day; second 60 is a leap second. -/
def isTime (hour minute second nanos : Nat) : Bool :=
  decide (hour ≤ 23) && decide (minute ≤ 59) && decide (second ≤ 60) && decide (nanos < 1000000000)

structure Timestamp where
  year : Int
  month : Nat
  day : Nat
  hour : Nat
  minute : Nat
  second : Nat
  nanos : Nat
  isDay : FormScript.isDay year month day = true
  isTime : FormScript.isTime hour minute second nanos = true
  deriving DecidableEq, Repr

namespace Timestamp

def ofFields? (year : Int) (month day hour minute second nanos : Nat) : Option Timestamp :=
  if hd : FormScript.isDay year month day then
    if ht : FormScript.isTime hour minute second nanos then
      some ⟨year, month, day, hour, minute, second, nanos, hd, ht⟩
    else none
  else none

def dayBefore (year : Int) (month day : Nat) : Int × Nat × Nat :=
  if 1 < day then (year, month, day - 1)
  else if 1 < month then (year, month - 1, daysInMonth year (month - 1))
  else (year - 1, 12, 31)

def dayAfter (year : Int) (month day : Nat) : Int × Nat × Nat :=
  if day < daysInMonth year month then (year, month, day + 1)
  else if month < 12 then (year, month + 1, 1)
  else (year + 1, 1, 1)

/-- The point in time whose clock, `offset` minutes ahead of UTC, shows what `local_` says. -/
def atOffset? (offset : Int) (local_ : Timestamp) : Option Timestamp :=
  let minutes : Int := local_.hour * 60 + local_.minute - offset
  let (year, month, day) :=
    if minutes < 0 then dayBefore local_.year local_.month local_.day
    else if 1440 ≤ minutes then dayAfter local_.year local_.month local_.day
    else (local_.year, local_.month, local_.day)
  let inDay := (minutes % 1440).toNat
  ofFields? year month day (inDay / 60) (inDay % 60) local_.second local_.nanos

/-- The year, month and day so many days after the first day of 1970. Years are counted from March,
so that a leap day is the last of its year, and eras of 400 years all have 146097 days. -/
def dateOfDays (days : Int) : Int × Nat × Nat :=
  let shifted := days + 719468
  let dayOfEra := (shifted % 146097).toNat
  let yearOfEra := (dayOfEra - dayOfEra / 1460 + dayOfEra / 36524 - dayOfEra / 146096) / 365
  let dayOfYear := dayOfEra - (365 * yearOfEra + yearOfEra / 4 - yearOfEra / 100)
  let fromMarch := (5 * dayOfYear + 2) / 153
  let month := if fromMarch < 10 then fromMarch + 3 else fromMarch - 9
  let year : Int := yearOfEra + shifted / 146097 * 400
  (if month ≤ 2 then year + 1 else year, month, dayOfYear - (153 * fromMarch + 2) / 5 + 1)

def ofNanos? (nanos : Int) : Option Timestamp :=
  let seconds := nanos / 1000000000
  let (year, month, day) := dateOfDays (seconds / 86400)
  let inDay := (seconds % 86400).toNat
  ofFields? year month day (inDay / 3600) (inDay / 60 % 60) (inDay % 60)
    (nanos % 1000000000).toNat

def readDigits (width : Nat) (cs : List Char) : Option (Nat × List Char) :=
  let digits := (cs.take width).takeWhile Char.isDigit
  if digits.isEmpty then none
  else some (Nat.ofDigitChars 10 digits 0, cs.drop digits.length)

def readNumber (width : Nat) (cs : List Char) : Option (Nat × List Char) :=
  readDigits width (Text.trimStart cs)

/-- A year has at most four digits unless a sign is written before it. -/
def readYear (cs : List Char) : Option (Int × List Char) :=
  match Text.trimStart cs with
  | '-' :: rest => (readDigits rest.length rest).map fun (n, after) => (-n, after)
  | '+' :: rest => (readDigits rest.length rest).map fun (n, after) => (n, after)
  | rest => (readDigits 4 rest).map fun (n, after) => (n, after)

def readMark (mark : Char) (cs : List Char) : Option (List Char) :=
  match Text.trimStart cs with
  | c :: rest => if c = mark then some rest else none
  | [] => none

/-- A fraction of a second in billionths; places beyond the ninth are dropped. -/
def readNanos : List Char → Option (Nat × List Char)
  | '.' :: cs =>
    let digits := cs.takeWhile Char.isDigit
    let kept := digits.take 9
    if digits.isEmpty then none
    else some (Nat.ofDigitChars 10 kept 0 * Nat.pow 10 (9 - kept.length), cs.dropWhile Char.isDigit)
  | cs => some (0, cs)

def readPair : List Char → Option (Nat × List Char)
  | a :: b :: rest =>
    if a.isDigit && b.isDigit then some (Nat.ofDigitChars 10 [a, b] 0, rest) else none
  | _ => none

def isOffsetMark (c : Char) : Bool :=
  c == ':' || Text.isBlank c

def readHoursMinutes (cs : List Char) : Option (Nat × List Char) := do
  let (hours, cs) ← readPair cs
  let (minutes, cs) ← readPair (cs.dropWhile isOffsetMark)
  if minutes < 60 ∧ hours < 24 then return (hours * 60 + minutes, cs) else none

def readOffset (cs : List Char) : Option (Int × List Char) :=
  match cs with
  | c :: rest =>
    if (cs.take 3).map Char.toLower = ['u', 't', 'c'] then some (0, cs.drop 3)
    else if c = 'Z' ∨ c = 'z' then some (0, rest)
    else if c = '+' then (readHoursMinutes rest).map fun (n, after) => (n, after)
    else if c = '-' ∨ c.toNat = 0x2212 then
      (readHoursMinutes rest).map fun (n, after) => (-n, after)
    else none
  | [] => none

def readDivider : List Char → Option (List Char)
  | c :: rest => if c = 'T' ∨ c = 't' ∨ c = ' ' then some rest else none
  | [] => none

def read (text : String) : Option Timestamp := do
  let (year, cs) ← readYear text.toList
  let (month, cs) ← readNumber 2 (← readMark '-' cs)
  let (day, cs) ← readNumber 2 (← readMark '-' cs)
  let (hour, cs) ← readNumber 2 (← readDivider cs)
  let (minute, cs) ← readNumber 2 (← readMark ':' cs)
  let (second, cs) ← readNumber 2 (← readMark ':' cs)
  let (nanos, cs) ← readNanos cs
  let (offset, cs) ← readOffset (Text.trimStart cs)
  if cs.all Text.isBlank then
    atOffset? offset (← ofFields? year month day hour minute second nanos)
  else none

def padded (width n : Nat) : List Char :=
  let digits := Nat.toDigits 10 n
  List.replicate (width - digits.length) '0' ++ digits

def writeYear (year : Int) : List Char :=
  if 0 ≤ year ∧ year ≤ 9999 then padded 4 year.toNat
  else (if year < 0 then '-' else '+') :: padded 4 year.natAbs

def writeNanos (nanos : Nat) : List Char :=
  if nanos = 0 then []
  else if nanos % 1000000 = 0 then '.' :: padded 3 (nanos / 1000000)
  else if nanos % 1000 = 0 then '.' :: padded 6 (nanos / 1000)
  else '.' :: padded 9 nanos

def write (t : Timestamp) : String :=
  String.ofList (writeYear t.year ++ '-' :: padded 2 t.month ++ '-' :: padded 2 t.day ++
    'T' :: padded 2 t.hour ++ ':' :: padded 2 t.minute ++ ':' :: padded 2 t.second ++
    writeNanos t.nanos ++ ['Z'])

end Timestamp

end FormScript
