import SiteConf.Data.Numeral

/-!
# Dates of YAML

A word such as `2024-02-29` or `2024-02-29 12:00:00 +01:00` is a date, with a time of the day and an
offset from universal time or without. Dates stay words here, but a word in the form of a date that
the calendar lacks is refused.
-/

namespace SiteConf.Data.Yaml

/-- A time of the day. -/
structure Time where
  hour : Nat
  minute : Nat
  second : Nat
  /-- The offset from universal time in minutes. -/
  offset : Int := 0

structure Date where
  year : Nat
  month : Nat
  day : Nat
  time : Option Time := none

/-- The number at the start, of some count of digits, and the rest. -/
def takeNumber? (least most : Nat) (cs : List Char) : Option (Nat × List Char) :=
  let ds := (cs.take most).takeWhile Char.isDigit
  if least ≤ ds.length then some (decimalValue ds, cs.drop ds.length) else none

/-- The rest after a character. -/
def skip? (c : Char) : List Char → Option (List Char)
  | d :: cs => if d = c then some cs else none
  | [] => none

def isSpace (c : Char) : Bool := c == ' ' || c == '\t'

/-- The offset at the end of a time, in minutes. -/
def readOffset? (cs : List Char) : Option Int :=
  match cs, cs.dropWhile isSpace with
  | [], _ | _, ['Z'] => some 0
  | _, sign :: rest =>
    if sign = '+' ∨ sign = '-' then do
      let (hours, rest) ← takeNumber? 1 2 rest
      let (minutes, rest) ← if rest.isEmpty then some (0, []) else takeNumber? 2 2 (← skip? ':' rest)
      if rest.isEmpty then some (Numeral.signed [sign] (60 * hours + minutes)) else none
    else none
  | _, [] => none

/-- The time after the day. -/
def Time.read? (cs : List Char) : Option Time := do
  let cs ← match cs with
    | 'T' :: rest | 't' :: rest => some rest
    | _ => if (cs.head?.map isSpace).getD false then some (cs.dropWhile isSpace) else none
  let (hour, cs) ← takeNumber? 1 2 cs
  let (minute, cs) ← takeNumber? 2 2 (← skip? ':' cs)
  let (second, cs) ← takeNumber? 2 2 (← skip? ':' cs)
  let cs := match cs with
    | '.' :: rest => rest.dropWhile Char.isDigit
    | cs => cs
  return { hour, minute, second, offset := ← readOffset? cs }

/-- The date that is the whole text. Month and day have two digits if no time follows. -/
def Date.read? (cs : List Char) : Option Date := do
  let (year, rest) ← takeNumber? 4 4 cs
  let (month, rest) ← takeNumber? 1 2 (← skip? '-' rest)
  let (day, rest) ← takeNumber? 1 2 (← skip? '-' rest)
  if rest.isEmpty then
    if cs.length = 10 then some { year, month, day } else none
  else return { year, month, day, time := some (← Time.read? rest) }

/-- The days of a month. -/
def monthLength (year month : Nat) : Nat :=
  if month = 2 then
    if year % 4 = 0 ∧ (year % 100 ≠ 0 ∨ year % 400 = 0) then 29 else 28
  else if month = 4 ∨ month = 6 ∨ month = 9 ∨ month = 11 then 30 else 31

/-- What is wrong with an offset, which has to be less than a day. -/
def offsetFault? (minutes : Int) : Option String :=
  if minutes.natAbs < 1440 then none
  else
    let seconds := minutes.emod 1440 * 60
    some ("offset must be a timedelta strictly between -timedelta(hours=24) and " ++
      "timedelta(hours=24), not datetime.timedelta(days=" ++ toString (minutes.ediv 1440) ++
      (if seconds = 0 then "" else ", seconds=" ++ toString seconds) ++ ")")

/-- What is wrong with a time of the day. -/
def Time.fault? (t : Time) : Option String :=
  if 23 < t.hour then some "hour must be in 0..23"
  else if 59 < t.minute then some "minute must be in 0..59"
  else if 59 < t.second then some "second must be in 0..59"
  else none

/-- What is wrong with a date that the calendar lacks. -/
def Date.fault? (d : Date) : Option String :=
  (d.time.bind fun t => offsetFault? t.offset) <|>
    if d.year = 0 then some "year 0 is out of range"
    else if d.month = 0 ∨ 12 < d.month then some "month must be in 1..12"
    else if d.day = 0 ∨ monthLength d.year d.month < d.day then
      some "day is out of range for month"
    else d.time.bind Time.fault?

/-- What is wrong with a word in the form of a date. -/
def dateFault? (cs : List Char) : Option String := (Date.read? cs).bind Date.fault?

example : dateFault? "2024-13-45".toList = some "month must be in 1..12" := by decide +kernel

end SiteConf.Data.Yaml
