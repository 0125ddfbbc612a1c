import DeliveryGate.Number.Reading
import DeliveryGate.Text.Blank
import DeliveryGate.Time.Calendar
import DeliveryGate.Time.Instant

/-!
# Timestamps

`Instant.render` writes an instant as `YYYY-MM-DDTHH:MM:SSZ` with no, three, six or nine decimals,
as many as it needs. `Instant.parse?` also reads looser forms: blanks before each part, one space
for the `T`, short numbers, any number of decimals (nine count), and an offset from universal time.
-/

namespace DeliveryGate

namespace Instant

/-! ### Writing -/

/-- A number in at least `width` digits. -/
def padded (width n : Nat) : List Char :=
  let digits := Nat.toDigits 10 n
  List.replicate (width - digits.length) '0' ++ digits

/-- A year: four digits, with a sign outside of 0 to 9999. -/
def renderYear (year : Int) : List Char :=
  if 0 ≤ year && year ≤ 9999 then padded 4 year.natAbs
  else (if year < 0 then '-' else '+') :: padded 4 year.natAbs

/-- The decimals of a second: none, three, six or nine digits. -/
def renderFraction (nanos : Nat) : List Char :=
  if nanos == 0 then []
  else if nanos % 1000000 == 0 then '.' :: padded 3 (nanos / 1000000)
  else if nanos % 1000 == 0 then '.' :: padded 6 (nanos / 1000)
  else '.' :: padded 9 nanos

/-- The text of an instant in universal time; a leap second is second 60. -/
def render (t : Instant) : List Char :=
  let date := Date.ofDays (t.seconds / secondsPerDay)
  let time := t.timeOfDay.toNat
  let (sec, nanos) :=
    if t.isLeap then (time % 60 + 1, t.nanos - second) else (time % 60, t.nanos)
  renderYear date.year ++ '-' :: padded 2 date.month ++ '-' :: padded 2 date.day
    ++ 'T' :: padded 2 (time / 3600) ++ ':' :: padded 2 (time / 60 % 60) ++ ':' :: padded 2 sec
    ++ renderFraction nanos ++ ['Z']

/-! ### Reading -/

/-- The years that a date may have. -/
def isYear (year : Int) : Bool := -262143 ≤ year && year ≤ 262142

/-- The number in the first digits of a text, at least one and at most `width`, and the rest. -/
def number? (width : Nat) (cs : List Char) : Option (Nat × List Char) :=
  let digits := (cs.take width).takeWhile Number.isDigit
  if digits.isEmpty then none else some (Number.ofDigits digits, cs.drop digits.length)

/-- A year: any number of digits behind a sign, else at most four. -/
def year? : List Char → Option (Int × List Char)
  | '-' :: rest => (number? rest.length rest).map fun (n, rest) => (-(n : Int), rest)
  | '+' :: rest => (number? rest.length rest).map fun (n, rest) => ((n : Int), rest)
  | cs => (number? 4 cs).map fun (n, rest) => ((n : Int), rest)

/-- A mark with blanks allowed in front of it, and the rest. -/
def mark? (mark : Char) (cs : List Char) : Option (List Char) :=
  match Text.trimStart cs with
  | c :: rest => if c == mark then some rest else none
  | [] => none

/-- A mark and a number of at most two digits, with blanks allowed in front of both. -/
def part? (mark : Char) (cs : List Char) : Option (Nat × List Char) := do
  let rest ← mark? mark cs
  number? 2 (Text.trimStart rest)

/-- The nanoseconds of the decimals behind a point, if there is one. -/
def fraction? : List Char → Option (Nat × List Char)
  | '.' :: rest =>
    let digits := rest.takeWhile Number.isDigit
    if digits.isEmpty then none
    else
      let kept := digits.take 9
      some (Number.ofDigits kept * Nat.pow 10 (9 - kept.length), rest.drop digits.length)
  | cs => some (0, cs)

/-- Two digits, and the rest. -/
def twoDigits? : List Char → Option (Nat × List Char)
  | a :: b :: rest => do
    let tens ← Number.digit? a
    let ones ← Number.digit? b
    some (10 * tens + ones, rest)
  | _ => none

/-- Hours and minutes of an offset, with colons or blanks between them, in seconds. -/
def offsetBody? (cs : List Char) : Option (Nat × List Char) := do
  let (hours, rest) ← twoDigits? cs
  let (minutes, rest) ← twoDigits? (rest.dropWhile fun c => c == ':' || Text.isBlank c)
  if minutes < 60 && hours < 24 then some (3600 * hours + 60 * minutes, rest) else none

/-- An offset from universal time in seconds: the letter Z, the word UTC, or hours and minutes
behind a sign. -/
def offset? (cs : List Char) : Option (Int × List Char) :=
  if (cs.take 3).map Char.toUpper == ['U', 'T', 'C'] then some (0, cs.drop 3)
  else
    match cs with
    | 'Z' :: rest => some (0, rest)
    | 'z' :: rest => some (0, rest)
    | '+' :: rest => (offsetBody? rest).map fun (n, rest) => ((n : Int), rest)
    | '-' :: rest => (offsetBody? rest).map fun (n, rest) => (-(n : Int), rest)
    | '−' :: rest => (offsetBody? rest).map fun (n, rest) => (-(n : Int), rest)
    | _ => none

/-- The instant with these parts of local time at this offset, if there is one. -/
def ofParts? (date : Date) (hour minute sec nanos : Nat) (offset : Int) : Option Instant :=
  if isYear date.year && date.isValid && hour < 24 && minute < 60 && sec ≤ 60 then
    let time : Int := 3600 * hour + 60 * minute + min sec 59
    let seconds := date.toDays * secondsPerDay + time - offset
    if isYear (Date.ofDays (seconds / secondsPerDay)).year then
      some ⟨seconds, if sec == 60 then nanos + second else nanos⟩
    else none
  else none

/-- Read an instant. -/
def parse? (text : String) : Option Instant := do
  let (year, rest) ← year? (Text.trimStart text.toList)
  let (month, rest) ← part? '-' rest
  let (day, rest) ← part? '-' rest
  let rest ← match rest with
    | 'T' :: rest => some rest
    | 't' :: rest => some rest
    | ' ' :: rest => some rest
    | _ => none
  let (hour, rest) ← number? 2 (Text.trimStart rest)
  let (minute, rest) ← part? ':' rest
  let (sec, rest) ← part? ':' rest
  let (nanos, rest) ← fraction? rest
  let (offset, rest) ← offset? (Text.trimStart rest)
  if (Text.trimStart rest).isEmpty then
    ofParts? ⟨year, month, day⟩ hour minute sec nanos offset
  else none

end Instant

end DeliveryGate
