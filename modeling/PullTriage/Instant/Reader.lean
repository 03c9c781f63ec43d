import PullTriage.Instant.Basic
import PullTriage.Instant.Calendar
import PullTriage.Text.Blank

/-!
# Reading Instants

The time stamps that services exchange, read generously: a number may have
fewer digits than its place and white space before it, white space may stand
before a separator and at both ends, the letters may be small, the date and
the time may be apart by a space, and the offset may do without its colon or
be the name of universal time. A year with a sign may have any number of
digits.

What stays strict is the order of the parts and their ranges. Second 60 is a
leap second, and digits of the fraction past the ninth are dropped. The date
has to exist in the calendar both where the stamp was made and in universal
time.

## Main definitions

* `readNumber`: Reads a number of at most so many digits.
* `readYear`, `readPlace`, `readFraction`, `readOffset`: Read the parts of a
  stamp.
* `Instant.ofString?`: The instant that a stamp names.
-/

namespace PullTriage

namespace Instant

open Text (trimStart)

/-- The digits at the head of the text, at most `most` of them, and what
    follows. -/
def spanDigits : Nat → List Char → List Char × List Char
  | most + 1, c :: rest =>
    if c.isDigit then
      let (digits, after) := spanDigits most rest
      (c :: digits, after)
    else ([], c :: rest)
  | _, l => ([], l)

/-- A number of at most `most` digits, at least one, and what follows. -/
def readNumber (most : Nat) (l : List Char) : Option (Nat × List Char) :=
  match spanDigits most l with
  | ([], _) => none
  | (digits, after) => some (Nat.ofDigitChars 10 digits 0, after)

/-- The year after any white space. It has at most four digits unless it has
    a sign. -/
def readYear (l : List Char) : Option (Int × List Char) :=
  match trimStart l with
  | '-' :: rest => (readNumber rest.length rest).map fun (n, after) => (-(n : Int), after)
  | '+' :: rest => (readNumber rest.length rest).map fun (n, after) => ((n : Int), after)
  | rest => (readNumber 4 rest).map fun (n, after) => ((n : Int), after)

/-- A number of at most two digits after any white space, which has to lie in
    the given range. -/
def readPlace (low high : Nat) (l : List Char) : Option (Nat × List Char) := do
  let (n, after) ← readNumber 2 (trimStart l)
  if low ≤ n ∧ n ≤ high then some (n, after) else none

/-- What follows the separator after any white space. -/
def afterSeparator (c : Char) (l : List Char) : Option (List Char) :=
  match trimStart l with
  | d :: rest => if d = c then some rest else none
  | [] => none

/-- The nanoseconds of a fraction, none if there is no point. A point needs a
    digit behind it. -/
def readFraction : List Char → Option (Nat × List Char)
  | '.' :: rest =>
    match spanDigits 9 rest with
    | ([], _) => none
    | (digits, after) =>
      some (Nat.ofDigitChars 10 digits 0 * Nat.pow 10 (9 - digits.length),
        after.dropWhile Char.isDigit)
  | l => some (0, l)

/-- Whether the offset is west of universal time, by its sign. The minus sign
    of typography counts as a minus. -/
def offsetSign? : List Char → Option (Bool × List Char)
  | '+' :: rest => some (false, rest)
  | '-' :: rest => some (true, rest)
  | '−' :: rest => some (true, rest)
  | _ => none

/-- The value of two digits, the first at most `most`. -/
def readPair (most : Char) : List Char → Option (Nat × List Char)
  | a :: b :: rest =>
    if a.isDigit ∧ a ≤ most ∧ b.isDigit then some (Nat.ofDigitChars 10 [a, b] 0, rest) else none
  | _ => none

/-- The offset from universal time in seconds. Between the hours and the
    minutes any colons and white space may stand. -/
def readOffset (l : List Char) : Option (Int × List Char) :=
  match l with
  | 'Z' :: rest => some (0, rest)
  | 'z' :: rest => some (0, rest)
  | _ => do
    let (west, rest) ← offsetSign? l
    let (hours, rest) ← readPair '9' rest
    let (minutes, rest) ← readPair '5' (rest.dropWhile fun c => c == ':' || Text.isBlank c)
    let seconds : Int := (hours * 3600 + minutes * 60 : Nat)
    if seconds < 86400 then some (if west then -seconds else seconds, rest) else none

/-- The time zone, by its name or by its offset. -/
def readZone (l : List Char) : Option (Int × List Char) :=
  match l with
  | a :: b :: c :: rest =>
    if a.toUpper = 'U' ∧ b.toUpper = 'T' ∧ c.toUpper = 'C' then some (0, rest) else readOffset l
  | _ => readOffset l

/-- The instant of a date, a second of that day, a fraction and an offset.
    Second 60 of a minute is the second before it made long. -/
def ofCivil? (d : Date) (hour minute second nanos : Nat) (offset : Int) : Option Instant :=
  if d.IsValid ∧ -262143 ≤ d.year ∧ d.year ≤ 262142 then
    let isLong := second = 60
    let wall := d.number * 86400 +
      (hour * 3600 + minute * 60 + (if isLong then 59 else second) : Nat)
    ofParts? (wall - offset) (if isLong then 1000000000 + nanos else nanos)
  else none

/-- The instant that a stamp names. -/
def ofChars? (l : List Char) : Option Instant := do
  let (year, l) ← readYear l
  let l ← afterSeparator '-' l
  let (month, l) ← readPlace 1 12 l
  let l ← afterSeparator '-' l
  let (day, l) ← readPlace 1 31 l
  let l ← match l with
    | c :: rest => if c = 'T' ∨ c = 't' ∨ c = ' ' then some rest else none
    | [] => none
  let (hour, l) ← readPlace 0 23 l
  let l ← afterSeparator ':' l
  let (minute, l) ← readPlace 0 59 l
  let l ← afterSeparator ':' l
  let (second, l) ← readPlace 0 60 l
  let (nanos, l) ← readFraction l
  let (offset, l) ← readZone (trimStart l)
  if (trimStart l).isEmpty then ofCivil? ⟨year, month, day⟩ hour minute second nanos offset
  else none

/-- The instant that a stamp names. -/
def ofString? (s : String) : Option Instant :=
  ofChars? s.toList

end Instant

end PullTriage
