import PullTriage.Json.Tree

/-!
# Reading JSON Text

The grammar of JSON, strictly: white space is the space, the tab and the two
line ends; there are no comments and no trailing commas; a number has no
leading zero and digits on both sides of its point; a control character in a
string has to be escaped.

The text is a list of characters with `none` where bytes stand for none. Such
a place may occur inside a string only. A string is read in two steps, first
into pieces, each a character or a code unit that an escape spells, and then
the code units that form surrogate pairs are joined.

The three readers of values call each other on what is left of the text. Each
call takes one unit of fuel, and no value needs more than two for each of its
characters.

## Main definitions

* `Source`: A decoded text.
* `readString`: Reads a string after its opening quote.
* `readNumeral`: Reads a number.
* `readTree`: Reads a value and returns what follows it.
* `Tree.ofSource?`: Reads a text that is one value.
* `Tree.allOfSource?`: Reads a text that is any number of values.
-/

namespace PullTriage

namespace Json

/-- A decoded text. `none` is a place where bytes stand for no character. -/
abbrev Source := List (Option Char)

/-- The source of a text, in which every place holds a character. -/
def Source.ofString (s : String) : Source :=
  s.toList.map some

/-- The text from its first character that is no JSON white space. -/
def skipBlank : Source → Source
  | some c :: rest =>
    if c = ' ' ∨ c = '\n' ∨ c = '\t' ∨ c = '\r' then skipBlank rest else some c :: rest
  | s => s

/-- What follows the given characters at the head of the text. -/
def afterWord : List Char → Source → Option Source
  | [], s => some s
  | c :: word, some d :: rest => if c = d then afterWord word rest else none
  | _ :: _, _ => none

/-- The value of a hexadecimal digit of either case. -/
def hexValue? (c : Char) : Option Nat :=
  if '0' ≤ c ∧ c ≤ '9' then some (c.toNat - '0'.toNat)
  else if 'a' ≤ c ∧ c ≤ 'f' then some (c.toNat - 'a'.toNat + 10)
  else if 'A' ≤ c ∧ c ≤ 'F' then some (c.toNat - 'A'.toNat + 10)
  else none

/-- The code unit that four hexadecimal digits spell. -/
def codeUnit? (digits : List (Option Char)) : Option Nat :=
  (digits.mapM fun (d : Option Char) => d.bind hexValue?).map fun values =>
    values.foldl (fun n d => 16 * n + d) 0

/-- The character that a letter stands for behind a backslash. -/
def escaped? (c : Char) : Option Char :=
  match c with
  | '"' => some '"'
  | '\\' => some '\\'
  | '/' => some '/'
  | 'b' => some (Char.ofNat 8)
  | 'f' => some (Char.ofNat 12)
  | 'n' => some '\n'
  | 'r' => some '\r'
  | 't' => some '\t'
  | _ => none

/-- A piece of a string. -/
inductive Piece where
  /-- A character, written as itself or behind a backslash. -/
  | char (c : Char)
  /-- A code unit, written in hexadecimal digits. -/
  | unit (n : Nat)
  /-- Bytes that stand for no character. -/
  | damaged
deriving DecidableEq, Repr

/-- The pieces up to the closing quote, and what follows it. -/
def readPieces : Source → Option (List Piece × Source)
  | [] => none
  | none :: rest => (readPieces rest).map fun (pieces, after) => (.damaged :: pieces, after)
  | some '"' :: rest => some ([], rest)
  | some '\\' :: some 'u' :: a :: b :: c :: d :: rest => do
    let n ← codeUnit? [a, b, c, d]
    let (pieces, after) ← readPieces rest
    pure (.unit n :: pieces, after)
  | some '\\' :: some e :: rest => do
    let c ← escaped? e
    let (pieces, after) ← readPieces rest
    pure (.char c :: pieces, after)
  | some c :: rest =>
    if c = '\\' ∨ c.toNat < 32 then none
    else (readPieces rest).map fun (pieces, after) => (.char c :: pieces, after)

/-- The contents that the pieces spell. A leading and a trailing surrogate
    next to each other are one character, any other surrogate is none. -/
def joinPieces : List Piece → Raw
  | [] => []
  | .char c :: rest => some c :: joinPieces rest
  | .damaged :: rest => none :: joinPieces rest
  | .unit n :: .unit m :: rest =>
    if 0xD800 ≤ n ∧ n < 0xDC00 ∧ 0xDC00 ≤ m ∧ m < 0xE000 then
      some (Char.ofNat (0x10000 + (n - 0xD800) * 0x400 + (m - 0xDC00))) :: joinPieces rest
    else (if 0xD800 ≤ n ∧ n < 0xE000 then none else some (Char.ofNat n)) ::
      joinPieces (.unit m :: rest)
  | .unit n :: rest =>
    (if 0xD800 ≤ n ∧ n < 0xE000 then none else some (Char.ofNat n)) :: joinPieces rest

/-- The string whose opening quote was read, and what follows it. -/
def readString (s : Source) : Option (Raw × Source) :=
  (readPieces s).map fun (pieces, after) => (joinPieces pieces, after)

/-- The digits at the head of the text, and what follows them. -/
def spanDigits : Source → List Char × Source
  | some c :: rest =>
    if c.isDigit then
      let (digits, after) := spanDigits rest
      (c :: digits, after)
    else ([], some c :: rest)
  | s => ([], s)

/-- The fraction of a number, if the text goes on with one. A point needs a
    digit behind it. -/
def readFraction : Source → Option (Option (List Char) × Source)
  | some '.' :: rest =>
    match spanDigits rest with
    | ([], _) => none
    | (digits, after) => some (some digits, after)
  | s => some (none, s)

/-- The exponent of a number, if the text goes on with one. -/
def readExponent : Source → Option (Option (Bool × List Char) × Source)
  | some c :: rest =>
    if c = 'e' ∨ c = 'E' then
      let (negative, rest) := match rest with
        | some '-' :: more => (true, more)
        | some '+' :: more => (false, more)
        | _ => (false, rest)
      match spanDigits rest with
      | ([], _) => none
      | (digits, after) => some (some (negative, digits), after)
    else some (none, some c :: rest)
  | s => some (none, s)

/-- A number and what follows it. -/
def readNumeral (s : Source) : Option (Numeral × Source) := do
  let (negative, s) := match s with
    | some '-' :: rest => (true, rest)
    | _ => (false, s)
  let (whole, s) := spanDigits s
  if whole.isEmpty || (whole.head? == some '0' && 1 < whole.length) then none
  let (fraction, s) ← readFraction s
  let (exponent, s) ← readExponent s
  pure (⟨negative, whole, fraction, exponent⟩, s)

mutual

/-- A value and what follows it. -/
def readTree : Nat → Source → Option (Tree × Source)
  | 0, _ => none
  | fuel + 1, s =>
    match skipBlank s with
    | some 'n' :: rest => (afterWord ['u', 'l', 'l'] rest).map fun after => (.null, after)
    | some 't' :: rest =>
      (afterWord ['r', 'u', 'e'] rest).map fun after => (.bool true, after)
    | some 'f' :: rest =>
      (afterWord ['a', 'l', 's', 'e'] rest).map fun after => (.bool false, after)
    | some '"' :: rest => (readString rest).map fun (r, after) => (.string r, after)
    | some '[' :: rest =>
      match skipBlank rest with
      | some ']' :: after => some (.array [], after)
      | items => (readItems fuel items).map fun (ts, after) => (.array ts, after)
    | some '\x7b' :: rest =>
      match skipBlank rest with
      | some '\x7d' :: after => some (.object [], after)
      | members => (readMembers fuel members).map fun (ms, after) => (.object ms, after)
    | other => (readNumeral other).map fun (n, after) => (.number n, after)

/-- The items of an array up to its closing bracket, at least one, and what
    follows it. -/
def readItems : Nat → Source → Option (List Tree × Source)
  | 0, _ => none
  | fuel + 1, s => do
    let (t, rest) ← readTree fuel s
    match skipBlank rest with
    | some ',' :: more =>
      let (ts, after) ← readItems fuel more
      pure (t :: ts, after)
    | some ']' :: after => pure ([t], after)
    | _ => none

/-- The members of an object up to its closing brace, at least one, and what
    follows it. -/
def readMembers : Nat → Source → Option (List (Raw × Tree) × Source)
  | 0, _ => none
  | fuel + 1, s => do
    let rest ← afterWord ['"'] (skipBlank s)
    let (key, rest) ← readString rest
    let rest ← afterWord [':'] (skipBlank rest)
    let (t, rest) ← readTree fuel rest
    match skipBlank rest with
    | some ',' :: more =>
      let (ms, after) ← readMembers fuel more
      pure ((key, t) :: ms, after)
    | some '\x7d' :: after => pure ([(key, t)], after)
    | _ => none

end

/-- The first value of a text and what follows it. -/
def readFirst (s : Source) : Option (Tree × Source) :=
  readTree (2 * s.length + 2) s

namespace Tree

/-- The value that the whole text is. -/
def ofSource? (s : Source) : Option Tree := do
  let (t, rest) ← readFirst s
  if (skipBlank rest).isEmpty then some t else none

/-- The values that make up the text, with a bound on their number. -/
def takeAll? : Nat → Source → Option (List Tree)
  | 0, s => if (skipBlank s).isEmpty then some [] else none
  | count + 1, s => do
    if (skipBlank s).isEmpty then return []
    let (t, rest) ← readFirst s
    let ts ← takeAll? count rest
    pure (t :: ts)

/-- The values that the text consists of, one after the other. Each has at
    least one character, so the length of the text bounds their number. -/
def allOfSource? (s : Source) : Option (List Tree) :=
  takeAll? s.length s

end Tree

/-- The value of a text. -/
def ofString? (s : String) : Option Json := do
  let t ← Tree.ofSource? (Source.ofString s)
  t.toJson?

end Json

end PullTriage
