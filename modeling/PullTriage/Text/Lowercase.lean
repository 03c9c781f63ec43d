import PullTriage.Text.Lowercase.Table

/-!
# Lowercase

Addresses and company names are compared without regard to case, and two
spellings count as the same when their lowercase forms are the same text.

Lowercasing is not a map on characters. The Greek capital sigma becomes `ς`
at the end of a word and `σ` elsewhere, and the capital I with a dot above
becomes two characters. So the lowercase form of a text is not always the
concatenation of those of its parts, and everything that is compared in
lowercase has to say which text was lowercased as a whole.

A sigma is final when the nearest character before it that does not belong
inside a word is cased, and the nearest one after it is not.

## Main definitions

* `isCased`: Characters that have a case.
* `isCaseIgnorable`: Characters that do not interrupt a word.
* `lowerChar`: The small form of one character out of context.
* `lower`: The lowercase form of a text.
* `lowercased`: The same on strings.
-/

namespace PullTriage

namespace Text

/-- Whether the character has a case. -/
def isCased (c : Char) : Bool :=
  inRanges casedRanges c.toNat

/-- Whether the character is passed over in the search for a cased one. -/
def isCaseIgnorable (c : Char) : Bool :=
  inRanges caseIgnorableRanges c.toNat

/-- The small form of one character, itself if it has none. Only the capital
    I with a dot above has a form of two characters. -/
def lowerChar (c : Char) : List Char :=
  if c.toNat < 128 then [if 'A' ≤ c && c ≤ 'Z' then Char.ofNat (c.toNat + 32) else c]
  else if c.toNat = 0x130 then ['i', Char.ofNat 0x307]
  else match capitals.find? fun r => r.covers c.toNat with
    | some r => [Char.ofNat ((c.toNat : Int) + r.shift).toNat]
    | none => [c]

/-- Whether the first character that interrupts a word is cased, reading the
    list from its head. -/
def meetsCased (l : List Char) : Bool :=
  match l.dropWhile isCaseIgnorable with
  | c :: _ => isCased c
  | [] => false

/-- The lowercase form of a text that stands after `before`, which is given
    from its last character back. -/
def lowerAfter (before : List Char) : List Char → List Char
  | [] => []
  | c :: rest =>
    (if c = 'Σ' then [if meetsCased before && !meetsCased rest then 'ς' else 'σ']
      else lowerChar c) ++ lowerAfter (c :: before) rest

/-- The lowercase form of a text. -/
def lower (l : List Char) : List Char :=
  lowerAfter [] l

/-- The lowercase form of a string. -/
def lowercased (s : String) : String :=
  String.ofList (lower s.toList)

end Text

end PullTriage
