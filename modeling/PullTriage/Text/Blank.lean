/-!
# Blank Characters and Trimming

A name, an address or a setting is compared without the white space around
it. White space here is the Unicode property of that name: the tabs and line
ends, the plain space, the no-break space and the spaces of every width. The
zero-width characters are not part of it.

## Main definitions

* `isBlank`: The white space characters.
* `trimStart`: A text without its leading white space.
* `trimEnd`: A text without its trailing white space.
* `trim`: A text without the white space at either end.
* `trimmed`: The same on strings.
-/

namespace PullTriage

namespace Text

/-- The 25 characters with the White_Space property. -/
def isBlank (c : Char) : Bool :=
  (9 ≤ c.toNat && c.toNat ≤ 13) || c.toNat == 0x20 || c.toNat == 0x85 || c.toNat == 0xA0
    || c.toNat == 0x1680 || (0x2000 ≤ c.toNat && c.toNat ≤ 0x200A) || c.toNat == 0x2028
    || c.toNat == 0x2029 || c.toNat == 0x202F || c.toNat == 0x205F || c.toNat == 0x3000

/-- The text from its first character that is not blank. -/
def trimStart (l : List Char) : List Char :=
  l.dropWhile isBlank

/-- The text up to its last character that is not blank. -/
def trimEnd (l : List Char) : List Char :=
  (l.reverse.dropWhile isBlank).reverse

/-- The text between its first and its last character that are not blank. -/
def trim (l : List Char) : List Char :=
  trimEnd (trimStart l)

/-- The string without white space at either end. -/
def trimmed (s : String) : String :=
  String.ofList (trim s.toList)

end Text

end PullTriage
