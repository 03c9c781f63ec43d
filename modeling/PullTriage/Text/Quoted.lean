import PullTriage.Text.Hidden

/-!
# Quoted Values

A value in an error message stands between double quotes, and whatever would
not show there is spelled out: the line ends and the tab by their letters,
the quote and the backslash behind a backslash, and every hidden character by
its code point in braces. A single quote needs no escape, since it cannot
end the value.

## Main definitions

* `hexDigits`: A number in lowercase hexadecimal.
* `quotedChar`: One character as it stands between the quotes.
* `quoted`: A string between quotes.
-/

namespace PullTriage

namespace Text

/-- The number in lowercase hexadecimal digits. -/
def hexDigits (n : Nat) : List Char :=
  Nat.toDigits 16 n

/-- One character as it stands between double quotes. -/
def quotedChar (c : Char) : List Char :=
  if c = '"' then ['\\', '"']
  else if c = '\\' then ['\\', '\\']
  else if c = '\n' then ['\\', 'n']
  else if c = '\r' then ['\\', 'r']
  else if c = '\t' then ['\\', 't']
  else if c.toNat = 0 then ['\\', '0']
  else if isHidden c then ['\\', 'u', '\x7b'] ++ hexDigits c.toNat ++ ['\x7d']
  else [c]

/-- The string between double quotes, with nothing in it hidden. -/
def quoted (s : String) : String :=
  String.ofList ('"' :: (s.toList.flatMap quotedChar ++ ['"']))

end Text

end PullTriage
