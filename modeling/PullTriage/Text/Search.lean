/-!
# Searching a Text

Three questions that the settings and the classification ask of a text:
whether it holds a phrase, whether it ends in one, and what stands on either
side of the first occurrence of a character. A path is taken apart at all of
them.

## Main definitions

* `holds`: Whether a text holds a phrase.
* `endsIn`: Whether a text ends in a phrase.
* `splitAtFirst`: The parts before and after the first occurrence of a
  character.
* `fields`: The parts between all occurrences of a character.
* `joined`: Texts joined by a separator.
-/

namespace PullTriage

namespace Text

/-- Whether `phrase` occurs in the text, its characters in one piece. -/
def holds (phrase : List Char) : List Char → Bool
  | [] => phrase.isEmpty
  | c :: rest => phrase.isPrefixOf (c :: rest) || holds phrase rest

/-- Whether the text ends in `phrase`. -/
def endsIn (phrase l : List Char) : Bool :=
  phrase.isSuffixOf l

/-- The text before the first `c` and the text after it, or `none` if it does
    not occur. -/
def splitAtFirst (c : Char) : List Char → Option (List Char × List Char)
  | [] => none
  | d :: rest =>
    if d = c then some ([], rest)
    else (splitAtFirst c rest).map fun (before, after) => (d :: before, after)

/-- The parts of the text before, between and after the occurrences of `c`,
    one more than there are occurrences. -/
def fields (c : Char) : List Char → List (List Char)
  | [] => [[]]
  | d :: rest =>
    if d = c then [] :: fields c rest
    else
      match fields c rest with
      | [] => [[d]]
      | field :: more => (d :: field) :: more

/-- The strings one after the other with `separator` between neighbours. -/
def joined (separator : String) (l : List String) : String :=
  separator.intercalate l

end Text

end PullTriage
