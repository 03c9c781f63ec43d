import PullTriage.Text.Blank

/-!
# Category Labels

A category label says which part of a project a pull request touches. All of
them begin alike, and the name of the category follows without white space
around it.

## Main definitions

* `categoryLabel`: The label of a category.
-/

namespace PullTriage

/-- The label of a category. -/
def categoryLabel (category : String) : String :=
  "category: " ++ Text.trimmed category

end PullTriage
