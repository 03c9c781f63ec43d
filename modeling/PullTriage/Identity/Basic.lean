/-!
# Authors

What is known of the author of a pull request: the login, the public address
and the declared company where there are any, and whether the author is a
member of the organization.

Authors are listed by login, then by address, company and membership. What is
absent comes before what is present, and an outsider before a member.

## Main definitions

* `Identity`: What is known of an author.
* `Identity.text`: An author as shown in a report.
-/

namespace PullTriage

/-- What is known of the author of a pull request. -/
structure Identity where
  /-- The login. -/
  login : String
  /-- The public address, if there is one. -/
  email : Option String := none
  /-- The declared company, if there is one. -/
  company : Option String := none
  /-- Whether the author is a member of the organization. -/
  isMember : Bool := false
deriving DecidableEq, Repr

namespace Identity

/-- Authors in the order of a report. -/
def compareAll : Identity → Identity → Ordering :=
  compareLex (compareOn login) (compareLex (compareOn email)
    (compareLex (compareOn company) (compareOn isMember)))

instance : Ord Identity := ⟨compareAll⟩

instance : Std.TransCmp compareAll :=
  inferInstanceAs (Std.TransCmp (compareLex _ (compareLex _ (compareLex _ _))))

instance : Std.TransOrd Identity :=
  inferInstanceAs (Std.TransCmp compareAll)

instance : Std.LawfulEqOrd Identity where
  compare_self :=
    have h : Std.ReflCmp compareAll := inferInstance
    h.compare_self
  eq_of_compare {a b} h := by
    change compareAll a b = .eq at h
    simp only [compareAll, compareLex_eq_eq, compareOn, Std.LawfulEqCmp.compare_eq_iff_eq] at h
    cases a; cases b
    simp_all

/-- The author as shown in a report, with a hyphen for what is absent. -/
def text (i : Identity) : String :=
  i.login ++ " - " ++ i.email.getD "-" ++ " - " ++ i.company.getD "-"

end Identity

end PullTriage
