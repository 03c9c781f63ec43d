import PullTriage.Identity.Basic
import PullTriage.Text.Blank
import PullTriage.Text.Lowercase
import PullTriage.Text.Search

/-!
# Affiliation

An outsider counts as affiliated with the organization if the public address
is at one of the configured domains, or if the declared company contains one
of the configured names. Case does not matter in either.

The configured entries are brought into a normal form once. A domain may be
given with an at sign in front, which is dropped; white space around it is
part of it. A company name is trimmed. Entries of which nothing is left would
match everybody and are dropped.

## Main definitions

* `AffiliationPolicy`: The domains and names in normal form.
* `AffiliationPolicy.ofEntries`: The policy of configured entries.
* `AffiliationPolicy.coversEmail`: Whether an address is affiliated.
* `AffiliationPolicy.coversCompany`: Whether a company is affiliated.
* `AffiliationPolicy.covers`: Whether an author is affiliated.
-/

namespace PullTriage

open Text (lower trim)

/-- The signs of affiliation, in normal form. -/
structure AffiliationPolicy where
  /-- The domains, in lowercase and without an at sign in front. -/
  domains : List (List Char)
  /-- The company names, in lowercase and trimmed. -/
  companies : List (List Char)
deriving DecidableEq, Repr

namespace AffiliationPolicy

/-- A configured domain in normal form. -/
def normalDomain (entry : String) : List Char :=
  lower (entry.toList.dropWhile (· == '@'))

/-- A configured company name in normal form. -/
def normalCompany (entry : String) : List Char :=
  lower (trim entry.toList)

/-- The policy of the configured domains and company names. -/
def ofEntries (domains companies : List String) : AffiliationPolicy where
  domains := (domains.map normalDomain).filter fun d => !d.isEmpty
  companies := (companies.map normalCompany).filter fun c => !c.isEmpty

/-- Whether the address ends in an at sign and a configured domain. -/
def coversEmail (policy : AffiliationPolicy) (email : String) : Bool :=
  let address := lower (trim email.toList)
  policy.domains.any fun domain => Text.endsIn ('@' :: domain) address

/-- Whether the company contains a configured name. -/
def coversCompany (policy : AffiliationPolicy) (company : String) : Bool :=
  let text := lower company.toList
  policy.companies.any fun name => Text.holds name text

/-- Whether the author has an affiliated address or company. -/
def covers (policy : AffiliationPolicy) (i : Identity) : Bool :=
  i.email.any policy.coversEmail || i.company.any policy.coversCompany

end AffiliationPolicy

end PullTriage
