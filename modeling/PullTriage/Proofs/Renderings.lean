import PullTriage.Gh.Answer
import PullTriage.Proofs.Bytes
import PullTriage.Proofs.Dictionaries
import PullTriage.Proofs.ExactReading
import PullTriage.Proofs.FirstErrors
import PullTriage.Proofs.Labels
import PullTriage.Proofs.Stamps

/-!
# What GitHub Prints

The outputs in which GitHub tells of a pull request, of its review requests
and of a user, as relations between the value and the output. They leave open
everything that GitHub may choose: how the JSON is spelled, in what order the
members of a record stand, which other members it has, how a time is spelled,
in what order labels and teams are listed and how often, and where a list is
cut into pages.

Whatever is chosen, the value is read back from the output.

## Main definitions

* `HasMember`, `LacksMember`: The members of a record by name.
* `IsNames`: An array of records by the names in it.
* `NamesInstant`: A text that names an instant.
* `PullRecord`, `ReviewsRecord`, `UserRecord`: What a record says.
* `Tells`: An output that is one value.
* `TellsPages`: An output that lists pull requests in pages.

## Theorems

* `slots?_ofMembers`: The fields of a record.
* `pullOfTree?_of_record`, `reviewsOfTree?_of_record`, `userOfTree?_of_record`:
  Records are read as what they say.
* `one?_of_tells`, `pages?_of_tells`: Outputs are read as what they tell.
-/

namespace PullTriage

namespace Json

namespace Tree

/-- A string as a tree. -/
def ofText (s : String) : Tree :=
  .string (s.toList.map some)

/-- A natural number as a tree. -/
def ofNat (n : Nat) : Tree :=
  .number ⟨false, Nat.toDigits 10 n, none, none⟩

/-- A record as a tree. -/
def ofMembers (members : List (String × Tree)) : Tree :=
  .object (members.map fun m => (m.1.toList.map some, m.2))

end Tree

/-- A string is a text if a character stands at every place of it. -/
theorem Raw.text?_eq_some_iff (r : Raw) (s : String) :
    r.text? = some s ↔ r = s.toList.map some := by
  rw [Raw.text?, Option.map_eq_some_iff]
  simp only [mapM_eq_some_iff_eq_map id some fun _ _ => Iff.rfl]
  constructor
  · intro h
    rcases h with ⟨l, hl, rfl⟩
    rw [hl, String.toList_ofList]
  · intro h
    exact ⟨s.toList, h, String.ofList_toList⟩

theorem Raw.text?_map_some (s : String) : Raw.text? (s.toList.map some) = some s :=
  (Raw.text?_eq_some_iff _ s).mpr rfl

@[simp] theorem Tree.text?_ofText (s : String) : (Tree.ofText s).text? = some s :=
  Raw.text?_map_some s

/-- A list is an array of what is read as its items. -/
theorem Tree.list?_eq_some_iff {α : Type} (read : Tree → Option α) (t : Tree) (l : List α) :
    t.list? read = some l ↔
      ∃ items, t = .array items ∧ List.Forall₂ (fun item a => read item = some a) items l := by
  unfold list?
  split
  · next items =>
    rw [mapM_eq_some_iff]
    simp only [Tree.array.injEq, exists_eq_left']
  · next hne =>
    simp only [reduceCtorEq, false_iff, not_exists, not_and]
    intro items ht
    exact absurd ht (hne items)

/-- The members of an object are found by name if their names are texts. -/
theorem Tree.members_eq_some_iff (members : List (Raw × Tree)) (entries : List (String × Tree)) :
    (members.mapM fun (m : Raw × Tree) => m.1.text?.map fun name => (name, m.2)) = some entries ↔
      members = entries.map fun m => (m.1.toList.map some, m.2) := by
  refine mapM_eq_some_iff_eq_map _ _ (fun m entry => ?_) members entries
  rw [Option.map_eq_some_iff]
  simp only [Raw.text?_eq_some_iff]
  constructor
  · intro h
    rcases h with ⟨name, hname, rfl⟩
    exact Prod.ext hname rfl
  · intro h
    exact ⟨entry.1, congrArg Prod.fst h, by rw [h]⟩

/-- A record has one member of a name, whose value is as it should be. -/
def HasMember (members : List (String × Tree)) (name : String) (P : Tree → Prop) : Prop :=
  ∃ before value after, members = before ++ (name, value) :: after ∧ P value ∧
    ∀ m ∈ before ++ after, m.1 ≠ name

/-- A record has no member of a name. -/
def LacksMember (members : List (String × Tree)) (name : String) : Prop :=
  ∀ m ∈ members, m.1 ≠ name

/-- The tree is a record with members as they should be. -/
def IsRecord (P : List (String × Tree) → Prop) (t : Tree) : Prop :=
  ∃ members, t = Tree.ofMembers members ∧ P members

section

variable {members : List (String × Tree)} {name : String} {P : Tree → Prop}

theorem LacksMember.filter_eq (h : LacksMember members name) :
    (members.filter fun m => m.1 == name) = [] :=
  List.filter_eq_nil_iff.mpr fun m hm => by
    rw [beq_iff_eq]
    exact h m hm

theorem LacksMember.lookup_eq (h : LacksMember members name) : members.lookup name = none :=
  List.lookup_eq_none_iff.mpr fun m hm => bne_iff_ne.mpr (h m hm).symm

theorem HasMember.length_filter (h : HasMember members name P) :
    (members.filter fun m => m.1 == name).length ≤ 1 := by
  rcases h with ⟨before, value, after, rfl, -, hother⟩
  have hbefore : LacksMember before name := fun m hm =>
    hother m (List.mem_append_left _ hm)
  have hafter : LacksMember after name := fun m hm => hother m (List.mem_append_right _ hm)
  rw [List.filter_append, hbefore.filter_eq, List.filter_cons, if_pos (beq_self_eq_true name),
    hafter.filter_eq]
  exact Nat.le_refl 1

theorem HasMember.lookup_eq (h : HasMember members name P) :
    ∃ value, members.lookup name = some value ∧ P value := by
  rcases h with ⟨before, value, after, rfl, hvalue, hother⟩
  have hbefore : LacksMember before name := fun m hm =>
    hother m (List.mem_append_left _ hm)
  refine ⟨value, ?_, hvalue⟩
  rw [Dictionary.lookup_append, hbefore.lookup_eq, Dictionary.lookup_cons, if_pos rfl,
    Option.none_or]

/-- The fields of a record are found by their names, if none is repeated. -/
theorem slots?_ofMembers (names : List String) (members : List (String × Tree))
    (h : ∀ name ∈ names, (members.filter fun m => m.1 == name).length ≤ 1) :
    (Tree.ofMembers members).slots? names
      = some (names.map fun name => members.lookup name) := by
  have hentries := (Tree.members_eq_some_iff _ members).mpr rfl
  have hrepeat : (names.any fun name =>
      1 < (members.filter fun m => m.1 == name).length) = false := by
    rw [List.any_eq_false]
    intro name hname
    rw [decide_eq_true_eq, Nat.not_lt]
    exact h name hname
  unfold Tree.ofMembers Tree.slots?
  simp only [Option.bind_eq_bind]
  rw [hentries]
  simp only [Option.bind_some, hrepeat, Bool.false_eq_true, if_false]

end

end Json

namespace Gh

open Json

/-- The tree is an array of records, and the names in them are those of the
    set. -/
def IsNames (names : OrderedSet String) (t : Tree) : Prop :=
  ∃ listed : List String, (∀ name, name ∈ listed ↔ name ∈ names) ∧
    ∃ items, t = .array items ∧
      List.Forall₂ (fun name item => IsRecord (HasMember · "name" (· = Tree.ofText name)) item)
        listed items

/-- The tree is a text that names the instant. -/
def NamesInstant (at_ : Instant) (t : Tree) : Prop :=
  ∃ text, t = Tree.ofText text ∧ Instant.ofString? text = some at_

/-- What the record of a pull request says. The time at which it was opened may
    be told by any text that names it. -/
structure PullRecord (p : Pull) (members : List (String × Tree)) : Prop where
  number : HasMember members "number" (· = Tree.ofNat p.number)
  title : HasMember members "title" (· = Tree.ofText p.title)
  author : HasMember members "user"
    (IsRecord (HasMember · "login" (· = Tree.ofText p.author)))
  createdAt : HasMember members "created_at" (NamesInstant p.createdAt)
  labels : HasMember members "labels" (IsNames p.labels)
  teams : HasMember members "requested_teams" (IsNames p.teams)

/-- What the record of the review requests of a pull request says. -/
def ReviewsRecord (teams : OrderedSet String) (members : List (String × Tree)) : Prop :=
  HasMember members "teams" (IsNames teams)

/-- A member that is a text, or that is null or absent. -/
def MaybeMember (members : List (String × Tree)) (name : String) : Option String → Prop
  | some text => HasMember members name (· = Tree.ofText text)
  | none => LacksMember members name ∨ HasMember members name (· = .null)

/-- What the record of a user says. -/
structure UserRecord (i : Identity) (members : List (String × Tree)) : Prop where
  login : HasMember members "login" (· = Tree.ofText i.login)
  email : MaybeMember members "email" i.email
  company : MaybeMember members "company" i.company

theorem memberOfTree?_of_record (field text : String) (t : Tree)
    (h : IsRecord (HasMember · field (· = Tree.ofText text)) t) :
    memberOfTree? field t = some text := by
  rcases h with ⟨members, rfl, h⟩
  rcases h.lookup_eq with ⟨_, hlookup, rfl⟩
  unfold memberOfTree?
  rw [slots?_ofMembers [field] members fun name hname =>
    List.mem_singleton.mp hname ▸ h.length_filter]
  simp only [List.map_cons, List.map_nil, hlookup, Option.bind_eq_bind, Option.bind_some,
    required, Tree.text?_ofText]

theorem namesOfTree?_of_names (names : OrderedSet String) (t : Tree) (h : IsNames names t) :
    namesOfTree? t = some names := by
  rcases h with ⟨listed, hmem, items, rfl, hitems⟩
  have hread : items.mapM (memberOfTree? "name") = some listed := by
    refine (mapM_eq_some_iff _ _ _).mpr (hitems.flip.imp fun item name hitem => ?_)
    exact memberOfTree?_of_record "name" name item hitem
  have hset : OrderedSet.ofList listed = names :=
    OrderedSet.ext_of_mem _ _ fun name => by rw [OrderedSet.mem_ofList, hmem]
  rw [namesOfTree?, Tree.list?, hread, Option.map_some, hset]

/-- A member of interest that a record has is read as it should be. -/
theorem required_of_hasMember {α : Type} {members : List (String × Tree)} {name : String}
    {P : Tree → Prop} (read : Tree → Option α) (a : α) (h : HasMember members name P)
    (hread : ∀ t, P t → read t = some a) : required read (members.lookup name) = some a := by
  rcases h.lookup_eq with ⟨value, hlookup, hvalue⟩
  rw [hlookup, required, hread value hvalue]

theorem orElse_of_hasMember {α : Type} {members : List (String × Tree)} {name : String}
    {P : Tree → Prop} (default : α) (read : Tree → Option α) (a : α)
    (h : HasMember members name P) (hread : ∀ t, P t → read t = some a) :
    orElse default read (members.lookup name) = some a := by
  rcases h.lookup_eq with ⟨value, hlookup, hvalue⟩
  rw [hlookup, orElse, hread value hvalue]

theorem orElse_of_maybeMember {members : List (String × Tree)} {name : String}
    {text : Option String} (h : MaybeMember members name text) :
    orElse none (Tree.maybe? Tree.text?) (members.lookup name) = some text := by
  cases text with
  | some text =>
      refine orElse_of_hasMember none _ (some text) h fun t ht => ?_
      rw [ht]
      exact congrArg (Option.map some) (Tree.text?_ofText text)
  | none =>
      rcases h with h | h
      · rw [h.lookup_eq, orElse]
      · exact orElse_of_hasMember none _ none h fun t ht => by rw [ht, Tree.maybe?]

theorem MaybeMember.length_filter {members : List (String × Tree)} {name : String}
    {text : Option String} (h : MaybeMember members name text) :
    (members.filter fun m => m.1 == name).length ≤ 1 := by
  cases text with
  | some text => exact HasMember.length_filter h
  | none =>
      rcases h with h | h
      · rw [h.filter_eq]
        exact Nat.zero_le 1
      · exact h.length_filter

theorem reviewsOfTree?_of_record (teams : OrderedSet String) (t : Tree)
    (h : IsRecord (ReviewsRecord teams) t) : reviewsOfTree? t = some teams := by
  rcases h with ⟨members, rfl, h⟩
  unfold reviewsOfTree?
  rw [slots?_ofMembers ["teams"] members fun name hname =>
    List.mem_singleton.mp hname ▸ HasMember.length_filter h]
  simp only [List.map_cons, List.map_nil, Option.bind_eq_bind, Option.bind_some]
  exact orElse_of_hasMember ∅ namesOfTree? teams h fun t ht => namesOfTree?_of_names _ t ht

/-- A record that says what is known of a user is read as it, but for the
    membership. -/
theorem userOfTree?_of_record (i : Identity) (hemail : i.email ≠ some "")
    (hcompany : i.company ≠ some "") (t : Tree) (h : IsRecord (UserRecord i) t) :
    userOfTree? t = some { i with isMember := false } := by
  have hnonempty : ∀ text : Option String, text ≠ some "" → nonempty? text = text := by
    intro text htext
    cases text with
    | none => rfl
    | some s =>
        have hs : s ≠ "" := fun hs => htext (hs ▸ rfl)
        rw [nonempty?, Option.filter_some, if_pos (decide_eq_true hs)]
  rcases h with ⟨members, rfl, h⟩
  have hslots := slots?_ofMembers ["login", "email", "company"] members (by
    simp only [List.forall_mem_cons, List.not_mem_nil, false_implies, implies_true, and_true]
    exact ⟨h.login.length_filter, h.email.length_filter, h.company.length_filter⟩)
  have hlogin := required_of_hasMember Tree.text? i.login h.login
    fun t ht => ht ▸ Tree.text?_ofText i.login
  unfold userOfTree?
  rw [hslots]
  simp only [List.map_cons, List.map_nil, Option.bind_eq_bind, Option.bind_some, hlogin,
    orElse_of_maybeMember h.email, orElse_of_maybeMember h.company, hnonempty _ hemail,
    hnonempty _ hcompany, Option.pure_def]

/-- The output is one value, and it is as it should be. -/
def Tells (P : Tree → Prop) (bytes : List UInt8) : Prop :=
  ∃ v text w t, bytes = Utf8.encode (v ++ (text ++ w)) ∧ Blanks v ∧ Spelling t text ∧ Blanks w ∧
    P t

/-- The output lists the pull requests in pages, which are arrays of their
    records. -/
def TellsPages (pulls : List Pull) (bytes : List UInt8) : Prop :=
  ∃ (text : List Char) (pages : List (List Pull)) (ts : List Tree), bytes = Utf8.encode text ∧
    AllSpelling ts text ∧ pages.flatten = pulls ∧
    List.Forall₂ (fun page t => ∃ items, t = .array items ∧
      List.Forall₂ (fun p item => IsRecord (PullRecord p) item) page items) pages ts

theorem one?_of_tells {α : Type} {P : Tree → Prop} {bytes : List UInt8} (h : Tells P bytes)
    (read : Tree → Option α) (a : α) (hread : ∀ t, P t → read t = some a) :
    one? read bytes = some a := by
  rcases h with ⟨v, text, w, t, rfl, hv, ht, hw, hP⟩
  unfold one?
  rw [Utf8.decode_encode, Tree.ofSource?_of_spelling hv ht hw]
  exact hread t hP

end Gh

end PullTriage
