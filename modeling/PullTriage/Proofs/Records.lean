import PullTriage.Identity.Record
import PullTriage.Pull.Record
import PullTriage.Proofs.Fields
import PullTriage.Proofs.Printing

/-!
# Records That Are Kept

Pull requests and authors are kept as JSON records, and what is written is
read back as it was. The reader takes far more than the writer gives: the
fields in any order and among others, or without their names in an array;
nothing at a field that has a default; the members of a set in any order and
repeatedly; and time stamps of any spelling.

One thing is lost. A pull request can be said to have been opened in a leap
second that stamps cannot tell, since it is not at the end of a minute. It is
written with the stamp of the second behind it, and read back with that. No
record that is read has such a time.

Which trees are read is known exactly (`Pull.ofTree?_eq_some_iff`), and the
tree of what is written is one of them. A number that was read is small enough
to be read again, and a time that was read has a stamp, so whatever text a
record is read from, the text that is written for it is a normal form: it
describes the same, and it is written for itself.

## Main definitions

* `ListsTexts`: A tree that lists the texts of a set.
* `PullData`, `IdentityData`: A tree that is the record of a pull request, or
  of an author.
* `Pull.json`, `Identity.json`: The value that is written for one.
* `readWhole?`: What is read from a text.
* `IsText`: A text of a value that is as it should be.
* `rewritten?`: The text that is written for what a text describes.

## Theorems

* `Pull.ofTree?_eq_some_iff`, `Identity.ofTree?_eq_some_iff`: Records are read
  from their trees, and from no others.
* `pullData_json`, `identityData_json`: What is written is a record.
* `records_read_back`: What is written is read back, and is a normal form.
* `stray_leap_second_carried`: A time that is not read back.
-/

namespace PullTriage

namespace Json

namespace Tree

theorem flag?_eq_some_iff (t : Tree) (b : Bool) : t.flag? = some b ↔ t = .bool b := by
  cases t with
  | bool b' => rw [flag?, Option.some.injEq, Tree.bool.injEq]
  | _ => simp only [flag?, reduceCtorEq]

theorem maybe?_eq_some_iff (t : Tree) (text : Option String) :
    t.maybe? text? = some text ↔ t = ofOptional text := by
  by_cases hnull : t = .null
  · rw [hnull, maybe?, Option.some.injEq]
    cases text with
    | none => exact iff_of_true rfl rfl
    | some s => simp only [reduceCtorEq, ofOptional, Option.map_some, Option.getD_some, ofText]
  · rw [maybe?.eq_2 text? t hnull, Option.map_eq_some_iff]
    cases text with
    | none => simp only [reduceCtorEq, and_false, exists_false, ofOptional, Option.map_none,
        Option.getD_none, hnull]
    | some s => simp only [Option.some.injEq, exists_eq_right, text?_eq_some_iff, ofOptional,
        Option.map_some, Option.getD_some]

end Tree

theorem print_int (n : Int) : (Json.int n).print = printInt n :=
  rfl

theorem print_string (s : String) : (Json.string s).print = printString s :=
  rfl

theorem print_object (members : List (String × Json)) :
    (Json.object members).print = '\x7b' :: printMembers members :=
  rfl

/-- The fields of an object that has just them, in order. -/
theorem Fields.of_members (members : List (String × Tree)) (h : (members.map Prod.fst).Nodup) :
    Fields (members.map Prod.fst) (Tree.ofMembers members) (members.map fun m => some m.2) := by
  have hlookup : (members.map Prod.fst).map (fun name => members.lookup name)
      = members.map fun m => some m.2 := by
    rw [List.map_map]
    refine List.map_congr_left fun m hm => ?_
    exact (Dictionary.lookup_eq_some_iff members h m.1 m.2).mpr hm
  have honce : ∀ name ∈ members.map Prod.fst,
      (members.filter fun m => m.1 == name).length ≤ 1 := by
    intro name hname
    rcases List.mem_map.mp hname with ⟨m, hm, rfl⟩
    exact (hasMember_of_mem (P := fun _ => True) h hm trivial).length_filter
  have hfields := Fields.object members honce
  rwa [hlookup] at hfields

/-- What is read from a text that is one value. -/
def readWhole? {α : Type} (read : Tree → Option α) (s : Source) : Option α :=
  (Tree.ofSource? s).bind read

/-- The text that is written for what a text describes. -/
def rewritten? {α : Type} (read : Tree → Option α) (write : α → List Char) (s : Source) :
    Option Source :=
  (readWhole? read s).map fun a => (write a).map some

/-- The source is one value between white space, and it is as it should be. -/
def IsText (P : Tree → Prop) (s : Source) : Prop :=
  ∃ v t used w, Blanks v ∧ TreeSource t used ∧ Blanks w ∧
    s = v.map some ++ (used ++ w.map some) ∧ P t

/-- What is read from the trees of a kind is read from the texts of them. -/
theorem readWhole?_eq_some_iff {α : Type} {read : Tree → Option α} {P : α → Tree → Prop}
    (hread : ∀ t a, read t = some a ↔ P a t) (s : Source) (a : α) :
    readWhole? read s = some a ↔ IsText (P a) s := by
  unfold readWhole? IsText
  simp only [Option.bind_eq_some_iff, Tree.ofSource?_eq_some_iff, hread]
  constructor
  · intro h
    rcases h with ⟨t, ⟨v, used, w, hv, hused, hw, hs⟩, ht⟩
    exact ⟨v, t, used, w, hv, hused, hw, hs, ht⟩
  · intro h
    rcases h with ⟨v, t, used, w, hv, hused, hw, hs, ht⟩
    exact ⟨t, ⟨v, used, w, hv, hused, hw, hs⟩, ht⟩

/-- What is read from a printed value is read from its tree. -/
theorem readWhole?_print {α : Type} (read : Tree → Option α) (v : Json) (t : Tree)
    (h : v.tree? = some t) : readWhole? read (v.print.map some) = read t := by
  have htree := Tree.ofSource?_of_spelling blanks_nil (spelling_print v t h) blanks_nil
  rw [List.nil_append, List.append_nil] at htree
  rw [readWhole?, htree, Option.bind_some]

/-- If what was read is read back when it is written, the text that is written
    for it is a normal form. -/
theorem rewritten?_of_readWhole? {α : Type} {read : Tree → Option α} {write : α → List Char}
    {s : Source} {a : α} (h : readWhole? read s = some a)
    (hback : readWhole? read ((write a).map some) = some a) :
    ∃ n, rewritten? read write s = some n ∧ readWhole? read n = some a ∧
      rewritten? read write n = some n := by
  refine ⟨(write a).map some, ?_, hback, ?_⟩
  · rw [rewritten?, h, Option.map_some]
  · rw [rewritten?, hback, Option.map_some]

end Json

open Json Gh

/-- The tree lists texts, and they are those of the set. -/
def ListsTexts (s : OrderedSet String) (t : Tree) : Prop :=
  ∃ l : List String, t = .array (l.map Tree.ofText) ∧ ∀ x, x ∈ s ↔ x ∈ l

/-- The texts of a set as a value. -/
def setJson (s : OrderedSet String) : Json :=
  .array (s.toList.map .string)

theorem listsTexts_setJson (s : OrderedSet String) :
    ∃ t, (setJson s).tree? = some t ∧ ListsTexts s t := by
  have htrees := itemTrees?_map Json.string Tree.ofText s.toList fun _ _ => rfl
  exact ⟨_, congrArg (Option.map Tree.array) htrees, s.toList, rfl, fun _ => Iff.rfl⟩

namespace Pull

/-- The fields of the record of a pull request, in order. -/
def dataFields : List String :=
  ["number", "title", "author", "created_at", "labels", "requested_teams"]

end Pull

/-- The tree is the record of the pull request. -/
inductive PullData (p : Pull) (t : Tree) : Prop
  | mk (number createdAt : Tree) (title labels teams : Option Tree)
      (hfields : Fields Pull.dataFields t
        [some number, title, some (Tree.ofText p.author), some createdAt, labels, teams])
      (hnumber : IsNatural p.number number)
      (htitle : IsOrDefault (p.title = "") (· = Tree.ofText p.title) title)
      (hcreatedAt : NamesInstant p.createdAt createdAt)
      (hlabels : IsOrDefault (p.labels = ∅) (ListsTexts p.labels) labels)
      (hteams : IsOrDefault (p.teams = ∅) (ListsTexts p.teams) teams)

/-- The fields of the record of an author, in order. -/
def Identity.dataFields : List String :=
  ["login", "email", "company", "org_member"]

/-- The tree is the record of the author. -/
inductive IdentityData (i : Identity) (t : Tree) : Prop
  | mk (email company isMember : Option Tree)
      (hfields : Fields Identity.dataFields t
        [some (Tree.ofText i.login), email, company, isMember])
      (hemail : IsOrDefault (i.email = none) (· = Tree.ofOptional i.email) email)
      (hcompany : IsOrDefault (i.company = none) (· = Tree.ofOptional i.company) company)
      (hisMember : IsOrDefault (i.isMember = false) (· = .bool i.isMember) isMember)

namespace Pull

theorem setOfTree?_eq_some_iff (t : Tree) (s : OrderedSet String) :
    setOfTree? t = some s ↔ ListsTexts s t := by
  unfold setOfTree? ListsTexts
  simp only [Option.map_eq_some_iff, Tree.list?_eq_some_iff, Tree.text?_eq_some_iff]
  constructor
  · intro h
    rcases h with ⟨l, ⟨items, rfl, hitems⟩, rfl⟩
    rw [← List.forall₂_map_right_iff, List.forall₂_eq_eq_eq] at hitems
    exact ⟨l, congrArg Tree.array hitems, fun x => OrderedSet.mem_ofList⟩
  · intro h
    rcases h with ⟨l, rfl, hmem⟩
    refine ⟨l, ⟨_, rfl, ?_⟩, OrderedSet.ext_of_mem _ _ fun x => ?_⟩
    · exact List.forall₂_map_left_iff.mpr (List.forall₂_same.mpr fun _ _ => rfl)
    · rw [OrderedSet.mem_ofList, hmem]

/-- A pull request is read from its records, and from nothing else. -/
theorem ofTree?_eq_some_iff (t : Tree) (p : Pull) : ofTree? t = some p ↔ PullData p t := by
  have htitle := orElse_iff_isOrDefault "" Tree.text? (fun s t => t = Tree.ofText s)
    Tree.text?_eq_some_iff
  have hset := orElse_iff_isOrDefault ∅ setOfTree? ListsTexts setOfTree?_eq_some_iff
  unfold ofTree?
  simp only [Option.bind_eq_bind, Option.bind_eq_some_iff, Tree.slots?_eq_some_iff]
  constructor
  · intro h
    rcases h with ⟨slots, hfields, h⟩
    split at h
    · simp only [Option.bind_eq_some_iff, required_eq_some_iff, Tree.natural?_eq_some_iff,
        Tree.text?_eq_some_iff, instantOfTree?_eq_some_iff, htitle, hset, Option.pure_def,
        Option.some.injEq] at h
      rcases h with ⟨_, ⟨number, rfl, hnumber⟩, _, htitle, _, ⟨_, rfl, rfl⟩, _,
        ⟨createdAt, rfl, hcreatedAt⟩, _, hlabels, _, hteams, rfl⟩
      exact ⟨number, createdAt, _, _, _, hfields, hnumber, htitle, hcreatedAt, hlabels, hteams⟩
    · simp only [reduceCtorEq] at h
  · intro h
    rcases h with ⟨number, createdAt, title, labels, teams, hfields, hnumber, htitle', hcreatedAt,
      hlabels, hteams⟩
    refine ⟨_, hfields, ?_⟩
    simp only [Option.bind_eq_some_iff, required_eq_some_iff, Tree.natural?_eq_some_iff,
      Tree.text?_eq_some_iff, instantOfTree?_eq_some_iff, htitle, hset, Option.pure_def,
      Option.some.injEq]
    exact ⟨_, ⟨number, rfl, hnumber⟩, _, htitle', _, ⟨_, rfl, rfl⟩, _,
      ⟨createdAt, rfl, hcreatedAt⟩, _, hlabels, _, hteams, rfl⟩

/-- The value that is written for a pull request. -/
def json (p : Pull) : Json :=
  .object [("number", .int p.number), ("title", .string p.title), ("author", .string p.author),
    ("created_at", .string p.createdAt.stamp), ("labels", setJson p.labels),
    ("requested_teams", setJson p.teams)]

theorem print_eq (p : Pull) : p.print = p.json.print := by
  -- Every opening is the mark before a member and the member up to its colon.
  have hnumber : "\x7b\"number\":".toList = '\x7b' :: (printString "number" ++ [':']) := by decide
  have htitle : ",\"title\":".toList = ',' :: (printString "title" ++ [':']) := by decide
  have hauthor : ",\"author\":".toList = ',' :: (printString "author" ++ [':']) := by decide
  have htime : ",\"created_at\":".toList = ',' :: (printString "created_at" ++ [':']) := by decide
  have hlabels : ",\"labels\":".toList = ',' :: (printString "labels" ++ [':']) := by decide
  have hteams : ",\"requested_teams\":".toList
      = ',' :: (printString "requested_teams" ++ [':']) := by
    decide
  unfold print json printSet setJson
  rw [hnumber, htitle, hauthor, htime, hlabels, hteams]
  simp only [print_object, print_int, print_string, printMembers, List.append_assoc,
    List.cons_append, List.nil_append]

/-- The pull request with the time that its stamp names. -/
def carried (p : Pull) : Pull :=
  { p with createdAt := p.createdAt.carried }

theorem carried_of_hasStamp {p : Pull} (h : p.createdAt.HasStamp) : p.carried = p := by
  rw [carried, Instant.carried_of_hasStamp h]

theorem pullData_json (p : Pull) (hsize : p.number < Nat.pow 2 64) :
    ∃ t, p.json.tree? = some t ∧ PullData p.carried t := by
  rcases listsTexts_setJson p.labels with ⟨labels, hlabels, hlabels'⟩
  rcases listsTexts_setJson p.teams with ⟨teams, hteams, hteams'⟩
  have hnames : dataFields.Nodup := by decide
  have hfields := Fields.of_members [("number", Tree.ofNat p.number),
    ("title", Tree.ofText p.title), ("author", Tree.ofText p.author),
    ("created_at", Tree.ofText p.createdAt.stamp), ("labels", labels),
    ("requested_teams", teams)] hnames
  refine ⟨_, ?_, _, _, _, _, _, hfields, ⟨_, rfl, Nat.ofDigitChars_ten_toDigits, hsize⟩, rfl,
    ⟨_, rfl, p.createdAt.ofString?_stamp⟩, hlabels', hteams'⟩
  unfold json
  rw [Json.tree?]
  simp only [memberTrees?, tree?_ofNat, hlabels, hteams]
  rfl

end Pull

namespace Identity

theorem ofTree?_eq_some_iff (t : Tree) (i : Identity) :
    ofTree? t = some i ↔ IdentityData i t := by
  have hmaybe := orElse_iff_isOrDefault none (Tree.maybe? Tree.text?)
    (fun text t => t = Tree.ofOptional text) Tree.maybe?_eq_some_iff
  have hflag := orElse_iff_isOrDefault false Tree.flag? (fun b t => t = .bool b)
    Tree.flag?_eq_some_iff
  unfold ofTree?
  simp only [Option.bind_eq_bind, Option.bind_eq_some_iff, Tree.slots?_eq_some_iff]
  constructor
  · intro h
    rcases h with ⟨slots, hfields, h⟩
    split at h
    · simp only [Option.bind_eq_some_iff, required_eq_some_iff, Tree.text?_eq_some_iff, hmaybe,
        hflag, Option.pure_def, Option.some.injEq] at h
      rcases h with ⟨_, ⟨_, rfl, rfl⟩, _, hemail, _, hcompany, _, hisMember, rfl⟩
      exact ⟨_, _, _, hfields, hemail, hcompany, hisMember⟩
    · simp only [reduceCtorEq] at h
  · intro h
    rcases h with ⟨email, company, isMember, hfields, hemail, hcompany, hisMember⟩
    refine ⟨_, hfields, ?_⟩
    simp only [Option.bind_eq_some_iff, required_eq_some_iff, Tree.text?_eq_some_iff, hmaybe,
      hflag, Option.pure_def, Option.some.injEq]
    exact ⟨_, ⟨_, rfl, rfl⟩, _, hemail, _, hcompany, _, hisMember, rfl⟩

/-- The value that is written for an author. -/
def json (i : Identity) : Json :=
  .object [("login", .string i.login), ("email", (i.email.map .string).getD .null),
    ("company", (i.company.map .string).getD .null), ("org_member", .bool i.isMember)]

theorem printOptional_eq (text : Option String) :
    printOptional text = ((text.map Json.string).getD .null).print := by
  cases text <;> rfl

theorem print_eq (i : Identity) : i.print = i.json.print := by
  have hlogin : "\x7b\"login\":".toList = '\x7b' :: (printString "login" ++ [':']) := by decide
  have hemail : ",\"email\":".toList = ',' :: (printString "email" ++ [':']) := by decide
  have hcompany : ",\"company\":".toList = ',' :: (printString "company" ++ [':']) := by decide
  have hisMember : ",\"org_member\":".toList = ',' :: (printString "org_member" ++ [':']) := by
    decide
  unfold print json
  rw [hlogin, hemail, hcompany, hisMember]
  simp only [print_object, print_string, printMembers, printOptional_eq, List.append_assoc,
    List.cons_append, List.nil_append]

theorem identityData_json (i : Identity) : ∃ t, i.json.tree? = some t ∧ IdentityData i t := by
  have hnames : dataFields.Nodup := by decide
  have hfields := Fields.of_members [("login", Tree.ofText i.login),
    ("email", Tree.ofOptional i.email), ("company", Tree.ofOptional i.company),
    ("org_member", .bool i.isMember)] hnames
  refine ⟨_, ?_, _, _, _, hfields, rfl, rfl, rfl⟩
  unfold json
  rw [Json.tree?]
  simp only [memberTrees?, tree?_optional]
  rfl

end Identity

/-- A pull request is read back from its record, with the time that its stamp
    names. -/
theorem readWhole?_pull (p : Pull) (hsize : p.number < Nat.pow 2 64) :
    readWhole? Pull.ofTree? (p.print.map some) = some p.carried := by
  rcases Pull.pullData_json p hsize with ⟨t, ht, hdata⟩
  rw [Pull.print_eq, readWhole?_print Pull.ofTree? p.json t ht]
  exact (Pull.ofTree?_eq_some_iff t p.carried).mpr hdata

/-- So it is the same one if stamps can tell when it was opened. -/
theorem readWhole?_pull_of_hasStamp {p : Pull} (hsize : p.number < Nat.pow 2 64)
    (hstamp : p.createdAt.HasStamp) : readWhole? Pull.ofTree? (p.print.map some) = some p := by
  rw [readWhole?_pull p hsize, Pull.carried_of_hasStamp hstamp]

/-- An author is read back from its record. -/
theorem readWhole?_identity (i : Identity) :
    readWhole? Identity.ofTree? (i.print.map some) = some i := by
  rcases Identity.identityData_json i with ⟨t, ht, hdata⟩
  rw [Identity.print_eq, readWhole?_print Identity.ofTree? i.json t ht]
  exact (Identity.ofTree?_eq_some_iff t i).mpr hdata

/-- The number of a pull request that was read fits into 64 bits, and its time
    has a stamp. -/
theorem bounds_of_isText {s : Source} {p : Pull} (h : IsText (PullData p) s) :
    p.number < Nat.pow 2 64 ∧ p.createdAt.HasStamp := by
  -- A larger number would be a floating point number, and that is no natural one.
  rcases h with ⟨_, _, _, _, -, -, -, -,
    ⟨_, _, _, _, _, -, ⟨_, -, -, hsize⟩, -, ⟨_, -, hnames⟩, -⟩⟩
  exact ⟨hsize, (Instant.hasStamp_iff_exists _).mpr ⟨_, hnames⟩⟩

/-- Whatever is written is read back as it was, but for a time that has no
    stamp, which is carried to the second behind it and counts as many
    nanoseconds there. Records are read from the texts of them and from no
    others, and from whatever text a record is read, the text that is written
    for it is read as the same record and written for itself. -/
theorem records_read_back :
    (∀ p : Pull, p.number < Nat.pow 2 64 →
      (p.createdAt.HasStamp → readWhole? Pull.ofTree? (p.print.map some) = some p) ∧
      (¬ p.createdAt.HasStamp →
        readWhole? Pull.ofTree? (p.print.map some) = some p.carried ∧ p.carried ≠ p ∧
          p.carried.createdAt.value = p.createdAt.value)) ∧
    (∀ i : Identity, readWhole? Identity.ofTree? (i.print.map some) = some i) ∧
    (∀ (s : Source) (p : Pull),
      (readWhole? Pull.ofTree? s = some p ↔ IsText (PullData p) s) ∧
      (readWhole? Pull.ofTree? s = some p →
        ∃ n, rewritten? Pull.ofTree? Pull.print s = some n ∧ readWhole? Pull.ofTree? n = some p ∧
          rewritten? Pull.ofTree? Pull.print n = some n)) ∧
    (∀ (s : Source) (i : Identity),
      (readWhole? Identity.ofTree? s = some i ↔ IsText (IdentityData i) s) ∧
      (readWhole? Identity.ofTree? s = some i →
        ∃ n, rewritten? Identity.ofTree? Identity.print s = some n ∧
          readWhole? Identity.ofTree? n = some i ∧
          rewritten? Identity.ofTree? Identity.print n = some n)) := by
  refine ⟨?_, readWhole?_identity, ?_, ?_⟩
  · intro p hsize
    refine ⟨readWhole?_pull_of_hasStamp hsize, fun hstamp => ⟨readWhole?_pull p hsize, ?_, ?_⟩⟩
    · intro hsame
      exact hstamp ((Instant.carried_eq_self_iff _).mp (congrArg Pull.createdAt hsame))
    · exact Instant.value_carried _
  · intro s p
    have htexts := readWhole?_eq_some_iff Pull.ofTree?_eq_some_iff s p
    refine ⟨htexts, fun hread => ?_⟩
    -- The number fits and the time has a stamp because they were read.
    rcases bounds_of_isText (htexts.mp hread) with ⟨hsize, hstamp⟩
    exact rewritten?_of_readWhole? hread (readWhole?_pull_of_hasStamp hsize hstamp)
  · intro s i
    refine ⟨readWhole?_eq_some_iff Identity.ofTree?_eq_some_iff s i, fun hread => ?_⟩
    exact rewritten?_of_readWhole? hread (readWhole?_identity i)

namespace Sample

/-- A record with its fields in another order and others among them, without a
    title and labels, with a team listed twice, and opened in a leap second. -/
def looseRecord : String :=
  " \x7b\"requested_teams\":[\"net\",\"doc\",\"net\"],\"url\":null,\"author\":\"\\u0064ev\"," ++
    "\"created_at\":\" +2016-12-31t23:59:60.5 utc\",\"number\":18446744073709551615\x7d\n"

/-- The pull request that it describes. -/
def inLeapSecond : Pull where
  number := 18446744073709551615
  title := ""
  author := "dev"
  createdAt := { seconds := 1483228799, nanos := 1500000000 }
  labels := ∅
  teams := OrderedSet.ofList ["doc", "net"]

/-- The same one, opened in a leap second behind the fifth second of 1970. -/
def inStraySecond : Pull :=
  { inLeapSecond with createdAt := { seconds := 4, nanos := 1333333333 } }

/-- A record without the names of its fields, of which the last is absent. -/
def unnamedRecord : String :=
  "[\"dev\",null,\"\\ud83d\\ude00\"]"

end Sample

/-- A loose record of a pull request, and one of an author without the names of
    its fields. A stray leap second is read back as the next second. -/
theorem records_read_back_sample :
    readWhole? Pull.ofTree? (Sample.inLeapSecond.print.map some) = some Sample.inLeapSecond ∧
    readWhole? Pull.ofTree? (Sample.inStraySecond.print.map some)
      = some Sample.inStraySecond.carried ∧
    (∃ n, rewritten? Pull.ofTree? Pull.print (Source.ofString Sample.looseRecord) = some n ∧
      readWhole? Pull.ofTree? n = some Sample.inLeapSecond ∧
      rewritten? Pull.ofTree? Pull.print n = some n) ∧
    ∃ n, rewritten? Identity.ofTree? Identity.print (Source.ofString Sample.unnamedRecord)
        = some n ∧
      readWhole? Identity.ofTree? n = some ⟨"dev", none, some "😀", false⟩ ∧
      rewritten? Identity.ofTree? Identity.print n = some n := by
  refine ⟨?_, ?_, ?_, ?_⟩
  · exact (records_read_back.1 Sample.inLeapSecond (by decide)).1 (by decide)
  · exact ((records_read_back.1 Sample.inStraySecond (by decide)).2 (by decide)).1
  · exact (records_read_back.2.2.1 _ _).2 (by decide +kernel)
  · exact (records_read_back.2.2.2 _ _).2 (by decide +kernel)

/-- The record of a pull request that was opened in a stray leap second is read
    as one that was opened in the next second. That shows: one of them counts
    as opened before the sixth second of 1970 had begun, and the other one does
    not. -/
theorem stray_leap_second_carried :
    Sample.inStraySecond.number < Nat.pow 2 64 ∧
    readWhole? Pull.ofTree? (Sample.inStraySecond.print.map some)
      = some { Sample.inStraySecond with createdAt := { seconds := 5, nanos := 333333333 } } ∧
    readWhole? Pull.ofTree? (Sample.inStraySecond.print.map some) ≠ some Sample.inStraySecond ∧
    Run.isOld (some { seconds := 5, nanos := 0 }) Sample.inStraySecond = true ∧
    Run.isOld (some { seconds := 5, nanos := 0 }) Sample.inStraySecond.carried = false := by
  have hread := readWhole?_pull Sample.inStraySecond (by decide)
  have hcarried : Sample.inStraySecond.carried
      = { Sample.inStraySecond with createdAt := { seconds := 5, nanos := 333333333 } } := by
    decide
  refine ⟨by decide, hcarried ▸ hread, fun hback => ?_, by decide, by decide⟩
  rw [hread, Option.some.injEq] at hback
  exact absurd hback (by decide)

end PullTriage
