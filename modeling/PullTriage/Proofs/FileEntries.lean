import PullTriage.Config.Entries
import PullTriage.Proofs.Readback
import PullTriage.Proofs.Resolution

/-!
# Entries of a Configuration File

A file is read as the entries that it was written for, in their order and with
all their repetitions, however it is spelled. Only below the entries do
objects become maps: there a name stands once, and its order is of no
account.

Since no entry is lost, a name that the file repeats is seen when the
configuration is resolved. It is compared as it is decoded, so two spellings
of a name are a repetition, and the first name that repeats an earlier one is
the one that is reported, whatever the command line and the environment say.
No later stage reports a repetition.

## Main definitions

* `FileSpelling`: How the entries of a file can be written.
* `FirstRepeat`: The first name of a list that occurs earlier in it.

## Theorems

* `parseEntries_of_spelling`: The entries of a file are read from its text.
* `resolve_eq_duplicate`: What is reported as a repetition.
* `entries_read_in_order`: Both.
-/

namespace PullTriage

open Json Resolve

/-- How the entries of a file can be written: as one object with white space
    around it, every entry as a member of its name. -/
inductive FileSpelling : List (String × Json) → List Char → Prop
  | mk (members : List (String × Tree × Json)) (v text w : List Char) (hv : Blanks v)
      (hvalues : ∀ m ∈ members, Denotes m.2.1 m.2.2)
      (h : Spelling (Tree.ofMembers (members.map fun m => (m.1, m.2.1))) text) (hw : Blanks w) :
      FileSpelling (members.map fun m => (m.1, m.2.2)) (v ++ (text ++ w))

/-- The first name of a list that occurs earlier in it. -/
def FirstRepeat (names : List String) (name : String) : Prop :=
  ∃ before after, names = before ++ name :: after ∧ name ∈ before ∧ before.Nodup

/-- An object begins with a brace. -/
theorem spelling_ofMembers {members : List (String × Tree)} {text : List Char}
    (h : Spelling (Tree.ofMembers members) text) : ∃ rest, text = '\x7b' :: rest := by
  generalize ht : Tree.ofMembers members = t at h
  unfold Tree.ofMembers at ht
  cases h with
  | emptyObject w _ => exact ⟨_, rfl⟩
  | object _ text _ => exact ⟨_, rfl⟩
  | _ => simp only [reduceCtorEq] at ht

/-- A text that begins with a brace has the entries of the object that it is. -/
theorem parseEntries_of_brace (path text : String) (rest : Source) (members : List (Raw × Tree))
    (entries : List (String × Json))
    (hbrace : skipBlank (Source.ofString text) = some '\x7b' :: rest)
    (htree : Tree.ofSource? (some '\x7b' :: rest) = some (.object members))
    (hvalues : Tree.membersToJson? (nestingLimit - 1) members = some entries) :
    parseEntries path text = .ok entries := by
  unfold parseEntries
  simp only [hbrace, htree, hvalues]

/-- The entries of a file are read from its text, if what they hold is not
    nested too deep. -/
theorem parseEntries_of_spelling (path : String) {entries : List (String × Json)}
    {text : List Char} (hentries : ∀ e ∈ entries, Plain (nestingLimit - 1) e.2)
    (h : FileSpelling entries text) : parseEntries path (String.ofList text) = .ok entries := by
  cases h with
  | mk members v text w hv hvalues h hw =>
      -- The brace is looked at before the text is read, so it is brought to the front.
      rcases spelling_ofMembers h with ⟨rest, rfl⟩
      have htree := Tree.ofSource?_of_spelling blanks_nil h hw
      have hread := membersToJson?_of_forall (nestingLimit - 1) members fun m hm =>
        toJsonWithin?_of_denotes (hvalues m hm) _ (hentries (m.1, m.2.2) (List.mem_map_of_mem hm))
      rw [Tree.ofMembers, List.map_map] at htree
      refine parseEntries_of_brace path _ ((rest ++ w).map some) _ _ ?_ htree hread
      rw [Source.ofString, String.toList_ofList, List.map_append, skipBlank_blanks v hv]
      exact skipBlank_cons '\x7b' (by decide) _

theorem firstRepeat?_eq_some_iff (names : List String) (name : String) :
    firstRepeat? [] names = some name ↔ FirstRepeat names name := by
  rw [firstRepeat?_eq_some, FirstRepeat]
  simp only [List.not_mem_nil, false_or, not_false_eq_true, implies_true, and_true]

theorem exists_firstRepeat_iff (names : List String) :
    (∃ name, FirstRepeat names name) ↔ ¬ names.Nodup := by
  have hnone := firstRepeat?_eq_none [] names
  simp only [List.not_mem_nil, not_false_eq_true, implies_true, and_true] at hnone
  simp only [← firstRepeat?_eq_some_iff, ← hnone, ← Option.isSome_iff_exists,
    Option.isSome_iff_ne_none, ne_eq]

/-- Nothing that reading the properties finds is a repetition. -/
theorem not_firstOffence_duplicate (properties : Dictionary Json) (name : String)
    (demands : List (String × Kind)) :
    ¬ FirstOffence properties demands (.duplicateProperty name) := by
  have hoffence : ∀ (property : String) (kind : Kind) (e : ConfigError),
      Offence properties property kind e → e ≠ .duplicateProperty name := by
    intro property kind e h
    cases h with
    | missing => simp only [ne_eq, reduceCtorEq, not_false_eq_true]
    | wrongKind => simp only [Typed.mismatch, ne_eq, reduceCtorEq, not_false_eq_true]
    | unusable v _ _ _ hmisuse =>
        cases hmisuse <;> simp only [Typed.mismatch, ne_eq, reduceCtorEq, not_false_eq_true]
  induction demands with
  | nil => exact fun h => h
  | cons demand rest ih =>
      intro h
      rcases h with h | ⟨-, h⟩
      · exact hoffence _ _ _ h rfl
      · exact ih h

/-- What is reported as a repetition is the first name that repeats an earlier
    one. -/
theorem resolve_eq_duplicate (entries : List (String × Json)) (arguments : List String)
    (environment : String → Option String) (name : String) :
    Config.resolve entries arguments environment = .error (.duplicateProperty name) ↔
      FirstRepeat (entries.map Prod.fst) name := by
  constructor
  · intro h
    -- Two of the four faults have other errors, and the last one says what reading finds.
    cases fault_of_resolve _ h with
    | repeated before after _ hsplit hmem hnodup => exact ⟨before, after, hsplit, hmem, hnodup⟩
    | refused properties _ _ _ _ hoffence =>
        exact absurd hoffence (not_firstOffence_duplicate properties name _)
  · intro h
    rcases h with ⟨before, after, hsplit, hmem, hnodup⟩
    exact resolve_of_fault _ (.repeated before after name hsplit hmem hnodup)

/-- The entries of a file are read in their order and with their repetitions
    from every text that they can be written as. The configuration is refused
    for a repetition exactly if two of their names are equal, and for the first
    name that repeats an earlier one. -/
theorem entries_read_in_order (path : String) (entries : List (String × Json)) (text : List Char)
    (hentries : ∀ e ∈ entries, Plain (nestingLimit - 1) e.2) (htext : FileSpelling entries text) :
    parseEntries path (String.ofList text) = .ok entries ∧
    ∀ (arguments : List String) (environment : String → Option String),
      ((∃ name, Config.resolve entries arguments environment = .error (.duplicateProperty name)) ↔
        ¬ (entries.map Prod.fst).Nodup) ∧
      ∀ name, Config.resolve entries arguments environment = .error (.duplicateProperty name) ↔
        FirstRepeat (entries.map Prod.fst) name := by
  refine ⟨parseEntries_of_spelling path hentries htext, fun arguments environment => ⟨?_, ?_⟩⟩
  · rw [← exists_firstRepeat_iff]
    exact exists_congr fun name => resolve_eq_duplicate entries arguments environment name
  · intro name
    exact resolve_eq_duplicate entries arguments environment name

namespace Sample

/-- Two entries of one name. -/
def respelled : List (String × Json) :=
  [("A", .int 1), ("A", .object [("a", .null), ("b", .bool true)])]

/-- A text of them in which the name is spelled in two ways. -/
def respelledText : String :=
  " \x7b\"A\": 1,\"\\u0041\":\x7b\"b\":true,\"a\":null\x7d\x7d"

theorem respelled_spelling : FileSpelling respelled respelledText.toList := by
  have hspace : Blanks [' '] := fun c hc => Or.inl (List.mem_singleton.mp hc)
  have hletter : StringSpelling ['A'] ['A'] := stringSpelling_printChar ['A']
  have hescape : StringSpelling ['A'] ['\\', 'u', '0', '0', '4', '1'] :=
    .cons 'A' [] _ [] (.unit _ (.mk '0' '0' '4' '1' 0 0 4 1 rfl rfl rfl rfl)) .nil
  have hone := spelling_print (.int 1) _ rfl
  have hobject := spelling_print (.object [("b", .bool true), ("a", .null)]) _ rfl
  have hdenotes : Denotes (.ofMembers [("b", .bool true), ("a", .null)])
      (.object [("a", .null), ("b", .bool true)]) := by
    refine .object [("b", .bool true, .bool true), ("a", .null, .null)] _ ?_ (.swap _ _ _)
    simp only [List.forall_mem_cons]
    exact ⟨.bool true, .null, fun m hm => absurd hm List.not_mem_nil⟩
  have hvalues : ∀ m ∈ [("A", Tree.number ⟨false, ['1'], none, none⟩, Json.int 1),
      ("A", .ofMembers [("b", .bool true), ("a", .null)],
        .object [("a", .null), ("b", .bool true)])], Denotes m.2.1 m.2.2 := by
    simp only [List.forall_mem_cons]
    exact ⟨.int 1, hdenotes, fun m hm => absurd hm List.not_mem_nil⟩
  have hfirst := MemberSpelling.mk ['A'] _ [] _ [] [' '] _ [] blanks_nil hletter blanks_nil hspace
    hone blanks_nil
  have hsecond := MemberSpelling.mk ['A'] _ [] _ [] [] _ [] blanks_nil hescape blanks_nil
    blanks_nil hobject blanks_nil
  have hfile := FileSpelling.mk _ [' '] _ [] hspace hvalues
    (.object _ _ (.more _ _ _ _ hfirst (.last _ _ hsecond))) blanks_nil
  exact hfile

end Sample

/-- The name is reported although its two spellings differ. -/
theorem entries_read_in_order_respelled :
    parseEntries "app.json" Sample.respelledText = .ok Sample.respelled ∧
      Config.resolve Sample.respelled ["B=1"] (fun _ => none)
        = .error (.duplicateProperty "A") := by
  have hobject : Plain (nestingLimit - 1) (.object [("a", .null), ("b", .bool true)]) := by
    refine .object _ _ (by decide) ?_
    simp only [List.forall_mem_cons]
    exact ⟨.null _, .bool _ true, fun m hm => absurd hm List.not_mem_nil⟩
  have hplain : ∀ e ∈ Sample.respelled, Plain (nestingLimit - 1) e.2 := by
    unfold Sample.respelled
    simp only [List.forall_mem_cons]
    exact ⟨.int _ 1 (by decide) (by decide), hobject, fun e he => absurd he List.not_mem_nil⟩
  have h := entries_read_in_order "app.json" Sample.respelled Sample.respelledText.toList hplain
    Sample.respelled_spelling
  rw [String.ofList_toList] at h
  exact ⟨h.1, ((h.2 ["B=1"] fun _ => none).2 "A").mpr ⟨["A"], [], rfl, List.mem_singleton_self _,
    List.nodup_singleton _⟩⟩

end PullTriage
