import PullTriage.Proofs.WordContexts
import PullTriage.Text.Search

/-!
# Phrases in Letters of any Case

A phrase is looked for without regard to case by lowercasing the whole text
and looking for the phrase there. Lowercasing is done for all of Unicode, and
it is not a map on characters, so it is not evident what is found.

For a phrase of ASCII characters nothing else is found than the phrase itself
with some of its letters as capitals, with two exceptions: the Kelvin sign
becomes an ordinary `k`, and the capital I with a dot above becomes an `i` and
a dot, so that an `i` at the end of a phrase is found in it. Every other
character that is not ASCII becomes one that is not ASCII either.

## Main definitions

* `Text.Mentions`: A text holds a phrase in letters of any case.
* `Text.IsPlainPhrase`: A phrase without the two exceptions.
* `Text.LowerForm`: What a character becomes.

## Theorems

* `Text.holds_iff`: What the search looks for.
* `Text.lowerForm_lowerChar`: What a character becomes out of context.
* `Text.lowerAfter_cons`: The small form of a text from any place on.
* `Text.holds_lower_iff`: A phrase is in the small form of a text if and only
  if the text mentions it.
-/

namespace PullTriage

namespace Text

/-- The text holds the phrase in one piece, with any of its ASCII letters as
    capitals. -/
def Mentions (phrase l : List Char) : Prop :=
  ∃ part, part <:+: l ∧ part.map Char.toLower = phrase

/-- The phrase is ASCII, has no `k` and does not end in an `i`. -/
structure IsPlainPhrase (phrase : List Char) : Prop where
  ascii : ∀ c ∈ phrase, c.toNat < 128
  kelvin : 'k' ∉ phrase
  dotted : ¬['i'] <:+ phrase

instance (phrase : List Char) : Decidable (IsPlainPhrase phrase) :=
  decidable_of_iff
    (phrase.all (fun c => c.toNat < 128) = true ∧ 'k' ∉ phrase ∧ ¬['i'] <:+ phrase) <| by
      simp only [List.all_eq_true, decide_eq_true_eq]
      exact ⟨fun h => ⟨h.1, h.2.1, h.2.2⟩, fun h => ⟨h.ascii, h.kelvin, h.dotted⟩⟩

theorem IsPlainPhrase.tail {c : Char} {rest : List Char} (h : IsPlainPhrase (c :: rest)) :
    IsPlainPhrase rest :=
  ⟨fun d hd => h.ascii d (List.mem_cons_of_mem c hd),
    fun hk => h.kelvin (List.mem_cons_of_mem c hk),
    fun hi => h.dotted (hi.trans (List.suffix_cons c rest))⟩

/-- The search finds a phrase that is in the text in one piece. -/
theorem holds_iff (phrase l : List Char) : holds phrase l = true ↔ phrase <:+: l := by
  induction l with
  | nil => rw [holds, List.isEmpty_iff, List.infix_nil]
  | cons c rest ih =>
      rw [holds, Bool.or_eq_true, List.isPrefixOf_iff_prefix, ih, List.infix_cons_iff]

/-- An ASCII character becomes the small letter of ASCII. -/
theorem lowerChar_of_ascii (c : Char) (h : c.toNat < 128) : lowerChar c = [c.toLower] := by
  have hall : ∀ n : Fin 128, lowerChar (Char.ofNat n) = [(Char.ofNat n).toLower] := by
    decide +kernel
  have hc := hall ⟨c.toNat, h⟩
  rwa [Char.ofNat_toNat] at hc

/-- The runs of capitals outside ASCII have their small letters outside ASCII
    and among the characters, the Kelvin sign excepted. -/
theorem shift_of_mem_capitals (r : CaseRun) (hr : r ∈ capitals) :
    r.last < 128 ∨ (r.first = 0x212A ∧ r.last = 0x212A ∧ r.shift = -8383) ∨
      128 ≤ r.first + r.shift ∧
        (r.last + r.shift < 0xD800 ∨
          0xDFFF < r.first + r.shift ∧ r.last + r.shift < 0x110000) := by
  have hall : ∀ r ∈ capitals,
      r.last < 128 ∨ (r.first = 0x212A ∧ r.last = 0x212A ∧ r.shift = -8383) ∨
        128 ≤ r.first + r.shift ∧
          (r.last + r.shift < 0xD800 ∨
            0xDFFF < r.first + r.shift ∧ r.last + r.shift < 0x110000) := by
    decide +kernel
  exact hall r hr

/-- The number of a character is not lost. -/
theorem toNat_ofNat_of_valid (n : Nat) (h : n < 0xD800 ∨ 0xDFFF < n ∧ n < 0x110000) :
    (Char.ofNat n).toNat = n := by
  have hvalid : n.isValidChar := h
  rw [Char.ofNat, dif_pos hvalid]
  rfl

/-- What a character becomes, wherever it stands. -/
inductive LowerForm (c : Char) : List Char → Prop where
  | ascii (h : c.toNat < 128) : LowerForm c [c.toLower]
  | dotted (h : ¬c.toNat < 128) : LowerForm c ['i', Char.ofNat 0x307]
  | kelvin (h : ¬c.toNat < 128) : LowerForm c ['k']
  | other (h : ¬c.toNat < 128) (d : Char) (hd : ¬d.toNat < 128) : LowerForm c [d]

/-- A character out of context becomes one of its forms. -/
theorem lowerForm_lowerChar (c : Char) : LowerForm c (lowerChar c) := by
  by_cases h : c.toNat < 128
  · rw [lowerChar_of_ascii c h]
    exact .ascii h
  unfold lowerChar
  rw [if_neg h]
  split
  · exact .dotted h
  · cases hfind : capitals.find? fun r => r.covers c.toNat with
    | none => exact .other h c h
    | some r =>
        have hcovers : r.covers c.toNat = true :=
          List.find?_some (p := fun r : CaseRun => r.covers c.toNat) hfind
        simp only [CaseRun.covers, Bool.and_eq_true, decide_eq_true_eq] at hcovers
        -- The table of capitals decides, which has ASCII characters of its own.
        rcases shift_of_mem_capitals r (List.mem_of_find?_eq_some hfind) with
          hsmall | ⟨hfirst, hlast, hshift⟩ | ⟨hascii, hvalid⟩
        · omega
        · have hn : c.toNat = 0x212A := by omega
          simp only [hn, hshift]
          exact .kelvin h
        · refine .other h _ ?_
          rw [toNat_ofNat_of_valid _ (by omega)]
          omega

/-- Lowercasing goes on behind the first character with what it becomes. -/
theorem lowerAfter_cons (before : List Char) (c : Char) (rest : List Char) :
    ∃ form, LowerForm c form ∧
      lowerAfter before (c :: rest) = form ++ lowerAfter (c :: before) rest := by
  by_cases hsigma : c = 'Σ'
  · have hc : ¬c.toNat < 128 := by
      rw [hsigma]
      decide
    -- The context only chooses between two letters outside ASCII.
    by_cases hfinal : (meetsCased before && !meetsCased rest) = true
    · refine ⟨['ς'], .other hc _ (by decide), ?_⟩
      rw [lowerAfter, if_pos hsigma, if_pos hfinal]
    · refine ⟨['σ'], .other hc _ (by decide), ?_⟩
      rw [lowerAfter, if_pos hsigma, if_neg hfinal]
  · refine ⟨lowerChar c, lowerForm_lowerChar c, ?_⟩
    rw [lowerAfter, if_neg hsigma]

/-- ASCII characters become their small letters, whatever stands around. -/
theorem lowerAfter_ascii_append (part l before : List Char) (h : ∀ c ∈ part, c.toNat < 128) :
    ∃ before', lowerAfter before (part ++ l)
      = part.map Char.toLower ++ lowerAfter before' l := by
  induction part generalizing before with
  | nil => exact ⟨before, rfl⟩
  | cons c part ih =>
      rcases ih (c :: before) fun d hd => h d (List.mem_cons_of_mem c hd) with ⟨before', hpart⟩
      have hc := h c List.mem_cons_self
      rcases lowerAfter_cons before c (part ++ l) with ⟨form, hform, heq⟩
      cases hform with
      | ascii => exact ⟨before', by rw [List.cons_append, heq, hpart]; rfl⟩
      | dotted hn => exact absurd hc hn
      | kelvin hn => exact absurd hc hn
      | other hn => exact absurd hc hn

/-- A character with an ASCII character as its small letter is ASCII. -/
theorem ascii_of_toLower (c : Char) (h : c.toLower.toNat < 128) : c.toNat < 128 := by
  refine Decidable.byContradiction fun hc => ?_
  have hsame : c.toLower = c := by
    unfold Char.toLower
    rw [dif_neg]
    intro hcapital
    have hle : c.toNat ≤ 'Z'.toNat := hcapital.2
    exact hc (Nat.lt_of_le_of_lt hle (by decide))
  rw [hsame] at h
  exact hc h

/-- A plain phrase at the beginning of a small form comes from the beginning
    of the text. The induction is on the text. -/
theorem exists_prefix_of_prefix_lowerAfter (phrase l before : List Char)
    (hphrase : IsPlainPhrase phrase) (h : phrase <+: lowerAfter before l) :
    ∃ part, part <+: l ∧ part.map Char.toLower = phrase := by
  induction l generalizing phrase before with
  | nil =>
      rw [lowerAfter, List.prefix_nil] at h
      exact ⟨[], List.nil_prefix, h.symm⟩
  | cons c l ih =>
      cases phrase with
      | nil => exact ⟨[], List.nil_prefix, rfl⟩
      | cons a rest =>
          have hascii := hphrase.ascii a List.mem_cons_self
          rcases lowerAfter_cons before c l with ⟨form, hform, heq⟩
          rw [heq] at h
          cases hform with
          | ascii hc =>
              rw [List.singleton_append, List.cons_prefix_cons] at h
              rcases ih rest (c :: before) hphrase.tail h.2 with ⟨part, hpart, hlower⟩
              exact ⟨c :: part, (List.cons_prefix_cons).mpr ⟨rfl, hpart⟩,
                by rw [List.map_cons, hlower, h.1]⟩
          | dotted hc =>
              rw [List.cons_append, List.cons_prefix_cons] at h
              -- The dot behind the `i` is not ASCII, so the phrase would end here.
              cases rest with
              | nil => exact absurd (h.1 ▸ List.suffix_rfl) hphrase.dotted
              | cons b rest =>
                  rw [List.singleton_append, List.cons_prefix_cons] at h
                  have hb := hphrase.ascii b (by simp only [List.mem_cons, true_or, or_true])
                  rw [h.2.1] at hb
                  exact absurd hb (by decide)
          | kelvin hc =>
              rw [List.singleton_append, List.cons_prefix_cons] at h
              exact absurd (h.1 ▸ List.mem_cons_self) hphrase.kelvin
          | other hc d hd =>
              rw [List.singleton_append, List.cons_prefix_cons] at h
              exact absurd (h.1 ▸ hascii) hd

/-- A plain phrase in a small form comes from the text. -/
theorem mentions_of_infix_lowerAfter (phrase l before : List Char)
    (hphrase : IsPlainPhrase phrase) (h : phrase <:+: lowerAfter before l) :
    Mentions phrase l := by
  induction l generalizing before with
  | nil =>
      rw [lowerAfter, List.infix_nil] at h
      exact ⟨[], List.nil_infix, h.symm⟩
  | cons c l ih =>
      by_cases hprefix : phrase <+: lowerAfter before (c :: l)
      · rcases exists_prefix_of_prefix_lowerAfter phrase _ before hphrase hprefix with
          ⟨part, hpart, hlower⟩
        exact ⟨part, hpart.isInfix, hlower⟩
      · rcases lowerAfter_cons before c l with ⟨form, hform, heq⟩
        rw [heq] at h hprefix
        -- The phrase does not begin in what the first character becomes.
        have hlater : phrase <:+: lowerAfter (c :: before) l := by
          cases hform with
          | ascii hc => exact ((List.infix_cons_iff).mp h).resolve_left hprefix
          | kelvin hc => exact ((List.infix_cons_iff).mp h).resolve_left hprefix
          | other hc d hd => exact ((List.infix_cons_iff).mp h).resolve_left hprefix
          | dotted hc =>
              have hdot := ((List.infix_cons_iff).mp h).resolve_left hprefix
              refine ((List.infix_cons_iff).mp hdot).resolve_left ?_
              -- No phrase begins with the dot.
              intro hfirst
              cases phrase with
              | nil => exact hprefix List.nil_prefix
              | cons a rest =>
                  rw [List.cons_prefix_cons] at hfirst
                  have ha := hphrase.ascii a List.mem_cons_self
                  rw [hfirst.1] at ha
                  exact absurd ha (by decide)
        rcases ih (c :: before) hlater with ⟨part, hpart, hlower⟩
        exact ⟨part, hpart.trans (List.suffix_cons c l).isInfix, hlower⟩

/-- A plain phrase is in the small form of a text if and only if the text
    mentions it. -/
theorem holds_lower_iff (phrase l : List Char) (hphrase : IsPlainPhrase phrase) :
    holds phrase (lower l) = true ↔ Mentions phrase l := by
  rw [holds_iff]
  constructor
  · exact mentions_of_infix_lowerAfter phrase l [] hphrase
  · rintro ⟨part, ⟨first, last, rfl⟩, rfl⟩
    -- ASCII characters go through whatever the text around them is.
    have hpart : ∀ c ∈ part, c.toNat < 128 := fun c hc =>
      ascii_of_toLower c (hphrase.ascii _ (List.mem_map_of_mem hc))
    rcases lowerAfter_ascii_append part last (first.reverse ++ []) hpart with ⟨before', hlast⟩
    refine ⟨lowerWithin [] first (part ++ last), lowerAfter before' last, ?_⟩
    rw [lower, List.append_assoc first, lowerAfter_append, hlast, List.append_assoc]

end Text

end PullTriage
