import PullTriage.Instant.Printer
import PullTriage.Instant.Reader
import PullTriage.Proofs.Calendars

/-!
# Stamps Name their Instants

The stamp of an instant is read as that instant, whatever its year and its
fraction. The reader is far more generous than stamps need, so it has to be
shown that it takes from a stamp exactly what was written: every number ends
where it was ended, and nothing that could be skipped stands anywhere.

A leap second is written as second 60, so it can be told at the end of a
minute only. Behind any other second the stamp of a leap second is the stamp
of the next second, and is read as that (`Instant.ofString?_stamp`). No other
text helps: an offset from universal time is a whole number of minutes, so no
text at all names an instant in such a leap second
(`Instant.hasStamp_iff_exists`).

## Main definitions

* `Instant.HasStamp`: An instant that stamps can tell.
* `Instant.carried`: The instant that the stamp of an instant names.

## Theorems

* `Instant.readPlace_padded`, `Instant.readYear_yearText`,
  `Instant.readFraction_fractionText`: The parts of a stamp.
* `Instant.ofCivil?_date`: What the date and the time of day of an instant
  name.
* `Instant.ofString?_stamp`: What its stamp is read as.
* `Instant.hasStamp_iff_exists`: Only instants that have a stamp are read.
-/

namespace PullTriage

namespace Instant

open Text (trimStart)

theorem isBlank_of_isDigit (c : Char) (h : c.isDigit = true) : Text.isBlank c = false := by
  have hrange : 48 ≤ c.toNat ∧ c.toNat ≤ 57 := by
    simp only [Char.isDigit, Bool.and_eq_true, decide_eq_true_eq, ge_iff_le,
      UInt32.le_iff_toNat_le] at h
    exact h
  unfold Text.isBlank
  generalize c.toNat = n at hrange ⊢
  simp only [Bool.or_eq_false_iff, Bool.and_eq_false_iff, decide_eq_false_iff_not,
    beq_eq_false_iff_ne]
  omega

theorem trimStart_cons (c : Char) (h : Text.isBlank c = false) (rest : List Char) :
    trimStart (c :: rest) = c :: rest := by
  unfold trimStart
  rw [List.dropWhile_cons, h, if_neg Bool.false_ne_true]

theorem afterSeparator_cons (c : Char) (h : Text.isBlank c = false) (rest : List Char) :
    afterSeparator c (c :: rest) = some rest := by
  unfold afterSeparator
  rw [trimStart_cons c h]
  exact if_pos rfl

/-- Digits are read up to what is no digit, or up to as many as are wanted. -/
theorem spanDigits_append (digits : List Char) (h : ∀ c ∈ digits, c.isDigit = true) (most : Nat)
    (hmost : digits.length ≤ most) (rest : List Char)
    (hrest : digits.length = most ∨ ∀ c, rest.head? = some c → c.isDigit = false) :
    spanDigits most (digits ++ rest) = (digits, rest) := by
  induction digits generalizing most with
  | nil =>
      rw [List.nil_append]
      cases most with
      | zero => rfl
      | succ most =>
          cases rest with
          | nil => rfl
          | cons c more =>
              have hc := hrest.resolve_left (Nat.succ_ne_zero most).symm c rfl
              rw [spanDigits, hc, if_neg Bool.false_ne_true]
  | cons c more ih =>
      rw [List.length_cons] at hmost hrest
      rcases Nat.exists_eq_succ_of_ne_zero (n := most) (by omega) with ⟨most, rfl⟩
      rw [List.cons_append, spanDigits, if_pos (h c List.mem_cons_self),
        ih (fun d hd => h d (List.mem_cons_of_mem _ hd)) most (by omega)
          (hrest.imp_left (by omega))]

/-- A number is read as what its digits stand for. -/
theorem readNumber_append (digits : List Char) (hne : digits ≠ [])
    (h : ∀ c ∈ digits, c.isDigit = true) (most : Nat) (hmost : digits.length ≤ most)
    (rest : List Char)
    (hrest : digits.length = most ∨ ∀ c, rest.head? = some c → c.isDigit = false) :
    readNumber most (digits ++ rest) = some (Nat.ofDigitChars 10 digits 0, rest) := by
  rcases List.exists_cons_of_ne_nil hne with ⟨d, more, rfl⟩
  rw [readNumber, spanDigits_append _ h most hmost rest hrest]

theorem isDigit_padded (width n : Nat) (c : Char) (h : c ∈ padded width n) : c.isDigit = true := by
  rcases List.mem_append.mp h with h | h
  · rw [List.eq_of_mem_replicate h]
    rfl
  · exact Nat.isDigit_of_mem_toDigits (by decide) (by decide) h

theorem padded_ne_nil (width n : Nat) : padded width n ≠ [] :=
  List.append_ne_nil_of_right_ne_nil _ Nat.toDigits_ne_nil

theorem ofDigitChars_padded (width n : Nat) : Nat.ofDigitChars 10 (padded width n) 0 = n := by
  have hzeros : ∀ k, Nat.ofDigitChars 10 (List.replicate k '0') 0 = 0 := by
    intro k
    induction k with
    | zero => rfl
    | succ k ih =>
        rw [List.replicate_succ, Nat.ofDigitChars_cons]
        exact ih
  unfold padded
  rw [Nat.ofDigitChars_append, hzeros, Nat.ofDigitChars_ten_toDigits]

/-- A number that fits is as wide as it should be. -/
theorem length_padded (width n : Nat) (hwidth : 0 < width) (h : n < Nat.pow 10 width) :
    (padded width n).length = width := by
  have hdigits : (Nat.toDigits 10 n).length ≤ width :=
    (Nat.length_toDigits_le_iff (by decide) hwidth).mpr h
  unfold padded
  rw [List.length_append, List.length_replicate]
  omega

theorem trimStart_padded (width n : Nat) (rest : List Char) :
    trimStart (padded width n ++ rest) = padded width n ++ rest := by
  rcases List.exists_cons_of_ne_nil (padded_ne_nil width n) with ⟨d, more, hd⟩
  have hdigit := isDigit_padded width n d (hd ▸ List.mem_cons_self)
  rw [hd, List.cons_append, trimStart_cons d (isBlank_of_isDigit d hdigit)]

theorem readPlace_padded (low high n : Nat) (hlow : low ≤ n) (hhigh : n ≤ high) (h : n < 100)
    (rest : List Char) : readPlace low high (padded 2 n ++ rest) = some (n, rest) := by
  have hlength := length_padded 2 n (by decide) h
  unfold readPlace
  rw [trimStart_padded, readNumber_append _ (padded_ne_nil 2 n) (isDigit_padded 2 n) 2
    (Nat.le_of_eq hlength) rest (Or.inl hlength), ofDigitChars_padded]
  exact if_pos ⟨hlow, hhigh⟩

/-- A year is read up to the hyphen behind it. -/
theorem readYear_yearText (year : Int) (rest : List Char) :
    readYear (yearText year ++ '-' :: rest) = some (year, '-' :: rest) := by
  have hhyphen : ∀ c, ('-' :: rest).head? = some c → c.isDigit = false := by
    intro c hc
    rw [List.head?_cons, Option.some.injEq] at hc
    exact hc ▸ rfl
  have hsigned : readNumber (padded 4 year.natAbs ++ '-' :: rest).length
      (padded 4 year.natAbs ++ '-' :: rest) = some (year.natAbs, '-' :: rest) := by
    rw [readNumber_append _ (padded_ne_nil 4 _) (isDigit_padded 4 _) _
      (by rw [List.length_append]; omega) _ (Or.inr hhyphen), ofDigitChars_padded]
  unfold yearText readYear
  -- Four digits are read as that many, and a year with a sign up to the hyphen.
  by_cases hplain : 0 ≤ year ∧ year ≤ 9999
  · have hfour : year.toNat < 10000 := by omega
    have hlength := length_padded 4 year.toNat (by decide) hfour
    have hplace : readNumber 4 (padded 4 year.toNat ++ '-' :: rest)
        = some (year.toNat, '-' :: rest) := by
      rw [readNumber_append _ (padded_ne_nil 4 _) (isDigit_padded 4 _) 4 (Nat.le_of_eq hlength) _
        (Or.inl hlength), ofDigitChars_padded]
    have hhead : ∀ c more, c.isDigit = false →
        padded 4 year.toNat ++ '-' :: rest ≠ c :: more := by
      intro c more hc heq
      rcases List.exists_cons_of_ne_nil (padded_ne_nil 4 year.toNat) with ⟨d, digits, hd⟩
      have hdigit := isDigit_padded 4 year.toNat d (hd ▸ List.mem_cons_self)
      rw [hd, List.cons_append, List.cons.injEq] at heq
      rw [heq.1, hc] at hdigit
      exact absurd hdigit (by simp only [reduceCtorEq, not_false_eq_true])
    rw [if_pos hplain, trimStart_padded]
    split
    · next heq => exact absurd heq (hhead _ _ rfl)
    · next heq => exact absurd heq (hhead _ _ rfl)
    · simp only [hplace, Option.map_some, Int.toNat_of_nonneg hplain.1]
  · rw [if_neg hplain, List.cons_append]
    by_cases hnegative : year < 0
    · rw [if_pos hnegative, trimStart_cons '-' (by decide)]
      simp only [hsigned, Option.map_some, Int.ofNat_natAbs_of_nonpos (Int.le_of_lt hnegative),
        Int.neg_neg]
    · rw [if_neg hnegative, trimStart_cons '+' (by decide)]
      simp only [hsigned, Option.map_some, Int.natAbs_of_nonneg (Int.not_lt.mp hnegative)]

/-- Digits behind a point are those of the nanoseconds, with zeros behind
    them. -/
theorem readFraction_padded (width n : Nat) (hwidth : 0 < width) (hnine : width ≤ 9)
    (h : n < Nat.pow 10 width) :
    readFraction ('.' :: padded width n ++ ['Z']) = some (n * Nat.pow 10 (9 - width), ['Z']) := by
  have hlength := length_padded width n hwidth h
  have hzone : ∀ c, ['Z'].head? = some c → c.isDigit = false := by
    intro c hc
    rw [List.head?_cons, Option.some.injEq] at hc
    exact hc ▸ rfl
  have hspan := spanDigits_append _ (isDigit_padded width n) 9
    (Nat.le_trans (Nat.le_of_eq hlength) hnine) ['Z'] (Or.inr hzone)
  rcases List.exists_cons_of_ne_nil (padded_ne_nil width n) with ⟨d, more, hd⟩
  rw [List.cons_append, readFraction, hspan, hd]
  simp only [← hd, ofDigitChars_padded, hlength]
  rfl

/-- A fraction is read up to the name of the zone. -/
theorem readFraction_fractionText (nanos : Nat) (h : nanos < 1000000000) :
    readFraction (fractionText nanos ++ ['Z']) = some (nanos, ['Z']) := by
  unfold fractionText
  by_cases hzero : nanos = 0
  · rw [if_pos hzero, hzero]
    rfl
  rw [if_neg hzero]
  by_cases hmillis : nanos % 1000000 = 0
  · have hdigits : nanos / 1000000 < 1000 := by omega
    have hvalue : nanos / 1000000 * 1000000 = nanos := by omega
    rw [if_pos hmillis, readFraction_padded 3 _ (by decide) (by decide) hdigits]
    exact congrArg (fun n => some (n, ['Z'])) hvalue
  rw [if_neg hmillis]
  by_cases hmicros : nanos % 1000 = 0
  · have hdigits : nanos / 1000 < 1000000 := by omega
    have hvalue : nanos / 1000 * 1000 = nanos := by omega
    rw [if_pos hmicros, readFraction_padded 6 _ (by decide) (by decide) hdigits]
    exact congrArg (fun n => some (n, ['Z'])) hvalue
  · rw [if_neg hmicros, readFraction_padded 9 _ (by decide) (by decide) h]
    exact congrArg (fun n => some (n, ['Z'])) (Nat.mul_one nanos)

/-- The second of a minute as it is written, one higher in a leap second. -/
def secondOfMinute (t : Instant) : Nat :=
  t.secondOfDay % 60 + if 1000000000 ≤ t.nanos then 1 else 0

/-- The nanoseconds as they are written, without those of a long second. -/
def fraction (t : Instant) : Nat :=
  if 1000000000 ≤ t.nanos then t.nanos - 1000000000 else t.nanos

theorem stamp_eq (t : Instant) :
    t.stamp.toList = yearText t.date.year ++ '-' :: (padded 2 t.date.month ++
      '-' :: (padded 2 t.date.day ++ 'T' :: (padded 2 (t.secondOfDay / 3600) ++
        ':' :: (padded 2 (t.secondOfDay / 60 % 60) ++ ':' :: (padded 2 t.secondOfMinute ++
          (fractionText t.fraction ++ ['Z'])))))) := by
  unfold stamp dateText timeText secondOfMinute fraction
  simp only [String.toList_ofList, List.append_assoc, List.cons_append]

theorem ofParts?_self (t : Instant) : ofParts? t.seconds t.nanos = some t :=
  dif_pos ⟨⟨t.first_le, t.le_last⟩, t.nanos_lt⟩

/-- Stamps can tell the instant: it lies in no leap second, or in one at the
    end of a minute. -/
def HasStamp (t : Instant) : Prop :=
  1000000000 ≤ t.nanos → t.seconds % 60 = 59

instance (t : Instant) : Decidable t.HasStamp :=
  inferInstanceAs (Decidable (_ → _))

/-- The instant that the stamp of `t` names. A leap second that stamps cannot
    tell is carried to the second behind it. -/
def carried (t : Instant) : Instant :=
  if h : t.HasStamp then t
  else
    { seconds := t.seconds + 1
      nanos := t.nanos - 1000000000
      first_le := Int.le_trans t.first_le (Int.le_add_one (Int.le_refl _))
      le_last := by
        -- The calendar ends with a minute, so its last second has a stamp.
        have hlast := t.le_last
        unfold HasStamp at h
        omega
      nanos_lt := Nat.lt_of_le_of_lt (Nat.sub_le _ _) t.nanos_lt }

theorem carried_of_hasStamp {t : Instant} (h : t.HasStamp) : t.carried = t :=
  dif_pos h

theorem carried_of_not_hasStamp {t : Instant} (h : ¬ t.HasStamp) :
    t.carried.seconds = t.seconds + 1 ∧ t.carried.nanos + 1000000000 = t.nanos := by
  have hlong : 1000000000 ≤ t.nanos := (Classical.not_imp.mp h).1
  unfold carried
  rw [dif_neg h]
  exact ⟨rfl, Nat.sub_add_cancel hlong⟩

theorem hasStamp_carried (t : Instant) : t.carried.HasStamp := by
  by_cases h : t.HasStamp
  · rwa [carried_of_hasStamp h]
  · have hnanos := (carried_of_not_hasStamp h).2
    have hlt := t.nanos_lt
    intro hlong
    omega

theorem carried_eq_self_iff (t : Instant) : t.carried = t ↔ t.HasStamp :=
  ⟨fun h => h ▸ t.hasStamp_carried, carried_of_hasStamp⟩

/-- What is carried is as many nanoseconds from the start of 1970. -/
theorem value_carried (t : Instant) : t.carried.value = t.value := by
  by_cases h : t.HasStamp
  · rw [carried_of_hasStamp h]
  · rcases carried_of_not_hasStamp h with ⟨hseconds, hnanos⟩
    rw [value, value, hseconds]
    omega

/-- The date and the time of day of an instant name it if it has a stamp, and
    the one that it is carried to otherwise. -/
theorem ofCivil?_date (t : Instant) :
    ofCivil? ⟨t.date.year, t.date.month, t.date.day⟩ (t.secondOfDay / 3600)
      (t.secondOfDay / 60 % 60) t.secondOfMinute t.fraction 0 = some t.carried := by
  have hfirst := t.first_le
  have hlast := t.le_last
  have hnumber : t.date.number = t.seconds / 86400 := Date.number_ofNumber _
  have hvalid : t.date.IsValid := Date.isValid_ofNumber _
  have hyear := Date.year_ofNumber (t.seconds / 86400) (by omega) (by omega)
  unfold ofCivil?
  rw [if_pos ⟨hvalid, hyear⟩, ← ofParts?_self t.carried]
  have hday : t.secondOfDay = (t.seconds % 86400).toNat := rfl
  unfold secondOfMinute fraction
  by_cases hlong : 1000000000 ≤ t.nanos
  · by_cases hminute : t.seconds % 60 = 59
    · -- Second 60 is the second before it made long.
      have hsixty : t.secondOfDay % 60 + 1 = 60 := by omega
      have hwall : t.seconds / 86400 * 86400 + ((t.secondOfDay / 3600 * 3600 +
          t.secondOfDay / 60 % 60 * 60 + 59 : Nat) : Int) - 0 = t.seconds := by omega
      rw [carried_of_hasStamp fun _ => hminute]
      simp only [if_pos hlong, hsixty, if_true, hnumber, hwall, Nat.add_sub_cancel' hlong]
    · -- Every other number of a second is that of the second itself.
      rcases carried_of_not_hasStamp fun h => hminute (h hlong) with ⟨hseconds, hnanos⟩
      have hsixty : ¬ t.secondOfDay % 60 + 1 = 60 := by omega
      have hwall : t.seconds / 86400 * 86400 + ((t.secondOfDay / 3600 * 3600 +
          t.secondOfDay / 60 % 60 * 60 + (t.secondOfDay % 60 + 1) : Nat) : Int) - 0
            = t.carried.seconds := by omega
      have hrest : t.nanos - 1000000000 = t.carried.nanos := by omega
      simp only [if_pos hlong, if_neg hsixty, hnumber, hwall, hrest]
  · have hsixty : ¬ t.secondOfDay % 60 + 0 = 60 := by omega
    have hwall : t.seconds / 86400 * 86400 + ((t.secondOfDay / 3600 * 3600 +
        t.secondOfDay / 60 % 60 * 60 + (t.secondOfDay % 60 + 0) : Nat) : Int) - 0
          = t.seconds := by omega
    rw [carried_of_hasStamp fun h => absurd h hlong]
    simp only [if_neg hlong, if_neg hsixty, hnumber, hwall]

/-- The stamp of an instant is read as that instant, if it is one that stamps
    can tell. -/
theorem ofString?_stamp (t : Instant) : ofString? t.stamp = some t.carried := by
  have hvalid : t.date.IsValid := Date.isValid_ofNumber _
  have hdays : daysInMonth t.date.year t.date.month ≤ 31 := by
    unfold daysInMonth
    split
    · split <;> omega
    · split <;> omega
  have hday : t.secondOfDay < 86400 := by
    unfold secondOfDay
    omega
  have hsecond : t.secondOfMinute ≤ 60 := by
    unfold secondOfMinute
    split <;> omega
  have hnanos := t.nanos_lt
  have hfraction : t.fraction < 1000000000 := by
    unfold fraction
    split <;> omega
  rw [ofString?, stamp_eq]
  unfold ofChars?
  -- The parts are read one after the other, each up to where it was ended.
  refine Option.bind_eq_some_iff.mpr ⟨_, readYear_yearText _ _, ?_⟩
  refine Option.bind_eq_some_iff.mpr ⟨_, afterSeparator_cons '-' (by decide) _, ?_⟩
  refine Option.bind_eq_some_iff.mpr ⟨_, readPlace_padded 1 12 _ hvalid.1.1 hvalid.1.2
    (by have := hvalid.1.2; omega) _, ?_⟩
  refine Option.bind_eq_some_iff.mpr ⟨_, afterSeparator_cons '-' (by decide) _, ?_⟩
  refine Option.bind_eq_some_iff.mpr ⟨_, readPlace_padded 1 31 _ hvalid.2.1
    (Nat.le_trans hvalid.2.2 hdays) (by have := hvalid.2.2; omega) _, ?_⟩
  refine Option.bind_eq_some_iff.mpr ⟨_, readPlace_padded 0 23 _ (Nat.zero_le _) (by omega)
    (by omega) _, ?_⟩
  refine Option.bind_eq_some_iff.mpr ⟨_, afterSeparator_cons ':' (by decide) _, ?_⟩
  refine Option.bind_eq_some_iff.mpr ⟨_, readPlace_padded 0 59 _ (Nat.zero_le _) (by omega)
    (by omega) _, ?_⟩
  refine Option.bind_eq_some_iff.mpr ⟨_, afterSeparator_cons ':' (by decide) _, ?_⟩
  refine Option.bind_eq_some_iff.mpr ⟨_, readPlace_padded 0 60 _ (Nat.zero_le _) hsecond
    (by omega) _, ?_⟩
  refine Option.bind_eq_some_iff.mpr ⟨_, readFraction_fractionText _ hfraction, ?_⟩
  have hzone : readZone (trimStart ['Z']) = some (0, []) := by
    rw [trimStart_cons 'Z' (by decide)]
    rfl
  refine Option.bind_eq_some_iff.mpr ⟨_, hzone, ?_⟩
  exact ofCivil?_date t

/-- So many digits at most are read, and nothing but digits. -/
theorem digits_of_spanDigits (most : Nat) (l : List Char) :
    (spanDigits most l).1.length ≤ most ∧ ∀ c ∈ (spanDigits most l).1, c.isDigit = true := by
  induction most generalizing l with
  | zero => cases l <;> exact ⟨Nat.le_refl 0, fun c hc => absurd hc List.not_mem_nil⟩
  | succ most ih =>
      cases l with
      | nil => exact ⟨Nat.zero_le _, fun c hc => absurd hc List.not_mem_nil⟩
      | cons c rest =>
          rw [spanDigits]
          by_cases hc : c.isDigit = true
          · rw [if_pos hc]
            exact ⟨Nat.succ_le_succ (ih rest).1, List.forall_mem_cons.mpr ⟨hc, (ih rest).2⟩⟩
          · rw [if_neg hc]
            exact ⟨Nat.zero_le _, fun c hc => absurd hc List.not_mem_nil⟩

/-- A number has no more digits than its digits. -/
theorem ofDigitChars_lt (digits : List Char) (h : ∀ c ∈ digits, c.isDigit = true) :
    Nat.ofDigitChars 10 digits 0 < Nat.pow 10 digits.length := by
  induction digits with
  | nil => exact Nat.one_pos
  | cons c rest ih =>
      rcases List.forall_mem_cons.mp h with ⟨hc, hrest⟩
      have hdigit : c.toNat - '0'.toNat ≤ 9 := by
        simp only [Char.isDigit, Bool.and_eq_true, decide_eq_true_eq, UInt32.le_iff_toNat_le] at hc
        exact Nat.sub_le_of_le_add hc.2
      have hpow : Nat.pow 10 (c :: rest).length = Nat.pow 10 rest.length * 10 := rfl
      rw [Nat.ofDigitChars_cons, Nat.ofDigitChars_eq_ofDigitChars_zero, hpow]
      calc Nat.pow 10 rest.length * (10 * 0 + (c.toNat - '0'.toNat)) + Nat.ofDigitChars 10 rest 0
        _ < Nat.pow 10 rest.length * (10 * 0 + (c.toNat - '0'.toNat)) + Nat.pow 10 rest.length :=
          Nat.add_lt_add_left (ih hrest) _
        _ = Nat.pow 10 rest.length * (10 * 0 + (c.toNat - '0'.toNat) + 1) := rfl
        _ ≤ Nat.pow 10 rest.length * 10 := Nat.mul_le_mul_left _ (by omega)

/-- A fraction is less than a second. -/
theorem lt_of_readFraction {l rest : List Char} {nanos : Nat}
    (h : readFraction l = some (nanos, rest)) : nanos < 1000000000 := by
  unfold readFraction at h
  split at h
  · next after =>
    rcases digits_of_spanDigits 9 after with ⟨hlength, hdigits⟩
    rcases hspan : spanDigits 9 after with ⟨_ | ⟨d, more⟩, behind⟩
    · simp only [hspan, reduceCtorEq] at h
    · rw [hspan] at hlength hdigits
      simp only [hspan, Option.some.injEq, Prod.mk.injEq] at h
      rw [← h.1]
      have hnine : Nat.pow 10 (d :: more).length * Nat.pow 10 (9 - (d :: more).length)
          = 1000000000 := by
        have hadd := Nat.pow_add 10 (d :: more).length (9 - (d :: more).length)
        rw [Nat.add_sub_cancel' hlength] at hadd
        exact hadd.symm
      rw [← hnine]
      exact Nat.mul_lt_mul_of_pos_right (ofDigitChars_lt _ hdigits) (Nat.pow_pos (by decide))
  · rw [Option.some.injEq, Prod.mk.injEq] at h
    rw [← h.1]
    decide

/-- Offsets from universal time are whole minutes. -/
theorem minutes_of_readOffset {l rest : List Char} {offset : Int}
    (h : readOffset l = some (offset, rest)) : offset % 60 = 0 := by
  unfold readOffset at h
  split at h
  · rw [Option.some.injEq, Prod.mk.injEq] at h
    rw [← h.1]
    rfl
  · rw [Option.some.injEq, Prod.mk.injEq] at h
    rw [← h.1]
    rfl
  · simp only [Option.bind_eq_bind, Option.bind_eq_some_iff] at h
    rcases h with ⟨⟨west, _⟩, -, ⟨hours, _⟩, -, ⟨minutes, _⟩, -, h⟩
    split at h
    · rw [Option.some.injEq, Prod.mk.injEq] at h
      rw [← h.1]
      split <;> omega
    · simp only [reduceCtorEq] at h

theorem minutes_of_readZone {l rest : List Char} {offset : Int}
    (h : readZone l = some (offset, rest)) : offset % 60 = 0 := by
  unfold readZone at h
  split at h
  · split at h
    · rw [Option.some.injEq, Prod.mk.injEq] at h
      rw [← h.1]
      rfl
    · exact minutes_of_readOffset h
  · exact minutes_of_readOffset h

theorem parts_of_ofParts? {seconds : Int} {nanos : Nat} {t : Instant}
    (h : ofParts? seconds nanos = some t) : t.seconds = seconds ∧ t.nanos = nanos := by
  unfold ofParts? at h
  split at h
  · rw [Option.some.injEq] at h
    rw [← h]
    exact ⟨rfl, rfl⟩
  · simp only [reduceCtorEq] at h

/-- A leap second that is read lies at the end of a minute. -/
theorem hasStamp_of_ofCivil? {d : Date} {hour minute second nanos : Nat} {offset : Int}
    {t : Instant} (h : ofCivil? d hour minute second nanos offset = some t)
    (hnanos : nanos < 1000000000) (hoffset : offset % 60 = 0) : t.HasStamp := by
  unfold ofCivil? at h
  split at h
  · -- Nothing but second 60 makes a second long, and the offset leaves it last in its minute.
    rcases parts_of_ofParts? h with ⟨hseconds, hparts⟩
    intro hlong
    by_cases hsixty : second = 60
    · rw [if_pos hsixty] at hseconds
      omega
    · rw [if_neg hsixty] at hparts
      omega
  · simp only [reduceCtorEq] at h

theorem hasStamp_of_ofString? {s : String} {t : Instant} (h : ofString? s = some t) :
    t.HasStamp := by
  unfold ofString? ofChars? at h
  -- The date counts for nothing here, and neither does what stands behind it.
  rcases Option.bind_eq_some_iff.mp h with ⟨⟨year, _⟩, -, h⟩
  rcases Option.bind_eq_some_iff.mp h with ⟨_, -, h⟩
  rcases Option.bind_eq_some_iff.mp h with ⟨⟨month, _⟩, -, h⟩
  rcases Option.bind_eq_some_iff.mp h with ⟨_, -, h⟩
  rcases Option.bind_eq_some_iff.mp h with ⟨⟨day, _ | ⟨c, rest⟩⟩, -, h⟩
  · rcases Option.bind_eq_some_iff.mp h with ⟨_, hnone, -⟩
    simp only [reduceCtorEq] at hnone
  change ite (c = 'T' ∨ c = 't' ∨ c = ' ') _ _ = some t at h
  by_cases hc : c = 'T' ∨ c = 't' ∨ c = ' '
  · rw [if_pos hc] at h
    rcases Option.bind_eq_some_iff.mp h with ⟨_, -, h⟩
    rcases Option.bind_eq_some_iff.mp h with ⟨⟨hour, _⟩, -, h⟩
    rcases Option.bind_eq_some_iff.mp h with ⟨_, -, h⟩
    rcases Option.bind_eq_some_iff.mp h with ⟨⟨minute, _⟩, -, h⟩
    rcases Option.bind_eq_some_iff.mp h with ⟨_, -, h⟩
    rcases Option.bind_eq_some_iff.mp h with ⟨⟨second, _⟩, -, h⟩
    rcases Option.bind_eq_some_iff.mp h with ⟨⟨nanos, _⟩, hfraction, h⟩
    rcases Option.bind_eq_some_iff.mp h with ⟨⟨offset, behind⟩, hzone, h⟩
    by_cases hbehind : (trimStart behind).isEmpty = true
    · have hcivil := (if_pos hbehind).symm.trans h
      exact hasStamp_of_ofCivil? hcivil (lt_of_readFraction hfraction) (minutes_of_readZone hzone)
    · exact absurd ((if_neg hbehind).symm.trans h) (by simp only [reduceCtorEq, not_false_eq_true])
  · rw [if_neg hc] at h
    rcases Option.bind_eq_some_iff.mp h with ⟨_, hnone, -⟩
    simp only [reduceCtorEq] at hnone

/-- The instants that stamps can tell are those that any text names. -/
theorem hasStamp_iff_exists (t : Instant) : t.HasStamp ↔ ∃ s, ofString? s = some t := by
  constructor
  · intro h
    exact ⟨t.stamp, by rw [ofString?_stamp, carried_of_hasStamp h]⟩
  · rintro ⟨s, hs⟩
    exact hasStamp_of_ofString? hs

end Instant

end PullTriage
