import Mathlib.Data.List.Forall2
import PullTriage.Instant.Window
import PullTriage.Proofs.Memory
import PullTriage.Proofs.Summaries
import PullTriage.Run.Basic

/-!
# How Far a Window Reaches

The bound of a window is the instant that lies as many minutes back, or the
start of the calendar if there is no such instant. Counted in nanoseconds that
is one subtraction over the integers, `Instant.reach`, and the numbers of a
machine never show: a window that is too long for one of them is too long for
the calendar as well, since the longest span of time is far longer than it
(`Instant.reach_lt_of_spanOfMinutes?`).

Instants are not ordered by their nanoseconds. A leap second runs into the
next second, so it can count more of them than an instant behind it. What
saves the order is that a window of no minutes is bounded by the present
itself, and that every other one ends a whole minute or more before it, in no
leap second. `Instant.Bounded` lists these cases.

## Main definitions

* `Instant.reach`: The nanoseconds of the bound, without any limit.
* `Instant.Bounded`: What the bound of a window can be.

## Theorems

* `Instant.spanOfMinutes?_eq_some_iff`: Which minutes are a span of time.
* `Instant.secondsBefore?_eq_some`, `Instant.secondsBefore?_eq_none`: Going
  back within the calendar, and beyond it.
* `Instant.createdAfter_bounded`: The cases of the bound.
* `Instant.Bounded.antitone`: A longer window reaches further back.
* `Run.isIgnored_visitFrom`: Which outcomes of a list of visits are ignored.
* `Run.visitAll_widening`: An earlier cutoff visits whatever a later one does.
* `window_exact_and_widening`: The bound is exact, and a longer window never
  shows less.
-/

namespace PullTriage

namespace Instant

/-- The nanoseconds of the bound of a window, counted without any limit. -/
def reach (now : Instant) (minutes : Nat) : Int :=
  now.value - 60000000000 * minutes

theorem le_iff (a b : Instant) :
    a ≤ b ↔ a.seconds < b.seconds ∨ a.seconds = b.seconds ∧ a.nanos ≤ b.nanos :=
  Iff.rfl

theorem le_refl (t : Instant) : t ≤ t := by
  rw [le_iff]
  omega

theorem le_trans {a b c : Instant} (h : a ≤ b) (h' : b ≤ c) : a ≤ c := by
  rw [le_iff] at h h' ⊢
  omega

theorem earliest_value : earliest.value = -8334601228800000000000 := by
  decide

theorem earliest_le (t : Instant) : earliest ≤ t := by
  have hseconds : earliest.seconds = -8334601228800 := rfl
  have hnanos : earliest.nanos = 0 := rfl
  have hfirst := t.first_le
  rw [le_iff, hseconds, hnanos]
  omega

/-- An instant is at another or before it if it does not count more nanoseconds
    than the start of the other's second. -/
theorem le_of_value_le {a b : Instant} (h : a.value ≤ b.seconds * 1000000000) : a ≤ b := by
  rw [value] at h
  rw [le_iff]
  omega

/-- Outside of leap seconds the order is that of the nanoseconds. -/
theorem le_of_value_le_value {a b : Instant} (h : a.value ≤ b.value)
    (hb : b.nanos < 1000000000) : a ≤ b := by
  rw [value, value] at h
  rw [le_iff]
  omega

theorem earliest_value_le (t : Instant) : earliest.value ≤ t.value := by
  have hfirst := t.first_le
  rw [earliest_value, value]
  omega

/-- The parts of an instant that is no leap second make one if they lie within
    the calendar. -/
theorem ofParts?_eq_some (seconds : Int) {nanos : Nat} (hfirst : -8334601228800 ≤ seconds)
    (hlast : seconds ≤ 8210266876799) (hnanos : nanos < 1000000000) :
    ∃ t, ofParts? seconds nanos = some t ∧ t.seconds = seconds ∧ t.nanos = nanos := by
  have hparts : (-8334601228800 ≤ seconds ∧ seconds ≤ 8210266876799) ∧ nanos < 2000000000 := by
    omega
  exact ⟨_, dif_pos hparts, rfl, rfl⟩

theorem ofParts?_eq_none {seconds : Int} {nanos : Nat} (h : seconds < -8334601228800) :
    ofParts? seconds nanos = none :=
  dif_neg (by omega)

/-- The minutes that are a span of time, and its seconds. The first two limits
    are wider than the third, so they leave nothing to it. -/
theorem spanOfMinutes?_eq_some_iff (minutes seconds : Nat) :
    spanOfMinutes? minutes = some seconds ↔ seconds = 60 * minutes ∧ seconds ≤ longestSpan := by
  have hlongest : longestSpan = 9223372036854775 := by decide
  have hlimit : Nat.pow 2 63 = 9223372036854775808 := by decide
  unfold spanOfMinutes? signed?
  rw [hlongest, hlimit]
  constructor
  · -- One limit after the other, in the order in which they are checked.
    intro h
    by_cases hminutes : minutes < 9223372036854775808
    · by_cases hseconds : 60 * minutes < 9223372036854775808
      · by_cases hspan : 60 * minutes ≤ 9223372036854775
        · simp only [if_pos hminutes, if_pos hseconds, if_pos hspan, Option.bind_eq_bind,
            Option.bind_some, Option.some.injEq] at h
          omega
        · simp only [if_pos hminutes, if_pos hseconds, if_neg hspan, Option.bind_eq_bind,
            Option.bind_some, reduceCtorEq] at h
      · simp only [if_pos hminutes, if_neg hseconds, Option.bind_eq_bind, Option.bind_some,
          Option.bind_none, reduceCtorEq] at h
    · simp only [if_neg hminutes, Option.bind_eq_bind, Option.bind_none, reduceCtorEq] at h
  · rintro ⟨rfl, hspan⟩
    have hminutes : minutes < 9223372036854775808 := by omega
    have hseconds : 60 * minutes < 9223372036854775808 := by omega
    simp only [if_pos hminutes, if_pos hseconds, if_pos hspan, Option.bind_eq_bind,
      Option.bind_some]

/-- Minutes that are no span of time reach back past the calendar from every
    instant in it. -/
theorem reach_lt_of_spanOfMinutes? (now : Instant) (minutes : Nat)
    (h : spanOfMinutes? minutes = none) : now.reach minutes < earliest.value := by
  have hlongest : longestSpan = 9223372036854775 := by decide
  have hlong : longestSpan < 60 * minutes := by
    refine Nat.lt_of_not_le fun hspan => ?_
    rw [(spanOfMinutes?_eq_some_iff minutes _).mpr ⟨rfl, hspan⟩] at h
    exact absurd h (by simp only [reduceCtorEq, not_false_eq_true])
  have hlast := now.le_last
  have hnanos := now.nanos_lt
  -- The longest span is nearly three hundred million years, the calendar half
  -- a million.
  rw [reach, earliest_value, value]
  omega

/-- Within the calendar there is the instant that lies so many seconds back,
    and it is no leap second. -/
theorem secondsBefore?_eq_some (t : Instant) (seconds : Nat) (hpos : 2 ≤ seconds)
    (h : earliest.value ≤ t.value - 1000000000 * seconds) :
    ∃ t', t.secondsBefore? seconds = some t' ∧ t'.value = t.value - 1000000000 * seconds ∧
      t'.nanos < 1000000000 := by
  have hlast := t.le_last
  have hlt := t.nanos_lt
  rw [earliest_value, value] at h
  unfold secondsBefore?
  rw [if_neg (by omega)]
  by_cases hnanos : t.nanos < 1000000000
  · rcases ofParts?_eq_some (t.seconds - seconds) (by omega) (by omega) hnanos with
      ⟨t', ht', hseconds', hnanos'⟩
    refine ⟨t', by rw [if_pos hnanos, ht'], ?_, hnanos' ▸ hnanos⟩
    rw [value, value, hseconds', hnanos']
    omega
  · -- A leap second counts as the beginning of the next second.
    have hrest : t.nanos - 1000000000 < 1000000000 := by omega
    rcases ofParts?_eq_some (t.seconds + 1 - seconds) (by omega) (by omega) hrest with
      ⟨t', ht', hseconds', hnanos'⟩
    refine ⟨t', by rw [if_neg hnanos, ht'], ?_, hnanos' ▸ hrest⟩
    rw [value, value, hseconds', hnanos']
    omega

/-- Beyond the calendar there is no instant. -/
theorem secondsBefore?_eq_none (t : Instant) (seconds : Nat)
    (h : t.value - 1000000000 * seconds < earliest.value) : t.secondsBefore? seconds = none := by
  have hfirst := t.first_le
  rw [earliest_value, value] at h
  unfold secondsBefore?
  rw [if_neg (by omega)]
  by_cases hnanos : t.nanos < 1000000000
  · rw [if_pos hnanos, ofParts?_eq_none (by omega)]
  · rw [if_neg hnanos, ofParts?_eq_none (by omega)]

/-- What the bound of a window can be: the present, an instant before it that
    is no leap second, or the start of the calendar. -/
inductive Bounded (now : Instant) (minutes : Nat) : Instant → Prop
  | present (h : minutes = 0) : Bounded now minutes now
  | before (t : Instant) (hpos : 0 < minutes) (hvalue : t.value = now.reach minutes)
      (hnanos : t.nanos < 1000000000) : Bounded now minutes t
  | start (h : now.reach minutes < earliest.value) : Bounded now minutes earliest

theorem createdAfter_bounded (now : Instant) (minutes : Nat) :
    Bounded now minutes (now.createdAfter minutes) := by
  unfold createdAfter
  cases hspan : spanOfMinutes? minutes with
  | none => exact .start (now.reach_lt_of_spanOfMinutes? minutes hspan)
  | some seconds =>
      rcases (spanOfMinutes?_eq_some_iff minutes seconds).mp hspan with ⟨rfl, -⟩
      have hreach : now.reach minutes = now.value - 1000000000 * (60 * minutes : Nat) := by
        rw [reach]
        omega
      rw [Option.bind_some]
      by_cases hzero : minutes = 0
      · rw [hzero]
        exact .present rfl
      · by_cases hcalendar : earliest.value ≤ now.reach minutes
        · rw [hreach] at hcalendar
          rcases now.secondsBefore?_eq_some (60 * minutes) (by omega) hcalendar with
            ⟨t, ht, hvalue, hnanos⟩
          rw [ht, Option.getD_some]
          exact .before t (by omega) (hvalue.trans hreach.symm) hnanos
        · rw [Int.not_le] at hcalendar
          rw [now.secondsBefore?_eq_none (60 * minutes) (hreach ▸ hcalendar), Option.getD_none]
          exact .start hcalendar

/-- The bound of a window lies in the past. A minute is longer than a leap
    second can run on. -/
theorem Bounded.le_now {now t : Instant} {minutes : Nat} (h : Bounded now minutes t) :
    t ≤ now := by
  cases h with
  | present _ => exact le_refl _
  | before _ hpos hvalue _ =>
      -- A minute back is before the start of the present second.
      have hlt := now.nanos_lt
      refine le_of_value_le ?_
      rw [hvalue, reach, value]
      omega
  | start _ => exact earliest_le _

/-- A longer window reaches as far back or further. -/
theorem Bounded.antitone {now t t' : Instant} {minutes more : Nat} (hle : minutes ≤ more)
    (h : Bounded now minutes t) (h' : Bounded now more t') : t' ≤ t := by
  have hreach : now.reach more ≤ now.reach minutes := by
    rw [reach, reach]
    omega
  cases h with
  | present _ => exact h'.le_now
  | before _ hpos hvalue hnanos =>
      cases h' with
      | present hzero => omega
      | before _ _ hvalue' _ => exact le_of_value_le_value (by omega) hnanos
      | start _ => exact earliest_le _
  | start hearly =>
      cases h' with
      | present hzero =>
          -- Without any minutes the window ends within the calendar.
          have hvalue := earliest_value_le now
          rw [reach] at hearly
          omega
      | before _ _ hvalue' _ =>
          have hvalue := earliest_value_le t'
          omega
      | start _ => exact le_refl _

end Instant

namespace Run

variable {σ : Type} [GitHub σ]

/-- The outcome of a pull request says whether it is too old. -/
theorem isIgnored_visit (rules : Rules) (cutoff : Option Instant) (p : Pull) (s : σ) :
    (visit rules cutoff p s).1.isIgnored = isOld cutoff p := by
  unfold visit
  cases hold : isOld cutoff p with
  | true =>
      rw [if_pos rfl]
      rfl
  | false =>
      rw [if_neg Bool.false_ne_true]
      rcases process rules p s with ⟨f | r, s'⟩
      · rfl
      · rfl

/-- Which outcomes of a list of visits are ignored depends neither on the
    workers nor on what GitHub answers. -/
theorem isIgnored_visitFrom (rules : Rules) (cutoff : Option Instant) (free : List Nat)
    (pulls : List Pull) (s : σ) :
    (visitFrom rules cutoff free pulls s).1.map Outcome.isIgnored = pulls.map (isOld cutoff) := by
  induction pulls generalizing free s with
  | nil => rfl
  | cons p rest ih =>
      rw [visitFrom, List.map_cons, List.map_cons, isIgnored_visit, ih]

/-- What is too old for a window is too old for every window that ends
    later. -/
theorem isOld_of_le {cutoff later : Instant} (h : cutoff ≤ later) (p : Pull)
    (hold : isOld (some cutoff) p = true) : isOld (some later) p = true := by
  simp only [isOld, Option.any_some, decide_eq_true_eq] at hold ⊢
  exact Instant.le_trans hold h

/-- Of two runs over one list, the one with the earlier cutoff visits whatever
    the other one visits. -/
theorem visitAll_widening {cutoff later : Instant} (h : cutoff ≤ later) (rules : Rules)
    (pulls : List Pull) (s s' : σ) :
    List.Forall₂ (fun o o' : Outcome => o.isIgnored = false → o'.isIgnored = false)
      (visitAll rules (some later) pulls s).1 (visitAll rules (some cutoff) pulls s').1 := by
  have hflags : List.Forall₂ (fun old old' : Bool => old = false → old' = false)
      ((visitAll rules (some later) pulls s).1.map Outcome.isIgnored)
      ((visitAll rules (some cutoff) pulls s').1.map Outcome.isIgnored) := by
    -- Each outcome is that of its pull request, in both runs.
    rw [visitAll, visitAll, isIgnored_visitFrom, isIgnored_visitFrom,
      List.forall₂_map_left_iff, List.forall₂_map_right_iff, List.forall₂_same]
    intro p _ hrecent
    rw [← Bool.not_eq_true] at hrecent ⊢
    exact fun hold => hrecent (isOld_of_le h p hold)
  rwa [List.forall₂_map_left_iff, List.forall₂_map_right_iff] at hflags

end Run

open Instant in
/-- The bound of a window lies exactly as many minutes back, as long as the
    calendar does, and is the start of the calendar otherwise. It is never later
    than the present, and no earlier for fewer minutes: a pull request that is
    not ignored is not ignored either in a longer window, whatever GitHub
    answers in the two runs. -/
theorem window_exact_and_widening (now : Instant) (minutes : Nat) :
    (earliest.value ≤ now.reach minutes →
      (now.createdAfter minutes).value = now.reach minutes ∧
        (0 < minutes → (now.createdAfter minutes).nanos < 1000000000)) ∧
    (now.reach minutes < earliest.value → now.createdAfter minutes = earliest) ∧
    now.createdAfter minutes ≤ now ∧
    ∀ more, minutes ≤ more →
      now.createdAfter more ≤ now.createdAfter minutes ∧
      ∀ (σ : Type) [GitHub σ] (rules : Rules) (pulls : List Pull) (s s' : σ),
        List.Forall₂ (fun o o' : Outcome => o.isIgnored = false → o'.isIgnored = false)
          (Run.visitAll rules (some (now.createdAfter minutes)) pulls s).1
          (Run.visitAll rules (some (now.createdAfter more)) pulls s').1 := by
  have hbounded := now.createdAfter_bounded minutes
  refine ⟨fun hcalendar => ?_, fun hearly => ?_, hbounded.le_now, fun more hmore => ?_⟩
  · generalize now.createdAfter minutes = t at hbounded
    cases hbounded with
    | present hzero =>
        rw [reach, hzero]
        omega
    | before _ _ hvalue hnanos => exact ⟨hvalue, fun _ => hnanos⟩
    | start hearly => omega
  · have hvalue := earliest_value_le (now.createdAfter minutes)
    generalize now.createdAfter minutes = t at hbounded hvalue
    cases hbounded with
    | present hzero =>
        rw [reach, hzero] at hearly
        omega
    | before _ _ hreach _ => omega
    | start _ => rfl
  · have hle := hbounded.antitone hmore (now.createdAfter_bounded more)
    exact ⟨hle, fun σ _ rules pulls s s' => Run.visitAll_widening hle rules pulls s s'⟩

open Instant in
/-- A minute before the middle of a leap second is the middle of the second
    before. The longest window that can be asked for reaches back to the start
    of the calendar, and shows what the minute shows. -/
theorem window_exact_and_widening_at_leap_second :
    let now : Instant := { seconds := 1483228799, nanos := 1500000000 }
    let visits (cutoff : Instant) : List Outcome :=
      (Run.visitAll (Rules.ofConfig Sample.config) (some cutoff)
        [{ Sample.pull with createdAt := { seconds := 1483228740, nanos := 500000001 } }]
        Sample.memory).1
    (now.createdAfter 1).value = 1483228740500000000 ∧
      now.createdAfter 18446744073709551615 = earliest ∧
      earliest ≤ now.createdAfter 1 ∧
      (visits (now.createdAfter 1)).map Outcome.isIgnored = [false] ∧
      List.Forall₂ (fun o o' : Outcome => o.isIgnored = false → o'.isIgnored = false)
        (visits (now.createdAfter 1)) (visits earliest) := by
  intro now visits
  rcases window_exact_and_widening now 1 with ⟨hexact, -, -, hwider⟩
  rcases window_exact_and_widening now 18446744073709551615 with ⟨-, hstart, -, -⟩
  have hlongest := hstart (by decide)
  rcases hwider 18446744073709551615 (by decide) with ⟨hle, hvisits⟩
  rw [hlongest] at hle hvisits
  exact ⟨(hexact (by decide)).1.trans (by decide), hlongest, hle, by decide +kernel,
    hvisits Memory (Rules.ofConfig Sample.config) _ Sample.memory Sample.memory⟩

end PullTriage
