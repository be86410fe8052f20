import BlockImage.Progress
import BlockImage.Proofs.Duration

/-!
# What estimates depend on

Estimates are told for one sample after another. Each is made from the newest sample and the one that came fifteen samples
before it, or the first one, and fails only where so little moved between the two that the rest would take longer than a
length of time can be.
-/
namespace BlockImage.Progress

open Duration (nanosPerSecond)
open Double (Close Within slack)

/-- Samples as they are taken: the time is a length of time and the units have 64 bits. -/
structure Sample.Measured (sample : Sample) : Prop where
  time : sample.time < UInt64.size * nanosPerSecond
  units : sample.units < UInt64.size

namespace Tracker

variable {tracker : Tracker} {oldest newest : Sample}

/-- What is told for every sample. A tracker that could not estimate has taken the sample in all the same. -/
def tell (tracker : Tracker) : List Sample → List (Except Fault (Option Report))
  | [] => []
  | sample :: later => (tracker.update sample).2 :: (tracker.update sample).1.tell later

/-! ### The window -/

/-- A tracker that took samples in. -/
def after (tracker : Tracker) (samples : List Sample) : Tracker := samples.foldl push tracker

theorem after_concat (tracker : Tracker) (samples : List Sample) (sample : Sample) :
    tracker.after (samples ++ [sample]) = (tracker.after samples).push sample := by
  rw [after, List.foldl_append]
  rfl

/-- What is told for a sample comes from the window that it completes. -/
theorem tell_eq_report (tracker : Tracker) {samples : List Sample} {i : Nat} (inside : i < samples.length) :
    (tracker.tell samples)[i]? = some (tracker.after (samples.take (i + 1))).report := by
  induction samples generalizing tracker i with
  | nil => exact absurd inside (Nat.not_lt_zero i)
  | cons sample later ih =>
    cases i with
    | zero => rfl
    | succ i => exact ih (tracker.push sample) (Nat.lt_of_succ_lt_succ inside)

/-- The window holds the last sixteen samples, or all while there are fewer. -/
theorem window_after (fresh : tracker.window = []) (samples : List Sample) :
    (tracker.after samples).window = samples.drop (samples.length - 16) := by
  -- The newest sample is the last of the list, so the induction goes from the end of it.
  induction samples using List.reverseRecOn with
  | nil => exact fresh
  | append_singleton samples sample ih =>
    have held : samples.length - 16 + (samples.length - (samples.length - 16) + 1 - windowSize) =
        (samples ++ [sample]).length - 16 := by
      rw [windowSize, List.length_append, List.length_singleton]
      omega
    rw [after_concat, push]
    dsimp only
    rw [ih, List.length_drop, List.drop_drop, held, List.drop_append_of_le_length]
    rw [List.length_append, List.length_singleton]
    omega

/-- Taking samples in changes nothing that estimates are made with. -/
theorem estimate_after (tracker : Tracker) (samples : List Sample) (oldest newest : Sample) :
    (tracker.after samples).estimate oldest newest = tracker.estimate oldest newest := by
  induction samples generalizing tracker with
  | nil => rfl
  | cons sample later ih => exact ih (tracker.push sample)

/-- A window of one sample is no exception, since no time has passed between a sample and itself. -/
theorem report_eq_estimate (front : tracker.window.head? = some oldest)
    (back : tracker.window.getLast? = some newest) : tracker.report = tracker.estimate oldest newest := by
  rw [report]
  split
  next window =>
    rw [window] at front back
    cases front
    split
    next _ last =>
      rw [List.getLast?_cons, last] at back
      cases back
      rfl
    next alone =>
      rw [List.getLast?_cons, alone] at back
      cases back
      exact (if_pos (Nat.le_refl _)).symm
  next window =>
    rw [window] at front
    cases front

/-- What is told for a sample is the estimate between it and the sample fifteen before, or the first one. -/
theorem tell_eq_estimate (fresh : tracker.window = []) {samples : List Sample} {i : Nat} (inside : i < samples.length) :
    (tracker.tell samples)[i]? = some (tracker.estimate samples[i - 15] samples[i]) := by
  have taken : (samples.take (i + 1)).length = i + 1 := List.length_take_of_le inside
  have window := window_after fresh (samples.take (i + 1))
  have front : (tracker.after (samples.take (i + 1))).window.head? = some samples[i - 15] := by
    rw [window, taken, List.head?_drop, List.getElem?_take_of_lt (by omega)]
    exact List.getElem?_eq_getElem _
  have back : (tracker.after (samples.take (i + 1))).window.getLast? = some samples[i] := by
    rw [window, List.getLast?_drop, if_neg (by omega), List.getLast?_take, if_neg (Nat.succ_ne_zero i),
      Nat.add_sub_cancel, List.getElem?_eq_getElem inside, Option.some_or]
  rw [tell_eq_report tracker inside, report_eq_estimate front back, estimate_after]

/-! ### Speed -/

/-- Units for each second, from one sample to another. -/
def speed (oldest newest : Sample) : Float :=
  (UInt64.ofNat (newest.units - oldest.units)).toFloat / Duration.toSeconds (newest.time - oldest.time)

/-- The same speed, as a number that was not rounded. -/
def pace (oldest newest : Sample) : ℚ :=
  (newest.units - oldest.units : Nat) / ((newest.time - oldest.time : Nat) / nanosPerSecond)

theorem span_fits (measured : newest.Measured) : newest.time - oldest.time < UInt64.size * nanosPerSecond :=
  Nat.lt_of_le_of_lt (Nat.sub_le ..) measured.time

theorem within_units (measured : newest.Measured) (moved : oldest.units < newest.units) :
    Within 64 (newest.units - oldest.units : Nat) :=
  Within.natCast (Nat.sub_pos_of_lt moved) (Nat.le_trans (Nat.sub_le ..) measured.units.le)

/-- Five roundings lead to the speed: three to the seconds, one to the units and one to the quotient. -/
theorem close_speed (measured : newest.Measured) (later : oldest.time < newest.time)
    (moved : oldest.units < newest.units) : Close 5 (speed oldest newest) (pace oldest newest) := by
  have units : newest.units - oldest.units < UInt64.size := Nat.lt_of_le_of_lt (Nat.sub_le ..) measured.units
  have passed := Nat.sub_pos_of_lt later
  exact (Double.close_toFloat (Nat.sub_pos_of_lt moved) units).div
    (Duration.close_toSeconds passed (span_fits measured)) (by decide) ((within_units measured moved).mono (by decide))
    ((Duration.within_seconds passed (span_fits measured)).mono (by decide))

theorem within_pace (measured : newest.Measured) (later : oldest.time < newest.time)
    (moved : oldest.units < newest.units) : Within 192 (pace oldest newest) :=
  (within_units measured moved).div (Duration.within_seconds (Nat.sub_pos_of_lt later) (span_fits measured))

theorem zero_lt_speed_iff (measured : newest.Measured) (later : oldest.time < newest.time) :
    0 < speed oldest newest ↔ oldest.units < newest.units := by
  refine ⟨fun moves => ?_, fun moved => (close_speed measured later moved).zero_lt⟩
  by_contra back
  obtain ⟨_, _, seconds, _⟩ := Duration.close_toSeconds (Nat.sub_pos_of_lt later) (span_fits measured)
  rw [speed, Nat.sub_eq_zero_of_le (Nat.le_of_not_lt back), Double.toFloat_zero, seconds.zero_div] at moves
  exact Double.not_zero_lt_zero moves

/-! ### The remaining time -/

theorem remaining_of_done (tracker : Tracker) (units : Nat) (done : tracker.totalUnits ≤ units) (speed : Float) :
    tracker.remaining units speed = .ok (some 0) := if_pos done

theorem remaining_of_standing {units : Nat} {speed : Float} (left : units < tracker.totalUnits)
    (standing : ¬ 0 < speed) : tracker.remaining units speed = .ok none := by
  rw [remaining, if_neg (Nat.not_le_of_lt left), if_neg standing]
  rfl

/-- While there is movement and something left, the quotient of the two decides. -/
theorem remaining_of_moving {units : Nat} {speed : Float} (left : units < tracker.totalUnits) (moving : 0 < speed) :
    tracker.remaining units speed =
      match Duration.ofSeconds? ((UInt64.ofNat (tracker.totalUnits - units)).toFloat / speed) with
      | some nanos => .ok (some nanos)
      | none => .error .remainingTooLong := by
  rw [remaining, if_neg (Nat.not_le_of_lt left), if_pos moving]
  rfl

theorem remaining_eq_none_iff (tracker : Tracker) (units : Nat) (speed : Float) :
    tracker.remaining units speed = .ok none ↔ units < tracker.totalUnits ∧ ¬ 0 < speed := by
  constructor
  · intro none
    by_cases done : tracker.totalUnits ≤ units
    · rw [remaining_of_done tracker units done] at none
      cases none
    -- Where there is movement, a time is told or the update fails.
    by_cases moving : 0 < speed
    · rw [remaining_of_moving (Nat.lt_of_not_le done) moving] at none
      split at none <;> cases none
    · exact ⟨Nat.lt_of_not_le done, moving⟩
  · rintro ⟨left, standing⟩
    exact remaining_of_standing left standing

/-! ### Estimates -/

theorem estimate_of_no_time (standing : newest.time ≤ oldest.time) : tracker.estimate oldest newest = .ok none :=
  if_pos standing

/-- Between samples at different times, there is a report where there is a remaining time. -/
theorem estimate_of_later (tracker : Tracker) (later : oldest.time < newest.time) :
    ∃ report : Option Nat → Report,
      tracker.estimate oldest newest =
        (tracker.remaining newest.units (speed oldest newest)).map (fun remaining => some (report remaining)) ∧
      ∀ remaining, (report remaining).unitsDone = newest.units ∧ (report remaining).totalUnits = tracker.totalUnits ∧
        (report remaining).elapsed = newest.time - tracker.start ∧ (report remaining).remaining = remaining := by
  rw [estimate, if_neg (Nat.not_le_of_lt later)]
  exact ⟨_, rfl, fun _ => ⟨rfl, rfl, rfl, rfl⟩⟩

/-- What a report tells of the newest sample, and of what is left at the speed since the oldest one. -/
structure Tells (tracker : Tracker) (oldest newest : Sample) (report : Report) : Prop where
  unitsDone : report.unitsDone = newest.units
  totalUnits : report.totalUnits = tracker.totalUnits
  elapsed : report.elapsed = newest.time - tracker.start
  nothing : tracker.totalUnits ≤ newest.units → report.remaining = some 0
  unknown : report.remaining = none ↔ newest.units < tracker.totalUnits ∧ newest.units ≤ oldest.units

/-- An estimate that was made reports what it was made from, unless no time passed. -/
theorem estimate_tells {told : Option Report} (measured : newest.Measured)
    (came : tracker.estimate oldest newest = .ok told) :
    (told = none ↔ newest.time ≤ oldest.time) ∧ ∀ report, told = some report → tracker.Tells oldest newest report := by
  rcases Nat.lt_or_ge oldest.time newest.time with later | standing
  · obtain ⟨report, eq, fields⟩ := estimate_of_later tracker later
    have unknown := tracker.remaining_eq_none_iff newest.units (speed oldest newest)
    have nothing := fun done => tracker.remaining_of_done newest.units done (speed oldest newest)
    rw [zero_lt_speed_iff measured later, Nat.not_lt] at unknown
    rw [eq] at came
    cases left : tracker.remaining newest.units (speed oldest newest) with
    | error fault =>
      rw [left] at came
      cases came
    | ok remaining =>
      rw [left] at came unknown nothing
      cases came
      obtain ⟨units, total, elapsed, remains⟩ := fields remaining
      refine ⟨⟨fun none => (Option.some_ne_none _ none).elim, fun back => absurd later (Nat.not_lt_of_le back)⟩, ?_⟩
      rintro _ ⟨rfl⟩
      rw [← remains] at unknown nothing
      exact ⟨units, total, elapsed, fun done => Except.ok.inj (nothing done),
        Iff.trans ⟨congrArg _, Except.ok.inj⟩ unknown⟩
  · rw [estimate_of_no_time standing] at came
    cases came
    exact ⟨⟨fun _ => standing, fun _ => rfl⟩, fun _ none => (Option.some_ne_none _ none.symm).elim⟩

/-! ### Failures -/

/-- At the speed between two samples, the units that are left take at least so many seconds. -/
structure Overlong (tracker : Tracker) (oldest newest : Sample) (seconds : Nat) : Prop where
  later : oldest.time < newest.time
  moved : oldest.units < newest.units
  unfinished : newest.units < tracker.totalUnits
  long : seconds * nanosPerSecond * (newest.units - oldest.units) ≤
    (tracker.totalUnits - newest.units) * (newest.time - oldest.time)

/-- The seconds that the rest takes at the speed between two samples. -/
def needed (tracker : Tracker) (oldest newest : Sample) : ℚ :=
  (tracker.totalUnits - newest.units : Nat) / pace oldest newest

theorem le_needed_iff (tracker : Tracker) (later : oldest.time < newest.time) (moved : oldest.units < newest.units)
    (seconds : Nat) :
    (seconds : ℚ) ≤ tracker.needed oldest newest ↔
      seconds * nanosPerSecond * (newest.units - oldest.units) ≤
        (tracker.totalUnits - newest.units) * (newest.time - oldest.time) := by
  have time : (0 : ℚ) < (newest.time - oldest.time : Nat) := by exact_mod_cast Nat.sub_pos_of_lt later
  have units : (0 : ℚ) < (newest.units - oldest.units : Nat) := by exact_mod_cast Nat.sub_pos_of_lt moved
  have unit := Duration.within_billion.positive
  rw [needed, pace, le_div_iff₀ (div_pos units (div_pos time unit)), div_div_eq_mul_div, ← mul_div_assoc, div_le_iff₀ time,
    mul_right_comm, ← mul_assoc]
  exact_mod_cast Iff.rfl

/-- Seven roundings lead to the remaining seconds: five to the speed, one to the units that are left and one to the
quotient. -/
theorem close_remaining (counted : tracker.totalUnits < UInt64.size) (measured : newest.Measured)
    (later : oldest.time < newest.time) (moved : oldest.units < newest.units)
    (unfinished : newest.units < tracker.totalUnits) :
    Close 7 ((UInt64.ofNat (tracker.totalUnits - newest.units)).toFloat / speed oldest newest)
      (tracker.needed oldest newest) := by
  have some := Nat.sub_pos_of_lt unfinished
  have left : tracker.totalUnits - newest.units < UInt64.size := Nat.lt_of_le_of_lt (Nat.sub_le ..) counted
  have within : Within 64 (tracker.totalUnits - newest.units : Nat) := Within.natCast some left.le
  exact (Double.close_toFloat some left).div (close_speed measured later moved) (by decide)
    (within.mono (by decide)) ((within_pace measured later moved).mono (by decide))

/-- More seconds than fit, by more than what roundings may have added, cannot be told. -/
theorem estimate_of_overlong (counted : tracker.totalUnits < UInt64.size) (measured : newest.Measured)
    (overlong : tracker.Overlong oldest newest (2 ^ 64 + 2 ^ 15)) :
    tracker.estimate oldest newest = .error .remainingTooLong := by
  obtain ⟨later, moved, unfinished, long⟩ := overlong
  have large : slack ^ 7 * UInt64.size ≤ tracker.needed oldest newest :=
    calc slack ^ 7 * UInt64.size ≤ (2 ^ 64 + 2 ^ 15 : Nat) := by norm_num [slack, UInt64.size]
      _ ≤ tracker.needed oldest newest := (le_needed_iff tracker later moved _).mpr long
  have none := Duration.ofSeconds?_of_large (close_remaining counted measured later moved unfinished) large
  obtain ⟨report, eq, -⟩ := estimate_of_later tracker later
  rw [eq, remaining_of_moving unfinished ((zero_lt_speed_iff measured later).mpr moved), none]
  rfl

/-- Seconds that fit, by more than what roundings may have taken away, are told, and so is everything else. -/
theorem estimate_of_not_overlong (counted : tracker.totalUnits < UInt64.size) (measured : newest.Measured)
    (short : ¬ tracker.Overlong oldest newest (2 ^ 64 - 2 ^ 15)) :
    ∃ told, tracker.estimate oldest newest = .ok told := by
  -- Nothing is converted unless time passed, something moved and something is left.
  rcases Nat.lt_or_ge oldest.time newest.time with later | standing
  case inr => exact ⟨_, estimate_of_no_time standing⟩
  suffices ∃ remaining, tracker.remaining newest.units (speed oldest newest) = .ok remaining by
    obtain ⟨remaining, left⟩ := this
    obtain ⟨report, eq, -⟩ := estimate_of_later tracker later
    exact ⟨_, eq.trans (congrArg _ left)⟩
  rcases Nat.lt_or_ge newest.units tracker.totalUnits with unfinished | done
  case inr => exact ⟨_, remaining_of_done tracker _ done _⟩
  have moving := zero_lt_speed_iff measured later
  rcases Nat.lt_or_ge oldest.units newest.units with moved | back
  case inr => exact ⟨_, remaining_of_standing unfinished (mt moving.mp (Nat.not_lt_of_le back))⟩
  have small : slack ^ 7 * tracker.needed oldest newest ≤ (UInt64.size : ℚ) - 1 :=
    calc slack ^ 7 * tracker.needed oldest newest ≤ slack ^ 7 * ((2 ^ 64 - 2 ^ 15 : Nat) : ℚ) := by
          refine mul_le_mul_of_nonneg_left (le_of_not_ge fun long => ?_) (Double.slack_pow_pos 7).le
          exact short ⟨later, moved, unfinished, (le_needed_iff tracker later moved _).mp long⟩
      _ ≤ (UInt64.size : ℚ) - 1 := by norm_num [slack, UInt64.size]
  obtain ⟨nanos, fits⟩ := Duration.ofSeconds?_of_small (close_remaining counted measured later moved unfinished) small
  exact ⟨some nanos, by rw [remaining_of_moving unfinished (moving.mpr moved), fits]⟩

/-! ### Samples one after another -/

/-- Estimates are made over the last sixteen samples. An estimate that does not fail gives a report, except for the first
sample and where no time passed since the sample fifteen before (or the first one). What is reported depends on these two
samples only: whatever else came before or between them gives the same report. -/
theorem estimates_over_last_sixteen (fresh : tracker.window = []) {samples : List Sample}
    (measured : ∀ sample ∈ samples, sample.Measured) {i : Nat} (inside : i < samples.length) {told : Option Report}
    (came : (tracker.tell samples)[i]? = some (.ok told)) :
    (told = none ↔ i = 0 ∨ samples[i].time ≤ samples[i - 15].time) ∧
      (∀ report, told = some report → tracker.Tells samples[i - 15] samples[i] report) ∧
      ∀ (others : List Sample) (k : Nat), others[k]? = some samples[i] → others[k - 15]? = some samples[i - 15] →
        (tracker.tell others)[k]? = some (.ok told) := by
  have estimated := came
  rw [tell_eq_estimate fresh inside] at estimated
  obtain ⟨none, tells⟩ := estimate_tells (measured _ (List.getElem_mem inside)) (Option.some.inj estimated)
  refine ⟨none.trans ⟨.inr, ?_⟩, tells, ?_⟩
  · rintro (rfl | standing)
    · exact Nat.le_refl _
    · exact standing
  · intro others k newest oldest
    obtain ⟨insideOthers, newest⟩ := List.getElem?_eq_some_iff.mp newest
    obtain ⟨_, oldest⟩ := List.getElem?_eq_some_iff.mp oldest
    rw [tell_eq_estimate fresh insideOthers, newest, oldest]
    exact estimated

/-- A unit each second, for eighteen seconds. -/
def steadySamples : List Sample := (List.range 18).map fun second => { time := second * nanosPerSecond, units := second }

theorem measured_steadySamples : ∀ sample ∈ steadySamples, sample.Measured := by
  intro sample member
  obtain ⟨second, among, rfl⟩ := List.mem_map.mp member
  have early : second < 18 := List.mem_range.mp among
  have fits : 18 * nanosPerSecond < UInt64.size * nanosPerSecond := by decide
  exact ⟨Nat.lt_trans (Nat.mul_lt_mul_of_pos_right early (by decide)) fits, Nat.lt_trans early (by decide)⟩

theorem estimates_over_last_sixteen_sample :
    ∃ report, (tell { start := 0, totalUnits := 17, totalSpan := 34 } steadySamples)[17]? = some (.ok (some report)) ∧
      report.elapsed = 17 * nanosPerSecond ∧ report.remaining = some 0 ∧
      (tell { start := 0, totalUnits := 17, totalSpan := 34 }
        [⟨2 * nanosPerSecond, 2⟩, ⟨17 * nanosPerSecond, 17⟩])[1]? = some (.ok (some report)) := by
  have came : ∃ report,
      (tell { start := 0, totalUnits := 17, totalSpan := 34 } steadySamples)[17]? = some (.ok (some report)) :=
    ⟨_, rfl⟩
  obtain ⟨report, came⟩ := came
  obtain ⟨-, tells, others⟩ := estimates_over_last_sixteen rfl measured_steadySamples (by decide) came
  obtain ⟨-, -, elapsed, nothing, -⟩ := tells report rfl
  exact ⟨report, came, elapsed, nothing (Nat.le_refl _), others _ 1 rfl rfl⟩

/-- Estimates fail where the rest takes longer than a length of time can be, at the speed since the sample fifteen before
(or the first one), and nowhere else. Next to the longest length of time, by less than what roundings can make up, either
may happen. -/
theorem estimates_fail_when_overlong (fresh : tracker.window = []) (counted : tracker.totalUnits < UInt64.size)
    {samples : List Sample} (measured : ∀ sample ∈ samples, sample.Measured) {i : Nat} (inside : i < samples.length) :
    (¬ tracker.Overlong samples[i - 15] samples[i] (2 ^ 64 - 2 ^ 15) →
        ∃ told, (tracker.tell samples)[i]? = some (.ok told)) ∧
      (tracker.Overlong samples[i - 15] samples[i] (2 ^ 64 + 2 ^ 15) →
        (tracker.tell samples)[i]? = some (.error .remainingTooLong)) := by
  have newest := measured _ (List.getElem_mem inside)
  rw [tell_eq_estimate fresh inside]
  refine ⟨fun short => ?_, fun overlong => congrArg some (estimate_of_overlong counted newest overlong)⟩
  obtain ⟨told, eq⟩ := estimate_of_not_overlong counted newest short
  exact ⟨told, congrArg some eq⟩

theorem estimates_fail_when_overlong_sample :
    ∃ told, (tell { start := 0, totalUnits := 100, totalSpan := 200 } steadySamples)[17]? = some (.ok told) := by
  refine (estimates_fail_when_overlong rfl (by decide) measured_steadySamples (by decide)).1 ?_
  intro overlong
  exact absurd overlong.long (by decide)

/-- One unit in the first ten seconds leaves ten times as many seconds for the rest as a length of time can have. -/
theorem estimates_fail :
    (tell { start := 0, totalUnits := 2 ^ 64 - 1, totalSpan := 2 ^ 64 - 1 }
      [⟨0, 0⟩, ⟨10 * nanosPerSecond, 1⟩])[1]? = some (.error .remainingTooLong) := by
  have overlong : Overlong { start := 0, totalUnits := 2 ^ 64 - 1, totalSpan := 2 ^ 64 - 1 } ⟨0, 0⟩
      ⟨10 * nanosPerSecond, 1⟩ (2 ^ 64 + 2 ^ 15) :=
    ⟨by decide, by decide, by decide, by decide⟩
  rw [tell_eq_estimate rfl (by decide)]
  exact congrArg some (estimate_of_overlong (by decide) ⟨by decide, by decide⟩ overlong)

end Tracker

end BlockImage.Progress
