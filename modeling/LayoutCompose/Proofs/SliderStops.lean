import LayoutCompose.Compose.Control
import LayoutCompose.Proofs.Exactness
import LayoutCompose.Proofs.Outcome

/-!
The number of stops on a track.

The count of intervals is a rounded quotient, but from there on nothing is rounded: its nearest
whole number and the distance to it are exact. So the tolerance is kept to the last bit. A step
that is far too great has a count near zero, and this is within the tolerance too; and a count
that is infinite has no distance to anything.
-/

namespace LayoutCompose

open Outcome (Succeeds)

/-- A track with steps: its bounds are finite and in order, and its step is above zero. -/
structure Track.IsStepped (t : Track) : Prop where
  lower : t.lower.isFinite = true
  upper : t.upper.isFinite = true
  step : t.step.isFinite = true
  ordered : t.lower.lt t.upper = true
  positive : Single.zero.lt t.step = true

/-- The count of intervals, as far as numbers can hold it. -/
def Track.intervals (t : Track) : Single :=
  (t.upper.sub t.lower).div t.step

def Single.IsNear (x : Single) (k : Nat) : Prop :=
  1000 * (x.units - k * Single.unitsOne).natAbs ≤ Single.unitsOne

namespace Single

theorem lt_iff {x y : Single} :
    x.lt y = true ↔ x.isNaN = false ∧ y.isNaN = false ∧ x.units < y.units := by
  simp [lt, and_assoc]

@[simp] theorem isNaN_ofRatio (negative : Bool) (num den : Nat) :
    (ofRatio negative num den).isNaN = false := by
  rcases ofRatio_cases negative num den with ⟨hcode, heq⟩ | heq
  · rw [heq]
    exact isNaN_eq_false (isFinite_ofCode hcode)
  · rw [heq]
    rfl

/-- A number that is neither finite nor a NaN is an infinity. -/
theorem eq_infinity {x : Single} (hfinite : x.isFinite = false) (hnan : x.isNaN = false) :
    x = infinity x.negative := by
  obtain ⟨negative, exponent, fraction⟩ := x
  have hexponent : exponent.val = 255 := by simpa [isFinite] using hfinite
  have hfraction : fraction.val = 0 := by simpa [isNaN, hexponent] using hnan
  rw [infinity, Single.mk.injEq]
  exact ⟨rfl, Fin.ext hexponent, Fin.ext hfraction⟩

theorem div_eq_infinity {x y : Single} (hx : x.isFinite = false) (hnan : x.isNaN = false)
    (hy : y.isFinite = true) : x.div y = infinity (x.negative != y.negative) := by
  simp [div, hnan, isNaN_eq_false hy, hx, hy]

theorem negative_eq_false {x : Single} (h : 0 < x.units) : x.negative = false := by
  cases hsign : x.negative with
  | false => rfl
  | true =>
      have hzero := units_nonneg_iff.mp (Int.le_of_lt h) hsign
      rw [units_eq_magnitude (Int.le_of_lt h), hzero] at h
      exact absurd h (Int.lt_irrefl 0)

end Single

namespace Track.IsStepped

open Single

variable {t : Track}

theorem sign_step (h : t.IsStepped) : t.step.negative = false ∧ 0 < t.step.magnitude := by
  obtain ⟨-, -, hpositive⟩ := lt_iff.mp h.positive
  have hsign : t.step.negative = false := negative_eq_false hpositive
  rw [units_of_nonneg hsign] at hpositive
  exact ⟨hsign, Int.natCast_pos.mp hpositive⟩

theorem sign_span (h : t.IsStepped) :
    (t.upper.sub t.lower).negative = false ∧ (t.upper.sub t.lower).isNaN = false := by
  obtain ⟨-, -, hlt⟩ := lt_iff.mp h.ordered
  rw [sub_eq_ofUnits h.upper h.lower (by omega), ofUnits]
  refine ⟨?_, isNaN_ofRatio _ _ _⟩
  rw [negative_ofRatio, decide_eq_false_iff_not]
  omega

theorem sign_intervals (h : t.IsStepped) :
    t.intervals.negative = false ∧ t.intervals.isNaN = false := by
  obtain ⟨hspan, hnan⟩ := h.sign_span
  obtain ⟨hstep, hpos⟩ := h.sign_step
  rw [Track.intervals]
  cases hfinite : (t.upper.sub t.lower).isFinite with
  | true =>
      rw [div_eq_ofRatio hfinite h.step hpos, negative_ofRatio, hspan, hstep]
      exact ⟨rfl, isNaN_ofRatio _ _ _⟩
  | false =>
      rw [div_eq_infinity hfinite hnan h.step, hspan, hstep]
      exact ⟨rfl, rfl⟩

/-- Without a span there are no intervals. -/
theorem intervals_of_span_eq_zero (h : t.IsStepped)
    (heq : (t.upper.sub t.lower).eq Single.zero = true) :
    t.intervals.isFinite = true ∧ t.intervals.magnitude = 0 := by
  obtain ⟨hspan, hnan⟩ := h.sign_span
  obtain ⟨-, hpos⟩ := h.sign_step
  have hzero : (t.upper.sub t.lower).magnitude = 0 := by
    have hunits : (t.upper.sub t.lower).units = 0 := by
      rw [Single.eq, Bool.and_eq_true, beq_iff_eq] at heq
      exact heq.2
    rw [units_of_nonneg hspan] at hunits
    exact Int.natCast_eq_zero.mp hunits
  have hfinite : (t.upper.sub t.lower).isFinite = true := by
    by_contra hinfinite
    rw [eq_infinity (eq_false_of_ne_true hinfinite) hnan, hspan] at hzero
    exact absurd hzero (by decide +kernel)
  rw [Track.intervals, div_eq_ofRatio hfinite h.step hpos, hzero, Nat.zero_mul]
  exact ⟨(ofRatio_le _ hpos Nat.one_pos (by decide) (Nat.zero_le _)).1,
    magnitude_ofRatio_zero hpos⟩

end Track.IsStepped

namespace Compose

open Single

variable {t : Track}

theorem trackStops_eq (h : t.IsStepped) : trackStops t =
    if (t.upper.sub t.lower).eq Single.zero then .ok none
    else if stepTolerance.lt (t.intervals.sub t.intervals.round).abs then .error (.unevenStep t)
    else .ok (if 0 < min t.intervals.round.toInt maxIntervals - 1 then
      some (min t.intervals.round.toInt maxIntervals - 1) else none) := by
  have hordered : t.upper.lt t.lower = false := by
    obtain ⟨-, -, hlt⟩ := lt_iff.mp h.ordered
    rw [← Bool.not_eq_true, lt_iff]
    omega
  have hstep : t.step.le Single.zero = false := by
    obtain ⟨-, -, hlt⟩ := lt_iff.mp h.positive
    rw [← Bool.not_eq_true, le_iff]
    omega
  unfold trackStops
  dsimp only
  rw [hordered, hstep, if_neg Bool.false_ne_true, Bool.false_or]
  rfl

theorem stepTolerance_units : stepTolerance.units = 8589935 * 2 ^ 116 := by
  decide +kernel

/-- The tolerance is on the exact distance. -/
theorem stepTolerance_lt_iff {x : Single} (hx : x.isFinite = true) (hsign : x.negative = false) :
    stepTolerance.lt (x.sub x.round).abs = true ↔
      stepTolerance.units < (x.units - x.nearestInt.natAbs * unitsOne).natAbs := by
  obtain ⟨hfinite, hmagnitude⟩ := sub_round_exact hx hsign
  have habs : (x.sub x.round).abs.units = (x.sub x.round).magnitude := rfl
  have hnan : (x.sub x.round).abs.isNaN = false := isNaN_eq_false hfinite
  rw [lt_iff, habs, hmagnitude, units_of_nonneg hsign]
  exact ⟨fun h => h.2.2, fun h => ⟨by decide +kernel, hnan, h⟩⟩

theorem trackStops_of_finite (h : t.IsStepped) (hfinite : t.intervals.isFinite = true) :
    trackStops t =
      if stepTolerance.units <
          (t.intervals.units - t.intervals.nearestInt.natAbs * unitsOne).natAbs then
        .error (.unevenStep t)
      else
        .ok (if 1 < t.intervals.nearestInt.natAbs then
          some (min ↑t.intervals.nearestInt.natAbs maxIntervals - 1) else none) := by
  have hsign := h.sign_intervals.1
  rw [trackStops_eq h]
  split
  · -- A track without a span passes the test all the same, with a count of zero.
    rename_i hspan
    obtain ⟨-, hzero⟩ := h.intervals_of_span_eq_zero hspan
    have hnearest : t.intervals.nearestInt.natAbs = 0 := by
      rw [natAbs_nearestInt, hzero]
      decide +kernel
    rw [units_of_nonneg hsign, hzero, hnearest, if_neg (by decide +kernel), if_neg (by decide)]
  · have hcount : 0 < min (t.intervals.nearestInt.natAbs : Int) maxIntervals - 1 ↔
        1 < t.intervals.nearestInt.natAbs := by
      rw [maxIntervals]
      omega
    simp only [stepTolerance_lt_iff hfinite hsign, toInt_round hfinite hsign, hcount]

theorem trackStops_of_infinite (h : t.IsStepped) (hinfinite : t.intervals.isFinite = false) :
    trackStops t = .ok (some (maxIntervals - 1)) := by
  obtain ⟨hsign, hnan⟩ := h.sign_intervals
  have hinfinity := eq_infinity hinfinite hnan
  have hspan : (t.upper.sub t.lower).eq Single.zero ≠ true := by
    intro hspan
    rw [(h.intervals_of_span_eq_zero hspan).1] at hinfinite
    cases hinfinite
  have hdistance : stepTolerance.lt ((infinity false).sub (infinity false).round).abs = false := by
    decide +kernel
  have hcount : min (infinity false).round.toInt maxIntervals = maxIntervals := by
    decide +kernel
  rw [trackStops_eq h, if_neg hspan, hinfinity, hsign, hdistance, hcount]
  rfl

/-! ### Distances -/

/-- A number has one nearest whole number. -/
theorem nearestInt_of_near {x : Single} {k : Nat} (hsign : x.negative = false)
    (h : (x.units - k * unitsOne).natAbs ≤ stepTolerance.units) : x.nearestInt.natAbs = k := by
  rw [units_of_nonneg hsign, stepTolerance_units, unitsOne_eq] at h
  apply nearestInt_unique
  · rw [unitsOne_eq]
    omega
  · rw [unitsOne_eq]
    omega

/-- From one half on, the tolerance is a thousandth for all numbers that there are. -/
theorem isNear_iff {x : Single} {k : Nat} (hx : x.isFinite = true) (hsign : x.negative = false)
    (hk : 1 ≤ k) : x.IsNear k ↔ (x.units - k * unitsOne).natAbs ≤ stepTolerance.units := by
  rw [IsNear, units_of_nonneg hsign, stepTolerance_units, unitsOne_eq]
  constructor
  · intro h
    omega
  · intro h
    have hdvd : 2 ^ 125 ∣ x.magnitude := two_pow_dvd_magnitude hx (by omega)
    obtain ⟨b, hb⟩ := hdvd
    omega

/-- Beyond `2 ^ 31` there are only whole numbers, so that a count is beyond it where the whole
number of intervals is. -/
theorem le_two_pow_iff {x : Single} {k : Nat} (hx : x.isFinite = true) (hsign : x.negative = false)
    (h : (x.units - k * unitsOne).natAbs ≤ stepTolerance.units) :
    k - 1 < 2 ^ 31 ↔ x.units ≤ 2 ^ 31 * unitsOne := by
  have hnearest := nearestInt_of_near hsign h
  rw [units_of_nonneg hsign, unitsOne_eq] at *
  constructor
  · intro hk
    by_contra! hgreat
    have hwhole := nearestInt_mul_of_dvd (x := x) (two_pow_dvd_magnitude hx (by omega))
    rw [hnearest, unitsOne_eq] at hwhole
    omega
  · intro hle
    rw [stepTolerance_units] at h
    omega

/-! ### Counts -/

/-- A count above the tolerance passes exactly where it is near a whole number above zero. -/
theorem exists_isNear_iff {x : Single} (hx : x.isFinite = true) (hsign : x.negative = false)
    (hlt : stepTolerance.lt x = true) : (∃ k, 1 ≤ k ∧ x.IsNear k) ↔
      (x.units - x.nearestInt.natAbs * unitsOne).natAbs ≤ stepTolerance.units := by
  constructor
  · rintro ⟨k, hk, hnear⟩
    rw [isNear_iff hx hsign hk] at hnear
    rwa [nearestInt_of_near hsign hnear]
  · intro h
    obtain ⟨-, -, habove⟩ := lt_iff.mp hlt
    have hone : 1 ≤ x.nearestInt.natAbs := by
      by_contra! hzero
      obtain hzero : x.nearestInt.natAbs = 0 := by omega
      rw [hzero] at h
      omega
    exact ⟨_, hone, (isNear_iff hx hsign hone).mpr h⟩

theorem trackStops_of_isNear {k : Nat} (h : t.IsStepped) (hfinite : t.intervals.isFinite = true)
    (hk : 1 ≤ k) (hnear : t.intervals.IsNear k) :
    trackStops t = .ok (if k = 1 then none else some (min ↑k maxIntervals - 1)) := by
  have hsign := h.sign_intervals.1
  have hdistance := (isNear_iff hfinite hsign hk).mp hnear
  have hnearest := nearestInt_of_near hsign hdistance
  rw [trackStops_of_finite h hfinite, hnearest, if_neg (Int.not_lt.mpr hdistance)]
  congr 1
  by_cases hone : k = 1
  · rw [if_pos hone, if_neg (by omega)]
  · rw [if_neg hone, if_pos (by omega)]

theorem trackStops_of_le_stepTolerance (h : t.IsStepped)
    (hle : t.intervals.le stepTolerance = true) : trackStops t = .ok none := by
  have hsign := h.sign_intervals.1
  obtain ⟨-, -, hle⟩ := le_iff.mp hle
  have hfinite : t.intervals.isFinite = true := by
    by_contra hinfinite
    rw [eq_infinity (eq_false_of_ne_true hinfinite) h.sign_intervals.2, hsign] at hle
    exact absurd hle (by decide +kernel)
  have hdistance : (t.intervals.units - (0 : Nat) * unitsOne).natAbs ≤ stepTolerance.units := by
    rw [units_of_nonneg hsign] at hle ⊢
    omega
  rw [trackStops_of_finite h hfinite, nearestInt_of_near hsign hdistance,
    if_neg (Int.not_lt.mpr hdistance), if_neg (by decide)]

theorem toString_stops {k : Nat} (hk : 1 ≤ k) :
    toString (min ↑k maxIntervals - 1) = toString (min k 9223372036854775807 - 1) := by
  have hcast : min (k : Int) maxIntervals - 1 = ↑(min k 9223372036854775807 - 1) := by
    rw [maxIntervals]
    omega
  rw [hcast]
  rfl

/-- The stops of a track with steps. A finite count of intervals that is above the tolerance has
to be within a thousandth of a whole number, which is one more than the number of stops, and this
is a machine integer of 32 bits up to a count of `2 ^ 31`. A count below the tolerance stands for
no stops at all, and an infinite one for the greatest number of stops that there is. -/
theorem trackStops_counts_intervals {t : Track} (h : t.IsStepped) :
    (t.intervals.isFinite = true → stepTolerance.lt t.intervals = true →
      (Succeeds (trackStops t) ↔ ∃ k, 1 ≤ k ∧ t.intervals.IsNear k) ∧
      (∀ e, trackStops t = .error e → e = .unevenStep t) ∧
      ∀ k, 1 ≤ k → t.intervals.IsNear k →
        (∃ stops, trackStops t = .ok stops ∧ stops.map toString =
          if k = 1 then none else some (toString (min k 9223372036854775807 - 1))) ∧
        (k - 1 < 2 ^ 31 ↔ t.intervals.units ≤ 2 ^ 31 * unitsOne)) ∧
    (t.intervals.le stepTolerance = true → trackStops t = .ok none) ∧
    (t.intervals.isFinite = false → trackStops t = .ok (some (maxIntervals - 1))) := by
  have hsign := h.sign_intervals.1
  refine ⟨fun hfinite hlt => ⟨?_, ?_, fun k hk hnear => ⟨?_, ?_⟩⟩,
    trackStops_of_le_stepTolerance h, trackStops_of_infinite h⟩
  · rw [exists_isNear_iff hfinite hsign hlt, trackStops_of_finite h hfinite]
    split
    · rename_i hfar
      exact iff_of_false (Outcome.not_succeeds_error _) (Int.not_le.mpr hfar)
    · rename_i hnear
      exact iff_of_true (Outcome.succeeds_ok _) (Int.not_lt.mp hnear)
  · intro e he
    rw [trackStops_of_finite h hfinite] at he
    split at he
    · exact (Except.error.inj he).symm
    · cases he
  · refine ⟨_, trackStops_of_isNear h hfinite hk hnear, ?_⟩
    split
    · rfl
    · rw [Option.map_some, toString_stops hk]
  · exact le_two_pow_iff hfinite hsign ((isNear_iff hfinite hsign hk).mp hnear)

/-- Ten intervals have nine stops between them. -/
theorem trackStops_counts_intervals_ten :
    let t : Track := ⟨zero, ofNat 100, ofNat 10⟩
    t.IsStepped ∧ ∃ stops, trackStops t = .ok stops ∧ stops.map toString = some "9" := by
  intro t
  have ht : t.IsStepped := ⟨by decide +kernel, by decide +kernel, by decide +kernel,
    by decide +kernel, by decide +kernel⟩
  have hnear : t.intervals.IsNear 10 := by
    rw [IsNear]
    decide +kernel
  obtain ⟨-, -, hstops⟩ :=
    (trackStops_counts_intervals ht).1 (by decide +kernel) (by decide +kernel)
  exact ⟨ht, (hstops 10 (by decide) hnear).1⟩

/-- A step of many times the span is accepted, though it divides nothing. -/
theorem trackStops_of_great_step :
    let t : Track := ⟨zero, one, ofNat 10000⟩
    t.IsStepped ∧ trackStops t = .ok none ∧ ¬ ∃ k, 1 ≤ k ∧ t.intervals.IsNear k := by
  intro t
  refine ⟨⟨by decide +kernel, by decide +kernel, by decide +kernel, by decide +kernel,
    by decide +kernel⟩, by decide +kernel, ?_⟩
  rintro ⟨k, hk, hnear⟩
  have hunits : t.intervals.units ≤ 2 ^ 148 := by decide +kernel
  have hnonneg : 0 ≤ t.intervals.units := by decide +kernel
  rw [IsNear, unitsOne_eq] at hnear
  omega

end Compose

end LayoutCompose
