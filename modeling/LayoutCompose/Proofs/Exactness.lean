import LayoutCompose.Proofs.Rounding

/-!
Results that are exact.

Rounding keeps what the format can hold, a number of 24 bits times a power of two. Two results
are of this kind whatever they are made of: the nearest whole number of a number, and the
distance between the two.
-/

namespace LayoutCompose.Single

/-! ### Numbers that are kept -/

theorem divNearest_of_dvd {num den : Nat} (hden : 0 < den) (h : den ∣ num) :
    divNearest num den = num / den := by
  have hzero : num % den = 0 := Nat.mod_eq_zero_of_dvd h
  simp [divNearest, hzero, hden]

/-- A code in two parts. At the least exponent all fractions are allowed, and above it the
fraction has its first bit. -/
theorem magnitude_ofCode_add {negative : Bool} {e m : Nat} (he : e < 254) (hm : m < 2 ^ 24)
    (h : e = 0 ∨ 2 ^ 23 ≤ m) : (ofCode negative (e * 8388608 + m)).magnitude = m * 2 ^ e := by
  by_cases hlow : m < 2 ^ 23
  · obtain rfl : e = 0 := by omega
    have hexponent : (ofCode negative (0 * 8388608 + m)).exponent.val = 0 := by
      change (0 * 8388608 + m) / 8388608 % 256 = 0
      omega
    rw [magnitude, if_pos hexponent]
    change (0 * 8388608 + m) % 8388608 = m * 2 ^ 0
    omega
  · have hexponent : (ofCode negative (e * 8388608 + m)).exponent.val = e + 1 := by
      change (e * 8388608 + m) / 8388608 % 256 = e + 1
      omega
    have hfraction : 8388608 + (ofCode negative (e * 8388608 + m)).fraction.val = m := by
      change 8388608 + (e * 8388608 + m) % 8388608 = m
      omega
    rw [magnitude, if_neg (by omega), hexponent, hfraction, Nat.add_sub_cancel]
    rfl

theorem excess_le {a j : Nat} (ha : a < 2 ^ 24) : excess (a * 2 ^ j) ≤ j := by
  have hbelow : a * 2 ^ j < 2 ^ (24 + j) := by
    rw [Nat.pow_add]
    exact Nat.mul_lt_mul_of_pos_right ha (Nat.two_pow_pos j)
  have hshift : excess (a * 2 ^ j) = (a * 2 ^ j).log2 - 23 := rfl
  by_cases hzero : a * 2 ^ j = 0
  · rw [hzero] at hshift ⊢
    exact Nat.zero_le j
  · have hlog := (Nat.log2_lt hzero).mpr hbelow
    omega

/-- The bits that are left of a number fill the format, unless none was lost. -/
theorem div_two_pow_excess (n : Nat) :
    n / 2 ^ excess n < 2 ^ 24 ∧ (excess n = 0 ∨ 2 ^ 23 ≤ n / 2 ^ excess n) := by
  have hshift : excess n = n.log2 - 23 := rfl
  constructor
  · refine Nat.div_lt_of_lt_mul ?_
    calc n
      _ < 2 ^ (n.log2 + 1) := Nat.lt_log2_self
      _ ≤ 2 ^ (excess n + 24) := Nat.pow_le_pow_right (by decide) (by omega)
      _ = 2 ^ excess n * 2 ^ 24 := Nat.pow_add ..
  · by_cases hsmall : n.log2 < 23
    · exact .inl (by omega)
    · right
      have hzero : n ≠ 0 := by
        rintro rfl
        exact hsmall (by decide)
      have hsum : 23 + excess n = n.log2 := by omega
      rw [Nat.le_div_iff_mul_le (Nat.two_pow_pos _), ← Nat.pow_add, hsum]
      exact Nat.log2_self_le hzero

/-- What the format can hold is kept. -/
theorem ofRatio_exact (negative : Bool) {a j : Nat} (ha : a < 2 ^ 24) (hj : j < 254) :
    (ofRatio negative (a * 2 ^ j) 1).isFinite = true ∧
      (ofRatio negative (a * 2 ^ j) 1).magnitude = a * 2 ^ j := by
  have hexcess := excess_le (j := j) ha
  obtain ⟨hbits, hfirst⟩ := div_two_pow_excess (a * 2 ^ j)
  have hdvd : 2 ^ excess (a * 2 ^ j) ∣ a * 2 ^ j :=
    Nat.dvd_mul_left_of_dvd (Nat.pow_dvd_pow 2 hexcess) a
  generalize a * 2 ^ j = n at *
  have hcode : codeOfRatio n 1 = excess n * 8388608 + n / 2 ^ excess n := by
    rw [codeOfRatio, Nat.div_one, Nat.one_mul, divNearest_of_dvd (Nat.two_pow_pos _) hdvd]
  have hsmall : codeOfRatio n 1 < 2139095040 := by omega
  rw [ofRatio_eq hsmall]
  refine ⟨isFinite_ofCode hsmall, ?_⟩
  rw [hcode, magnitude_ofCode_add (by omega) hbits hfirst, Nat.div_mul_cancel hdvd]

/-- Every finite number is of 24 bits times a power of two. -/
theorem exists_magnitude_eq {x : Single} (hx : x.isFinite = true) :
    ∃ a j, x.magnitude = a * 2 ^ j ∧ a < 2 ^ 24 ∧ j < 254 := by
  have hexponent : x.exponent.val ≠ 255 := by simpa [isFinite] using hx
  by_cases hzero : x.exponent.val = 0
  · refine ⟨x.fraction.val, 0, ?_, by omega, by decide⟩
    rw [magnitude, if_pos hzero, Nat.pow_zero, Nat.mul_one]
  · refine ⟨8388608 + x.fraction.val, x.exponent.val - 1, ?_, by omega, by omega⟩
    rw [magnitude, if_neg hzero]
    rfl

/-! ### Whole numbers -/

theorem unitsOne_eq : unitsOne = 2 ^ 149 := rfl

theorem natAbs_nearestInt (x : Single) :
    x.nearestInt.natAbs = (2 * x.magnitude + unitsOne) / (2 * unitsOne) := by
  unfold nearestInt
  dsimp only
  split
  · rw [Int.natAbs_neg, Int.natAbs_natCast]
  · rw [Int.natAbs_natCast]

/-- The nearest whole number is within a half. -/
theorem nearestInt_bounds (x : Single) :
    2 * (x.nearestInt.natAbs * unitsOne) ≤ 2 * x.magnitude + unitsOne ∧
      2 * x.magnitude < 2 * (x.nearestInt.natAbs * unitsOne) + unitsOne := by
  have hsplit := Nat.div_add_mod (2 * x.magnitude + unitsOne) (2 * unitsOne)
  have hmod := Nat.mod_lt (2 * x.magnitude + unitsOne) (y := 2 * unitsOne) (by decide)
  rw [← natAbs_nearestInt, Nat.mul_right_comm, Nat.mul_assoc 2] at hsplit
  omega

theorem nearestInt_unique {x : Single} {k : Nat}
    (hlower : 2 * (k * unitsOne) ≤ 2 * x.magnitude + unitsOne)
    (hupper : 2 * x.magnitude < 2 * (k * unitsOne) + unitsOne) : x.nearestInt.natAbs = k := by
  rw [natAbs_nearestInt]
  apply Nat.div_eq_of_lt_le
  · rw [Nat.mul_left_comm]
    exact hlower
  · rw [Nat.mul_left_comm, Nat.succ_mul k]
    omega

theorem nearestInt_mul_of_dvd {x : Single} (h : unitsOne ∣ x.magnitude) :
    x.nearestInt.natAbs * unitsOne = x.magnitude := by
  obtain ⟨n, hn⟩ := h
  have hpos : 0 < unitsOne := by decide
  rw [Nat.mul_comm] at hn
  rw [nearestInt_unique (k := n) (by omega) (by omega), hn]

/-- Great numbers are multiples of great powers. -/
theorem two_pow_dvd_magnitude {x : Single} {i : Nat} (hx : x.isFinite = true)
    (h : 2 ^ (i + 23) ≤ x.magnitude) : 2 ^ i ∣ x.magnitude := by
  obtain ⟨a, j, hmagnitude, ha, -⟩ := exists_magnitude_eq hx
  have hj : i ≤ j := by
    by_contra! hlt
    have hbelow : x.magnitude < 2 ^ (i + 23) :=
      calc x.magnitude
        _ = a * 2 ^ j := hmagnitude
        _ < 2 ^ 24 * 2 ^ j := Nat.mul_lt_mul_of_pos_right ha (Nat.two_pow_pos j)
        _ = 2 ^ (24 + j) := (Nat.pow_add ..).symm
        _ ≤ 2 ^ (i + 23) := Nat.pow_le_pow_right (by decide) (by omega)
    omega
  rw [hmagnitude]
  exact Nat.dvd_mul_left_of_dvd (Nat.pow_dvd_pow 2 hj) a

/-- The format can hold the nearest whole number. -/
theorem round_exact {x : Single} (hx : x.isFinite = true) :
    x.round.isFinite = true ∧ x.round.magnitude = x.nearestInt.natAbs * unitsOne := by
  rw [round, if_pos hx]
  by_cases hgreat : 2 ^ 172 ≤ x.magnitude
  · obtain ⟨a, j, hmagnitude, ha, hj⟩ := exists_magnitude_eq hx
    rw [nearestInt_mul_of_dvd (two_pow_dvd_magnitude hx hgreat), hmagnitude]
    exact ofRatio_exact x.negative ha hj
  · have hsmall : x.nearestInt.natAbs < 2 ^ 24 := by
      obtain ⟨hlower, -⟩ := nearestInt_bounds x
      rw [unitsOne_eq] at hlower
      omega
    rw [unitsOne_eq]
    exact ofRatio_exact x.negative hsmall (by decide)

theorem natAbs_sub_le {m k unit : Nat} (h : 2 * (k * unit) ≤ 2 * m + unit) :
    ((m : Int) - k * unit).natAbs ≤ m := by
  rcases Nat.eq_zero_or_pos k with rfl | hpos
  · omega
  · have hone := Nat.le_mul_of_pos_left unit hpos
    rw [← Int.natCast_mul]
    omega

/-- The format can hold the distance to the nearest whole number. -/
theorem exists_distance_eq {x : Single} (hx : x.isFinite = true) :
    ∃ a j, ((x.magnitude : Int) - x.nearestInt.natAbs * unitsOne).natAbs = a * 2 ^ j ∧
      a < 2 ^ 24 ∧ j < 254 := by
  obtain ⟨a, j, hmagnitude, ha, hj⟩ := exists_magnitude_eq hx
  obtain ⟨hlower, hupper⟩ := nearestInt_bounds x
  by_cases hwhole : unitsOne ∣ x.magnitude
  · refine ⟨0, 0, ?_, by decide, by decide⟩
    have heq := nearestInt_mul_of_dvd hwhole
    omega
  · -- Both numbers are multiples of the same power, and their distance is not beyond the first.
    have hpower : j ≤ 149 := by
      by_contra! hlt
      refine hwhole ?_
      rw [hmagnitude, unitsOne_eq]
      exact Nat.dvd_mul_left_of_dvd (Nat.pow_dvd_pow 2 hlt.le) a
    have hdvd : 2 ^ j ∣ ((x.magnitude : Int) - x.nearestInt.natAbs * unitsOne).natAbs := by
      refine Int.natCast_dvd.mp (Int.dvd_sub ?_ ?_)
      · exact Int.natCast_dvd_natCast.mpr ⟨a, hmagnitude.trans (Nat.mul_comm ..)⟩
      · rw [unitsOne_eq, ← Int.natCast_mul]
        exact Int.natCast_dvd_natCast.mpr (Nat.dvd_mul_left_of_dvd (Nat.pow_dvd_pow 2 hpower) _)
    have hle := natAbs_sub_le hlower
    obtain ⟨b, hb⟩ := hdvd
    rw [hb, hmagnitude, Nat.mul_comm] at hle
    have hba : b ≤ a := Nat.le_of_mul_le_mul_right hle (Nat.two_pow_pos j)
    exact ⟨b, j, hb.trans (Nat.mul_comm ..), by omega, hj⟩

theorem units_of_nonneg {x : Single} (h : x.negative = false) : x.units = x.magnitude := by
  rw [units, h, if_neg Bool.false_ne_true]

theorem sub_eq_ofUnits {x y : Single} (hx : x.isFinite = true) (hy : y.isFinite = true)
    (h : ¬ (x.units = 0 ∧ y.units = 0)) : x.sub y = ofUnits (x.units - y.units) := by
  simp [sub, isNaN_eq_false hx, isNaN_eq_false hy, hx, hy, h]

theorem units_round {x : Single} (hx : x.isFinite = true) (hsign : x.negative = false) :
    x.round.units = x.nearestInt.natAbs * unitsOne := by
  have hround : x.round.negative = false := by rw [round, if_pos hx, negative_ofRatio, hsign]
  rw [units_of_nonneg hround, (round_exact hx).2, Int.natCast_mul]

/-- The difference to the nearest whole number is not rounded. -/
theorem sub_round_exact {x : Single} (hx : x.isFinite = true) (hsign : x.negative = false) :
    (x.sub x.round).isFinite = true ∧ (x.sub x.round).magnitude =
      ((x.magnitude : Int) - x.nearestInt.natAbs * unitsOne).natAbs := by
  have hround := (round_exact hx).1
  have hrounded := units_round hx hsign
  by_cases hzero : x.units = 0 ∧ x.round.units = 0
  · have hsub : x.sub x.round = ⟨x.negative && !x.round.negative, 0, 0⟩ := by
      simp [sub, isNaN_eq_false hx, isNaN_eq_false hround, hx, hround, hzero]
    rw [hsub, ← units_of_nonneg hsign, ← hrounded, hzero.1, hzero.2]
    exact ⟨rfl, rfl⟩
  · obtain ⟨a, j, hdistance, ha, hj⟩ := exists_distance_eq hx
    rw [sub_eq_ofUnits hx hround hzero, ofUnits, units_of_nonneg hsign, hrounded, hdistance]
    exact ofRatio_exact _ ha hj

/-- The nearest whole number is the same as a number of the format and as an integer. -/
theorem toInt_round {x : Single} (hx : x.isFinite = true) (hsign : x.negative = false) :
    x.round.toInt = x.nearestInt.natAbs := by
  rw [toInt, units_round hx hsign]
  exact Int.mul_tdiv_cancel _ (by decide)

end LayoutCompose.Single
