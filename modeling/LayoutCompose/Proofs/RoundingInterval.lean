import LayoutCompose.Number.Decimal
import LayoutCompose.Number.Shortest
import LayoutCompose.Proofs.Exactness

/-!
What is rounded to a number.

A finite number is a significand of 24 bits times a power of two. Around it lies the interval of
all that is nearer to it than to any other number, and the ends belong to it if the significand is
even. Whatever ratio lies in the interval is rounded to the number. Below a power of two the
numbers lie closer together, so that a ratio there is counted in smaller steps; this is the only
case in which rounding changes the power.
-/

namespace LayoutCompose

namespace Single

/-! ### Significands -/

/-- The exponent and the fraction of a number, read as one whole number. -/
def code (x : Single) : Nat :=
  x.exponent.val * 8388608 + x.fraction.val

/-- The power of two that a finite number is a multiple of. -/
def scale (x : Single) : Nat :=
  x.exponent.val - 1

def significand (x : Single) : Nat :=
  if x.exponent.val = 0 then x.fraction.val else 8388608 + x.fraction.val

theorem magnitude_eq (x : Single) : x.magnitude = x.significand * 2 ^ x.scale := by
  unfold magnitude significand scale
  split
  · rename_i hzero
    rw [hzero, Nat.zero_sub, Nat.pow_zero, Nat.mul_one]
  · rfl

theorem code_eq (x : Single) : x.code = x.scale * 8388608 + x.significand := by
  unfold code significand scale
  split <;> omega

theorem significand_lt (x : Single) : x.significand < 2 ^ 24 := by
  unfold significand
  split <;> omega

/-- Above the least power the significand has its first bit. -/
theorem scale_eq_zero_or (x : Single) : x.scale = 0 ∨ 2 ^ 23 ≤ x.significand := by
  unfold significand scale
  split <;> omega

theorem scale_le {x : Single} (hx : x.isFinite = true) : x.scale ≤ 253 := by
  have hexponent : x.exponent.val ≠ 255 := by simpa [isFinite] using hx
  unfold scale
  omega

theorem code_lt {x : Single} (hx : x.isFinite = true) : x.code < 2139095040 := by
  have hexponent : x.exponent.val ≠ 255 := by simpa [isFinite] using hx
  unfold code
  omega

@[simp] theorem ofCode_code (x : Single) (negative : Bool) :
    ofCode negative x.code = { x with negative := negative } := by
  rw [ofCode, Single.mk.injEq]
  refine ⟨rfl, Fin.ext ?_, Fin.ext ?_⟩
  · change x.code / 8388608 % 256 = x.exponent.val
    unfold code
    omega
  · change x.code % 8388608 = x.fraction.val
    unfold code
    omega

/-! ### Nearest whole numbers -/

/-- A ratio within a half of a whole number is rounded to it, in a tie if it is even. -/
theorem divNearest_eq {num den n : Nat} (hden : 0 < den) (hlower : 2 * (n * den) ≤ 2 * num + den)
    (hupper : 2 * num ≤ 2 * (n * den) + den)
    (htie : 2 * (n * den) = 2 * num + den ∨ 2 * num = 2 * (n * den) + den → n % 2 = 0) :
    divNearest num den = n := by
  have hsplit : num / den * den + num % den = num := by
    rw [Nat.mul_comm]
    exact Nat.div_add_mod num den
  have hmod : num % den < den := Nat.mod_lt num hden
  have hle : n ≤ num / den + 1 := by
    by_contra! hlt
    have hmul : (num / den + 2) * den ≤ n * den := Nat.mul_le_mul_right den hlt
    rw [Nat.add_mul] at hmul
    omega
  have hge : num / den ≤ n := by
    by_contra! hlt
    have hmul : (n + 1) * den ≤ num / den * den := Nat.mul_le_mul_right den hlt
    rw [Nat.add_mul] at hmul
    omega
  obtain heq | heq : n = num / den ∨ n = num / den + 1 := by omega
  · have hmul : n * den = num / den * den := by rw [heq]
    unfold divNearest
    dsimp only
    split
    · exact heq.symm
    · split
      · omega
      · rw [if_pos (by omega), heq]
  · have hmul : n * den = num / den * den + den := by rw [heq, Nat.add_mul, Nat.one_mul]
    unfold divNearest
    dsimp only
    split
    · omega
    · split
      · exact heq.symm
      · rw [if_neg (by omega), heq]

theorem excess_eq {n s : Nat} (hlt : n < 2 ^ (s + 24)) (hge : s = 0 ∨ 2 ^ (s + 23) ≤ n) :
    excess n = s := by
  have hshift : excess n = n.log2 - 23 := rfl
  by_cases hzero : n = 0
  · rcases hge with rfl | hge
    · rw [hzero]
      rfl
    · have hpos := Nat.two_pow_pos (s + 23)
      omega
  · have hlog : n.log2 < s + 24 := (Nat.log2_lt hzero).mpr hlt
    rcases hge with rfl | hge
    · omega
    · have hle : s + 23 ≤ n.log2 := (Nat.le_log2 hzero).mpr hge
      omega

end Single

namespace Shortest

open Single

/-! ### Intervals -/

/-- What lies in an interval lies between its ends, and at an end only if the ends belong to it. -/
theorem Interval.contains_iff {i : Interval} {num den : Nat} :
    i.contains num den = true ↔ i.lower * den ≤ num ∧ num ≤ i.upper * den ∧
      (i.lower * den = num ∨ num = i.upper * den → i.closed = true) := by
  unfold contains
  cases i.closed with
  | true => simp
  | false =>
      simp only [Bool.false_eq_true, if_false, Bool.and_eq_true, decide_eq_true_eq, imp_false,
        not_or]
      omega

theorem Interval.upper_of (x : Single) :
    (Interval.of x).upper = 4 * x.magnitude + 2 * 2 ^ x.scale := rfl

/-- The interval is as wide below the number as above it, except at a power of two. -/
theorem Interval.lower_of (x : Single) : (Interval.of x).lower = 4 * x.magnitude -
    if x.significand = 2 ^ 23 then 2 ^ x.scale else 2 * 2 ^ x.scale := by
  have hpower : x.fraction.val = 0 ∧ x.exponent.val ≠ 0 ↔ x.significand = 2 ^ 23 := by
    unfold significand
    split <;> omega
  rw [← if_congr hpower rfl rfl]
  rfl

theorem Interval.closed_of (x : Single) :
    (Interval.of x).closed = true ↔ x.significand % 2 = 0 := by
  have hclosed : (Interval.of x).closed = true ↔ x.fraction.val % 2 = 0 := beq_iff_eq
  rw [hclosed]
  unfold significand
  split <;> omega

/-- A ratio in the interval of a number is within half a step of it, and in a tie the significand
is even. At a power of two it is within a quarter of a step on the lower side. -/
theorem Interval.bounds_of_contains {x : Single} {num den : Nat}
    (h : (Interval.of x).contains (4 * num) den = true) :
    let step := den * 2 ^ x.scale
    2 * (x.significand * step) ≤ 2 * num + step ∧ 2 * num ≤ 2 * (x.significand * step) + step ∧
      (2 * (x.significand * step) = 2 * num + step ∨ 2 * num = 2 * (x.significand * step) + step →
        x.significand % 2 = 0) ∧
      (x.significand = 2 ^ 23 → 4 * (x.significand * step) ≤ 4 * num + step) := by
  intro step
  obtain ⟨hlower, hupper, hends⟩ := contains_iff.mp h
  have hstep : 2 ^ x.scale * den = step := Nat.mul_comm ..
  have hmagnitude : x.magnitude * den = x.significand * step := by
    rw [magnitude_eq, Nat.mul_assoc, hstep]
  rw [closed_of] at hends
  rw [upper_of, Nat.add_mul, Nat.mul_assoc, Nat.mul_assoc, hmagnitude, hstep] at hupper hends
  by_cases hpower : x.significand = 2 ^ 23
  · rw [lower_of, if_pos hpower, Nat.sub_mul, Nat.mul_assoc, hmagnitude, hstep] at hlower hends
    omega
  · rw [lower_of, if_neg hpower, Nat.sub_mul, Nat.mul_assoc, Nat.mul_assoc, hmagnitude, hstep]
      at hlower hends
    omega

/-- Steps that are too great for a ratio by one power are those of a power of two just above it. -/
theorem Interval.significand_eq_of_lt {x : Single} {num den half : Nat}
    (h : (Interval.of x).contains (4 * num) den = true) (hhalf : den * 2 ^ x.scale = 2 * half)
    (hscale : 2 ^ 23 ≤ x.significand) (hlt : num < 2 ^ 24 * half) :
    x.significand = 2 ^ 23 ∧ 2 * (2 ^ 24 * half) ≤ 2 * num + half := by
  obtain ⟨hlower, -, -, hpower⟩ := bounds_of_contains h
  rw [hhalf] at hlower hpower
  have hpos : 0 < half := by
    by_contra! hzero
    obtain rfl : half = 0 := by omega
    omega
  have hsignificand : x.significand = 2 ^ 23 := by
    by_contra hne
    have hmul : (2 ^ 23 + 1) * (2 * half) ≤ x.significand * (2 * half) :=
      Nat.mul_le_mul_right _ (by omega)
    omega
  have hquarter := hpower hsignificand
  rw [hsignificand] at hquarter
  exact ⟨hsignificand, by omega⟩

/-- A ratio in the interval of a number is rounded to its code. -/
theorem Interval.codeOfRatio_eq {x : Single} {num den : Nat} (hden : 0 < den)
    (h : (Interval.of x).contains (4 * num) den = true) : codeOfRatio num den = x.code := by
  obtain ⟨hlower, hupper, htie, -⟩ := bounds_of_contains h
  have hlt := x.significand_lt
  have hstep : 0 < den * 2 ^ x.scale := Nat.mul_pos hden (Nat.two_pow_pos _)
  rw [code_eq, codeOfRatio]
  by_cases hnormal : x.scale = 0 ∨ 2 ^ (x.scale + 23) ≤ num / den
  · have hbelow : num / den < 2 ^ (x.scale + 24) := by
      have hmul : x.significand * (den * 2 ^ x.scale) ≤ (2 ^ 24 - 1) * (den * 2 ^ x.scale) :=
        Nat.mul_le_mul_right _ (by omega)
      have hpow : 2 ^ (x.scale + 24) * den = 2 ^ 24 * (den * 2 ^ x.scale) := by ring
      rw [Nat.div_lt_iff_lt_mul hden, hpow]
      omega
    rw [excess_eq hbelow hnormal, divNearest_eq hstep hlower hupper htie]
  · rw [not_or, Nat.not_le, Nat.div_lt_iff_lt_mul hden] at hnormal
    obtain ⟨k, hk⟩ := Nat.exists_eq_add_one_of_ne_zero hnormal.1
    have hhalf : den * 2 ^ x.scale = 2 * (den * 2 ^ k) := by
      rw [hk]
      ring
    have hfar : num < 2 ^ 24 * (den * 2 ^ k) :=
      calc num
        _ < 2 ^ (x.scale + 23) * den := hnormal.2
        _ = 2 ^ 24 * (den * 2 ^ k) := by rw [hk]; ring
    obtain ⟨hsignificand, hnear⟩ := significand_eq_of_lt h hhalf
      (x.scale_eq_zero_or.resolve_left hnormal.1) hfar
    have hexcess : excess (num / den) = k := by
      have hpow : 2 ^ (k + 24) * den = 2 ^ 24 * (den * 2 ^ k) := by ring
      have hpow' : 2 ^ (k + 23) * den = 2 ^ 23 * (den * 2 ^ k) := by ring
      apply excess_eq
      · rw [Nat.div_lt_iff_lt_mul hden, hpow]
        exact hfar
      · right
        rw [Nat.le_div_iff_mul_le hden, hpow']
        omega
    have hpos : 0 < den * 2 ^ k := Nat.mul_pos hden (Nat.two_pow_pos k)
    rw [hexcess, divNearest_eq hpos hnear (by omega) fun _ => by decide, hsignificand, hk]
    omega

/-- What lies in the interval of a number is rounded to the number. -/
theorem Interval.ofRatio_eq {x : Single} {num den : Nat} (hx : x.isFinite = true) (hden : 0 < den)
    (h : (Interval.of x).contains (4 * num) den = true) (negative : Bool) :
    ofRatio negative num den = { x with negative := negative } := by
  have hcode := codeOfRatio_eq hden h
  rw [Single.ofRatio_eq (hcode ▸ code_lt hx), hcode, ofCode_code]

/-- The interval reaches beyond the number on either side, unless there is nothing below it. -/
theorem Interval.lower_lt {x : Single} (hx : 0 < x.magnitude) :
    2 ≤ (Interval.of x).lower ∧ (Interval.of x).lower < 4 * x.magnitude := by
  have hpos := Nat.two_pow_pos x.scale
  have hsignificand : 0 < x.significand := by
    rw [magnitude_eq] at hx
    exact Nat.pos_of_mul_pos_right hx
  have hmul : 2 ^ x.scale ≤ x.magnitude := by
    rw [magnitude_eq]
    exact Nat.le_mul_of_pos_left _ hsignificand
  rw [lower_of]
  split <;> omega

/-- The number itself lies in its interval. -/
theorem Interval.contains_magnitude (x : Single) {den : Nat} (hden : 0 < den) :
    (Interval.of x).contains (4 * (x.magnitude * den)) den = true := by
  have hupper : (Interval.of x).upper = 4 * x.magnitude + 2 * 2 ^ x.scale := upper_of x
  have hlower : (Interval.of x).lower ≤ 4 * x.magnitude := lower_of x ▸ Nat.sub_le ..
  rw [contains_iff, ← Nat.mul_assoc]
  refine ⟨Nat.mul_le_mul_right den hlower, Nat.mul_le_mul_right den (by omega), ?_⟩
  rintro (hend | hend)
  · have heq := Nat.eq_of_mul_eq_mul_right hden hend
    have hzero : x.magnitude = 0 := by
      by_contra hne
      have hlt := (lower_lt (Nat.pos_of_ne_zero hne)).2
      omega
    rw [magnitude_eq, Nat.mul_eq_zero] at hzero
    rw [closed_of, hzero.resolve_right (Nat.two_pow_pos _).ne']
  · have heq := Nat.eq_of_mul_eq_mul_right hden hend
    have hpos := Nat.two_pow_pos x.scale
    omega

/-- No interval of a finite number reaches beyond `2 ^ 128`. -/
theorem Interval.upper_le {x : Single} (hx : x.isFinite = true) :
    (Interval.of x).upper ≤ 4 * (2 ^ 128 * unitsOne) := by
  have hlt := x.significand_lt
  calc (Interval.of x).upper
    _ = (4 * x.significand + 2) * 2 ^ x.scale := by rw [upper_of, magnitude_eq]; ring
    _ ≤ 2 ^ 26 * 2 ^ 253 :=
        Nat.mul_le_mul (by omega) (Nat.pow_le_pow_right (by decide) (scale_le hx))
    _ = 4 * (2 ^ 128 * unitsOne) := by rw [unitsOne_eq]; ring

/-! ### Decimals -/

/-- The number of digits says where a number stands among the powers of ten. -/
theorem toDigits_bounds {n : Nat} (hn : 0 < n) :
    10 ^ ((Nat.toDigits 10 n).length - 1) ≤ n ∧ n < 10 ^ (Nat.toDigits 10 n).length := by
  have hlength : 0 < (Nat.toDigits 10 n).length := Nat.length_toDigits_pos
  constructor
  · by_contra! hlt
    rcases Nat.eq_zero_or_pos ((Nat.toDigits 10 n).length - 1) with hzero | hpos
    · rw [hzero] at hlt
      omega
    · have hle := (Nat.length_toDigits_le_iff (by decide) hpos).mpr hlt
      omega
  · exact (Nat.length_toDigits_le_iff (by decide) hlength).mp (Nat.le_refl _)

/-- The first digit of a decimal in the interval of a number stands where the powers of ten are
computed. -/
theorem Interval.places_of_contains {x : Single} {d : Decimal} (hx : x.isFinite = true)
    (hpos : 0 < x.magnitude)
    (h : (Interval.of x).contains (4 * (d.digits * 10 ^ d.exponent.toNat * unitsOne))
      (10 ^ (-d.exponent).toNat) = true) :
    0 < d.digits ∧ -45 ≤ (Nat.toDigits 10 d.digits).length + d.exponent ∧
      (Nat.toDigits 10 d.digits).length + d.exponent ≤ 39 := by
  obtain ⟨hlower, hupper, -⟩ := contains_iff.mp h
  have hden : 0 < 10 ^ (-d.exponent).toNat := Nat.pow_pos (by decide)
  have hleast : 10 ^ (-d.exponent).toNat ≤ d.digits * 10 ^ d.exponent.toNat * 2 ^ 150 := by
    have hmul := Nat.mul_le_mul_right (10 ^ (-d.exponent).toNat) (lower_lt hpos).1
    rw [unitsOne_eq] at hlower
    omega
  have hgreatest : d.digits * 10 ^ d.exponent.toNat ≤ 2 ^ 128 * 10 ^ (-d.exponent).toNat := by
    have hmul := Nat.mul_le_mul_right (10 ^ (-d.exponent).toNat) (upper_le hx)
    refine Nat.le_of_mul_le_mul_right (c := 4 * unitsOne) ?_ (by decide)
    calc d.digits * 10 ^ d.exponent.toNat * (4 * unitsOne)
      _ = 4 * (d.digits * 10 ^ d.exponent.toNat * unitsOne) := by ring
      _ ≤ 4 * (2 ^ 128 * unitsOne) * 10 ^ (-d.exponent).toNat := Nat.le_trans hupper hmul
      _ = 2 ^ 128 * 10 ^ (-d.exponent).toNat * (4 * unitsOne) := by ring
  have hdigits : 0 < d.digits := by
    by_contra! hzero
    obtain hzero : d.digits = 0 := by omega
    rw [hzero] at hleast
    omega
  obtain ⟨hfrom, hbelow⟩ := toDigits_bounds hdigits
  have hten (n : Nat) : 0 < 10 ^ n := Nat.pow_pos (by decide)
  refine ⟨hdigits, ?_, ?_⟩
  · by_contra! hfar
    have hpow : d.digits * 10 ^ d.exponent.toNat * 10 ^ 46 < 10 ^ (-d.exponent).toNat :=
      calc d.digits * 10 ^ d.exponent.toNat * 10 ^ 46
        _ < 10 ^ (Nat.toDigits 10 d.digits).length * 10 ^ d.exponent.toNat * 10 ^ 46 :=
            Nat.mul_lt_mul_of_pos_right (Nat.mul_lt_mul_of_pos_right hbelow (hten _)) (hten _)
        _ = 10 ^ ((Nat.toDigits 10 d.digits).length + d.exponent.toNat + 46) := by
            rw [Nat.pow_add, Nat.pow_add]
        _ ≤ 10 ^ (-d.exponent).toNat := Nat.pow_le_pow_right (by decide) (by omega)
    omega
  · by_contra! hfar
    have hpow : 10 ^ 39 * 10 ^ (-d.exponent).toNat ≤ d.digits * 10 ^ d.exponent.toNat :=
      calc 10 ^ 39 * 10 ^ (-d.exponent).toNat
        _ = 10 ^ (39 + (-d.exponent).toNat) := (Nat.pow_add ..).symm
        _ ≤ 10 ^ ((Nat.toDigits 10 d.digits).length - 1 + d.exponent.toNat) :=
            Nat.pow_le_pow_right (by decide) (by omega)
        _ = 10 ^ ((Nat.toDigits 10 d.digits).length - 1) * 10 ^ d.exponent.toNat := Nat.pow_add ..
        _ ≤ d.digits * 10 ^ d.exponent.toNat := Nat.mul_le_mul_right _ hfrom
    omega

/-- A decimal in the interval of a number is read as the number. -/
theorem Interval.toSingle_eq {x : Single} {d : Decimal} (hx : x.isFinite = true)
    (hpos : 0 < x.magnitude)
    (h : (Interval.of x).contains (4 * (d.digits * 10 ^ d.exponent.toNat * unitsOne))
      (10 ^ (-d.exponent).toNat) = true) :
    d.toSingle = { x with negative := d.negative } := by
  obtain ⟨hdigits, hleast, hgreatest⟩ := places_of_contains hx hpos h
  unfold Decimal.toSingle
  dsimp only
  rw [if_neg (by omega), if_neg (by omega)]
  exact Interval.ofRatio_eq hx (Nat.pow_pos (by decide)) h d.negative

/-! ### Grids -/

theorem contains_of_onGrid {i : Interval} {k : Int} {n : Nat} (h : onGrid i k = some n) :
    i.contains (n * (10 ^ k.toNat * quartersOne)) (10 ^ (-k).toNat) = true := by
  unfold onGrid at h
  dsimp only at h
  split at h
  · rename_i hboth
    obtain ⟨hlow, hhigh⟩ := Bool.and_eq_true_iff.mp hboth
    obtain rfl := Option.some.inj h
    split
    · exact hlow
    · exact hhigh
  · split at h
    · rename_i hlow
      obtain rfl := Option.some.inj h
      exact hlow
    · split at h
      · rename_i hhigh
        obtain rfl := Option.some.inj h
        exact hhigh
      · cases h

/-- A grid has a point in the interval if the number itself is one. -/
theorem isSome_onGrid {i : Interval} {k : Int} {n : Nat}
    (hpoint : i.value * 10 ^ (-k).toNat = n * (10 ^ k.toNat * quartersOne))
    (h : i.contains (i.value * 10 ^ (-k).toNat) (10 ^ (-k).toNat) = true) :
    (onGrid i k).isSome = true := by
  have hstep : 0 < 10 ^ k.toNat * quartersOne := Nat.mul_pos (Nat.pow_pos (by decide)) (by decide)
  have hn : i.value * 10 ^ (-k).toNat / (10 ^ k.toNat * quartersOne) = n := by
    rw [hpoint]
    exact Nat.mul_div_cancel _ hstep
  have hlow : i.contains (i.value * 10 ^ (-k).toNat / (10 ^ k.toNat * quartersOne) *
      (10 ^ k.toNat * quartersOne)) (10 ^ (-k).toNat) = true := by
    rwa [hn, ← hpoint]
  unfold onGrid
  dsimp only
  split
  · rfl
  · split
    · rfl
    · rename_i hnot
      exact absurd hlow hnot

/-- Every number is a point of the finest grid. -/
@[simp] theorem isSome_onGrid_finest (x : Single) :
    (onGrid (Interval.of x) (-149)).isSome = true := by
  have hten : 0 < 10 ^ 149 := Nat.pow_pos (by decide)
  have hpow : 4 * 10 ^ 149 = 5 ^ 149 * (10 ^ 0 * quartersOne) := by decide +kernel
  have hpoint : 4 * x.magnitude * 10 ^ 149 = x.magnitude * 5 ^ 149 * (10 ^ 0 * quartersOne) := by
    rw [Nat.mul_right_comm, hpow, Nat.mul_comm, Nat.mul_assoc x.magnitude]
  refine isSome_onGrid (n := x.magnitude * 5 ^ 149) hpoint ?_
  change (Interval.of x).contains (4 * x.magnitude * 10 ^ 149) (10 ^ 149) = true
  rw [Nat.mul_assoc]
  exact Interval.contains_magnitude x hten

/-- The digits of a number are those of a point of a grid in its interval. -/
@[simp] theorem contains_digits (x : Single) :
    (Interval.of x).contains ((digits x).1 * (10 ^ (digits x).2.toNat * quartersOne))
      (10 ^ (-(digits x).2).toNat) = true := by
  have hfound : (grids.findSome? fun k =>
      (onGrid (Interval.of x) k).map fun n => (n, k)).isSome = true := by
    rw [List.findSome?_isSome_iff]
    refine ⟨-149, List.mem_map.mpr ⟨188, by simp, by decide⟩, ?_⟩
    rw [Option.isSome_map, isSome_onGrid_finest]
  obtain ⟨⟨n, k⟩, hdigits⟩ := Option.isSome_iff_exists.mp hfound
  obtain ⟨j, -, hj⟩ := List.exists_of_findSome?_eq_some hdigits
  obtain ⟨m, hm, heq⟩ := Option.map_eq_some_iff.mp hj
  obtain ⟨rfl, rfl⟩ := Prod.mk.inj heq
  rw [digits, hdigits, Option.getD_some]
  exact contains_of_onGrid hm

end Shortest

end LayoutCompose
