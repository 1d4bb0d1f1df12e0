import LayoutCompose.Number.Single
import Mathlib.Tactic.Ring

/-!
Bounds on rounded numbers.

A number is kept as a code: its exponent and fraction, read as one whole number, so that greater
codes belong to greater magnitudes. A ratio of at most a power of two is rounded to at most that
power, since rounding does not pass a number that is there. So a part of a whole, divided by the
whole, is a number between zero and one.
-/

namespace LayoutCompose.Single

/-! ### Codes -/

/-- Rounding does not pass a whole number. -/
theorem divNearest_le {num den bound : Nat} (hden : 0 < den) (h : num ≤ bound * den) :
    divNearest num den ≤ bound := by
  have hquotient : num / den ≤ bound := Nat.div_le_of_le_mul (by rwa [Nat.mul_comm])
  have hsplit : den * (num / den) + num % den = num := Nat.div_add_mod num den
  have hup : 0 < num % den → num / den + 1 ≤ bound := by
    intro hpos
    by_contra hlt
    have heq : num / den = bound := by omega
    rw [heq, Nat.mul_comm] at hsplit
    omega
  unfold divNearest
  dsimp only
  split
  · exact hquotient
  · split
    · exact hup (by omega)
    · split
      · exact hquotient
      · exact hup (by omega)

def ofCode (negative : Bool) (code : Nat) : Single :=
  ⟨negative, ⟨code / 8388608 % 256, Nat.mod_lt _ (by decide)⟩,
    ⟨code % 8388608, Nat.mod_lt _ (by decide)⟩⟩

theorem isFinite_ofCode {negative : Bool} {code : Nat} (h : code < 2139095040) :
    (ofCode negative code).isFinite = true := by
  have hexponent : code / 8388608 % 256 ≠ 255 := by omega
  simpa [isFinite, ofCode] using hexponent

/-- The code `k * 2 ^ 23` is that of the number `2 ^ (k + 22)`, and the codes up to it are those
of the numbers up to that one. -/
theorem magnitude_ofCode_le {negative : Bool} {code k : Nat} (hk : 0 < k) (hmax : k < 255)
    (h : code ≤ k * 8388608) : (ofCode negative code).magnitude ≤ 2 ^ (k + 22) := by
  have hexponent : code / 8388608 % 256 = code / 8388608 := Nat.mod_eq_of_lt (by omega)
  have hfraction : code % 8388608 < 2 ^ 23 := Nat.mod_lt _ (by decide)
  simp only [magnitude, ofCode, hexponent]
  split
  · calc code % 8388608
      _ ≤ 2 ^ 23 := Nat.le_of_lt hfraction
      _ ≤ 2 ^ (k + 22) := Nat.pow_le_pow_right (by decide) (by omega)
  · rename_i hpos
    change (8388608 + code % 8388608) * 2 ^ (code / 8388608 - 1) ≤ 2 ^ (k + 22)
    by_cases hlast : code / 8388608 = k
    · have hzero : code % 8388608 = 0 := by omega
      have hsum : k + 22 = 23 + (k - 1) := by omega
      rw [hzero, hlast, hsum, Nat.pow_add]
    · have hsum : k + 22 ≥ 24 + (code / 8388608 - 1) := by omega
      calc (8388608 + code % 8388608) * 2 ^ (code / 8388608 - 1)
        _ ≤ 2 ^ 24 * 2 ^ (code / 8388608 - 1) := Nat.mul_le_mul_right _ (by omega)
        _ = 2 ^ (24 + (code / 8388608 - 1)) := (Nat.pow_add ..).symm
        _ ≤ 2 ^ (k + 22) := Nat.pow_le_pow_right (by decide) hsum

/-! ### Ratios -/

/-- The code to which a ratio is rounded, unless it is too great. -/
def codeOfRatio (num den : Nat) : Nat :=
  excess (num / den) * 8388608 + divNearest num (den * 2 ^ excess (num / den))

theorem ofRatio_eq {negative : Bool} {num den : Nat} (h : codeOfRatio num den < 2139095040) :
    ofRatio negative num den = ofCode negative (codeOfRatio num den) :=
  if_pos h

/-- A ratio is rounded to the number with its code, or it is too great and becomes infinite. -/
theorem ofRatio_cases (negative : Bool) (num den : Nat) :
    codeOfRatio num den < 2139095040 ∧
        ofRatio negative num den = ofCode negative (codeOfRatio num den) ∨
      ofRatio negative num den = infinity negative := by
  by_cases hcode : codeOfRatio num den < 2139095040
  · exact .inl ⟨hcode, ofRatio_eq hcode⟩
  · exact .inr (if_neg hcode)

theorem codeOfRatio_le {num den k : Nat} (hden : 0 < den) (hk : 0 < k)
    (h : num ≤ den * 2 ^ (k + 22)) : codeOfRatio num den ≤ k * 8388608 := by
  have hquotient : num / den ≤ 2 ^ (k + 22) := Nat.div_le_of_le_mul h
  have hlog : (num / den).log2 ≤ k + 22 := by
    have hlt : num / den < 2 ^ (k + 22 + 1) :=
      Nat.lt_of_le_of_lt hquotient (Nat.pow_lt_pow_right (by decide) (Nat.lt_succ_self _))
    by_cases hzero : num / den = 0
    · simp [hzero]
    · exact Nat.le_of_lt_succ ((Nat.log2_lt hzero).mpr hlt)
  have hshift : excess (num / den) = (num / den).log2 - 23 := rfl
  have hpos : 0 < den * 2 ^ excess (num / den) := Nat.mul_pos hden (Nat.two_pow_pos _)
  unfold codeOfRatio
  -- At the greatest shift the ratio is below `2 ^ 23` steps; below it, its logarithm bounds it.
  by_cases hlast : excess (num / den) = k - 1
  · have hsum : k + 22 = k - 1 + 23 := by omega
    have hbound : num ≤ 8388608 * (den * 2 ^ excess (num / den)) := by
      rw [hsum, Nat.pow_add] at h
      rw [hlast]
      calc num
        _ ≤ den * (2 ^ (k - 1) * 2 ^ 23) := h
        _ = 8388608 * (den * 2 ^ (k - 1)) := by ring
    have hnearest := divNearest_le hpos hbound
    omega
  · have hbelow : num / den < 2 ^ (excess (num / den) + 24) :=
      calc num / den
        _ < 2 ^ ((num / den).log2 + 1) := Nat.lt_log2_self
        _ ≤ 2 ^ (excess (num / den) + 24) := Nat.pow_le_pow_right (by decide) (by omega)
    have hbound : num ≤ 16777216 * (den * 2 ^ excess (num / den)) :=
      calc num
        _ ≤ 2 ^ (excess (num / den) + 24) * den :=
            Nat.le_of_lt ((Nat.div_lt_iff_lt_mul hden).mp hbelow)
        _ = 16777216 * (den * 2 ^ excess (num / den)) := by ring
    have hnearest := divNearest_le hpos hbound
    omega

/-- A ratio of at most a power of two is rounded to at most that power. -/
theorem ofRatio_le (negative : Bool) {num den k : Nat} (hden : 0 < den) (hk : 0 < k)
    (hmax : k < 255) (h : num ≤ den * 2 ^ (k + 22)) :
    (ofRatio negative num den).isFinite = true ∧
      (ofRatio negative num den).magnitude ≤ 2 ^ (k + 22) := by
  have hcode := codeOfRatio_le hden hk h
  have hsmall : codeOfRatio num den < 2139095040 := by omega
  rw [ofRatio_eq hsmall]
  exact ⟨isFinite_ofCode hsmall, magnitude_ofCode_le hk hmax hcode⟩

theorem magnitude_ofRatio_zero {negative : Bool} {den : Nat} (hden : 0 < den) :
    (ofRatio negative 0 den).magnitude = 0 := by
  have hnearest : divNearest 0 den = 0 := Nat.le_zero.mp (divNearest_le hden (by simp))
  have hcode : codeOfRatio 0 den = 0 := by simp [codeOfRatio, excess, hnearest]
  rw [ofRatio_eq (by rw [hcode]; decide), hcode]
  rfl

@[simp] theorem negative_ofRatio (negative : Bool) (num den : Nat) :
    (ofRatio negative num den).negative = negative := by
  rcases ofRatio_cases negative num den with ⟨-, heq⟩ | heq
  · rw [heq]
    rfl
  · rw [heq]
    rfl

/-! ### Parts of a whole -/

theorem isNaN_eq_false {x : Single} (h : x.isFinite = true) : x.isNaN = false := by
  simp_all [isFinite, isNaN]

theorem le_iff {x y : Single} :
    x.le y = true ↔ x.isNaN = false ∧ y.isNaN = false ∧ x.units ≤ y.units := by
  simp [le, and_assoc]

/-- A number is below zero only if it has the sign for it and is not a zero itself. -/
theorem units_nonneg_iff {x : Single} :
    0 ≤ x.units ↔ (x.negative = true → x.magnitude = 0) := by
  unfold units
  split
  · rename_i hnegative
    simp [hnegative]
  · rename_i hnegative
    simp [hnegative]

theorem units_le_magnitude (x : Single) : x.units ≤ x.magnitude := by
  unfold units
  split <;> omega

theorem units_eq_magnitude {x : Single} (h : 0 ≤ x.units) : x.units = x.magnitude := by
  have hzero := units_nonneg_iff.mp h
  unfold units
  split
  · rename_i hnegative
    rw [hzero hnegative]
    rfl
  · rfl

structure IsPart (x : Single) : Prop where
  finite : x.isFinite = true
  nonneg : zero.le x = true
  le_one : x.le one = true

theorem isPart_of_units {x : Single} (hfinite : x.isFinite = true) (hnonneg : 0 ≤ x.units)
    (hle : x.units ≤ 2 ^ 149) : x.IsPart := by
  have hnan : x.isNaN = false := isNaN_eq_false hfinite
  have hone : one.units = 2 ^ 149 := by decide +kernel
  exact ⟨hfinite, le_iff.mpr ⟨rfl, hnan, hnonneg⟩, le_iff.mpr ⟨hnan, by decide, hone ▸ hle⟩⟩

theorem div_eq_ofRatio {x y : Single} (hx : x.isFinite = true) (hy : y.isFinite = true)
    (hpos : 0 < y.magnitude) : x.div y =
      ofRatio (x.negative != y.negative) (x.magnitude * unitsOne) y.magnitude := by
  simp [div, isNaN_eq_false hx, isNaN_eq_false hy, hx, hy, Nat.ne_of_gt hpos]

/-- What is not more than a whole is a part of it. -/
theorem isPart_div {x y : Single} (hx : x.isFinite = true) (hy : y.isFinite = true)
    (hnonneg : zero.le x = true) (hle : x.le y = true) (hpos : 0 < y.units) :
    (x.div y).IsPart := by
  obtain ⟨-, -, hx0⟩ := le_iff.mp hnonneg
  obtain ⟨-, -, hxy⟩ := le_iff.mp hle
  have hxunits : x.units = x.magnitude := units_eq_magnitude hx0
  have hyunits : y.units = y.magnitude := units_eq_magnitude (Int.le_of_lt hpos)
  have hden : 0 < y.magnitude := by omega
  have hratio : x.magnitude * unitsOne ≤ y.magnitude * 2 ^ (127 + 22) :=
    Nat.mul_le_mul_right _ (by omega)
  obtain ⟨hfinite, hmagnitude⟩ := ofRatio_le (x.negative != y.negative) hden (by decide)
    (by decide) hratio
  rw [div_eq_ofRatio hx hy hden]
  refine isPart_of_units hfinite (units_nonneg_iff.mpr fun hnegative => ?_) ?_
  · have hy0 : y.negative = false := by
      rw [← Bool.not_eq_true]
      intro hneg
      have hzero := units_nonneg_iff.mp (Int.le_of_lt hpos) hneg
      omega
    rw [negative_ofRatio, hy0, Bool.bne_false] at hnegative
    rw [units_nonneg_iff.mp hx0 hnegative, Nat.zero_mul]
    exact magnitude_ofRatio_zero hden
  · exact Int.le_trans (units_le_magnitude _) (Int.ofNat_le.mpr hmagnitude)

end LayoutCompose.Single
