import LayoutCompose.Proofs.RoundingInterval
import LayoutCompose.Proofs.Scanner
import LayoutCompose.Proofs.TrimmedText
import LayoutCompose.Value.Scalar
import Mathlib.Data.List.TakeWhile

/-!
The text of numbers.

A number is written as a numeral: digits with an optional sign in front, and possibly a point with
digits on both sides. What a numeral stands for is a point of a grid in the interval of the number
that it was made of, and so it is read as that number. Only the sign of a zero is not written.
-/

namespace LayoutCompose

/-- A decimal numeral without an exponent. There is a point if there are digits behind it. -/
structure Numeral where
  negative : Bool
  whole : List Char
  places : List Char
  whole_ne_nil : whole ≠ []
  isDigit_whole : ∀ c ∈ whole, c.isDigit = true
  isDigit_places : ∀ c ∈ places, c.isDigit = true

namespace Numeral

def chars (n : Numeral) : List Char :=
  (if n.negative then ['-'] else []) ++
    (n.whole ++ if n.places.isEmpty then [] else '.' :: n.places)

def text (n : Numeral) : String :=
  String.ofList n.chars

def decimal (n : Numeral) : Decimal :=
  ⟨n.negative, Decimal.ofDigits (n.whole ++ n.places), -n.places.length⟩

/-! ### Reading -/

theorem isNumeric_of_isDigit {c : Char} (h : c.isDigit = true) : Kotlin.isNumeric c = true := by
  simp [Kotlin.isNumeric, h]

theorem isNumeric_chars (n : Numeral) : ∀ c ∈ n.chars, Kotlin.isNumeric c = true := by
  intro c hc
  simp only [chars, List.mem_append] at hc
  rcases hc with hc | hc | hc
  · split at hc
    · obtain rfl := List.mem_singleton.mp hc
      rfl
    · cases hc
  · exact isNumeric_of_isDigit (n.isDigit_whole c hc)
  · split at hc
    · cases hc
    · rcases List.mem_cons.mp hc with rfl | hc
      · rfl
      · exact isNumeric_of_isDigit (n.isDigit_places c hc)

theorem isBlank_of_isNumeric {c : Char} (h : Kotlin.isNumeric c = true) :
    Text.isBlank c = false := by
  simp only [Kotlin.isNumeric, Bool.or_eq_true, beq_iff_eq] at h
  rcases h with (h | rfl) | rfl
  · obtain ⟨hlower, hupper⟩ := Char.isDigit_iff_toNat.mp h
    change 48 ≤ c.toNat at hlower
    change c.toNat ≤ 57 at hupper
    simp [Text.isBlank]
    omega
  · rfl
  · rfl

theorem splitSign_of_isDigit {c : Char} (h : c.isDigit = true) (cs : List Char) :
    Decimal.splitSign (c :: cs) = (false, c :: cs) := by
  unfold Decimal.splitSign
  split
  · rename_i heq
    obtain ⟨rfl, -⟩ := List.cons.inj heq
    exact absurd h (by decide)
  · rename_i heq
    obtain ⟨rfl, -⟩ := List.cons.inj heq
    exact absurd h (by decide)
  · rfl

@[simp] theorem splitSign_chars (n : Numeral) : Decimal.splitSign n.chars =
    (n.negative, n.whole ++ if n.places.isEmpty then [] else '.' :: n.places) := by
  unfold chars
  cases n.negative with
  | true => rfl
  | false =>
      obtain ⟨c, cs, hwhole⟩ := List.exists_cons_of_ne_nil n.whole_ne_nil
      have hc : c.isDigit = true := n.isDigit_whole c (by simp [hwhole])
      rw [hwhole]
      exact splitSign_of_isDigit hc _

/-- A numeral is read as the number that it stands for. -/
@[simp] theorem read?_chars (n : Numeral) : Decimal.read? n.chars = some n.decimal := by
  have hwhole : n.whole.isEmpty = false := by simpa using n.whole_ne_nil
  unfold Decimal.read?
  rw [n.splitSign_chars]
  dsimp only
  rw [List.takeWhile_append_of_pos n.isDigit_whole, List.dropWhile_append_of_pos n.isDigit_whole]
  cases hplaces : n.places with
  | nil => simp [hwhole, decimal, hplaces, Decimal.readExponent?]
  | cons c cs =>
      have htake : (c :: cs).takeWhile Char.isDigit = c :: cs :=
        List.takeWhile_eq_self_iff.mpr (hplaces ▸ n.isDigit_places)
      have hdrop : (c :: cs).dropWhile Char.isDigit = [] :=
        List.dropWhile_eq_nil_iff.mpr (hplaces ▸ n.isDigit_places)
      have hpoint : Char.isDigit '.' = false := by decide
      simp [hwhole, decimal, hplaces, Decimal.readExponent?, hpoint, htake, hdrop]

theorem read_text {n : Numeral} (h : n.decimal.toSingle.isFinite = true) :
    Single.read n.text = .ok n.decimal.toSingle := by
  have htrim : Text.trim n.chars = n.chars :=
    Text.trim_of_isSolid (Text.isSolid_of_not_blank fun c hc =>
      isBlank_of_isNumeric (n.isNumeric_chars c hc))
  have hhead : n.chars.head? ≠ some '+' := fun hplus =>
    absurd (n.isNumeric_chars '+' (List.mem_of_head? hplus)) (by decide)
  unfold Single.read
  rw [text, String.toList_ofList, htrim]
  dsimp only
  rw [n.read?_chars]
  simp [h, hhead]

/-! ### Writing -/

/-- The digits of `n * 10 ^ k`: those of `n`, with zeros behind them up to the point, or in front of
them if the point stands there. -/
def gridDigits (n : Nat) (k : Int) : List Char :=
  List.replicate ((-k).toNat + 1 - (Nat.toDigits 10 n).length) '0' ++
    (Nat.toDigits 10 n ++ List.replicate k.toNat '0')

theorem isDigit_gridDigits {n : Nat} {k : Int} :
    ∀ c ∈ gridDigits n k, c.isDigit = true := by
  intro c hc
  simp only [gridDigits, List.mem_append, List.mem_replicate] at hc
  rcases hc with ⟨-, rfl⟩ | hc | ⟨-, rfl⟩
  · rfl
  · exact Nat.isDigit_of_mem_toDigits (by decide) (by decide) hc
  · rfl

theorem lt_length_gridDigits (n : Nat) (k : Int) : (-k).toNat < (gridDigits n k).length := by
  simp only [gridDigits, List.length_append, List.length_replicate]
  omega

@[simp] theorem ofDigits_gridDigits (n : Nat) (k : Int) :
    Decimal.ofDigits (gridDigits n k) = n * 10 ^ k.toNat := by
  change Nat.ofDigitChars 10 (gridDigits n k) 0 = n * 10 ^ k.toNat
  rw [gridDigits, Nat.ofDigitChars_append, Nat.ofDigitChars_replicate_zero, Nat.mul_zero,
    Nat.ofDigitChars_append, Nat.ofDigitChars_toDigits (by decide) (by decide),
    Nat.ofDigitChars_replicate_zero, Nat.mul_comm]

def ofGrid (negative : Bool) (n : Nat) (k : Int) : Numeral where
  negative := negative
  whole := (gridDigits n k).take ((gridDigits n k).length - (-k).toNat)
  places := (gridDigits n k).drop ((gridDigits n k).length - (-k).toNat)
  whole_ne_nil := by
    have hlt := lt_length_gridDigits n k
    rw [ne_eq, ← List.length_eq_zero_iff, List.length_take]
    omega
  isDigit_whole c hc := isDigit_gridDigits c (List.mem_of_mem_take hc)
  isDigit_places c hc := isDigit_gridDigits c (List.mem_of_mem_drop hc)

@[simp] theorem whole_append_places_ofGrid (negative : Bool) (n : Nat) (k : Int) :
    (ofGrid negative n k).whole ++ (ofGrid negative n k).places = gridDigits n k :=
  List.take_append_drop ..

@[simp] theorem length_places_ofGrid (negative : Bool) (n : Nat) (k : Int) :
    (ofGrid negative n k).places.length = (-k).toNat := by
  have hlt := lt_length_gridDigits n k
  simp only [ofGrid, List.length_drop]
  omega

@[simp] theorem decimal_ofGrid (negative : Bool) (n : Nat) (k : Int) :
    (ofGrid negative n k).decimal = ⟨negative, n * 10 ^ k.toNat, -(-k).toNat⟩ := by
  rw [decimal, length_places_ofGrid, whole_append_places_ofGrid, ofDigits_gridDigits]
  rfl

@[simp] theorem toList_positional (n : Nat) (k : Int) : (Shortest.positional n k).toList =
    (ofGrid false n k).chars := by
  have hplaces := length_places_ofGrid false n k
  have hlength : 0 < (Nat.toDigits 10 n).length := Nat.length_toDigits_pos
  unfold Shortest.positional
  dsimp only
  split
  · rename_i hzero
    have hdigits : gridDigits n k = Nat.toDigits 10 n ++ List.replicate k.toNat '0' := by
      rw [gridDigits, hzero, Nat.sub_eq_zero_of_le hlength, List.replicate_zero, List.nil_append]
    have hnil : (ofGrid false n k).places = [] :=
      List.length_eq_zero_iff.mp (hplaces.trans hzero)
    have hwhole := whole_append_places_ofGrid false n k
    rw [hnil, List.append_nil, hdigits] at hwhole
    rw [String.toList_ofList, chars, hnil, hwhole]
    simp [ofGrid]
  · rename_i hpos
    have hdigits : gridDigits n k =
        List.replicate ((-k).toNat + 1 - (Nat.toDigits 10 n).length) '0' ++ Nat.toDigits 10 n := by
      have hk : k.toNat = 0 := by omega
      rw [gridDigits, hk, List.replicate_zero, List.append_nil]
    have hnonempty : (ofGrid false n k).places.isEmpty = false := by
      rw [List.isEmpty_eq_false_iff_exists_mem]
      exact List.length_pos_iff_exists_mem.mp (by omega)
    rw [String.toList_ofList, chars, hnonempty]
    simp [ofGrid, hdigits]

@[simp] theorem text_ofGrid (negative : Bool) (n : Nat) (k : Int) :
    (ofGrid negative n k).text =
      (if negative then "-" else "") ++ Shortest.positional n k := by
  apply String.toList_injective
  rw [text, String.toList_ofList, String.toList_append, toList_positional]
  cases negative <;> rfl

theorem text_ofGrid_int (i : Int) : (ofGrid (i < 0) i.natAbs 0).text = toString i := by
  have hpositional (m : Nat) : Shortest.positional m 0 = m.repr := by
    apply String.toList_injective
    rw [Nat.toList_repr]
    simp [Shortest.positional]
  rw [text_ofGrid, hpositional, Int.toString_eq_repr, Int.repr_eq_if]
  by_cases hi : 0 ≤ i
  · have habs : i.natAbs = i.toNat := by omega
    rw [if_pos hi, if_neg (by simpa using hi), habs, String.empty_append]
  · have habs : i.natAbs = (-i).toNat := by omega
    rw [if_neg hi, if_pos (by simpa using hi), habs]

end Numeral

/-! ### Numbers -/

open Single (unitsOne)
open Shortest (Interval quartersOne)

/-- A point of a grid in the interval of a number is read as the number. -/
theorem Numeral.toSingle_ofGrid {x : Single} {n : Nat} {k : Int} (hx : x.isFinite = true)
    (hpos : 0 < x.magnitude)
    (h : (Interval.of x).contains (n * (10 ^ k.toNat * quartersOne)) (10 ^ (-k).toNat) = true)
    (negative : Bool) :
    (ofGrid negative n k).decimal.toSingle = { x with negative := negative } := by
  rw [decimal_ofGrid]
  refine Interval.toSingle_eq hx hpos ?_
  have hexponent : (-((-k).toNat : Int)).toNat = 0 := by omega
  have hplaces : (-(-((-k).toNat : Int))).toNat = (-k).toNat := by omega
  have hquarters : quartersOne = 4 * unitsOne := by decide
  have hvalue : 4 * (n * 10 ^ k.toNat * 10 ^ 0 * unitsOne) = n * (10 ^ k.toNat * quartersOne) := by
    rw [hquarters]
    ring
  dsimp only
  rw [hexponent, hplaces, hvalue]
  exact h

theorem Single.eq_iff {x y : Single} :
    x.eq y = true ↔ x.isNaN = false ∧ y.isNaN = false ∧ x.units = y.units := by
  simp [Single.eq, and_assoc]

/-- A number without a fractional part, as an integer. -/
theorem Single.toInt_of_dvd {x : Single} (h : unitsOne ∣ x.magnitude) :
    x.toInt.natAbs * unitsOne = x.magnitude ∧
      (0 < x.magnitude → (decide (x.toInt < 0) = x.negative)) := by
  obtain ⟨n, hn⟩ := h
  have hunits : (unitsOne : Int) ≠ 0 := by decide
  have hint : x.toInt = if x.negative then -(n : Int) else n := by
    unfold toInt units
    split
    · rw [hn, Int.natCast_mul, Int.neg_tdiv, Int.mul_tdiv_cancel_left _ hunits]
    · rw [hn, Int.natCast_mul, Int.mul_tdiv_cancel_left _ hunits]
  rw [hint]
  constructor
  · split <;> simp [hn, Nat.mul_comm]
  · intro hpos
    have hn0 : 0 < n := by
      rw [hn] at hpos
      exact Nat.pos_of_mul_pos_left hpos
    cases x.negative with
    | true => simp [hn0]
    | false => simp

namespace Kotlin

/-- A number is written as the numeral of a point of a grid in its interval. A zero is written
without a sign. -/
theorem exists_numeral_eq {x : Single} (hx : x.isFinite = true) :
    ∃ negative n k, numeral x = (Numeral.ofGrid negative n k).text ∧
      (x.magnitude = 0 → n = 0) ∧
      (0 < x.magnitude → negative = x.negative ∧
        (Interval.of x).contains (n * (10 ^ k.toNat * quartersOne)) (10 ^ (-k).toNat) = true) := by
  unfold numeral
  split
  · rename_i hwhole
    have hdvd : unitsOne ∣ x.magnitude := by
      simp only [Single.isWhole, hx, Bool.true_and, Bool.and_eq_true, beq_iff_eq] at hwhole
      exact Nat.dvd_of_mod_eq_zero hwhole.1
    obtain ⟨habs, hsign⟩ := Single.toInt_of_dvd hdvd
    refine ⟨x.toInt < 0, x.toInt.natAbs, 0, (Numeral.text_ofGrid_int _).symm, ?_, fun hpos =>
      ⟨hsign hpos, ?_⟩⟩
    · intro hzero
      rw [hzero] at habs
      exact (Nat.mul_eq_zero.mp habs).resolve_right (by decide)
    · have hvalue : x.toInt.natAbs * (10 ^ 0 * quartersOne) = 4 * (x.magnitude * 1) := by
        have hquarters : 10 ^ 0 * quartersOne = 4 * unitsOne := by decide
        rw [← habs, hquarters]
        ring
      have hmagnitude := Interval.contains_magnitude x Nat.one_pos
      rw [← hvalue] at hmagnitude
      exact hmagnitude
  · rename_i hwhole
    have hpos : 0 < x.magnitude := by
      by_contra! hzero
      obtain hzero : x.magnitude = 0 := by omega
      refine hwhole ?_
      rw [Single.isWhole, hx, hzero]
      decide
    refine ⟨x.negative, (Shortest.digits x).1, (Shortest.digits x).2, ?_, fun hzero => ?_, fun _ =>
      ⟨rfl, Shortest.contains_digits x⟩⟩
    · rw [Numeral.text_ofGrid, Shortest.text]
      simp only [Single.isNaN_eq_false hx, hx, Bool.false_eq_true, if_false, Bool.not_true,
        if_neg hpos.ne']
    · omega

/-- A finite number is written as digits with an optional sign in front and possibly a point between
them, and what is written is read as a number of the same value; but for a zero, it is the same
number. -/
theorem numeral_reads_back {x : Single} (hx : x.isFinite = true) :
    (∃ n : Numeral, numeral x = n.text) ∧
      ∃ y, Single.read (numeral x) = .ok y ∧ y.eq x = true ∧ (x.magnitude ≠ 0 → y = x) := by
  obtain ⟨negative, n, k, htext, hzero, hpos⟩ := exists_numeral_eq hx
  refine ⟨⟨_, htext⟩, (Numeral.ofGrid negative n k).decimal.toSingle, ?_⟩
  rw [htext]
  rcases Nat.eq_zero_or_pos x.magnitude with hmagnitude | hmagnitude
  · -- The sign of what is read is that of the text, and a zero has the same value with any sign.
    obtain rfl := hzero hmagnitude
    have hsingle : (Numeral.ofGrid negative 0 k).decimal.toSingle =
        { Single.zero with negative := negative } := by
      rw [Numeral.decimal_ofGrid, Nat.zero_mul, Decimal.toSingle]
      exact if_pos (Or.inl rfl)
    have hread := Numeral.read_text (n := .ofGrid negative 0 k) (by rw [hsingle]; rfl)
    have hunits : x.units = 0 := by simp [Single.units, hmagnitude]
    refine ⟨hread, ?_, fun hne => absurd hmagnitude hne⟩
    rw [hsingle, Single.eq_iff, hunits]
    exact ⟨rfl, Single.isNaN_eq_false hx, by cases negative <;> rfl⟩
  · obtain ⟨rfl, hcontains⟩ := hpos hmagnitude
    have hsingle : (Numeral.ofGrid x.negative n k).decimal.toSingle = x :=
      Numeral.toSingle_ofGrid hx hmagnitude hcontains x.negative
    have hread := Numeral.read_text (n := .ofGrid x.negative n k) (by rw [hsingle]; exact hx)
    rw [hread, hsingle]
    exact ⟨rfl, Single.eq_iff.mpr ⟨Single.isNaN_eq_false hx, Single.isNaN_eq_false hx, rfl⟩,
      fun _ => rfl⟩

/-- A tenth is no sum of powers of two, and yet its shortest text is read as the number nearest to
it. -/
theorem numeral_reads_back_tenth :
    let x := Single.ofRatio true Single.unitsOne 10
    x.isFinite = true ∧ numeral x = "-0.1" ∧
      ∃ y, Single.read (numeral x) = .ok y ∧ y.eq x = true ∧ (x.magnitude ≠ 0 → y = x) := by
  intro x
  have hx : x.isFinite = true := by decide +kernel
  exact ⟨hx, by decide +kernel, (numeral_reads_back hx).2⟩

end Kotlin

end LayoutCompose
