import Mathlib.Algebra.Group.Nat.Defs
import Mathlib.Algebra.Order.Ring.Nat
import Mathlib.Order.Monotone.Defs

/-!
# Quotients of integers as floats

The quotient of two natural numbers as the nearest binary64 number, counted in units of `2 ^ -1074`, of which every
finite float is a multiple. Rounding keeps 53 binary digits and is monotone, and it tells neighbours of a grid apart as
long as the last digit is worth less than the distance between them.
-/

namespace Binary64

/-- `a / b` rounded to an integer, to the even one if two are equally near. -/
def roundEven (a b : ℕ) : ℕ :=
  if 2 * (a % b) < b ∨ 2 * (a % b) = b ∧ a / b % 2 = 0 then a / b else a / b + 1

/-- The exponent of the last of the 53 binary digits of `a / b`. -/
def exponent (a b : ℕ) : ℕ := (a / b).log2 - 52

/-- `a / b` rounded to 53 binary digits, but to no digits behind the point. -/
def nearest (a b : ℕ) : ℕ := roundEven a (b * 2 ^ exponent a b) * 2 ^ exponent a b

/-- The binary digits behind the point of the smallest float. -/
def places : ℕ := 1074

/-- `a / b` as a float. -/
def trueDivide (a b : ℕ) : ℕ := nearest (a * 2 ^ places) b

variable {a a' b d k m n : ℕ}

/-- An integer below the quotient is below the rounded one. -/
theorem le_roundEven (hb : 0 < b) (h : b * n ≤ a) : n ≤ roundEven a b := by
  have hle : n ≤ a / b := (Nat.le_div_iff_mul_le hb).mpr (by rwa [Nat.mul_comm])
  unfold roundEven
  split
  · exact hle
  · exact Nat.le_succ_of_le hle

/-- An integer above the quotient is above the rounded one. -/
theorem roundEven_le (hb : 0 < b) (h : a ≤ b * n) : roundEven a b ≤ n := by
  have hdiv := Nat.div_add_mod a b
  have hle : a / b ≤ n := Nat.div_le_of_le_mul h
  unfold roundEven
  split
  · exact hle
  · next hup =>
    rcases Nat.lt_or_eq_of_le hle with hlt | rfl
    · exact hlt
    · exact absurd (Or.inl (by omega)) hup

/-- The rounded quotient is off by at most one half. -/
theorem roundEven_error (hb : 0 < b) (a : ℕ) :
    2 * (b * roundEven a b) ≤ 2 * a + b ∧ 2 * a ≤ 2 * (b * roundEven a b) + b := by
  have hdiv := Nat.div_add_mod a b
  have hmod := Nat.mod_lt a hb
  unfold roundEven
  split
  · omega
  · rw [Nat.mul_add, Nat.mul_one]
    omega

/-- Rounding to integers is monotone. -/
theorem roundEven_mono (hb : 0 < b) (h : a ≤ a') : roundEven a b ≤ roundEven a' b := by
  rcases Nat.lt_or_eq_of_le (Nat.div_le_div_right h : a / b ≤ a' / b) with hlt | heq
  · have hfirst : roundEven a b ≤ a / b + 1 := by
      unfold roundEven
      split <;> omega
    have hsecond : a' / b ≤ roundEven a' b := le_roundEven hb (Nat.mul_div_le a' b)
    omega
  · have hdiv := Nat.div_add_mod a b
    have hdiv' := Nat.div_add_mod a' b
    rw [heq] at hdiv
    unfold roundEven
    rw [heq]
    split
    · split <;> omega
    · next hup =>
      rw [if_neg (by omega)]

/-- A quotient has the digits that its exponent says. -/
theorem pow_le_of_exponent (hb : 0 < b) (h : 0 < exponent a b) : b * 2 ^ (exponent a b + 52) ≤ a := by
  unfold exponent at h ⊢
  have hne : a / b ≠ 0 := by
    intro hzero
    rw [hzero] at h
    exact absurd h (by decide)
  rw [Nat.sub_add_cancel (by omega), Nat.mul_comm]
  exact (Nat.le_div_iff_mul_le hb).mp (Nat.log2_self_le hne)

/-- A quotient below a power of two has a smaller exponent. -/
theorem exponent_le (h : a < b * 2 ^ (m + 53)) : exponent a b ≤ m := by
  have hlt : a / b < 2 ^ (m + 53) := Nat.div_lt_of_lt_mul h
  unfold exponent
  by_cases hzero : a / b = 0
  · rw [hzero]
    exact Nat.zero_le m
  · have hlog := (Nat.log2_lt hzero).mpr hlt
    omega

/-- The exponent is monotone. -/
theorem exponent_mono (h : a ≤ a') : exponent a b ≤ exponent a' b := by
  unfold exponent
  have hle : a / b ≤ a' / b := Nat.div_le_div_right h
  by_cases hzero : a / b = 0
  · rw [hzero]
    exact Nat.zero_le _
  · have hlog : (a / b).log2 ≤ (a' / b).log2 :=
      (Nat.le_log2 (Nat.ne_of_gt ((Nat.pos_of_ne_zero hzero).trans_le hle))).mpr ((Nat.log2_self_le hzero).trans hle)
    omega

/-- A power of two above the quotient is above the rounded one. -/
theorem nearest_le_pow (hb : 0 < b) (h : a ≤ b * 2 ^ k) : nearest a b ≤ 2 ^ k := by
  have hexponent : exponent a b ≤ k := by
    rcases Nat.eq_zero_or_pos (exponent a b) with hzero | hpos
    · rw [hzero]
      exact Nat.zero_le k
    · have hle := Nat.le_of_mul_le_mul_left ((pow_le_of_exponent hb hpos).trans h) hb
      have hpow := (Nat.pow_le_pow_iff_right (by decide)).mp hle
      omega
  have hsplit : 2 ^ k = 2 ^ exponent a b * 2 ^ (k - exponent a b) := by
    rw [← Nat.pow_add, Nat.add_sub_cancel' hexponent]
  unfold nearest
  rw [hsplit, Nat.mul_comm]
  rw [hsplit, ← Nat.mul_assoc] at h
  exact Nat.mul_le_mul_left _ (roundEven_le (Nat.mul_pos hb (Nat.two_pow_pos _)) h)

/-- A power of two below the quotient is below the rounded one. -/
theorem pow_le_nearest (hb : 0 < b) (h : b * 2 ^ k ≤ a) : 2 ^ k ≤ nearest a b := by
  have hpos : 0 < b * 2 ^ exponent a b := Nat.mul_pos hb (Nat.two_pow_pos _)
  unfold nearest
  rcases Nat.le_total (exponent a b) k with hle | hle
  · have hsplit : 2 ^ k = 2 ^ exponent a b * 2 ^ (k - exponent a b) := by
      rw [← Nat.pow_add, Nat.add_sub_cancel' hle]
    rw [hsplit, Nat.mul_comm]
    rw [hsplit, ← Nat.mul_assoc] at h
    exact Nat.mul_le_mul_right _ (le_roundEven hpos h)
  · have hone : 1 ≤ roundEven a (b * 2 ^ exponent a b) := by
      apply le_roundEven hpos
      rw [Nat.mul_one]
      rcases Nat.eq_zero_or_pos (exponent a b) with hzero | hsome
      · rw [hzero] at hle ⊢
        rwa [Nat.le_zero.mp hle] at h
      · have hdigits := pow_le_of_exponent hb hsome
        exact (Nat.mul_le_mul_left b (Nat.pow_le_pow_right (by decide) (Nat.le_add_right _ _))).trans hdigits
    calc 2 ^ k ≤ 2 ^ exponent a b := Nat.pow_le_pow_right (by decide) hle
      _ ≤ roundEven a (b * 2 ^ exponent a b) * 2 ^ exponent a b := Nat.le_mul_of_pos_left _ hone

/-- Rounding to 53 digits is monotone. -/
theorem nearest_mono (hb : 0 < b) (h : a ≤ a') : nearest a b ≤ nearest a' b := by
  rcases Nat.lt_or_eq_of_le (exponent_mono h : exponent a b ≤ exponent a' b) with hlt | heq
  · -- a power of two lies between the quotients
    have hupper : b * 2 ^ (exponent a' b + 52) ≤ a' := pow_le_of_exponent hb (by omega)
    have hlower : a ≤ b * 2 ^ (exponent a' b + 52) := by
      by_contra hmore
      have hnot : ¬ a < b * 2 ^ (exponent a b + 53) := by
        have hpow : 2 ^ (exponent a b + 53) ≤ 2 ^ (exponent a' b + 52) :=
          Nat.pow_le_pow_right (by decide) (by omega)
        have hscaled := Nat.mul_le_mul_left b hpow
        omega
      have hdigits : 2 ^ (exponent a b + 53) ≤ a / b :=
        (Nat.le_div_iff_mul_le hb).mpr (by rw [Nat.mul_comm]; omega)
      have hne : a / b ≠ 0 := by
        have hpos := Nat.two_pow_pos (exponent a b + 53)
        omega
      have hlog := (Nat.le_log2 hne).mpr hdigits
      unfold exponent at hlog
      omega
    exact (nearest_le_pow hb hlower).trans (pow_le_nearest hb hupper)
  · unfold nearest
    rw [heq]
    exact Nat.mul_le_mul_right _ (roundEven_mono (Nat.mul_pos hb (Nat.two_pow_pos _)) h)

/-- Below a power of two, rounding is off by at most half of the last digit. -/
theorem nearest_error (hb : 0 < b) (h : a < b * 2 ^ (m + 53)) :
    2 * (b * nearest a b) ≤ 2 * a + b * 2 ^ m ∧ 2 * a ≤ 2 * (b * nearest a b) + b * 2 ^ m := by
  obtain ⟨hover, hunder⟩ := roundEven_error (Nat.mul_pos hb (Nat.two_pow_pos (exponent a b))) a
  have hdigit : b * 2 ^ exponent a b ≤ b * 2 ^ m :=
    Nat.mul_le_mul_left b (Nat.pow_le_pow_right (by decide) (exponent_le h))
  have hswap : b * nearest a b = b * 2 ^ exponent a b * roundEven a (b * 2 ^ exponent a b) := by
    rw [nearest, Nat.mul_comm (roundEven a _), Nat.mul_assoc]
  rw [hswap]
  omega

/-- Numerators whose distance is worth more than a last digit are told apart below a power of two. -/
theorem nearest_lt (hb : 0 < b) (hd : b * 2 ^ m < d) (h : a + d ≤ b * 2 ^ (m + 53)) :
    nearest a b < nearest (a + d) b := by
  have hless : a < b * 2 ^ (m + 53) := by
    generalize b * 2 ^ (m + 53) = power at h ⊢
    omega
  have hover := (nearest_error hb hless).1
  suffices hscaled : b * nearest a b < b * nearest (a + d) b from Nat.lt_of_mul_lt_mul_left hscaled
  rcases Nat.lt_or_eq_of_le h with hinside | hend
  · have hunder := (nearest_error hb hinside).2
    generalize b * nearest a b = first at hover ⊢
    generalize b * nearest (a + d) b = second at hunder ⊢
    omega
  · have hpow := Nat.mul_le_mul_left b (pow_le_nearest hb hend.ge)
    rw [← hend] at hpow
    generalize b * nearest a b = first at hover ⊢
    generalize b * nearest (a + d) b = second at hpow ⊢
    omega

/-- And so is the power of two from what lies behind it. -/
theorem nearest_pow_lt (hb : 0 < b) (hd : b * 2 ^ m < d) :
    nearest (b * 2 ^ (m + 53)) b < nearest (b * 2 ^ (m + 53) + d) b := by
  have hfirst := Nat.mul_le_mul_left b (nearest_le_pow hb (Nat.le_refl (b * 2 ^ (m + 53))))
  have hdouble : b * 2 ^ (m + 1) = 2 * (b * 2 ^ m) := by
    rw [Nat.pow_succ, ← Nat.mul_assoc, Nat.mul_comm]
  have hnext : b * 2 ^ (m + 1 + 53) = 2 * (b * 2 ^ (m + 53)) := by
    rw [Nat.add_right_comm, Nat.pow_succ, ← Nat.mul_assoc, Nat.mul_comm]
  suffices hscaled : b * nearest (b * 2 ^ (m + 53)) b < b * nearest (b * 2 ^ (m + 53) + d) b from
    Nat.lt_of_mul_lt_mul_left hscaled
  rcases Nat.lt_or_ge (b * 2 ^ (m + 53) + d) (b * 2 ^ (m + 1 + 53)) with hless | hmore
  · have hunder := (nearest_error hb hless).2
    rw [hdouble] at hunder
    generalize b * nearest (b * 2 ^ (m + 53) + d) b = second at hunder ⊢
    generalize b * nearest (b * 2 ^ (m + 53)) b = first at hfirst ⊢
    generalize b * 2 ^ (m + 53) = power at hfirst hunder
    omega
  · have hpow := Nat.mul_le_mul_left b (pow_le_nearest hb hmore)
    have hpos : 0 < b * 2 ^ (m + 53) := Nat.mul_pos hb (Nat.two_pow_pos _)
    rw [hnext] at hpow
    generalize b * nearest (b * 2 ^ (m + 53) + d) b = second at hpow ⊢
    generalize b * nearest (b * 2 ^ (m + 53)) b = first at hfirst ⊢
    generalize b * 2 ^ (m + 53) = power at hfirst hpow hpos
    omega

/-- Division is monotone in the numerator. -/
theorem trueDivide_mono (hb : 0 < b) (h : a ≤ a') : trueDivide a b ≤ trueDivide a' b :=
  nearest_mono hb (Nat.mul_le_mul_right _ h)

/-- Neighbouring numerators are told apart as long as the quotient has enough digits behind the point. -/
theorem trueDivide_lt_succ (hb : 0 < b) (hm : m ≤ 53) (hdigits : b < 2 ^ m) (h : a ≤ b * 2 ^ (53 - m)) :
    trueDivide a b < trueDivide (a + 1) b := by
  have hplaces : m ≤ places := hm.trans (by decide)
  have hunit : b * 2 ^ (places - m) < 2 ^ places := by
    calc b * 2 ^ (places - m) < 2 ^ m * 2 ^ (places - m) := Nat.mul_lt_mul_of_pos_right hdigits (Nat.two_pow_pos _)
      _ = 2 ^ places := by rw [← Nat.pow_add, Nat.add_sub_cancel' hplaces]
  have hpower : b * 2 ^ (53 - m) * 2 ^ places = b * 2 ^ (places - m + 53) := by
    rw [Nat.mul_assoc, ← Nat.pow_add]
    congr 2
    omega
  have hnext : (a + 1) * 2 ^ places = a * 2 ^ places + 2 ^ places := Nat.succ_mul _ _
  unfold trueDivide
  rw [hnext]
  rcases Nat.lt_or_eq_of_le h with hless | rfl
  · apply nearest_lt hb hunit
    rw [← hnext, ← hpower]
    exact Nat.mul_le_mul_right _ hless
  · rw [hpower]
    exact nearest_pow_lt hb hunit

end Binary64
