import Mathlib.Data.Nat.Defs
import Mathlib.Tactic.Ring

/-!
# Python's true division of integers, truncated

`_get_protection_gke_from_cache` computes the key indices as `int(x / y)` of two integers.
Python's `x / y` of integers is the double nearest the exact quotient, ties to even, and `int`
truncates it toward zero.  `truncFloatDiv` is that computation on naturals: a double keeps 53
significant bits, so the quotient scaled by `2 ^ divScale b`, which has more than 53 bits before
the point, is rounded at bit `droppedBits a b`.  Quotients from `2 ^ 1024` on, for which Python
raises `OverflowError`, are left out.

The result is the exact quotient `a / b`, or one more when the double rounds up to the next
integer: when `a / b` lies within half a unit in the last place below it
(`truncFloatDiv_eq`).  A quotient of a small enough divisor is never rounded up
(`truncFloatDiv_eq_div_of_lt`); one with a large divisor is, in a window below each integer
(`truncFloatDiv_of_le_of_lt`).

## Main definitions

* `roundHalfEven` — the integer nearest a quotient, the even one at a tie.
* `log2` — the top bit of a natural, computed by halving.
* `divScale`, `droppedBits`, `truncFloatDiv` — `int(a / b)`.
-/

namespace DpapiNg

/-- `round(n / d)`: the integer nearest `n / d`, the even one of two at a tie. -/
def roundHalfEven (n d : ℕ) : ℕ :=
  if d < 2 * (n % d) ∨ (2 * (n % d) = d ∧ n / d % 2 = 1) then n / d + 1 else n / d

/-- `Nat.log2 n` by recursion on a bound `fuel` on the number of halvings, so that a closed
quotient can be evaluated. -/
def log2Fuel : ℕ → ℕ → ℕ
  | 0, _ => 0
  | fuel + 1, n => if n < 2 then 0 else log2Fuel fuel (n / 2) + 1

/-- The position of the top bit of `n`: `Nat.log2 n` (`log2_eq`). -/
def log2 (n : ℕ) : ℕ := log2Fuel n n

/-- The bits below the point at which `truncFloatDiv` first scales the quotient of `b`: enough
for 54 significant bits of any quotient of a positive numerator. -/
def divScale (b : ℕ) : ℕ := log2 b + 54

/-- The bits of the scaled quotient below the 53 that a double keeps. -/
def droppedBits (a b : ℕ) : ℕ := log2 (a * 2 ^ divScale b / b) + 1 - 53

/-- `int(a / b)` for `a ≥ 0` and `b > 0`: the double nearest `a / b` is
`m * 2 ^ droppedBits a b / 2 ^ divScale b`, with `m` the scaled quotient rounded to its top 53 bits,
and `int` truncates it. -/
def truncFloatDiv (a b : ℕ) : ℕ :=
  roundHalfEven (a * 2 ^ divScale b) (b * 2 ^ droppedBits a b) * 2 ^ droppedBits a b /
    2 ^ divScale b

theorem roundHalfEven_mul_right (n d : ℕ) {c : ℕ} (hc : 0 < c) :
    roundHalfEven (n * c) (d * c) = roundHalfEven n d := by
  have h₁ : d * c < 2 * (n % d * c) ↔ d < 2 * (n % d) := by
    rw [← Nat.mul_assoc]; exact Nat.mul_lt_mul_right hc
  have h₂ : 2 * (n % d * c) = d * c ↔ 2 * (n % d) = d := by
    rw [← Nat.mul_assoc]; exact Nat.mul_left_inj (by omega)
  simp only [roundHalfEven, Nat.mul_div_mul_right _ _ hc, Nat.mul_mod_mul_right, h₁, h₂]

/-- Rounding `a * P / b` to an integer, for an even `P`, and dividing by `P` gives the
quotient, or one more when `a / b` is within `1 / (2 * P)` below the next integer, a tie
included. -/
theorem roundHalfEven_mul_div (a b P : ℕ) (hb : 0 < b) (hP : 0 < P) (hPe : P % 2 = 0) :
    roundHalfEven (a * P) b / P = a / b + if 2 * P * (b - a % b) ≤ b then 1 else 0 := by
  obtain ⟨Q, r, hr, rfl⟩ : ∃ Q r, r < b ∧ a = r + Q * b :=
    ⟨a / b, a % b, Nat.mod_lt _ hb, (Nat.mod_add_div' a b).symm⟩
  -- the scaled quotient is `Q * P + y`, with `y < P` and the remainder `z` of `r * P`
  have hsplit : (r + Q * b) * P = r * P + Q * P * b := by ring
  have hq : (r + Q * b) / b = Q := by rw [Nat.add_mul_div_right _ _ hb, Nat.div_eq_of_lt hr, zero_add]
  have hm : (r + Q * b) % b = r := by rw [Nat.add_mul_mod_self_right, Nat.mod_eq_of_lt hr]
  have hq' : (r + Q * b) * P / b = r * P / b + Q * P := by rw [hsplit, Nat.add_mul_div_right _ _ hb]
  have hm' : (r + Q * b) * P % b = r * P % b := by rw [hsplit, Nat.add_mul_mod_self_right]
  have hyz := Nat.mod_add_div' (r * P) b
  have hy : r * P / b < P :=
    (Nat.div_lt_iff_lt_mul hb).2 (by rw [Nat.mul_comm P]; exact Nat.mul_lt_mul_of_pos_right hr hP)
  have hz := Nat.mod_lt (r * P) hb
  have hQP : Q * P % 2 = 0 := by simp [Nat.mul_mod, hPe]
  have hcarry : 2 * P * (b - r) = 2 * (P * b) - 2 * (r * P) := by
    rw [Nat.mul_sub]; ring_nf
  -- dividing by `P` keeps `Q`, and one more only when the rounding reached `P`
  have hdiv : ∀ x, x ≤ P → (x + Q * P) / P = Q + if x = P then 1 else 0 := by
    intro x hx
    rw [Nat.add_mul_div_right _ _ hP, Nat.add_comm]
    rcases Nat.lt_or_eq_of_le hx with hx | rfl
    · rw [Nat.div_eq_of_lt hx, if_neg (Nat.ne_of_lt hx)]
    · rw [Nat.div_self hP, if_pos rfl]
  rw [roundHalfEven, hq', hm', hq, hm, hcarry]
  generalize r * P / b = y at *
  generalize r * P % b = z at *
  rw [show ∀ c : Prop, [Decidable c] → (if c then y + Q * P + 1 else y + Q * P) =
      (if c then y + 1 else y) + Q * P from fun c _ => by split_ifs <;> omega,
    hdiv _ (by split_ifs <;> omega)]
  -- it reaches `P` only from `y = P - 1`, an odd quotient, rounded up
  congr 1
  rcases (show y + 1 = P ∨ y + 2 ≤ P by omega) with hy1 | hy2
  · have hyb : y * b + b = P * b := by rw [← hy1, Nat.succ_mul]
    split_ifs <;> omega
  · have hyb : y * b + 2 * b ≤ P * b := by
      calc y * b + 2 * b = (y + 2) * b := by ring
        _ ≤ P * b := Nat.mul_le_mul_right b hy2
    split_ifs <;> omega

/-! ### The exponent of the quotient -/

theorem log2Fuel_eq {fuel n : ℕ} (h : n ≤ fuel + 1) : log2Fuel fuel n = n.log2 := by
  induction fuel generalizing n with
  | zero => rw [log2Fuel, Nat.log2, if_neg (by omega)]
  | succ fuel ih =>
    rw [log2Fuel, Nat.log2]
    by_cases hn : n < 2
    · rw [if_pos hn, if_neg (by omega)]
    · rw [if_neg hn, if_pos (by omega), ih (by omega)]

@[simp] theorem log2_eq (n : ℕ) : log2 n = n.log2 := log2Fuel_eq (Nat.le_succ n)

theorem log2_eq_of_le_of_lt {n m : ℕ} (h₁ : 2 ^ m ≤ n) (h₂ : n < 2 ^ (m + 1)) : n.log2 = m := by
  have hn : n ≠ 0 := Nat.ne_of_gt (Nat.lt_of_lt_of_le (Nat.two_pow_pos m) h₁)
  exact Nat.le_antisymm (Nat.lt_succ_iff.1 ((Nat.log2_lt hn).2 h₂)) ((Nat.le_log2 hn).2 h₁)

theorem log2_lt_of_lt {n m : ℕ} (hm : 0 < m) (h : n < 2 ^ m) : n.log2 < m := by
  rcases Nat.eq_zero_or_pos n with rfl | hn
  · rwa [Nat.log2_zero]
  · exact (Nat.log2_lt (Nat.ne_of_gt hn)).2 h

theorem le_divScale (b : ℕ) : 54 ≤ divScale b := Nat.le_add_left _ _

theorem scaled_lt {a b c : ℕ} (hb : 0 < b) (h : a < 2 ^ c * b) :
    a * 2 ^ divScale b / b < 2 ^ (divScale b + c) := by
  rw [Nat.div_lt_iff_lt_mul hb, Nat.pow_add, Nat.mul_assoc, Nat.mul_comm a]
  exact Nat.mul_lt_mul_of_pos_left h (Nat.two_pow_pos _)

theorem droppedBits_le {a b c : ℕ} (hb : 0 < b) (h : a < 2 ^ c * b) :
    droppedBits a b + 53 ≤ divScale b + c := by
  have := log2_lt_of_lt (by have := le_divScale b; omega) (scaled_lt hb h)
  have := le_divScale b
  rw [droppedBits, log2_eq]
  omega

theorem droppedBits_eq {a b c : ℕ} (hb : 0 < b) (h₁ : 2 ^ c * b ≤ a) (h₂ : a < 2 ^ (c + 1) * b) :
    droppedBits a b + 53 = divScale b + c + 1 := by
  have hlo : 2 ^ (divScale b + c) ≤ a * 2 ^ divScale b / b := by
    rw [Nat.le_div_iff_mul_le hb, Nat.pow_add, Nat.mul_assoc, Nat.mul_comm a]
    exact Nat.mul_le_mul_left _ h₁
  have := log2_eq_of_le_of_lt hlo (scaled_lt hb h₂)
  have := le_divScale b
  rw [droppedBits, log2_eq]
  omega

/-! ### What `int(a / b)` returns -/

/-- **`int(a / b)` is the quotient, or one more.**  When the double keeps bits below the point,
`int(a / b)` is `a / b`, plus one when `a / b` lies within half a unit in the last place below
the next integer. -/
theorem truncFloatDiv_eq {a b : ℕ} (hb : 0 < b) (h : droppedBits a b < divScale b) :
    truncFloatDiv a b = a / b +
      if 2 ^ (divScale b - droppedBits a b + 1) * (b - a % b) ≤ b then 1 else 0 := by
  have hs : 2 ^ divScale b = 2 ^ (divScale b - droppedBits a b) * 2 ^ droppedBits a b := by
    rw [← Nat.pow_add]; congr 1; omega
  rw [truncFloatDiv, hs, ← Nat.mul_assoc, roundHalfEven_mul_right _ _ (Nat.two_pow_pos _),
    Nat.mul_div_mul_right _ _ (Nat.two_pow_pos _),
    roundHalfEven_mul_div _ _ _ hb (Nat.two_pow_pos _) (Nat.two_pow_mod_two_eq_zero.2 (by omega)),
    Nat.pow_succ, Nat.mul_comm _ 2]

theorem truncFloatDiv_eq_div {a b : ℕ} (hb : 0 < b) (h : droppedBits a b < divScale b)
    (hulp : b < 2 ^ (divScale b - droppedBits a b + 1)) : truncFloatDiv a b = a / b := by
  have := Nat.le_mul_of_pos_right (2 ^ (divScale b - droppedBits a b + 1))
    (show 0 < b - a % b by have := Nat.mod_lt a hb; omega)
  rw [truncFloatDiv_eq hb h, if_neg (by omega), Nat.add_zero]

/-- A quotient below `2 ^ c` of a divisor below `2 ^ (53 - c)` is exact: the unit in the last
place is too small for any remainder to reach the next integer. -/
theorem truncFloatDiv_eq_div_of_lt {a b c : ℕ} (hb : 0 < b) (h : a < 2 ^ c * b)
    (hc : b < 2 ^ (53 - c)) : truncFloatDiv a b = a / b := by
  have hd := droppedBits_le hb h
  have hc' : c ≤ 52 := by
    by_contra hn
    rw [show 53 - c = 0 by omega] at hc
    omega
  exact truncFloatDiv_eq_div hb (by omega)
    (Nat.lt_of_lt_of_le hc (Nat.pow_le_pow_right (by decide) (by omega)))

/-- A quotient between `2 ^ c` and `2 ^ (c + 1)` is rounded up to the next integer when its
remainder is within `b / 2 ^ (53 - c)` of the divisor. -/
theorem truncFloatDiv_of_le_of_lt {a b c : ℕ} (hb : 0 < b) (h₁ : 2 ^ c * b ≤ a)
    (h₂ : a < 2 ^ (c + 1) * b) (hc : c ≤ 51) :
    truncFloatDiv a b = a / b + if 2 ^ (53 - c) * (b - a % b) ≤ b then 1 else 0 := by
  have hd := droppedBits_eq hb h₁ h₂
  rw [truncFloatDiv_eq hb (by omega), show divScale b - droppedBits a b + 1 = 53 - c by omega]

end DpapiNg
