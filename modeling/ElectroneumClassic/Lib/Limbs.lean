import Mathlib.Tactic.Linarith
import Mathlib.Tactic.LinearCombination
import ElectroneumClassic.Lib.Machine

/-!
# Numbers in signed limbs

Limbs `s 0, s 1, …` of radix `r`, each a signed integer, denote
`value r n s = ∑ i < n, s i * r ^ i`.  Limb arithmetic keeps the limbs small
by moving carries: `move r carryOf i` takes `carryOf (s i)` units out of limb
`i` and adds them to limb `i + 1`, which leaves the value as it is
(`value_move`), and a `pass` moves carries at a list of positions in turn.

* A pass at positions none of which follows another acts on all of them at
  once, each limb read before the pass (`pass_apply_of_spread`).
* A pass of floored carries along `0, 1, …, k - 1` leaves digits in `[0, r)`
  below `k` (`floorPass_digit`), so the limb at `k` is the value divided by
  `r ^ k` (`floorPass_top`).
* Numbers in digits compare as `∑ i < n, sign (y i - x i) * 2 ^ i` does with
  zero: the most significant differing digit outweighs all digits below it
  (`sign_signs`).
-/

namespace Limbs

/-- The number the first `n` limbs of `s` denote in radix `r`. -/
def value (r : Int) : Nat → (Nat → Int) → Int
  | 0, _ => 0
  | n + 1, s => value r n s + s n * r ^ n

variable {r : Int}

@[simp] theorem value_zero (s : Nat → Int) : value r 0 s = 0 := rfl

theorem value_succ (n : Nat) (s : Nat → Int) : value r (n + 1) s = value r n s + s n * r ^ n := rfl

theorem value_congr {n : Nat} {s t : Nat → Int} (agree : ∀ j < n, s j = t j) :
    value r n s = value r n t := by
  induction n with
  | zero => rfl
  | succ n inductionHypothesis =>
    rw [value_succ, value_succ, inductionHypothesis fun j below => agree j (by omega), agree n (by omega)]

theorem value_add (n : Nat) (s t : Nat → Int) :
    value r n (fun j => s j + t j) = value r n s + value r n t := by
  induction n with
  | zero => rfl
  | succ n inductionHypothesis =>
    rw [value_succ, value_succ, value_succ, inductionHypothesis]
    ring

theorem value_sub (n : Nat) (s t : Nat → Int) :
    value r n (fun j => s j - t j) = value r n s - value r n t := by
  induction n with
  | zero => rfl
  | succ n inductionHypothesis =>
    rw [value_succ, value_succ, value_succ, inductionHypothesis]
    ring

/-- Digits in `[0, r)` denote a number in `[0, r ^ n)`. -/
theorem value_digits_bounds {n : Nat} {s : Nat → Int} (digits : ∀ j < n, 0 ≤ s j ∧ s j < r) :
    0 ≤ value r n s ∧ value r n s < r ^ n := by
  induction n with
  | zero => simp
  | succ n inductionHypothesis =>
    obtain ⟨low, high⟩ := inductionHypothesis fun j below => digits j (by omega)
    obtain ⟨digitLow, digitHigh⟩ := digits n (by omega)
    have power : 0 < r ^ n := pow_pos (by omega) n
    have top : s n * r ^ n ≤ (r - 1) * r ^ n := Int.mul_le_mul_of_nonneg_right (by omega) power.le
    rw [value_succ, pow_succ]
    constructor
    · have : 0 ≤ s n * r ^ n := Int.mul_nonneg digitLow power.le
      omega
    · linarith

/-- Limbs in `(-r, r)` denote a number in `(-r ^ n, r ^ n)`. -/
theorem value_signed_bounds (positive : 0 < r) {n : Nat} {s : Nat → Int}
    (small : ∀ j < n, -r < s j ∧ s j < r) : -r ^ n < value r n s ∧ value r n s < r ^ n := by
  induction n with
  | zero => simp
  | succ n inductionHypothesis =>
    obtain ⟨low, high⟩ := inductionHypothesis fun j below => small j (by omega)
    obtain ⟨limbLow, limbHigh⟩ := small n (by omega)
    have power : 0 < r ^ n := pow_pos positive n
    have above : -(r - 1) * r ^ n ≤ s n * r ^ n := Int.mul_le_mul_of_nonneg_right (by omega) power.le
    have below : s n * r ^ n ≤ (r - 1) * r ^ n := Int.mul_le_mul_of_nonneg_right (by omega) power.le
    rw [value_succ, pow_succ]
    constructor <;> linarith

/-- The digits of `a` read back: the low `n` digits and the part above them. -/
theorem value_digits (positive : 0 < r) (a : Int) (n : Nat) :
    value r n (fun j => a / r ^ j % r) + a / r ^ n * r ^ n = a := by
  induction n with
  | zero => simp
  | succ n inductionHypothesis =>
    have split := Int.mul_ediv_add_emod (a / r ^ n) r
    rw [value_succ, pow_succ, ← Int.ediv_ediv_of_nonneg (pow_pos positive n).le]
    linear_combination inductionHypothesis + r ^ n * split

/-! ### Moving carries -/

/-- Carry `carryOf (s i)` out of limb `i` into limb `i + 1`. -/
def move (r : Int) (carryOf : Int → Int) (i : Nat) (s : Nat → Int) : Nat → Int :=
  Function.update (Function.update s (i + 1) (s (i + 1) + carryOf (s i))) i (s i - carryOf (s i) * r)

/-- Carries at each of `positions` in turn. -/
def pass (r : Int) (carryOf : Int → Int) (positions : List Nat) (s : Nat → Int) : Nat → Int :=
  positions.foldl (fun s i => move r carryOf i s) s

variable {carryOf : Int → Int}

theorem move_apply (i j : Nat) (s : Nat → Int) :
    move r carryOf i s j =
      if j = i then s i - carryOf (s i) * r else if j = i + 1 then s (i + 1) + carryOf (s i) else s j := by
  simp only [move, Function.update_apply]

theorem move_of_ne {i j : Nat} (s : Nat → Int) (notLow : j ≠ i) (notHigh : j ≠ i + 1) :
    move r carryOf i s j = s j := by
  rw [move_apply, if_neg notLow, if_neg notHigh]

theorem value_move {i n : Nat} (s : Nat → Int) (inside : i + 1 < n) :
    value r n (move r carryOf i s) = value r n s := by
  induction n with
  | zero => omega
  | succ n inductionHypothesis =>
    rw [value_succ, value_succ]
    rcases Nat.lt_or_ge (i + 1) n with below | atTop
    · rw [inductionHypothesis below, move_of_ne s (by omega) (by omega)]
    · obtain rfl : n = i + 1 := by omega
      have lower : value r i (move r carryOf i s) = value r i s :=
        value_congr fun j below => move_of_ne s (by omega) (by omega)
      rw [value_succ, value_succ, lower, move_apply, move_apply, if_pos rfl, if_neg (by omega), if_pos rfl,
        pow_succ]
      ring

@[simp] theorem pass_nil (s : Nat → Int) : pass r carryOf [] s = s := rfl

theorem pass_cons (i : Nat) (positions : List Nat) (s : Nat → Int) :
    pass r carryOf (i :: positions) s = pass r carryOf positions (move r carryOf i s) := rfl

theorem value_pass {positions : List Nat} {n : Nat} (inside : ∀ i ∈ positions, i + 1 < n) (s : Nat → Int) :
    value r n (pass r carryOf positions s) = value r n s := by
  induction positions generalizing s with
  | nil => rfl
  | cons i positions inductionHypothesis =>
    rw [pass_cons, inductionHypothesis (fun i' member => inside i' (List.mem_cons_of_mem i member)),
      value_move s (inside i List.mem_cons_self)]

/-- What a pass at `positions` carries out of limb `i`, the limb read before the pass. -/
def outflow (carryOf : Int → Int) (positions : List Nat) (s : Nat → Int) (i : Nat) : Int :=
  if i ∈ positions then carryOf (s i) else 0

/-- At positions none of which follows another, each carry reads a limb no
earlier carry has touched, so the pass acts on all positions at once. -/
theorem pass_apply_of_spread {positions : List Nat} (distinct : positions.Nodup)
    (spread : ∀ i ∈ positions, i + 1 ∉ positions) (s : Nat → Int) (j : Nat) :
    pass r carryOf positions s j =
      s j - outflow carryOf positions s j * r + if 0 < j then outflow carryOf positions s (j - 1) else 0 := by
  induction positions generalizing s with
  | nil => simp [outflow]
  | cons i positions inductionHypothesis =>
    obtain ⟨notMember, distinct⟩ := List.nodup_cons.mp distinct
    have restSpread : ∀ i' ∈ positions, i' + 1 ∉ positions := fun i' member successor =>
      spread i' (List.mem_cons_of_mem i member) (List.mem_cons_of_mem i successor)
    have noSuccessor : i + 1 ∉ i :: positions := spread i List.mem_cons_self
    -- a limb the rest of the pass reads is neither limb the first carry wrote
    have untouched : ∀ k ∈ positions, move r carryOf i s k = s k := fun k member =>
      move_of_ne s (fun same => notMember (same ▸ member))
        (fun same => noSuccessor (same ▸ List.mem_cons_of_mem i member))
    have restOutflow : ∀ k, outflow carryOf positions (move r carryOf i s) k = outflow carryOf positions s k := by
      intro k
      by_cases member : k ∈ positions
      · simp only [outflow, if_pos member, untouched k member]
      · simp only [outflow, if_neg member]
    rw [pass_cons, inductionHypothesis distinct restSpread, restOutflow, restOutflow, move_apply]
    simp only [outflow]
    by_cases atCarry : j = i
    · subst j
      -- nothing is carried into a carried limb: its predecessor is no position
      have noInflow : 0 < i → i - 1 ∉ i :: positions := fun positive member =>
        spread (i - 1) member (by rw [Nat.sub_add_cancel positive]; exact List.mem_cons_self)
      rw [if_pos rfl, if_neg notMember, if_pos List.mem_cons_self]
      by_cases positive : 0 < i
      · rw [if_pos positive, if_pos positive, if_neg (noInflow positive),
          if_neg fun member => noInflow positive (List.mem_cons_of_mem i member)]
        ring
      · rw [if_neg positive, if_neg positive]
        ring
    · by_cases afterCarry : j = i + 1
      · subst j
        rw [if_neg atCarry, if_pos rfl, if_neg noSuccessor,
          if_neg fun member => noSuccessor (List.mem_cons_of_mem i member), if_pos (Nat.succ_pos i),
          if_pos (Nat.succ_pos i), Nat.add_sub_cancel, if_neg notMember, if_pos List.mem_cons_self]
        ring
      · rw [if_neg atCarry, if_neg afterCarry]
        by_cases positive : 0 < j
        · have notPrevious : j - 1 ≠ i := by omega
          simp only [List.mem_cons, atCarry, notPrevious, false_or, if_pos positive]
        · simp only [List.mem_cons, atCarry, false_or, if_neg positive]

section Spread

variable {positions : List Nat} (distinct : positions.Nodup) (spread : ∀ i ∈ positions, i + 1 ∉ positions)
include distinct spread

/-- A limb carried out of keeps what the carry leaves: nothing is carried into it. -/
theorem pass_of_mem_spread (s : Nat → Int) {j : Nat} (member : j ∈ positions) :
    pass r carryOf positions s j = s j - carryOf (s j) * r := by
  rw [pass_apply_of_spread distinct spread, outflow, if_pos member]
  by_cases positive : 0 < j
  · have noPredecessor : j - 1 ∉ positions := fun previous =>
      spread (j - 1) previous (by rwa [Nat.sub_add_cancel positive])
    rw [if_pos positive, outflow, if_neg noPredecessor, Int.add_zero]
  · rw [if_neg positive, Int.add_zero]

/-- A limb not carried out of gains the carry of the limb below, if that one is carried. -/
theorem pass_of_not_mem_spread (s : Nat → Int) {j : Nat} (notMember : j ∉ positions) :
    pass r carryOf positions s j = s j + if 0 < j ∧ j - 1 ∈ positions then carryOf (s (j - 1)) else 0 := by
  rw [pass_apply_of_spread distinct spread, outflow, if_neg notMember, Int.zero_mul, Int.sub_zero]
  by_cases positive : 0 < j
  · by_cases previous : j - 1 ∈ positions
    · rw [if_pos positive, outflow, if_pos previous, if_pos ⟨positive, previous⟩]
    · rw [if_pos positive, outflow, if_neg previous, if_neg fun both => previous both.2]
  · rw [if_neg positive, if_neg fun both => positive both.1]

end Spread

/-! ### Floored carries -/

theorem floorPass_spec (positive : 0 < r) (s : Nat → Int) (k : Nat) :
    let t := pass r (· / r) (List.range k) s
    (∀ j < k, 0 ≤ t j ∧ t j < r) ∧ (∀ j, k < j → t j = s j) ∧ ∀ n, k < n → value r n t = value r n s := by
  apply Machine.foldl_range_invariant (fun s i => move r (· / r) i s)
    (fun k t => (∀ j < k, 0 ≤ t j ∧ t j < r) ∧ (∀ j, k < j → t j = s j) ∧
      ∀ n, k < n → value r n t = value r n s)
  · exact ⟨fun j below => absurd below (Nat.not_lt_zero j), fun _ _ => rfl, fun _ _ => rfl⟩
  · rintro i - t ⟨digits, above, values⟩
    refine ⟨fun j below => ?_, fun j beyond => ?_, fun n beyond => ?_⟩
    · rcases Nat.lt_or_ge j i with earlier | atCarry
      · rw [move_of_ne t (by omega) (by omega)]
        exact digits j earlier
      · obtain rfl : j = i := by omega
        rw [move_apply, if_pos rfl, Int.mul_comm, ← Int.emod_def]
        exact ⟨Int.emod_nonneg _ (by omega), Int.emod_lt_of_pos _ positive⟩
    · rw [move_of_ne t (by omega) (by omega)]
      exact above j (by omega)
    · rw [value_move t beyond]
      exact values n (by omega)

theorem floorPass_digit (positive : 0 < r) (s : Nat → Int) {k j : Nat} (below : j < k) :
    0 ≤ pass r (· / r) (List.range k) s j ∧ pass r (· / r) (List.range k) s j < r :=
  (floorPass_spec positive s k).1 j below

theorem floorPass_of_lt (positive : 0 < r) (s : Nat → Int) {k j : Nat} (beyond : k < j) :
    pass r (· / r) (List.range k) s j = s j :=
  (floorPass_spec positive s k).2.1 j beyond

theorem value_floorPass (positive : 0 < r) (s : Nat → Int) {k n : Nat} (inside : k < n) :
    value r n (pass r (· / r) (List.range k) s) = value r n s :=
  (floorPass_spec positive s k).2.2 n inside

/-- Once the limbs below `k` are digits, limb `k` holds the value of the first
`k + 1` limbs divided by `r ^ k`. -/
theorem floorPass_top (positive : 0 < r) (s : Nat → Int) (k : Nat) :
    pass r (· / r) (List.range k) s k = value r (k + 1) s / r ^ k := by
  have low := value_digits_bounds (n := k) fun j below => floorPass_digit positive s below
  rw [← value_floorPass positive s (Nat.lt_succ_self k), value_succ,
    Int.add_mul_ediv_right _ _ (pow_pos positive k).ne', Int.ediv_eq_zero_of_lt low.1 low.2, Int.zero_add]

/-! ### Comparing digit strings -/

/-- `∑ i < n, sign (y i - x i) * 2 ^ i`. -/
def signs (x y : Nat → Int) : Nat → Int
  | 0 => 0
  | n + 1 => signs x y n + Int.sign (y n - x n) * 2 ^ n

theorem signs_succ (x y : Nat → Int) (n : Nat) :
    signs x y (n + 1) = signs x y n + Int.sign (y n - x n) * 2 ^ n := rfl

theorem signs_bounds (x y : Nat → Int) (n : Nat) : -2 ^ n < signs x y n ∧ signs x y n < 2 ^ n := by
  induction n with
  | zero => simp [signs]
  | succ n inductionHypothesis =>
    rw [signs_succ, pow_succ]
    rcases lt_trichotomy (y n - x n) 0 with negative | equal | positive
    · rw [Int.sign_eq_neg_one_of_neg negative]
      omega
    · rw [equal, Int.sign_zero]
      omega
    · rw [Int.sign_eq_one_of_pos positive]
      omega

/-- Numbers in digits compare as their `signs` does with zero. -/
theorem sign_signs (positive : 0 < r) {x y : Nat → Int} {n : Nat} (xDigits : ∀ j < n, 0 ≤ x j ∧ x j < r)
    (yDigits : ∀ j < n, 0 ≤ y j ∧ y j < r) :
    Int.sign (signs x y n) = Int.sign (value r n y - value r n x) := by
  induction n with
  | zero => rfl
  | succ n inductionHypothesis =>
    have below := inductionHypothesis (fun j lower => xDigits j (by omega)) fun j lower => yDigits j (by omega)
    obtain ⟨xLow, xHigh⟩ := value_digits_bounds (r := r) fun j lower => xDigits j (Nat.lt_succ_of_lt lower)
    obtain ⟨yLow, yHigh⟩ := value_digits_bounds (r := r) fun j lower => yDigits j (Nat.lt_succ_of_lt lower)
    have lowerSigns := signs_bounds x y n
    have power : 0 < r ^ n := pow_pos positive n
    rw [signs_succ, value_succ, value_succ]
    -- the top digits decide unless they agree, and then the digits below do
    rcases lt_trichotomy (y n - x n) 0 with negative | equal | greater
    · have outweighs : (y n - x n) * r ^ n ≤ -r ^ n := by nlinarith
      rw [Int.sign_eq_neg_one_of_neg negative, Int.sign_eq_neg_one_of_neg (by omega),
        Int.sign_eq_neg_one_of_neg (by linarith)]
    · have same : y n = x n := by omega
      rw [equal, Int.sign_zero, Int.zero_mul, Int.add_zero, below, same]
      ring_nf
    · have outweighs : r ^ n ≤ (y n - x n) * r ^ n := le_mul_of_one_le_left power.le greater
      rw [Int.sign_eq_one_of_pos greater, Int.sign_eq_one_of_pos (by omega),
        Int.sign_eq_one_of_pos (by linarith)]

end Limbs
