import Mathlib.Data.List.Sort
import Mathlib.Tactic.Ring

/-!
# Machine words and standard containers

C and C++ arithmetic on fixed-width integers, written over `Nat` and `Int`
with the wrap made explicit, and the `std::vector` operations whose effect on
short or long vectors is easy to get wrong.

* `wrapU64` and `subU64` are `uint64_t` results: sums and products reduce
  modulo `2 ^ 64`, a difference below zero wraps around.
* `wrapI64` is the two's complement reading of a 64-bit pattern, the value a
  conversion to `int64_t` or a wrapping signed operation produces.
* `resize` is `std::vector::resize`: it truncates, or pads with a default.
* Long division goes one digit at a time: the quotient of `n * base + x` is
  the quotient of `n` shifted a digit, plus the quotient of the remainder
  carried down (`div_mul_add_eq`).
* A `for (i = 0; i < n; ++i)` loop is a fold over `List.range n`; it keeps an
  invariant indexed by the number of turns taken (`foldl_range_invariant`).
-/

namespace Machine

/-- A `uint64_t` result: the value modulo `2 ^ 64`. -/
def wrapU64 (n : Nat) : Nat := n % 2 ^ 64

/-- `uint64_t` subtraction of two 64-bit values. -/
def subU64 (a b : Nat) : Nat := (a + (2 ^ 64 - b % 2 ^ 64)) % 2 ^ 64

/-- The `int64_t` value of a 64-bit two's complement pattern. -/
def wrapI64 (x : Int) : Int := (x + 2 ^ 63) % 2 ^ 64 - 2 ^ 63

@[simp] theorem wrapI64_zero : wrapI64 0 = 0 := by decide

/-- `std::vector::resize`: keep the first `n` elements, or pad with `fill`. -/
def resize {α : Type*} (values : List α) (n : Nat) (fill : α) : List α :=
  (values ++ List.replicate (n - values.length) fill).take n

@[simp] theorem wrapU64_lt (n : Nat) : wrapU64 n < 2 ^ 64 := Nat.mod_lt _ (by norm_num)

theorem wrapU64_of_lt {n : Nat} (bounded : n < 2 ^ 64) : wrapU64 n = n :=
  Nat.mod_eq_of_lt bounded

@[simp] theorem subU64_lt (a b : Nat) : subU64 a b < 2 ^ 64 := Nat.mod_lt _ (by norm_num)

/-- Without underflow the `uint64_t` difference is the natural one. -/
theorem subU64_of_le {a b : Nat} (below : b ≤ a) (bounded : a < 2 ^ 64) :
    subU64 a b = a - b := by
  unfold subU64
  rw [Nat.mod_eq_of_lt (by omega : b < 2 ^ 64)]
  rw [show a + (2 ^ 64 - b) = (a - b) + 2 ^ 64 by omega, Nat.add_mod_right,
    Nat.mod_eq_of_lt (by omega)]

/-- An underflowing `uint64_t` difference lands at or above `2 ^ 64 - b + a`. -/
theorem subU64_of_lt {a b : Nat} (above : a < b) (bounded : b < 2 ^ 64) :
    subU64 a b = a + 2 ^ 64 - b := by
  unfold subU64
  rw [Nat.mod_eq_of_lt bounded, Nat.mod_eq_of_lt (by omega)]
  omega

/-- The `uint64_t` difference is the integer difference reduced modulo `2 ^ 64`. -/
theorem subU64_eq_emod (a b : Nat) : (subU64 a b : ℤ) = ((a : ℤ) - b) % 2 ^ 64 := by
  unfold subU64
  omega

theorem subU64_subU64 (a b c : Nat) : subU64 (subU64 a b) c = subU64 a (b + c) := by
  apply Int.ofNat_inj.1
  rw [subU64_eq_emod, subU64_eq_emod, subU64_eq_emod]
  push_cast
  omega

/-- Subtracting `counted` from a wrapped total lands on the wrapped remainder
`total - removed` exactly when the two amounts agree modulo `2 ^ 64`. -/
theorem subU64_wrapU64_eq_wrapU64_sub_iff {total removed counted : Nat} (hle : removed ≤ total) :
    subU64 (wrapU64 total) counted = wrapU64 (total - removed) ↔
      wrapU64 counted = wrapU64 removed := by
  rw [← Int.ofNat_inj, ← Int.ofNat_inj (m := wrapU64 counted), subU64_eq_emod]
  unfold wrapU64
  push_cast [Nat.cast_sub hle]
  omega

/-- The running `uint64_t` sum of a list of amounts. -/
theorem foldl_wrapU64 (amounts : List Nat) : ∀ start, start < 2 ^ 64 →
    amounts.foldl (fun total amount => wrapU64 (total + amount)) start = wrapU64 (start + amounts.sum) := by
  induction amounts with
  | nil => intro start bounded; simp [wrapU64_of_lt bounded]
  | cons amount rest inductionHypothesis =>
    intro start bounded
    rw [List.foldl_cons, inductionHypothesis _ (wrapU64_lt _), List.sum_cons]
    unfold wrapU64
    rw [Nat.mod_add_mod, Nat.add_assoc]

theorem resize_length {α : Type*} (values : List α) (n : Nat) (fill : α) :
    (resize values n fill).length = n := by
  simp [resize]
  omega

theorem resize_of_le {α : Type*} {values : List α} {n : Nat} (fill : α)
    (short : n ≤ values.length) : resize values n fill = values.take n := by
  simp [resize, List.take_append_of_le_length short]

theorem getD_lt_of_forall_lt {l : List Nat} {bound : Nat} (positive : 0 < bound) (all : ∀ x ∈ l, x < bound)
    (i : Nat) : l.getD i 0 < bound := by
  rw [List.getD_eq_getElem?_getD]
  cases lookup : l[i]? with
  | none => exact positive
  | some x => exact all x (List.mem_of_getElem? lookup)

/-- A loop over `List.range n` keeps an invariant indexed by the turns taken. -/
theorem foldl_range_invariant {α : Type*} (f : α → Nat → α) (P : Nat → α → Prop) {n : Nat} {a : α}
    (start : P 0 a) (step : ∀ i < n, ∀ b, P i b → P (i + 1) (f b i)) :
    P n ((List.range n).foldl f a) := by
  induction n with
  | zero => exact start
  | succ n inductionHypothesis =>
    rw [List.range_succ, List.foldl_append, List.foldl_cons, List.foldl_nil]
    exact step n (Nat.lt_succ_self n) _ (inductionHypothesis fun i bound => step i (Nat.lt_succ_of_lt bound))

/-! ### Long division -/

theorem div_mul_add_eq {d : Nat} (positive : 0 < d) (n base x : Nat) :
    (n * base + x) / d = n / d * base + (n % d * base + x) / d := by
  conv_lhs => rw [← Nat.div_add_mod n d]
  rw [show (d * (n / d) + n % d) * base + x = (n % d * base + x) + d * (n / d * base) by ring,
    Nat.add_mul_div_left _ _ positive, Nat.add_comm]

theorem mod_mul_add_eq (d n base x : Nat) : (n * base + x) % d = (n % d * base + x) % d := by
  conv_lhs => rw [← Nat.div_add_mod n d]
  rw [show (d * (n / d) + n % d) * base + x = (n % d * base + x) + d * (n / d * base) by ring,
    Nat.add_mul_mod_self_left]

/-- A digit of long division is below the base while the remainder stays below the divisor. -/
theorem div_lt_base {d r x base : Nat} (below : r < d) (digit : x < base) : (r * base + x) / d < base := by
  apply Nat.div_lt_of_lt_mul
  calc r * base + x < (r + 1) * base := by rw [Nat.succ_mul]; omega
    _ ≤ d * base := Nat.mul_le_mul_right _ below

end Machine
