import Mathlib.Data.Nat.Digits.Defs
import Mathlib.Data.List.Induction

/-!
# Fixed-width positional notation

`digitsBE base width n` are the `width` low digits of `n` in base `base`,
most significant first, as a codec writes them from the right.
`Nat.ofDigits base ds.reverse` reads such digits back, and a loop that
shifts an accumulator one digit left before adding the next reads the same
value (`foldl_mul_add`).  For numbers below `base ^ width` and digit lists of
length `width` the two directions are inverse (`ofDigits_reverse_digitsBE`,
`digitsBE_ofDigits_reverse`).
-/

namespace Positional

/-- The `width` low digits of `n` in base `base`, most significant first. -/
def digitsBE (base : Nat) : Nat → Nat → List Nat
  | 0, _ => []
  | width + 1, n => digitsBE base width (n / base) ++ [n % base]

variable {base : Nat}

@[simp] theorem length_digitsBE (width n : Nat) : (digitsBE base width n).length = width := by
  induction width generalizing n with
  | zero => rfl
  | succ width inductionHypothesis => simp [digitsBE, inductionHypothesis]

theorem digitsBE_zero (width : Nat) : digitsBE base width 0 = List.replicate width 0 := by
  induction width with
  | zero => rfl
  | succ width inductionHypothesis =>
    rw [digitsBE, Nat.zero_div, Nat.zero_mod, inductionHypothesis, List.replicate_succ']

theorem lt_of_mem_digitsBE (positive : 0 < base) {width n d : Nat} (member : d ∈ digitsBE base width n) :
    d < base := by
  induction width generalizing n with
  | zero => cases member
  | succ width inductionHypothesis =>
    rw [digitsBE, List.mem_append, List.mem_singleton] at member
    rcases member with member | rfl
    · exact inductionHypothesis member
    · exact Nat.mod_lt n positive

/-- Digits written below `base ^ width` read back as the number. -/
theorem ofDigits_reverse_digitsBE {width n : Nat} (fits : n < base ^ width) :
    Nat.ofDigits base (digitsBE base width n).reverse = n := by
  induction width generalizing n with
  | zero =>
    rw [Nat.pow_zero, Nat.lt_one_iff] at fits
    rw [fits]
    rfl
  | succ width inductionHypothesis =>
    have positive : 0 < base := Nat.pos_of_ne_zero fun zero => by simp [zero] at fits
    have quotient : n / base < base ^ width := by
      rw [Nat.div_lt_iff_lt_mul positive, ← Nat.pow_succ]
      exact fits
    rw [digitsBE, List.reverse_append, List.reverse_singleton, List.singleton_append, Nat.ofDigits_cons,
      inductionHypothesis quotient, Nat.mod_add_div]

/-- Digits below the base are the digits of the number they read as. -/
theorem digitsBE_ofDigits_reverse {ds : List Nat} (digits : ∀ d ∈ ds, d < base) :
    digitsBE base ds.length (Nat.ofDigits base ds.reverse) = ds := by
  induction ds using List.reverseRecOn with
  | nil => rfl
  | append_singleton ds d inductionHypothesis =>
    have last : d < base := digits d (by simp)
    have earlier : ∀ e ∈ ds, e < base := fun e member => digits e (by simp [member])
    have positive : 0 < base := Nat.lt_of_le_of_lt (Nat.zero_le d) last
    rw [List.length_append, List.length_singleton, List.reverse_append, List.reverse_singleton,
      List.singleton_append, Nat.ofDigits_cons, digitsBE, Nat.add_mul_div_left _ _ positive,
      Nat.div_eq_of_lt last, Nat.zero_add, Nat.add_mul_mod_self_left, Nat.mod_eq_of_lt last,
      inductionHypothesis earlier]

/-- Shifting an accumulator one digit left before adding each digit reads the
digits most significant first. -/
theorem foldl_mul_add (ds : List Nat) (acc : Nat) :
    ds.foldl (fun acc d => acc * base + d) acc = acc * base ^ ds.length + Nat.ofDigits base ds.reverse := by
  induction ds generalizing acc with
  | nil => simp
  | cons d rest inductionHypothesis =>
    rw [List.foldl_cons, inductionHypothesis, List.reverse_cons, Nat.ofDigits_append, List.length_reverse,
      Nat.ofDigits_singleton, List.length_cons, Nat.pow_succ]
    ring

end Positional
