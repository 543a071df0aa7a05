import ElectroneumClassic.Basic.Types
import ElectroneumClassic.Lib.Limbs
import Mathlib.Data.Int.Bitwise
import Mathlib.Data.Nat.Digits.Defs
import Mathlib.Tactic.IntervalCases

/-!
# Scalars modulo the group order

`crypto-ops.c` keeps a scalar in 32 bytes, little-endian; here a `Key` is the
number they encode.  `sc_check` tells whether a scalar is below the group
order `l` by comparing its eight 32-bit words with those of `l - 1` through a
weighted sum of signs.  `sc_add` and `sc_sub` cut both operands into twelve
21-bit limbs, add or subtract them limb by limb, and reduce the thirteen
limbs so obtained modulo `l` with the same rounded and floored carries and
two folds of the top limb.  The limbs are `int64_t` and stay far from
`2 ^ 63`, so they are integers here.

For every 32-byte `s`, `sc_check s` is `0` exactly when `s < l`
(`sc_check_exact`); for 32-byte operands `sc_add` and `sc_sub` give the
canonical `(a + b) mod l` and `(a - b) mod l` (`scAdd_eq`, `scSub_eq`), so
that `ecdhDecode` undoes `ecdhEncode`.
-/

namespace ElectroneumClassic.Crypto

open Limbs

/-- The group order `l`. -/
def groupOrder : Nat := 2 ^ 252 + 27742317777372353535851937790883648493

/-- `load_3`: three bytes from `offset`, little-endian. -/
def load3 (s offset : Nat) : Nat := s / 2 ^ (8 * offset) % 2 ^ 24

/-- `load_4`: four bytes from `offset`, little-endian. -/
def load4 (s offset : Nat) : Nat := s / 2 ^ (8 * offset) % 2 ^ 32

/-- Shifts of `int64_t` by a constant. -/
theorem shiftLeft_ofNat (x : Int) (n : Nat) : x <<< (no_index (OfNat.ofNat n : Int)) = x * 2 ^ n := by
  rw [show (OfNat.ofNat n : Int) = ((n : Nat) : Int) from rfl, Int.shiftLeft_eq_mul_pow]
  push_cast
  rfl

theorem shiftRight_ofNat (x : Int) (n : Nat) : x >>> (no_index (OfNat.ofNat n : Int)) = x / 2 ^ n := by
  rw [show (OfNat.ofNat n : Int) = ((n : Nat) : Int) from rfl, Int.shiftRight_natCast_right,
    Int.shiftRight_eq_div_pow]
  push_cast
  rfl

/-! ## `sc_check` -/

def signum (a : Int) : Int := if a > 0 then 1 else if a < 0 then -1 else 0

def scCheck (s : Key) : Int :=
  let s0 : Int := load4 s 0
  let s1 : Int := load4 s 4
  let s2 : Int := load4 s 8
  let s3 : Int := load4 s 12
  let s4 : Int := load4 s 16
  let s5 : Int := load4 s 20
  let s6 : Int := load4 s 24
  let s7 : Int := load4 s 28
  (signum (1559614444 - s0) + (signum (1477600026 - s1) <<< 1) + (signum (2734136534 - s2) <<< 2) +
    (signum (350157278 - s3) <<< 3) + (signum (-s4) <<< 4) + (signum (-s5) <<< 5) + (signum (-s6) <<< 6) +
    (signum (268435456 - s7) <<< 7)) >>> 8

theorem signum_eq_sign (a : Int) : signum a = Int.sign a := by
  rcases lt_trichotomy a 0 with negative | zero | positive
  · simp [signum, negative, Int.sign_eq_neg_one_of_neg negative, not_lt_of_gt negative]
  · simp [signum, zero]
  · simp [signum, positive, Int.sign_eq_one_of_pos positive]

/-- The eight 32-bit words of `l - 1`, least significant first. -/
def orderWords : Nat → Int
  | 0 => 1559614444
  | 1 => 1477600026
  | 2 => 2734136534
  | 3 => 350157278
  | 7 => 268435456
  | _ => 0

theorem value_orderWords : value (2 ^ 32) 8 orderWords = groupOrder - 1 := by
  simp [value_succ, orderWords, groupOrder]

theorem orderWords_digits : ∀ j < 8, 0 ≤ orderWords j ∧ orderWords j < 2 ^ 32 := by
  decide

theorem load4_lt (s offset : Nat) : load4 s offset < 2 ^ 32 := Nat.mod_lt _ (Nat.two_pow_pos 32)

theorem load4_eq_digit (s : Key) (j : Nat) :
    (load4 s (4 * j) : Int) = (s : Int) / (2 ^ 32) ^ j % 2 ^ 32 := by
  rw [load4, ← Nat.mul_assoc, Nat.pow_mul]
  push_cast
  rfl

/-- The words `sc_check` reads are the digits of `s` in radix `2 ^ 32`. -/
theorem value_words {s : Key} (bytes : s < 2 ^ 256) :
    value (2 ^ 32) 8 (fun j => (load4 s (4 * j) : Int)) = s := by
  have above : (s : Int) / (2 ^ 32) ^ 8 = 0 := Int.ediv_eq_zero_of_lt (by omega) (by norm_num; omega)
  have digits := value_digits (r := 2 ^ 32) (by norm_num) s 8
  rw [above, Int.zero_mul, Int.add_zero] at digits
  simp only [load4_eq_digit]
  exact digits

theorem scCheck_eq_signs (s : Key) :
    scCheck s = signs (fun j => (load4 s (4 * j) : Int)) orderWords 8 / 2 ^ 8 := by
  rw [scCheck]
  simp only [shiftLeft_ofNat, shiftRight_ofNat, signum_eq_sign, signs, orderWords]
  ring_nf

/-- `sc_check` accepts exactly the scalars below `l`. -/
theorem sc_check_exact (s : Key) (bytes : s < 2 ^ 256) :
    scCheck s = if s < groupOrder then 0 else -1 := by
  have compared := sign_signs (r := 2 ^ 32) (by norm_num)
    (fun j _ => ⟨Int.natCast_nonneg _, by exact_mod_cast load4_lt s (4 * j)⟩)
    orderWords_digits
  rw [value_words bytes, value_orderWords] at compared
  obtain ⟨low, high⟩ := signs_bounds (fun j => (load4 s (4 * j) : Int)) orderWords 8
  rw [scCheck_eq_signs]
  split_ifs with below
  · have nonnegative : 0 ≤ signs (fun j => (load4 s (4 * j) : Int)) orderWords 8 := by
      have fits : (s : Int) + 1 ≤ groupOrder := by exact_mod_cast below
      rw [← Int.sign_nonneg_iff, compared, Int.sign_nonneg_iff]
      omega
    omega
  · have negative : signs (fun j => (load4 s (4 * j) : Int)) orderWords 8 < 0 := by
      have above : (groupOrder : Int) ≤ s := by exact_mod_cast Nat.le_of_not_lt below
      rw [← Int.sign_eq_neg_one_iff_neg, compared, Int.sign_eq_neg_one_iff_neg]
      omega
    omega

theorem sc_check_exact_at_order : groupOrder < 2 ^ 256 ∧ scCheck groupOrder = -1 :=
  ⟨by decide, by rw [sc_check_exact groupOrder (by decide), if_neg (Nat.lt_irrefl _)]⟩

/-! ## `sc_add` and `sc_sub` -/

/-- The limbs `a0` to `a11` of a scalar: eleven of 21 bits and the top 25 bits. -/
def unpack (a : Key) : Nat → Int
  | 0 => (2097151 &&& load3 a 0 : Nat)
  | 1 => (2097151 &&& (load4 a 2 >>> 5) : Nat)
  | 2 => (2097151 &&& (load3 a 5 >>> 2) : Nat)
  | 3 => (2097151 &&& (load4 a 7 >>> 7) : Nat)
  | 4 => (2097151 &&& (load4 a 10 >>> 4) : Nat)
  | 5 => (2097151 &&& (load3 a 13 >>> 1) : Nat)
  | 6 => (2097151 &&& (load4 a 15 >>> 6) : Nat)
  | 7 => (2097151 &&& (load3 a 18 >>> 3) : Nat)
  | 8 => (2097151 &&& load3 a 21 : Nat)
  | 9 => (2097151 &&& (load4 a 23 >>> 5) : Nat)
  | 10 => (2097151 &&& (load3 a 26 >>> 2) : Nat)
  | 11 => (load4 a 28 >>> 7 : Nat)
  | _ => 0

/-- `carry = (s + (1 << 20)) >> 21`, rounded to the nearest. -/
def roundedCarry (x : Int) : Int := (x + (1 <<< 20)) >>> 21

/-- `carry = s >> 21`, floored. -/
def flooredCarry (x : Int) : Int := x >>> 21

/-- `carry_i = carryOf s_i; s_{i+1} += carry_i; s_i -= carry_i << 21;` -/
def carry (carryOf : Int → Int) (i : Nat) (s : Nat → Int) : Nat → Int :=
  Function.update (Function.update s (i + 1) (s (i + 1) + carryOf (s i))) i (s i - (carryOf (s i) <<< 21))

/-- `s0 += s12 * 666643; s1 += s12 * 470296; s2 += s12 * 654183; s3 -= s12 * 997805;
s4 += s12 * 136657; s5 -= s12 * 683901;` -/
def reduceTop (s : Nat → Int) : Nat → Int
  | 0 => s 0 + s 12 * 666643
  | 1 => s 1 + s 12 * 470296
  | 2 => s 2 + s 12 * 654183
  | 3 => s 3 - s 12 * 997805
  | 4 => s 4 + s 12 * 136657
  | 5 => s 5 - s 12 * 683901
  | j => s j

/-- What `sc_add` and `sc_sub` do once `s0` to `s12` are set: rounded carries
out of the even limbs and then the odd ones, `s12` folded down and cleared,
floored carries out of `s0` to `s11`, `s12` folded down again, and floored
carries out of `s0` to `s10`. -/
def reduceLimbs (s : Nat → Int) : Nat → Int :=
  let s := [0, 2, 4, 6, 8, 10].foldl (fun s i => carry roundedCarry i s) s
  let s := [1, 3, 5, 7, 9, 11].foldl (fun s i => carry roundedCarry i s) s
  let s := Function.update (reduceTop s) 12 0
  let s := (List.range 12).foldl (fun s i => carry flooredCarry i s) s
  let s := reduceTop s
  (List.range 11).foldl (fun s i => carry flooredCarry i s) s

/-- `s[0] = s0 >> 0;` to `s[31] = s11 >> 17;`, each byte the low eight bits of an `int64_t`. -/
def packBytes (s : Nat → Int) : Key :=
  Nat.ofDigits 256 (List.map (fun b : Int => (b % 256).toNat)
    [s 0 >>> 0, s 0 >>> 8, Int.lor (s 0 >>> 16) (s 1 <<< 5), s 1 >>> 3, s 1 >>> 11,
      Int.lor (s 1 >>> 19) (s 2 <<< 2), s 2 >>> 6, Int.lor (s 2 >>> 14) (s 3 <<< 7), s 3 >>> 1, s 3 >>> 9,
      Int.lor (s 3 >>> 17) (s 4 <<< 4), s 4 >>> 4, s 4 >>> 12, Int.lor (s 4 >>> 20) (s 5 <<< 1), s 5 >>> 7,
      Int.lor (s 5 >>> 15) (s 6 <<< 6), s 6 >>> 2, s 6 >>> 10, Int.lor (s 6 >>> 18) (s 7 <<< 3), s 7 >>> 5,
      s 7 >>> 13, s 8 >>> 0, s 8 >>> 8, Int.lor (s 8 >>> 16) (s 9 <<< 5), s 9 >>> 3, s 9 >>> 11,
      Int.lor (s 9 >>> 19) (s 10 <<< 2), s 10 >>> 6, Int.lor (s 10 >>> 14) (s 11 <<< 7), s 11 >>> 1,
      s 11 >>> 9, s 11 >>> 17])

def scAdd (a b : Key) : Key :=
  packBytes (reduceLimbs (Function.update (fun j => unpack a j + unpack b j) 12 0))

def scSub (a b : Key) : Key :=
  packBytes (reduceLimbs (Function.update (fun j => unpack a j - unpack b j) 12 0))

/-! ### The carries as moves of limbs -/

theorem roundedCarry_eq (x : Int) : roundedCarry x = (x + 2 ^ 20) / 2 ^ 21 := by
  rw [roundedCarry, shiftRight_ofNat, Nat.one_shiftLeft]
  push_cast
  rfl

theorem flooredCarry_eq : flooredCarry = (· / 2 ^ 21) := funext fun x => shiftRight_ofNat x 21

theorem foldl_carry (carryOf : Int → Int) (positions : List Nat) (s : Nat → Int) :
    positions.foldl (fun s i => carry carryOf i s) s = pass (2 ^ 21) carryOf positions s := by
  have moves : ∀ i s, carry carryOf i s = move (2 ^ 21) carryOf i s := fun i s => by
    rw [carry, shiftLeft_ofNat]
    rfl
  simp only [moves]
  rfl

theorem reduceLimbs_eq (s : Nat → Int) :
    reduceLimbs s =
      pass (2 ^ 21) (· / 2 ^ 21) (List.range 11) (reduceTop (pass (2 ^ 21) (· / 2 ^ 21) (List.range 12)
        (Function.update (reduceTop (pass (2 ^ 21) roundedCarry [1, 3, 5, 7, 9, 11]
          (pass (2 ^ 21) roundedCarry [0, 2, 4, 6, 8, 10] s))) 12 0))) := by
  simp only [reduceLimbs, foldl_carry, flooredCarry_eq]

theorem roundedCarry_remainder (x : Int) :
    -2 ^ 20 ≤ x - roundedCarry x * 2 ^ 21 ∧ x - roundedCarry x * 2 ^ 21 < 2 ^ 20 := by
  rw [roundedCarry_eq]
  omega

theorem roundedCarry_small {x : Int} (small : -2 ^ 27 < x ∧ x < 2 ^ 27) :
    -2 ^ 6 ≤ roundedCarry x ∧ roundedCarry x ≤ 2 ^ 6 := by
  rw [roundedCarry_eq]
  omega

/-- Folding `s12` down takes `s12 * l` off the value of `s0` to `s11`. -/
theorem value_reduceTop (s : Nat → Int) :
    value (2 ^ 21) 12 (reduceTop s) = value (2 ^ 21) 12 s - s 12 * (groupOrder - 2 ^ 252) := by
  simp only [value_succ, value_zero, reduceTop, groupOrder]
  push_cast
  ring

/-! ### Unpacking -/

theorem mask21 (x : Nat) : 2097151 &&& x = x % 2 ^ 21 := by
  rw [Nat.and_comm]
  exact Nat.and_two_pow_sub_one_eq_mod x 21

/-- Below the top limb, `unpack` gives the digits of a scalar in radix `2 ^ 21`. -/
theorem unpack_of_lt (a : Nat) {j : Nat} (low : j < 11) :
    unpack a j = (a : Int) / (2 ^ 21) ^ j % 2 ^ 21 := by
  interval_cases j <;> norm_num [unpack, load3, load4, mask21, Nat.shiftRight_eq_div_pow] <;> omega

theorem unpack_top {a : Nat} (bytes : a < 2 ^ 256) : unpack a 11 = (a : Int) / (2 ^ 21) ^ 11 := by
  norm_num [unpack, load4, Nat.shiftRight_eq_div_pow]
  omega

theorem value_unpack {a : Nat} (bytes : a < 2 ^ 256) : value (2 ^ 21) 12 (unpack a) = a := by
  rw [value_succ, unpack_top bytes, value_congr fun j low => unpack_of_lt a low]
  exact value_digits (by norm_num) (a : Int) 11

theorem unpack_bounds {a : Nat} (bytes : a < 2 ^ 256) {j : Nat} (inside : j < 12) :
    0 ≤ unpack a j ∧ unpack a j < 2 ^ 25 := by
  rcases Nat.lt_or_ge j 11 with low | top
  · rw [unpack_of_lt a low]
    have below := Int.emod_lt_of_pos ((a : Int) / (2 ^ 21) ^ j) (b := 2 ^ 21) (by norm_num)
    exact ⟨Int.emod_nonneg _ (by norm_num), by omega⟩
  · obtain rfl : j = 11 := by omega
    rw [unpack_top bytes]
    norm_num
    omega

/-! ### The rounded carries -/

theorem evens_spread :
    [0, 2, 4, 6, 8, 10].Nodup ∧ ∀ i ∈ [0, 2, 4, 6, 8, 10], i + 1 ∉ [0, 2, 4, 6, 8, 10] := by
  decide

theorem odds_spread :
    [1, 3, 5, 7, 9, 11].Nodup ∧ ∀ i ∈ [1, 3, 5, 7, 9, 11], i + 1 ∉ [1, 3, 5, 7, 9, 11] := by
  decide

section Rounded

variable {s : Nat → Int} (small : ∀ j < 12, -2 ^ 26 < s j ∧ s j < 2 ^ 26) (top : s 12 = 0)
include small top

/-- After the even carries every limb up to `s12` is within `2 ^ 27`, and `s12` is still zero. -/
theorem evenCarries_bounds :
    (∀ k < 13, -2 ^ 27 < pass (2 ^ 21) roundedCarry [0, 2, 4, 6, 8, 10] s k ∧
      pass (2 ^ 21) roundedCarry [0, 2, 4, 6, 8, 10] s k < 2 ^ 27) ∧
    pass (2 ^ 21) roundedCarry [0, 2, 4, 6, 8, 10] s 12 = 0 := by
  obtain ⟨distinct, spread⟩ := evens_spread
  constructor
  · intro k inside
    have own : -2 ^ 26 < s k ∧ s k < 2 ^ 26 := by
      rcases Nat.lt_or_ge k 12 with low | last
      · exact small k low
      · obtain rfl : k = 12 := by omega
        rw [top]
        norm_num
    by_cases member : k ∈ [0, 2, 4, 6, 8, 10]
    · rw [pass_of_mem_spread distinct spread s member]
      have := roundedCarry_remainder (s k)
      omega
    · rw [pass_of_not_mem_spread distinct spread s member]
      split_ifs with previous
      · have := roundedCarry_small (x := s (k - 1)) ⟨by linarith [(small (k - 1) (by omega)).1], by linarith [(small (k - 1) (by omega)).2]⟩
        omega
      · omega
  · rw [pass_of_not_mem_spread distinct spread s (by decide), if_neg (by decide), top, Int.add_zero]

/-- After the odd carries the limbs below `s11` are within `2 ^ 21`, `s11` is a
rounded remainder and `s12` holds at most `2 ^ 6`. -/
theorem roundedCarries_bounds :
    let t := pass (2 ^ 21) roundedCarry [1, 3, 5, 7, 9, 11] (pass (2 ^ 21) roundedCarry [0, 2, 4, 6, 8, 10] s)
    (∀ j < 11, -2 ^ 21 < t j ∧ t j < 2 ^ 21) ∧ (-2 ^ 20 ≤ t 11 ∧ t 11 < 2 ^ 20) ∧ (-2 ^ 6 ≤ t 12 ∧ t 12 ≤ 2 ^ 6) := by
  intro t
  obtain ⟨evenSmall, evenTop⟩ := evenCarries_bounds small top
  obtain ⟨evenDistinct, evenSpread⟩ := evens_spread
  obtain ⟨distinct, spread⟩ := odds_spread
  refine ⟨fun j low => ?_, ?_, ?_⟩
  · by_cases member : j ∈ [1, 3, 5, 7, 9, 11]
    · have := roundedCarry_remainder (pass (2 ^ 21) roundedCarry [0, 2, 4, 6, 8, 10] s j)
      rw [show t j = _ from pass_of_mem_spread distinct spread _ member]
      omega
    · -- an even limb: a remainder of the even carries, plus the carry of the odd limb below
      have evenMember : j ∈ [0, 2, 4, 6, 8, 10] := by
        simp only [List.mem_cons, List.not_mem_nil, or_false] at member ⊢
        omega
      have remainder := roundedCarry_remainder (s j)
      rw [← pass_of_mem_spread evenDistinct evenSpread s evenMember] at remainder
      rw [show t j = _ from pass_of_not_mem_spread distinct spread _ member]
      split_ifs with previous
      · have := roundedCarry_small (evenSmall (j - 1) (by omega))
        omega
      · omega
  · rw [show t 11 = _ from pass_of_mem_spread distinct spread _ (by decide)]
    exact roundedCarry_remainder _
  · rw [show t 12 = _ from pass_of_not_mem_spread distinct spread _ (by decide), if_pos (by decide), evenTop,
      Int.zero_add]
    exact roundedCarry_small (evenSmall 11 (by norm_num))

end Rounded

/-! ### Packing -/

theorem lowByte_shiftRight (x k : Nat) :
    (((x : Int) >>> (no_index (OfNat.ofNat k : Int))) % 256).toNat = x / 2 ^ k % 256 := by
  have cast : ((x : Int) / 2 ^ k) % 256 = ((x / 2 ^ k % 256 : Nat) : Int) := by
    push_cast
    rfl
  rw [shiftRight_ofNat, cast, Int.toNat_natCast]

/-- A byte made of the top bits of one limb and the low bits of the next: the two parts do not
overlap, so their `|` is their sum. -/
theorem lowByte_lor (x y k m : Nat) (fits : x < 2 ^ (k + m)) :
    ((Int.lor ((x : Int) >>> (no_index (OfNat.ofNat k : Int))) ((y : Int) <<< (no_index (OfNat.ofNat m : Int))))
      % 256).toNat = (x / 2 ^ k + y * 2 ^ m) % 256 := by
  have low : x / 2 ^ k < 2 ^ m := Nat.div_lt_of_lt_mul (by rwa [← Nat.pow_add])
  have disjoint : x / 2 ^ k ||| y * 2 ^ m = x / 2 ^ k + y * 2 ^ m := by
    rw [Nat.lor_comm, Nat.mul_comm, ← Nat.two_pow_add_eq_or_of_lt low, Nat.add_comm]
  have cast : Int.lor ((x : Int) / 2 ^ k) ((y : Int) * 2 ^ m) = ((x / 2 ^ k ||| y * 2 ^ m : Nat) : Int) := by
    rw [show (x : Int) / 2 ^ k = ((x / 2 ^ k : Nat) : Int) by push_cast; rfl,
      show (y : Int) * 2 ^ m = ((y * 2 ^ m : Nat) : Int) by push_cast; rfl]
    rfl
  rw [shiftRight_ofNat, shiftLeft_ofNat, cast, disjoint]
  omega

/-- The bytes `packBytes` writes for limbs that are naturals. -/
def limbBytes (n : Nat → Nat) : List Nat :=
  [n 0 / 2 ^ 0 % 256, n 0 / 2 ^ 8 % 256, (n 0 / 2 ^ 16 + n 1 * 2 ^ 5) % 256, n 1 / 2 ^ 3 % 256,
    n 1 / 2 ^ 11 % 256, (n 1 / 2 ^ 19 + n 2 * 2 ^ 2) % 256, n 2 / 2 ^ 6 % 256, (n 2 / 2 ^ 14 + n 3 * 2 ^ 7) % 256,
    n 3 / 2 ^ 1 % 256, n 3 / 2 ^ 9 % 256, (n 3 / 2 ^ 17 + n 4 * 2 ^ 4) % 256, n 4 / 2 ^ 4 % 256,
    n 4 / 2 ^ 12 % 256, (n 4 / 2 ^ 20 + n 5 * 2 ^ 1) % 256, n 5 / 2 ^ 7 % 256, (n 5 / 2 ^ 15 + n 6 * 2 ^ 6) % 256,
    n 6 / 2 ^ 2 % 256, n 6 / 2 ^ 10 % 256, (n 6 / 2 ^ 18 + n 7 * 2 ^ 3) % 256, n 7 / 2 ^ 5 % 256,
    n 7 / 2 ^ 13 % 256, n 8 / 2 ^ 0 % 256, n 8 / 2 ^ 8 % 256, (n 8 / 2 ^ 16 + n 9 * 2 ^ 5) % 256,
    n 9 / 2 ^ 3 % 256, n 9 / 2 ^ 11 % 256, (n 9 / 2 ^ 19 + n 10 * 2 ^ 2) % 256, n 10 / 2 ^ 6 % 256,
    (n 10 / 2 ^ 14 + n 11 * 2 ^ 7) % 256, n 11 / 2 ^ 1 % 256, n 11 / 2 ^ 9 % 256, n 11 / 2 ^ 17 % 256]

theorem packBytes_natCast (n : Nat → Nat) (digits : ∀ j < 11, n j < 2 ^ 21) :
    packBytes (fun j => (n j : Int)) = Nat.ofDigits 256 (limbBytes n) := by
  have d0 := digits 0 (by norm_num)
  have d1 := digits 1 (by norm_num)
  have d2 := digits 2 (by norm_num)
  have d3 := digits 3 (by norm_num)
  have d4 := digits 4 (by norm_num)
  have d5 := digits 5 (by norm_num)
  have d6 := digits 6 (by norm_num)
  have d8 := digits 8 (by norm_num)
  have d9 := digits 9 (by norm_num)
  have d10 := digits 10 (by norm_num)
  unfold packBytes limbBytes
  simp (disch := omega) only [List.map_cons, List.map_nil, lowByte_shiftRight, lowByte_lor]

/-- The first ten bytes: `s0` to `s2` and the low 17 bits of `s3`. -/
theorem ofDigits_low_bytes (n0 n1 n2 n3 : Nat) (rest : List Nat) (d0 : n0 < 2 ^ 21) (d1 : n1 < 2 ^ 21)
    (d2 : n2 < 2 ^ 21) :
    Nat.ofDigits 256 (n0 / 2 ^ 0 % 256 :: n0 / 2 ^ 8 % 256 :: (n0 / 2 ^ 16 + n1 * 2 ^ 5) % 256 ::
      n1 / 2 ^ 3 % 256 :: n1 / 2 ^ 11 % 256 :: (n1 / 2 ^ 19 + n2 * 2 ^ 2) % 256 :: n2 / 2 ^ 6 % 256 ::
      (n2 / 2 ^ 14 + n3 * 2 ^ 7) % 256 :: n3 / 2 ^ 1 % 256 :: n3 / 2 ^ 9 % 256 :: rest) =
      n0 + n1 * 2 ^ 21 + n2 * 2 ^ 42 + n3 % 2 ^ 17 * 2 ^ 63 + 2 ^ 80 * Nat.ofDigits 256 rest := by
  simp only [Nat.ofDigits_cons]
  omega

/-- The next eleven bytes: the top 4 bits of `s3` and `s4` to `s7`. -/
theorem ofDigits_middle_bytes (n3 n4 n5 n6 n7 : Nat) (rest : List Nat) (d3 : n3 < 2 ^ 21) (d4 : n4 < 2 ^ 21)
    (d5 : n5 < 2 ^ 21) (d6 : n6 < 2 ^ 21) (d7 : n7 < 2 ^ 21) :
    Nat.ofDigits 256 ((n3 / 2 ^ 17 + n4 * 2 ^ 4) % 256 :: n4 / 2 ^ 4 % 256 :: n4 / 2 ^ 12 % 256 ::
      (n4 / 2 ^ 20 + n5 * 2 ^ 1) % 256 :: n5 / 2 ^ 7 % 256 :: (n5 / 2 ^ 15 + n6 * 2 ^ 6) % 256 ::
      n6 / 2 ^ 2 % 256 :: n6 / 2 ^ 10 % 256 :: (n6 / 2 ^ 18 + n7 * 2 ^ 3) % 256 :: n7 / 2 ^ 5 % 256 ::
      n7 / 2 ^ 13 % 256 :: rest) =
      n3 / 2 ^ 17 + n4 * 2 ^ 4 + n5 * 2 ^ 25 + n6 * 2 ^ 46 + n7 * 2 ^ 67 + 2 ^ 88 * Nat.ofDigits 256 rest := by
  simp only [Nat.ofDigits_cons]
  omega

/-- The last eleven bytes: `s8` to `s11`, of which `s11` has 25 bits. -/
theorem ofDigits_high_bytes (n8 n9 n10 n11 : Nat) (d8 : n8 < 2 ^ 21) (d9 : n9 < 2 ^ 21) (d10 : n10 < 2 ^ 21)
    (d11 : n11 < 2 ^ 25) :
    Nat.ofDigits 256 [n8 / 2 ^ 0 % 256, n8 / 2 ^ 8 % 256, (n8 / 2 ^ 16 + n9 * 2 ^ 5) % 256, n9 / 2 ^ 3 % 256,
      n9 / 2 ^ 11 % 256, (n9 / 2 ^ 19 + n10 * 2 ^ 2) % 256, n10 / 2 ^ 6 % 256,
      (n10 / 2 ^ 14 + n11 * 2 ^ 7) % 256, n11 / 2 ^ 1 % 256, n11 / 2 ^ 9 % 256, n11 / 2 ^ 17 % 256] =
      n8 + n9 * 2 ^ 21 + n10 * 2 ^ 42 + n11 * 2 ^ 63 := by
  simp only [Nat.ofDigits_cons, Nat.ofDigits_nil]
  omega

theorem ofDigits_limbBytes (n : Nat → Nat) (digits : ∀ j < 11, n j < 2 ^ 21) (top : n 11 < 2 ^ 25) :
    ((Nat.ofDigits 256 (limbBytes n) : Nat) : Int) = value (2 ^ 21) 12 (fun j => (n j : Int)) := by
  rw [limbBytes, ofDigits_low_bytes _ _ _ _ _ (digits 0 (by norm_num)) (digits 1 (by norm_num))
      (digits 2 (by norm_num)),
    ofDigits_middle_bytes _ _ _ _ _ _ (digits 3 (by norm_num)) (digits 4 (by norm_num))
      (digits 5 (by norm_num)) (digits 6 (by norm_num)) (digits 7 (by norm_num)),
    ofDigits_high_bytes _ _ _ _ (digits 8 (by norm_num)) (digits 9 (by norm_num)) (digits 10 (by norm_num)) top]
  simp only [value_succ, value_zero]
  push_cast
  omega

/-- `packBytes` reads `s0` to `s11` only. -/
theorem packBytes_congr {s t : Nat → Int} (agree : ∀ j < 12, s j = t j) : packBytes s = packBytes t := by
  unfold packBytes
  rw [agree 0 (by norm_num), agree 1 (by norm_num), agree 2 (by norm_num), agree 3 (by norm_num),
    agree 4 (by norm_num), agree 5 (by norm_num), agree 6 (by norm_num), agree 7 (by norm_num),
    agree 8 (by norm_num), agree 9 (by norm_num), agree 10 (by norm_num), agree 11 (by norm_num)]

/-- Limbs that are digits in radix `2 ^ 21` below `s11`, with `s11` below `2 ^ 25`, pack
into the bytes of the number they denote. -/
theorem packBytes_of_digits {s : Nat → Int} (digits : ∀ j < 11, 0 ≤ s j ∧ s j < 2 ^ 21)
    (top : 0 ≤ s 11 ∧ s 11 < 2 ^ 25) : (packBytes s : Int) = value (2 ^ 21) 12 s := by
  have nonnegative : ∀ j < 12, 0 ≤ s j := fun j inside => by
    rcases Nat.lt_or_ge j 11 with low | last
    · exact (digits j low).1
    · obtain rfl : j = 11 := by omega
      exact top.1
  have cast : ∀ j < 12, s j = ((s j).toNat : Int) := fun j inside =>
    (Int.toNat_of_nonneg (nonnegative j inside)).symm
  rw [packBytes_congr cast, packBytes_natCast _ fun j low => by have := digits j low; omega,
    ofDigits_limbBytes _ (fun j low => by have := digits j low; omega) (by omega), value_congr cast]

/-! ### The reduction -/

/-- Folding `s12` down and clearing it takes `s12 * l` off the value. -/
theorem value_clearTop (s : Nat → Int) :
    value (2 ^ 21) 13 (Function.update (reduceTop s) 12 0) =
      value (2 ^ 21) 12 s - s 12 * (groupOrder - 2 ^ 252) := by
  rw [value_succ, Function.update_self, Int.zero_mul, Int.add_zero,
    value_congr fun j low => Function.update_of_ne (by omega) _ _, value_reduceTop]

/-- The first fold leaves the value within `2 ^ 252`: the rounded carries left every
limb below `s12` small and `s12` at most `2 ^ 6`. -/
theorem value_clearTop_bounds {t : Nat → Int} (lowLimbs : ∀ j < 11, -2 ^ 21 < t j ∧ t j < 2 ^ 21)
    (limb11 : -2 ^ 20 ≤ t 11 ∧ t 11 < 2 ^ 20) (limb12 : -2 ^ 6 ≤ t 12 ∧ t 12 ≤ 2 ^ 6) :
    -2 ^ 252 ≤ value (2 ^ 21) 13 (Function.update (reduceTop t) 12 0) ∧
      value (2 ^ 21) 13 (Function.update (reduceTop t) 12 0) < 2 ^ 252 := by
  have lower := value_signed_bounds (r := 2 ^ 21) (by norm_num) (n := 11) lowLimbs
  have spread := value_succ (r := 2 ^ 21) 11 t
  rw [value_clearTop, spread]
  norm_num [groupOrder] at lower ⊢
  omega

/-- The shared reduction of `sc_add` and `sc_sub` leaves the canonical residue modulo `l`
of thirteen limbs within `2 ^ 26` whose `s12` is zero. -/
theorem packBytes_reduceLimbs {s : Nat → Int} (small : ∀ j < 12, -2 ^ 26 < s j ∧ s j < 2 ^ 26)
    (top : s 12 = 0) : (packBytes (reduceLimbs s) : Int) = value (2 ^ 21) 13 s % groupOrder := by
  obtain ⟨lowLimbs, limb11, limb12⟩ := roundedCarries_bounds small top
  have rounded : value (2 ^ 21) 13 (pass (2 ^ 21) roundedCarry [1, 3, 5, 7, 9, 11]
      (pass (2 ^ 21) roundedCarry [0, 2, 4, 6, 8, 10] s)) = value (2 ^ 21) 13 s := by
    rw [value_pass (by decide), value_pass (by decide)]
  rw [reduceLimbs_eq, ← rounded]
  generalize pass (2 ^ 21) roundedCarry [1, 3, 5, 7, 9, 11] (pass (2 ^ 21) roundedCarry [0, 2, 4, 6, 8, 10] s) = t
    at lowLimbs limb11 limb12 ⊢
  -- the first fold: `W` is the value less `s12 * l`, within `2 ^ 252`
  have folded := value_clearTop_bounds lowLimbs limb11 limb12
  have foldedValue := value_clearTop t
  generalize Function.update (reduceTop t) 12 0 = u at folded foldedValue ⊢
  -- the floored carries along `s0` to `s11` leave `W / 2 ^ 252`, that is `0` or `-1`, in `s12`
  have chained := value_floorPass (r := 2 ^ 21) (by norm_num) u (k := 12) (n := 13) (by norm_num)
  have quotient := floorPass_top (r := 2 ^ 21) (by norm_num) u 12
  have chainedTop := value_succ (r := 2 ^ 21) 12 (pass (2 ^ 21) (· / 2 ^ 21) (List.range 12) u)
  have refolded := value_reduceTop (pass (2 ^ 21) (· / 2 ^ 21) (List.range 12) u)
  generalize pass (2 ^ 21) (· / 2 ^ 21) (List.range 12) u = v at chained quotient chainedTop refolded ⊢
  -- the second fold adds `l` back when `W` was negative, which leaves `X` in `[0, l)`
  have canonical : 0 ≤ value (2 ^ 21) 12 (reduceTop v) ∧ value (2 ^ 21) 12 (reduceTop v) < groupOrder := by
    norm_num [groupOrder] at chained quotient chainedTop refolded folded ⊢
    omega
  -- the floored carries along `s0` to `s10` leave digits, and `X / 2 ^ 231` in `s11`
  have digits := fun j (low : j < 11) =>
    floorPass_digit (r := 2 ^ 21) (by norm_num) (reduceTop v) low
  have last := floorPass_top (r := 2 ^ 21) (by norm_num) (reduceTop v) 11
  have packed := value_floorPass (r := 2 ^ 21) (by norm_num) (reduceTop v) (k := 11) (n := 12) (by norm_num)
  generalize pass (2 ^ 21) (· / 2 ^ 21) (List.range 11) (reduceTop v) = w at digits last packed ⊢
  have topLimb : 0 ≤ w 11 ∧ w 11 < 2 ^ 25 := by
    norm_num [groupOrder] at last canonical
    omega
  rw [packBytes_of_digits digits topLimb, packed]
  -- `X` is the value less a multiple of `l`
  have multiple : value (2 ^ 21) 13 t =
      value (2 ^ 21) 12 (reduceTop v) + groupOrder * (t 12 + v 12) := by
    have spread := value_succ (r := 2 ^ 21) 12 t
    norm_num [groupOrder] at spread chainedTop refolded foldedValue chained ⊢
    omega
  rw [multiple, Int.add_mul_emod_self_left, Int.emod_eq_of_lt canonical.1 canonical.2]

/-! ### `sc_add` and `sc_sub` -/

theorem value_combined (a b : Nat) (op : Int → Int → Int) :
    value (2 ^ 21) 13 (Function.update (fun j => op (unpack a j) (unpack b j)) 12 0) =
      value (2 ^ 21) 12 (fun j => op (unpack a j) (unpack b j)) := by
  rw [value_succ, Function.update_self, Int.zero_mul, Int.add_zero]
  exact value_congr fun j low => Function.update_of_ne (by omega) _ _

section Combined

variable {a b : Nat} (aBytes : a < 2 ^ 256) (bBytes : b < 2 ^ 256)
include aBytes bBytes

/-- The limbs `sc_add` and `sc_sub` reduce, `s_j = a_j ± b_j` below `s12 = 0`, are within `2 ^ 26`. -/
theorem combined_small {op : Int → Int → Int}
    (opSmall : ∀ x y : Int, 0 ≤ x → x < 2 ^ 25 → 0 ≤ y → y < 2 ^ 25 → -2 ^ 26 < op x y ∧ op x y < 2 ^ 26)
    {j : Nat} (low : j < 12) :
    -2 ^ 26 < Function.update (fun j => op (unpack a j) (unpack b j)) 12 0 j ∧
      Function.update (fun j => op (unpack a j) (unpack b j)) 12 0 j < 2 ^ 26 := by
  obtain ⟨aLow, aHigh⟩ := unpack_bounds aBytes low
  obtain ⟨bLow, bHigh⟩ := unpack_bounds bBytes low
  rw [Function.update_of_ne (by omega)]
  exact opSmall _ _ aLow aHigh bLow bHigh

/-- `sc_add` of two 32-byte scalars is the canonical `(a + b) mod l`. -/
theorem scAdd_eq : scAdd a b = (a + b) % groupOrder := by
  have reduced := packBytes_reduceLimbs (s := Function.update (fun j => unpack a j + unpack b j) 12 0)
    (fun j low => combined_small aBytes bBytes (fun x y _ xHigh _ yHigh => by omega) low) (Function.update_self 12 0 _)
  rw [value_combined, value_add, value_unpack aBytes, value_unpack bBytes] at reduced
  unfold scAdd
  exact_mod_cast reduced

/-- `sc_sub` of two 32-byte scalars is the canonical `(a - b) mod l`. -/
theorem scSub_eq : (scSub a b : Int) = ((a : Int) - b) % groupOrder := by
  have reduced := packBytes_reduceLimbs (s := Function.update (fun j => unpack a j - unpack b j) 12 0)
    (fun j low => combined_small aBytes bBytes (fun x y _ xHigh _ yHigh => by omega) low) (Function.update_self 12 0 _)
  rw [value_combined, value_sub, value_unpack aBytes, value_unpack bBytes] at reduced
  exact reduced

end Combined

example : scAdd (groupOrder - 1) 2 = 1 := by decide +kernel

example : scSub 1 2 = groupOrder - 1 := by decide +kernel

/-- Subtracting what was added gives back a scalar below `l`. -/
theorem scSub_scAdd {a k : Nat} (reduced : a < groupOrder) (secret : k < groupOrder) : scSub (scAdd a k) k = a := by
  have order : groupOrder < 2 ^ 256 := by decide
  rw [scAdd_eq (by omega) (by omega)]
  have difference := scSub_eq (a := (a + k) % groupOrder) (lt_trans (Nat.mod_lt _ (by omega)) order)
    (show k < 2 ^ 256 by omega)
  rw [Int.natCast_emod, Int.sub_emod, Int.emod_emod, ← Int.sub_emod] at difference
  push_cast at difference
  rw [add_sub_cancel_right, Int.emod_eq_of_lt (by omega) (by exact_mod_cast reduced)] at difference
  exact_mod_cast difference

end ElectroneumClassic.Crypto

namespace ElectroneumClassic.Cryptonote.Rct

open Crypto

section Ecdh

variable (hashToScalar : Key → Key)

/-- `ecdhEncode`: the mask and the amount each added to a scalar drawn from the shared secret,
`hash_to_scalar` a parameter. -/
def ecdhEncode (unmasked : EcdhTuple) (sharedSec : Key) : EcdhTuple :=
  let sharedSec1 := hashToScalar sharedSec
  let sharedSec2 := hashToScalar sharedSec1
  { unmasked with mask := scAdd unmasked.mask sharedSec1, amount := scAdd unmasked.amount sharedSec2 }

def ecdhDecode (masked : EcdhTuple) (sharedSec : Key) : EcdhTuple :=
  let sharedSec1 := hashToScalar sharedSec
  let sharedSec2 := hashToScalar sharedSec1
  { masked with mask := scSub masked.mask sharedSec1, amount := scSub masked.amount sharedSec2 }

/-- Scalar addition and subtraction are exact modulo `l`, and decoding undoes encoding for
any `hash_to_scalar` into `[0, l)`. -/
theorem sc_add_sub_ecdh :
    (∀ a b : Key, a < groupOrder → b < groupOrder →
      scAdd a b = (a + b) % groupOrder ∧ (scSub a b : Int) = ((a : Int) - b) % groupOrder) ∧
    ∀ hashToScalar : Key → Key, (∀ k, hashToScalar k < groupOrder) →
      ∀ (t : EcdhTuple) (k : Key), t.mask < groupOrder → t.amount < groupOrder →
        ecdhDecode hashToScalar (ecdhEncode hashToScalar t k) k = t := by
  have order : groupOrder < 2 ^ 256 := by decide
  constructor
  · intro a b reducedA reducedB
    exact ⟨scAdd_eq (lt_trans reducedA order) (lt_trans reducedB order),
      scSub_eq (lt_trans reducedA order) (lt_trans reducedB order)⟩
  · intro hashToScalar scalar t k mask amount
    simp only [ecdhDecode, ecdhEncode, scSub_scAdd mask (scalar _), scSub_scAdd amount (scalar _)]

end Ecdh

theorem sc_add_sub_ecdh_small :
    (scAdd 1 2 = (1 + 2) % groupOrder ∧ (scSub 1 2 : Int) = ((1 : Int) - 2) % groupOrder) ∧
      ecdhDecode (fun _ => 5) (ecdhEncode (fun _ => 5) ⟨7, 9⟩ 0) 0 = ⟨7, 9⟩ :=
  ⟨sc_add_sub_ecdh.1 1 2 (by decide) (by decide),
    sc_add_sub_ecdh.2 (fun _ => 5) (fun _ => by decide) ⟨7, 9⟩ 0 (by decide) (by decide)⟩

end ElectroneumClassic.Cryptonote.Rct
