import ElectroneumClassic.Basic.Types
import ElectroneumClassic.Lib.Machine
import Mathlib.Data.List.GetD
import Mathlib.Tactic.Zify

/-!
# Block reward

`get_block_reward` of `cryptonote_basic_impl.cpp` with the word arithmetic of
`int-util.h` it calls (`mul128`, `div128_32`), and the median of
`epee::misc_utils` that feeds it the median block weight.

The first blocks after genesis pay a fixed premine: the branch is taken while
the median weight is positive and fewer than `premine` coins exist.  After
that the base reward is the remaining supply shifted right by the emission
speed factor, never below the tail subsidy, and is penalised quadratically
for blocks heavier than the (softened) median.
-/

namespace ElectroneumClassic.Cryptonote

open Config Machine

/-- `hi_dword`. -/
def hiDword (value : Nat) : Nat := value >>> 32

/-- `lo_dword`. -/
def loDword (value : Nat) : Nat := value &&& 0xFFFFFFFF

/-- `mul128` of `int-util.h`: the product of two 64-bit words assembled from
four 32-bit partial products, returned as `(product_lo, product_hi)`. -/
def mul128 (multiplier multiplicand : Nat) : Nat × Nat :=
  let a := hiDword multiplier
  let b := loDword multiplier
  let c := hiDword multiplicand
  let d := loDword multiplicand
  let ac := wrapU64 (a * c)
  let ad := wrapU64 (a * d)
  let bc := wrapU64 (b * c)
  let bd := wrapU64 (b * d)
  let adbc := wrapU64 (ad + bc)
  let adbcCarry := if adbc < ad then 1 else 0
  let productLo := wrapU64 (bd + wrapU64 (adbc <<< 32))
  let productLoCarry := if productLo < bd then 1 else 0
  (productLo, wrapU64 (ac + (adbc >>> 32) + wrapU64 (adbcCarry <<< 32) + productLoCarry))

/-- `div_with_reminder`: one step of long division in base `2 ^ 32`, returning
the quotient and the new remainder. -/
def divWithReminder (dividend divisor remainder : Nat) : Nat × Nat :=
  let dividend := dividend ||| wrapU64 (remainder <<< 32)
  (dividend / divisor, dividend % divisor)

/-- `div128_32`: the 128-bit dividend `(hi, lo)` divided by a 32-bit divisor,
digit by digit; returns `(quotient_hi, quotient_lo)`. -/
def div128_32 (dividendHi dividendLo divisor : Nat) : Nat × Nat :=
  let (q3, r) := divWithReminder (hiDword dividendHi) divisor 0
  let (q2, r) := divWithReminder (loDword dividendHi) divisor r
  let (q1, r) := divWithReminder (hiDword dividendLo) divisor r
  let (q0, _) := divWithReminder (loDword dividendLo) divisor r
  (wrapU64 (q3 <<< 32) ||| q2, wrapU64 (q1 <<< 32) ||| q0)

/-- `get_min_block_weight`: the full reward zone of a hard-fork version. -/
def getMinBlockWeight (version : Nat) : Nat :=
  if version < 2 then CRYPTONOTE_BLOCK_GRANTED_FULL_REWARD_ZONE_V1
  else if version < 5 then CRYPTONOTE_BLOCK_GRANTED_FULL_REWARD_ZONE_V2
  else CRYPTONOTE_BLOCK_GRANTED_FULL_REWARD_ZONE_V5

theorem getMinBlockWeight_pos (version : Nat) : 0 < getMinBlockWeight version := by
  unfold getMinBlockWeight
  split
  · decide
  · split <;> decide

theorem getMinBlockWeight_le (version : Nat) :
    getMinBlockWeight version ≤ CRYPTONOTE_BLOCK_GRANTED_FULL_REWARD_ZONE_V5 := by
  unfold getMinBlockWeight
  split
  · decide
  · split <;> decide

def premine : Nat := 105000000000

/-- `get_block_reward`; `none` where the source returns `false` (a block more
than twice the softened median). -/
def getBlockReward (medianWeight currentBlockWeight alreadyGeneratedCoins version : Nat) :
    Option Nat :=
  let targetMinutes := DIFFICULTY_TARGET / 60
  let emissionSpeedFactor := EMISSION_SPEED_FACTOR_PER_MINUTE - (targetMinutes - 1)
  let fullRewardZone := getMinBlockWeight version
  if medianWeight > 0 ∧ alreadyGeneratedCoins < premine then some premine
  else
    let baseReward := subU64 MONEY_SUPPLY alreadyGeneratedCoins >>> emissionSpeedFactor
    let baseReward := if baseReward < FINAL_SUBSIDY_PER_MINUTE * targetMinutes
      then FINAL_SUBSIDY_PER_MINUTE * targetMinutes else baseReward
    -- make it soft
    let medianWeight := if medianWeight < fullRewardZone then fullRewardZone else medianWeight
    if currentBlockWeight ≤ medianWeight then some baseReward
    else if currentBlockWeight > wrapU64 (2 * medianWeight) then none
    else
      let multiplicand := subU64 (wrapU64 (2 * medianWeight)) currentBlockWeight
      let multiplicand := wrapU64 (multiplicand * currentBlockWeight)
      let (productLo, productHi) := mul128 baseReward multiplicand
      let divisor := medianWeight % 2 ^ 32
      let (rewardHi, rewardLo) := div128_32 productHi productLo divisor
      let (_, rewardLo) := div128_32 rewardHi rewardLo divisor
      some rewardLo

/-! ## Bounds of the reward -/

theorem divWithReminder_fst_lt (dividend divisor remainder : Nat) (bounded : dividend < 2 ^ 64) :
    (divWithReminder dividend divisor remainder).1 < 2 ^ 64 := by
  have combined : dividend ||| wrapU64 (remainder <<< 32) < 2 ^ 64 := Nat.or_lt_two_pow bounded (wrapU64_lt _)
  exact Nat.lt_of_le_of_lt (Nat.div_le_self _ _) combined

theorem div128_32_snd_lt (dividendHi dividendLo divisor : Nat) :
    (div128_32 dividendHi dividendLo divisor).2 < 2 ^ 64 := by
  have low : loDword dividendLo < 2 ^ 64 :=
    Nat.lt_of_le_of_lt Nat.and_le_right (by decide)
  exact Nat.or_lt_two_pow (wrapU64_lt _) (divWithReminder_fst_lt _ _ _ low)

theorem getBlockReward_lt {medianWeight currentBlockWeight alreadyGeneratedCoins version reward : Nat}
    (rewarded : getBlockReward medianWeight currentBlockWeight alreadyGeneratedCoins version = some reward) :
    reward < 2 ^ 64 := by
  unfold getBlockReward at rewarded
  dsimp only at rewarded
  split_ifs at rewarded <;> cases rewarded
  -- the premine and the final subsidy are constants; a shifted supply and the low word of a quotient fit
  all_goals first
    | decide
    | exact Nat.lt_of_le_of_lt (Nat.shiftRight_le _ _) (subU64_lt _ _)
    | exact div128_32_snd_lt _ _ _

theorem getBlockReward_congr_median {medianWeight medianWeight' currentBlockWeight alreadyGeneratedCoins version : Nat}
    (positive : 0 < medianWeight ↔ 0 < medianWeight')
    (softened : (if medianWeight < getMinBlockWeight version then getMinBlockWeight version else medianWeight) =
      if medianWeight' < getMinBlockWeight version then getMinBlockWeight version else medianWeight') :
    getBlockReward medianWeight currentBlockWeight alreadyGeneratedCoins version =
      getBlockReward medianWeight' currentBlockWeight alreadyGeneratedCoins version := by
  unfold getBlockReward
  simp only [gt_iff_lt, positive, softened]

/-! ## Exact arithmetic of the reward -/

theorem hiDword_eq (value : Nat) : hiDword value = value / 2 ^ 32 := Nat.shiftRight_eq_div_pow _ _

theorem loDword_eq (value : Nat) : loDword value = value % 2 ^ 32 :=
  Nat.and_two_pow_sub_one_eq_mod value 32

theorem hiDword_mul_add_loDword (value : Nat) : hiDword value * 2 ^ 32 + loDword value = value := by
  rw [hiDword_eq, loDword_eq, Nat.mul_comm]
  exact Nat.div_add_mod value (2 ^ 32)

/-- `mul128` is the full 128-bit product, as its low and high words. -/
theorem mul128_eq {multiplier multiplicand : Nat} (h1 : multiplier < 2 ^ 64) (h2 : multiplicand < 2 ^ 64) :
    mul128 multiplier multiplicand =
      (multiplier * multiplicand % 2 ^ 64, multiplier * multiplicand / 2 ^ 64) := by
  -- the four 32-bit halves and their products, none of which wraps
  obtain ⟨a, b, ha, hb, rfl⟩ : ∃ a b, a < 2 ^ 32 ∧ b < 2 ^ 32 ∧ multiplier = a * 2 ^ 32 + b :=
    ⟨multiplier / 2 ^ 32, multiplier % 2 ^ 32, by omega, Nat.mod_lt _ (by norm_num), by omega⟩
  obtain ⟨c, d, hc, hd, rfl⟩ : ∃ c d, c < 2 ^ 32 ∧ d < 2 ^ 32 ∧ multiplicand = c * 2 ^ 32 + d :=
    ⟨multiplicand / 2 ^ 32, multiplicand % 2 ^ 32, by omega, Nat.mod_lt _ (by norm_num), by omega⟩
  have halves : ∀ x y : Nat, x < 2 ^ 32 → y < 2 ^ 32 → hiDword (x * 2 ^ 32 + y) = x ∧ loDword (x * 2 ^ 32 + y) = y := by
    intro x y hx hy
    rw [hiDword_eq, loDword_eq]
    omega
  have product : (a * 2 ^ 32 + b) * (c * 2 ^ 32 + d) = a * c * 2 ^ 64 + (a * d + b * c) * 2 ^ 32 + b * d := by ring
  have bound : ∀ x y : Nat, x < 2 ^ 32 → y < 2 ^ 32 → x * y < 2 ^ 64 := fun x y hx hy =>
    calc x * y < 2 ^ 32 * 2 ^ 32 := Nat.mul_lt_mul'' hx hy
      _ = 2 ^ 64 := by norm_num
  have total : a * c * 2 ^ 64 + (a * d + b * c) * 2 ^ 32 + b * d < 2 ^ 128 := by
    rw [← product]
    calc (a * 2 ^ 32 + b) * (c * 2 ^ 32 + d) < 2 ^ 64 * 2 ^ 64 := Nat.mul_lt_mul'' h1 h2
      _ = 2 ^ 128 := by norm_num
  have ac := bound a c ha hc
  have ad := bound a d ha hd
  have bc := bound b c hb hc
  have bd := bound b d hb hd
  simp only [mul128, (halves a b ha hb).1, (halves a b ha hb).2, (halves c d hc hd).1, (halves c d hc hd).2,
    wrapU64_of_lt ac, wrapU64_of_lt ad, wrapU64_of_lt bc, wrapU64_of_lt bd, Nat.shiftLeft_eq,
    Nat.shiftRight_eq_div_pow, product]
  unfold wrapU64
  split_ifs <;> simp only [Prod.mk.injEq] <;> omega


theorem divWithReminder_eq {digit divisor remainder : Nat} (digitWord : digit < 2 ^ 32) (below : remainder < divisor)
    (small : divisor ≤ 2 ^ 32) :
    divWithReminder digit divisor remainder =
      ((remainder * 2 ^ 32 + digit) / divisor, (remainder * 2 ^ 32 + digit) % divisor) := by
  have shifted : remainder <<< 32 < 2 ^ 64 := by
    rw [Nat.shiftLeft_eq]
    calc remainder * 2 ^ 32 < 2 ^ 32 * 2 ^ 32 := Nat.mul_lt_mul_of_pos_right (by omega) (by norm_num)
      _ = 2 ^ 64 := by norm_num
  unfold divWithReminder
  dsimp only
  rw [wrapU64_of_lt shifted, Nat.or_comm, ← Nat.shiftLeft_add_eq_or_of_lt digitWord, Nat.shiftLeft_eq]

/-- Two 32-bit digits joined as `div128_32` joins them. -/
theorem join_digits {high low : Nat} (highWord : high < 2 ^ 32) (lowWord : low < 2 ^ 32) :
    wrapU64 (high <<< 32) ||| low = high * 2 ^ 32 + low := by
  have shifted : high <<< 32 < 2 ^ 64 := by
    rw [Nat.shiftLeft_eq]
    calc high * 2 ^ 32 < 2 ^ 32 * 2 ^ 32 := Nat.mul_lt_mul_of_pos_right highWord (by norm_num)
      _ = 2 ^ 64 := by norm_num
  rw [wrapU64_of_lt shifted, ← Nat.shiftLeft_add_eq_or_of_lt lowWord, Nat.shiftLeft_eq]

/-- Four 32-bit digits, most significant first, as a high and a low word. -/
theorem words_of_digits {a b c e : Nat} (third : c < 2 ^ 32) (first : e < 2 ^ 32) :
    (a * 2 ^ 32 + b, c * 2 ^ 32 + e) =
      ((((a * 2 ^ 32 + b) * 2 ^ 32 + c) * 2 ^ 32 + e) / 2 ^ 64, (((a * 2 ^ 32 + b) * 2 ^ 32 + c) * 2 ^ 32 + e) % 2 ^ 64) := by
  have low : c * 2 ^ 32 + e < 2 ^ 64 :=
    calc c * 2 ^ 32 + e < (c + 1) * 2 ^ 32 := by rw [Nat.succ_mul]; omega
      _ ≤ 2 ^ 32 * 2 ^ 32 := Nat.mul_le_mul_right _ third
      _ = 2 ^ 64 := by norm_num
  have words : ((a * 2 ^ 32 + b) * 2 ^ 32 + c) * 2 ^ 32 + e = c * 2 ^ 32 + e + 2 ^ 64 * (a * 2 ^ 32 + b) := by ring
  rw [words, Nat.add_mul_div_left _ _ (by norm_num), Nat.add_mul_mod_self_left, Nat.div_eq_of_lt low,
    Nat.mod_eq_of_lt low, Nat.zero_add]

/-- `div128_32` is long division of the 128-bit dividend by a 32-bit divisor. -/
theorem div128_32_eq {dividendHi dividendLo divisor : Nat} (hiWord : dividendHi < 2 ^ 64)
    (loWord : dividendLo < 2 ^ 64) (positive : 0 < divisor) (small : divisor < 2 ^ 32) :
    div128_32 dividendHi dividendLo divisor =
      ((dividendHi * 2 ^ 64 + dividendLo) / divisor / 2 ^ 64, (dividendHi * 2 ^ 64 + dividendLo) / divisor % 2 ^ 64) := by
  have d3 : hiDword dividendHi < 2 ^ 32 := by rw [hiDword_eq]; omega
  have d2 : loDword dividendHi < 2 ^ 32 := by rw [loDword_eq]; omega
  have d1 : hiDword dividendLo < 2 ^ 32 := by rw [hiDword_eq]; omega
  have d0 : loDword dividendLo < 2 ^ 32 := by rw [loDword_eq]; omega
  unfold div128_32
  rw [divWithReminder_eq d3 positive small.le]
  dsimp only
  rw [divWithReminder_eq d2 (Nat.mod_lt _ positive) small.le]
  dsimp only
  rw [divWithReminder_eq d1 (Nat.mod_lt _ positive) small.le]
  dsimp only
  rw [divWithReminder_eq d0 (Nat.mod_lt _ positive) small.le]
  dsimp only
  simp only [Nat.zero_mul, Nat.zero_add]
  have splitHi := hiDword_mul_add_loDword dividendHi
  -- each carried remainder is the remainder of the digits read so far
  rw [← mod_mul_add_eq, splitHi, ← mod_mul_add_eq]
  -- and the quotient is read off digit by digit
  have quotientHi : dividendHi / divisor =
      hiDword dividendHi / divisor * 2 ^ 32 + (hiDword dividendHi % divisor * 2 ^ 32 + loDword dividendHi) / divisor := by
    rw [← div_mul_add_eq positive, splitHi]
  have shape : dividendHi * 2 ^ 64 + dividendLo = (dividendHi * 2 ^ 32 + hiDword dividendLo) * 2 ^ 32 +
      loDword dividendLo := by
    conv_lhs => rw [← hiDword_mul_add_loDword dividendLo]
    ring
  rw [shape, div_mul_add_eq positive (dividendHi * 2 ^ 32 + hiDword dividendLo),
    div_mul_add_eq positive dividendHi, quotientHi]
  have q3 : hiDword dividendHi / divisor < 2 ^ 32 := Nat.lt_of_le_of_lt (Nat.div_le_self _ _) d3
  have q2 := div_lt_base (Nat.mod_lt (hiDword dividendHi) positive) d2
  have q1 := div_lt_base (Nat.mod_lt dividendHi positive) d1
  have q0 := div_lt_base (Nat.mod_lt (dividendHi * 2 ^ 32 + hiDword dividendLo) positive) d0
  rw [join_digits q3 q2, join_digits q1 q0]
  exact words_of_digits q1 q0


/-! ## The penalty -/

section Penalty

variable {M W : Nat}

/-- Above the median the penalty factor `(2M - W) W` falls short of `M ^ 2` by
the square of the excess. -/
theorem penalty_add_square (above : M ≤ W) (within : W ≤ 2 * M) :
    (2 * M - W) * W + (W - M) * (W - M) = M * M := by
  zify [above, within]
  ring

theorem penalty_le (above : M ≤ W) (within : W ≤ 2 * M) : (2 * M - W) * W ≤ M * M := by
  have square := penalty_add_square above within
  omega

theorem penalty_lt (above : M < W) (within : W ≤ 2 * M) : (2 * M - W) * W < M * M := by
  have square := penalty_add_square above.le within
  have excess : 0 < (W - M) * (W - M) := Nat.mul_pos (by omega) (by omega)
  omega

/-- The penalty factor only falls as the block grows past the median. -/
theorem penalty_antitone {W₁ W₂ : Nat} (above : M ≤ W₁) (heavier : W₁ ≤ W₂) (within : W₂ ≤ 2 * M) :
    (2 * M - W₂) * W₂ ≤ (2 * M - W₁) * W₁ := by
  have square₁ := penalty_add_square above (le_trans heavier within)
  have square₂ := penalty_add_square (le_trans above heavier) within
  have excess : (W₁ - M) * (W₁ - M) ≤ (W₂ - M) * (W₂ - M) := Nat.mul_le_mul (by omega) (by omega)
  omega

end Penalty

/-- The two divisions by a 32-bit median of the 128-bit product of the base
reward and a penalty factor at most the median squared: the high word of the
result is `0` and the low word is the exact quotient by the median squared. -/
theorem penalized_reward_eq {base multiplicand divisor : Nat} (baseWord : base < 2 ^ 64) (positive : 0 < divisor)
    (small : divisor < 2 ^ 32) (bounded : multiplicand ≤ divisor * divisor) :
    let product := mul128 base multiplicand
    let first := div128_32 product.2 product.1 divisor
    div128_32 first.1 first.2 divisor = (0, base * multiplicand / (divisor * divisor)) := by
  intro product first
  have squareWord : divisor * divisor < 2 ^ 64 :=
    calc divisor * divisor < 2 ^ 32 * 2 ^ 32 := Nat.mul_lt_mul'' small small
      _ = 2 ^ 64 := by norm_num
  have multiplicandWord : multiplicand < 2 ^ 64 := lt_of_le_of_lt bounded squareWord
  -- the quotient by the median squared is at most the base reward, a word
  have quotient : base * multiplicand / (divisor * divisor) ≤ base :=
    Nat.div_le_of_le_mul (by rw [Nat.mul_comm (divisor * divisor)]; exact Nat.mul_le_mul_left base bounded)
  have productWords : product = (base * multiplicand % 2 ^ 64, base * multiplicand / 2 ^ 64) :=
    mul128_eq baseWord multiplicandWord
  have productHi : base * multiplicand / 2 ^ 64 < 2 ^ 64 :=
    Nat.div_lt_of_lt_mul (calc base * multiplicand < 2 ^ 64 * 2 ^ 64 := Nat.mul_lt_mul'' baseWord multiplicandWord
      _ = 2 ^ 64 * 2 ^ 64 := rfl)
  have joined : base * multiplicand / 2 ^ 64 * 2 ^ 64 + base * multiplicand % 2 ^ 64 = base * multiplicand := by
    rw [Nat.mul_comm]
    exact Nat.div_add_mod _ _
  have firstWords : first = (base * multiplicand / divisor / 2 ^ 64, base * multiplicand / divisor % 2 ^ 64) := by
    simp only [first, productWords]
    rw [div128_32_eq productHi (Nat.mod_lt _ (by norm_num)) positive small, joined]
  have firstHi : base * multiplicand / divisor / 2 ^ 64 < 2 ^ 64 :=
    Nat.div_lt_of_lt_mul (lt_of_le_of_lt (Nat.div_le_self _ _)
      (calc base * multiplicand < 2 ^ 64 * 2 ^ 64 := Nat.mul_lt_mul'' baseWord multiplicandWord
        _ = 2 ^ 64 * 2 ^ 64 := rfl))
  have rejoined : base * multiplicand / divisor / 2 ^ 64 * 2 ^ 64 + base * multiplicand / divisor % 2 ^ 64 =
      base * multiplicand / divisor := by
    rw [Nat.mul_comm]
    exact Nat.div_add_mod _ _
  rw [firstWords, div128_32_eq firstHi (Nat.mod_lt _ (by norm_num)) positive small, rejoined,
    Nat.div_div_eq_div_mul (base * multiplicand) divisor divisor, Nat.div_eq_of_lt (lt_of_le_of_lt quotient baseWord),
    Nat.mod_eq_of_lt (lt_of_le_of_lt quotient baseWord)]

section Reward

variable {medianWeight currentBlockWeight alreadyGeneratedCoins version : Nat}

/-- Outside the premine the base reward is the remaining supply shifted by the
emission speed factor, never below the tail subsidy. -/
theorem baseReward_eq (supply : alreadyGeneratedCoins ≤ MONEY_SUPPLY) :
    (if subU64 MONEY_SUPPLY alreadyGeneratedCoins >>> (EMISSION_SPEED_FACTOR_PER_MINUTE - (DIFFICULTY_TARGET / 60 - 1)) <
        FINAL_SUBSIDY_PER_MINUTE * (DIFFICULTY_TARGET / 60) then FINAL_SUBSIDY_PER_MINUTE * (DIFFICULTY_TARGET / 60)
      else subU64 MONEY_SUPPLY alreadyGeneratedCoins >>> (EMISSION_SPEED_FACTOR_PER_MINUTE - (DIFFICULTY_TARGET / 60 - 1))) =
      max ((MONEY_SUPPLY - alreadyGeneratedCoins) >>> 20) FINAL_SUBSIDY_PER_MINUTE := by
  have factor : EMISSION_SPEED_FACTOR_PER_MINUTE - (DIFFICULTY_TARGET / 60 - 1) = 20 := rfl
  have subsidy : FINAL_SUBSIDY_PER_MINUTE * (DIFFICULTY_TARGET / 60) = FINAL_SUBSIDY_PER_MINUTE := rfl
  rw [subU64_of_le supply (by decide), factor, subsidy]
  split_ifs <;> omega

theorem softened_eq :
    (if medianWeight < getMinBlockWeight version then getMinBlockWeight version else medianWeight) =
      max medianWeight (getMinBlockWeight version) := by
  split_ifs <;> omega

variable (mined : ¬(medianWeight > 0 ∧ alreadyGeneratedCoins < premine))
include mined

/-- A block no heavier than the softened median earns the base reward. -/
theorem getBlockReward_of_light (supply : alreadyGeneratedCoins ≤ MONEY_SUPPLY)
    (light : currentBlockWeight ≤ max medianWeight (getMinBlockWeight version)) :
    getBlockReward medianWeight currentBlockWeight alreadyGeneratedCoins version =
      some (max ((MONEY_SUPPLY - alreadyGeneratedCoins) >>> 20) FINAL_SUBSIDY_PER_MINUTE) := by
  simp only [getBlockReward, if_neg mined, softened_eq, baseReward_eq supply, if_pos light]

/-- A block more than twice the softened median earns nothing. -/
theorem getBlockReward_of_overweight (overweight : 2 * max medianWeight (getMinBlockWeight version) < currentBlockWeight) :
    getBlockReward medianWeight currentBlockWeight alreadyGeneratedCoins version = none := by
  have heavy : ¬currentBlockWeight ≤ max medianWeight (getMinBlockWeight version) := by omega
  have past : currentBlockWeight > wrapU64 (2 * max medianWeight (getMinBlockWeight version)) :=
    lt_of_le_of_lt (Nat.mod_le _ _) overweight
  simp only [getBlockReward, if_neg mined, softened_eq, if_neg heavy, if_pos past]

/-- Between the softened median and twice it, the reward is the base reward
times the penalty factor, through `mul128` and two `div128_32` by the median. -/
theorem getBlockReward_of_heavy (supply : alreadyGeneratedCoins ≤ MONEY_SUPPLY) (word : currentBlockWeight < 2 ^ 32)
    (above : max medianWeight (getMinBlockWeight version) < currentBlockWeight)
    (within : currentBlockWeight ≤ 2 * max medianWeight (getMinBlockWeight version)) :
    getBlockReward medianWeight currentBlockWeight alreadyGeneratedCoins version =
      let M := max medianWeight (getMinBlockWeight version)
      let base := max ((MONEY_SUPPLY - alreadyGeneratedCoins) >>> 20) FINAL_SUBSIDY_PER_MINUTE
      let product := mul128 base ((2 * M - currentBlockWeight) * currentBlockWeight)
      let first := div128_32 product.2 product.1 M
      some (div128_32 first.1 first.2 M).2 := by
  simp only [getBlockReward, if_neg mined, softened_eq, baseReward_eq supply]
  set M := max medianWeight (getMinBlockWeight version) with softened
  have small : M < 2 ^ 32 := by omega
  have squareWord : M * M < 2 ^ 64 :=
    calc M * M < 2 ^ 32 * 2 ^ 32 := Nat.mul_lt_mul'' small small
      _ = 2 ^ 64 := by norm_num
  have doubled : wrapU64 (2 * M) = 2 * M := wrapU64_of_lt (by omega)
  have difference : subU64 (2 * M) currentBlockWeight = 2 * M - currentBlockWeight := subU64_of_le within (by omega)
  have factor : wrapU64 ((2 * M - currentBlockWeight) * currentBlockWeight) = (2 * M - currentBlockWeight) * currentBlockWeight :=
    wrapU64_of_lt (lt_of_le_of_lt (penalty_le above.le within) squareWord)
  have divisor : M % 2 ^ 32 = M := Nat.mod_eq_of_lt small
  rw [if_neg (Nat.not_le.2 above), doubled, if_neg (Nat.not_lt.2 within), difference, factor, divisor]

/-- From the softened median up to twice it the reward is the base reward
scaled by the penalty factor over the median squared; at the median itself
that is the base reward. -/
theorem getBlockReward_of_penalty_zone (supply : alreadyGeneratedCoins ≤ MONEY_SUPPLY)
    (word : currentBlockWeight < 2 ^ 32)
    (above : max medianWeight (getMinBlockWeight version) ≤ currentBlockWeight)
    (within : currentBlockWeight ≤ 2 * max medianWeight (getMinBlockWeight version)) :
    getBlockReward medianWeight currentBlockWeight alreadyGeneratedCoins version =
      some (max ((MONEY_SUPPLY - alreadyGeneratedCoins) >>> 20) FINAL_SUBSIDY_PER_MINUTE *
        ((2 * max medianWeight (getMinBlockWeight version) - currentBlockWeight) * currentBlockWeight) /
        (max medianWeight (getMinBlockWeight version) * max medianWeight (getMinBlockWeight version))) := by
  set M := max medianWeight (getMinBlockWeight version) with softened
  set base := max ((MONEY_SUPPLY - alreadyGeneratedCoins) >>> 20) FINAL_SUBSIDY_PER_MINUTE
  have positive : 0 < M := lt_of_lt_of_le (getMinBlockWeight_pos version) (le_max_right _ _)
  rcases Nat.eq_or_lt_of_le above with atMedian | heavy
  · -- at the median the factor is the median squared, and the quotient the base reward
    rw [getBlockReward_of_light mined supply atMedian.ge, ← atMedian,
      show 2 * M - M = M by omega, Nat.mul_div_cancel _ (Nat.mul_pos positive positive)]
  · have baseWord : base < 2 ^ 64 :=
      max_lt (lt_of_le_of_lt (Nat.shiftRight_le _ _) (by unfold MONEY_SUPPLY; omega)) (by decide)
    rw [getBlockReward_of_heavy mined supply word heavy within]
    dsimp only
    rw [penalized_reward_eq baseWord positive (by omega) (penalty_le above within)]

end Reward

/-- `get_block_reward` past the premine: it refuses exactly the blocks above
twice the softened median `M`, pays the base reward up to `M`, and above `M`
pays the base reward times `(2M - W) W / M ^ 2` rounded down, with both
`div128_32` steps leaving a zero high word and a reward below the base; the
reward never grows with the weight past `M`. -/
theorem get_block_reward_exact (medianWeight currentBlockWeight alreadyGeneratedCoins version : Nat)
    (word : currentBlockWeight < 2 ^ 32) (supply : alreadyGeneratedCoins ≤ MONEY_SUPPLY)
    (afterPremine : premine ≤ alreadyGeneratedCoins ∨ medianWeight = 0) :
    let M := max medianWeight (getMinBlockWeight version)
    let base := max ((MONEY_SUPPLY - alreadyGeneratedCoins) >>> 20) FINAL_SUBSIDY_PER_MINUTE
    let reward := getBlockReward medianWeight currentBlockWeight alreadyGeneratedCoins version
    (reward = none ↔ 2 * M < currentBlockWeight) ∧
      (currentBlockWeight ≤ M → reward = some base) ∧
      (M < currentBlockWeight → currentBlockWeight ≤ 2 * M →
        let product := mul128 base ((2 * M - currentBlockWeight) * currentBlockWeight)
        let first := div128_32 product.2 product.1 M
        let second := div128_32 first.1 first.2 M
        second.1 = 0 ∧ second.2 < base ∧ reward = some second.2 ∧
          second.2 = base * ((2 * M - currentBlockWeight) * currentBlockWeight) / (M * M)) ∧
      (∀ heavier, heavier < 2 ^ 32 → M ≤ currentBlockWeight → currentBlockWeight ≤ heavier →
        ∀ r r', reward = some r →
          getBlockReward medianWeight heavier alreadyGeneratedCoins version = some r' → r' ≤ r) := by
  intro M base reward
  have mined : ¬(medianWeight > 0 ∧ alreadyGeneratedCoins < premine) := by
    rintro ⟨positive, early⟩
    rcases afterPremine with late | zero <;> omega
  have positive : 0 < M := lt_of_lt_of_le (getMinBlockWeight_pos version) (le_max_right _ _)
  have basePositive : 0 < base := lt_of_lt_of_le (by decide) (le_max_right _ _)
  have baseWord : base < 2 ^ 64 :=
    max_lt (lt_of_le_of_lt (Nat.shiftRight_le _ _) (by unfold MONEY_SUPPLY; omega)) (by decide)
  refine ⟨⟨fun refused => ?_, getBlockReward_of_overweight mined⟩, getBlockReward_of_light mined supply,
    fun above within => ?_, ?_⟩
  · -- a reward is paid up to twice the median
    by_contra within
    rw [Nat.not_lt] at within
    rcases Nat.lt_or_ge M currentBlockWeight with heavy | light
    · rw [show reward = _ from getBlockReward_of_heavy mined supply word heavy within] at refused
      cases refused
    · rw [show reward = _ from getBlockReward_of_light mined supply light] at refused
      cases refused
  · intro product first second
    have divided : second = (0, base * ((2 * M - currentBlockWeight) * currentBlockWeight) / (M * M)) :=
      penalized_reward_eq baseWord positive (by omega) (penalty_le above.le within)
    have below : base * ((2 * M - currentBlockWeight) * currentBlockWeight) / (M * M) < base :=
      Nat.div_lt_of_lt_mul (by rw [Nat.mul_comm (M * M)]; exact Nat.mul_lt_mul_of_pos_left (penalty_lt above within) basePositive)
    have paid : reward = some second.2 := getBlockReward_of_heavy mined supply word above within
    rw [divided] at paid ⊢
    exact ⟨rfl, below, paid, rfl⟩
  · intro heavier heavierWord atMedian heavierGe r r' rewarded rewarded'
    -- past twice the median there is no reward to compare
    have within : heavier ≤ 2 * M := by
      by_contra overweight
      rw [getBlockReward_of_overweight mined (Nat.lt_of_not_le overweight)] at rewarded'
      cases rewarded'
    rw [show reward = _ from getBlockReward_of_penalty_zone mined supply word atMedian (le_trans heavierGe within)]
      at rewarded
    rw [getBlockReward_of_penalty_zone mined supply heavierWord (le_trans atMedian heavierGe) within] at rewarded'
    cases rewarded
    cases rewarded'
    exact Nat.div_le_div_right (Nat.mul_le_mul_left _ (penalty_antitone atMedian heavierGe within))


theorem get_block_reward_refused_above_twice_median :
    (700000 < 2 ^ 32 ∧ premine ≤ MONEY_SUPPLY ∧ (premine ≤ premine ∨ 300000 = 0)) ∧
      getBlockReward 300000 700000 premine 9 = none ∧
      (getBlockReward 300000 700000 premine 9 = none ↔ 2 * max 300000 (getMinBlockWeight 9) < 700000) := by
  have refused := (get_block_reward_exact 300000 700000 premine 9 (by decide) (by decide) (.inl le_rfl)).1
  exact ⟨⟨by decide, by decide, .inl le_rfl⟩, refused.2 (by decide), refused⟩

/-- `epee::misc_utils::median`: the middle of the sorted values, the mean of
the two middle ones for an even count, `0` for none. -/
def median (values : List Nat) : Nat :=
  match values with
  | [] => 0
  | [value] => value
  | _ =>
    let n := values.length / 2
    let sorted := values.insertionSort (· ≤ ·)
    if values.length % 2 = 1 then sorted.getD n 0
    else wrapU64 (sorted.getD (n - 1) 0 + sorted.getD n 0) / 2

/-! ## The median

`median` reads its values only through their sorted order, so it depends on
the multiset of the values, and lies between their least and greatest; for
an even count the sum of the two middle values wraps, which only values
below `2 ^ 63` rule out. -/

/-- The formula for two values or more holds for every count. -/
theorem median_eq_sorted (values : List Nat) :
    median values =
      if values.length % 2 = 1 then (values.insertionSort (· ≤ ·)).getD (values.length / 2) 0
      else wrapU64 ((values.insertionSort (· ≤ ·)).getD (values.length / 2 - 1) 0 +
        (values.insertionSort (· ≤ ·)).getD (values.length / 2) 0) / 2 := by
  match values with
  | [] => simp [median, wrapU64]
  | [value] => simp [median]
  | _ :: _ :: _ => rfl

theorem median_eq_of_perm {values values' : List Nat} (hperm : values.Perm values') :
    median values = median values' := by
  have hsorted : values.insertionSort (· ≤ ·) = values'.insertionSort (· ≤ ·) :=
    ((List.perm_insertionSort _ values).trans
      (hperm.trans (List.perm_insertionSort _ values').symm)).eq_of_pairwise'
      (List.pairwise_insertionSort _ values) (List.pairwise_insertionSort _ values')
  rw [median_eq_sorted, median_eq_sorted, hsorted, hperm.length_eq]

theorem getD_insertionSort_le {values : List Nat} {bound : Nat} (hbound : ∀ v ∈ values, v ≤ bound)
    (i : Nat) : (values.insertionSort (· ≤ ·)).getD i 0 ≤ bound := by
  rw [List.getD_eq_getElem?_getD]
  cases hget : (values.insertionSort (· ≤ ·))[i]? with
  | none => simp
  | some v =>
    have hmem : v ∈ values := (List.perm_insertionSort _ values).subset (List.mem_of_getElem? hget)
    simpa using hbound v hmem

theorem median_le {values : List Nat} {bound : Nat} (hbound : ∀ v ∈ values, v ≤ bound) :
    median values ≤ bound := by
  have hlow := getD_insertionSort_le hbound (values.length / 2 - 1)
  have hhigh := getD_insertionSort_le hbound (values.length / 2)
  have hwrap : wrapU64 ((values.insertionSort (· ≤ ·)).getD (values.length / 2 - 1) 0 +
      (values.insertionSort (· ≤ ·)).getD (values.length / 2) 0) ≤
      (values.insertionSort (· ≤ ·)).getD (values.length / 2 - 1) 0 +
        (values.insertionSort (· ≤ ·)).getD (values.length / 2) 0 := Nat.mod_le _ _
  rw [median_eq_sorted]
  split
  · exact hhigh
  · omega

theorem lt_getD_insertionSort {values : List Nat} {bound : Nat} (hbound : ∀ v ∈ values, bound < v)
    {i : Nat} (hi : i < values.length) : bound < (values.insertionSort (· ≤ ·)).getD i 0 ∧
      (values.insertionSort (· ≤ ·)).getD i 0 ∈ values := by
  have hlength : i < (values.insertionSort (· ≤ ·)).length := by
    rw [List.length_insertionSort]
    exact hi
  rw [List.getD_eq_getElem _ _ hlength]
  have hmem : (values.insertionSort (· ≤ ·))[i] ∈ values :=
    (List.perm_insertionSort _ values).subset (List.getElem_mem hlength)
  exact ⟨hbound _ hmem, hmem⟩

theorem lt_median {values : List Nat} {bound : Nat} (hne : values ≠ [])
    (hbound : ∀ v ∈ values, bound < v) (hsmall : ∀ v ∈ values, v < 2 ^ 63) :
    bound < median values := by
  have hpos : 0 < values.length := List.length_pos_iff.mpr hne
  obtain ⟨hhigh, hhighMem⟩ := lt_getD_insertionSort hbound (i := values.length / 2) (by omega)
  rw [median_eq_sorted]
  split
  · exact hhigh
  · obtain ⟨hlow, hlowMem⟩ := lt_getD_insertionSort hbound (i := values.length / 2 - 1) (by omega)
    have hhighSmall := hsmall _ hhighMem
    have hlowSmall := hsmall _ hlowMem
    rw [wrapU64_of_lt (by omega)]
    omega

end ElectroneumClassic.Cryptonote
