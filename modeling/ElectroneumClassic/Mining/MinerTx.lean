import ElectroneumClassic.Basic.Reward
import ElectroneumClassic.Serialization.TxExtra

/-!
# The miner transaction

`construct_miner_tx` pays the block reward and the fees to the miner.  The
amount is cut into one output per nonzero decimal digit by
`decompose_amount_into_digits`; from version 4, and for the genesis block, the
outputs are then merged from the front down to `max_outs`.  The random key of
the transaction and the one-time keys of its outputs are inputs of the model.
-/

namespace ElectroneumClassic

open Cryptonote Config Machine Serialization

/-- The loop of `decompose_amount_into_digits`.  The digits of `amount` are read
from the lowest, each at its `order`; a chunk goes into the dust while the dust
stays within the threshold, and the first chunk over it hands the dust out
before itself.  Both handlers append to one list. -/
def decomposeLoop (dustThreshold : Nat) (amount dust order : Nat) (isDustHandled : Bool)
    (outAmounts : List Nat) : List Nat × Nat × Bool :=
  if amount = 0 then (outAmounts, dust, isDustHandled)
  else
    let chunk := wrapU64 (amount % 10 * order)
    if wrapU64 (dust + chunk) ≤ dustThreshold then
      decomposeLoop dustThreshold (amount / 10) (wrapU64 (dust + chunk)) (wrapU64 (order * 10))
        isDustHandled outAmounts
    else
      let handOut := !isDustHandled && dust ≠ 0
      let outAmounts := if handOut then outAmounts ++ [dust] else outAmounts
      decomposeLoop dustThreshold (amount / 10) dust (wrapU64 (order * 10)) (isDustHandled || handOut)
        (if chunk ≠ 0 then outAmounts ++ [chunk] else outAmounts)
termination_by amount
decreasing_by all_goals omega

/-- `decompose_amount_into_digits(amount, dust_threshold, ...)`: the chunks and
the dust in the order the handlers see them. -/
def decomposeAmountIntoDigits (amount dustThreshold : Nat) : List Nat :=
  let (outAmounts, dust, isDustHandled) := decomposeLoop dustThreshold amount 0 1 false []
  if !isDustHandled && dust ≠ 0 then outAmounts ++ [dust] else outAmounts

/-- The `while (max_outs < out_amounts.size())` loop of `construct_miner_tx` on
the amounts `first :: rest`: the first amount is added to the second and leaves. -/
def mergeOuts (maxOuts first : Nat) : List Nat → List Nat
  | [] => [first]
  | second :: rest =>
    if maxOuts < rest.length + 2 then mergeOuts maxOuts (wrapU64 (second + first)) rest
    else first :: second :: rest

/-- The reward lowered to a multiple of `BASE_REWARD_CLAMP_THRESHOLD` at
versions 2 and 3. -/
def clampBlockReward (hardForkVersion blockReward : Nat) : Nat :=
  if 2 ≤ hardForkVersion ∧ hardForkVersion < 4 then
    blockReward - blockReward % BASE_REWARD_CLAMP_THRESHOLD
  else blockReward

/-- The output amounts `construct_miner_tx` cuts `blockReward` into: from
version 2 with no dust, merged down to `max_outs` at the genesis block and from
version 4, and at most `max_outs` of them otherwise.  `none` where a check of
the source fails. -/
def minerOutAmounts (height blockReward maxOuts hardForkVersion : Nat) : Option (List Nat) :=
  let outAmounts := decomposeAmountIntoDigits blockReward
    (if 2 ≤ hardForkVersion then 0 else DEFAULT_DUST_THRESHOLD)
  if maxOuts < 1 then none
  else if height = 0 ∨ 4 ≤ hardForkVersion then
    -- the genesis block was not decomposed
    some (match outAmounts with
      | [] => []
      | first :: rest => mergeOuts maxOuts first rest)
  else if outAmounts.length ≤ maxOuts then some outAmounts
  else none

/-- The extra `construct_miner_tx` writes: the public key of the transaction,
then the nonce where there is one. -/
def minerTxExtra (txPubKey : Pod 32) (extraNonce : List UInt8) : Option (List UInt8) :=
  let extra := addTxPubKeyToExtra [] txPubKey
  if extraNonce.isEmpty then some extra else addExtraNonceToTxExtra extra extraNonce

/-- `construct_miner_tx` on the caller's transaction `tx`: its inputs, outputs
and extra are rebuilt, its version and unlock time set, and its signatures
left as they were.  `none` where the source returns `false`. -/
def constructMinerTx (height medianWeight alreadyGeneratedCoins currentBlockWeight fee : Nat)
    (txPubKey : Pod 32) (outputKey : Nat → Key) (tx : Transaction) (extraNonce : List UInt8)
    (maxOuts hardForkVersion : Nat) : Option Transaction := do
  let extra ← minerTxExtra txPubKey extraNonce
  let blockReward ← getBlockReward medianWeight currentBlockWeight alreadyGeneratedCoins hardForkVersion
  let blockReward := clampBlockReward hardForkVersion (wrapU64 (blockReward + fee))
  let outAmounts ← minerOutAmounts height blockReward maxOuts hardForkVersion
  if outAmounts.foldl (fun total amount => wrapU64 (total + amount)) 0 ≠ blockReward then none
  else
    pure { tx with
      version := if 4 ≤ hardForkVersion then 2 else 1
      unlockTime := height + CRYPTONOTE_MINED_MONEY_UNLOCK_WINDOW
      vin := [.gen height]
      vout := outAmounts.zipIdx.map fun (amount, no) => ⟨amount, .toKey (outputKey no)⟩
      extra }

/-! ## Decomposition

For an amount below `2 ^ 64` nothing in the loop wraps: what was handed out,
the dust not yet handed out and the digits left at their order add up to the
amount, so the amounts sum to it; and with no dust allowed each amount is one
nonzero digit at a power of ten, a valid decomposed amount. -/

/-- What the loop of `decompose_amount_into_digits` keeps of an amount below
`2 ^ 64`; once the dust is handed out, every later nonzero chunk is over the
threshold, so none of them joins the dust. -/
structure DecomposeInvariant (dustThreshold original amount dust order : Nat) (isDustHandled : Bool)
    (outAmounts : List Nat) : Prop where
  bounded : original < 2 ^ 64
  total : outAmounts.sum + (if isDustHandled then 0 else dust) + amount * order = original
  within : dust + amount * order ≤ original
  handled : isDustHandled = true → amount ≠ 0 → dustThreshold < dust + order

theorem mul_split_digit (amount order : Nat) :
    amount * order = amount / 10 * (order * 10) + amount % 10 * order := by
  conv_lhs => rw [← Nat.div_add_mod amount 10]
  ring

namespace DecomposeInvariant

variable {dustThreshold original amount dust order : Nat} {isDustHandled : Bool} {outAmounts : List Nat}

theorem chunk_eq (invariant : DecomposeInvariant dustThreshold original amount dust order isDustHandled outAmounts) :
    wrapU64 (amount % 10 * order) = amount % 10 * order ∧
      wrapU64 (dust + amount % 10 * order) = dust + amount % 10 * order := by
  have split := mul_split_digit amount order
  have within := invariant.within
  have bounded := invariant.bounded
  exact ⟨wrapU64_of_lt (by omega), wrapU64_of_lt (by omega)⟩

theorem next_order (invariant : DecomposeInvariant dustThreshold original amount dust order isDustHandled outAmounts)
    (more : amount / 10 ≠ 0) : wrapU64 (order * 10) = order * 10 := by
  have split := mul_split_digit amount order
  have within := invariant.within
  have bounded := invariant.bounded
  have grows : order * 10 ≤ amount / 10 * (order * 10) := Nat.le_mul_of_pos_left _ (Nat.pos_of_ne_zero more)
  exact wrapU64_of_lt (by omega)

theorem rest_mul (invariant : DecomposeInvariant dustThreshold original amount dust order isDustHandled outAmounts) :
    amount / 10 * wrapU64 (order * 10) = amount / 10 * (order * 10) := by
  by_cases more : amount / 10 = 0
  · simp [more]
  · rw [invariant.next_order more]

theorem dust_step (invariant : DecomposeInvariant dustThreshold original amount dust order isDustHandled outAmounts)
    (withinThreshold : wrapU64 (dust + wrapU64 (amount % 10 * order)) ≤ dustThreshold) :
    DecomposeInvariant dustThreshold original (amount / 10) (wrapU64 (dust + wrapU64 (amount % 10 * order)))
      (wrapU64 (order * 10)) isDustHandled outAmounts := by
  obtain ⟨chunkEq, dustEq⟩ := invariant.chunk_eq
  rw [chunkEq, dustEq] at withinThreshold ⊢
  have split := mul_split_digit amount order
  have restEq := invariant.rest_mul
  have total := invariant.total
  have within := invariant.within
  -- once the dust is out, a chunk that joins it is zero
  have handledChunk : isDustHandled = true → amount % 10 * order = 0 := by
    intro handled
    by_contra nonzero
    have positive : 0 < amount % 10 := Nat.pos_of_ne_zero fun zero => nonzero (by simp [zero])
    have atLeast : order ≤ amount % 10 * order := Nat.le_mul_of_pos_left _ positive
    have beyond := invariant.handled handled (by omega)
    omega
  refine ⟨invariant.bounded, ?_, by omega, ?_⟩
  · cases isDustHandled with
    | true => have zero := handledChunk rfl; simp only [if_true] at total ⊢; omega
    | false => simp only [Bool.false_eq_true, if_false] at total ⊢; omega
  · intro handled more
    have beyond := invariant.handled handled (by omega)
    rw [invariant.next_order more]
    omega

theorem chunk_step (invariant : DecomposeInvariant dustThreshold original amount dust order isDustHandled outAmounts)
    (overThreshold : ¬wrapU64 (dust + wrapU64 (amount % 10 * order)) ≤ dustThreshold) :
    let handOut := !isDustHandled && dust ≠ 0
    let outAmounts := if handOut then outAmounts ++ [dust] else outAmounts
    DecomposeInvariant dustThreshold original (amount / 10) dust (wrapU64 (order * 10)) (isDustHandled || handOut)
      (if wrapU64 (amount % 10 * order) ≠ 0 then outAmounts ++ [wrapU64 (amount % 10 * order)] else outAmounts) := by
  intro handOut outAmounts'
  obtain ⟨chunkEq, dustEq⟩ := invariant.chunk_eq
  rw [chunkEq, dustEq] at overThreshold
  rw [chunkEq]
  have split := mul_split_digit amount order
  have restEq := invariant.rest_mul
  have total := invariant.total
  have within := invariant.within
  have chunkBound : amount % 10 * order ≤ 9 * order :=
    Nat.mul_le_mul_right _ (by omega)
  -- the chunk joins the amounts handed out, and a zero chunk changes no sum
  have withChunk : (if amount % 10 * order ≠ 0 then outAmounts' ++ [amount % 10 * order] else outAmounts').sum =
      outAmounts'.sum + amount % 10 * order := by
    by_cases zero : amount % 10 * order = 0 <;> simp [zero]
  refine ⟨invariant.bounded, ?_, by omega, ?_⟩
  · rw [withChunk, restEq]
    cases isDustHandled with
    | true => simp only [if_true] at total; simp [handOut, outAmounts']; omega
    | false =>
      simp only [Bool.false_eq_true, if_false] at total
      by_cases zero : dust = 0
      · simp [handOut, outAmounts', zero] at total ⊢; omega
      · simp [handOut, outAmounts', zero]; omega
  · intro handled more
    rw [invariant.next_order more]
    omega

end DecomposeInvariant

theorem decomposeLoop_total (dustThreshold original : Nat) (amount dust order : Nat) (isDustHandled : Bool)
    (outAmounts : List Nat)
    (invariant : DecomposeInvariant dustThreshold original amount dust order isDustHandled outAmounts) :
    let result := decomposeLoop dustThreshold amount dust order isDustHandled outAmounts
    result.1.sum + (if result.2.2 then 0 else result.2.1) = original := by
  fun_induction decomposeLoop dustThreshold amount dust order isDustHandled outAmounts with
  | case1 => simpa using invariant.total
  | case2 _ _ _ _ _ _ _ withinThreshold inductionHypothesis =>
    exact inductionHypothesis (invariant.dust_step withinThreshold)
  | case3 _ _ _ _ _ _ _ overThreshold _ _ inductionHypothesis =>
    simp only [dite_eq_ite] at inductionHypothesis
    exact inductionHypothesis (invariant.chunk_step overThreshold)

theorem decomposeAmountIntoDigits_sum (amount dustThreshold : Nat) (bounded : amount < 2 ^ 64) :
    (decomposeAmountIntoDigits amount dustThreshold).sum = amount := by
  have total := decomposeLoop_total dustThreshold amount amount 0 1 false []
    ⟨bounded, by simp, by simp, by simp⟩
  unfold decomposeAmountIntoDigits
  revert total
  rcases decomposeLoop dustThreshold amount 0 1 false [] with ⟨outAmounts, dust, isDustHandled⟩
  intro total
  cases isDustHandled with
  | true => simpa using total
  | false => by_cases zero : dust = 0 <;> simp_all

theorem isValidDecomposedAmount_digit {digit k : Nat} (positive : 0 < digit) (small : digit < 10)
    (bounded : digit * 10 ^ k < 2 ^ 64) : isValidDecomposedAmount (digit * 10 ^ k) = true := by
  have atMost : k ≤ 19 := by
    by_contra big
    have powerBound : 10 ^ 20 ≤ 10 ^ k := Nat.pow_le_pow_right (by norm_num) (by omega)
    have digitBound : 10 ^ k ≤ digit * 10 ^ k := Nat.le_mul_of_pos_left _ positive
    omega
  rcases Nat.lt_or_eq_of_le atMost with below | top
  · have digitMember : digit ∈ List.range' 1 9 := List.mem_range'_1.2 ⟨positive, by omega⟩
    unfold isValidDecomposedAmount validDecomposedOutputs
    exact decide_eq_true (List.mem_append_left _
      (List.mem_flatMap.2 ⟨k, List.mem_range.2 below, List.mem_map.2 ⟨digit, digitMember, rfl⟩⟩))
  · subst top
    have one : digit = 1 := by omega
    subst one
    simp [isValidDecomposedAmount, validDecomposedOutputs]

theorem decomposeLoop_valid (original amount dust order : Nat) (isDustHandled : Bool) (outAmounts : List Nat)
    (invariant : DecomposeInvariant 0 original amount dust order isDustHandled outAmounts)
    (noDust : dust = 0) (notHandled : isDustHandled = false) (power : amount ≠ 0 → ∃ k, order = 10 ^ k)
    (valid : ∀ amount ∈ outAmounts, isValidDecomposedAmount amount = true) :
    let result := decomposeLoop 0 amount dust order isDustHandled outAmounts
    (∀ amount ∈ result.1, isValidDecomposedAmount amount = true) ∧ result.2.1 = 0 := by
  fun_induction decomposeLoop 0 amount dust order isDustHandled outAmounts with
  | case1 => exact ⟨valid, noDust⟩
  | case2 amount dust order _ _ nonzero _ withinThreshold inductionHypothesis =>
    obtain ⟨k, rfl⟩ := power nonzero
    refine inductionHypothesis (invariant.dust_step withinThreshold) (Nat.le_zero.1 withinThreshold)
      notHandled (fun more => ⟨k + 1, ?_⟩) valid
    rw [invariant.next_order more, Nat.pow_succ]
  | case3 amount dust order _ _ nonzero chunk overThreshold handOut _ inductionHypothesis =>
    obtain ⟨k, rfl⟩ := power nonzero
    simp only [dite_eq_ite] at inductionHypothesis
    subst noDust notHandled
    obtain ⟨chunkEq, -⟩ := invariant.chunk_eq
    have split := mul_split_digit amount (10 ^ k)
    have within := invariant.within
    have bounded := invariant.bounded
    have chunkValue : chunk = amount % 10 * 10 ^ k := chunkEq
    have positive : 0 < amount % 10 := by
      by_contra zero
      simp only [chunk, Nat.le_zero.1 (Nat.not_lt.1 zero), Nat.zero_mul, Nat.zero_add] at overThreshold
      exact overThreshold (by simp [wrapU64])
    have noHandOut : handOut = false := rfl
    refine inductionHypothesis (invariant.chunk_step overThreshold) rfl (by rw [noHandOut]; rfl)
      (fun more => ⟨k + 1, by rw [invariant.next_order more, Nat.pow_succ]⟩) ?_
    intro out member
    simp only [chunkValue] at member
    split at member
    · rcases List.mem_append.1 member with old | new
      · exact valid out old
      · rw [List.mem_singleton.1 new]
        exact isValidDecomposedAmount_digit positive (Nat.mod_lt _ (by norm_num)) (by omega)
    · exact valid out member

theorem decomposeAmountIntoDigits_valid (amount : Nat) (bounded : amount < 2 ^ 64) :
    ∀ out ∈ decomposeAmountIntoDigits amount 0, isValidDecomposedAmount out = true := by
  have valid := decomposeLoop_valid amount amount 0 1 false [] ⟨bounded, by simp, by simp, by simp⟩
    rfl rfl (fun _ => ⟨0, rfl⟩) (by simp)
  unfold decomposeAmountIntoDigits
  revert valid
  rcases decomposeLoop 0 amount 0 1 false [] with ⟨outAmounts, dust, isDustHandled⟩
  rintro ⟨valid, noDust⟩
  dsimp only at valid noDust
  subst noDust
  simpa using valid

theorem mergeOuts_sum (maxOuts : Nat) : ∀ (first : Nat) (rest : List Nat), first + rest.sum < 2 ^ 64 →
    (mergeOuts maxOuts first rest).sum = first + rest.sum
  | first, [], _ => by simp [mergeOuts]
  | first, second :: rest, bounded => by
    simp only [List.sum_cons] at bounded ⊢
    unfold mergeOuts
    split
    · rw [mergeOuts_sum maxOuts _ rest (by rw [wrapU64_of_lt (by omega)]; omega), wrapU64_of_lt (by omega)]
      omega
    · simp

theorem clampBlockReward_le (hardForkVersion blockReward : Nat) :
    clampBlockReward hardForkVersion blockReward ≤ blockReward := by
  unfold clampBlockReward
  split <;> omega

theorem minerOutAmounts_sum {height blockReward maxOuts hardForkVersion : Nat} {outAmounts : List Nat}
    (bounded : blockReward < 2 ^ 64)
    (cut : minerOutAmounts height blockReward maxOuts hardForkVersion = some outAmounts) :
    outAmounts.sum = blockReward := by
  have decomposed := decomposeAmountIntoDigits_sum blockReward
    (if 2 ≤ hardForkVersion then 0 else DEFAULT_DUST_THRESHOLD) bounded
  unfold minerOutAmounts at cut
  generalize decomposeAmountIntoDigits blockReward (if 2 ≤ hardForkVersion then 0 else DEFAULT_DUST_THRESHOLD)
    = digits at cut decomposed
  by_cases noOuts : maxOuts < 1
  · rw [if_pos noOuts] at cut
    cases cut
  rw [if_neg noOuts] at cut
  by_cases merged : height = 0 ∨ 4 ≤ hardForkVersion
  · rw [if_pos merged] at cut
    cases cut
    cases digits with
    | nil => simpa using decomposed
    | cons first rest =>
      rw [List.sum_cons] at decomposed
      rw [mergeOuts_sum maxOuts first rest (by omega), decomposed]
  · rw [if_neg merged] at cut
    by_cases fits : digits.length ≤ maxOuts
    · rw [if_pos fits] at cut
      cases cut
      exact decomposed
    · rw [if_neg fits] at cut
      cases cut

theorem minerOutAmounts_valid {height blockReward maxOuts hardForkVersion : Nat} {outAmounts : List Nat}
    (bounded : blockReward < 2 ^ 64) (atLeastTwo : 2 ≤ hardForkVersion) (belowFour : hardForkVersion < 4)
    (aboveGenesis : 0 < height)
    (cut : minerOutAmounts height blockReward maxOuts hardForkVersion = some outAmounts) :
    ∀ out ∈ outAmounts, isValidDecomposedAmount out = true := by
  have notMerged : ¬(height = 0 ∨ 4 ≤ hardForkVersion) := by omega
  unfold minerOutAmounts at cut
  dsimp only at cut
  rw [if_pos atLeastTwo, if_neg notMerged] at cut
  by_cases noOuts : maxOuts < 1
  · rw [if_pos noOuts] at cut
    cases cut
  rw [if_neg noOuts] at cut
  by_cases fits : (decomposeAmountIntoDigits blockReward 0).length ≤ maxOuts
  · rw [if_pos fits] at cut
    cases cut
    exact decomposeAmountIntoDigits_valid blockReward bounded
  · rw [if_neg fits] at cut
    cases cut

theorem getOutsMoneyAmount_eq (tx : Transaction) :
    getOutsMoneyAmount tx = wrapU64 (tx.vout.map (·.amount)).sum := by
  rw [getOutsMoneyAmount, ← Nat.zero_add (tx.vout.map (·.amount)).sum,
    ← foldl_wrapU64 _ 0 (by norm_num), List.foldl_map]
  rfl

theorem checkOutsOverflow_of_sum_lt (tx : Transaction) (bounded : (tx.vout.map (·.amount)).sum < 2 ^ 64) :
    checkOutsOverflow tx = true := by
  suffices running : ∀ (outs : List TxOut) (money : Nat), money + (outs.map (·.amount)).sum < 2 ^ 64 →
      (outs.foldl (fun (state : Option Nat) out => state.bind fun money =>
        if money > (out.amount + money) % 2 ^ 64 then none
        else some ((money + out.amount) % 2 ^ 64)) (some money)).isSome by
    exact running tx.vout 0 (by simpa using bounded)
  intro outs
  induction outs with
  | nil => intro money _; rfl
  | cons out rest inductionHypothesis =>
    intro money within
    simp only [List.map_cons, List.sum_cons] at within
    have noWrap : (out.amount + money) % 2 ^ 64 = out.amount + money := Nat.mod_eq_of_lt (by omega)
    have noWrap' : (money + out.amount) % 2 ^ 64 = money + out.amount := Nat.mod_eq_of_lt (by omega)
    simp only [List.foldl_cons, Option.bind_some, noWrap, noWrap', gt_iff_lt,
      show ¬out.amount + money < money by omega, if_false]
    exact inductionHypothesis _ (by omega)

theorem constructMinerTx_spec {height medianWeight alreadyGeneratedCoins currentBlockWeight fee : Nat}
    {txPubKey : Pod 32} {outputKey : Nat → Key} {tx : Transaction} {extraNonce : List UInt8}
    {maxOuts hardForkVersion : Nat} {minerTx : Transaction}
    (constructed : constructMinerTx height medianWeight alreadyGeneratedCoins currentBlockWeight fee txPubKey
      outputKey tx extraNonce maxOuts hardForkVersion = some minerTx) :
    ∃ reward, getBlockReward medianWeight currentBlockWeight alreadyGeneratedCoins hardForkVersion = some reward ∧
      minerTx.vin = [.gen height] ∧ minerTx.unlockTime = height + CRYPTONOTE_MINED_MONEY_UNLOCK_WINDOW ∧
      (minerTx.vout.map (·.amount)).sum = clampBlockReward hardForkVersion (wrapU64 (reward + fee)) ∧
      (2 ≤ hardForkVersion → hardForkVersion < 4 → 0 < height →
        ∀ out ∈ minerTx.vout, isValidDecomposedAmount out.amount = true) := by
  unfold constructMinerTx at constructed
  simp only [Option.bind_eq_some_iff, bind, pure] at constructed
  obtain ⟨extra, -, reward, rewarded, outAmounts, cut, built⟩ := constructed
  have bounded : clampBlockReward hardForkVersion (wrapU64 (reward + fee)) < 2 ^ 64 :=
    Nat.lt_of_le_of_lt (clampBlockReward_le _ _) (wrapU64_lt _)
  split at built
  · cases built
  cases built
  have amounts : (outAmounts.zipIdx.map fun (amount, no) => (⟨amount, .toKey (outputKey no)⟩ : TxOut)).map
      (·.amount) = outAmounts := by
    simp [List.map_map, Function.comp_def]
  refine ⟨reward, rewarded, rfl, rfl, ?_, ?_⟩
  · rw [amounts]
    exact minerOutAmounts_sum bounded cut
  · intro atLeastTwo belowFour aboveGenesis out member
    have valid := minerOutAmounts_valid bounded atLeastTwo belowFour aboveGenesis cut
    obtain ⟨⟨amount, no⟩, inZipIdx, rfl⟩ := List.mem_map.1 member
    exact valid amount (List.fst_mem_of_mem_zipIdx inZipIdx)

end ElectroneumClassic
