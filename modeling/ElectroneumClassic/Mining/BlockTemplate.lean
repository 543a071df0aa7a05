import ElectroneumClassic.Core.MainChain
import ElectroneumClassic.Pool.TxPool
import ElectroneumClassic.Mining.MinerTx

/-!
# Block templates

`Blockchain::create_block_template` makes the block a miner works on: the
header on the top of the chain, the pool transactions `fill_block_template`
picks, and a miner transaction paying the reward for the block's weight.  The
reward depends on the weight and the miner transaction is part of it, so the
miner transaction is built again until its weight is the one its reward was
computed for, padding its extra with zero bytes where it came out lighter.

The reward is computed for the median `m_current_block_cumul_weight_limit / 2`,
which `update_next_cumulative_weight_limit` sets from the median of the last
`CRYPTONOTE_REWARD_BLOCKS_WINDOW` block weights that `validate_miner_transaction`
uses.  A template is cached, keyed by the miner's address, the extra nonce and
the pool's cookie.
-/

namespace ElectroneumClassic

open Cryptonote BlockchainDB Config Machine Serialization

/-- `account_public_address`. -/
structure AccountPublicAddress where
  spendPublicKey : Key
  viewPublicKey : Key
  deriving DecidableEq, Repr

/-- What `create_block_template` calls without the model embedding it. -/
structure MinerEnv where
  getTransactionWeight : Transaction → Nat
  /-- The public half of the key `keypair::generate` gives the miner transaction. -/
  txPubKey : Pod 32
  /-- The one-time key of the miner's output `no`, from `generate_key_derivation`
  and `derive_public_key`. -/
  outputKey : AccountPublicAddress → Nat → Key
  /-- `is_transaction_ready_to_go`: whether the pool transaction may go in the
  next block, with the highest block its inputs use and the double-spend flag
  it writes back to the meta. -/
  isTransactionReadyToGo : TxpoolTxMeta → Hash → Transaction → Bool × Nat × Hash × Bool

/-! ## `fill_block_template` -/

/-- `template_accept_threshold(amount)`: the `float` product
`amount * ACCEPT_THRESHOLD` with `ACCEPT_THRESHOLD = 1.0f`, the amount rounded to
24 significant bits, ties to even, and converted back. -/
def templateAcceptThreshold (amount : Nat) : Nat :=
  let shift := Nat.log2 amount + 1 - 24
  if shift = 0 then amount
  else
    let kept := amount >>> shift
    let dropped := amount % 2 ^ shift
    let half := 2 ^ (shift - 1)
    let kept := if dropped > half ∨ (dropped = half ∧ kept % 2 = 1) then kept + 1 else kept
    wrapU64 (kept <<< shift)

/-- `have_key_images`: an input's key image is already in the block; the loop
stops at an input that is not `txin_to_key`. -/
def haveKeyImages (kImages : List KeyImage) : List TxinV → Bool
  | [] => false
  | .toKey _ _ kImage :: rest => kImages.contains kImage || haveKeyImages kImages rest
  | _ :: _ => false

/-- `append_key_images`: the inputs' key images join the set, up to an input
that is not `txin_to_key` or a key image already there. -/
def appendKeyImages (kImages : List KeyImage) : List TxinV → List KeyImage
  | [] => kImages
  | .toKey _ _ kImage :: rest =>
    if kImage ∈ kImages then kImages else appendKeyImages (kImages ++ [kImage]) rest
  | _ :: _ => kImages

/-- The locals of the loop of `fill_block_template`, and the pool's table the
loop writes metas back to. -/
structure Filling where
  txHashes : List Hash
  totalWeight : Nat
  fee : Nat
  bestCoinbase : Nat
  coinbase : Nat
  kImages : List KeyImage
  table : PoolTable

/-- `update_txpool_tx` where `is_transaction_ready_to_go` changed the meta. -/
def writeBackMeta (table : PoolTable) (txid : Hash) (original updated : TxpoolTxMeta) (tx : Transaction) :
    PoolTable :=
  if updated ≠ original then table.insert txid (updated, tx) else table

/-- The tail of the loop's body: the meta `is_transaction_ready_to_go` wrote is
kept, and a ready transaction whose key images are new joins the block with
the coinbase computed for it. -/
def addIfReady (env : MinerEnv) (txid : Hash) (txMeta : TxpoolTxMeta) (tx : Transaction)
    (f : Filling) : Filling :=
  let (ready, maxUsedBlockHeight, maxUsedBlockId, doubleSpendSeen) :=
    env.isTransactionReadyToGo txMeta txid tx
  let f := { f with
    table := writeBackMeta f.table txid txMeta { txMeta with maxUsedBlockHeight, maxUsedBlockId, doubleSpendSeen } tx }
  if !ready then f
  else if haveKeyImages f.kImages tx.vin then f
  else
    { f with
      txHashes := f.txHashes ++ [txid]
      totalWeight := wrapU64 (f.totalWeight + txMeta.weight)
      fee := wrapU64 (f.fee + txMeta.fee)
      bestCoinbase := f.coinbase
      kImages := appendKeyImages f.kImages tx.vin }

/-- One round of the loop of `fill_block_template` on a sorted entry; `none` for
the `break` before version 5, once the block is over the median. -/
def fillStep (env : MinerEnv) (medianWeight alreadyGeneratedCoins version maxTotalWeight : Nat)
    (entry : SortEntry) (f : Filling) : Option Filling :=
  match f.table.lookup entry.2 with
  | none => some f
  | some (txMeta, tx) =>
    -- `total_weight + meta.weight` is a `size_t`
    if maxTotalWeight < wrapU64 (f.totalWeight + txMeta.weight) then some f
    else if 5 ≤ version then
      -- from version 5 a transaction must not lower the coinbase
      match getBlockReward medianWeight (wrapU64 (f.totalWeight + txMeta.weight)) alreadyGeneratedCoins version with
      | none => some f
      | some blockReward =>
        let f := { f with coinbase := wrapU64 (blockReward + f.fee + txMeta.fee) }
        if f.coinbase < templateAcceptThreshold f.bestCoinbase then some f
        else some (addIfReady env entry.2 txMeta tx f)
    else if f.totalWeight > medianWeight then none
    else some (addIfReady env entry.2 txMeta tx f)

/-- The loop of `fill_block_template` over the sorted entries. -/
def fillLoop (env : MinerEnv) (medianWeight alreadyGeneratedCoins version maxTotalWeight : Nat) :
    List SortEntry → Filling → Filling
  | [], f => f
  | entry :: rest, f =>
    match fillStep env medianWeight alreadyGeneratedCoins version maxTotalWeight entry f with
    | none => f
    | some f => fillLoop env medianWeight alreadyGeneratedCoins version maxTotalWeight rest f

/-- `fill_block_template(bl, median_weight, already_generated_coins, total_weight,
fee, expected_reward, version)`: the loop's last locals, which hold the hashes
added to the block, the weight, the fee and, as the best coinbase, the expected
reward. -/
def fillBlockTemplate (env : MinerEnv) (s : TxMemoryPool) (medianWeight alreadyGeneratedCoins version : Nat) :
    Filling :=
  let bestCoinbase := (getBlockReward medianWeight 0 alreadyGeneratedCoins version).getD 0
  let maxTotalWeightPreV5 :=
    subU64 (wrapU64 (130 * medianWeight) / 100) CRYPTONOTE_COINBASE_BLOB_RESERVED_SIZE
  let maxTotalWeightV5 := subU64 (wrapU64 (2 * medianWeight)) CRYPTONOTE_COINBASE_BLOB_RESERVED_SIZE
  let maxTotalWeight := if 5 ≤ version then maxTotalWeightV5 else maxTotalWeightPreV5
  fillLoop env medianWeight alreadyGeneratedCoins version maxTotalWeight s.txsByFeeAndReceiveTime
    ⟨[], 0, 0, bestCoinbase, 0, [], s.table⟩

/-! ## `create_block_template` -/

namespace Blockchain

variable {Pool : Type}

/-- The limit `update_next_cumulative_weight_limit` sets: twice the median of
the last block weights, raised to the full reward zone. -/
def updateNextCumulativeWeightLimit (s : Blockchain Pool) : Nat :=
  let fullRewardZone := getMinBlockWeight s.getCurrentHardForkVersion
  let median := median (getLastNBlocksWeights s.db CRYPTONOTE_REWARD_BLOCKS_WINDOW)
  let median := if median ≤ fullRewardZone then fullRewardZone else median
  wrapU64 (median * 2)

/-- The median `check_block_timestamp(b, median_ts)` writes: of the last
`BLOCKCHAIN_TIMESTAMP_CHECK_WINDOW` timestamps. -/
def timestampMedian (s : Blockchain Pool) : Nat :=
  let h := s.db.height
  median ((List.range' (h - BLOCKCHAIN_TIMESTAMP_CHECK_WINDOW) BLOCKCHAIN_TIMESTAMP_CHECK_WINDOW).map
    s.db.getBlockTimestamp)

end Blockchain

/-- The template `cache_block_template` keeps while `m_btc_valid`, with what
it was made for. -/
structure BlockTemplateCache where
  btc : Block
  btcAddress : AccountPublicAddress
  btcNonce : List UInt8
  btcDifficulty : Nat
  btcExpectedReward : Nat
  btcPoolCookie : Nat
  deriving DecidableEq, Repr

/-- The members `create_block_template` reads besides the chain: the weight
limit, the cached template, and the cookie of the pool, which changes with the
pool's contents. -/
structure MiningState where
  chain : Blockchain TxMemoryPool
  currentBlockCumulWeightLimit : Nat
  btc : Option BlockTemplateCache
  poolCookie : Nat

/-- The loop of `create_block_template` over ten tries: the miner transaction is
built for the weight `cumulativeWeight`; a heavier one raises that weight, a
lighter one gets zero bytes in its extra, one fewer where the length of the
extra grew a byte.  The miner transaction and its weight; `none` where the
source returns `false`. -/
def padMinerTx (env : MinerEnv) (minerAddress : AccountPublicAddress)
    (height medianWeight alreadyGeneratedCoins txsWeight fee : Nat) (exNonce : List UInt8)
    (maxOuts version : Nat) : Nat → Transaction → Nat → Option (Transaction × Nat)
  | 0, _, _ => none
  | tries + 1, minerTx, cumulativeWeight =>
    match constructMinerTx height medianWeight alreadyGeneratedCoins cumulativeWeight fee env.txPubKey
        (env.outputKey minerAddress) minerTx exNonce maxOuts version with
    | none => none
    | some minerTx =>
      let finish (minerTx : Transaction) : Option (Transaction × Nat) :=
        if cumulativeWeight = txsWeight + env.getTransactionWeight minerTx then some (minerTx, cumulativeWeight)
        else none
      let coinbaseWeight := env.getTransactionWeight minerTx
      if coinbaseWeight > cumulativeWeight - txsWeight then
        padMinerTx env minerAddress height medianWeight alreadyGeneratedCoins txsWeight fee exNonce maxOuts
          version tries minerTx (txsWeight + coinbaseWeight)
      else if coinbaseWeight < cumulativeWeight - txsWeight then
        let delta := cumulativeWeight - txsWeight - coinbaseWeight
        let minerTx := { minerTx with extra := minerTx.extra ++ List.replicate delta 0 }
        if cumulativeWeight ≠ txsWeight + env.getTransactionWeight minerTx then
          if cumulativeWeight + 1 ≠ txsWeight + env.getTransactionWeight minerTx then none
          else
            let minerTx := { minerTx with extra := minerTx.extra.dropLast }
            if cumulativeWeight ≠ txsWeight + env.getTransactionWeight minerTx then
              padMinerTx env minerAddress height medianWeight alreadyGeneratedCoins txsWeight fee exNonce
                maxOuts version tries minerTx (cumulativeWeight + delta - 1)
            else finish minerTx
        else finish minerTx
      else finish minerTx

/-- `create_block_template` past the cache: the header, the pool's transactions
and the miner transaction, then the new cache.  The block, its difficulty, its
height and the expected reward. -/
def createFreshBlockTemplate (env : MinerEnv) (st : MiningState) (minerAddress : AccountPublicAddress)
    (exNonce : List UInt8) : Option (Block × Nat × Nat × Nat) × MiningState :=
  let s := st.chain
  let height := s.db.height
  let b : Block := { (default : Block) with
    majorVersion := s.hardfork.getCurrentVersion
    minorVersion := s.hardfork.getIdealVersion
    prevId := s.getTailId
    timestamp := s.now }
  let b := if s.checkBlockTimestamp b then b else { b with timestamp := s.timestampMedian }
  match Blockchain.getDifficultyForNextBlock.run s with
  | .error _ s => (none, { st with chain := s })
  | .ok diffic s =>
    if diffic = 0 then (none, { st with chain := s })
    else
      let medianWeight := st.currentBlockCumulWeightLimit / 2
      -- on an empty chain the source reads height `2 ^ 64 - 1`, which is not stored either
      let alreadyGeneratedCoins := s.db.getBlockAlreadyGeneratedCoins (height - 1)
      let version := s.hardfork.getCurrentVersion
      let filled := fillBlockTemplate env s.pool medianWeight alreadyGeneratedCoins version
      let b := { b with txHashes := filled.txHashes }
      let st := { st with chain := { s with pool := { s.pool with table := filled.table } } }
      let maxOuts := if 4 ≤ version then 1 else 11
      match constructMinerTx height medianWeight alreadyGeneratedCoins filled.totalWeight filled.fee
          env.txPubKey (env.outputKey minerAddress) b.minerTx exNonce maxOuts version with
      | none => (none, st)
      | some minerTx =>
        match padMinerTx env minerAddress height medianWeight alreadyGeneratedCoins filled.totalWeight
            filled.fee exNonce maxOuts version 10 minerTx
            (filled.totalWeight + env.getTransactionWeight minerTx) with
        | none => (none, st)
        | some (minerTx, _) =>
          let b := { b with minerTx }
          (some (b, diffic, height, filled.bestCoinbase),
            { st with btc := some ⟨b, minerAddress, exNonce, diffic, filled.bestCoinbase, st.poolCookie⟩ })

/-- `create_block_template(b, miner_address, diffic, height, expected_reward,
ex_nonce)` for a caller's fresh block: a cached template for the same address,
nonce and pool cookie comes back with the current time; any other cache is
dropped. -/
def createBlockTemplate (env : MinerEnv) (st : MiningState) (minerAddress : AccountPublicAddress)
    (exNonce : List UInt8) : Option (Block × Nat × Nat × Nat) × MiningState :=
  match st.btc with
  | some cache =>
    if cache.btcAddress = minerAddress ∧ cache.btcNonce = exNonce ∧ cache.btcPoolCookie = st.poolCookie then
      let btc := { cache.btc with timestamp := st.chain.now }
      (some (btc, cache.btcDifficulty, st.chain.db.height, cache.btcExpectedReward),
        { st with btc := some { cache with btc } })
    else createFreshBlockTemplate env { st with btc := none } minerAddress exNonce
  | none => createFreshBlockTemplate env st minerAddress exNonce

/-! ## Templates and validation

A template made past the cache holds the transactions `fill_block_template`
took, whose weights and fees the loop adds up from the pool's metas, and a
miner transaction built for the block's weight.  With the weight limit as
`update_next_cumulative_weight_limit` sets it, the reward the template pays is
the reward the validator computes; at versions 2 and 3 the sum is lowered to a
multiple of `BASE_REWARD_CLAMP_THRESHOLD` and can fall below the fees. -/

/-- The weight of a pool transaction's meta; `0` for a hash not in the pool. -/
def metaWeight (table : PoolTable) (txid : Hash) : Nat := ((table.lookup txid).map (·.1.weight)).getD 0

/-- The fee of a pool transaction's meta; `0` for a hash not in the pool. -/
def metaFee (table : PoolTable) (txid : Hash) : Nat := ((table.lookup txid).map (·.1.fee)).getD 0

theorem metaWeight_of_lookup {table : PoolTable} {txid : Hash} {txMeta : TxpoolTxMeta} {tx : Transaction}
    (found : table.lookup txid = some (txMeta, tx)) : metaWeight table txid = txMeta.weight := by
  simp [metaWeight, found]

theorem metaFee_of_lookup {table : PoolTable} {txid : Hash} {txMeta : TxpoolTxMeta} {tx : Transaction}
    (found : table.lookup txid = some (txMeta, tx)) : metaFee table txid = txMeta.fee := by
  simp [metaFee, found]

/-- A meta written back with its weight and fee leaves every weight and fee of the table. -/
theorem writeBackMeta_same {table : PoolTable} {txid : Hash} {txMeta updated : TxpoolTxMeta} {tx : Transaction}
    (found : table.lookup txid = some (txMeta, tx)) (sameWeight : updated.weight = txMeta.weight)
    (sameFee : updated.fee = txMeta.fee) :
    metaWeight (writeBackMeta table txid txMeta updated tx) = metaWeight table ∧
      metaFee (writeBackMeta table txid txMeta updated tx) = metaFee table := by
  unfold writeBackMeta
  split
  · constructor
    all_goals
      funext other
      by_cases same : other = txid
      · subst same
        simp [metaWeight, metaFee, found, sameWeight, sameFee]
      · simp [metaWeight, metaFee, AList.lookup_insert_ne same]
  · exact ⟨rfl, rfl⟩

/-- What `addIfReady` does: the meta `is_transaction_ready_to_go` wrote is kept,
with the weight and fee it had, and either nothing else changes or the
transaction, none of whose key images is in the block, is taken with the
coinbase computed for it. -/
theorem addIfReady_cases (env : MinerEnv) (txid : Hash) (txMeta : TxpoolTxMeta) (tx : Transaction) (f : Filling) :
    ∃ updated : TxpoolTxMeta, updated.weight = txMeta.weight ∧ updated.fee = txMeta.fee ∧
      (addIfReady env txid txMeta tx f = { f with table := writeBackMeta f.table txid txMeta updated tx } ∨
        haveKeyImages f.kImages tx.vin = false ∧
          addIfReady env txid txMeta tx f = { f with
            table := writeBackMeta f.table txid txMeta updated tx
            txHashes := f.txHashes ++ [txid]
            totalWeight := wrapU64 (f.totalWeight + txMeta.weight)
            fee := wrapU64 (f.fee + txMeta.fee)
            bestCoinbase := f.coinbase
            kImages := appendKeyImages f.kImages tx.vin }) := by
  unfold addIfReady
  generalize env.isTransactionReadyToGo txMeta txid tx = answer
  obtain ⟨ready, maxUsedBlockHeight, maxUsedBlockId, doubleSpendSeen⟩ := answer
  refine ⟨{ txMeta with maxUsedBlockHeight, maxUsedBlockId, doubleSpendSeen }, rfl, rfl, ?_⟩
  dsimp only
  split
  · exact .inl rfl
  · split
    · exact .inl rfl
    · rename_i fresh
      exact .inr ⟨Bool.not_eq_true _ ▸ fresh, rfl⟩

/-- What one round of the loop does: it leaves the locals as they are, or finds
the entry's transaction within the weight limit; from version 5 it then sets
the coinbase for the reward at the new weight and passes the transaction to
`addIfReady` where that coinbase reaches the threshold, and before version 5
it passes it while the block is within the median. -/
theorem fillStep_cases {env : MinerEnv} {medianWeight alreadyGeneratedCoins version maxTotalWeight : Nat}
    {entry : SortEntry} {f f' : Filling}
    (stepped : fillStep env medianWeight alreadyGeneratedCoins version maxTotalWeight entry f = some f') :
    f' = f ∨ ∃ txMeta tx, f.table.lookup entry.2 = some (txMeta, tx) ∧
      wrapU64 (f.totalWeight + txMeta.weight) ≤ maxTotalWeight ∧
      ((5 ≤ version ∧ ∃ blockReward,
          getBlockReward medianWeight (wrapU64 (f.totalWeight + txMeta.weight)) alreadyGeneratedCoins version =
            some blockReward ∧
          (f' = { f with coinbase := wrapU64 (blockReward + f.fee + txMeta.fee) } ∨
            templateAcceptThreshold f.bestCoinbase ≤ wrapU64 (blockReward + f.fee + txMeta.fee) ∧
              f' = addIfReady env entry.2 txMeta tx
                { f with coinbase := wrapU64 (blockReward + f.fee + txMeta.fee) })) ∨
        (version < 5 ∧ f.totalWeight ≤ medianWeight ∧ f' = addIfReady env entry.2 txMeta tx f)) := by
  unfold fillStep at stepped
  split at stepped
  · exact .inl (Option.some.inj stepped).symm
  rename_i txMeta tx found
  split at stepped
  · exact .inl (Option.some.inj stepped).symm
  rename_i fits
  split at stepped
  · rename_i recent
    split at stepped
    · exact .inl (Option.some.inj stepped).symm
    rename_i blockReward rewarded
    refine .inr ⟨txMeta, tx, found, Nat.le_of_not_lt fits, .inl ⟨recent, blockReward, rewarded, ?_⟩⟩
    dsimp only at stepped
    split at stepped
    · exact .inl (Option.some.inj stepped).symm
    · rename_i reached
      exact .inr ⟨Nat.le_of_not_lt reached, (Option.some.inj stepped).symm⟩
  · rename_i old
    split at stepped
    · cases stepped
    · rename_i withinMedian
      exact .inr ⟨txMeta, tx, found, Nat.le_of_not_lt fits,
        .inr ⟨Nat.lt_of_not_le old, Nat.le_of_not_lt withinMedian, (Option.some.inj stepped).symm⟩⟩

namespace Filling

/-- The loop's weight and fee are those the pool's metas give the hashes taken, added in
`size_t` and `uint64_t`. -/
structure Sound (f : Filling) : Prop where
  weight : f.totalWeight = wrapU64 (f.txHashes.map (metaWeight f.table)).sum
  fee : f.fee = wrapU64 (f.txHashes.map (metaFee f.table)).sum

theorem Sound.with_table {f : Filling} (sound : f.Sound) {table : PoolTable}
    (weights : metaWeight table = metaWeight f.table) (fees : metaFee table = metaFee f.table) :
    ({ f with table } : Filling).Sound :=
  ⟨by rw [weights]; exact sound.weight, by rw [fees]; exact sound.fee⟩

theorem Sound.take {f : Filling} (sound : f.Sound) {txid : Hash} {txMeta : TxpoolTxMeta}
    (weight : metaWeight f.table txid = txMeta.weight) (fee : metaFee f.table txid = txMeta.fee)
    (coinbase : Nat) (kImages : List KeyImage) :
    ({ f with
      txHashes := f.txHashes ++ [txid]
      totalWeight := wrapU64 (f.totalWeight + txMeta.weight)
      fee := wrapU64 (f.fee + txMeta.fee)
      bestCoinbase := coinbase
      kImages } : Filling).Sound := by
  constructor
  · simp only [List.map_append, List.map_cons, List.map_nil, List.sum_append, List.sum_cons, List.sum_nil,
      Nat.add_zero, weight, sound.weight]
    unfold wrapU64
    rw [Nat.mod_add_mod]
  · simp only [List.map_append, List.map_cons, List.map_nil, List.sum_append, List.sum_cons, List.sum_nil,
      Nat.add_zero, fee, sound.fee]
    unfold wrapU64
    rw [Nat.mod_add_mod]

theorem Sound.addIfReady {f : Filling} (sound : f.Sound) (env : MinerEnv) {txid : Hash}
    {txMeta : TxpoolTxMeta} {tx : Transaction} (found : f.table.lookup txid = some (txMeta, tx)) :
    (ElectroneumClassic.addIfReady env txid txMeta tx f).Sound := by
  obtain ⟨updated, sameWeight, sameFee, skipped | ⟨-, taken⟩⟩ := addIfReady_cases env txid txMeta tx f
  all_goals
    obtain ⟨weights, fees⟩ := writeBackMeta_same found sameWeight sameFee
    have written := sound.with_table weights fees
  · rw [skipped]
    exact written
  · rw [taken]
    exact written.take (by rw [weights, metaWeight_of_lookup found]) (by rw [fees, metaFee_of_lookup found]) _ _

theorem Sound.fillStep {f f' : Filling} (sound : f.Sound) (env : MinerEnv)
    {medianWeight alreadyGeneratedCoins version maxTotalWeight : Nat} {entry : SortEntry}
    (stepped : ElectroneumClassic.fillStep env medianWeight alreadyGeneratedCoins version maxTotalWeight entry f =
      some f') : f'.Sound := by
  -- the coinbase of the version-5 check changes no sum and no meta
  have withCoinbase : ∀ coinbase, ({ f with coinbase } : Filling).Sound :=
    fun _ => ⟨sound.weight, sound.fee⟩
  rcases fillStep_cases stepped with rfl | ⟨txMeta, tx, found, -, ⟨-, -, -, rfl | ⟨-, rfl⟩⟩ | ⟨-, -, rfl⟩⟩
  · exact sound
  · exact withCoinbase _
  · exact Sound.addIfReady (withCoinbase _) env found
  · exact Sound.addIfReady sound env found

theorem Sound.fillLoop (env : MinerEnv) (medianWeight alreadyGeneratedCoins version maxTotalWeight : Nat) :
    ∀ (entries : List SortEntry) (f : Filling), f.Sound →
      (ElectroneumClassic.fillLoop env medianWeight alreadyGeneratedCoins version maxTotalWeight entries f).Sound
  | [], f, sound => sound
  | entry :: rest, f, sound => by
    unfold ElectroneumClassic.fillLoop
    split
    · exact sound
    · rename_i f' stepped
      exact Sound.fillLoop env medianWeight alreadyGeneratedCoins version maxTotalWeight rest f'
        (sound.fillStep env stepped)

end Filling

theorem fillBlockTemplate_sound (env : MinerEnv) (s : TxMemoryPool) (medianWeight alreadyGeneratedCoins version : Nat) :
    (fillBlockTemplate env s medianWeight alreadyGeneratedCoins version).Sound :=
  Filling.Sound.fillLoop env _ _ _ _ _ _ ⟨rfl, rfl⟩

/-- What the loop of ten tries gives back: a miner transaction built for the
weight it returns, with only its extra padded, and whose weight with the pool
transactions is that weight. -/
theorem padMinerTx_spec (env : MinerEnv) (minerAddress : AccountPublicAddress)
    (height medianWeight alreadyGeneratedCoins txsWeight fee : Nat) (exNonce : List UInt8) (maxOuts version : Nat) :
    ∀ (tries : Nat) (minerTx : Transaction) (cumulativeWeight : Nat) {padded : Transaction} {weight : Nat},
      padMinerTx env minerAddress height medianWeight alreadyGeneratedCoins txsWeight fee exNonce maxOuts version
        tries minerTx cumulativeWeight = some (padded, weight) →
      ∃ previous built, constructMinerTx height medianWeight alreadyGeneratedCoins weight fee env.txPubKey
          (env.outputKey minerAddress) previous exNonce maxOuts version = some built ∧
        padded = { built with extra := padded.extra } ∧ weight = txsWeight + env.getTransactionWeight padded
  | 0, _, _, _, _, tried => by cases tried
  | tries + 1, minerTx, cumulativeWeight, padded, weight, tried => by
    unfold padMinerTx at tried
    split at tried
    · cases tried
    · rename_i built constructed
      dsimp only at tried
      -- every way out but a retry checks the weight it was built for
      have finish : ∀ extra, (if cumulativeWeight = txsWeight + env.getTransactionWeight { built with extra }
          then some ({ built with extra }, cumulativeWeight) else none) = some (padded, weight) →
          ∃ previous built, constructMinerTx height medianWeight alreadyGeneratedCoins weight fee env.txPubKey
            (env.outputKey minerAddress) previous exNonce maxOuts version = some built ∧
          padded = { built with extra := padded.extra } ∧ weight = txsWeight + env.getTransactionWeight padded := by
        intro extra finished
        split at finished
        · rename_i fits
          cases finished
          exact ⟨minerTx, built, constructed, rfl, fits⟩
        · cases finished
      split at tried
      · exact padMinerTx_spec env minerAddress height medianWeight alreadyGeneratedCoins txsWeight fee exNonce
          maxOuts version tries _ _ tried
      · split at tried
        · split at tried
          · split at tried
            · cases tried
            · split at tried
              · exact padMinerTx_spec env minerAddress height medianWeight alreadyGeneratedCoins txsWeight fee
                  exNonce maxOuts version tries _ _ tried
              · exact finish _ tried
          · exact finish _ tried
        · exact finish built.extra tried

namespace Blockchain

variable {Pool : Type}

/-- `get_difficulty_for_next_block` never throws and writes only its caches. -/
theorem getDifficultyForNextBlock_frame (s : Blockchain Pool) :
    ∃ diffic s', getDifficultyForNextBlock.run s = .ok diffic s' ∧ s'.db = s.db ∧ s'.hardfork = s.hardfork ∧
      s'.pool = s.pool ∧ s'.now = s.now := by
  rw [getDifficultyForNextBlock_run]
  split
  · exact ⟨_, s, rfl, rfl, rfl, rfl, rfl⟩
  · split
    · exact ⟨_, s, rfl, rfl, rfl, rfl, rfl⟩
    · exact ⟨_, s.withDifficultyCached, rfl, rfl, rfl, rfl, rfl⟩

/-- The header's time, moved up to the median where it was below it, passes the
median rule. -/
theorem timestamp_passes_median (s : Blockchain Pool) (b : Block) (current : b.timestamp = s.now) :
    s.db.height < BLOCKCHAIN_TIMESTAMP_CHECK_WINDOW ∨
      s.timestampMedian ≤ (if s.checkBlockTimestamp b then b else { b with timestamp := s.timestampMedian }).timestamp := by
  split
  · rename_i passed
    unfold checkBlockTimestamp at passed
    rw [if_neg (by omega)] at passed
    split at passed
    · exact Or.inl ‹_›
    · exact Or.inr (of_decide_eq_true passed)
  · exact Or.inr (Nat.le_refl _)

/-- Half the limit is the median of the last weights raised to the full reward
zone, while twice that median fits 64 bits. -/
theorem updateNextCumulativeWeightLimit_half (s : Blockchain Pool)
    (light : median (getLastNBlocksWeights s.db CRYPTONOTE_REWARD_BLOCKS_WINDOW) < 2 ^ 63) :
    s.updateNextCumulativeWeightLimit / 2 =
      if median (getLastNBlocksWeights s.db CRYPTONOTE_REWARD_BLOCKS_WINDOW) ≤ getMinBlockWeight s.getCurrentHardForkVersion
      then getMinBlockWeight s.getCurrentHardForkVersion
      else median (getLastNBlocksWeights s.db CRYPTONOTE_REWARD_BLOCKS_WINDOW) := by
  have zoneBound := getMinBlockWeight_le s.getCurrentHardForkVersion
  unfold updateNextCumulativeWeightLimit
  unfold CRYPTONOTE_BLOCK_GRANTED_FULL_REWARD_ZONE_V5 at zoneBound
  dsimp only
  split
  · rw [wrapU64_of_lt (by omega)]
    omega
  · rw [wrapU64_of_lt (by omega)]
    omega

/-- With the limit `update_next_cumulative_weight_limit` set, half of it gives
the reward the median of the last weights gives. -/
theorem getBlockReward_half_limit (s : Blockchain Pool) (weight alreadyGeneratedCoins : Nat)
    (weighted : 0 < median (getLastNBlocksWeights s.db CRYPTONOTE_REWARD_BLOCKS_WINDOW))
    (light : median (getLastNBlocksWeights s.db CRYPTONOTE_REWARD_BLOCKS_WINDOW) < 2 ^ 63) :
    getBlockReward (s.updateNextCumulativeWeightLimit / 2) weight alreadyGeneratedCoins s.getCurrentHardForkVersion =
      getBlockReward (median (getLastNBlocksWeights s.db CRYPTONOTE_REWARD_BLOCKS_WINDOW)) weight
        alreadyGeneratedCoins s.getCurrentHardForkVersion := by
  have zone := getMinBlockWeight_pos s.getCurrentHardForkVersion
  apply getBlockReward_congr_median
  · rw [updateNextCumulativeWeightLimit_half s light]
    split <;> omega
  · rw [updateNextCumulativeWeightLimit_half s light]
    split_ifs <;> omega

/-- `validate_miner_transaction` on a miner transaction paying the reward and
the fees, lowered at versions 2 and 3: it refuses exactly where the lowered sum
is below the fees, which it takes back out in unsigned arithmetic. -/
theorem validateMinerTransaction_eq_none_iff (s : Blockchain Pool) (b : Block) {weight fee alreadyGeneratedCoins reward : Nat}
    (rewarded : getBlockReward (median (getLastNBlocksWeights s.db CRYPTONOTE_REWARD_BLOCKS_WINDOW)) weight
      alreadyGeneratedCoins s.getCurrentHardForkVersion = some reward)
    (paid : getOutsMoneyAmount b.minerTx =
      clampBlockReward s.getCurrentHardForkVersion (wrapU64 (reward + fee)))
    (feeBounded : fee < 2 ^ 64)
    (decomposed : s.getCurrentHardForkVersion = 3 →
      ∀ out ∈ b.minerTx.vout, isValidDecomposedAmount out.amount = true) :
    s.validateMinerTransaction b weight fee alreadyGeneratedCoins s.getCurrentHardForkVersion = none ↔
      (s.getCurrentHardForkVersion = 2 ∨ s.getCurrentHardForkVersion = 3) ∧
        clampBlockReward s.getCurrentHardForkVersion (wrapU64 (reward + fee)) < fee ∧ reward + fee < 2 ^ 64 := by
  have bounded := getBlockReward_lt rewarded
  have allValid : ¬(s.getCurrentHardForkVersion = 3 ∧
      (!(b.minerTx.vout.all fun out => isValidDecomposedAmount out.amount)) = true) := by
    rintro ⟨three, invalid⟩
    have valid := decomposed three
    simp only [Bool.not_eq_eq_eq_not, Bool.not_true, List.all_eq_false] at invalid
    obtain ⟨out, member, refused⟩ := invalid
    simp [valid out member] at refused
  unfold validateMinerTransaction
  dsimp only
  rw [if_neg allValid, rewarded, paid]
  dsimp only
  have current : s.hardfork.getCurrentVersion = s.getCurrentHardForkVersion := rfl
  rw [current]
  unfold clampBlockReward
  -- the money in use is never above reward and fees; which check can refuse depends on the version
  by_cases old : s.getCurrentHardForkVersion < 2
  · have notClamped : ¬(2 ≤ s.getCurrentHardForkVersion ∧ s.getCurrentHardForkVersion < 4) := by omega
    simp only [if_neg notClamped, if_pos old, lt_irrefl, false_and, if_false, ne_eq, not_true_eq_false,
      reduceCtorEq, false_iff, not_and]
    omega
  · by_cases clamped : 2 ≤ s.getCurrentHardForkVersion ∧ s.getCurrentHardForkVersion < 4
    · simp only [if_pos clamped, if_neg old]
      unfold subU64 wrapU64 BASE_REWARD_CLAMP_THRESHOLD
      split_ifs <;> simp <;> omega
    · simp only [if_neg clamped, if_neg old]
      unfold subU64 wrapU64
      split_ifs <;> simp <;> omega

/-- The median of the last weights of an empty chain is `0`. -/
theorem height_pos_of_median_pos {db : Db} {count : Nat}
    (weighted : 0 < median (getLastNBlocksWeights db count)) : 0 < db.height := by
  by_contra empty
  unfold getLastNBlocksWeights at weighted
  rw [show db.height = 0 by omega] at weighted
  simp [median] at weighted

theorem timestampMedian_congr {s s' : Blockchain Pool} (sameDb : s'.db = s.db) :
    s'.timestampMedian = s.timestampMedian := by
  unfold timestampMedian
  rw [sameDb]

end Blockchain

/-- Outside the premine a reward exists only for a block within twice the
softened median. -/
theorem getBlockReward_weight_le {medianWeight currentBlockWeight alreadyGeneratedCoins version reward : Nat}
    (rewarded : getBlockReward medianWeight currentBlockWeight alreadyGeneratedCoins version = some reward)
    (mined : ¬(medianWeight > 0 ∧ alreadyGeneratedCoins < premine)) {softened : Nat}
    (softenedEq : softened =
      if medianWeight < getMinBlockWeight version then getMinBlockWeight version else medianWeight) :
    currentBlockWeight ≤ softened ∨ currentBlockWeight ≤ wrapU64 (2 * softened) := by
  unfold getBlockReward at rewarded
  rw [if_neg mined] at rewarded
  dsimp only at rewarded
  rw [← softenedEq] at rewarded
  split at rewarded
  · exact Or.inl ‹_›
  · split at rewarded
    · cases rewarded
    · exact Or.inr (Nat.le_of_not_lt ‹_›)

/-- A cache that does not match is dropped, and the template is made afresh. -/
theorem createBlockTemplate_of_miss (env : MinerEnv) (st : MiningState) (minerAddress : AccountPublicAddress)
    (exNonce : List UInt8)
    (miss : ∀ cache, st.btc = some cache →
      ¬(cache.btcAddress = minerAddress ∧ cache.btcNonce = exNonce ∧ cache.btcPoolCookie = st.poolCookie)) :
    ∃ st₀ : MiningState, st₀.chain = st.chain ∧ st₀.currentBlockCumulWeightLimit = st.currentBlockCumulWeightLimit ∧
      createBlockTemplate env st minerAddress exNonce = createFreshBlockTemplate env st₀ minerAddress exNonce := by
  unfold createBlockTemplate
  cases cached : st.btc with
  | none => exact ⟨st, rfl, rfl, rfl⟩
  | some cache =>
    dsimp only
    rw [if_neg (miss cache cached)]
    exact ⟨{ st with btc := none }, rfl, rfl, rfl⟩

/-- What a template made past the cache is: the chain's height, the chain
unchanged but for the metas written back, the transactions `fill_block_template`
took, a timestamp passing the median rule, and a miner transaction built for
the block's weight with only its extra padded. -/
theorem createFreshBlockTemplate_spec {env : MinerEnv} {st : MiningState} {minerAddress : AccountPublicAddress}
    {exNonce : List UInt8} {b : Block} {diffic height expectedReward : Nat} {st' : MiningState}
    (made : createFreshBlockTemplate env st minerAddress exNonce = (some (b, diffic, height, expectedReward), st')) :
    let s := st.chain
    let version := s.hardfork.getCurrentVersion
    let medianWeight := st.currentBlockCumulWeightLimit / 2
    let alreadyGeneratedCoins := s.db.getBlockAlreadyGeneratedCoins (s.db.height - 1)
    let filled := fillBlockTemplate env s.pool medianWeight alreadyGeneratedCoins version
    height = s.db.height ∧ st'.chain.db = s.db ∧ st'.chain.hardfork = s.hardfork ∧
      st'.chain.pool.table = filled.table ∧ b.txHashes = filled.txHashes ∧
      (s.db.height < BLOCKCHAIN_TIMESTAMP_CHECK_WINDOW ∨ s.timestampMedian ≤ b.timestamp) ∧
      ∃ previous built, constructMinerTx height medianWeight alreadyGeneratedCoins
          (filled.totalWeight + env.getTransactionWeight b.minerTx) filled.fee env.txPubKey
          (env.outputKey minerAddress) previous exNonce (if 4 ≤ version then 1 else 11) version = some built ∧
        b.minerTx = { built with extra := b.minerTx.extra } := by
  intro s version medianWeight alreadyGeneratedCoins filled
  obtain ⟨_, s', ran, sameDb, sameHardfork, samePool, -⟩ := Blockchain.getDifficultyForNextBlock_frame st.chain
  unfold createFreshBlockTemplate at made
  dsimp only at made
  rw [ran] at made
  dsimp only at made
  rw [sameDb, sameHardfork, samePool] at made
  split at made
  · cases made
  split at made
  · cases made
  split at made
  · cases made
  rename_i padded weight padding
  obtain ⟨previous, built, rebuilt, extraOnly, weighed⟩ := padMinerTx_spec _ _ _ _ _ _ _ _ _ _ _ _ _ padding
  cases made
  refine ⟨rfl, rfl, rfl, rfl, rfl, Blockchain.timestamp_passes_median st.chain _ rfl,
    previous, built, ?_, extraOnly⟩
  rw [← weighed]
  exact rebuilt

theorem create_block_template_validates_iff (env : MinerEnv) (st : MiningState)
    (minerAddress : AccountPublicAddress) (exNonce : List UInt8) {b : Block} {diffic height expectedReward : Nat}
    {st' : MiningState}
    (miss : ∀ cache, st.btc = some cache →
      ¬(cache.btcAddress = minerAddress ∧ cache.btcNonce = exNonce ∧ cache.btcPoolCookie = st.poolCookie))
    (limit : st.currentBlockCumulWeightLimit = st.chain.updateNextCumulativeWeightLimit)
    (weighted : 0 < median (Blockchain.getLastNBlocksWeights st.chain.db CRYPTONOTE_REWARD_BLOCKS_WINDOW))
    (light : median (Blockchain.getLastNBlocksWeights st.chain.db CRYPTONOTE_REWARD_BLOCKS_WINDOW) < 2 ^ 63)
    (made : createBlockTemplate env st minerAddress exNonce = (some (b, diffic, height, expectedReward), st')) :
    let s := st'.chain
    let version := s.getCurrentHardForkVersion
    let alreadyGeneratedCoins :=
      if s.db.height = 0 then 0 else s.db.getBlockAlreadyGeneratedCoins (s.db.height - 1)
    let weight := wrapU64 (b.txHashes.map (metaWeight s.pool.table)).sum + env.getTransactionWeight b.minerTx
    let fee := wrapU64 (b.txHashes.map (metaFee s.pool.table)).sum
    Blockchain.prevalidateMinerTransaction b height = true ∧
      (premine ≤ alreadyGeneratedCoins → weight ≤ st.currentBlockCumulWeightLimit) ∧
      (s.db.height < BLOCKCHAIN_TIMESTAMP_CHECK_WINDOW ∨ s.timestampMedian ≤ b.timestamp) ∧
      (version = 3 → ∀ out ∈ b.minerTx.vout, isValidDecomposedAmount out.amount = true) ∧
      ∃ reward, getBlockReward (median (Blockchain.getLastNBlocksWeights s.db CRYPTONOTE_REWARD_BLOCKS_WINDOW)) weight
          alreadyGeneratedCoins version = some reward ∧
        getOutsMoneyAmount b.minerTx = clampBlockReward version (wrapU64 (reward + fee)) ∧
        (s.validateMinerTransaction b weight fee alreadyGeneratedCoins version = none ↔
          (version = 2 ∨ version = 3) ∧ clampBlockReward version (wrapU64 (reward + fee)) < fee ∧
            reward + fee < 2 ^ 64) := by
  intro s version alreadyGeneratedCoins weight fee
  obtain ⟨st₀, sameChain, sameLimit, fresh⟩ := createBlockTemplate_of_miss env st minerAddress exNonce miss
  rw [fresh] at made
  obtain ⟨rfl, sameDb, sameHardfork, table, hashes, timestamp, previous, built, constructed, extraOnly⟩ :=
    createFreshBlockTemplate_spec made
  rw [sameChain] at sameDb sameHardfork table hashes timestamp constructed ⊢
  rw [sameLimit] at table hashes constructed
  have above := Blockchain.height_pos_of_median_pos weighted
  have sound := fillBlockTemplate_sound env st.chain.pool (st.currentBlockCumulWeightLimit / 2)
    (st.chain.db.getBlockAlreadyGeneratedCoins (st.chain.db.height - 1)) st.chain.hardfork.getCurrentVersion
  -- the block's weight, fees, coins and version as the template computed them
  have weightEq : weight = (fillBlockTemplate env st.chain.pool (st.currentBlockCumulWeightLimit / 2)
      (st.chain.db.getBlockAlreadyGeneratedCoins (st.chain.db.height - 1))
      st.chain.hardfork.getCurrentVersion).totalWeight + env.getTransactionWeight b.minerTx := by
    simp only [weight, s, hashes, table, ← sound.weight]
  have feeEq : fee = (fillBlockTemplate env st.chain.pool (st.currentBlockCumulWeightLimit / 2)
      (st.chain.db.getBlockAlreadyGeneratedCoins (st.chain.db.height - 1))
      st.chain.hardfork.getCurrentVersion).fee := by
    simp only [fee, s, hashes, table, ← sound.fee]
  have coinsEq : alreadyGeneratedCoins = st.chain.db.getBlockAlreadyGeneratedCoins (st.chain.db.height - 1) := by
    simp only [alreadyGeneratedCoins, s, sameDb, if_neg (Nat.pos_iff_ne_zero.1 above)]
  have versionEq : st.chain.hardfork.getCurrentVersion = version := by
    simp only [version, s, Blockchain.getCurrentHardForkVersion, sameHardfork]
  rw [← weightEq, ← feeEq, ← coinsEq, versionEq] at constructed
  obtain ⟨reward, rewarded, vin, unlock, paid, decomposed⟩ := constructMinerTx_spec constructed
  have vout : b.minerTx.vout = built.vout := by rw [extraOnly]
  have bounded : (b.minerTx.vout.map (·.amount)).sum < 2 ^ 64 := by
    rw [vout, paid]
    exact Nat.lt_of_le_of_lt (clampBlockReward_le _ _) (wrapU64_lt _)
  have money : getOutsMoneyAmount b.minerTx = clampBlockReward version (wrapU64 (reward + fee)) := by
    rw [getOutsMoneyAmount_eq, wrapU64_of_lt bounded, vout, paid]
  have sameVersion : st.chain.getCurrentHardForkVersion = version := versionEq
  -- half the limit and the median of the last weights give one reward
  have validatorReward : getBlockReward (median (Blockchain.getLastNBlocksWeights s.db CRYPTONOTE_REWARD_BLOCKS_WINDOW))
      weight alreadyGeneratedCoins version = some reward := by
    have half := Blockchain.getBlockReward_half_limit st.chain weight alreadyGeneratedCoins weighted light
    rw [sameVersion, ← limit, rewarded] at half
    rw [show s.db = st.chain.db from sameDb]
    exact half.symm
  have decomposedB : version = 3 → ∀ out ∈ b.minerTx.vout, isValidDecomposedAmount out.amount = true := by
    intro three
    rw [vout]
    exact decomposed (by omega) (by omega) above
  refine ⟨?_, ?_, ?_, decomposedB, reward, validatorReward, money, ?_⟩
  · unfold Blockchain.prevalidateMinerTransaction
    rw [extraOnly]
    simp only [vin, unlock, beq_self_eq_true, Bool.true_and]
    exact checkOutsOverflow_of_sum_lt _ (by rw [← vout]; exact bounded)
  · intro mined
    have zone := getMinBlockWeight_pos version
    have half := Blockchain.updateNextCumulativeWeightLimit_half st.chain light
    rw [sameVersion, ← limit] at half
    have limitBound : st.currentBlockCumulWeightLimit < 2 ^ 64 := by
      rw [limit]
      exact wrapU64_lt _
    have notPremine : ¬(st.currentBlockCumulWeightLimit / 2 > 0 ∧ alreadyGeneratedCoins < premine) := by omega
    -- past the premine the reward bounds the weight by twice the softened median, half the limit
    have within := getBlockReward_weight_le rewarded notPremine rfl
    unfold wrapU64 at within
    split_ifs at half within <;> omega
  · rw [Blockchain.timestampMedian_congr sameDb]
    simp only [s, sameDb]
    exact timestamp
  · exact Blockchain.validateMinerTransaction_eq_none_iff s b validatorReward money (wrapU64_lt _) decomposedB

/-! ## A version-2 template the validator refuses

At versions 2 and 3 `construct_miner_tx` rounds the reward down to a multiple
of `BASE_REWARD_CLAMP_THRESHOLD`; a reward below it leaves outputs worth `0`,
and `validate_miner_transaction` then subtracts the fees from that without a
check. -/

/-- A miner whose transactions weigh their extra plus 100 and whose pool
transactions are all ready. -/
def sampleMinerEnv : MinerEnv where
  getTransactionWeight tx := tx.extra.length + 100
  txPubKey := ⟨List.replicate 32 0, rfl⟩
  outputKey _ no := no
  isTransactionReadyToGo txMeta _ _ :=
    (true, txMeta.maxUsedBlockHeight, txMeta.maxUsedBlockId, txMeta.doubleSpendSeen)

/-- A genesis block of weight 100 after which the premine is paid. -/
def premineGenesis : BlockRecord :=
  { block := default, hash := 1, weight := 100, cumulativeDifficulty := 1, coinsGenerated := premine, cumRct := 0 }

/-- A pool holding one transaction of weight 100 paying 1000. -/
def feePool : TxMemoryPool :=
  ⟨AList.insert 5 (⟨nullHash, 0, 100, 1000, 0, 0, false, false, false, false⟩, TxMemoryPool.spendingTx 1000 7) ∅,
    150, 100, AList.insert 7 [5] ∅, [((10, 0), 5)], []⟩

/-- The genesis block at version 2, with `feePool`, at a fixed difficulty. -/
def versionTwoChain : Blockchain TxMemoryPool :=
  { db := ⟨[premineGenesis], [], [], [], [], false⟩, hardfork := ⟨2, 0, 10, 80, [⟨2, 0, 0, 0⟩], [], [], 0⟩,
    pool := feePool, checkpoints := ⟨∅⟩, alternativeChains := ∅, invalidBlocks := ∅,
    timestampsAndDifficultiesHeight := 0, timestamps := [], difficulties := [],
    difficultyForNextBlockTopHash := 0, difficultyForNextBlock := 0, blocksHashOfHashes := [],
    blocksHashCheck := [], blocksTxsCheck := [], fixedDifficulty := 1, now := 1000 }

/-- `versionTwoChain` with the limit `update_next_cumulative_weight_limit` sets
and no cached template. -/
def versionTwoMining : MiningState :=
  ⟨versionTwoChain, versionTwoChain.updateNextCumulativeWeightLimit, none, 0⟩

/-- The template made on `versionTwoMining`, and the state after it. -/
def versionTwoTemplate : (Block × Nat × Nat × Nat) × MiningState :=
  let made := createBlockTemplate sampleMinerEnv versionTwoMining ⟨0, 0⟩ []
  (made.1.getD default, made.2)

theorem version_two_template_refused :
    (∀ cache, versionTwoMining.btc = some cache →
      ¬(cache.btcAddress = ⟨0, 0⟩ ∧ cache.btcNonce = [] ∧ cache.btcPoolCookie = versionTwoMining.poolCookie)) ∧
    versionTwoMining.currentBlockCumulWeightLimit = versionTwoMining.chain.updateNextCumulativeWeightLimit ∧
    0 < median (Blockchain.getLastNBlocksWeights versionTwoMining.chain.db CRYPTONOTE_REWARD_BLOCKS_WINDOW) ∧
    median (Blockchain.getLastNBlocksWeights versionTwoMining.chain.db CRYPTONOTE_REWARD_BLOCKS_WINDOW) < 2 ^ 63 ∧
    createBlockTemplate sampleMinerEnv versionTwoMining ⟨0, 0⟩ [] =
      (some versionTwoTemplate.1, versionTwoTemplate.2) ∧
    versionTwoTemplate.2.chain.validateMinerTransaction versionTwoTemplate.1.1
      ((versionTwoTemplate.1.1.txHashes.map (metaWeight versionTwoTemplate.2.chain.pool.table)).sum +
        sampleMinerEnv.getTransactionWeight versionTwoTemplate.1.1.minerTx)
      (wrapU64 (versionTwoTemplate.1.1.txHashes.map (metaFee versionTwoTemplate.2.chain.pool.table)).sum)
      (if versionTwoTemplate.2.chain.db.height = 0 then 0
        else versionTwoTemplate.2.chain.db.getBlockAlreadyGeneratedCoins (versionTwoTemplate.2.chain.db.height - 1))
      versionTwoTemplate.2.chain.getCurrentHardForkVersion = none := by
  have miss : ∀ cache, versionTwoMining.btc = some cache →
      ¬(cache.btcAddress = ⟨0, 0⟩ ∧ cache.btcNonce = [] ∧ cache.btcPoolCookie = versionTwoMining.poolCookie) := by
    intro cache cached
    cases cached
  have made : createBlockTemplate sampleMinerEnv versionTwoMining ⟨0, 0⟩ [] =
      (some versionTwoTemplate.1, versionTwoTemplate.2) := by
    refine Prod.ext ?_ rfl
    decide +kernel
  have weighted : 0 < median (Blockchain.getLastNBlocksWeights versionTwoMining.chain.db
      CRYPTONOTE_REWARD_BLOCKS_WINDOW) := by decide +kernel
  have light : median (Blockchain.getLastNBlocksWeights versionTwoMining.chain.db
      CRYPTONOTE_REWARD_BLOCKS_WINDOW) < 2 ^ 63 := by decide +kernel
  refine ⟨miss, rfl, weighted, light, made, ?_⟩
  obtain ⟨-, -, -, -, reward, rewarded, -, refused⟩ :=
    create_block_template_validates_iff sampleMinerEnv versionTwoMining ⟨0, 0⟩ [] miss rfl weighted light made
  -- the validator's reward on this chain: the base reward after the premine
  have computed : getBlockReward (median (Blockchain.getLastNBlocksWeights versionTwoTemplate.2.chain.db
      CRYPTONOTE_REWARD_BLOCKS_WINDOW))
      (wrapU64 (versionTwoTemplate.1.1.txHashes.map (metaWeight versionTwoTemplate.2.chain.pool.table)).sum +
        sampleMinerEnv.getTransactionWeight versionTwoTemplate.1.1.minerTx)
      (if versionTwoTemplate.2.chain.db.height = 0 then 0
        else versionTwoTemplate.2.chain.db.getBlockAlreadyGeneratedCoins (versionTwoTemplate.2.chain.db.height - 1))
      versionTwoTemplate.2.chain.getCurrentHardForkVersion = some 1902580 := by decide +kernel
  obtain rfl : reward = 1902580 := Option.some.inj (rewarded.symm.trans computed)
  -- the one transaction taken weighs 100, far from a wrap in `size_t`
  have unwrapped : (versionTwoTemplate.1.1.txHashes.map (metaWeight versionTwoTemplate.2.chain.pool.table)).sum <
      2 ^ 64 := by decide +kernel
  rw [← wrapU64_of_lt unwrapped]
  exact refused.2 ⟨Or.inl (by decide +kernel), by decide +kernel, by decide +kernel⟩

end ElectroneumClassic
