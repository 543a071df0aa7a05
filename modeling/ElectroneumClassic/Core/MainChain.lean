import ElectroneumClassic.Core.Difficulty

/-!
# Adding and popping main-chain blocks

`handle_block_to_main_chain` checks a block that extends the top of the main
chain, takes its transactions from the pool and stores everything with
`add_block`; every refusal after the first transaction was taken hands the
taken transactions back to the pool.  `pop_block_from_blockchain` removes the
top block and offers its transactions back to the pool.

The block's checks are split as the source orders them: the header and proof
of work (`checkProofOfWork`), the transaction loop (`takeTransactions`), the
miner transaction's reward (`validateMinerTransaction`) and the store.
-/

namespace ElectroneumClassic

open Cryptonote BlockchainDB Config Machine

variable {Pool : Type}

namespace Blockchain

/-- `prevalidate_miner_transaction`: one `txin_gen` input claiming the block's
height, the mined-money unlock time and no overflowing output sum. -/
def prevalidateMinerTransaction (b : Block) (height : Nat) : Bool :=
  match b.minerTx.vin with
  | [.gen claimed] =>
    claimed == height && b.minerTx.unlockTime == height + CRYPTONOTE_MINED_MONEY_UNLOCK_WINDOW &&
      checkOutsOverflow b.minerTx
  | _ => false

/-- `validate_miner_transaction`: the base reward the block may claim, after
the check that the miner claims no more than reward and fees; `none` where the
source returns `false`.  From version 2 a miner may claim less, and the base
reward becomes what was claimed. -/
def validateMinerTransaction (s : Blockchain Pool) (b : Block)
    (cumulativeBlockWeight fee alreadyGeneratedCoins version : Nat) : Option Nat :=
  let moneyInUse := getOutsMoneyAmount b.minerTx
  if version = 3 ∧ !(b.minerTx.vout.all fun o => isValidDecomposedAmount o.amount) then none
  else
    let lastBlocksWeights := getLastNBlocksWeights s.db CRYPTONOTE_REWARD_BLOCKS_WINDOW
    match getBlockReward (median lastBlocksWeights) cumulativeBlockWeight alreadyGeneratedCoins
      version with
    | none => none
    | some baseReward =>
      if wrapU64 (baseReward + fee) < moneyInUse ∧ alreadyGeneratedCoins > 0 then none
      else if s.hardfork.getCurrentVersion < 2 then
        if wrapU64 (baseReward + fee) ≠ moneyInUse ∧ alreadyGeneratedCoins > 0 then none
        else some baseReward
      else if subU64 moneyInUse fee > baseReward then none
      else some (subU64 moneyInUse fee)

/-- The proof-of-work step of `handle_block_to_main_chain`: `some fastCheck`
when the block may go on.  Below the end of `m_blocks_hash_check` a
pre-validated hash replaces the proof of work (`fast_check`); a null entry
there skips the proof of work as well. -/
def checkProofOfWork (env : Env Pool) (s : Blockchain Pool) (bl : Block) (currentDiffic : Nat) :
    Option Bool :=
  let height := s.db.height
  if height < s.blocksHashCheck.length then
    let expectedHash := s.blocksHashCheck.getD height nullHash
    if expectedHash ≠ nullHash then
      if env.hashing.blockHash bl ≠ expectedHash then none else some true
    else some false
  else if checkHash (env.getBlockLonghash bl height) currentDiffic then some false
  else none

/-- The transaction loop of `handle_block_to_main_chain`: each hash must be
new to the chain and known to the pool, and its transaction must pass
`check_tx_inputs`, or under `fast_check` be the next pre-validated
transaction hash.  Returns the transactions taken with the sums of fees and
weights; on a refusal the transactions taken so far go back to the pool. -/
def takeTransactions (env : Env Pool) (bl : Block) (id : Hash) (fastCheck : Bool) :
    List Hash → Nat → List Transaction × Nat × Nat →
      BcM Pool (Option (List Transaction × Nat × Nat))
  | [], _, taken => pure (some taken)
  | txId :: rest, txIndex, (txs, feeSummary, cumulativeBlockWeight) => do
    let s ← get
    if s.db.txExists txId then
      returnTxToPool env txs
      return none
    match env.takeTx s.pool txId with
    | none =>
      returnTxToPool env txs
      return none
    | some (tx, txWeight, fee, pool) =>
      set { s with pool := pool }
      let txs := txs ++ [tx.val]
      let passed :=
        if fastCheck then
          decide (txIndex < s.blocksTxsCheck.length) && s.blocksTxsCheck.getD txIndex nullHash == txId
        else env.checkTxInputs s.db s.getCurrentHardForkVersion tx.val
      if !passed then
        addBlockAsInvalid ⟨bl, 0, 0⟩ id
        returnTxToPool env txs
        return none
      takeTransactions env bl id fastCheck rest (if fastCheck then txIndex + 1 else txIndex)
        (txs, wrapU64 (feeSummary + fee), wrapU64 (cumulativeBlockWeight + txWeight))

/-- The checks of `handle_block_to_main_chain` before its transaction loop;
returns the difficulty and `fast_check` when the block passes them. -/
def checkMainChainBlock (env : Env Pool) (bl : Block) (id : Hash) :
    BcM Pool (Option (Nat × Bool)) := do
  let s ← get
  if bl.prevId ≠ s.getTailId then return none
  if !s.hardfork.check bl then return none
  if !s.checkBlockTimestamp bl then return none
  let currentDiffic ← getDifficultyForNextBlock
  if currentDiffic = 0 then return none
  let s ← get
  let height := s.db.height
  match checkProofOfWork env s bl currentDiffic with
  | none => return none
  | some fastCheck =>
    if s.checkpoints.isInCheckpointZone height && !(s.checkpoints.checkBlock height id).1 then
      return none
    if !prevalidateMinerTransaction bl height then return none
    return some (currentDiffic, fastCheck)

/-- The end of `handle_block_to_main_chain`: the reward check and the store.
The coins generated are capped at `MONEY_SUPPLY`; a database exception hands
the transactions back to the pool. -/
def storeBlock (env : Env Pool) (bl : Block) (currentDiffic : Nat) (txs : List Transaction)
    (feeSummary cumulativeBlockWeight : Nat) : BcM Pool Bool := do
  let s ← get
  let height := s.db.height
  let alreadyGeneratedCoins :=
    if height ≠ 0 then s.db.getBlockAlreadyGeneratedCoins (height - 1) else 0
  match s.validateMinerTransaction bl cumulativeBlockWeight feeSummary alreadyGeneratedCoins
    s.hardfork.getCurrentVersion with
  | none =>
    returnTxToPool env txs
    return false
  | some baseReward =>
    let alreadyGeneratedCoins :=
      if baseReward < subU64 MONEY_SUPPLY alreadyGeneratedCoins
      then wrapU64 (alreadyGeneratedCoins + baseReward) else MONEY_SUPPLY
    let cumulativeDifficulty :=
      if height ≠ 0 then wrapU64 (currentDiffic + s.db.getBlockCumulativeDifficulty (height - 1))
      else currentDiffic
    let outcome := addBlock env.hashing s.hardfork bl cumulativeBlockWeight cumulativeDifficulty
      alreadyGeneratedCoins txs s.db
    set { s with db := outcome.db, hardfork := outcome.hardfork }
    match outcome.result with
    | .error _ =>
      returnTxToPool env txs
      return false
    | .ok _ =>
      -- just to cache it
      let _ ← getDifficultyForNextBlock
      return true

/-- `handle_block_to_main_chain(bl, id)`: `true` when the block was added. -/
def handleBlockToMainChain (env : Env Pool) (bl : Block) (id : Hash) : BcM Pool Bool := do
  match ← checkMainChainBlock env bl id with
  | none => return false
  | some (currentDiffic, fastCheck) =>
    let coinbaseWeight := env.getTransactionWeight bl.minerTx
    match ← takeTransactions env bl id fastCheck bl.txHashes 0 ([], 0, coinbaseWeight) with
    | none => return false
    | some (txs, feeSummary, cumulativeBlockWeight) =>
      modify fun s => { s with blocksTxsCheck := [] }
      storeBlock env bl currentDiffic txs feeSummary cumulativeBlockWeight

/-- `pop_block_from_blockchain`: a database exception is rethrown; the popped
transactions other than coinbase ones are offered back to the pool. -/
def popBlockFromBlockchain (env : Env Pool) : BcM Pool Block := do
  modify fun s => { s with timestampsAndDifficultiesHeight := 0 }
  let s ← get
  let (db, result) := popBlock env.hashing s.db
  set { s with db := db }
  match result with
  | .error e => throw (.db e)
  | .ok (poppedBlock, poppedTxs) =>
    for tx in poppedTxs do
      if !isCoinbase tx then
        modify fun s => { s with pool := (env.addTx s.pool tx s.getCurrentHardForkVersion).2 }
    modify fun s => { s with blocksTxsCheck := [] }
    return poppedBlock

/-- The hard-fork object and `hf_versions` table after
`m_hardfork->reorganize_from_chain_height`: rebuilt from the stored blocks,
unchanged where the source returns `false`. -/
def hardForkReorganized (s : Blockchain Pool) (height : Nat) : Blockchain Pool :=
  match s.hardfork.reorganizeFromChainHeight (s.db.blocks.map (·.block)) s.db.hfVersions height with
  | some (hf, table) => { s with hardfork := hf, db := { s.db with hfVersions := table } }
  | none => s

/-- `m_hardfork->reorganize_from_chain_height`. -/
def reorganizeFromChainHeight (height : Nat) : BcM Pool Unit :=
  modify (hardForkReorganized · height)

end Blockchain

end ElectroneumClassic
