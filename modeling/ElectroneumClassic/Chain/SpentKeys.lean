import ElectroneumClassic.Chain.DifficultyCache
import ElectroneumClassic.Db.Ledger

/-!
# No double spend on the main chain

Outside a batch the ledger invariant `LedgerSound` holds in every reachable
state: the stored transactions are those of the main-chain blocks, and
`spent_keys` holds each key image of their `txin_to_key` inputs once.  No check
of the blockchain code enforces that on its own: `check_tx_inputs` reads only
the database and is skipped under `fast_check`, and a key image repeated
within a block is caught by `add_spent_key` throwing, after the transactions
before it were written.  The invariant holds because the block transaction
around `add_block` is aborted on that exception.

While a batch is active the abort does nothing: a block whose second
transaction spends the key image of its first is refused, yet the first
transaction and its key image stay in the tables with no block holding them
(`batch_block_leaves_orphan_spent_key`).
-/

namespace ElectroneumClassic

open Cryptonote BlockchainDB Config

variable {Pool : Type}

namespace Blockchain

theorem ledgerSound_hardForkReorganized {H : Hashing} {s : Blockchain Pool} (height : Nat)
    (hsound : LedgerSound H s.db) : LedgerSound H (s.hardForkReorganized height).db := by
  obtain ⟨table, hdb⟩ := hardForkReorganized_db s height
  rw [hdb]
  exact ⟨hsound.notBatch, hsound.txHashes, hsound.txHashesNodup, hsound.spentKeys, hsound.spentKeysNodup⟩

/-- Every effect keeps a sound ledger sound: only `add_block` and `pop_block`
write the ledger tables. -/
theorem ledgerSound_step {env : Env Pool} {s s' : Blockchain Pool} (hstep : Effect env s s')
    (hsound : LedgerSound env.hashing s.db) : LedgerSound env.hashing s'.db := by
  cases hstep with
  | cacheDifficulty => exact hsound
  | resetDifficultyCache => exact hsound
  | storeBlock bl weight cumulativeDifficulty coinsGenerated txs hsupported hminer =>
    exact addBlock_ledgerSound hsound hminer hsupported
  | popBlock => exact popBlock_ledgerSound hsound
  | reorganize height => exact ledgerSound_hardForkReorganized height hsound
  | prevalidate => exact hsound
  | bookkeeping _ hframes => exact hframes.db ▸ hsound

theorem no_double_spend_outside_batch (env : Env Pool) {init s : Blockchain Pool}
    (hreach : Reachable env init s) (hinit : LedgerSound env.hashing init.db) :
    s.db.txIndex.map Prod.fst = s.db.blocks.flatMap (blockTxHashes env.hashing) ∧
      s.db.spentKeys.Perm (keyImagesOf s.db.txIndex) ∧ (keyImagesOf s.db.txIndex).Nodup := by
  have hsound : LedgerSound env.hashing s.db :=
    hreach.invariant (fun _ _ hstep => ledgerSound_step hstep) hinit
  exact ⟨hsound.txHashes, hsound.spentKeys, hsound.spentKeys.nodup_iff.1 hsound.spentKeysNodup⟩

/-- A transaction spending the key image `7` through one `txin_to_key` input. -/
def spendingSeven : Transaction := { (default : Transaction) with vin := [.toKey 0 [] 7] }

/-- The miner transaction of a block at height 0. -/
def coinbaseAtGenesis : Transaction :=
  { (default : Transaction) with vin := [.gen 0], unlockTime := CRYPTONOTE_MINED_MONEY_UNLOCK_WINDOW }

/-- A version-8 block on the empty chain listing two transactions, hashes 1
and 2. -/
def doubleSpendBlock : Block :=
  { (default : Block) with
    majorVersion := 8, minorVersion := 8, minerTx := coinbaseAtGenesis, txHashes := [1, 2] }

/-- A node whose pool hands out `spendingSeven` for every hash, takes back
everything, and whose checks all pass. -/
def permissiveEnv : Env Unit where
  hashing := idleEnv.hashing
  getBlockLonghash := fun _ _ => nullHash
  checkTxInputs := fun _ _ _ => true
  getTransactionWeight := fun _ => 0
  takeTx := fun pool _ => some (⟨spendingSeven, by decide⟩, 0, 0, pool)
  addTx := fun pool _ _ => (true, pool)
  cnFastHash := fun _ => nullHash

/-- The miner transaction of a block at `height`. -/
def coinbaseAt (height : Nat) : Transaction :=
  { (default : Transaction) with
    vin := [.gen height], unlockTime := height + CRYPTONOTE_MINED_MONEY_UNLOCK_WINDOW }

/-- A version-8 block at `height` on `prevId`, hashed `nonce + 1`. -/
def blockAt (nonce prevId height : Nat) (txHashes : List Hash) : Block :=
  { (default : Block) with
    majorVersion := 8, minorVersion := 8, nonce := nonce, prevId := prevId,
    minerTx := coinbaseAt height, txHashes := txHashes }

/-- The stored genesis block, hash 1. -/
def genesisRecord : BlockRecord :=
  { block := blockAt 0 0 0 [], hash := 1, weight := 0, cumulativeDifficulty := 1, coinsGenerated := 0,
    cumRct := 0 }

/-- A node as `permissiveEnv` whose blocks hash to their nonce plus one and
whose transactions to their unlock time plus 100. -/
def spendingEnv : Env Unit :=
  { permissiveEnv with
    hashing := { permissiveEnv.hashing with
      blockHash := fun b => b.nonce + 1, txHash := fun tx => tx.unlockTime + 100 } }

/-- The chain of the genesis block outside a batch, with its miner
transaction stored, at a fixed difficulty of 1. -/
def spendingChain : Blockchain Unit :=
  { versionEightChain [genesisRecord] with
    db := ⟨[genesisRecord], [⟨spendingEnv.hashing.txHash (coinbaseAt 0), coinbaseAt 0, 0, 0, none, []⟩],
      [], [], [], false⟩,
    fixedDifficulty := 1 }

theorem ledgerSound_spendingChain : LedgerSound spendingEnv.hashing spendingChain.db :=
  ⟨rfl, by decide +kernel, by decide +kernel, List.Perm.refl _, List.nodup_nil⟩

-- block 1 spends the key image `7` and is stored; block 2 spends it again,
-- `add_spent_key` throws and the aborted block transaction restores the tables
example :
    let s := step spendingEnv (step spendingEnv spendingChain (.addNewBlock (blockAt 1 1 1 [5]) 1))
      (.addNewBlock (blockAt 2 2 2 [6]) 1)
    (s.db.blocks.map (·.hash) = [1, 2] ∧ s.db.spentKeys = [7]) ∧
      s.db.txIndex.map Prod.fst = s.db.blocks.flatMap (blockTxHashes spendingEnv.hashing) ∧
      s.db.spentKeys.Perm (keyImagesOf s.db.txIndex) ∧ (keyImagesOf s.db.txIndex).Nodup :=
  ⟨by decide +kernel, no_double_spend_outside_batch spendingEnv (.step _ (.step _ .init)) ledgerSound_spendingChain⟩

/-- The empty version-8 chain inside a batch, at a fixed difficulty of 1. -/
def batchChain : Blockchain Unit :=
  { versionEightChain [] with
    db := { (versionEightChain []).db with batchActive := true }, fixedDifficulty := 1 }

theorem batch_block_leaves_orphan_spent_key :
    Reachable permissiveEnv batchChain (step permissiveEnv batchChain (.addNewBlock doubleSpendBlock 1)) ∧
      (step permissiveEnv batchChain (.addNewBlock doubleSpendBlock 1)).db.blocks = [] ∧
      (step permissiveEnv batchChain (.addNewBlock doubleSpendBlock 1)).db.spentKeys = [7] :=
  ⟨.step _ .init, by decide, by decide⟩

end Blockchain

end ElectroneumClassic
