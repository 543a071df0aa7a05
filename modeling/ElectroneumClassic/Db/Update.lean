import ElectroneumClassic.Db.Tables

/-!
# Adding and popping blocks

`BlockchainDB::add_transaction`, `add_block`, `remove_transaction` and
`pop_block`, with the LMDB writes they call, as computations in
`EStateM DbError Db`: a write either throws before touching its table or
changes it, and an exception leaves the writes made before it in place.

`BlockchainLMDB::add_block` and `pop_block` run the generic function in a block
transaction and call `block_txn_abort` on any exception.  Outside a batch the
abort restores the tables as they were; while a batch is active it does
nothing, and the partial writes stay in the batch.  The hard-fork object is
updated (`m_hardfork->add`) after all writes succeeded.
-/

namespace ElectroneumClassic.BlockchainDB

open Cryptonote

/-- A database write: the tables after it, or the exception and the tables as
the writes before it left them. -/
abbrev DbM := EStateM DbError Db

/-- `add_spent_key`: `MDB_NODUPDATA` refuses a key image already stored. -/
def addSpentKey (kImage : KeyImage) : DbM Unit := do
  let db ← get
  if kImage ∈ db.spentKeys then throw .keyImageExists
  set { db with spentKeys := db.spentKeys ++ [kImage] }

/-- `remove_spent_key`: a key image that is not stored is ignored. -/
def removeSpentKey (kImage : KeyImage) : DbM Unit :=
  modify fun db => { db with spentKeys := db.spentKeys.erase kImage }

/-- `add_transaction_data`: the transaction's index row and blobs; a hash
already indexed throws `TX_EXISTS`. -/
def addTransactionData (tx : Transaction) (txHash prunableHash : Hash) : DbM Nat := do
  let db ← get
  let txId := db.txs.length
  if db.txExists txHash then throw .txExists
  let record : TxRecord :=
    { hash := txHash, tx := tx, txId := txId, blockHeight := db.height,
      prunableHash := if tx.version > 1 then some prunableHash else none,
      amountOutputIndices := [] }
  set { db with txs := db.txs ++ [record] }
  return txId

/-- `add_output`: only `txout_to_key` targets are stored, and a zero amount
needs a commitment.  Returns the output's index among outputs of its amount. -/
def addOutput (txHash : Hash) (out : TxOut) (localIndex unlockTime : Nat)
    (commitment : Option Key) : DbM Nat := do
  let db ← get
  match out.target with
  | .toKey key =>
    if out.amount = 0 ∧ commitment = none then
      throw (.dbError "RCT output without commitment")
    let amountIndex := db.getNumOutputs out.amount
    let record : OutputRecord :=
      { amount := out.amount, amountIndex := amountIndex, outputId := db.outputs.length,
        txHash := txHash, localIndex := localIndex, pubkey := key, unlockTime := unlockTime,
        height := db.height, commitment := if out.amount = 0 then commitment else none }
    set { db with outputs := db.outputs ++ [record] }
    return amountIndex
  | _ => throw (.dbError "Wrong output type: expected txout_to_key")

/-- `add_tx_amount_output_indices`. -/
def addTxAmountOutputIndices (txId : Nat) (indices : List Nat) : DbM Unit :=
  modify fun db => { db with
    txs := db.txs.map fun record =>
      if record.txId = txId then { record with amountOutputIndices := indices } else record }

/-- The input loop of `add_transaction`: spend each `txin_to_key`, note a
`txin_gen`, and on any other input remove the key images of all of the
transaction's `txin_to_key` inputs and stop.  Returns whether a `txin_gen` was
seen, or `none` when the transaction is abandoned. -/
def addInputs (tx : Transaction) : List TxinV → Bool → DbM (Option Bool)
  | [], minerTx => pure (some minerTx)
  | .toKey _ _ kImage :: rest, minerTx => do
    addSpentKey kImage
    addInputs tx rest minerTx
  | .gen _ :: rest, _ => addInputs tx rest true
  | _ :: _, _ => do
    for kImage in tx.keyImages do
      removeSpentKey kImage
    pure none

/-- The output loop of `add_transaction`: a v2 miner output is stored as a
zero-amount output with the identity-mask commitment. -/
def addOutputs (H : Hashing) (tx : Transaction) (txHash : Hash) (minerTx : Bool) :
    List (Nat × TxOut) → DbM (List Nat)
  | [] => pure []
  | (i, out) :: rest => do
    let index ←
      if minerTx ∧ tx.version = 2 then
        addOutput txHash { out with amount := 0 } i tx.unlockTime (some (H.zeroCommit out.amount))
      else
        addOutput txHash out i tx.unlockTime
          (if tx.version > 1 then some ((tx.rctSignatures.outPk.getD i ⟨0, 0⟩).mask) else none)
    let indices ← addOutputs H tx txHash minerTx rest
    pure (index :: indices)

/-- `BlockchainDB::add_transaction`; the hash is computed when not given, as
for the miner transaction. -/
def addTransaction (H : Hashing) (tx : Transaction) (txHash? : Option Hash) : DbM Unit := do
  let txHash := txHash?.getD (H.txHash tx)
  match ← addInputs tx tx.vin false with
  | none => pure ()
  | some minerTx =>
    let txId ← addTransactionData tx txHash (H.txPrunableHash tx)
    let indices ← addOutputs H tx txHash minerTx (List.range tx.vout.length |>.zip tx.vout)
    addTxAmountOutputIndices txId indices

/-- The transactions of a block after the miner transaction, with the hashes
the block lists; returns how many zero-amount outputs they have. -/
def addTransactions (H : Hashing) : List (Transaction × Hash) → DbM Nat
  | [] => pure 0
  | (tx, txHash) :: rest => do
    addTransaction H tx (some txHash)
    let count ← addTransactions H rest
    pure (tx.vout.countP (·.amount == 0) + count)

/-- `BlockchainLMDB::add_block(blk, ..., num_rct_outs, blk_hash)`: the block
must be new and extend the top block. -/
def addBlockRecord (blk : Block) (weight cumulativeDifficulty coinsGenerated numRctOuts : Nat)
    (blkHash : Hash) : DbM Unit := do
  let db ← get
  if db.blockExists blkHash then throw .blockExists
  if db.height > 0 then
    if !db.blockExists blk.prevId then
      throw (.dbError "Failed to get top block hash to check for new block's parent: ")
    if db.getBlockHeight blk.prevId ≠ db.height - 1 then throw .blockParentDne
  let cumRct ←
    if blk.majorVersion ≥ 4 then
      match db.blockAt (db.height - 1) with
      | some previous => pure (numRctOuts + previous.cumRct)
      | none => throw .blockDne
    else pure numRctOuts
  let record : BlockRecord :=
    { block := blk, hash := blkHash, weight := weight,
      cumulativeDifficulty := cumulativeDifficulty, coinsGenerated := coinsGenerated,
      cumRct := cumRct }
  set { db with blocks := db.blocks ++ [record] }

/-- The writes of `BlockchainDB::add_block` inside its block transaction,
before `m_hardfork->add`; returns the block hash and the previous height. -/
def addBlockData (H : Hashing) (blk : Block) (weight cumulativeDifficulty coinsGenerated : Nat)
    (txs : List Transaction) : DbM (Hash × Nat) := do
  let blkHash := H.blockHash blk
  let prevHeight := (← get).height
  addTransaction H blk.minerTx none
  let minerRctOuts := if blk.minerTx.version = 2 then blk.minerTx.vout.length else 0
  let txRctOuts ← addTransactions H (txs.zip blk.txHashes)
  addBlockRecord blk weight cumulativeDifficulty coinsGenerated (minerRctOuts + txRctOuts) blkHash
  pure (blkHash, prevHeight)

/-- The outcome of an LMDB call that can throw: the tables and hard-fork state
after it, and what it returned or threw. -/
structure Outcome (α : Type) where
  db : Db
  hardfork : HardFork
  result : Except DbError α

/-- `BlockchainLMDB::add_block`: on success the hard-fork object records the
block and the new height is returned; on an exception the block transaction is
aborted, which restores the tables only outside a batch. -/
def addBlock (H : Hashing) (hf : HardFork) (blk : Block)
    (weight cumulativeDifficulty coinsGenerated : Nat) (txs : List Transaction) (db : Db) :
    Outcome Nat :=
  if blk.txHashes.length ≠ txs.length then ⟨db, hf, .error .inconsistentSizes⟩
  else
    match (addBlockData H blk weight cumulativeDifficulty coinsGenerated txs).run db with
    | .ok (_, prevHeight) written =>
      let (_, hf', hfVersions) := hf.addBlock written.hfVersions blk prevHeight
      ⟨{ written with hfVersions := hfVersions }, hf', .ok (prevHeight + 1)⟩
    | .error e written => ⟨if db.batchActive then written else db, hf, .error e⟩

/-- The output loop of `remove_tx_outputs`, last output first. -/
def removeOutputs : List (Nat × Nat) → DbM Unit
  | [] => pure ()
  | (amount, amountIndex) :: rest => do
    let db ← get
    match db.outputs.find? fun o => o.amount == amount && o.amountIndex == amountIndex with
    | none => throw .outputDne
    | some output =>
      set { db with outputs := db.outputs.filter (·.outputId != output.outputId) }
      removeOutputs rest

/-- `remove_transaction_data`: the outputs, then the index row. -/
def removeTransactionData (txHash : Hash) (tx : Transaction) : DbM Unit := do
  let db ← get
  match db.getTx txHash with
  | none => throw .txDne
  | some record =>
    if record.amountOutputIndices.isEmpty ∧ !tx.vout.isEmpty then
      throw (.dbError "tx has outputs, but no output indices found")
    let isPseudoRct := tx.version ≥ 2 ∧ tx.vin.length = 1 ∧ (tx.vin.head?.map TxinV.isGen) = some true
    let amounts := tx.vout.map fun out => if isPseudoRct then 0 else out.amount
    removeOutputs (amounts.zip (record.amountOutputIndices.take amounts.length)).reverse
    modify fun db => { db with txs := db.txs.filter (·.hash != txHash) }

/-- `BlockchainDB::remove_transaction`: unspend the key images, then remove
the stored transaction. -/
def removeTransaction (txHash : Hash) : DbM Unit := do
  match (← get).getTx txHash with
  | none => throw .txDne
  | some record =>
    for kImage in record.tx.keyImages do
      removeSpentKey kImage
    removeTransactionData txHash record.tx

/-- `remove_block`. -/
def removeBlock : DbM Unit := do
  let db ← get
  if db.height = 0 then throw .blockDne
  set { db with blocks := db.blocks.dropLast }

/-- The transactions of the popped block, last first, as `pop_block` collects
and removes them. -/
def removeTransactions : List Hash → DbM (List Transaction)
  | [] => pure []
  | txHash :: rest => do
    match (← get).getTx txHash with
    | none => throw .txDne
    | some record =>
      removeTransaction txHash
      let txs ← removeTransactions rest
      pure (record.tx :: txs)

/-- `BlockchainDB::pop_block`: the top block and its transactions, in reverse
order of the block's list. -/
def popBlockData (H : Hashing) : DbM (Block × List Transaction) := do
  let db ← get
  let blk := (db.blocks.getLast?.map (·.block)).getD default
  removeBlock
  let txs ← removeTransactions blk.txHashes.reverse
  removeTransaction (H.txHash blk.minerTx)
  pure (blk, txs)

/-- `BlockchainLMDB::pop_block`, in a block transaction aborted on exception. -/
def popBlock (H : Hashing) (db : Db) : Db × Except DbError (Block × List Transaction) :=
  match (popBlockData H).run db with
  | .ok popped written => (written, .ok popped)
  | .error e written => (if db.batchActive then written else db, .error e)

end ElectroneumClassic.BlockchainDB
