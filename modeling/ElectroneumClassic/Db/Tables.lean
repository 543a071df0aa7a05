import ElectroneumClassic.Basic.HardFork

/-!
# Blockchain database tables

The tables `BlockchainLMDB` keeps, as lists in insertion order:

* `blocks` joins `blocks`, `block_info` and `block_heights`: the block at each
  height with its hash, weight, cumulative difficulty, generated coins and
  cumulative RingCT output count;
* `txs` joins `tx_indices`, `txs_pruned`, `txs_prunable`, `txs_prunable_hash`
  and `tx_outputs`: each stored transaction with its id, the height of its
  block and the amount indices of its outputs;
* `outputs` joins `output_txs` and `output_amounts`: each output with its
  global id and its index among outputs of the same amount;
* `spentKeys` is `spent_keys`, and `hfVersions` is `hf_versions`.

`batchActive` is `m_batch_active`: whether writes go to a batch transaction
that an exception does not abort.

Reads of a height or hash that is not stored throw in LMDB; the callers
modelled here only read stored rows, and a missing row reads as a default.
-/

namespace ElectroneumClassic.BlockchainDB

open Cryptonote

/-- The exceptions the database layer throws, with the text of `DB_ERROR`s. -/
inductive DbError where
  | keyImageExists
  | txExists
  | txDne
  | blockExists
  | blockDne
  | blockParentDne
  | outputDne
  | inconsistentSizes
  | dbError (message : String)
  deriving DecidableEq, Repr

structure BlockRecord where
  block : Block
  hash : Hash
  weight : Nat
  cumulativeDifficulty : Nat
  coinsGenerated : Nat
  cumRct : Nat
  deriving DecidableEq, Repr

structure TxRecord where
  hash : Hash
  tx : Transaction
  txId : Nat
  blockHeight : Nat
  prunableHash : Option Hash
  amountOutputIndices : List Nat
  deriving DecidableEq, Repr

structure OutputRecord where
  amount : Nat
  amountIndex : Nat
  outputId : Nat
  txHash : Hash
  localIndex : Nat
  pubkey : Key
  unlockTime : Nat
  height : Nat
  commitment : Option Key
  deriving DecidableEq, Repr

structure Db where
  blocks : List BlockRecord
  txs : List TxRecord
  outputs : List OutputRecord
  spentKeys : List KeyImage
  hfVersions : HfVersions
  batchActive : Bool
  deriving DecidableEq, Repr

namespace Db

def height (db : Db) : Nat := db.blocks.length

def blockAt (db : Db) (height : Nat) : Option BlockRecord := db.blocks[height]?

/-- `top_block_hash`: `null_hash` for an empty chain. -/
def topBlockHash (db : Db) : Hash :=
  match db.blocks.getLast? with
  | some record => record.hash
  | none => nullHash

def blockExists (db : Db) (hash : Hash) : Bool := db.blocks.any (·.hash == hash)

/-- `get_block_height` of a stored block. -/
def getBlockHeight (db : Db) (hash : Hash) : Nat := (db.blocks.findIdx? (·.hash == hash)).getD 0

def getBlockHashFromHeight (db : Db) (height : Nat) : Hash :=
  (db.blockAt height).elim nullHash (·.hash)

def getBlockTimestamp (db : Db) (height : Nat) : Nat :=
  (db.blockAt height).elim 0 (·.block.timestamp)

def getBlockCumulativeDifficulty (db : Db) (height : Nat) : Nat :=
  (db.blockAt height).elim 0 (·.cumulativeDifficulty)

def getBlockAlreadyGeneratedCoins (db : Db) (height : Nat) : Nat :=
  (db.blockAt height).elim 0 (·.coinsGenerated)

def getBlockWeight (db : Db) (height : Nat) : Nat :=
  (db.blockAt height).elim 0 (·.weight)

def getBlockFromHeight (db : Db) (height : Nat) : Option Block :=
  (db.blockAt height).map (·.block)

def txExists (db : Db) (hash : Hash) : Bool := db.txs.any (·.hash == hash)

def getTx (db : Db) (hash : Hash) : Option TxRecord := db.txs.find? (·.hash == hash)

def getNumOutputs (db : Db) (amount : Nat) : Nat := db.outputs.countP (·.amount == amount)

def hasKeyImage (db : Db) (kImage : KeyImage) : Bool := kImage ∈ db.spentKeys

@[simp] theorem height_eq (db : Db) : db.height = db.blocks.length := rfl

theorem getBlockHeight_lt {db : Db} {hash : Hash} (hexists : db.blockExists hash = true) :
    db.getBlockHeight hash < db.height := by
  obtain ⟨i, hi⟩ := Option.isSome_iff_exists.1 (List.findIdx?_isSome.trans hexists)
  rw [getBlockHeight, hi, Option.getD_some, height_eq]
  exact (List.findIdx?_eq_some_iff_findIdx_eq.1 hi).1

/-- Reading consecutive stored heights reads a slice of the block table. -/
theorem map_range'_blockAt {β : Type} (db : Db) (f : BlockRecord → β) (d : β) (a n : Nat)
    (h : a + n ≤ db.height) :
    (List.range' a n).map (fun i => (db.blockAt i).elim d f) = ((db.blocks.drop a).take n).map f := by
  apply List.ext_getElem
  · simp only [List.length_map, List.length_range', List.length_take, List.length_drop]
    simp only [height_eq] at h
    omega
  · intro j hj _
    simp only [List.length_map, List.length_range'] at hj
    have hlt : a + j < db.blocks.length := by simp only [height_eq] at h; omega
    simp [blockAt, List.getElem?_eq_getElem hlt]

end Db

end ElectroneumClassic.BlockchainDB
