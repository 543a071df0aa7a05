import ElectroneumClassic.Db.Update
import ElectroneumClassic.Lib.Effects
import Mathlib.Tactic.SplitIfs

/-!
# What the writes of `add_block` keep

`BlockchainDB::add_block` writes the transactions first and appends the block
record last, and no other write touches the block table.  A run of
`add_block`, returned or thrown, inside a batch or not, therefore keeps every
stored block at its height (`addBlock_extends`): what was read from the chain
below the old height reads the same afterwards.
-/

namespace ElectroneumClassic.BlockchainDB

open Cryptonote Effects Relation

/-- `db'` keeps every block of `db` at its height. -/
def Extends (db db' : Db) : Prop := db.blocks <+: db'.blocks

theorem Extends.refl (db : Db) : Extends db db := List.prefix_refl _

theorem Extends.trans {db₁ db₂ db₃ : Db} (h₁ : Extends db₁ db₂) (h₂ : Extends db₂ db₃) :
    Extends db₁ db₃ :=
  List.IsPrefix.trans h₁ h₂

theorem extends_of_reflTransGen {db db' : Db} (h : ReflTransGen Extends db db') : Extends db db' := by
  induction h with
  | refl => exact .refl db
  | tail _ step ih => exact ih.trans step

theorem Extends.height_le {db db' : Db} (h : Extends db db') : db.height ≤ db'.height :=
  h.length_le

theorem Extends.blockAt {db db' : Db} (h : Extends db db') {height : Nat} (hheight : height < db.height) :
    db'.blockAt height = db.blockAt height := by
  obtain ⟨rest, hrest⟩ := h
  simp only [Db.blockAt, ← hrest]
  exact List.getElem?_append_left hheight

/-- A write whose every run leaves the block table as it was. -/
theorem moves_extends_of_blocks {α : Type} {x : DbM α}
    (hx : ∀ db, (final (x.run db)).blocks = db.blocks) : Moves Extends x :=
  fun db => .single ⟨[], by rw [List.append_nil, hx db]⟩

theorem addSpentKey_extends (kImage : KeyImage) : Moves Extends (addSpentKey kImage) :=
  moves_extends_of_blocks fun db => by
    by_cases hspent : kImage ∈ db.spentKeys <;> simp [addSpentKey, hspent]

theorem removeSpentKey_extends (kImage : KeyImage) : Moves Extends (removeSpentKey kImage) :=
  moves_extends_of_blocks fun _ => rfl

theorem addOutput_extends (txHash : Hash) (out : TxOut) (localIndex unlockTime : Nat)
    (commitment : Option Key) : Moves Extends (addOutput txHash out localIndex unlockTime commitment) :=
  moves_extends_of_blocks fun db => by
    unfold addOutput
    cases out.target <;> simp only [run_bind, run_get, run_throw, final_error]
    split_ifs <;> rfl

theorem addInputs_extends (tx : Transaction) :
    ∀ (vin : List TxinV) (minerTx : Bool), Moves Extends (addInputs tx vin minerTx)
  | [], _ => Moves.pure _
  | .toKey _ _ kImage :: rest, minerTx =>
    Moves.bind (addSpentKey_extends kImage) fun _ => addInputs_extends tx rest minerTx
  | .gen _ :: rest, _ => addInputs_extends tx rest true
  | .toScript .. :: _, _ =>
    Moves.bind (Moves.forIn fun _ _ => Moves.bind (removeSpentKey_extends _) fun _ => Moves.pure _)
      fun _ => Moves.pure _
  | .toScripthash .. :: _, _ =>
    Moves.bind (Moves.forIn fun _ _ => Moves.bind (removeSpentKey_extends _) fun _ => Moves.pure _)
      fun _ => Moves.pure _

theorem addOutputs_extends (H : Hashing) (tx : Transaction) (txHash : Hash) (minerTx : Bool) :
    ∀ outs : List (Nat × TxOut), Moves Extends (addOutputs H tx txHash minerTx outs)
  | [] => Moves.pure _
  | (i, out) :: rest => by
    have hrest : ∀ index, Moves Extends (do
        let indices ← addOutputs H tx txHash minerTx rest
        pure (index :: indices)) := fun _ =>
      Moves.bind (addOutputs_extends H tx txHash minerTx rest) fun _ => Moves.pure _
    rw [addOutputs]
    -- a v2 miner output or any other
    split <;> exact Moves.bind (addOutput_extends _ _ _ _ _) hrest

theorem addTransaction_extends (H : Hashing) (tx : Transaction) (txHash? : Option Hash) :
    Moves Extends (addTransaction H tx txHash?) := by
  refine Moves.bind (addInputs_extends tx tx.vin false) fun minerTx? => ?_
  cases minerTx? with
  | none => exact Moves.pure _
  | some minerTx =>
    refine Moves.bind (moves_extends_of_blocks fun db => ?_) fun _ =>
      Moves.bind (addOutputs_extends H tx _ minerTx _) fun _ => moves_extends_of_blocks fun _ => rfl
    by_cases hexists : db.txExists (txHash?.getD (H.txHash tx)) <;> simp [addTransactionData, hexists]

theorem addTransactions_extends (H : Hashing) :
    ∀ txs : List (Transaction × Hash), Moves Extends (addTransactions H txs)
  | [] => Moves.pure _
  | (tx, txHash) :: rest =>
    Moves.bind (addTransaction_extends H tx (some txHash)) fun _ =>
      Moves.bind (addTransactions_extends H rest) fun _ => Moves.pure _

/-- The block record is the one write that grows the block table, by
appending. -/
theorem addBlockRecord_extends (blk : Block) (weight cumulativeDifficulty coinsGenerated numRctOuts : Nat)
    (blkHash : Hash) :
    Moves Extends (addBlockRecord blk weight cumulativeDifficulty coinsGenerated numRctOuts blkHash) := by
  intro db
  unfold MovesFrom
  -- every exit before the final `set` leaves the tables as they were
  cases hrun : (addBlockRecord blk weight cumulativeDifficulty coinsGenerated numRctOuts blkHash).run db with
  | error e db' =>
    have hdb : db' = db := by
      unfold addBlockRecord at hrun
      simp only [run_bind, run_get] at hrun
      split_ifs at hrun <;> (try split at hrun) <;> simp_all
    exact hdb ▸ .refl
  | ok _ db' =>
    have happend : ∃ record, db'.blocks = db.blocks ++ [record] := by
      unfold addBlockRecord at hrun
      simp only [run_bind, run_get] at hrun
      split_ifs at hrun <;> (try split at hrun) <;> first | (cases hrun; exact ⟨_, rfl⟩) | simp_all
    obtain ⟨record, hrecord⟩ := happend
    exact .single ⟨[record], hrecord.symm⟩

theorem addBlockData_extends (H : Hashing) (blk : Block) (weight cumulativeDifficulty coinsGenerated : Nat)
    (txs : List Transaction) :
    Moves Extends (addBlockData H blk weight cumulativeDifficulty coinsGenerated txs) :=
  fun db => movesFrom_get_bind <|
    Moves.bind (addTransaction_extends H blk.minerTx none) (fun _ =>
      Moves.bind (addTransactions_extends H _) fun _ =>
        Moves.bind (addBlockRecord_extends _ _ _ _ _ _) fun _ => Moves.pure _) db

/-- `add_block` keeps every stored block, whatever it throws and whether or not
a batch is active. -/
theorem addBlock_extends (H : Hashing) (hf : HardFork) (blk : Block)
    (weight cumulativeDifficulty coinsGenerated : Nat) (txs : List Transaction) (db : Db) :
    Extends db (addBlock H hf blk weight cumulativeDifficulty coinsGenerated txs db).db := by
  have hdata := extends_of_reflTransGen (addBlockData_extends H blk weight cumulativeDifficulty coinsGenerated txs db)
  unfold addBlock
  by_cases hsizes : blk.txHashes.length ≠ txs.length
  · rw [if_pos hsizes]
    exact .refl db
  rw [if_neg hsizes]
  split
  · rename_i written hrun
    simp only [hrun, final_ok] at hdata
    exact hdata
  · rename_i written hrun
    simp only [hrun, final_error] at hdata
    -- outside a batch the abort restores the tables
    by_cases hbatch : db.batchActive
    · show Extends db (if db.batchActive then written else db)
      rw [if_pos hbatch]
      exact hdata
    · show Extends db (if db.batchActive then written else db)
      rw [if_neg hbatch]
      exact Extends.refl db

end ElectroneumClassic.BlockchainDB
