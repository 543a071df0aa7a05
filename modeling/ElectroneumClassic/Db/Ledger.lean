import ElectroneumClassic.Db.Writes
import Mathlib.Data.List.Perm.Basic
import Mathlib.Data.Multiset.AddSub

/-!
# The ledger tables: blocks, transactions and spent key images

The tables that decide what has been spent: the block list, the stored
transactions with their hashes (`txIndex`), the `spent_keys` table and the
batch flag.  Outputs and amount indices are left out; no write below lets them
change any of these.

A database is `LedgerSound` when the stored transactions are exactly those of
its blocks, miner transaction first, with distinct hashes, and `spent_keys`
holds each key image of their `txin_to_key` inputs exactly once.  A successful
`add_block` of a block whose miner transaction is coinbase and whose other
transactions spend only keys appends a block's worth of fresh transactions and
fresh key images (`addBlock_ok_appends`); a successful `pop_block` removes the
top block's transactions and unspends their key images.  Outside a batch an
exception restores the tables, so both keep a sound database sound.
-/

namespace ElectroneumClassic.BlockchainDB

open Cryptonote Effects

/-- The hashes of the transactions a stored block brings, miner transaction
first, as `add_block` stores them and `pop_block` removes them. -/
def blockTxHashes (H : Hashing) (record : BlockRecord) : List Hash :=
  H.txHash record.block.minerTx :: record.block.txHashes

/-- The stored transactions with their hashes. -/
def Db.txIndex (db : Db) : List (Hash × Transaction) :=
  db.txs.map fun record => (record.hash, record.tx)

/-- The key images of the `txin_to_key` inputs of the given transactions. -/
def keyImagesOf (txs : List (Hash × Transaction)) : List KeyImage :=
  txs.flatMap fun entry => entry.2.keyImages

@[simp] theorem keyImagesOf_nil : keyImagesOf [] = [] := rfl

@[simp] theorem keyImagesOf_append (txs txs' : List (Hash × Transaction)) :
    keyImagesOf (txs ++ txs') = keyImagesOf txs ++ keyImagesOf txs' := by
  simp [keyImagesOf]

@[simp] theorem keyImagesOf_cons (entry : Hash × Transaction) (txs : List (Hash × Transaction)) :
    keyImagesOf (entry :: txs) = entry.2.keyImages ++ keyImagesOf txs := by
  simp [keyImagesOf]

/-- The ledger invariant: the stored transactions are those of the blocks, in
order and with distinct hashes, and their key images are spent once each. -/
structure LedgerSound (H : Hashing) (db : Db) : Prop where
  notBatch : db.batchActive = false
  txHashes : db.txIndex.map Prod.fst = db.blocks.flatMap (blockTxHashes H)
  txHashesNodup : (db.txIndex.map Prod.fst).Nodup
  spentKeys : db.spentKeys.Perm (keyImagesOf db.txIndex)
  spentKeysNodup : db.spentKeys.Nodup

/-! ## What a write adds -/

/-- `db'` is `db` with the transactions `txs` and the key images `keys`
appended, the blocks and the batch flag kept; distinct hashes and distinct key
images stay distinct. -/
structure Appends (db db' : Db) (txs : List (Hash × Transaction)) (keys : List KeyImage) : Prop where
  blocks : db'.blocks = db.blocks
  txIndex : db'.txIndex = db.txIndex ++ txs
  spentKeys : db'.spentKeys = db.spentKeys ++ keys
  batchActive : db'.batchActive = db.batchActive
  txHashesNodup : (db.txIndex.map Prod.fst).Nodup → (db'.txIndex.map Prod.fst).Nodup
  spentKeysNodup : db.spentKeys.Nodup → db'.spentKeys.Nodup

theorem Appends.refl (db : Db) : Appends db db [] [] :=
  ⟨rfl, (List.append_nil _).symm, (List.append_nil _).symm, rfl, id, id⟩

theorem Appends.trans {db₁ db₂ db₃ : Db} {txs txs' : List (Hash × Transaction)} {keys keys' : List KeyImage}
    (h₁ : Appends db₁ db₂ txs keys) (h₂ : Appends db₂ db₃ txs' keys') :
    Appends db₁ db₃ (txs ++ txs') (keys ++ keys') where
  blocks := h₂.blocks.trans h₁.blocks
  txIndex := by rw [h₂.txIndex, h₁.txIndex, List.append_assoc]
  spentKeys := by rw [h₂.spentKeys, h₁.spentKeys, List.append_assoc]
  batchActive := h₂.batchActive.trans h₁.batchActive
  txHashesNodup := h₂.txHashesNodup ∘ h₁.txHashesNodup
  spentKeysNodup := h₂.spentKeysNodup ∘ h₁.spentKeysNodup

/-- A write that changes only the outputs and amount indices. -/
theorem Appends.of_ledger_eq {db db' : Db} (hblocks : db'.blocks = db.blocks)
    (htxIndex : db'.txIndex = db.txIndex) (hspent : db'.spentKeys = db.spentKeys)
    (hbatch : db'.batchActive = db.batchActive) : Appends db db' [] [] where
  blocks := hblocks
  txIndex := by rw [htxIndex, List.append_nil]
  spentKeys := by rw [hspent, List.append_nil]
  batchActive := hbatch
  txHashesNodup := by rw [htxIndex]; exact id
  spentKeysNodup := by rw [hspent]; exact id

theorem addSpentKey_ok {kImage : KeyImage} {db db' : Db} {u : Unit}
    (hrun : (addSpentKey kImage).run db = .ok u db') : Appends db db' [] [kImage] := by
  unfold addSpentKey at hrun
  by_cases hspent : kImage ∈ db.spentKeys
  · simp [hspent] at hrun
  · simp only [run_bind, run_get, hspent, if_false, run_set, EStateM.Result.ok.injEq] at hrun
    obtain ⟨-, rfl⟩ := hrun
    refine ⟨rfl, (List.append_nil _).symm, rfl, rfl, id, fun hnodup => ?_⟩
    refine List.nodup_append.2 ⟨hnodup, List.nodup_singleton _, fun a ha b hb hab => hspent ?_⟩
    rw [List.mem_singleton] at hb
    rw [← hb, ← hab]
    exact ha

/-- The inputs `add_transaction` stores: `txin_to_key` or `txin_gen`. -/
def storableInput (input : TxinV) : Prop := input.isToKey = true ∨ input.isGen = true

/-- Over inputs that are all keys or generation, the input loop spends each
key image once and goes on to store the transaction. -/
theorem addInputs_ok (tx : Transaction) :
    ∀ (vin : List TxinV) (minerTx : Bool) {db db' : Db} {result : Option Bool},
      (∀ input ∈ vin, storableInput input) → (addInputs tx vin minerTx).run db = .ok result db' →
      result.isSome ∧ Appends db db' [] (vin.filterMap TxinV.keyImage?)
  | [], minerTx, db, db', result, _, hrun => by
    simp only [addInputs, run_pure, EStateM.Result.ok.injEq] at hrun
    obtain ⟨rfl, rfl⟩ := hrun
    exact ⟨rfl, Appends.refl db⟩
  | .toKey amount keyOffsets kImage :: rest, minerTx, db, db', result, hstorable, hrun => by
    obtain ⟨_, db₁, hspend, hrest⟩ := run_bind_ok hrun
    obtain ⟨hsome, happends⟩ :=
      addInputs_ok tx rest minerTx (fun input hin => hstorable input (List.mem_cons_of_mem _ hin)) hrest
    exact ⟨hsome, by simpa using (addSpentKey_ok hspend).trans happends⟩
  | .gen height :: rest, _, db, db', result, hstorable, hrun =>
    addInputs_ok tx rest true (fun input hin => hstorable input (List.mem_cons_of_mem _ hin)) hrun
  | .toScript .. :: _, _, _, _, _, hstorable, _ => by
    simp [storableInput, TxinV.isToKey, TxinV.isGen] at hstorable
  | .toScripthash .. :: _, _, _, _, _, hstorable, _ => by
    simp [storableInput, TxinV.isToKey, TxinV.isGen] at hstorable

theorem addTransactionData_ok {tx : Transaction} {txHash prunableHash : Hash} {db db' : Db} {txId : Nat}
    (hrun : (addTransactionData tx txHash prunableHash).run db = .ok txId db') :
    Appends db db' [(txHash, tx)] [] := by
  unfold addTransactionData at hrun
  by_cases hexists : db.txExists txHash
  · simp [hexists] at hrun
  · simp only [run_bind, run_get, hexists, Bool.false_eq_true, if_false, run_set, run_pure,
      EStateM.Result.ok.injEq] at hrun
    obtain ⟨-, rfl⟩ := hrun
    have hfresh : txHash ∉ db.txIndex.map Prod.fst := by
      simpa [Db.txIndex, Db.txExists] using hexists
    refine ⟨rfl, by simp [Db.txIndex], (List.append_nil _).symm, rfl, fun hnodup => ?_, id⟩
    simpa [Db.txIndex, List.nodup_append] using And.intro hnodup hfresh

theorem addOutput_ledger {txHash : Hash} {out : TxOut} {localIndex unlockTime : Nat}
    {commitment : Option Key} {db db' : Db} {index : Nat}
    (hrun : (addOutput txHash out localIndex unlockTime commitment).run db = .ok index db') :
    Appends db db' [] [] := by
  unfold addOutput at hrun
  cases htarget : out.target
  case toKey key =>
    simp only [htarget, run_bind, run_get] at hrun
    split at hrun
    · simp at hrun
    · simp only [run_bind, run_set, run_pure, EStateM.Result.ok.injEq] at hrun
      obtain ⟨-, rfl⟩ := hrun
      exact Appends.of_ledger_eq rfl rfl rfl rfl
  -- any other target throws
  all_goals simp [htarget] at hrun

theorem addOutputs_ledger (H : Hashing) (tx : Transaction) (txHash : Hash) (minerTx : Bool) :
    ∀ (outs : List (Nat × TxOut)) {db db' : Db} {indices : List Nat},
      (addOutputs H tx txHash minerTx outs).run db = .ok indices db' → Appends db db' [] []
  | [], db, db', indices, hrun => by
    simp only [addOutputs, run_pure, EStateM.Result.ok.injEq] at hrun
    obtain ⟨-, rfl⟩ := hrun
    exact Appends.refl db
  | (i, out) :: rest, db, db', indices, hrun => by
    rw [addOutputs] at hrun
    -- a v2 miner output or any other: one `add_output`, then the rest
    have hstep : ∀ {x : DbM Nat}, (∀ {d d' : Db} {n : Nat}, x.run d = .ok n d' → Appends d d' [] []) →
        (do let index ← x
            let indices ← addOutputs H tx txHash minerTx rest
            pure (index :: indices) : DbM (List Nat)).run db = .ok indices db' →
        Appends db db' [] [] := by
      intro x hx hrun
      obtain ⟨_, db₁, hfirst, hrest⟩ := run_bind_ok hrun
      obtain ⟨_, db₂, hloop, hpure⟩ := run_bind_ok hrest
      simp only [run_pure, EStateM.Result.ok.injEq] at hpure
      obtain ⟨-, rfl⟩ := hpure
      exact (hx hfirst).trans (addOutputs_ledger H tx txHash minerTx rest hloop)
    split at hrun
    · exact hstep addOutput_ledger hrun
    · exact hstep addOutput_ledger hrun

theorem addTxAmountOutputIndices_ledger {txId : Nat} {indices : List Nat} {db db' : Db} {u : Unit}
    (hrun : (addTxAmountOutputIndices txId indices).run db = .ok u db') : Appends db db' [] [] := by
  simp only [addTxAmountOutputIndices, run_modify, EStateM.Result.ok.injEq] at hrun
  obtain ⟨-, rfl⟩ := hrun
  refine Appends.of_ledger_eq rfl ?_ rfl rfl
  simp only [Db.txIndex, List.map_map]
  congr 1
  funext record
  simp only [Function.comp_apply]
  split_ifs <;> rfl

/-- A transaction whose inputs are all keys or generation is stored under its
hash, and its key images are spent. -/
theorem addTransaction_ok {H : Hashing} {tx : Transaction} {txHash? : Option Hash} {db db' : Db} {u : Unit}
    (hstorable : ∀ input ∈ tx.vin, storableInput input)
    (hrun : (addTransaction H tx txHash?).run db = .ok u db') :
    Appends db db' [(txHash?.getD (H.txHash tx), tx)] tx.keyImages := by
  unfold addTransaction at hrun
  obtain ⟨result, db₁, hinputs, hrest⟩ := run_bind_ok hrun
  obtain ⟨hsome, hspent⟩ := addInputs_ok tx tx.vin false hstorable hinputs
  obtain ⟨minerTx, rfl⟩ := Option.isSome_iff_exists.1 hsome
  obtain ⟨_, db₂, hdata, hrest⟩ := run_bind_ok hrest
  obtain ⟨_, db₃, houts, hindices⟩ := run_bind_ok hrest
  have happends := ((hspent.trans (addTransactionData_ok hdata)).trans
    (addOutputs_ledger H tx _ minerTx _ houts)).trans (addTxAmountOutputIndices_ledger hindices)
  simpa [Transaction.keyImages] using happends

theorem addTransactions_ok (H : Hashing) :
    ∀ (txs : List (Transaction × Hash)) {db db' : Db} {count : Nat},
      (∀ p ∈ txs, ∀ input ∈ p.1.vin, storableInput input) →
      (addTransactions H txs).run db = .ok count db' →
      Appends db db' (txs.map fun p => (p.2, p.1)) (keyImagesOf (txs.map fun p => (p.2, p.1)))
  | [], db, db', count, _, hrun => by
    simp only [addTransactions, run_pure, EStateM.Result.ok.injEq] at hrun
    obtain ⟨-, rfl⟩ := hrun
    exact Appends.refl db
  | (tx, txHash) :: rest, db, db', count, hstorable, hrun => by
    obtain ⟨_, db₁, hfirst, hrest⟩ := run_bind_ok hrun
    obtain ⟨_, db₂, hloop, hpure⟩ := run_bind_ok hrest
    simp only [run_pure, EStateM.Result.ok.injEq] at hpure
    obtain ⟨-, rfl⟩ := hpure
    have hone := addTransaction_ok (hstorable _ List.mem_cons_self) hfirst
    have hmore := addTransactions_ok H rest
      (fun p hp => hstorable p (List.mem_cons_of_mem _ hp)) hloop
    simpa [keyImagesOf] using hone.trans hmore

/-- The block record is appended and nothing else changes. -/
theorem addBlockRecord_ok {blk : Block} {weight cumulativeDifficulty coinsGenerated numRctOuts : Nat}
    {blkHash : Hash} {db db' : Db} {u : Unit}
    (hrun : (addBlockRecord blk weight cumulativeDifficulty coinsGenerated numRctOuts blkHash).run db =
      .ok u db') :
    ∃ record : BlockRecord, record.block = blk ∧ db' = { db with blocks := db.blocks ++ [record] } := by
  unfold addBlockRecord at hrun
  simp only [run_bind, run_get] at hrun
  split_ifs at hrun <;> (try split at hrun) <;> first | (cases hrun; exact ⟨_, rfl, rfl⟩) | simp_all

/-- The entries `add_block` stores for a block and the transactions it took:
the miner transaction under its hash, then each transaction under the hash
the block lists for it. -/
def blockEntries (H : Hashing) (blk : Block) (txs : List Transaction) : List (Hash × Transaction) :=
  (H.txHash blk.minerTx, blk.minerTx) :: (txs.zip blk.txHashes).map fun p => (p.2, p.1)

theorem blockEntries_hashes (H : Hashing) (blk : Block) {txs : List Transaction}
    (hsizes : blk.txHashes.length = txs.length) :
    (blockEntries H blk txs).map Prod.fst = H.txHash blk.minerTx :: blk.txHashes := by
  simp only [blockEntries, List.map_cons, List.map_map]
  congr 1
  exact List.map_snd_zip (by omega)

theorem storableInput_of_coinbase {tx : Transaction} (hminer : isCoinbase tx = true) :
    ∀ input ∈ tx.vin, storableInput input := by
  unfold isCoinbase at hminer
  split at hminer
  · rename_i input hvin
    intro i hi
    rw [hvin, List.mem_singleton] at hi
    exact Or.inr (hi ▸ hminer)
  · cases hminer

theorem storableInput_of_supported {tx : Transaction} (hsupported : checkInputsTypesSupported tx = true) :
    ∀ input ∈ tx.vin, storableInput input := fun input hin =>
  Or.inl (List.all_eq_true.1 hsupported input hin)

/-- The writes of a successful `add_block`: the block's entries and key
images, then the block record. -/
theorem addBlockData_ok {H : Hashing} {blk : Block} {weight cumulativeDifficulty coinsGenerated : Nat}
    {txs : List Transaction} {db db' : Db} {result : Hash × Nat}
    (hminer : isCoinbase blk.minerTx = true) (hsupported : ∀ tx ∈ txs, checkInputsTypesSupported tx = true)
    (hrun : (addBlockData H blk weight cumulativeDifficulty coinsGenerated txs).run db = .ok result db') :
    ∃ written record, Appends db written (blockEntries H blk txs) (keyImagesOf (blockEntries H blk txs)) ∧
      record.block = blk ∧ db' = { written with blocks := written.blocks ++ [record] } := by
  unfold addBlockData at hrun
  obtain ⟨_, db₀, hget, hrest⟩ := run_bind_ok hrun
  simp only [run_get, EStateM.Result.ok.injEq] at hget
  obtain ⟨rfl, rfl⟩ := hget
  obtain ⟨_, db₁, hminerRun, hrest⟩ := run_bind_ok hrest
  obtain ⟨_, db₂, htxsRun, hrest⟩ := run_bind_ok hrest
  obtain ⟨_, db₃, hrecordRun, hpure⟩ := run_bind_ok hrest
  simp only [run_pure, EStateM.Result.ok.injEq] at hpure
  obtain ⟨-, rfl⟩ := hpure
  have hminerAppends := addTransaction_ok (storableInput_of_coinbase hminer) hminerRun
  have htxsAppends := addTransactions_ok H (txs.zip blk.txHashes)
    (fun p hp => storableInput_of_supported (hsupported p.1 (List.of_mem_zip hp).1)) htxsRun
  obtain ⟨record, hblock, rfl⟩ := addBlockRecord_ok hrecordRun
  exact ⟨db₂, record, by simpa [blockEntries, keyImagesOf] using hminerAppends.trans htxsAppends, hblock, rfl⟩

/-- Outside a batch an `add_block` that throws leaves the tables and the
hard-fork object as they were. -/
theorem addBlock_error_of_not_batch {H : Hashing} {hf : HardFork} {blk : Block}
    {weight cumulativeDifficulty coinsGenerated : Nat} {txs : List Transaction} {db : Db} {e : DbError}
    (hbatch : db.batchActive = false)
    (herror : (addBlock H hf blk weight cumulativeDifficulty coinsGenerated txs db).result = .error e) :
    (addBlock H hf blk weight cumulativeDifficulty coinsGenerated txs db).db = db ∧
      (addBlock H hf blk weight cumulativeDifficulty coinsGenerated txs db).hardfork = hf := by
  unfold addBlock at herror ⊢
  by_cases hsizes : blk.txHashes.length ≠ txs.length
  · rw [if_pos hsizes]
    exact ⟨rfl, rfl⟩
  rw [if_neg hsizes] at herror ⊢
  split
  · rename_i hrun
    simp only [hrun] at herror
    cases herror
  · simp [hbatch]

/-- `add_block` of a coinbase-mined block whose transactions spend only keys
keeps a sound ledger sound, whether it returns or throws. -/
theorem addBlock_ledgerSound {H : Hashing} {hf : HardFork} {blk : Block}
    {weight cumulativeDifficulty coinsGenerated : Nat} {txs : List Transaction} {db : Db}
    (hsound : LedgerSound H db) (hminer : isCoinbase blk.minerTx = true)
    (hsupported : ∀ tx ∈ txs, checkInputsTypesSupported tx = true) :
    LedgerSound H (addBlock H hf blk weight cumulativeDifficulty coinsGenerated txs db).db := by
  unfold addBlock
  by_cases hsizes : blk.txHashes.length ≠ txs.length
  · rw [if_pos hsizes]
    exact hsound
  rw [if_neg hsizes]
  split
  · rename_i written hrun
    obtain ⟨stored, record, happends, hblock, rfl⟩ := addBlockData_ok hminer hsupported hrun
    -- the hard-fork update rewrites only `hf_versions`
    refine ⟨happends.batchActive.trans hsound.notBatch, ?_, happends.txHashesNodup hsound.txHashesNodup,
      ?_, happends.spentKeysNodup hsound.spentKeysNodup⟩
    · show stored.txIndex.map Prod.fst = (stored.blocks ++ [record]).flatMap (blockTxHashes H)
      rw [happends.txIndex, happends.blocks, List.map_append, hsound.txHashes, List.flatMap_append,
        blockEntries_hashes H blk (not_not.1 hsizes)]
      simp [blockTxHashes, hblock]
    · show stored.spentKeys.Perm (keyImagesOf stored.txIndex)
      rw [happends.spentKeys, happends.txIndex, keyImagesOf_append]
      exact hsound.spentKeys.append_right _
  · simp [hsound.notBatch, hsound]

/-! ## What a pop removes -/

/-- The stored transactions and the spent key images agree: distinct hashes,
and each key image of a stored transaction spent once. -/
structure TxsSpent (db : Db) : Prop where
  txHashesNodup : (db.txIndex.map Prod.fst).Nodup
  spentKeys : db.spentKeys.Perm (keyImagesOf db.txIndex)
  spentKeysNodup : db.spentKeys.Nodup

theorem LedgerSound.txsSpent {H : Hashing} {db : Db} (hsound : LedgerSound H db) : TxsSpent db :=
  ⟨hsound.txHashesNodup, hsound.spentKeys, hsound.spentKeysNodup⟩

/-- `db'` is `db` without the stored transaction `entry`, whose key images are
unspent; the blocks and the batch flag are kept. -/
structure Removes (db db' : Db) (entry : Hash × Transaction) : Prop where
  mem : entry ∈ db.txIndex
  blocks : db'.blocks = db.blocks
  txIndex : db'.txIndex = db.txIndex.filter (·.1 != entry.1)
  spentKeys : db'.spentKeys = db.spentKeys.diff entry.2.keyImages
  batchActive : db'.batchActive = db.batchActive

/-- Under distinct hashes, dropping the entries with one entry's hash drops
exactly that entry. -/
theorem filter_hash_ne_eq_erase :
    ∀ {l : List (Hash × Transaction)} {entry : Hash × Transaction},
      (l.map Prod.fst).Nodup → entry ∈ l → l.filter (·.1 != entry.1) = l.erase entry
  | [], _, _, hmem => absurd hmem List.not_mem_nil
  | a :: rest, entry, hnodup, hmem => by
    rw [List.map_cons, List.nodup_cons] at hnodup
    by_cases hhead : a = entry
    · subst hhead
      -- the other entries carry other hashes
      have hkeep : rest.filter (·.1 != a.1) = rest := by
        refine List.filter_eq_self.2 fun b hb => ?_
        have hne : b.1 ≠ a.1 := fun heq => hnodup.1 (heq ▸ List.mem_map_of_mem hb)
        simpa using hne
      simp [hkeep]
    · have hrest : entry ∈ rest := (List.mem_cons.1 hmem).resolve_left (Ne.symm hhead)
      have hne : a.1 ≠ entry.1 := fun heq => hnodup.1 (heq ▸ List.mem_map_of_mem hrest)
      rw [List.filter_cons_of_pos (by simpa using hne), List.erase_cons_tail (by simpa using hhead),
        filter_hash_ne_eq_erase hnodup.2 hrest]

/-- Removing one stored transaction keeps hashes and spent key images in
agreement: its key images are exactly the ones unspent. -/
theorem TxsSpent.of_removes {db db' : Db} {entry : Hash × Transaction} (hspent : TxsSpent db)
    (hremoves : Removes db db' entry) : TxsSpent db' := by
  have herase := filter_hash_ne_eq_erase hspent.txHashesNodup hremoves.mem
  have hsplit : (keyImagesOf db.txIndex).Perm
      (keyImagesOf (db.txIndex.erase entry) ++ entry.2.keyImages) := by
    have hcons := (List.perm_cons_erase hremoves.mem).flatMap_right fun entry : Hash × Transaction =>
      entry.2.keyImages
    rw [List.flatMap_cons] at hcons
    exact hcons.trans List.perm_append_comm
  refine ⟨?_, ?_, ?_⟩
  · rw [hremoves.txIndex]
    exact hspent.txHashesNodup.sublist (List.filter_sublist.map Prod.fst)
  · -- as multisets: (rest + keys) - keys = rest
    rw [hremoves.txIndex, herase, hremoves.spentKeys, ← Multiset.coe_eq_coe, ← Multiset.coe_sub,
      Multiset.coe_eq_coe.2 (hspent.spentKeys.trans hsplit), ← Multiset.coe_add,
      Multiset.add_sub_cancel_right]
  · rw [hremoves.spentKeys]
    exact hspent.spentKeysNodup.diff

theorem removeSpentKey_run (kImage : KeyImage) (db : Db) :
    (removeSpentKey kImage).run db = .ok PUnit.unit { db with spentKeys := db.spentKeys.erase kImage } :=
  rfl

theorem forIn_removeSpentKey_run (keys : List KeyImage) (db : Db) :
    (forIn keys PUnit.unit fun kImage _ => do
        removeSpentKey kImage
        pure (ForInStep.yield PUnit.unit) : DbM PUnit).run db =
      .ok PUnit.unit { db with spentKeys := db.spentKeys.diff keys } := by
  induction keys generalizing db with
  | nil => rfl
  | cons kImage rest ih =>
    rw [List.forIn_cons, run_bind]
    simp only [run_bind, removeSpentKey_run, run_pure]
    rw [ih]
    simp [List.diff_cons]

theorem removeOutputs_ok :
    ∀ (outs : List (Nat × Nat)) {db db' : Db} {u : Unit}, (removeOutputs outs).run db = .ok u db' →
      ∃ outputs, db' = { db with outputs := outputs }
  | [], db, db', u, hrun => by
    simp only [removeOutputs, run_pure, EStateM.Result.ok.injEq] at hrun
    exact ⟨db.outputs, hrun.2.symm⟩
  | (amount, amountIndex) :: rest, db, db', u, hrun => by
    unfold removeOutputs at hrun
    simp only [run_bind, run_get] at hrun
    split at hrun
    · simp at hrun
    · simp only [run_bind, run_set] at hrun
      obtain ⟨outputs, rfl⟩ := removeOutputs_ok rest hrun
      exact ⟨outputs, rfl⟩

theorem removeTransactionData_ok {txHash : Hash} {tx : Transaction} {db db' : Db} {u : Unit}
    (hrun : (removeTransactionData txHash tx).run db = .ok u db') :
    ∃ outputs, db' = { db with txs := db.txs.filter (·.hash != txHash), outputs := outputs } := by
  unfold removeTransactionData at hrun
  obtain ⟨_, db₀, hget, hrest⟩ := run_bind_ok hrun
  simp only [run_get, EStateM.Result.ok.injEq] at hget
  obtain ⟨rfl, rfl⟩ := hget
  split at hrest
  · simp at hrest
  · split at hrest
    · simp at hrest
    · obtain ⟨_, db₁, houts, hmodify⟩ := run_bind_ok hrest
      obtain ⟨outputs, rfl⟩ := removeOutputs_ok _ houts
      simp only [run_modify, EStateM.Result.ok.injEq] at hmodify
      exact ⟨outputs, hmodify.2.symm⟩

theorem getTx_mem_txIndex {db : Db} {txHash : Hash} {record : TxRecord} (hget : db.getTx txHash = some record) :
    (txHash, record.tx) ∈ db.txIndex := by
  have hmem := List.mem_of_find?_eq_some hget
  have hhash : record.hash = txHash := by simpa using List.find?_some hget
  exact List.mem_map.2 ⟨record, hmem, by rw [hhash]⟩

/-- `remove_transaction` removes the stored transaction and unspends its key
images. -/
theorem removeTransaction_ok {txHash : Hash} {db db' : Db} {u : Unit}
    (hrun : (removeTransaction txHash).run db = .ok u db') : ∃ tx, Removes db db' (txHash, tx) := by
  unfold removeTransaction at hrun
  obtain ⟨_, db₀, hget, hrest⟩ := run_bind_ok hrun
  simp only [run_get, EStateM.Result.ok.injEq] at hget
  obtain ⟨rfl, rfl⟩ := hget
  split at hrest
  · simp at hrest
  · rename_i record hfind
    obtain ⟨_, db₁, hloop, hdata⟩ := run_bind_ok hrest
    rw [forIn_removeSpentKey_run, EStateM.Result.ok.injEq] at hloop
    obtain ⟨-, rfl⟩ := hloop
    obtain ⟨outputs, rfl⟩ := removeTransactionData_ok hdata
    refine ⟨record.tx, getTx_mem_txIndex hfind, rfl, ?_, rfl, rfl⟩
    simp only [Db.txIndex, List.filter_map]
    rfl

/-- The removal loop of `pop_block`, over the hashes it is given. -/
theorem removeTransactions_ok :
    ∀ (hashes : List Hash) {db db' : Db} {txs : List Transaction},
      TxsSpent db → (removeTransactions hashes).run db = .ok txs db' →
      TxsSpent db' ∧ db'.blocks = db.blocks ∧ db'.batchActive = db.batchActive ∧
        db'.txIndex = db.txIndex.filter fun entry => entry.1 ∉ hashes
  | [], db, db', txs, hspent, hrun => by
    simp only [removeTransactions, run_pure, EStateM.Result.ok.injEq] at hrun
    obtain ⟨-, rfl⟩ := hrun
    exact ⟨hspent, rfl, rfl, by simp⟩
  | txHash :: rest, db, db', txs, hspent, hrun => by
    unfold removeTransactions at hrun
    obtain ⟨_, db₀, hget, hrest⟩ := run_bind_ok hrun
    simp only [run_get, EStateM.Result.ok.injEq] at hget
    obtain ⟨rfl, rfl⟩ := hget
    split at hrest
    · simp at hrest
    · obtain ⟨_, db₁, hremove, hrest⟩ := run_bind_ok hrest
      obtain ⟨tx, hremoves⟩ := removeTransaction_ok hremove
      obtain ⟨_, db₂, hloop, hpure⟩ := run_bind_ok hrest
      simp only [run_pure, EStateM.Result.ok.injEq] at hpure
      obtain ⟨-, rfl⟩ := hpure
      obtain ⟨hspent', hblocks, hbatch, htxIndex⟩ :=
        removeTransactions_ok rest (hspent.of_removes hremoves) hloop
      refine ⟨hspent', hblocks.trans hremoves.blocks, hbatch.trans hremoves.batchActive, ?_⟩
      rw [htxIndex, hremoves.txIndex, List.filter_filter]
      congr 1
      funext entry
      by_cases hmem : entry.1 ∈ rest <;> by_cases heq : entry.1 = txHash <;> simp [hmem, heq]

theorem removeBlock_ok {db db' : Db} {u : Unit} (hrun : removeBlock.run db = .ok u db') :
    ∃ blocks top, db.blocks = blocks ++ [top] ∧ db' = { db with blocks := blocks } := by
  unfold removeBlock at hrun
  simp only [run_bind, run_get] at hrun
  split at hrun
  · simp at hrun
  · rename_i hheight
    simp only [run_set, EStateM.Result.ok.injEq] at hrun
    have hne : db.blocks ≠ [] := fun hnil => hheight (by simp [hnil])
    exact ⟨db.blocks.dropLast, db.blocks.getLast hne, (List.dropLast_append_getLast hne).symm, hrun.2.symm⟩

/-- A successful `pop_block` drops the top block and removes its
transactions, those it lists in reverse and then the miner transaction. -/
theorem popBlockData_ok {H : Hashing} {db db' : Db} {popped : Block × List Transaction}
    (hspent : TxsSpent db) (hrun : (popBlockData H).run db = .ok popped db') :
    ∃ blocks top, db.blocks = blocks ++ [top] ∧ db'.blocks = blocks ∧
      db'.batchActive = db.batchActive ∧ TxsSpent db' ∧
      db'.txIndex = db.txIndex.filter fun entry =>
        entry.1 ∉ top.block.txHashes.reverse ++ [H.txHash top.block.minerTx] := by
  unfold popBlockData at hrun
  obtain ⟨_, db₀, hget, hrest⟩ := run_bind_ok hrun
  simp only [run_get, EStateM.Result.ok.injEq] at hget
  obtain ⟨rfl, rfl⟩ := hget
  obtain ⟨_, db₁, hremoveBlock, hrest⟩ := run_bind_ok hrest
  obtain ⟨blocks, top, hblocks, rfl⟩ := removeBlock_ok hremoveBlock
  obtain ⟨_, db₂, hremoveTxs, hrest⟩ := run_bind_ok hrest
  obtain ⟨_, db₃, hremoveMiner, hpure⟩ := run_bind_ok hrest
  simp only [run_pure, EStateM.Result.ok.injEq] at hpure
  obtain ⟨-, rfl⟩ := hpure
  -- the block read before the removal is the top one
  have htop : (db.blocks.getLast?.map (·.block)).getD default = top.block := by simp [hblocks]
  rw [htop] at hremoveTxs hremoveMiner
  have hspent₁ : TxsSpent { db with blocks := blocks } :=
    ⟨hspent.txHashesNodup, hspent.spentKeys, hspent.spentKeysNodup⟩
  obtain ⟨hspent₂, hblocks₂, hbatch₂, htxIndex₂⟩ := removeTransactions_ok _ hspent₁ hremoveTxs
  obtain ⟨tx, hremoves⟩ := removeTransaction_ok hremoveMiner
  refine ⟨blocks, top, hblocks, hremoves.blocks.trans hblocks₂, hremoves.batchActive.trans hbatch₂,
    hspent₂.of_removes hremoves, ?_⟩
  rw [hremoves.txIndex, htxIndex₂, List.filter_filter]
  congr 1
  funext entry
  by_cases hmem : entry.1 ∈ top.block.txHashes <;> by_cases heq : entry.1 = H.txHash top.block.minerTx <;>
    simp [hmem, heq]

/-- Dropping from hashes `l₁ ++ l₂` without repeats the hashes of `removed`,
which are exactly those of `l₂`, leaves `l₁`. -/
theorem filter_not_mem_append {l₁ l₂ removed : List Hash} (hnodup : (l₁ ++ l₂).Nodup)
    (hremoved : ∀ h, h ∈ removed ↔ h ∈ l₂) : (l₁ ++ l₂).filter (fun h => h ∉ removed) = l₁ := by
  have hkeep : l₁.filter (fun h => h ∉ removed) = l₁ := by
    refine List.filter_eq_self.2 fun h hmem => ?_
    have hnot : h ∉ l₂ := fun hmem₂ => (List.nodup_append.1 hnodup).2.2 h hmem h hmem₂ rfl
    simpa [hremoved] using hnot
  have hdrop : l₂.filter (fun h => h ∉ removed) = [] :=
    List.filter_eq_nil_iff.2 fun h hmem => by simpa [hremoved] using hmem
  rw [List.filter_append, hkeep, hdrop, List.append_nil]

/-- `pop_block` keeps a sound ledger sound, whether it returns or throws. -/
theorem popBlock_ledgerSound {H : Hashing} {db : Db} (hsound : LedgerSound H db) :
    LedgerSound H (popBlock H db).1 := by
  unfold popBlock
  split
  · rename_i popped written hrun
    obtain ⟨blocks, top, hblocks, hblocks', hbatch, hspent, htxIndex⟩ := popBlockData_ok hsound.txsSpent hrun
    refine ⟨hbatch.trans hsound.notBatch, ?_, hspent.txHashesNodup, hspent.spentKeys, hspent.spentKeysNodup⟩
    have hhashes : written.txIndex.map Prod.fst = (db.txIndex.map Prod.fst).filter
        (fun h => h ∉ top.block.txHashes.reverse ++ [H.txHash top.block.minerTx]) := by
      rw [htxIndex, List.filter_map]
      rfl
    have hnodup := hsound.txHashesNodup
    rw [hsound.txHashes, hblocks, List.flatMap_append, List.flatMap_singleton] at hnodup
    rw [hhashes, hsound.txHashes, hblocks, hblocks', List.flatMap_append, List.flatMap_singleton]
    refine filter_not_mem_append hnodup fun h => ?_
    simp [blockTxHashes, or_comm]
  · simp [hsound.notBatch, hsound]

end ElectroneumClassic.BlockchainDB
