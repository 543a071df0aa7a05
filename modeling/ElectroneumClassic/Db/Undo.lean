import ElectroneumClassic.Db.Ledger
import Mathlib.Data.List.Induction

/-!
# Popping the block just added

`BlockchainDB::pop_block` takes back the writes of `add_block` in reverse: the
block record, then each transaction the block lists, last first, then the
miner transaction.  Removing a transaction unspends its key images, removes
its outputs, last first, and drops its index row.

Outputs are removed by amount and amount index, so `remove_tx_outputs` must
look each one up under the amount `add_transaction` stored it under.
`add_transaction` stores the outputs of a transaction with a `txin_gen` input
and version 2 under amount 0; `remove_tx_outputs` looks outputs up under
amount 0 when the version is at least 2 and the only input is a `txin_gen`.
`Undoable` names the transactions on which the two tests agree and whose
inputs `add_transaction` stores.  On those, and on an output table numbered
as `add_output` numbers it, `pop_block` right after `add_block` restores every
table but `hf_versions`, which neither call takes back
(`popBlock_addBlock`).  Every database built by these calls from an empty one
is numbered so (`Stacked`).
-/

namespace ElectroneumClassic.BlockchainDB

open Cryptonote Effects

/-! ## Numbered tables -/

/-- The output table as `add_output` appends to it: each output's global id is
its position, and its amount index counts the earlier outputs of its amount. -/
inductive OutputsIndexed : List OutputRecord → Prop
  | nil : OutputsIndexed []
  | snoc {outputs : List OutputRecord} {output : OutputRecord} :
      OutputsIndexed outputs → output.outputId = outputs.length →
      output.amountIndex = outputs.countP (·.amount == output.amount) →
      OutputsIndexed (outputs ++ [output])

namespace OutputsIndexed

theorem of_append_singleton {outputs : List OutputRecord} {output : OutputRecord}
    (indexed : OutputsIndexed (outputs ++ [output])) :
    OutputsIndexed outputs ∧ output.outputId = outputs.length ∧
      output.amountIndex = outputs.countP (·.amount == output.amount) := by
  generalize listed : outputs ++ [output] = all at indexed
  cases indexed with
  | nil => exact absurd listed (by simp)
  | snoc previous identified counted =>
    obtain ⟨rfl, single⟩ := List.append_inj' listed rfl
    obtain rfl := List.singleton_inj.1 single
    exact ⟨previous, identified, counted⟩

theorem of_append {outputs : List OutputRecord} :
    ∀ added : List OutputRecord, OutputsIndexed (outputs ++ added) → OutputsIndexed outputs := by
  intro added
  induction added using List.reverseRecOn with
  | nil =>
    rw [List.append_nil]
    exact id
  | append_singleton added output inductionHypothesis =>
    intro indexed
    rw [← List.append_assoc] at indexed
    exact inductionHypothesis indexed.of_append_singleton.1

/-- Every output's id is below the table's length, and its amount index below
the number of outputs of its amount. -/
theorem bounds {outputs : List OutputRecord} (indexed : OutputsIndexed outputs) :
    ∀ output ∈ outputs, output.outputId < outputs.length ∧
      output.amountIndex < outputs.countP (·.amount == output.amount) := by
  induction indexed with
  | nil =>
    intro output member
    cases member
  | @snoc outputs last previous identified counted inductionHypothesis =>
    intro output member
    rw [List.length_append, List.length_singleton, List.countP_append, List.countP_singleton]
    rcases List.mem_append.1 member with earlier | latest
    · obtain ⟨below, fewer⟩ := inductionHypothesis output earlier
      constructor <;> omega
    · obtain rfl := List.mem_singleton.1 latest
      simp only [beq_self_eq_true, if_true]
      omega

/-- The last output is the first with its amount and amount index. -/
theorem find?_last {outputs : List OutputRecord} {output : OutputRecord}
    (indexed : OutputsIndexed (outputs ++ [output])) :
    (outputs ++ [output]).find? (fun o => o.amount == output.amount && o.amountIndex == output.amountIndex) =
      some output := by
  obtain ⟨previous, -, counted⟩ := indexed.of_append_singleton
  have earlierOnes : outputs.find?
      (fun o => o.amount == output.amount && o.amountIndex == output.amountIndex) = none := by
    apply List.find?_eq_none.2
    intro earlier member
    have fewer := (previous.bounds earlier member).2
    simp only [Bool.and_eq_true, beq_iff_eq, not_and]
    intro sameAmount sameIndex
    rw [sameAmount, ← counted, sameIndex] at fewer
    exact Nat.lt_irrefl _ fewer
  rw [List.find?_append, earlierOnes, Option.none_or]
  simp

/-- Dropping the outputs with the last output's id drops only the last. -/
theorem filter_last {outputs : List OutputRecord} {output : OutputRecord}
    (indexed : OutputsIndexed (outputs ++ [output])) :
    (outputs ++ [output]).filter (·.outputId != output.outputId) = outputs := by
  obtain ⟨previous, identified, -⟩ := indexed.of_append_singleton
  have earlierOnes : outputs.filter (·.outputId != output.outputId) = outputs := by
    apply List.filter_eq_self.2
    intro earlier member
    have below := (previous.bounds earlier member).1
    simp only [bne_iff_ne, ne_eq]
    omega
  rw [List.filter_append, earlierOnes]
  simp

end OutputsIndexed

/-- What the writes of `add_transaction` assume of the tables they append to:
a numbered output table, and transaction ids below the number of stored
transactions. -/
structure Indexed (db : Db) : Prop where
  outputs : OutputsIndexed db.outputs
  txIds : ∀ record ∈ db.txs, record.txId < db.txs.length

/-- The transactions whose writes `pop_block` takes back: every input is a
`txin_to_key` or a `txin_gen`, and the test `add_transaction` stores outputs
under amount 0 by agrees with the test `remove_tx_outputs` looks them up by. -/
def Undoable (tx : Transaction) : Prop :=
  (∀ input ∈ tx.vin, storableInput input) ∧
    (tx.vin.any TxinV.isGen = true ∧ tx.version = 2 ↔
      tx.version ≥ 2 ∧ tx.vin.length = 1 ∧ tx.vin.head?.map TxinV.isGen = some true)

instance (tx : Transaction) : Decidable (Undoable tx) :=
  inferInstanceAs (Decidable ((∀ input ∈ tx.vin, input.isToKey = true ∨ input.isGen = true) ∧
    (tx.vin.any TxinV.isGen = true ∧ tx.version = 2 ↔
      tx.version ≥ 2 ∧ tx.vin.length = 1 ∧ tx.vin.head?.map TxinV.isGen = some true)))

/-- A coinbase miner transaction of a version a transaction can have is
undoable. -/
theorem undoable_of_coinbase {tx : Transaction} (coinbase : isCoinbase tx = true)
    (current : tx.version ≤ Config.CURRENT_TRANSACTION_VERSION) : Undoable tx := by
  refine ⟨storableInput_of_coinbase coinbase, ?_⟩
  unfold isCoinbase at coinbase
  split at coinbase
  · rename_i input single
    rw [single]
    simp only [List.any_cons, List.any_nil, Bool.or_false, coinbase, List.length_singleton,
      List.head?_cons, Option.map_some, true_and, and_true]
    unfold Config.CURRENT_TRANSACTION_VERSION at current
    omega
  · cases coinbase

/-- A transaction that spends only keys is undoable. -/
theorem undoable_of_supported {tx : Transaction} (supported : checkInputsTypesSupported tx = true) :
    Undoable tx := by
  have keys : ∀ input ∈ tx.vin, input.isGen = false := by
    intro input member
    obtain ⟨amount, keyOffsets, kImage, rfl⟩ := (TxinV.isToKey_iff input).1
      (List.all_eq_true.1 supported input member)
    rfl
  refine ⟨storableInput_of_supported supported, ?_⟩
  have noGeneration : tx.vin.any TxinV.isGen = false := List.any_eq_false.2 fun input member => by
    simp [keys input member]
  cases headed : tx.vin.head? with
  | none => simp [noGeneration]
  | some input =>
    have first := keys input (List.mem_of_mem_head? headed)
    simp [noGeneration, first]

/-! ## What `add_transaction` writes -/

theorem addSpentKey_run {kImage : KeyImage} {db db' : Db} {u : Unit}
    (ran : (addSpentKey kImage).run db = .ok u db') :
    kImage ∉ db.spentKeys ∧ db' = { db with spentKeys := db.spentKeys ++ [kImage] } := by
  unfold addSpentKey at ran
  by_cases spent : kImage ∈ db.spentKeys
  · simp [spent] at ran
  · simp only [run_bind, run_get, spent, if_false, run_set, EStateM.Result.ok.injEq] at ran
    exact ⟨spent, ran.2.symm⟩

/-- Over inputs that are keys or generation, the input loop goes on to store
the transaction, noting a `txin_gen`, and spends each key image, none spent
before. -/
theorem addInputs_run (tx : Transaction) :
    ∀ (vin : List TxinV) (minerTx : Bool) {db db' : Db} {result : Option Bool},
      (∀ input ∈ vin, storableInput input) → (addInputs tx vin minerTx).run db = .ok result db' →
      result = some (minerTx || vin.any TxinV.isGen) ∧
        (∀ kImage ∈ vin.filterMap TxinV.keyImage?, kImage ∉ db.spentKeys) ∧
        db' = { db with spentKeys := db.spentKeys ++ vin.filterMap TxinV.keyImage? }
  | [], minerTx, db, db', result, _, ran => by
    simp only [addInputs, run_pure, EStateM.Result.ok.injEq] at ran
    obtain ⟨rfl, rfl⟩ := ran
    simp
  | .toKey amount keyOffsets kImage :: rest, minerTx, db, db', result, storable, ran => by
    obtain ⟨_, spentOne, spending, ran⟩ := run_bind_ok ran
    obtain ⟨fresh, rfl⟩ := addSpentKey_run spending
    obtain ⟨rfl, unspent, rfl⟩ :=
      addInputs_run tx rest minerTx (fun input member => storable input (List.mem_cons_of_mem _ member)) ran
    refine ⟨by simp [TxinV.isGen], ?_, by simp⟩
    intro key member
    rw [List.filterMap_cons, TxinV.keyImage?_toKey, List.mem_cons] at member
    rcases member with rfl | later
    · exact fresh
    · exact fun old => unspent key later (List.mem_append_left _ old)
  | .gen height :: rest, minerTx, db, db', result, storable, ran => by
    obtain ⟨rfl, unspent, rfl⟩ :=
      addInputs_run tx rest true (fun input member => storable input (List.mem_cons_of_mem _ member)) ran
    exact ⟨by simp [TxinV.isGen], unspent, rfl⟩
  | .toScript .. :: _, _, _, _, _, storable, _ => by
    simp [storableInput, TxinV.isToKey, TxinV.isGen] at storable
  | .toScripthash .. :: _, _, _, _, _, storable, _ => by
    simp [storableInput, TxinV.isToKey, TxinV.isGen] at storable

theorem addTransactionData_run {tx : Transaction} {txHash prunableHash : Hash} {db db' : Db} {txId : Nat}
    (ran : (addTransactionData tx txHash prunableHash).run db = .ok txId db') :
    txHash ∉ db.txs.map (·.hash) ∧ txId = db.txs.length ∧
      ∃ record : TxRecord, record.hash = txHash ∧ record.tx = tx ∧ record.txId = db.txs.length ∧
        db' = { db with txs := db.txs ++ [record] } := by
  unfold addTransactionData at ran
  by_cases exists_ : db.txExists txHash
  · simp [exists_] at ran
  · simp only [run_bind, run_get, exists_, Bool.false_eq_true, if_false, run_set, run_pure,
      EStateM.Result.ok.injEq] at ran
    obtain ⟨rfl, rfl⟩ := ran
    refine ⟨?_, rfl, _, rfl, rfl, rfl, rfl⟩
    simpa [Db.txExists] using exists_

/-- A stored output: its amount, its number among outputs of that amount and
overall, the height of the block being added, and a commitment for a zero
amount. -/
theorem addOutput_run {txHash : Hash} {out : TxOut} {localIndex unlockTime : Nat}
    {commitment : Option Key} {db db' : Db} {index : Nat}
    (ran : (addOutput txHash out localIndex unlockTime commitment).run db = .ok index db') :
    ∃ record : OutputRecord, record.amount = out.amount ∧ record.amountIndex = index ∧
      record.outputId = db.outputs.length ∧ index = db.outputs.countP (·.amount == record.amount) ∧
      record.height = db.height ∧ (out.amount = 0 → commitment.isSome) ∧
      db' = { db with outputs := db.outputs ++ [record] } := by
  unfold addOutput at ran
  cases target : out.target
  case toKey key =>
    simp only [target, run_bind, run_get] at ran
    split at ran
    · simp at ran
    · rename_i committed
      simp only [run_bind, run_set, run_pure, EStateM.Result.ok.injEq] at ran
      obtain ⟨rfl, rfl⟩ := ran
      refine ⟨_, rfl, rfl, rfl, rfl, rfl, fun zero => ?_, rfl⟩
      cases commitment with
      | none => exact absurd ⟨zero, rfl⟩ committed
      | some _ => rfl
  -- any other target throws
  all_goals simp [target] at ran

/-- The output loop appends one numbered output per output, under amount 0
for a v2 miner transaction, at the height of the block being added, and
returns their amount indices.  Without a commitment, which only transactions
of version 2 and up give, no output may have amount 0. -/
theorem addOutputs_run (H : Hashing) (tx : Transaction) (txHash : Hash) (minerTx : Bool) :
    ∀ (outs : List (Nat × TxOut)) {db db' : Db} {indices : List Nat},
      (addOutputs H tx txHash minerTx outs).run db = .ok indices db' →
      ∃ added : List OutputRecord, added.map (·.amountIndex) = indices ∧
        added.map (·.amount) = outs.map (fun p => if minerTx ∧ tx.version = 2 then 0 else p.2.amount) ∧
        (OutputsIndexed db.outputs → OutputsIndexed (db.outputs ++ added)) ∧
        (∀ output ∈ added, output.height = db.height) ∧
        (¬(minerTx = true ∧ tx.version = 2) → tx.version ≤ 1 → ∀ p ∈ outs, p.2.amount ≠ 0) ∧
        db' = { db with outputs := db.outputs ++ added }
  | [], db, db', indices, ran => by
    simp only [addOutputs, run_pure, EStateM.Result.ok.injEq] at ran
    obtain ⟨rfl, rfl⟩ := ran
    exact ⟨[], rfl, rfl, by simp, by simp, by simp, by simp⟩
  | (i, out) :: rest, db, db', indices, ran => by
    rw [addOutputs] at ran
    -- a v2 miner output is stored under amount 0, any other under its own
    have stored : ∃ (record : OutputRecord) (db₁ : Db),
        record.amount = (if minerTx ∧ tx.version = 2 then 0 else out.amount) ∧
        record.outputId = db.outputs.length ∧
        record.amountIndex = db.outputs.countP (·.amount == record.amount) ∧
        record.height = db.height ∧
        (¬(minerTx = true ∧ tx.version = 2) → tx.version ≤ 1 → out.amount ≠ 0) ∧
        db₁ = { db with outputs := db.outputs ++ [record] } ∧
        (do let indices ← addOutputs H tx txHash minerTx rest
            pure (record.amountIndex :: indices) : DbM (List Nat)).run db₁ = .ok indices db' := by
      split at ran
      · rename_i pseudo
        obtain ⟨index, db₁, first, ran⟩ := run_bind_ok ran
        obtain ⟨record, amount, rfl, identified, counted, height, -, rfl⟩ := addOutput_run first
        exact ⟨record, _, by rw [if_pos pseudo, amount], identified, counted, height,
          fun plain => absurd pseudo plain, rfl, ran⟩
      · rename_i plain
        obtain ⟨index, db₁, first, ran⟩ := run_bind_ok ran
        obtain ⟨record, amount, rfl, identified, counted, height, committed, rfl⟩ := addOutput_run first
        refine ⟨record, _, by rw [if_neg plain, amount], identified, counted, height, ?_, rfl, ran⟩
        -- a transaction below version 2 gives no commitment
        intro _ early zero
        have noCommitment := committed zero
        rw [if_neg (by omega)] at noCommitment
        cases noCommitment
    obtain ⟨record, db₁, amount, identified, counted, height, nonzero, rfl, ran⟩ := stored
    obtain ⟨later, db₂, loop, done⟩ := run_bind_ok ran
    simp only [run_pure, EStateM.Result.ok.injEq] at done
    obtain ⟨rfl, rfl⟩ := done
    obtain ⟨added, indicesOf, amountsOf, keeps, heights, nonzeros, rfl⟩ :=
      addOutputs_run H tx txHash minerTx rest loop
    refine ⟨record :: added, by simp [indicesOf], by simp [amount, amountsOf], ?_, ?_, ?_, by simp⟩
    · intro previous
      have extended := keeps (OutputsIndexed.snoc previous identified counted)
      simpa using extended
    · intro output member
      rcases List.mem_cons.1 member with rfl | later
      · exact height
      · exact heights output later
    · intro plain early p member
      rcases List.mem_cons.1 member with rfl | later
      · exact nonzero plain early
      · exact nonzeros plain early p later

theorem addTxAmountOutputIndices_run {db : Db} {earlier : List TxRecord} {record : TxRecord}
    {indices : List Nat} (listed : db.txs = earlier ++ [record])
    (numbered : ∀ other ∈ earlier, other.txId < earlier.length) (last : record.txId = earlier.length) :
    (addTxAmountOutputIndices record.txId indices).run db =
      .ok () { db with txs := earlier ++ [{ record with amountOutputIndices := indices }] } := by
  simp only [addTxAmountOutputIndices, run_modify, listed, List.map_append, List.map_cons, List.map_nil,
    if_true, EStateM.Result.ok.injEq, true_and]
  have untouched : earlier.map (fun other : TxRecord =>
      if other.txId = record.txId then { other with amountOutputIndices := indices } else other) = earlier := by
    conv_rhs => rw [← List.map_id earlier]
    apply List.map_congr_left
    intro other member
    have below := numbered other member
    rw [if_neg (by omega), id]
  rw [untouched]

/-- `db'` is `db` with `tx` stored under `txHash`: its index row appended,
recording the amount indices of its outputs; its outputs appended under the
amounts `remove_tx_outputs` looks them up by; and its key images, none spent
before, appended to `spent_keys`. -/
structure StoresTx (db db' : Db) (txHash : Hash) (tx : Transaction) : Prop where
  fresh : txHash ∉ db.txs.map (·.hash)
  unspent : ∀ kImage ∈ tx.keyImages, kImage ∉ db.spentKeys
  stored : ∃ (record : TxRecord) (added : List OutputRecord), record.hash = txHash ∧ record.tx = tx ∧
    record.amountOutputIndices = added.map (·.amountIndex) ∧
    added.map (·.amount) = tx.vout.map (fun out =>
      if tx.version ≥ 2 ∧ tx.vin.length = 1 ∧ tx.vin.head?.map TxinV.isGen = some true then 0
      else out.amount) ∧
    db' = { db with
      txs := db.txs ++ [record], outputs := db.outputs ++ added, spentKeys := db.spentKeys ++ tx.keyImages }

/-- An undoable transaction that `add_transaction` stores is stored under its
hash, and the tables stay numbered. -/
theorem addTransaction_stores {H : Hashing} {tx : Transaction} {txHash? : Option Hash} {db db' : Db}
    {u : Unit} (indexed : Indexed db) (undoable : Undoable tx)
    (ran : (addTransaction H tx txHash?).run db = .ok u db') :
    StoresTx db db' (txHash?.getD (H.txHash tx)) tx ∧ Indexed db' := by
  unfold addTransaction at ran
  obtain ⟨result, spending, inputs, ran⟩ := run_bind_ok ran
  obtain ⟨rfl, unspent, rfl⟩ := addInputs_run tx tx.vin false undoable.1 inputs
  obtain ⟨txId, written, data, ran⟩ := run_bind_ok ran
  obtain ⟨fresh, rfl, record, hash, txOf, numbered, rfl⟩ := addTransactionData_run data
  obtain ⟨indices, outputted, outs, ran⟩ := run_bind_ok ran
  obtain ⟨added, indicesOf, amountsOf, keeps, -, -, rfl⟩ := addOutputs_run H tx _ _ _ outs
  rw [← numbered, addTxAmountOutputIndices_run rfl (fun other member => indexed.txIds other member)
    numbered, EStateM.Result.ok.injEq] at ran
  obtain ⟨-, rfl⟩ := ran
  -- the amounts stored and the amounts looked up agree on an undoable transaction
  have amounts : added.map (·.amount) = tx.vout.map (fun out =>
      if tx.version ≥ 2 ∧ tx.vin.length = 1 ∧ tx.vin.head?.map TxinV.isGen = some true then 0
      else out.amount) := by
    have zipped : ((List.range tx.vout.length).zip tx.vout).map Prod.snd = tx.vout :=
      List.map_snd_zip (by simp)
    rw [amountsOf]
    conv_rhs => rw [← zipped]
    rw [List.map_map]
    apply List.map_congr_left
    intro pair member
    simp only [Function.comp_apply, Bool.false_or, undoable.2]
  refine ⟨⟨fresh, by simpa [Transaction.keyImages] using unspent,
    ⟨{ record with amountOutputIndices := indices }, added, hash, txOf, indicesOf.symm, amounts, rfl⟩⟩,
    ⟨keeps indexed.outputs, ?_⟩⟩
  intro other member
  simp only [List.length_append, List.length_singleton]
  rcases List.mem_append.1 member with earlier | latest
  · have below := indexed.txIds other earlier
    omega
  · obtain rfl := List.mem_singleton.1 latest
    simp only [numbered]
    omega

/-! ## What `remove_transaction` takes back -/

theorem find?_hash_append_fresh {txs : List TxRecord} {record : TxRecord} {txHash : Hash}
    (fresh : txHash ∉ txs.map (·.hash)) (hash : record.hash = txHash) :
    (txs ++ [record]).find? (·.hash == txHash) = some record := by
  have earlierOnes : txs.find? (·.hash == txHash) = none := by
    apply List.find?_eq_none.2
    intro other member same
    exact fresh (List.mem_map.2 ⟨other, member, by simpa using same⟩)
  rw [List.find?_append, earlierOnes, Option.none_or]
  simp [hash]

theorem filter_hash_append_fresh {txs : List TxRecord} {record : TxRecord} {txHash : Hash}
    (fresh : txHash ∉ txs.map (·.hash)) (hash : record.hash = txHash) :
    (txs ++ [record]).filter (·.hash != txHash) = txs := by
  have earlierOnes : txs.filter (·.hash != txHash) = txs := by
    apply List.filter_eq_self.2
    intro other member
    have different : other.hash ≠ txHash := fun same => fresh (List.mem_map.2 ⟨other, member, same⟩)
    simpa using different
  rw [List.filter_append, earlierOnes]
  simp [hash]

/-- Unspending key images that were appended, none spent before, leaves the
table as it was. -/
theorem diff_append_of_unspent {spent : List KeyImage} :
    ∀ {keys : List KeyImage}, (∀ kImage ∈ keys, kImage ∉ spent) → (spent ++ keys).diff keys = spent
  | [], _ => by simp
  | kImage :: rest, unspent => by
    rw [List.diff_cons, List.erase_append_right _ (unspent kImage List.mem_cons_self), List.erase_cons_head]
    exact diff_append_of_unspent fun key member => unspent key (List.mem_cons_of_mem _ member)

/-- The output loop of `remove_tx_outputs` over the last outputs of a numbered
table, last first, removes exactly them. -/
theorem removeOutputs_undoes :
    ∀ (added : List OutputRecord) {kept : List OutputRecord} {db : Db},
      OutputsIndexed (kept ++ added) → db.outputs = kept ++ added →
      (removeOutputs (added.map fun o => (o.amount, o.amountIndex)).reverse).run db =
        .ok () { db with outputs := kept } := by
  intro added
  induction added using List.reverseRecOn with
  | nil =>
    intro kept db _ listed
    simp only [List.append_nil] at listed
    simp only [List.map_nil, List.reverse_nil, removeOutputs, run_pure, ← listed]
  | append_singleton added last inductionHypothesis =>
    intro kept db indexed listed
    rw [← List.append_assoc] at indexed listed
    simp only [List.map_append, List.map_cons, List.map_nil, List.reverse_append, List.reverse_cons,
      List.reverse_nil, List.nil_append, List.singleton_append]
    rw [removeOutputs]
    simp only [run_bind, run_get, listed, indexed.find?_last, run_set, indexed.filter_last]
    exact inductionHypothesis indexed.of_append_singleton.1 rfl

namespace StoresTx

variable {db db' : Db} {txHash : Hash} {tx : Transaction}

theorem getTx (stores : StoresTx db db' txHash tx) :
    ∃ record : TxRecord, db'.getTx txHash = some record ∧ record.tx = tx := by
  obtain ⟨fresh, -, record, added, hash, txOf, -, -, rfl⟩ := stores
  exact ⟨record, find?_hash_append_fresh fresh hash, txOf⟩

theorem blocks (stores : StoresTx db db' txHash tx) : db'.blocks = db.blocks := by
  obtain ⟨-, -, record, added, -, -, -, -, rfl⟩ := stores
  rfl

theorem batchActive (stores : StoresTx db db' txHash tx) : db'.batchActive = db.batchActive := by
  obtain ⟨-, -, record, added, -, -, -, -, rfl⟩ := stores
  rfl

theorem outputsIndexed (stores : StoresTx db db' txHash tx) (indexed : OutputsIndexed db'.outputs) :
    OutputsIndexed db.outputs := by
  obtain ⟨-, -, record, added, -, -, -, -, rfl⟩ := stores
  exact OutputsIndexed.of_append added indexed

theorem withHfVersions (stores : StoresTx db db' txHash tx) (hfVersions : HfVersions) :
    StoresTx { db with hfVersions := hfVersions } { db' with hfVersions := hfVersions } txHash tx := by
  obtain ⟨fresh, unspent, record, added, hash, txOf, indicesOf, amountsOf, rfl⟩ := stores
  exact ⟨fresh, unspent, record, added, hash, txOf, indicesOf, amountsOf, rfl⟩

/-- `remove_transaction` right after `add_transaction` restores the tables. -/
theorem removeTransaction (stores : StoresTx db db' txHash tx) (indexed : OutputsIndexed db'.outputs) :
    (BlockchainDB.removeTransaction txHash).run db' = .ok () db := by
  obtain ⟨fresh, unspent, record, added, hash, rfl, indicesOf, amountsOf, rfl⟩ := stores
  have found := find?_hash_append_fresh fresh hash
  have sizes : added.length = record.tx.vout.length := by
    simpa using congrArg List.length amountsOf
  -- the row records indices for every output, so the emptiness check passes
  have recorded : ¬(record.amountOutputIndices.isEmpty = true ∧ (!record.tx.vout.isEmpty) = true) := by
    rw [indicesOf]
    rintro ⟨none_, some_⟩
    simp only [List.isEmpty_iff, List.map_eq_nil_iff] at none_
    subst none_
    simp only [List.length_nil] at sizes
    simp [List.eq_nil_of_length_eq_zero sizes.symm] at some_
  have pairs : ((record.tx.vout.map fun out =>
      if record.tx.version ≥ 2 ∧ record.tx.vin.length = 1 ∧ record.tx.vin.head?.map TxinV.isGen = some true
      then 0 else out.amount).zip (record.amountOutputIndices.take record.tx.vout.length)) =
      added.map fun o => (o.amount, o.amountIndex) := by
    rw [← amountsOf, indicesOf, List.take_of_length_le (by simp [sizes]), List.zip_map']
  unfold BlockchainDB.removeTransaction removeTransactionData
  simp only [run_bind, run_get, Db.getTx, found, forIn_removeSpentKey_run, List.length_map, if_neg recorded,
    pairs]
  rw [removeOutputs_undoes added indexed rfl]
  simp only [run_modify, filter_hash_append_fresh fresh hash, diff_append_of_unspent unspent]

end StoresTx

/-- `db'` is `db` with the transactions `entries` stored one after another. -/
inductive StoresTxs : Db → Db → List (Hash × Transaction) → Prop
  | nil (db : Db) : StoresTxs db db []
  | snoc {db mid db' : Db} {entries : List (Hash × Transaction)} {txHash : Hash} {tx : Transaction} :
      StoresTxs db mid entries → StoresTx mid db' txHash tx → StoresTxs db db' (entries ++ [(txHash, tx)])

namespace StoresTxs

theorem cons {db mid db' : Db} {txHash : Hash} {tx : Transaction} {entries : List (Hash × Transaction)}
    (first : StoresTx db mid txHash tx) (rest : StoresTxs mid db' entries) :
    StoresTxs db db' ((txHash, tx) :: entries) := by
  induction rest with
  | nil => exact .snoc (.nil db) first
  | snoc earlier last inductionHypothesis => exact .snoc inductionHypothesis last

theorem blocks {db db' : Db} {entries : List (Hash × Transaction)} (stores : StoresTxs db db' entries) :
    db'.blocks = db.blocks := by
  induction stores with
  | nil => rfl
  | snoc earlier last inductionHypothesis => exact last.blocks.trans inductionHypothesis

theorem batchActive {db db' : Db} {entries : List (Hash × Transaction)} (stores : StoresTxs db db' entries) :
    db'.batchActive = db.batchActive := by
  induction stores with
  | nil => rfl
  | snoc earlier last inductionHypothesis => exact last.batchActive.trans inductionHypothesis

theorem withHfVersions {db db' : Db} {entries : List (Hash × Transaction)} (stores : StoresTxs db db' entries)
    (hfVersions : HfVersions) :
    StoresTxs { db with hfVersions := hfVersions } { db' with hfVersions := hfVersions } entries := by
  induction stores with
  | nil => exact .nil _
  | snoc earlier last inductionHypothesis => exact .snoc inductionHypothesis (last.withHfVersions hfVersions)

theorem outputsIndexed {db db' : Db} {entries : List (Hash × Transaction)} (stores : StoresTxs db db' entries)
    (indexed : OutputsIndexed db'.outputs) : OutputsIndexed db.outputs := by
  induction stores with
  | nil => exact indexed
  | snoc earlier last inductionHypothesis => exact inductionHypothesis (last.outputsIndexed indexed)

/-- The removal loop of `pop_block` over the stored hashes, last first,
restores the tables and returns the transactions, last first. -/
theorem removeTransactions {db db' : Db} {entries : List (Hash × Transaction)}
    (stores : StoresTxs db db' entries) (indexed : OutputsIndexed db'.outputs) :
    (BlockchainDB.removeTransactions (entries.map Prod.fst).reverse).run db' =
      .ok (entries.map Prod.snd).reverse db := by
  induction stores with
  | nil => rfl
  | snoc earlier last inductionHypothesis =>
    obtain ⟨record, found, txOf⟩ := last.getTx
    simp only [List.map_append, List.map_cons, List.map_nil, List.reverse_append, List.reverse_cons,
      List.reverse_nil, List.nil_append, List.singleton_append]
    rw [BlockchainDB.removeTransactions]
    simp only [run_bind, run_get, found, last.removeTransaction indexed,
      inductionHypothesis (last.outputsIndexed indexed), run_pure, txOf]

end StoresTxs

/-! ## A block and its transactions -/

theorem addTransactions_stores (H : Hashing) :
    ∀ (txs : List (Transaction × Hash)) {db db' : Db} {count : Nat}, Indexed db →
      (∀ p ∈ txs, Undoable p.1) → (addTransactions H txs).run db = .ok count db' →
      StoresTxs db db' (txs.map fun p => (p.2, p.1)) ∧ Indexed db'
  | [], db, db', count, indexed, _, ran => by
    simp only [addTransactions, run_pure, EStateM.Result.ok.injEq] at ran
    obtain ⟨-, rfl⟩ := ran
    exact ⟨.nil db, indexed⟩
  | (tx, txHash) :: rest, db, db', count, indexed, undoable, ran => by
    obtain ⟨_, stored, first, ran⟩ := run_bind_ok ran
    obtain ⟨_, db₂, loop, done⟩ := run_bind_ok ran
    simp only [run_pure, EStateM.Result.ok.injEq] at done
    obtain ⟨-, rfl⟩ := done
    obtain ⟨storesFirst, indexedFirst⟩ := addTransaction_stores indexed (undoable _ List.mem_cons_self) first
    obtain ⟨storesRest, indexedRest⟩ := addTransactions_stores H rest indexedFirst
      (fun p member => undoable p (List.mem_cons_of_mem _ member)) loop
    exact ⟨.cons storesFirst storesRest, indexedRest⟩

/-- The writes of a successful `add_block` of undoable transactions: the miner
transaction, then the others under the hashes the block lists, then the block
record. -/
theorem addBlockData_stores {H : Hashing} {blk : Block} {weight cumulativeDifficulty coinsGenerated : Nat}
    {txs : List Transaction} {db db' : Db} {result : Hash × Nat} (indexed : Indexed db)
    (minerUndoable : Undoable blk.minerTx) (undoable : ∀ tx ∈ txs, Undoable tx)
    (ran : (addBlockData H blk weight cumulativeDifficulty coinsGenerated txs).run db = .ok result db') :
    ∃ (mined stored : Db) (record : BlockRecord), StoresTx db mined (H.txHash blk.minerTx) blk.minerTx ∧
      StoresTxs mined stored ((txs.zip blk.txHashes).map fun p => (p.2, p.1)) ∧ Indexed stored ∧
      record.block = blk ∧ db' = { stored with blocks := stored.blocks ++ [record] } := by
  unfold addBlockData at ran
  obtain ⟨_, db₀, read, ran⟩ := run_bind_ok ran
  simp only [run_get, EStateM.Result.ok.injEq] at read
  obtain ⟨rfl, rfl⟩ := read
  obtain ⟨_, mined, minerRan, ran⟩ := run_bind_ok ran
  obtain ⟨_, stored, txsRan, ran⟩ := run_bind_ok ran
  obtain ⟨_, recorded, recordRan, done⟩ := run_bind_ok ran
  simp only [run_pure, EStateM.Result.ok.injEq] at done
  obtain ⟨-, rfl⟩ := done
  obtain ⟨minerStores, minedIndexed⟩ := addTransaction_stores indexed minerUndoable minerRan
  obtain ⟨txsStore, storedIndexed⟩ := addTransactions_stores H (txs.zip blk.txHashes) minedIndexed
    (fun p member => undoable p.1 (List.of_mem_zip member).1) txsRan
  obtain ⟨record, block, rfl⟩ := addBlockRecord_ok recordRan
  exact ⟨mined, stored, record, minerStores, txsStore, storedIndexed, block, rfl⟩

/-- `pop_block` on the tables `add_block` left: the block record goes, the
listed transactions are removed last first, then the miner transaction. -/
theorem popBlockData_undoes {H : Hashing} {blk : Block} {txs : List Transaction} {db mined stored state : Db}
    {record : BlockRecord} {hfVersions : HfVersions} (sizes : blk.txHashes.length = txs.length)
    (minerStores : StoresTx db mined (H.txHash blk.minerTx) blk.minerTx)
    (txsStore : StoresTxs mined stored ((txs.zip blk.txHashes).map fun p => (p.2, p.1)))
    (indexed : OutputsIndexed stored.outputs) (block : record.block = blk)
    (shape : state = { stored with blocks := stored.blocks ++ [record], hfVersions := hfVersions }) :
    (popBlockData H).run state = .ok (blk, txs.reverse) { db with hfVersions := hfVersions } := by
  subst shape
  -- the entries `add_block` stored, under the hashes the block lists
  have hashes : ((txs.zip blk.txHashes).map fun p => (p.2, p.1)).map Prod.fst = blk.txHashes := by
    rw [List.map_map]
    exact List.map_snd_zip (by omega)
  have taken : ((txs.zip blk.txHashes).map fun p => (p.2, p.1)).map Prod.snd = txs := by
    rw [List.map_map]
    exact List.map_fst_zip (by omega)
  have removed : removeBlock.run { stored with blocks := stored.blocks ++ [record], hfVersions := hfVersions } =
      .ok () { stored with hfVersions := hfVersions } := by
    unfold removeBlock
    simp [Db.height]
  have removedTxs := (txsStore.withHfVersions hfVersions).removeTransactions indexed
  have removedMiner := (minerStores.withHfVersions hfVersions).removeTransaction
    (txsStore.outputsIndexed indexed)
  rw [hashes, taken] at removedTxs
  unfold popBlockData
  simp only [run_bind, run_get, List.getLast?_append, List.getLast?_singleton, Option.some_or,
    Option.map_some, Option.getD_some, block, removed, removedTxs, removedMiner, run_pure]

/-- Outside its error paths, `pop_block` right after `add_block` of undoable
transactions on numbered tables returns the block and its transactions, last
first, and restores every table but `hf_versions`, whatever that holds. -/
theorem popBlock_addBlock {H : Hashing} {hf : HardFork} {blk : Block}
    {weight cumulativeDifficulty coinsGenerated : Nat} {txs : List Transaction} {db : Db} {height : Nat}
    (indexed : Indexed db) (minerUndoable : Undoable blk.minerTx) (undoable : ∀ tx ∈ txs, Undoable tx)
    (accepted : (addBlock H hf blk weight cumulativeDifficulty coinsGenerated txs db).result = .ok height)
    (hfVersions : HfVersions) :
    popBlock H { (addBlock H hf blk weight cumulativeDifficulty coinsGenerated txs db).db with
      hfVersions := hfVersions } = ({ db with hfVersions := hfVersions }, .ok (blk, txs.reverse)) := by
  unfold addBlock at accepted ⊢
  by_cases sizes : blk.txHashes.length ≠ txs.length
  · rw [if_pos sizes] at accepted
    cases accepted
  rw [if_neg sizes] at accepted ⊢
  cases ran : (addBlockData H blk weight cumulativeDifficulty coinsGenerated txs).run db with
  | error e written =>
    rw [ran] at accepted
    cases accepted
  | ok result written =>
    obtain ⟨mined, stored, record, minerStores, txsStore, storedIndexed, block, rfl⟩ :=
      addBlockData_stores indexed minerUndoable undoable ran
    unfold popBlock
    rw [popBlockData_undoes (not_not.1 sizes) minerStores txsStore storedIndexed.outputs block rfl]

/-- A successful `add_block` of undoable transactions keeps the tables
numbered and the batch flag as it was. -/
theorem addBlock_indexed {H : Hashing} {hf : HardFork} {blk : Block}
    {weight cumulativeDifficulty coinsGenerated : Nat} {txs : List Transaction} {db : Db} {height : Nat}
    (indexed : Indexed db) (minerUndoable : Undoable blk.minerTx) (undoable : ∀ tx ∈ txs, Undoable tx)
    (accepted : (addBlock H hf blk weight cumulativeDifficulty coinsGenerated txs db).result = .ok height) :
    Indexed (addBlock H hf blk weight cumulativeDifficulty coinsGenerated txs db).db ∧
      (addBlock H hf blk weight cumulativeDifficulty coinsGenerated txs db).db.batchActive = db.batchActive := by
  unfold addBlock at accepted ⊢
  by_cases sizes : blk.txHashes.length ≠ txs.length
  · rw [if_pos sizes] at accepted
    cases accepted
  rw [if_neg sizes] at accepted ⊢
  cases ran : (addBlockData H blk weight cumulativeDifficulty coinsGenerated txs).run db with
  | error e written =>
    rw [ran] at accepted
    cases accepted
  | ok result written =>
    obtain ⟨mined, stored, record, minerStores, txsStore, storedIndexed, -, rfl⟩ :=
      addBlockData_stores indexed minerUndoable undoable ran
    exact ⟨⟨storedIndexed.outputs, storedIndexed.txIds⟩, txsStore.batchActive.trans minerStores.batchActive⟩

/-! ## Databases built by `add_block` and `pop_block` -/

/-- The databases `add_block` and `pop_block` reach from an empty one outside
a batch, `add_block` being given undoable transactions. -/
inductive Reachable (H : Hashing) : Db → Prop
  | empty (hfVersions : HfVersions) : Reachable H ⟨[], [], [], [], hfVersions, false⟩
  | addBlock {db : Db} (hf : HardFork) (blk : Block) (weight cumulativeDifficulty coinsGenerated : Nat)
      (txs : List Transaction) : Reachable H db → Undoable blk.minerTx → (∀ tx ∈ txs, Undoable tx) →
      Reachable H (BlockchainDB.addBlock H hf blk weight cumulativeDifficulty coinsGenerated txs db).db
  | popBlock {db : Db} : Reachable H db → Reachable H (BlockchainDB.popBlock H db).1

/-- The databases a stack of accepted `add_block`s builds from an empty one,
with any `hf_versions` table; `pop_block` takes the top block off. -/
inductive Stacked (H : Hashing) : Db → Prop
  | empty (hfVersions : HfVersions) : Stacked H ⟨[], [], [], [], hfVersions, false⟩
  | push {db : Db} {hf : HardFork} {blk : Block} {weight cumulativeDifficulty coinsGenerated height : Nat}
      {txs : List Transaction} (hfVersions : HfVersions) : Stacked H db → Undoable blk.minerTx →
      (∀ tx ∈ txs, Undoable tx) →
      (BlockchainDB.addBlock H hf blk weight cumulativeDifficulty coinsGenerated txs db).result = .ok height →
      Stacked H { (BlockchainDB.addBlock H hf blk weight cumulativeDifficulty coinsGenerated txs db).db with
        hfVersions := hfVersions }

/-- `pop_block` on an empty database throws and, outside a batch, changes
nothing. -/
theorem popBlock_empty (H : Hashing) (hfVersions : HfVersions) :
    (popBlock H ⟨[], [], [], [], hfVersions, false⟩).1 = ⟨[], [], [], [], hfVersions, false⟩ := rfl

namespace Stacked

variable {H : Hashing} {db : Db}

theorem indexed (stacked : Stacked H db) : Indexed db ∧ db.batchActive = false := by
  induction stacked with
  | empty hfVersions => exact ⟨⟨.nil, by simp⟩, rfl⟩
  | push hfVersions earlier minerUndoable undoable accepted inductionHypothesis =>
    obtain ⟨indexed, batch⟩ := addBlock_indexed inductionHypothesis.1 minerUndoable undoable accepted
    exact ⟨⟨indexed.outputs, indexed.txIds⟩, batch.trans inductionHypothesis.2⟩

theorem withHfVersions (stacked : Stacked H db) (hfVersions : HfVersions) :
    Stacked H { db with hfVersions := hfVersions } := by
  cases stacked with
  | empty => exact .empty hfVersions
  | push _ earlier minerUndoable undoable accepted => exact .push hfVersions earlier minerUndoable undoable accepted

theorem addBlock (stacked : Stacked H db) (hf : HardFork) (blk : Block)
    (weight cumulativeDifficulty coinsGenerated : Nat) (txs : List Transaction)
    (minerUndoable : Undoable blk.minerTx) (undoable : ∀ tx ∈ txs, Undoable tx) :
    Stacked H (BlockchainDB.addBlock H hf blk weight cumulativeDifficulty coinsGenerated txs db).db := by
  cases accepted : (BlockchainDB.addBlock H hf blk weight cumulativeDifficulty coinsGenerated txs db).result with
  | ok height => exact .push _ stacked minerUndoable undoable accepted
  | error e =>
    -- outside a batch the abort restores the tables
    rw [(addBlock_error_of_not_batch stacked.indexed.2 accepted).1]
    exact stacked

theorem popBlock (stacked : Stacked H db) : Stacked H (BlockchainDB.popBlock H db).1 := by
  cases stacked with
  | empty hfVersions =>
    rw [popBlock_empty]
    exact .empty hfVersions
  | push hfVersions earlier minerUndoable undoable accepted =>
    rw [popBlock_addBlock earlier.indexed.1 minerUndoable undoable accepted hfVersions]
    exact earlier.withHfVersions hfVersions

end Stacked

theorem Reachable.stacked {H : Hashing} {db : Db} (reachable : Reachable H db) : Stacked H db := by
  induction reachable with
  | empty hfVersions => exact .empty hfVersions
  | addBlock hf blk weight cumulativeDifficulty coinsGenerated txs _ minerUndoable undoable
      inductionHypothesis =>
    exact inductionHypothesis.addBlock hf blk weight cumulativeDifficulty coinsGenerated txs minerUndoable undoable
  | popBlock _ inductionHypothesis => exact inductionHypothesis.popBlock

theorem pop_block_undoes_add_block (H : Hashing) (hf : HardFork) (blk : Block)
    (weight cumulativeDifficulty coinsGenerated : Nat) (txs : List Transaction) {db : Db} {height : Nat}
    (reachable : Reachable H db) (minerUndoable : Undoable blk.minerTx) (undoable : ∀ tx ∈ txs, Undoable tx)
    (accepted : (addBlock H hf blk weight cumulativeDifficulty coinsGenerated txs db).result = .ok height) :
    popBlock H (addBlock H hf blk weight cumulativeDifficulty coinsGenerated txs db).db =
      ({ db with hfVersions := (addBlock H hf blk weight cumulativeDifficulty coinsGenerated txs db).db.hfVersions },
        .ok (blk, txs.reverse)) :=
  popBlock_addBlock reachable.stacked.indexed.1 minerUndoable undoable accepted _

/-- A hashing under which a transaction is known by its unlock time. -/
def unlockTimeHashes : Hashing := ⟨fun _ => 1, fun tx => tx.unlockTime, fun _ => 0, fun amount => amount⟩

/-- A hard-fork object at version 1 with no forks scheduled. -/
def versionOneHardFork : HardFork := ⟨1, 0, 10, 80, [], [], [], 0⟩

/-- A block whose v2 coinbase pays 5, listing one v2 transaction that spends
the key image 3 into a zero-amount output. -/
def spendingBlock : Block :=
  { (default : Block) with
    minerTx := { (default : Transaction) with
      version := 2, unlockTime := 60, vin := [.gen 0], vout := [⟨5, .toKey 9⟩] },
    txHashes := [7] }

/-- The transaction `spendingBlock` lists, known by the hash 7. -/
def keySpender : Transaction :=
  { (default : Transaction) with version := 2, unlockTime := 7, vin := [.toKey 0 [] 3], vout := [⟨0, .toKey 4⟩] }

theorem spending_block_popped :
    Reachable unlockTimeHashes ⟨[], [], [], [], [], false⟩ ∧ Undoable spendingBlock.minerTx ∧
      (∀ tx ∈ [keySpender], Undoable tx) ∧
      (addBlock unlockTimeHashes versionOneHardFork spendingBlock 0 0 0 [keySpender]
        ⟨[], [], [], [], [], false⟩).result = .ok 1 ∧
      popBlock unlockTimeHashes (addBlock unlockTimeHashes versionOneHardFork spendingBlock 0 0 0 [keySpender]
        ⟨[], [], [], [], [], false⟩).db =
        ({ (⟨[], [], [], [], [], false⟩ : Db) with
          hfVersions := (addBlock unlockTimeHashes versionOneHardFork spendingBlock 0 0 0 [keySpender]
            ⟨[], [], [], [], [], false⟩).db.hfVersions }, .ok (spendingBlock, [keySpender].reverse)) :=
  ⟨.empty [], by decide, by decide, by decide,
    @pop_block_undoes_add_block unlockTimeHashes versionOneHardFork spendingBlock 0 0 0 [keySpender] _ 1
      (.empty []) (by decide) (by decide) (by decide)⟩

/-- A v2 miner transaction with two `txin_gen` inputs and one output of 5. -/
def doubleGenerationBlock : Block :=
  { (default : Block) with
    minerTx := { (default : Transaction) with version := 2, vin := [.gen 0, .gen 0], vout := [⟨5, .toKey 9⟩] } }

theorem double_generation_block_survives_pop :
    Reachable unlockTimeHashes ⟨[], [], [], [], [], false⟩ ∧ ¬Undoable doubleGenerationBlock.minerTx ∧
      (addBlock unlockTimeHashes versionOneHardFork doubleGenerationBlock 0 0 0 []
        ⟨[], [], [], [], [], false⟩).result = .ok 1 ∧
      popBlock unlockTimeHashes (addBlock unlockTimeHashes versionOneHardFork doubleGenerationBlock 0 0 0 []
        ⟨[], [], [], [], [], false⟩).db =
        ((addBlock unlockTimeHashes versionOneHardFork doubleGenerationBlock 0 0 0 []
          ⟨[], [], [], [], [], false⟩).db, .error .outputDne) :=
  ⟨.empty [], by decide, by decide, by decide⟩

end ElectroneumClassic.BlockchainDB
