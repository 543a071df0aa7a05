import ElectroneumClassic.Pool.KeyImages
import ElectroneumClassic.Mining.Selection

/-!
# The key image map over the pool's life

When the daemon starts, `init` rebuilds `m_spent_key_images` from the table the
database kept, and where it succeeds the map indexes the table
(`init_indexes_key_images`).  From then on the pool's writers are called in any order:
`add_tx` by the core and the blockchain, `take_tx`, `remove_stuck_transactions` and
`validate`.  Every run of them keeps the map the index of the table
(`key_images_indexed_over_runs`).  In such a pool the double spend check of `add_tx`,
`have_tx_keyimges_as_spent`, answers exactly whether a pool transaction spends one of
the key images (`double_spend_check_exact`).  In every pool built this way
(`Reachable`) the sorted entries lead only to transactions with distinct key images,
so what `fill_block_template` selects is sound (`fill_block_template_sound`).
-/

namespace ElectroneumClassic.TxMemoryPool

open Cryptonote Config Machine

variable {H : Hashing} {known : List Transaction}

/-! ## Rebuilding the map: `init` -/

/-- A row of the pool's table. -/
abbrev PoolRow := Σ _ : Hash, TxpoolTxMeta × Transaction

/-- The map indexes the given rows: each has `txin_to_key` inputs only, a hash is in
the set of a key image exactly when the transaction of its row spends it, and no set is
empty or repeats a hash. -/
structure IndexesRows (rows : List PoolRow) (spent : SpentKeyImages) : Prop where
  supported : ∀ row ∈ rows, checkInputsTypesSupported row.2.2 = true
  mem_spenders_iff : ∀ {kImage id}, id ∈ spenders spent kImage ↔
    ∃ row ∈ rows, row.1 = id ∧ kImage ∈ row.2.2.keyImages
  sets : ∀ {kImage ids}, spent.lookup kImage = some ids → ids ≠ [] ∧ ids.Nodup

theorem indexesRows_nil : IndexesRows [] ∅ where
  supported := by simp
  mem_spenders_iff := by simp [spenders]
  sets := by simp

/-- A row whose key images `insert_key_images` takes in joins the indexed rows. -/
theorem IndexesRows.append_row {rows : List PoolRow} {spent spent' : SpentKeyImages}
    (indexes : IndexesRows rows spent) {row : PoolRow} {keptByBlock : Bool}
    (inserted : insertKeyImages row.1 keptByBlock row.2.2.vin spent = (true, spent')) :
    IndexesRows (rows ++ [row]) spent' := by
  obtain ⟨toKey, -, fresh, lookups⟩ := insertKeyImages_of_true _ _ _ _ _ inserted
  have spendersAfter := spenders_of_appended lookups
  constructor
  · intro other member
    rcases List.mem_append.mp member with old | new
    · exact indexes.supported other old
    · rw [List.mem_singleton.mp new, checkInputsTypesSupported, List.all_eq_true]
      exact toKey
  · intro kImage id
    rw [spendersAfter kImage]
    split
    · rename_i spends
      rw [List.mem_append, indexes.mem_spenders_iff, List.mem_singleton]
      simp only [List.mem_append, List.mem_singleton, or_and_right, exists_or, exists_eq_left]
      simp [Transaction.keyImages, spends, eq_comm]
    · rename_i spends
      rw [indexes.mem_spenders_iff]
      simp only [List.mem_append, List.mem_singleton, or_and_right, exists_or, exists_eq_left]
      simp [Transaction.keyImages, spends]
  · intro kImage ids found
    rw [lookups kImage] at found
    split at found
    · rename_i spends
      cases found
      have distinct : (spenders spent kImage).Nodup := by
        cases listed : spent.lookup kImage with
        | none => simp [spenders, listed]
        | some ids => simpa [spenders, listed] using (indexes.sets listed).2
      exact ⟨by simp, distinct.append (List.nodup_singleton _) (by simpa using fresh kImage spends)⟩
    · exact indexes.sets found

/-- What each insertion of a pass of `init` keeps, over the rows taken so far and the map,
holds over all the rows of the pass where it goes through; the pass writes no table. -/
theorem initPass_invariant (kept : Bool) (Q : List PoolRow → SpentKeyImages → Prop)
    (step : ∀ {rows : List PoolRow} {spent spent' : SpentKeyImages} {row : PoolRow}, Q rows spent →
      insertKeyImages row.1 kept row.2.2.vin spent = (true, spent') → Q (rows ++ [row]) spent') :
    ∀ (entries : List PoolRow) (s s' : TxMemoryPool) (rows : List PoolRow),
      Q rows s.spentKeyImages → initPass kept entries s = (true, s') →
      s'.table = s.table ∧ Q (rows ++ entries.filter fun entry => entry.2.1.keptByBlock == kept) s'.spentKeyImages
  | [], s, s', rows, holds, finished => by
    cases finished
    simpa using holds
  | entry :: rest, s, s', rows, holds, finished => by
    rw [initPass] at finished
    split at finished
    · -- a row of the other pass
      rename_i other
      have skipped : (entry.2.1.keptByBlock == kept) = false := by simpa using other
      rw [List.filter_cons, if_neg (by simp [skipped])]
      exact initPass_invariant kept Q step rest s s' rows holds finished
    · rename_i same
      have taken : entry.2.1.keptByBlock = kept := by simpa using same
      rw [List.filter_cons, if_pos (by simp [taken]), ← List.singleton_append, ← List.append_assoc]
      split at finished
      · cases finished
      · rename_i spent inserted
        rw [taken] at inserted
        -- the rest of the pass starts from the state this row's insertion left
        have passed := initPass_invariant kept Q step rest _ s' _ (step holds inserted) finished
        exact passed

/-- A pass of `init` that goes through indexes the rows it was to take. -/
theorem initPass_indexes (kept : Bool) (entries : List PoolRow) (s s' : TxMemoryPool) (rows : List PoolRow)
    (indexes : IndexesRows rows s.spentKeyImages) (finished : initPass kept entries s = (true, s')) :
    s'.table = s.table ∧
      IndexesRows (rows ++ entries.filter fun entry => entry.2.1.keptByBlock == kept) s'.spentKeyImages :=
  initPass_invariant kept IndexesRows (fun indexes inserted => indexes.append_row inserted) entries s s' rows
    indexes finished

/-- The two passes of `init` take every row once between them. -/
theorem filter_kept_append_perm (entries : List PoolRow) :
    (entries.filter (fun entry => entry.2.1.keptByBlock == false) ++
      entries.filter (fun entry => entry.2.1.keptByBlock == true)).Perm entries := by
  have complement : (fun entry : PoolRow => entry.2.1.keptByBlock == true) =
      fun entry => !(entry.2.1.keptByBlock == false) := by
    funext entry
    cases entry.2.1.keptByBlock <;> rfl
  rw [complement]
  exact List.filter_append_perm _ entries

/-- Where `init` succeeds, its two passes index every row of the table. -/
theorem init_indexes {s s' : TxMemoryPool} {maxTxpoolWeight : Nat}
    (succeeded : init s maxTxpoolWeight = (true, s')) :
    s'.table = s.table ∧ IndexesRows s.table.entries s'.spentKeyImages := by
  rw [init] at succeeded
  split at succeeded
  · cases succeeded
  · rename_i between first
    obtain ⟨firstTable, firstIndexes⟩ := initPass_indexes false _ _ between [] indexesRows_nil first
    obtain ⟨secondTable, secondIndexes⟩ := initPass_indexes true _ _ s' _ firstIndexes succeeded
    refine ⟨secondTable.trans firstTable, ?_, ?_, secondIndexes.sets⟩
    · intro row member
      exact secondIndexes.supported row (by simpa [firstTable] using (filter_kept_append_perm _).mem_iff.mpr member)
    · intro kImage id
      rw [secondIndexes.mem_spenders_iff, firstTable]
      simp only [List.nil_append]
      exact exists_congr fun row => and_congr_left fun _ => (filter_kept_append_perm _).mem_iff

/-- A row of the table under a hash is its transaction under that hash. -/
theorem exists_entry_iff {table : PoolTable} {id : Hash} {P : Transaction → Prop} :
    (∃ row ∈ table.entries, row.1 = id ∧ P row.2.2) ↔ ∃ tx, poolTx table id = some tx ∧ P tx := by
  constructor
  · rintro ⟨⟨rowId, txMeta, tx⟩, member, rfl, holds⟩
    exact ⟨tx, poolTx_eq_some.mpr ⟨txMeta, AList.mem_lookup_iff.mpr member⟩, holds⟩
  · rintro ⟨tx, row, holds⟩
    obtain ⟨txMeta, found⟩ := poolTx_eq_some.mp row
    exact ⟨⟨id, txMeta, tx⟩, AList.mem_lookup_iff.mp found, rfl, holds⟩

/-- A map that indexes the rows of a table, each a transaction the pool can be handed
under its hash, indexes the table. -/
theorem keyImagesIndexed_of_indexesRows {table : PoolTable} {spent : SpentKeyImages}
    (rows : ∀ row ∈ table.entries, row.2.2 ∈ known ∧ row.1 = H.txHash row.2.2)
    (indexes : IndexesRows table.entries spent) : KeyImagesIndexed H known (table, spent) := by
  refine ⟨fun {id tx} row => ?_, fun {kImage id} => ?_, indexes.sets⟩
  · obtain ⟨txMeta, found⟩ := poolTx_eq_some.mp row
    have member : (⟨id, txMeta, tx⟩ : PoolRow) ∈ table.entries := AList.mem_lookup_iff.mp found
    exact ⟨(rows _ member).1, (rows _ member).2, indexes.supported _ member⟩
  · rw [indexes.mem_spenders_iff]
    exact exists_entry_iff (P := fun tx => kImage ∈ tx.keyImages)

/-- `init` rebuilds `m_spent_key_images` as the index of the table, for a table whose
rows hold transactions the pool can be handed, each under its hash. -/
theorem init_indexes_key_images {s s' : TxMemoryPool}
    {maxTxpoolWeight : Nat} (rows : ∀ row ∈ s.table.entries, row.2.2 ∈ known ∧ row.1 = H.txHash row.2.2)
    (succeeded : init s maxTxpoolWeight = (true, s')) : KeyImagesIndexed H known (index s') := by
  obtain ⟨table, indexes⟩ := init_indexes succeeded
  rw [← table] at rows indexes
  exact keyImagesIndexed_of_indexesRows rows indexes

/-- Hashes each transaction to its first key image: distinct on transactions that spend
distinct first key images. -/
def firstKeyImageHashing : Hashing := ⟨fun _ => 0, fun tx => tx.keyImages.headD 0, fun _ => 0, fun _ => 0⟩

/-- The database tables of a pool holding two transactions, each under its first key
image, as a restart finds them: the indexes are empty until `init`. -/
def restartedPool : TxMemoryPool where
  table := AList.insert 8 (⟨nullHash, 0, 100, 10, 2000, 2000, false, false, false, false⟩, spendingTx 10 8)
    (AList.insert 7 (⟨nullHash, 0, 100, 1000, 1000, 1000, false, false, false, false⟩, spendingTx 1000 7) ∅)
  txpoolMaxWeight := 0
  txpoolWeight := 0
  spentKeyImages := ∅
  txsByFeeAndReceiveTime := []
  timedOutTransactions := []

theorem init_indexes_key_images_on_restart :
    (∀ row ∈ restartedPool.table.entries,
        row.2.2 ∈ [spendingTx 1000 7, spendingTx 10 8] ∧ row.1 = firstKeyImageHashing.txHash row.2.2) ∧
      init restartedPool 0 = (true, (init restartedPool 0).2) ∧
      KeyImagesIndexed firstKeyImageHashing [spendingTx 1000 7, spendingTx 10 8] (index (init restartedPool 0).2) :=
  have rows : ∀ row ∈ restartedPool.table.entries,
      row.2.2 ∈ [spendingTx 1000 7, spendingTx 10 8] ∧ row.1 = firstKeyImageHashing.txHash row.2.2 := by
    decide
  have succeeded : init restartedPool 0 = (true, (init restartedPool 0).2) :=
    Prod.ext (by decide +kernel) rfl
  ⟨rows, succeeded, init_indexes_key_images rows succeeded⟩

/-! ## Runs of the pool -/

/-- The calls that write the pool's table and key images: `add_tx` as the core and the
blockchain make it, under the transaction's own hash; `take_tx` when a block takes a
transaction; `remove_stuck_transactions` from `on_idle`; and `validate` when the core
starts. -/
inductive PoolOp where
  | addTx (tx : Transaction) (txWeight : Nat) (keptByBlock relayed doNotRelay : Bool) (version now : Nat)
  | takeTx (id : Hash)
  | removeStuckTransactions (now : Nat)
  | validate (version : Nat)
  deriving Repr

/-- The transaction a call hands the pool. -/
def PoolOp.handed? : PoolOp → Option Transaction
  | .addTx tx .. => some tx
  | _ => none

/-- The pool after one call. -/
def PoolOp.apply (H : Hashing) (env : PoolEnv) (s : TxMemoryPool) : PoolOp → TxMemoryPool
  | .addTx tx txWeight keptByBlock relayed doNotRelay version now =>
    (TxMemoryPool.addTx env s tx (H.txHash tx) txWeight keptByBlock relayed doNotRelay version now).2
  | .takeTx id => (TxMemoryPool.takeTx s id).2
  | .removeStuckTransactions now => TxMemoryPool.removeStuckTransactions s now
  | .validate version => (TxMemoryPool.validate env s version).2

/-- The pool after a sequence of calls. -/
def runPool (H : Hashing) (env : PoolEnv) (s : TxMemoryPool) (ops : List PoolOp) : TxMemoryPool :=
  ops.foldl (PoolOp.apply H env) s

/-- What every call keeps, for the transactions it may be handed, holds after every run. -/
theorem runPool_invariant (env : PoolEnv) (I : TxMemoryPool → Prop)
    (step : ∀ s (op : PoolOp), I s → (∀ tx ∈ op.handed?, tx ∈ known) → I (op.apply H env s)) :
    ∀ (ops : List PoolOp) (s : TxMemoryPool), I s → (∀ op ∈ ops, ∀ tx ∈ op.handed?, tx ∈ known) →
      I (runPool H env s ops)
  | [], _, holds, _ => holds
  | op :: rest, s, holds, handed => by
    rw [runPool, List.foldl_cons]
    exact runPool_invariant env I step rest _ (step s op holds (handed op List.mem_cons_self))
      fun other member => handed other (List.mem_cons_of_mem _ member)

theorem keyImagesIndexed_apply (distinguished : Distinguished H known) (env : PoolEnv) {s : TxMemoryPool}
    (indexed : KeyImagesIndexed H known (index s)) {op : PoolOp} (handed : ∀ tx ∈ op.handed?, tx ∈ known) :
    KeyImagesIndexed H known (index (op.apply H env s)) := by
  cases op with
  | addTx tx txWeight keptByBlock relayed doNotRelay version now =>
    exact keyImagesIndexed_addTx distinguished env indexed (handed tx rfl) txWeight keptByBlock relayed
      doNotRelay version now
  | takeTx id => exact keyImagesIndexed_takeTx distinguished indexed id
  | removeStuckTransactions now => exact keyImagesIndexed_removeStuckTransactions distinguished indexed now
  | validate version => exact keyImagesIndexed_validate distinguished env indexed version

/-- The pools the daemon builds: `init` over the table a restart finds, each row a
transaction the pool can be handed under its hash, then the writers' calls one after
another, each handed such a transaction. -/
inductive Reachable (H : Hashing) (known : List Transaction) (env : PoolEnv) : TxMemoryPool → Prop where
  | restart {s s' : TxMemoryPool} {maxTxpoolWeight : Nat} :
      (∀ row ∈ s.table.entries, row.2.2 ∈ known ∧ row.1 = H.txHash row.2.2) →
      init s maxTxpoolWeight = (true, s') → Reachable H known env s'
  | step {s : TxMemoryPool} (op : PoolOp) :
      (∀ tx ∈ op.handed?, tx ∈ known) → Reachable H known env s → Reachable H known env (op.apply H env s)

/-- In a pool the daemon builds, `m_spent_key_images` is the index of the table. -/
theorem Reachable.keyImagesIndexed (distinguished : Distinguished H known) {env : PoolEnv} {s : TxMemoryPool}
    (reachable : Reachable H known env s) : KeyImagesIndexed H known (index s) := by
  induction reachable with
  | restart rows succeeded =>
    obtain ⟨table, indexes⟩ := init_indexes succeeded
    rw [← table] at rows indexes
    exact keyImagesIndexed_of_indexesRows rows indexes
  | step op handed _ indexed => exact keyImagesIndexed_apply distinguished env indexed handed

/-- Over any run of the pool's writers, `m_spent_key_images` stays the index of the
table: a hash is in the set of a key image exactly when the pool transaction under it
spends the key image, and no set is empty. -/
theorem key_images_indexed_over_runs (distinguished : Distinguished H known) (env : PoolEnv) :
    ∀ (ops : List PoolOp) (s : TxMemoryPool), KeyImagesIndexed H known (index s) →
      (∀ op ∈ ops, ∀ tx ∈ op.handed?, tx ∈ known) → KeyImagesIndexed H known (index (runPool H env s ops)) :=
  runPool_invariant env (fun s => KeyImagesIndexed H known (index s))
    fun _ _ indexed handed => keyImagesIndexed_apply distinguished env indexed handed

theorem key_images_indexed_over_runs_from_empty :
    KeyImagesIndexed firstKeyImageHashing [spendingTx 1000 7, spendingTx 10 8]
      (index (runPool firstKeyImageHashing acceptingEnv ⟨∅, 150, 0, ∅, [], []⟩
        [.addTx (spendingTx 1000 7) 100 false false false 8 1000,
          .addTx (spendingTx 10 8) 100 false false false 8 2000, .takeTx 7, .removeStuckTransactions 3000])) :=
  key_images_indexed_over_runs ⟨by decide, by decide⟩ acceptingEnv _ _ keyImagesIndexed_empty (by decide)

/-! ## What the map answers -/

/-- `have_tx_keyimg_as_spent`: the key image has an entry in the map. -/
def haveTxKeyimgAsSpent (spent : SpentKeyImages) (kImage : KeyImage) : Bool := (spent.lookup kImage).isSome

/-- Since no set is empty, a key image has an entry exactly when a pool transaction
spends it. -/
theorem KeyImagesIndexed.haveTxKeyimgAsSpent_iff {index : PoolIndex} (indexed : KeyImagesIndexed H known index)
    (kImage : KeyImage) : haveTxKeyimgAsSpent index.2 kImage = true ↔
      ∃ id tx, poolTx index.1 id = some tx ∧ kImage ∈ tx.keyImages := by
  rw [haveTxKeyimgAsSpent]
  constructor
  · intro listed
    obtain ⟨ids, found⟩ := Option.isSome_iff_exists.mp listed
    obtain ⟨id, rest, rfl⟩ := List.exists_cons_of_ne_nil (indexed.sets found).1
    have member : id ∈ spenders index.2 kImage := by simp [spenders, found]
    exact ⟨id, indexed.mem_spenders_iff.mp member⟩
  · rintro ⟨id, spender⟩
    obtain ⟨ids, found, -⟩ := mem_spenders.mp (indexed.mem_spenders_iff.mpr spender)
    simp [found]

/-- In a pool whose map indexes the table, the check `add_tx` makes against double
spends is exact: a transaction with `txin_to_key` inputs only is refused exactly when a
pool transaction spends one of its key images. -/
theorem double_spend_check_exact {s : TxMemoryPool}
    (indexed : KeyImagesIndexed H known (index s)) {tx : Transaction}
    (supported : checkInputsTypesSupported tx = true) :
    haveTxKeyimgesAsSpent s.spentKeyImages tx.vin = true ↔
      ∃ kImage ∈ tx.keyImages, ∃ id other, poolTx s.table id = some other ∧ kImage ∈ other.keyImages := by
  rw [checkInputsTypesSupported, List.all_eq_true] at supported
  rw [Transaction.keyImages]
  generalize tx.vin = vin at supported ⊢
  induction vin with
  | nil => simp [haveTxKeyimgesAsSpent]
  | cons input rest inductionHypothesis =>
    obtain ⟨amount, keyOffsets, kImage, rfl⟩ := (TxinV.isToKey_iff input).mp (supported input List.mem_cons_self)
    have first : (s.spentKeyImages.lookup kImage).isSome = true ↔
        ∃ id other, poolTx s.table id = some other ∧ kImage ∈ other.keyImages :=
      indexed.haveTxKeyimgAsSpent_iff kImage
    rw [haveTxKeyimgesAsSpent, Bool.or_eq_true, first,
      inductionHypothesis fun input member => supported input (List.mem_cons_of_mem _ member)]
    simp

theorem double_spend_check_exact_after_add :
    checkInputsTypesSupported (spendingTx 10 7) = true ∧
      (haveTxKeyimgesAsSpent
          (addTx acceptingEnv ⟨∅, 150, 0, ∅, [], []⟩ (spendingTx 1000 7)
            (firstKeyImageHashing.txHash (spendingTx 1000 7)) 100 false false false 8 1000).2.spentKeyImages
          (spendingTx 10 7).vin = true ↔
        ∃ kImage ∈ (spendingTx 10 7).keyImages, ∃ id other,
          poolTx (addTx acceptingEnv ⟨∅, 150, 0, ∅, [], []⟩ (spendingTx 1000 7)
            (firstKeyImageHashing.txHash (spendingTx 1000 7)) 100 false false false 8 1000).2.table id = some other ∧
          kImage ∈ other.keyImages) :=
  ⟨by decide,
    double_spend_check_exact
      (keyImagesIndexed_addTx ⟨by decide, by decide⟩ acceptingEnv keyImagesIndexed_empty
        (List.mem_singleton_self _) 100 false false false 8 1000) (by decide)⟩

/-! ## What the miner takes -/

/-- A pool transaction of an indexed pool, handed transactions with inputs (which
`check_tx_semantic` demands), is one `fill_block_template` admits: `txin_to_key` inputs
only, at least one, with distinct key images. -/
theorem KeyImagesIndexed.admitted (distinguished : Distinguished H known) (inputs : ∀ tx ∈ known, tx.vin ≠ [])
    {index : PoolIndex} (indexed : KeyImagesIndexed H known index) {id : Hash} {tx : Transaction}
    (present : poolTx index.1 id = some tx) : KeyImagesAdmitted tx := by
  obtain ⟨member, -, supported⟩ := indexed.rows present
  exact ⟨supported, inputs _ member, distinguished.keyImages _ member⟩

/-- Every row the sorted entries of an indexed pool lead to holds an admitted
transaction. -/
theorem KeyImagesIndexed.sortedAdmitted (distinguished : Distinguished H known)
    (inputs : ∀ tx ∈ known, tx.vin ≠ []) {s : TxMemoryPool} (indexed : KeyImagesIndexed H known (index s)) :
    ∀ entry ∈ s.txsByFeeAndReceiveTime, ∀ row ∈ s.table.lookup entry.2, KeyImagesAdmitted row.2 :=
  fun _ _ row found => indexed.admitted distinguished inputs (poolTx_eq_some.mpr ⟨row.1, found⟩)

/-- In a pool whose map indexes the table, holding transactions with inputs (which
`check_tx_semantic` demands), `fill_block_template` from version 5 takes no hash twice
and no two transactions spending a common key image. -/
theorem block_template_spends_key_images_once (distinguished : Distinguished H known)
    (inputs : ∀ tx ∈ known, tx.vin ≠ []) {s : TxMemoryPool} (indexed : KeyImagesIndexed H known (index s))
    (env : MinerEnv) (medianWeight alreadyGeneratedCoins version : Nat) (recent : 5 ≤ version) :
    (fillBlockTemplate env s medianWeight alreadyGeneratedCoins version).txHashes.Nodup ∧
      (fillBlockTemplate env s medianWeight alreadyGeneratedCoins version).txHashes.Pairwise
        fun txid other => (poolKeyImages s.table txid).Disjoint (poolKeyImages s.table other) := by
  obtain ⟨distinct, -, disjoint, -⟩ := fill_block_template_selects env s medianWeight alreadyGeneratedCoins version
    recent (indexed.sortedAdmitted distinguished inputs)
  exact ⟨distinct, disjoint⟩

/-- The pool after two transactions, spending the key images `7` and `8`, were added
to an empty one. -/
def twoSpendsPool : TxMemoryPool :=
  runPool firstKeyImageHashing acceptingEnv ⟨∅, 150, 0, ∅, [], []⟩
    [.addTx (spendingTx 1000 7) 100 false false false 8 1000, .addTx (spendingTx 10 8) 100 false false false 8 2000]

theorem block_template_spends_key_images_once_on_two_spends :
    (fillBlockTemplate sampleMinerEnv twoSpendsPool 300000 premine 5).txHashes.Nodup ∧
      (fillBlockTemplate sampleMinerEnv twoSpendsPool 300000 premine 5).txHashes.Pairwise
        fun txid other => (poolKeyImages twoSpendsPool.table txid).Disjoint (poolKeyImages twoSpendsPool.table other) :=
  have distinguished : Distinguished firstKeyImageHashing [spendingTx 1000 7, spendingTx 10 8] :=
    ⟨by decide, by decide⟩
  have indexed : KeyImagesIndexed firstKeyImageHashing [spendingTx 1000 7, spendingTx 10 8] (index twoSpendsPool) := by
    rw [twoSpendsPool, runPool, List.foldl_cons, List.foldl_cons, List.foldl_nil]
    exact keyImagesIndexed_apply distinguished acceptingEnv
      (keyImagesIndexed_apply distinguished acceptingEnv keyImagesIndexed_empty (by decide)) (by decide)
  block_template_spends_key_images_once distinguished (by decide) indexed sampleMinerEnv 300000 premine 5 le_rfl

/-- In every pool the daemon builds from transactions that passed the core's checks,
`fill_block_template` from version 5 takes distinct listed hashes of the pool whose
transactions share no key image, with the weight and the fee the sums of their metas
in `size_t` and `uint64_t`, the weight within `2 * median_weight - CRYPTONOTE_COINBASE_BLOB_RESERVED_SIZE` in
`size_t`, and the expected reward the reward for the final weight plus the fee in
`uint64_t`. -/
theorem fill_block_template_sound (distinguished : Distinguished H known) (inputs : ∀ tx ∈ known, tx.vin ≠ [])
    {env : PoolEnv} {s : TxMemoryPool} (reachable : Reachable H known env s) (minerEnv : MinerEnv)
    (medianWeight alreadyGeneratedCoins version : Nat) (recent : 5 ≤ version) :
    let filled := fillBlockTemplate minerEnv s medianWeight alreadyGeneratedCoins version
    filled.txHashes.Nodup ∧
      (∀ txid ∈ filled.txHashes, (∃ entry ∈ s.txsByFeeAndReceiveTime, entry.2 = txid) ∧ (s.table.lookup txid).isSome) ∧
      filled.txHashes.Pairwise (fun txid other => (poolKeyImages s.table txid).Disjoint (poolKeyImages s.table other)) ∧
      filled.totalWeight = wrapU64 (filled.txHashes.map (metaWeight s.table)).sum ∧
      filled.totalWeight ≤ subU64 (wrapU64 (2 * medianWeight)) CRYPTONOTE_COINBASE_BLOB_RESERVED_SIZE ∧
      filled.fee = wrapU64 (filled.txHashes.map (metaFee s.table)).sum ∧
      ∃ reward, getBlockReward medianWeight filled.totalWeight alreadyGeneratedCoins version = some reward ∧
        filled.bestCoinbase = wrapU64 (reward + filled.fee) :=
  fill_block_template_selects minerEnv s medianWeight alreadyGeneratedCoins version recent
    ((reachable.keyImagesIndexed distinguished).sortedAdmitted distinguished inputs)

/-- `restartedPool` after `init`, with a third transaction, spending `9`, added. -/
def restartedThreeSpendsPool : TxMemoryPool :=
  PoolOp.apply firstKeyImageHashing acceptingEnv (init restartedPool 0).2
    (.addTx (spendingTx 500 9) 100 false false false 8 3000)

theorem fill_block_template_sound_after_restart :
    Reachable firstKeyImageHashing [spendingTx 1000 7, spendingTx 10 8, spendingTx 500 9] acceptingEnv
        restartedThreeSpendsPool ∧
      (fillBlockTemplate sampleMinerEnv restartedThreeSpendsPool 300000 premine 5).txHashes = [7, 9, 8] ∧
      let filled := fillBlockTemplate sampleMinerEnv restartedThreeSpendsPool 300000 premine 5
      filled.txHashes.Nodup ∧
        (∀ txid ∈ filled.txHashes, (∃ entry ∈ restartedThreeSpendsPool.txsByFeeAndReceiveTime, entry.2 = txid) ∧
          (restartedThreeSpendsPool.table.lookup txid).isSome) ∧
        filled.txHashes.Pairwise (fun txid other =>
          (poolKeyImages restartedThreeSpendsPool.table txid).Disjoint
            (poolKeyImages restartedThreeSpendsPool.table other)) ∧
        filled.totalWeight = wrapU64 (filled.txHashes.map (metaWeight restartedThreeSpendsPool.table)).sum ∧
        filled.totalWeight ≤ subU64 (wrapU64 (2 * 300000)) CRYPTONOTE_COINBASE_BLOB_RESERVED_SIZE ∧
        filled.fee = wrapU64 (filled.txHashes.map (metaFee restartedThreeSpendsPool.table)).sum ∧
        ∃ reward, getBlockReward 300000 filled.totalWeight premine 5 = some reward ∧
          filled.bestCoinbase = wrapU64 (reward + filled.fee) := by
  have distinguished : Distinguished firstKeyImageHashing [spendingTx 1000 7, spendingTx 10 8, spendingTx 500 9] :=
    ⟨by decide, by decide⟩
  have rows : ∀ row ∈ restartedPool.table.entries,
      row.2.2 ∈ [spendingTx 1000 7, spendingTx 10 8, spendingTx 500 9] ∧
        row.1 = firstKeyImageHashing.txHash row.2.2 := by
    decide
  have succeeded : init restartedPool 0 = (true, (init restartedPool 0).2) := Prod.ext (by decide +kernel) rfl
  -- the restart, then the call that adds the third transaction
  have reachable : Reachable firstKeyImageHashing [spendingTx 1000 7, spendingTx 10 8, spendingTx 500 9]
      acceptingEnv restartedThreeSpendsPool :=
    .step _ (by decide) (.restart rows succeeded)
  exact ⟨reachable, by decide +kernel,
    fill_block_template_sound distinguished (by decide) reachable sampleMinerEnv 300000 premine 5 (by decide)⟩

end ElectroneumClassic.TxMemoryPool
