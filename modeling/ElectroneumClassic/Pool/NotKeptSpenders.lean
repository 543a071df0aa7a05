import ElectroneumClassic.Pool.Runs

/-!
# One spender outside blocks

`add_tx` refuses a transaction that does not come from a block when a pool transaction
already spends one of its key images (`have_tx_keyimges_as_spent`), and
`insert_key_images` refuses it where a key image already has a set.  Only a transaction
kept by a block, handed back when its block left the chain, may spend a key image that
a pool transaction spends.  So no two pool transactions that were not kept by a block
spend one key image (`NotKeptSpendersUnique`).

`init` makes the same check when it rebuilds the map, taking the rows not kept by a
block first: where it succeeds, the table it was handed has the property
(`init_not_kept_spenders_unique`).  Every run of the pool's writers keeps it while the
map indexes the table (`not_kept_spenders_unique_over_runs`): the removals only drop
rows, `mark_double_spend` writes a flag beside `kept_by_block`, and a transaction
inserted not kept by a block finds none of its key images in the map, so in no row.
-/

namespace ElectroneumClassic.TxMemoryPool

open Cryptonote Relation Effects

variable {H : Hashing} {known : List Transaction}

/-- The transaction of the row under a hash, where that row was not kept by a block. -/
def notKeptTx (table : PoolTable) (id : Hash) : Option Transaction :=
  (table.lookup id).bind fun row => if row.1.keptByBlock then none else some row.2

theorem notKeptTx_eq_some {table : PoolTable} {id : Hash} {tx : Transaction} :
    notKeptTx table id = some tx ↔
      ∃ txMeta, table.lookup id = some (txMeta, tx) ∧ txMeta.keptByBlock = false := by
  cases found : table.lookup id with
  | none => simp [notKeptTx, found]
  | some row =>
    obtain ⟨txMeta, held⟩ := row
    cases kept : txMeta.keptByBlock <;> simp [notKeptTx, found, kept]

theorem poolTx_of_notKeptTx {table : PoolTable} {id : Hash} {tx : Transaction}
    (notKept : notKeptTx table id = some tx) : poolTx table id = some tx := by
  obtain ⟨txMeta, found, -⟩ := notKeptTx_eq_some.mp notKept
  exact poolTx_eq_some.mpr ⟨txMeta, found⟩

theorem notKeptTx_of_erase {table : PoolTable} {id other : Hash} {tx : Transaction}
    (notKept : notKeptTx (table.erase id) other = some tx) : notKeptTx table other = some tx := by
  by_cases same : other = id
  · subst same
    simp [notKeptTx, AList.lookup_erase] at notKept
  · rwa [notKeptTx, AList.lookup_erase_ne same] at notKept

theorem notKeptTx_markDoubleSpendSeen (table : PoolTable) (txid id : Hash) :
    notKeptTx (markDoubleSpendSeen table txid) id = notKeptTx table id := by
  unfold markDoubleSpendSeen
  split
  · rfl
  · rename_i txMeta tx found
    split
    · rfl
    · by_cases same : id = txid
      · subst same
        simp [notKeptTx, AList.lookup_insert, found]
      · rw [notKeptTx, AList.lookup_insert_ne same, notKeptTx]

/-- No two pool transactions that were not kept by a block spend one key image. -/
def NotKeptSpendersUnique (table : PoolTable) : Prop :=
  ∀ ⦃id id' : Hash⦄ ⦃tx tx' : Transaction⦄ ⦃kImage : KeyImage⦄,
    notKeptTx table id = some tx → notKeptTx table id' = some tx' →
      kImage ∈ tx.keyImages → kImage ∈ tx'.keyImages → id = id'

theorem notKeptSpendersUnique_empty : NotKeptSpendersUnique ∅ := by
  intro id _ _ _ _ notKept
  simp [notKeptTx] at notKept

/-- A table whose rows not kept by a block are rows of a table with the property has it. -/
theorem NotKeptSpendersUnique.mono {table table' : PoolTable} (unique : NotKeptSpendersUnique table)
    (rows : ∀ {id tx}, notKeptTx table' id = some tx → notKeptTx table id = some tx) :
    NotKeptSpendersUnique table' :=
  fun _ _ _ _ _ notKept notKept' spends spends' => unique (rows notKept) (rows notKept') spends spends'

/-- A row inserted under a hash keeps the property where, unless it is kept by a block,
no row under another hash spends one of its key images. -/
theorem NotKeptSpendersUnique.insert {table : PoolTable} (unique : NotKeptSpendersUnique table)
    {id : Hash} {txMeta : TxpoolTxMeta} {tx : Transaction}
    (unspent : txMeta.keptByBlock = false → ∀ kImage ∈ tx.keyImages, ∀ {other held},
      other ≠ id → poolTx table other = some held → kImage ∉ held.keyImages) :
    NotKeptSpendersUnique (table.insert id (txMeta, tx)) := by
  have old : ∀ {other held}, other ≠ id → notKeptTx (table.insert id (txMeta, tx)) other = some held →
      notKeptTx table other = some held := fun differ notKept => by
    rwa [notKeptTx, AList.lookup_insert_ne differ] at notKept
  -- the new row against a row under another hash
  have apart : ∀ {other held fresh kImage}, other ≠ id →
      notKeptTx (table.insert id (txMeta, tx)) id = some fresh →
      notKeptTx (table.insert id (txMeta, tx)) other = some held →
      kImage ∈ fresh.keyImages → kImage ∉ held.keyImages := by
    intro other held fresh kImage differ notKeptNew notKeptOther spends
    obtain ⟨_, found, notKept⟩ := notKeptTx_eq_some.mp notKeptNew
    obtain ⟨rfl, rfl⟩ := Prod.mk.inj (Option.some.inj ((AList.lookup_insert table).symm.trans found))
    exact unspent notKept kImage spends differ (poolTx_of_notKeptTx (old differ notKeptOther))
  intro id₁ id₂ tx₁ tx₂ kImage notKept₁ notKept₂ spends₁ spends₂
  by_cases new₁ : id₁ = id <;> by_cases new₂ : id₂ = id
  · exact new₁.trans new₂.symm
  · subst new₁
    exact absurd spends₂ (apart new₂ notKept₁ notKept₂ spends₁)
  · subst new₂
    exact absurd spends₁ (apart new₁ notKept₂ notKept₁ spends₂)
  · exact unique (old new₁ notKept₁) (old new₂ notKept₂) spends₁ spends₂

/-! ## The pool's writers -/

/-- Taking a transaction out drops its row. -/
theorem NotKeptSpendersUnique.takesOut {before after : PoolIndex} (unique : NotKeptSpendersUnique before.1)
    (step : TakesOut before after) : NotKeptSpendersUnique after.1 := by
  obtain ⟨_, _, _, _, rfl⟩ := step
  exact unique.mono notKeptTx_of_erase

theorem NotKeptSpendersUnique.of_takesOut {s s' : TxMemoryPool} (unique : NotKeptSpendersUnique s.table)
    (walk : ReflTransGen TakesOut (index s) (index s')) : NotKeptSpendersUnique s'.table :=
  invariant_of_reflTransGen (I := fun index : PoolIndex => NotKeptSpendersUnique index.1)
    (fun _ _ step before => before.takesOut step) walk unique

theorem notKeptSpendersUnique_insertTx {s : TxMemoryPool} {tx : Transaction} {id : Hash}
    {txMeta : TxpoolTxMeta} (unique : NotKeptSpendersUnique s.table)
    (unspent : txMeta.keptByBlock = false → ∀ kImage ∈ tx.keyImages, ∀ {other held},
      other ≠ id → poolTx s.table other = some held → kImage ∉ held.keyImages) :
    NotKeptSpendersUnique (insertTx s tx id txMeta).2.table := by
  cases found : s.table.lookup id with
  | none =>
    -- the row is written whether or not the key images go in after it
    have added : (insertTx s tx id txMeta).2.table = s.table.insert id (txMeta, tx) :=
      congrArg Prod.fst (index_insertTx_of_added (addTxpoolTx_of_lookup found txMeta tx))
    rw [added]
    exact unique.insert unspent
  | some row =>
    rw [insertTx_of_lookup found]
    exact unique

/-- `add_tx` keeps the property while the map indexes the table, under any hash. -/
theorem notKeptSpendersUnique_addTx (env : PoolEnv) {s : TxMemoryPool} {tx : Transaction} {id : Hash}
    (indexed : KeyImagesIndexed H known (index s)) (unique : NotKeptSpendersUnique s.table)
    (txWeight : Nat) (keptByBlock relayed doNotRelay : Bool) (version now : Nat) :
    NotKeptSpendersUnique (addTx env s tx id txWeight keptByBlock relayed doNotRelay version now).2.table := by
  rcases addTx_cases env s tx id txWeight keptByBlock relayed doNotRelay version now with
    unchanged | marked | ⟨-, unspent, txMeta, kept, inserted, insertion, after⟩
  · rw [unchanged]
    exact unique
  · rw [marked]
    exact unique.mono fun notKept => by
      rwa [markDoubleSpend_keeps (fun table => notKeptTx table _)
        (fun table txid => notKeptTx_markDoubleSpendSeen table txid _)] at notKept
  · -- not kept by a block: the map has no set for its key images, so no row spends one
    have unspentRows : txMeta.keptByBlock = false → ∀ kImage ∈ tx.keyImages, ∀ {other held},
        other ≠ id → poolTx s.table other = some held → kImage ∉ held.keyImages := by
      intro notKept kImage spends other held _ row spendsHeld
      have listed : other ∈ spenders s.spentKeyImages kImage := indexed.mem_spenders_iff.mpr ⟨held, row, spendsHeld⟩
      rw [spenders_of_haveTxKeyimgesAsSpent (unspent (kept ▸ notKept)) kImage spends] at listed
      exact List.not_mem_nil listed
    have insertedUnique : NotKeptSpendersUnique inserted.2.table := by
      rcases insertion with rfl | rfl
      · exact notKeptSpendersUnique_insertTx unique unspentRows
      · refine notKeptSpendersUnique_insertTx (s := { s with table := s.table.erase id })
          (unique.mono notKeptTx_of_erase) fun notKept kImage spends other held differ row => ?_
        rw [poolTx_erase_ne differ] at row
        exact unspentRows notKept kImage spends differ row
    rw [after]
    split
    · exact NotKeptSpendersUnique.of_takesOut
        (s := { inserted.2 with txpoolWeight := Machine.wrapU64 (inserted.2.txpoolWeight + txWeight) })
        insertedUnique (prune_takesOut _ _)
    · exact insertedUnique

theorem notKeptSpendersUnique_apply (env : PoolEnv) {s : TxMemoryPool}
    (indexed : KeyImagesIndexed H known (index s)) (unique : NotKeptSpendersUnique s.table) (op : PoolOp) :
    NotKeptSpendersUnique (op.apply H env s).table := by
  cases op with
  | addTx tx txWeight keptByBlock relayed doNotRelay version now =>
    exact notKeptSpendersUnique_addTx env indexed unique txWeight keptByBlock relayed doNotRelay version now
  | takeTx id => exact unique.of_takesOut (takeTx_takesOut s id)
  | removeStuckTransactions now => exact unique.of_takesOut (removeStuckTransactions_takesOut s now)
  | validate version => exact unique.of_takesOut (validate_takesOut env s version)

/-- Over any run of the pool's writers, no key image is spent by two pool transactions
that were not kept by a block: a double spend enters the pool only from a block. -/
theorem not_kept_spenders_unique_over_runs (distinguished : Distinguished H known) (env : PoolEnv)
    (ops : List PoolOp) {s : TxMemoryPool} (indexed : KeyImagesIndexed H known (index s))
    (unique : NotKeptSpendersUnique s.table) (handed : ∀ op ∈ ops, ∀ tx ∈ op.handed?, tx ∈ known) :
    NotKeptSpendersUnique (runPool H env s ops).table := by
  -- the map answers for the table only while it indexes it, so both are carried
  have both := runPool_invariant env
    (fun s => KeyImagesIndexed H known (index s) ∧ NotKeptSpendersUnique s.table)
    (fun _ op before handedOp => ⟨keyImagesIndexed_apply distinguished env before.1 handedOp,
      notKeptSpendersUnique_apply env before.1 before.2 op⟩)
    ops s ⟨indexed, unique⟩ handed
  exact both.2

theorem not_kept_spenders_unique_over_runs_from_empty :
    NotKeptSpendersUnique
      (runPool firstKeyImageHashing acceptingEnv ⟨∅, 150, 0, ∅, [], []⟩
        [.addTx (spendingTx 1000 7) 100 false false false 8 1000, .addTx (spendingTx 10 8) 100 false false false 8 2000,
          .addTx (spendingTx 1000 7) 100 true false false 8 3000, .takeTx 8, .validate 8]).table :=
  have distinguished : Distinguished firstKeyImageHashing [spendingTx 1000 7, spendingTx 10 8] :=
    ⟨by decide, by decide⟩
  not_kept_spenders_unique_over_runs distinguished acceptingEnv _ keyImagesIndexed_empty
    notKeptSpendersUnique_empty (by decide)

/-! ## `init` -/

/-- `insert_key_images` for a transaction not kept by a block goes through only where
none of its key images has a set yet. -/
theorem spenders_of_insertKeyImages_notKept {id : Hash} :
    ∀ {vin : List TxinV} {spent spent' : SpentKeyImages}, insertKeyImages id false vin spent = (true, spent') →
      ∀ kImage ∈ vin.filterMap TxinV.keyImage?, spenders spent kImage = []
  | [], _, _, _ => by simp
  | .toKey _ _ kImage :: rest, spent, spent', inserted => by
    rw [insertKeyImages] at inserted
    split at inserted
    · cases inserted
    · rename_i allowed
      split at inserted
      · cases inserted
      · have later := spenders_of_insertKeyImages_notKept inserted
        simp only [List.filterMap_cons, TxinV.keyImage?_toKey, List.mem_cons, forall_eq_or_imp]
        refine ⟨by simpa [spenders] using allowed, fun other member => ?_⟩
        by_cases same : other = kImage
        · -- a repeated key image finds its set holding the hash already
          subst same
          simpa [spenders, AList.lookup_insert] using later other member
        · rw [← spenders_insert_ne _ same]
          exact later other member
  | .gen _ :: _, _, _, inserted => by cases inserted
  | .toScript .. :: _, _, _, inserted => by cases inserted
  | .toScripthash .. :: _, _, _, inserted => by cases inserted

/-- Two rows spend no key image in common. -/
def SpendApart (row row' : PoolRow) : Prop := row.2.2.keyImages.Disjoint row'.2.2.keyImages

instance : Std.Symm SpendApart := ⟨fun _ _ apart => apart.symm⟩

/-- The rows the first pass of `init` takes spend apart: each one's key images have no
set when it comes, and the sets are those of the rows before it. -/
theorem initPass_notKept_apart {rows : List PoolRow} {spent spent' : SpentKeyImages} {row : PoolRow}
    (holds : IndexesRows rows spent ∧ rows.Pairwise SpendApart)
    (inserted : insertKeyImages row.1 false row.2.2.vin spent = (true, spent')) :
    IndexesRows (rows ++ [row]) spent' ∧ (rows ++ [row]).Pairwise SpendApart := by
  refine ⟨holds.1.append_row inserted, List.pairwise_append.mpr ⟨holds.2, List.pairwise_singleton _ _, ?_⟩⟩
  intro earlier member new isNew kImage spendsEarlier spendsNew
  obtain rfl := List.mem_singleton.mp isNew
  have listed := holds.1.mem_spenders_iff.mpr ⟨earlier, member, rfl, spendsEarlier⟩
  rw [spenders_of_insertKeyImages_notKept inserted kImage spendsNew] at listed
  exact List.not_mem_nil listed

/-- Where `init` succeeds, no key image is spent by two rows of the table that were not
kept by a block: its first pass refuses a key image such a row spent before. -/
theorem init_not_kept_spenders_unique {s s' : TxMemoryPool} {maxTxpoolWeight : Nat}
    (succeeded : init s maxTxpoolWeight = (true, s')) : NotKeptSpendersUnique s'.table := by
  have finalTable := (init_indexes succeeded).1
  rw [init] at succeeded
  split at succeeded
  · cases succeeded
  · rename_i between first
    obtain ⟨-, -, apart⟩ := initPass_invariant false (fun rows spent => IndexesRows rows spent ∧ rows.Pairwise SpendApart)
      initPass_notKept_apart _ _ between [] ⟨indexesRows_nil, .nil⟩ first
    rw [finalTable]
    intro id id' tx tx' kImage notKept notKept' spends spends'
    obtain ⟨txMeta, found, kept⟩ := notKeptTx_eq_some.mp notKept
    obtain ⟨txMeta', found', kept'⟩ := notKeptTx_eq_some.mp notKept'
    -- both rows are among those the first pass took
    have taken : (⟨id, txMeta, tx⟩ : PoolRow) ∈ [] ++ s.table.entries.filter fun entry => entry.2.1.keptByBlock == false :=
      List.mem_append_right _ (List.mem_filter.mpr ⟨AList.mem_lookup_iff.mp found, by simp [kept]⟩)
    have taken' : (⟨id', txMeta', tx'⟩ : PoolRow) ∈ [] ++ s.table.entries.filter fun entry => entry.2.1.keptByBlock == false :=
      List.mem_append_right _ (List.mem_filter.mpr ⟨AList.mem_lookup_iff.mp found', by simp [kept']⟩)
    by_contra differ
    exact apart.forall taken taken' (fun same => differ (congrArg Sigma.fst same)) spends spends'

theorem init_not_kept_spenders_unique_on_restart :
    init restartedPool 0 = (true, (init restartedPool 0).2) ∧
      NotKeptSpendersUnique (init restartedPool 0).2.table :=
  have succeeded : init restartedPool 0 = (true, (init restartedPool 0).2) :=
    Prod.ext (by decide +kernel) rfl
  ⟨succeeded, init_not_kept_spenders_unique succeeded⟩

end ElectroneumClassic.TxMemoryPool
