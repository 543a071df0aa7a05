import ElectroneumClassic.Pool.Runs

/-!
# The sorted entries over runs of the pool

`m_txs_by_fee_and_receive_time` is how `take_tx`, `prune` and `fill_block_template`
reach the pool's transactions.  `SortedTracks` says that it lists each transaction of
the table once and no other hash.

`emplace` finds an entry under a new hash equal to none already there, so `add_tx`
sorts each new transaction (`sortedHashes_emplace_perm`); re-adding a transaction already
in the pool only rewrites its meta, since its first key image stops `insert_key_images`
before `emplace` (`sortedTracks_insertTx_replacing`).  The writers that remove a
transaction erase its entry: `prune` the entry it walks, which is still in the live list;
`take_tx` and `validate` the entry found by hash; `remove_stuck_transactions` erases all
the entries in one walk and the rows in another (`sortedTracks_of_two_walks`).  Over any
run the entries keep up with the table while the key image map indexes it
(`sorted_entries_track_table_over_runs`).
-/

namespace ElectroneumClassic.TxMemoryPool

open Cryptonote Effects

variable {H : Hashing} {known : List Transaction}

/-! ## The hashes of the sorted entries -/

/-- The hashes of the sorted entries, in their order. -/
def sortedHashes (sorted : List SortEntry) : List Hash := sorted.map (·.2)

@[simp] theorem mem_sortedHashes {sorted : List SortEntry} {id : Hash} :
    id ∈ sortedHashes sorted ↔ ∃ entry ∈ sorted, entry.2 = id := List.mem_map

/-- Two entries with different hashes: one goes before the other. -/
theorem txCompare_or_of_ne {a b : SortEntry} (differ : a.2 ≠ b.2) :
    txCompare a b = true ∨ txCompare b a = true := by
  rcases lt_trichotomy a.1.1 b.1.1 with feeLess | feeSame | feeMore
  · simp [txCompare, feeLess, not_lt_of_gt feeLess]
  · rcases lt_trichotomy a.1.2 b.1.2 with timeLess | timeSame | timeMore
    · simp [txCompare, feeSame, timeLess]
    · simp [txCompare, feeSame, timeSame, differ]
    · simp [txCompare, feeSame, timeMore]
  · simp [txCompare, feeMore]

/-- An entry under a hash not yet sorted is inserted: `emplace` never finds it equal to
another. -/
theorem sortedHashes_emplace_perm {entry : SortEntry} :
    ∀ {sorted : List SortEntry}, entry.2 ∉ sortedHashes sorted →
      (sortedHashes (emplace entry sorted)).Perm (entry.2 :: sortedHashes sorted)
  | [], _ => .refl _
  | other :: rest, fresh => by
    have differ : entry.2 ≠ other.2 := fun same => fresh (by simp [sortedHashes, same])
    have freshRest : entry.2 ∉ sortedHashes rest := fun later => fresh (by simp_all [sortedHashes])
    rw [emplace]
    split
    · exact .refl _
    · rename_i notBefore
      have after : txCompare other entry = true := (txCompare_or_of_ne differ).resolve_left notBefore
      rw [if_pos after]
      -- the entry goes further down the list
      exact ((sortedHashes_emplace_perm freshRest).cons other.2).trans (.swap _ _ _)

/-- Erasing an entry erases its hash. -/
theorem sortedHashes_erase_perm {sorted : List SortEntry} {entry : SortEntry} (member : entry ∈ sorted) :
    (sortedHashes (sorted.erase entry)).Perm ((sortedHashes sorted).erase entry.2) := by
  have listed : entry.2 ∈ sortedHashes sorted := List.mem_map_of_mem member
  have whole : (sortedHashes sorted).Perm (entry.2 :: sortedHashes (sorted.erase entry)) :=
    (List.perm_cons_erase member).map _
  exact (whole.symm.trans (List.perm_cons_erase listed)).cons_inv

/-- `eraseSorted` erases the hash, where it is there. -/
theorem sortedHashes_eraseSorted_perm (sorted : List SortEntry) (txid : Hash) :
    (sortedHashes (eraseSorted sorted txid)).Perm ((sortedHashes sorted).erase txid) := by
  rw [eraseSorted]
  split
  · rename_i missing
    have absent : txid ∉ sortedHashes sorted := by
      rw [mem_sortedHashes]
      rintro ⟨entry, member, same⟩
      have differs := List.find?_eq_none.mp missing entry member
      simp [same] at differs
    rw [List.erase_of_not_mem absent]
  · rename_i entry found
    have same : entry.2 = txid := by simpa using List.find?_some found
    rw [← same]
    exact sortedHashes_erase_perm (List.mem_of_find?_eq_some found)

/-! ## The invariant -/

/-- The sorted entries list each transaction of the table once, and no other hash. -/
structure SortedTracks (table : PoolTable) (sorted : List SortEntry) : Prop where
  nodup : (sortedHashes sorted).Nodup
  mem_iff : ∀ {id}, id ∈ sortedHashes sorted ↔ (table.lookup id).isSome

theorem sortedTracks_empty : SortedTracks ∅ [] where
  nodup := List.nodup_nil
  mem_iff := by simp [sortedHashes]

/-- Only which hashes the table holds counts. -/
theorem SortedTracks.congr {table table' : PoolTable} {sorted : List SortEntry}
    (tracks : SortedTracks table sorted) (same : ∀ id, (table'.lookup id).isSome = (table.lookup id).isSome) :
    SortedTracks table' sorted :=
  ⟨tracks.nodup, fun {id} => by rw [same id]; exact tracks.mem_iff⟩

/-- A hash leaving the table and the sorted entries together. -/
theorem SortedTracks.erase {table : PoolTable} {sorted sorted' : List SortEntry} {txid : Hash}
    (tracks : SortedTracks table sorted) (erased : (sortedHashes sorted').Perm ((sortedHashes sorted).erase txid)) :
    SortedTracks (table.erase txid) sorted' where
  nodup := erased.nodup_iff.mpr (tracks.nodup.erase txid)
  mem_iff := fun {id} => by
    rw [erased.mem_iff, tracks.nodup.mem_erase_iff, tracks.mem_iff]
    by_cases same : id = txid
    · subst same
      simp [AList.lookup_erase]
    · simp [same, AList.lookup_erase_ne same]

/-- A new hash joining the table and the sorted entries together. -/
theorem SortedTracks.insert {table : PoolTable} {sorted : List SortEntry} {key : ℚ × Nat} {id : Hash}
    (tracks : SortedTracks table sorted) (fresh : table.lookup id = none) (row : TxpoolTxMeta × Transaction) :
    SortedTracks (table.insert id row) (emplace (key, id) sorted) := by
  have unsorted : id ∉ sortedHashes sorted := by
    rw [tracks.mem_iff, fresh]
    simp
  have inserted : (sortedHashes (emplace (key, id) sorted)).Perm (id :: sortedHashes sorted) :=
    sortedHashes_emplace_perm unsorted
  refine ⟨inserted.nodup_iff.mpr (List.nodup_cons.mpr ⟨unsorted, tracks.nodup⟩), fun {other} => ?_⟩
  rw [inserted.mem_iff, List.mem_cons, tracks.mem_iff]
  by_cases same : other = id
  · subst same
    simp [AList.lookup_insert]
  · simp [same, AList.lookup_insert_ne same]

/-! ## The writers that remove transactions -/

theorem sortedTracks_takeTx {s : TxMemoryPool} (tracks : SortedTracks s.table s.txsByFeeAndReceiveTime)
    (id : Hash) : SortedTracks (takeTx s id).2.table (takeTx s id).2.txsByFeeAndReceiveTime := by
  rw [takeTx]
  split
  · exact tracks
  · rename_i entry found
    split
    · exact tracks
    · have same : entry.2 = id := by simpa using List.find?_some found
      refine tracks.erase ?_
      rw [← same]
      exact sortedHashes_erase_perm (List.mem_of_find?_eq_some found)

/-- The loop of `prune` erases each entry it removes from the live list: the entries
still ahead whose rows are in the table are all still there. -/
theorem sortedTracks_pruneLoop (bytes : Nat) :
    ∀ (candidates : List SortEntry) (s : TxMemoryPool), SortedTracks s.table s.txsByFeeAndReceiveTime →
      (∀ entry ∈ candidates, (s.table.lookup entry.2).isSome → entry ∈ s.txsByFeeAndReceiveTime) →
      SortedTracks (pruneLoop bytes candidates s).table (pruneLoop bytes candidates s).txsByFeeAndReceiveTime
  | [], _, tracks, _ => tracks
  | entry :: rest, s, tracks, ahead => by
    have aheadRest := fun other member => ahead other (List.mem_cons_of_mem _ member)
    rw [pruneLoop]
    split
    · exact tracks
    · split
      · exact tracks
      · rename_i txMeta tx found
        split
        · exact sortedTracks_pruneLoop bytes rest s tracks aheadRest
        · have member : entry ∈ s.txsByFeeAndReceiveTime := ahead entry List.mem_cons_self (by simp [found])
          refine sortedTracks_pruneLoop bytes rest _ (tracks.erase (sortedHashes_erase_perm member)) ?_
          -- an entry whose row survives has another hash, so it survives the erase
          intro other later survives
          have differ : other.2 ≠ entry.2 := by
            rintro same
            rw [same, AList.lookup_erase] at survives
            simp at survives
          rw [AList.lookup_erase_ne differ] at survives
          exact (List.mem_erase_of_ne fun same => differ (congrArg Prod.snd same)).mpr
            (aheadRest other later survives)

theorem sortedTracks_prune {s : TxMemoryPool} (tracks : SortedTracks s.table s.txsByFeeAndReceiveTime)
    (bytes : Nat) : SortedTracks (prune s bytes).table (prune s bytes).txsByFeeAndReceiveTime :=
  sortedTracks_pruneLoop _ _ s tracks fun _ member _ =>
    List.mem_reverse.mp (List.dropLast_subset _ member)

theorem sortedTracks_validate (env : PoolEnv) {s : TxMemoryPool}
    (tracks : SortedTracks s.table s.txsByFeeAndReceiveTime) (version : Nat) :
    SortedTracks (validate env s version).2.table (validate env s version).2.txsByFeeAndReceiveTime := by
  rw [validate]
  refine foldl_invariant (fun p : Nat × TxMemoryPool => SortedTracks p.2.table p.2.txsByFeeAndReceiveTime)
    ?_ _ _ tracks
  rintro ⟨removed, t⟩ txid before
  dsimp only
  split
  · exact before
  · exact before.erase (sortedHashes_eraseSorted_perm _ _)

/-- Erasing hash after hash from the sorted entries. -/
theorem foldl_eraseSorted (ids : List Hash) :
    ∀ sorted : List SortEntry, (sortedHashes sorted).Nodup →
      (sortedHashes (ids.foldl eraseSorted sorted)).Nodup ∧
        ∀ id, id ∈ sortedHashes (ids.foldl eraseSorted sorted) ↔ id ∈ sortedHashes sorted ∧ id ∉ ids := by
  induction ids with
  | nil => exact fun sorted distinct => ⟨distinct, by simp⟩
  | cons txid rest inductionHypothesis =>
    intro sorted distinct
    have erased := sortedHashes_eraseSorted_perm sorted txid
    obtain ⟨distinctAfter, listed⟩ := inductionHypothesis _ (erased.nodup_iff.mpr (distinct.erase txid))
    refine ⟨distinctAfter, fun id => ?_⟩
    rw [List.foldl_cons, listed, erased.mem_iff, distinct.mem_erase_iff, List.mem_cons]
    tauto

/-- `remove_stuck_transactions` walks its list twice: the first walk erases each hash
from the sorted entries and leaves the table, the second erases it from the table and
leaves the sorted entries.  Together they keep the entries in step with the table. -/
theorem sortedTracks_of_two_walks {f g : TxMemoryPool → Hash × Nat → TxMemoryPool}
    (first : ∀ t p, (f t p).table = t.table ∧
      (f t p).txsByFeeAndReceiveTime = eraseSorted t.txsByFeeAndReceiveTime p.1)
    (second : ∀ t p, (g t p).txsByFeeAndReceiveTime = t.txsByFeeAndReceiveTime ∧
      ∀ id, ((g t p).table.lookup id).isSome = ((t.table.erase p.1).lookup id).isSome)
    (remove : List (Hash × Nat)) {s : TxMemoryPool} (tracks : SortedTracks s.table s.txsByFeeAndReceiveTime) :
    SortedTracks (remove.foldl g (remove.foldl f s)).table (remove.foldl g (remove.foldl f s)).txsByFeeAndReceiveTime := by
  have walkedFirst : ∀ (l : List (Hash × Nat)) (t : TxMemoryPool), (l.foldl f t).table = t.table ∧
      (l.foldl f t).txsByFeeAndReceiveTime = (l.map Prod.fst).foldl eraseSorted t.txsByFeeAndReceiveTime := by
    intro l
    induction l with
    | nil => exact fun t => ⟨rfl, rfl⟩
    | cons p rest inductionHypothesis =>
      intro t
      rw [List.foldl_cons, (inductionHypothesis (f t p)).1, (inductionHypothesis (f t p)).2, (first t p).1,
        (first t p).2]
      exact ⟨rfl, rfl⟩
  have walkedSecond : ∀ (l : List (Hash × Nat)) (t : TxMemoryPool),
      (l.foldl g t).txsByFeeAndReceiveTime = t.txsByFeeAndReceiveTime ∧
        ∀ id, ((l.foldl g t).table.lookup id).isSome = ((t.table.lookup id).isSome && !(id ∈ l.map Prod.fst)) := by
    intro l
    induction l with
    | nil => simp
    | cons p rest inductionHypothesis =>
      intro t
      refine ⟨(inductionHypothesis (g t p)).1.trans (second t p).1, fun id => ?_⟩
      rw [List.foldl_cons, (inductionHypothesis (g t p)).2 id, (second t p).2 id]
      by_cases same : id = p.1
      · subst same
        simp [AList.lookup_erase]
      · simp only [AList.lookup_erase_ne same, List.map_cons, List.mem_cons, same, false_or]
  obtain ⟨tableFirst, sortedFirst⟩ := walkedFirst remove s
  obtain ⟨sortedSecond, tableSecond⟩ := walkedSecond remove (remove.foldl f s)
  obtain ⟨distinct, listed⟩ := foldl_eraseSorted (remove.map Prod.fst) _ tracks.nodup
  refine ⟨by rw [sortedSecond, sortedFirst]; exact distinct, fun {id} => ?_⟩
  rw [sortedSecond, sortedFirst, listed, tableSecond, tableFirst, tracks.mem_iff]
  simp

theorem sortedTracks_removeStuckTransactions {s : TxMemoryPool}
    (tracks : SortedTracks s.table s.txsByFeeAndReceiveTime) (now : Nat) :
    SortedTracks (removeStuckTransactions s now).table (removeStuckTransactions s now).txsByFeeAndReceiveTime := by
  rw [removeStuckTransactions]
  refine sortedTracks_of_two_walks ?_ ?_ _ tracks
  · rintro t ⟨txid, weight⟩
    exact ⟨rfl, rfl⟩
  · rintro t ⟨txid, weight⟩
    dsimp only
    split
    · rename_i missing
      refine ⟨rfl, fun id => ?_⟩
      -- nothing to erase: the hash has no row
      by_cases same : id = txid
      · subst same
        simp [missing, AList.lookup_erase]
      · rw [AList.lookup_erase_ne same]
    · exact ⟨rfl, fun id => rfl⟩

/-! ## `add_tx` -/

theorem insertTx_of_inserted {s : TxMemoryPool} {tx : Transaction} {id : Hash} {txMeta : TxpoolTxMeta}
    {table : PoolTable} {spent : SpentKeyImages} (added : addTxpoolTx s.table id txMeta tx = some table)
    (inserted : insertKeyImages id txMeta.keptByBlock tx.vin s.spentKeyImages = (true, spent)) :
    insertTx s tx id txMeta = (true, { s with
      table
      spentKeyImages := spent
      txsByFeeAndReceiveTime :=
        emplace (((txMeta.fee : ℚ) / txMeta.weight, txMeta.receiveTime), id) s.txsByFeeAndReceiveTime }) := by
  simp only [insertTx, added, inserted]

theorem insertTx_of_refused {s : TxMemoryPool} {tx : Transaction} {id : Hash} {txMeta : TxpoolTxMeta}
    {table : PoolTable} {spent : SpentKeyImages} (added : addTxpoolTx s.table id txMeta tx = some table)
    (refused : insertKeyImages id txMeta.keptByBlock tx.vin s.spentKeyImages = (false, spent)) :
    insertTx s tx id txMeta = (false, { s with table, spentKeyImages := spent }) := by
  simp only [insertTx, added, refused]

/-- A transaction new to the table gets its sorted entry. -/
theorem sortedTracks_insertTx (distinguished : Distinguished H known) {s : TxMemoryPool}
    {tx : Transaction} {txMeta : TxpoolTxMeta} (indexed : KeyImagesIndexed H known (index s))
    (tracks : SortedTracks s.table s.txsByFeeAndReceiveTime) (member : tx ∈ known)
    (supported : checkInputsTypesSupported tx = true)
    (unspent : txMeta.keptByBlock = false → ∀ kImage ∈ tx.keyImages, spenders s.spentKeyImages kImage = []) :
    SortedTracks (insertTx s tx (H.txHash tx) txMeta).2.table (insertTx s tx (H.txHash tx) txMeta).2.txsByFeeAndReceiveTime := by
  cases found : s.table.lookup (H.txHash tx) with
  | none =>
    have fresh : poolTx s.table (H.txHash tx) = none := by simp [poolTx, found]
    obtain ⟨spent, inserted, -⟩ := indexed.insert distinguished fresh member supported unspent txMeta
    rw [insertTx_of_inserted (addTxpoolTx_of_lookup found txMeta tx) inserted]
    exact tracks.insert found (txMeta, tx)
  | some row =>
    rw [insertTx_of_lookup found]
    exact tracks

/-- A transaction already in the pool, with inputs, only gets a new meta: its key images
stop `insert_key_images`, so no second entry is sorted. -/
theorem sortedTracks_insertTx_replacing (distinguished : Distinguished H known) {s : TxMemoryPool}
    {tx : Transaction} {txMeta : TxpoolTxMeta} (indexed : KeyImagesIndexed H known (index s))
    (tracks : SortedTracks s.table s.txsByFeeAndReceiveTime) (member : tx ∈ known) (inputs : tx.vin ≠ [])
    (supported : checkInputsTypesSupported tx = true)
    (unspent : txMeta.keptByBlock = false → ∀ kImage ∈ tx.keyImages, spenders s.spentKeyImages kImage = []) :
    let replaced := (insertTx { s with table := s.table.erase (H.txHash tx) } tx (H.txHash tx) txMeta).2
    SortedTracks replaced.table replaced.txsByFeeAndReceiveTime := by
  intro replaced
  cases present : poolTx s.table (H.txHash tx) with
  | none =>
    have sameRows : ∀ id, poolTx (s.table.erase (H.txHash tx)) id = poolTx s.table id := poolTx_erase_of_none present
    have erasedTracks : SortedTracks (s.table.erase (H.txHash tx)) s.txsByFeeAndReceiveTime :=
      tracks.congr fun id => by simpa [poolTx] using congrArg Option.isSome (sameRows id)
    exact sortedTracks_insertTx distinguished (indexed.congr sameRows) erasedTracks member supported unspent
  | some held =>
    obtain ⟨heldMember, heldHash, -⟩ := indexed.rows present
    obtain rfl : held = tx := distinguished.hashes held heldMember tx member heldHash.symm
    have refused := indexed.insertKeyImages_refused present inputs txMeta.keptByBlock
    simp only [replaced]
    rw [insertTx_of_refused (s := { s with table := s.table.erase (H.txHash held) })
      (addTxpoolTx_of_lookup (AList.lookup_erase _ _) txMeta held) refused]
    obtain ⟨heldMeta, found⟩ := poolTx_eq_some.mp present
    refine tracks.congr fun id => ?_
    by_cases same : id = H.txHash held
    · subst same
      rw [AList.lookup_insert, found]
      rfl
    · rw [AList.lookup_insert_ne same, AList.lookup_erase_ne same]

theorem sortedTracks_addTx (distinguished : Distinguished H known) (inputs : ∀ tx ∈ known, tx.vin ≠ [])
    (env : PoolEnv) {s : TxMemoryPool} {tx : Transaction} (indexed : KeyImagesIndexed H known (index s))
    (tracks : SortedTracks s.table s.txsByFeeAndReceiveTime) (member : tx ∈ known)
    (txWeight : Nat) (keptByBlock relayed doNotRelay : Bool) (version now : Nat) :
    let after := (addTx env s tx (H.txHash tx) txWeight keptByBlock relayed doNotRelay version now).2
    SortedTracks after.table after.txsByFeeAndReceiveTime := by
  intro after
  rcases addTx_cases env s tx (H.txHash tx) txWeight keptByBlock relayed doNotRelay version now with
    unchanged | marked | ⟨supported, unspent, txMeta, kept, inserted, insertion, added⟩
  · simp only [after, unchanged]
    exact tracks
  · simp only [after, marked]
    exact tracks.congr fun id => by
      simpa [poolTx] using congrArg Option.isSome (poolTx_markDoubleSpend s.spentKeyImages tx.vin s.table id)
  · have unspentSets : txMeta.keptByBlock = false → ∀ kImage ∈ tx.keyImages, spenders s.spentKeyImages kImage = [] :=
      fun notKept => spenders_of_haveTxKeyimgesAsSpent (unspent (kept ▸ notKept))
    have insertedTracks : SortedTracks inserted.2.table inserted.2.txsByFeeAndReceiveTime := by
      rcases insertion with rfl | rfl
      · exact sortedTracks_insertTx distinguished indexed tracks member supported unspentSets
      · exact sortedTracks_insertTx_replacing distinguished indexed tracks member (inputs tx member) supported
          unspentSets
    simp only [after, added]
    split
    · exact sortedTracks_prune (s := { inserted.2 with txpoolWeight := Machine.wrapU64 (inserted.2.txpoolWeight + txWeight) })
        insertedTracks _
    · exact insertedTracks

/-! ## Rebuilding the entries: `init` -/

/-- A pass of `init` that goes through sorts each row it takes, under a hash not sorted
before. -/
theorem initPass_sorts (kept : Bool) :
    ∀ (entries : List PoolRow) (s s' : TxMemoryPool) (rows : List PoolRow),
      (sortedHashes s.txsByFeeAndReceiveTime).Perm (rows.map Sigma.fst) →
      ((rows ++ entries.filter fun entry => entry.2.1.keptByBlock == kept).map Sigma.fst).Nodup →
      initPass kept entries s = (true, s') →
      (sortedHashes s'.txsByFeeAndReceiveTime).Perm
        ((rows ++ entries.filter fun entry => entry.2.1.keptByBlock == kept).map Sigma.fst)
  | [], s, s', rows, sorted, _, finished => by
    cases finished
    simpa using sorted
  | entry :: rest, s, s', rows, sorted, distinct, finished => by
    rw [initPass] at finished
    split at finished
    · rename_i other
      have skipped : (entry.2.1.keptByBlock == kept) = false := by simpa using other
      rw [List.filter_cons, if_neg (by simp [skipped])] at distinct ⊢
      exact initPass_sorts kept rest s s' rows sorted distinct finished
    · rename_i same
      have taken : (entry.2.1.keptByBlock == kept) = true := by simpa using same
      rw [List.filter_cons, if_pos taken, ← List.singleton_append, ← List.append_assoc] at distinct ⊢
      split at finished
      · cases finished
      · rename_i spent inserted
        -- the row's hash is not among those sorted before it
        have prefixDistinct : (rows.map Sigma.fst ++ [entry.1]).Nodup := by
          simpa using distinct.sublist ((List.sublist_append_left _ _).map _)
        have fresh : entry.1 ∉ rows.map Sigma.fst :=
          (List.nodup_cons.mp ((List.perm_append_singleton _ _).nodup_iff.mp prefixDistinct)).1
        have unsorted : entry.1 ∉ sortedHashes s.txsByFeeAndReceiveTime := fun listed => fresh (sorted.mem_iff.mp listed)
        have sortedNext : (sortedHashes (emplace (((entry.2.1.fee : ℚ) / entry.2.1.weight, entry.2.1.receiveTime), entry.1)
            s.txsByFeeAndReceiveTime)).Perm ((rows ++ [entry]).map Sigma.fst) := by
          rw [List.map_append, List.map_singleton]
          exact (sortedHashes_emplace_perm unsorted).trans ((sorted.cons _).trans (List.perm_append_singleton _ _).symm)
        have passed := initPass_sorts kept rest _ s' (rows ++ [entry]) sortedNext distinct finished
        exact passed

/-- Where `init` succeeds, its two passes sort every row of the table once. -/
theorem init_sorts_table {s s' : TxMemoryPool} {maxTxpoolWeight : Nat}
    (succeeded : init s maxTxpoolWeight = (true, s')) : SortedTracks s'.table s'.txsByFeeAndReceiveTime := by
  have finalTable := (init_indexes succeeded).1
  have keys : (s.table.entries.map Sigma.fst).Nodup := s.table.nodupKeys
  have passes := filter_kept_append_perm s.table.entries
  rw [init] at succeeded
  split at succeeded
  · cases succeeded
  · rename_i between first
    obtain ⟨firstTable, -⟩ := initPass_indexes false _ _ between [] indexesRows_nil first
    have firstSorted := initPass_sorts false _ _ between [] (by simp [sortedHashes])
      (by simpa using keys.sublist (List.filter_sublist.map _)) first
    rw [firstTable] at succeeded
    have secondSorted := initPass_sorts true _ _ s' _ (by simpa using firstSorted)
      ((passes.map _).nodup_iff.mpr keys) succeeded
    have whole := secondSorted.trans (passes.map _)
    refine ⟨whole.nodup_iff.mpr keys, fun {id} => ?_⟩
    rw [whole.mem_iff, finalTable, AList.lookup_isSome, AList.mem_keys]
    rfl

theorem init_sorts_table_on_restart :
    init restartedPool 0 = (true, (init restartedPool 0).2) ∧
      SortedTracks (init restartedPool 0).2.table (init restartedPool 0).2.txsByFeeAndReceiveTime :=
  have succeeded : init restartedPool 0 = (true, (init restartedPool 0).2) := Prod.ext (by decide +kernel) rfl
  ⟨succeeded, init_sorts_table succeeded⟩

/-! ## Runs -/

theorem sortedTracks_apply (distinguished : Distinguished H known) (inputs : ∀ tx ∈ known, tx.vin ≠ [])
    (env : PoolEnv) {s : TxMemoryPool} (indexed : KeyImagesIndexed H known (index s))
    (tracks : SortedTracks s.table s.txsByFeeAndReceiveTime) {op : PoolOp} (handed : ∀ tx ∈ op.handed?, tx ∈ known) :
    SortedTracks (op.apply H env s).table (op.apply H env s).txsByFeeAndReceiveTime := by
  cases op with
  | addTx tx txWeight keptByBlock relayed doNotRelay version now =>
    exact sortedTracks_addTx distinguished inputs env indexed tracks (handed tx rfl) txWeight keptByBlock relayed
      doNotRelay version now
  | takeTx id => exact sortedTracks_takeTx tracks id
  | removeStuckTransactions now => exact sortedTracks_removeStuckTransactions tracks now
  | validate version => exact sortedTracks_validate env tracks version

/-- Over any run of the pool's writers, `m_txs_by_fee_and_receive_time` lists each
transaction of the table once and no other hash, as `take_tx` and `fill_block_template`
rely on. -/
theorem sorted_entries_track_table_over_runs (distinguished : Distinguished H known)
    (inputs : ∀ tx ∈ known, tx.vin ≠ []) (env : PoolEnv) (ops : List PoolOp) {s : TxMemoryPool}
    (indexed : KeyImagesIndexed H known (index s)) (tracks : SortedTracks s.table s.txsByFeeAndReceiveTime)
    (handed : ∀ op ∈ ops, ∀ tx ∈ op.handed?, tx ∈ known) :
    SortedTracks (runPool H env s ops).table (runPool H env s ops).txsByFeeAndReceiveTime := by
  -- the entries follow the table only while the map indexes it, so both are carried
  have both := runPool_invariant env
    (fun s => KeyImagesIndexed H known (index s) ∧ SortedTracks s.table s.txsByFeeAndReceiveTime)
    (fun _ _ before handedOp => ⟨keyImagesIndexed_apply distinguished env before.1 handedOp,
      sortedTracks_apply distinguished inputs env before.1 before.2 handedOp⟩)
    ops s ⟨indexed, tracks⟩ handed
  exact both.2

theorem sorted_entries_track_table_over_runs_from_empty :
    SortedTracks
      (runPool firstKeyImageHashing acceptingEnv ⟨∅, 150, 0, ∅, [], []⟩
        [.addTx (spendingTx 1000 7) 100 false false false 8 1000, .addTx (spendingTx 10 8) 100 false false false 8 2000,
          .addTx (spendingTx 1000 7) 100 true false false 8 3000, .takeTx 8, .validate 8]).table
      (runPool firstKeyImageHashing acceptingEnv ⟨∅, 150, 0, ∅, [], []⟩
        [.addTx (spendingTx 1000 7) 100 false false false 8 1000, .addTx (spendingTx 10 8) 100 false false false 8 2000,
          .addTx (spendingTx 1000 7) 100 true false false 8 3000, .takeTx 8, .validate 8]).txsByFeeAndReceiveTime :=
  have distinguished : Distinguished firstKeyImageHashing [spendingTx 1000 7, spendingTx 10 8] :=
    ⟨by decide, by decide⟩
  sorted_entries_track_table_over_runs distinguished (by decide) acceptingEnv _ keyImagesIndexed_empty
    sortedTracks_empty (by decide)

end ElectroneumClassic.TxMemoryPool
