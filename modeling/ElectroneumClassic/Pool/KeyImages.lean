import ElectroneumClassic.Pool.TxPool
import ElectroneumClassic.Lib.Effects

/-!
# The key image map

`m_spent_key_images` maps a key image to the hashes of the pool transactions spending
it.  `KeyImagesIndexed` says that the map is the index of the table: each row holds,
under its hash, a transaction with `txin_to_key` inputs only; a hash is in the set of a
key image exactly when the transaction of its row spends it; and no set is empty.

The pool relies on two facts about the transactions it is handed (`Distinguished`):
the hash tells them apart, and none repeats a key image, which
`check_tx_inputs_keyimages_diff` refuses before the core hands a transaction over.
Under them every writer of the map keeps the invariant.  The loops of `prune`,
`take_tx`, `remove_stuck_transactions` and `validate` move the table and the map by
`TakesOut` steps, a `remove_txpool_tx` with its `remove_transaction_keyimages`, and one
step keeps the invariant (`KeyImagesIndexed.takesOut`).  `add_tx` stops before writing,
marks metas only, inserts a row whose key images all join their sets
(`KeyImagesIndexed.insert`), or rewrites the row of a transaction already there, when
`insert_key_images` stops at the first key image and the map stays
(`KeyImagesIndexed.insertKeyImages_of_present`).
-/

namespace ElectroneumClassic.TxMemoryPool

open Cryptonote Relation Effects

/-- The pool transactions `m_spent_key_images` lists for a key image; none
where the key image has no entry. -/
def spenders (spent : SpentKeyImages) (kImage : KeyImage) : List Hash := (spent.lookup kImage).getD []

theorem spenders_insert_ne {spent : SpentKeyImages} {kImage other : KeyImage} (ids : List Hash)
    (differ : other ≠ kImage) : spenders (spent.insert kImage ids) other = spenders spent other := by
  rw [spenders, AList.lookup_insert_ne differ, spenders]

theorem spenders_erase_ne {spent : SpentKeyImages} {kImage other : KeyImage}
    (differ : other ≠ kImage) : spenders (spent.erase kImage) other = spenders spent other := by
  rw [spenders, AList.lookup_erase_ne differ, spenders]

/-- The sets after one more key image joins, as the loop of `insert_key_images` goes. -/
theorem lookup_insert_appended {spent : SpentKeyImages} {kImage : KeyImage} {rest : List KeyImage}
    (notLater : kImage ∉ rest) (id : Hash) (other : KeyImage) :
    (if other ∈ rest then some (spenders (spent.insert kImage (spenders spent kImage ++ [id])) other ++ [id])
      else (spent.insert kImage (spenders spent kImage ++ [id])).lookup other) =
      if other ∈ kImage :: rest then some (spenders spent other ++ [id]) else spent.lookup other := by
  by_cases same : other = kImage
  · subst same
    simp [notLater, AList.lookup_insert]
  · by_cases later : other ∈ rest
    · simp [later, spenders_insert_ne _ same]
    · simp [later, same, AList.lookup_insert_ne same]

/-- `insert_key_images` for a transaction whose inputs are all `txin_to_key`
with distinct key images, under a hash in none of their sets, and into empty
sets unless the transaction was kept by a block: every set gains the hash. -/
theorem insertKeyImages_spec (id : Hash) (keptByBlock : Bool) :
    ∀ (vin : List TxinV) (spent : SpentKeyImages), (∀ input ∈ vin, input.isToKey = true) →
      (vin.filterMap TxinV.keyImage?).Nodup →
      (∀ kImage ∈ vin.filterMap TxinV.keyImage?, id ∉ spenders spent kImage) →
      (keptByBlock = false → ∀ kImage ∈ vin.filterMap TxinV.keyImage?, spenders spent kImage = []) →
      ∃ spent', insertKeyImages id keptByBlock vin spent = (true, spent') ∧
        ∀ kImage, spent'.lookup kImage = if kImage ∈ vin.filterMap TxinV.keyImage? then
          some (spenders spent kImage ++ [id]) else spent.lookup kImage := by
  intro vin
  induction vin with
  | nil =>
    intro spent _ _ _ _
    exact ⟨spent, rfl, fun kImage => by simp⟩
  | cons input rest inductionHypothesis =>
    intro spent toKey distinct fresh unspent
    obtain ⟨amount, keyOffsets, kImage, rfl⟩ :=
      (TxinV.isToKey_iff input).mp (toKey input List.mem_cons_self)
    simp only [List.filterMap_cons, TxinV.keyImage?_toKey, List.nodup_cons, List.mem_cons,
      forall_eq_or_imp] at distinct fresh unspent ⊢
    -- the check passes: the set is empty unless the transaction was kept by a block
    have allowed : (!(keptByBlock || (spenders spent kImage).isEmpty)) = false := by
      cases keptByBlock with
      | true => rfl
      | false => simp [(unspent rfl).1]
    obtain ⟨spent', inserted, lookups⟩ := inductionHypothesis (spent.insert kImage (spenders spent kImage ++ [id]))
      (fun other member => toKey other (List.mem_cons_of_mem _ member)) distinct.2
      (fun other member => by
        rw [spenders_insert_ne _ (ne_of_mem_of_not_mem member distinct.1)]
        exact fresh.2 other member)
      (fun notKept other member => by
        rw [spenders_insert_ne _ (ne_of_mem_of_not_mem member distinct.1)]
        exact (unspent notKept).2 other member)
    refine ⟨spent', ?_, fun other => ?_⟩
    · rw [insertKeyImages]
      simp only [spenders] at allowed fresh
      simp only [allowed, Bool.false_eq_true, if_false, fresh.1, if_false]
      exact inserted
    · rw [lookups other, lookup_insert_appended distinct.1]
      simp only [List.mem_cons]

/-- What a successful `insert_key_images` shows: the inputs are all `txin_to_key`
with distinct key images, the hash was in none of their sets, and each set gained it. -/
theorem insertKeyImages_of_true (id : Hash) (keptByBlock : Bool) :
    ∀ (vin : List TxinV) (spent spent' : SpentKeyImages), insertKeyImages id keptByBlock vin spent = (true, spent') →
      (∀ input ∈ vin, input.isToKey = true) ∧ (vin.filterMap TxinV.keyImage?).Nodup ∧
        (∀ kImage ∈ vin.filterMap TxinV.keyImage?, id ∉ spenders spent kImage) ∧
        ∀ kImage, spent'.lookup kImage = if kImage ∈ vin.filterMap TxinV.keyImage? then
          some (spenders spent kImage ++ [id]) else spent.lookup kImage
  | [], spent, spent', inserted => by
    cases inserted
    simp
  | .toKey amount keyOffsets kImage :: rest, spent, spent', inserted => by
    rw [insertKeyImages] at inserted
    split at inserted
    · cases inserted
    · split at inserted
      · cases inserted
      · rename_i fresh
        obtain ⟨toKey, distinct, freshLater, lookups⟩ := insertKeyImages_of_true id keptByBlock rest _ spent' inserted
        -- a repeated key image would find the hash already in its set
        have notLater : kImage ∉ rest.filterMap TxinV.keyImage? := fun later =>
          freshLater kImage later (by simp [spenders, AList.lookup_insert])
        simp only [List.filterMap_cons, TxinV.keyImage?_toKey, List.nodup_cons, List.mem_cons,
          forall_eq_or_imp, TxinV.isToKey, true_and]
        refine ⟨toKey, ⟨notLater, distinct⟩, ⟨fresh, fun other later => ?_⟩, fun other => ?_⟩
        · rw [← spenders_insert_ne (spenders spent kImage ++ [id]) (ne_of_mem_of_not_mem later notLater)]
          exact freshLater other later
        · rw [lookups other]
          exact (lookup_insert_appended notLater id other).trans (by simp only [List.mem_cons])
  | .gen _ :: _, _, _, inserted => by cases inserted
  | .toScript .. :: _, _, _, inserted => by cases inserted
  | .toScripthash .. :: _, _, _, inserted => by cases inserted

theorem mem_spenders {spent : SpentKeyImages} {kImage : KeyImage} {id : Hash} :
    id ∈ spenders spent kImage ↔ ∃ ids, spent.lookup kImage = some ids ∧ id ∈ ids := by
  cases found : spent.lookup kImage <;> simp [spenders, found]

/-- The map `remove_transaction_keyimages` leaves behind for one key image: the
set without the hash, and no entry once the set is empty. -/
def setWithout (ids : List Hash) (id : Hash) : Option (List Hash) :=
  if (ids.erase id).isEmpty then none else some (ids.erase id)

/-- `remove_transaction_keyimages` for a transaction whose inputs are all
`txin_to_key` with distinct key images, each set holding the hash: every set
loses it. -/
theorem removeTransactionKeyimages_spec (id : Hash) :
    ∀ (vin : List TxinV) (spent : SpentKeyImages), (∀ input ∈ vin, input.isToKey = true) →
      (vin.filterMap TxinV.keyImage?).Nodup →
      (∀ kImage ∈ vin.filterMap TxinV.keyImage?, id ∈ spenders spent kImage) →
      ∃ spent', removeTransactionKeyimages id vin spent = (true, spent') ∧
        ∀ kImage, spent'.lookup kImage = if kImage ∈ vin.filterMap TxinV.keyImage? then
          setWithout (spenders spent kImage) id else spent.lookup kImage := by
  intro vin
  induction vin with
  | nil =>
    intro spent _ _ _
    exact ⟨spent, rfl, fun kImage => by simp⟩
  | cons input rest inductionHypothesis =>
    intro spent toKey distinct listed
    obtain ⟨amount, keyOffsets, kImage, rfl⟩ :=
      (TxinV.isToKey_iff input).mp (toKey input List.mem_cons_self)
    simp only [List.filterMap_cons, TxinV.keyImage?_toKey, List.nodup_cons, List.mem_cons,
      forall_eq_or_imp] at distinct listed ⊢
    obtain ⟨ids, found, member⟩ := mem_spenders.mp listed.1
    -- the set of this key image loses the hash, or the key image its entry
    let spentNext : SpentKeyImages :=
      if (ids.erase id).isEmpty then spent.erase kImage else spent.insert kImage (ids.erase id)
    have unchanged : ∀ other, other ≠ kImage → spentNext.lookup other = spent.lookup other := by
      intro other differ
      by_cases emptied : (ids.erase id).isEmpty
      · simp only [spentNext, emptied, if_true, AList.lookup_erase_ne differ]
      · simp only [spentNext, emptied, Bool.false_eq_true, if_false, AList.lookup_insert_ne differ]
    have spendersNext : ∀ other, other ≠ kImage → spenders spentNext other = spenders spent other :=
      fun other differ => by rw [spenders, unchanged other differ, spenders]
    obtain ⟨spent', removed, lookups⟩ := inductionHypothesis spentNext
      (fun other member => toKey other (List.mem_cons_of_mem _ member)) distinct.2
      (fun other later => by
        rw [spendersNext other (ne_of_mem_of_not_mem later distinct.1)]
        exact listed.2 other later)
    refine ⟨spent', ?_, fun other => ?_⟩
    · have nonempty : ids.isEmpty = false := by
        cases ids with
        | nil => cases member
        | cons _ _ => rfl
      rw [removeTransactionKeyimages, found]
      simp only [nonempty, Bool.false_eq_true, if_false, member, not_true_eq_false]
      exact removed
    · rw [lookups other]
      by_cases same : other = kImage
      · subst same
        by_cases emptied : (ids.erase id).isEmpty
        · simp [distinct.1, spentNext, emptied, setWithout, spenders, found]
        · simp [distinct.1, spentNext, emptied, setWithout, spenders, found]
      · by_cases later : other ∈ rest.filterMap TxinV.keyImage?
        · simp [later, spendersNext other same]
        · simp [later, same, unchanged other same]

@[simp] theorem getD_setWithout (ids : List Hash) (id : Hash) : (setWithout ids id).getD [] = ids.erase id := by
  by_cases emptied : (ids.erase id).isEmpty
  · simp only [setWithout, emptied, if_true, Option.getD_none]
    exact (List.isEmpty_iff.mp emptied).symm
  · simp [setWithout, emptied]

/-- The sets where each key image of `keys` gained the hash and the others stayed. -/
theorem spenders_of_appended {keys : List KeyImage} {spent spent' : SpentKeyImages} {id : Hash}
    (lookups : ∀ kImage, spent'.lookup kImage =
      if kImage ∈ keys then some (spenders spent kImage ++ [id]) else spent.lookup kImage)
    (kImage : KeyImage) :
    spenders spent' kImage = if kImage ∈ keys then spenders spent kImage ++ [id] else spenders spent kImage := by
  rw [spenders, lookups kImage]
  by_cases listed : kImage ∈ keys
  · rw [if_pos listed, if_pos listed]
    rfl
  · rw [if_neg listed, if_neg listed]
    rfl

/-- The sets where each key image of `keys` lost the hash and the others stayed. -/
theorem spenders_of_removed {keys : List KeyImage} {spent spent' : SpentKeyImages} {id : Hash}
    (lookups : ∀ kImage, spent'.lookup kImage =
      if kImage ∈ keys then setWithout (spenders spent kImage) id else spent.lookup kImage)
    (kImage : KeyImage) :
    spenders spent' kImage = if kImage ∈ keys then (spenders spent kImage).erase id else spenders spent kImage := by
  rw [spenders, lookups kImage]
  by_cases listed : kImage ∈ keys
  · rw [if_pos listed, if_pos listed, getD_setWithout]
  · rw [if_neg listed, if_neg listed]
    rfl

/-! ## The index and its invariant -/

/-- The transaction the table holds under a hash, without its meta. -/
def poolTx (table : PoolTable) (id : Hash) : Option Transaction := (table.lookup id).map Prod.snd

theorem poolTx_eq_some {table : PoolTable} {id : Hash} {tx : Transaction} :
    poolTx table id = some tx ↔ ∃ txMeta, table.lookup id = some (txMeta, tx) := by
  cases found : table.lookup id with
  | none => simp [poolTx, found]
  | some row =>
    obtain ⟨txMeta, held⟩ := row
    simp [poolTx, found, eq_comm]

@[simp] theorem poolTx_insert_self (table : PoolTable) (id : Hash) (row : TxpoolTxMeta × Transaction) :
    poolTx (table.insert id row) id = some row.2 := by
  simp [poolTx, AList.lookup_insert]

theorem poolTx_insert_ne {table : PoolTable} {id other : Hash} (row : TxpoolTxMeta × Transaction)
    (differ : other ≠ id) : poolTx (table.insert id row) other = poolTx table other := by
  rw [poolTx, AList.lookup_insert_ne differ, poolTx]

@[simp] theorem poolTx_erase_self (table : PoolTable) (id : Hash) : poolTx (table.erase id) id = none := by
  simp [poolTx, AList.lookup_erase]

theorem poolTx_erase_ne {table : PoolTable} {id other : Hash} (differ : other ≠ id) :
    poolTx (table.erase id) other = poolTx table other := by
  rw [poolTx, AList.lookup_erase_ne differ, poolTx]

theorem poolTx_erase_of_none {table : PoolTable} {id : Hash} (absent : poolTx table id = none) (other : Hash) :
    poolTx (table.erase id) other = poolTx table other := by
  by_cases same : other = id
  · subst same
    rw [poolTx_erase_self, absent]
  · exact poolTx_erase_ne same

/-- What `m_spent_key_images` indexes: the pool's table, with the map beside it. -/
abbrev PoolIndex := PoolTable × SpentKeyImages

/-- The table and the key image map of a pool. -/
def index (s : TxMemoryPool) : PoolIndex := (s.table, s.spentKeyImages)

/-- What the pool relies on for the transactions it is handed: `get_transaction_hash`
tells them apart, and `check_tx_inputs_keyimages_diff` has refused any that repeats a
key image. -/
structure Distinguished (H : Hashing) (known : List Transaction) : Prop where
  hashes : ∀ tx ∈ known, ∀ tx' ∈ known, H.txHash tx = H.txHash tx' → tx = tx'
  keyImages : ∀ tx ∈ known, tx.keyImages.Nodup

/-- `m_spent_key_images` indexes the table: each row holds a transaction the pool
was handed, under its hash, with `txin_to_key` inputs only; a hash is in the set of a
key image exactly when its transaction spends that key image; and no set is empty
or repeats a hash. -/
structure KeyImagesIndexed (H : Hashing) (known : List Transaction) (index : PoolIndex) : Prop where
  rows : ∀ {id tx}, poolTx index.1 id = some tx →
    tx ∈ known ∧ id = H.txHash tx ∧ checkInputsTypesSupported tx = true
  mem_spenders_iff : ∀ {kImage id}, id ∈ spenders index.2 kImage ↔
    ∃ tx, poolTx index.1 id = some tx ∧ kImage ∈ tx.keyImages
  sets : ∀ {kImage ids}, index.2.lookup kImage = some ids → ids ≠ [] ∧ ids.Nodup

variable {H : Hashing} {known : List Transaction}

theorem keyImagesIndexed_empty : KeyImagesIndexed H known (∅, ∅) where
  rows := by simp [poolTx]
  mem_spenders_iff := by simp [poolTx, spenders]
  sets := by simp

theorem KeyImagesIndexed.nodup_spenders {index : PoolIndex} (indexed : KeyImagesIndexed H known index)
    (kImage : KeyImage) : (spenders index.2 kImage).Nodup := by
  cases found : index.2.lookup kImage with
  | none => simp [spenders, found]
  | some ids => simpa [spenders, found] using (indexed.sets found).2

/-- Only the transactions of the rows count, not their metas. -/
theorem KeyImagesIndexed.congr {table table' : PoolTable} {spent : SpentKeyImages}
    (indexed : KeyImagesIndexed H known (table, spent)) (same : ∀ id, poolTx table' id = poolTx table id) :
    KeyImagesIndexed H known (table', spent) where
  rows := fun {id _} row => indexed.rows (same id ▸ row)
  mem_spenders_iff := fun {_ id} => by rw [same id]; exact indexed.mem_spenders_iff
  sets := indexed.sets


/-! ## Taking a transaction out -/

/-- `remove_txpool_tx` with `remove_transaction_keyimages` for a transaction of the
table: what each round of `prune`, `take_tx`, `remove_stuck_transactions` and
`validate` does to the index when it removes one. -/
def TakesOut (before after : PoolIndex) : Prop :=
  ∃ id txMeta tx, before.1.lookup id = some (txMeta, tx) ∧
    after = (before.1.erase id, (removeTransactionKeyimages id tx.vin before.2).2)

theorem takesOut_of_lookup {s s' : TxMemoryPool} {id : Hash} {txMeta : TxpoolTxMeta} {tx : Transaction}
    (found : s.table.lookup id = some (txMeta, tx)) (erased : s'.table = s.table.erase id)
    (removed : s'.spentKeyImages = (removeTransactionKeyimages id tx.vin s.spentKeyImages).2) :
    TakesOut (index s) (index s') :=
  ⟨id, txMeta, tx, found, by rw [index, erased, removed]; rfl⟩

/-- Removing a pool transaction keeps the index: its hash leaves exactly the sets of
its own key images, which hold it since the index is right. -/
theorem KeyImagesIndexed.takesOut (distinguished : Distinguished H known) {before after : PoolIndex}
    (indexed : KeyImagesIndexed H known before) (step : TakesOut before after) :
    KeyImagesIndexed H known after := by
  obtain ⟨id, txMeta, tx, found, rfl⟩ := step
  have present : poolTx before.1 id = some tx := poolTx_eq_some.mpr ⟨txMeta, found⟩
  obtain ⟨member, -, supported⟩ := indexed.rows present
  obtain ⟨spent', removed, lookups⟩ := removeTransactionKeyimages_spec id tx.vin before.2
    (by simpa [checkInputsTypesSupported] using supported) (distinguished.keyImages tx member)
    (fun kImage spends => indexed.mem_spenders_iff.mpr ⟨tx, present, spends⟩)
  have spendersAfter := spenders_of_removed lookups
  rw [removed]
  constructor
  · intro other otherTx row
    have differ : other ≠ id := by
      rintro rfl
      simp at row
    rw [poolTx_erase_ne differ] at row
    exact indexed.rows row
  · intro kImage other
    rw [spendersAfter kImage]
    by_cases same : other = id
    · -- the hash is in no set any more, and its row is gone
      subst same
      simp only [poolTx_erase_self, reduceCtorEq, false_and, exists_false, iff_false]
      split
      · exact (indexed.nodup_spenders kImage).not_mem_erase
      · rintro listed
        obtain ⟨otherTx, row, spends⟩ := indexed.mem_spenders_iff.mp listed
        rw [present, Option.some.injEq] at row
        subst row
        contradiction
    · rw [poolTx_erase_ne same, ← indexed.mem_spenders_iff]
      split
      · exact List.mem_erase_of_ne same
      · rfl
  · intro kImage ids row
    rw [lookups kImage] at row
    split at row
    · simp only [setWithout] at row
      split at row
      · cases row
      · rename_i nonempty
        cases row
        exact ⟨fun empty => nonempty (by simp [empty]), (indexed.nodup_spenders kImage).erase id⟩
    · exact indexed.sets row


/-! ## The loops that remove transactions -/

/-- The loop of `prune` removes transactions one at a time. -/
theorem pruneLoop_takesOut (bytes : Nat) :
    ∀ (candidates : List SortEntry) (s : TxMemoryPool),
      ReflTransGen TakesOut (index s) (index (pruneLoop bytes candidates s))
  | [], _ => .refl
  | entry :: rest, s => by
    rw [pruneLoop]
    split
    · exact .refl
    · split
      · exact .refl
      · rename_i txMeta tx found
        split
        · exact pruneLoop_takesOut bytes rest s
        · exact .head (takesOut_of_lookup found rfl rfl) (pruneLoop_takesOut bytes rest _)

theorem prune_takesOut (s : TxMemoryPool) (bytes : Nat) :
    ReflTransGen TakesOut (index s) (index (prune s bytes)) :=
  pruneLoop_takesOut _ _ s

theorem takeTx_takesOut (s : TxMemoryPool) (id : Hash) :
    ReflTransGen TakesOut (index s) (index (takeTx s id).2) := by
  rw [takeTx]
  split
  · exact .refl
  · split
    · exact .refl
    · rename_i txMeta tx found
      exact .single (takesOut_of_lookup found rfl rfl)

/-- Each transaction `remove_stuck_transactions` finds stuck is timed out, then
removed where the table still holds it. -/
theorem removeStuckTransactions_takesOut (s : TxMemoryPool) (now : Nat) :
    ReflTransGen TakesOut (index s) (index (removeStuckTransactions s now)) := by
  rw [removeStuckTransactions]
  -- the first walk writes the sorted entries and the timed out hashes only
  refine .trans ?_ (reflTransGen_foldl ?_ _ rfl)
  · refine reflTransGen_foldl ?_ _ rfl
    rintro t ⟨txid, weight⟩
    exact .refl
  rintro t ⟨txid, weight⟩
  dsimp only
  split
  · exact .refl
  · rename_i txMeta tx found
    exact .single (takesOut_of_lookup found rfl rfl)

theorem validate_takesOut (env : PoolEnv) (s : TxMemoryPool) (version : Nat) :
    ReflTransGen TakesOut (index s) (index (validate env s version).2) := by
  rw [validate]
  refine reflTransGen_foldl (v := fun p : Nat × TxMemoryPool => index p.2) ?_ _ rfl
  rintro ⟨removed, t⟩ txid
  dsimp only
  split
  · exact .refl
  · rename_i txMeta tx found
    exact .single (takesOut_of_lookup found rfl rfl)

/-! ## Adding a transaction -/

theorem KeyImagesIndexed.not_mem_spenders {table : PoolTable} {spent : SpentKeyImages} {id : Hash}
    (indexed : KeyImagesIndexed H known (table, spent)) (fresh : poolTx table id = none) (kImage : KeyImage) :
    id ∉ spenders spent kImage := by
  intro listed
  obtain ⟨tx, row, -⟩ := indexed.mem_spenders_iff.mp listed
  rw [fresh] at row
  cases row

/-- A transaction new to the table joins the set of each of its key images. -/
theorem KeyImagesIndexed.insert (distinguished : Distinguished H known) {table : PoolTable}
    {spent : SpentKeyImages} {tx : Transaction} {keptByBlock : Bool}
    (indexed : KeyImagesIndexed H known (table, spent)) (fresh : poolTx table (H.txHash tx) = none)
    (member : tx ∈ known) (supported : checkInputsTypesSupported tx = true)
    (unspent : keptByBlock = false → ∀ kImage ∈ tx.keyImages, spenders spent kImage = [])
    (txMeta : TxpoolTxMeta) :
    ∃ spent', insertKeyImages (H.txHash tx) keptByBlock tx.vin spent = (true, spent') ∧
      KeyImagesIndexed H known (table.insert (H.txHash tx) (txMeta, tx), spent') := by
  have notListed := indexed.not_mem_spenders fresh
  obtain ⟨spent', inserted, lookups⟩ := insertKeyImages_spec (H.txHash tx) keptByBlock tx.vin spent
    (by simpa [checkInputsTypesSupported] using supported) (distinguished.keyImages tx member)
    (fun kImage _ => notListed kImage) unspent
  have spendersAfter := spenders_of_appended lookups
  refine ⟨spent', inserted, ⟨?_, ?_, ?_⟩⟩
  · intro other otherTx row
    by_cases same : other = H.txHash tx
    · subst same
      rw [poolTx_insert_self, Option.some.injEq] at row
      subst row
      exact ⟨member, rfl, supported⟩
    · rw [poolTx_insert_ne _ same] at row
      exact indexed.rows row
  · intro kImage other
    rw [spendersAfter kImage]
    by_cases same : other = H.txHash tx
    · -- the new hash is listed exactly under the key images of its transaction
      subst same
      simp only [poolTx_insert_self, Option.some.injEq, exists_eq_left']
      split
      · simpa
      · simpa [notListed kImage]
    · rw [poolTx_insert_ne _ same, ← indexed.mem_spenders_iff]
      split
      · simp [same]
      · rfl
  · intro kImage ids row
    rw [lookups kImage] at row
    split at row
    · cases row
      exact ⟨by simp, (indexed.nodup_spenders kImage).append (List.nodup_singleton _)
        (by simpa using notListed kImage)⟩
    · exact indexed.sets row

/-- A transaction already in the table, with inputs, is already in the set of its first
key image: `insert_key_images` stops there and writes nothing. -/
theorem KeyImagesIndexed.insertKeyImages_refused {table : PoolTable} {spent : SpentKeyImages}
    {id : Hash} {tx : Transaction} (indexed : KeyImagesIndexed H known (table, spent))
    (present : poolTx table id = some tx) (inputs : tx.vin ≠ []) (keptByBlock : Bool) :
    insertKeyImages id keptByBlock tx.vin spent = (false, spent) := by
  have supported := (indexed.rows present).2.2
  obtain ⟨input, rest, split⟩ := List.exists_cons_of_ne_nil inputs
  rw [checkInputsTypesSupported, split, List.all_cons, Bool.and_eq_true] at supported
  obtain ⟨amount, keyOffsets, kImage, rfl⟩ := (TxinV.isToKey_iff input).mp supported.1
  have listed : id ∈ spenders spent kImage :=
    indexed.mem_spenders_iff.mpr ⟨tx, present, by simp [Transaction.keyImages, split]⟩
  rw [spenders] at listed
  rw [split]
  -- both checks stop the loop at the first key image
  simp only [insertKeyImages, listed, if_true, ite_self]

/-- A transaction already in the table leaves the map as it was: `insert_key_images`
stops at its first key image, or it has no inputs. -/
theorem KeyImagesIndexed.insertKeyImages_of_present {table : PoolTable} {spent : SpentKeyImages}
    {id : Hash} {tx : Transaction} (indexed : KeyImagesIndexed H known (table, spent))
    (present : poolTx table id = some tx) (keptByBlock : Bool) :
    (insertKeyImages id keptByBlock tx.vin spent).2 = spent := by
  cases inputs : tx.vin with
  | nil => rfl
  | cons input rest => rw [← inputs, indexed.insertKeyImages_refused present (by simp [inputs])]

/-! ## `add_tx` -/

theorem addTxpoolTx_of_lookup {table : PoolTable} {id : Hash} (fresh : table.lookup id = none)
    (txMeta : TxpoolTxMeta) (tx : Transaction) :
    addTxpoolTx table id txMeta tx = some (table.insert id (txMeta, tx)) := by
  simp [addTxpoolTx, fresh]

/-- A hash already in the table: `add_txpool_tx` throws and nothing is written. -/
theorem insertTx_of_lookup {s : TxMemoryPool} {id : Hash} {row : TxpoolTxMeta × Transaction}
    (found : s.table.lookup id = some row) (tx : Transaction) (txMeta : TxpoolTxMeta) :
    insertTx s tx id txMeta = (false, s) := by
  simp [insertTx, addTxpoolTx, found]

theorem index_insertTx_of_added {s : TxMemoryPool} {tx : Transaction} {id : Hash} {txMeta : TxpoolTxMeta}
    {table : PoolTable} (added : addTxpoolTx s.table id txMeta tx = some table) :
    index (insertTx s tx id txMeta).2 =
      (table, (insertKeyImages id txMeta.keptByBlock tx.vin s.spentKeyImages).2) := by
  rcases inserted : insertKeyImages id txMeta.keptByBlock tx.vin s.spentKeyImages with ⟨_ | _, spent⟩
  · simp [insertTx, added, inserted, index]
  · simp [insertTx, added, inserted, index]

theorem poolTx_markDoubleSpendSeen (table : PoolTable) (txid id : Hash) :
    poolTx (markDoubleSpendSeen table txid) id = poolTx table id := by
  unfold markDoubleSpendSeen
  split
  · rfl
  · rename_i txMeta tx found
    split
    · rfl
    · by_cases same : id = txid
      · subst same
        rw [poolTx_insert_self, poolTx_eq_some.mpr ⟨txMeta, found⟩]
      · exact poolTx_insert_ne _ same

/-- What marking one transaction keeps, `mark_double_spend` keeps. -/
theorem markDoubleSpend_keeps {α : Type} (v : PoolTable → α)
    (seen : ∀ table txid, v (markDoubleSpendSeen table txid) = v table) (spent : SpentKeyImages) :
    ∀ (vin : List TxinV) (table : PoolTable), v (markDoubleSpend spent vin table) = v table
  | [], _ => rfl
  | .toKey _ _ kImage :: rest, table => by
    rw [markDoubleSpend, markDoubleSpend_keeps v seen spent rest]
    -- each pool transaction spending the key image is marked in turn
    induction (spent.lookup kImage).getD [] generalizing table with
    | nil => rfl
    | cons txid txids inductionHypothesis =>
      rw [List.foldl_cons, inductionHypothesis, seen]
  | .gen _ :: _, _ => rfl
  | .toScript .. :: _, _ => rfl
  | .toScripthash .. :: _, _ => rfl

/-- `mark_double_spend` writes metas only. -/
theorem poolTx_markDoubleSpend (spent : SpentKeyImages) (vin : List TxinV) (table : PoolTable) (id : Hash) :
    poolTx (markDoubleSpend spent vin table) id = poolTx table id :=
  markDoubleSpend_keeps (fun table => poolTx table id) (fun table txid => poolTx_markDoubleSpendSeen table txid id)
    spent vin table

/-- Where `have_tx_keyimges_as_spent` finds nothing, no key image of the inputs has an
entry. -/
theorem lookup_of_haveTxKeyimgesAsSpent {spent : SpentKeyImages} :
    ∀ {vin : List TxinV}, haveTxKeyimgesAsSpent spent vin = false →
      ∀ kImage ∈ vin.filterMap TxinV.keyImage?, spent.lookup kImage = none
  | [], _ => by simp
  | .toKey _ _ kImage :: rest, unspent => by
    rw [haveTxKeyimgesAsSpent, Bool.or_eq_false_iff, Option.isSome_eq_false_iff, Option.isNone_iff_eq_none] at unspent
    simp only [List.filterMap_cons, TxinV.keyImage?_toKey, List.mem_cons, forall_eq_or_imp]
    exact ⟨unspent.1, lookup_of_haveTxKeyimgesAsSpent unspent.2⟩
  | .gen _ :: _, unspent => by cases unspent
  | .toScript .. :: _, unspent => by cases unspent
  | .toScripthash .. :: _, unspent => by cases unspent

theorem spenders_of_haveTxKeyimgesAsSpent {spent : SpentKeyImages} {tx : Transaction}
    (unspent : haveTxKeyimgesAsSpent spent tx.vin = false) :
    ∀ kImage ∈ tx.keyImages, spenders spent kImage = [] := by
  intro kImage spends
  simp [spenders, lookup_of_haveTxKeyimgesAsSpent unspent kImage spends]

/-- Where `add_tx` leaves the pool: as it was, with metas marked, or after an insertion
under the given hash, pruned where the insertion succeeded.  Only a transaction with
`txin_to_key` inputs is inserted, and one not kept by a block only where none of its key
images has an entry; the insertion for inputs the chain accepts removes the row under the
hash first. -/
theorem addTx_cases (env : PoolEnv) (s : TxMemoryPool) (tx : Transaction) (id : Hash) (txWeight : Nat)
    (keptByBlock relayed doNotRelay : Bool) (version now : Nat) :
    let after := (addTx env s tx id txWeight keptByBlock relayed doNotRelay version now).2
    after = s ∨ after = { s with table := markDoubleSpend s.spentKeyImages tx.vin s.table } ∨
      checkInputsTypesSupported tx = true ∧
        (keptByBlock = false → haveTxKeyimgesAsSpent s.spentKeyImages tx.vin = false) ∧
        ∃ txMeta : TxpoolTxMeta, txMeta.keptByBlock = keptByBlock ∧ ∃ inserted : Bool × TxMemoryPool,
          (inserted = insertTx s tx id txMeta ∨ inserted = insertTx { s with table := s.table.erase id } tx id txMeta) ∧
          after = if inserted.1 then
            prune { inserted.2 with txpoolWeight := Machine.wrapU64 (inserted.2.txpoolWeight + txWeight) }
              inserted.2.txpoolMaxWeight
          else inserted.2 := by
  intro after
  simp only [after]
  rw [addTx]
  split
  · exact .inl rfl
  split
  · exact .inl rfl
  split
  · exact .inl rfl
  rename_i supported
  split
  · exact .inl rfl
  split
  · exact .inl rfl
  split
  · exact .inl rfl
  split
  · exact .inr (.inl rfl)
  rename_i unspent
  split
  · exact .inl rfl
  extract_lets inserted
  -- the branches on the chain's check of the inputs
  have insertion : inserted = (false, s) ∨ ∃ txMeta : TxpoolTxMeta, txMeta.keptByBlock = keptByBlock ∧
      (inserted = insertTx s tx id txMeta ∨ inserted = insertTx { s with table := s.table.erase id } tx id txMeta) := by
    simp only [inserted]
    split
    · split
      · exact .inr ⟨_, rfl, .inl rfl⟩
      · exact .inl rfl
    · exact .inr ⟨_, rfl, .inr rfl⟩
  clear_value inserted
  rcases insertion with rfl | ⟨txMeta, kept, insertion⟩
  · exact .inl rfl
  · refine .inr (.inr ⟨by simpa using supported, fun notKept => by simpa [notKept] using unspent, txMeta, kept,
      inserted, insertion, ?_⟩)
    obtain ⟨_ | _, inserted⟩ := inserted <;> rfl

theorem keyImagesIndexed_insertTx (distinguished : Distinguished H known) {s : TxMemoryPool}
    {tx : Transaction} {txMeta : TxpoolTxMeta} (indexed : KeyImagesIndexed H known (index s))
    (member : tx ∈ known) (supported : checkInputsTypesSupported tx = true)
    (unspent : txMeta.keptByBlock = false → ∀ kImage ∈ tx.keyImages, spenders s.spentKeyImages kImage = []) :
    KeyImagesIndexed H known (index (insertTx s tx (H.txHash tx) txMeta).2) := by
  cases found : s.table.lookup (H.txHash tx) with
  | none =>
    have fresh : poolTx s.table (H.txHash tx) = none := by simp [poolTx, found]
    obtain ⟨spent', inserted, indexed'⟩ := indexed.insert distinguished fresh member supported unspent txMeta
    rw [index_insertTx_of_added (addTxpoolTx_of_lookup found txMeta tx), inserted]
    exact indexed'
  | some row =>
    rw [insertTx_of_lookup found]
    exact indexed

/-- The branch of `add_tx` for inputs the chain accepts removes the row under the hash
first: a transaction already in the pool gets a new meta and the map stays. -/
theorem keyImagesIndexed_insertTx_replacing (distinguished : Distinguished H known) {s : TxMemoryPool}
    {tx : Transaction} {txMeta : TxpoolTxMeta} (indexed : KeyImagesIndexed H known (index s))
    (member : tx ∈ known) (supported : checkInputsTypesSupported tx = true)
    (unspent : txMeta.keptByBlock = false → ∀ kImage ∈ tx.keyImages, spenders s.spentKeyImages kImage = []) :
    KeyImagesIndexed H known (index (insertTx { s with table := s.table.erase (H.txHash tx) } tx (H.txHash tx) txMeta).2) := by
  cases present : poolTx s.table (H.txHash tx) with
  | none =>
    -- nothing to replace: the erase leaves the table's transactions as they were
    have erased : KeyImagesIndexed H known (index { s with table := s.table.erase (H.txHash tx) }) :=
      indexed.congr (poolTx_erase_of_none present)
    exact keyImagesIndexed_insertTx distinguished erased member supported unspent
  | some held =>
    -- the same hash, so the same transaction: its row is rewritten and the map stays
    obtain ⟨heldMember, heldHash, -⟩ := indexed.rows present
    obtain rfl : held = tx := distinguished.hashes held heldMember tx member heldHash.symm
    rw [index_insertTx_of_added (s := { s with table := s.table.erase (H.txHash held) })
      (addTxpoolTx_of_lookup (AList.lookup_erase _ _) txMeta held)]
    dsimp only
    rw [indexed.insertKeyImages_of_present present]
    refine indexed.congr fun id => ?_
    by_cases same : id = H.txHash held
    · subst same
      rw [poolTx_insert_self, present]
    · rw [poolTx_insert_ne _ same, poolTx_erase_ne same]


theorem keyImagesIndexed_prune (distinguished : Distinguished H known) {s : TxMemoryPool}
    (indexed : KeyImagesIndexed H known (index s)) (bytes : Nat) :
    KeyImagesIndexed H known (index (prune s bytes)) :=
  invariant_of_reflTransGen (fun _ _ step before => before.takesOut distinguished step)
    (prune_takesOut s bytes) indexed

theorem keyImagesIndexed_takeTx (distinguished : Distinguished H known) {s : TxMemoryPool}
    (indexed : KeyImagesIndexed H known (index s)) (id : Hash) :
    KeyImagesIndexed H known (index (takeTx s id).2) :=
  invariant_of_reflTransGen (fun _ _ step before => before.takesOut distinguished step)
    (takeTx_takesOut s id) indexed

theorem keyImagesIndexed_removeStuckTransactions (distinguished : Distinguished H known) {s : TxMemoryPool}
    (indexed : KeyImagesIndexed H known (index s)) (now : Nat) :
    KeyImagesIndexed H known (index (removeStuckTransactions s now)) :=
  invariant_of_reflTransGen (fun _ _ step before => before.takesOut distinguished step)
    (removeStuckTransactions_takesOut s now) indexed

theorem keyImagesIndexed_validate (distinguished : Distinguished H known) (env : PoolEnv) {s : TxMemoryPool}
    (indexed : KeyImagesIndexed H known (index s)) (version : Nat) :
    KeyImagesIndexed H known (index (validate env s version).2) :=
  invariant_of_reflTransGen (fun _ _ step before => before.takesOut distinguished step)
    (validate_takesOut env s version) indexed

/-- `add_tx` keeps the index, whichever check stops it and however far its writes get. -/
theorem keyImagesIndexed_addTx (distinguished : Distinguished H known) (env : PoolEnv) {s : TxMemoryPool}
    {tx : Transaction} (indexed : KeyImagesIndexed H known (index s)) (member : tx ∈ known)
    (txWeight : Nat) (keptByBlock relayed doNotRelay : Bool) (version now : Nat) :
    KeyImagesIndexed H known
      (index (addTx env s tx (H.txHash tx) txWeight keptByBlock relayed doNotRelay version now).2) := by
  rcases addTx_cases env s tx (H.txHash tx) txWeight keptByBlock relayed doNotRelay version now with
    unchanged | marked | ⟨supported, unspent, txMeta, kept, inserted, insertion, after⟩
  · rw [unchanged]
    exact indexed
  · rw [marked]
    exact indexed.congr (poolTx_markDoubleSpend _ _ _)
  · have unspentSets : txMeta.keptByBlock = false → ∀ kImage ∈ tx.keyImages, spenders s.spentKeyImages kImage = [] :=
      fun notKept => spenders_of_haveTxKeyimgesAsSpent (unspent (kept ▸ notKept))
    -- each way to insert keeps the index; a failed one stops there
    have insertedIndexed : KeyImagesIndexed H known (index inserted.2) := by
      rcases insertion with rfl | rfl
      · exact keyImagesIndexed_insertTx distinguished indexed member supported unspentSets
      · exact keyImagesIndexed_insertTx_replacing distinguished indexed member supported unspentSets
    rw [after]
    split
    · -- the weight counter grows, then `prune` runs
      exact keyImagesIndexed_prune distinguished
        (s := { inserted.2 with txpoolWeight := Machine.wrapU64 (inserted.2.txpoolWeight + txWeight) })
        insertedIndexed _
    · exact insertedIndexed

end ElectroneumClassic.TxMemoryPool
