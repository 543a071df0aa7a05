import ElectroneumClassic.Mining.BlockTemplate
import ElectroneumClassic.Lib.Containers

/-!
# What `fill_block_template` selects

From version 5 the loop of `fill_block_template` keeps four locals in step with
the transactions it takes: the weight, the fee, the best coinbase and the set of
key images.  A round that does not take its transaction changes none of them,
only the coinbase it computed and the meta it wrote back, so at the end the
weight and the fee are the sums over the pool's metas of the hashes taken, the
weight is within `max_total_weight`, and the expected reward is the reward for
that weight plus the fee, added in `uint64_t` (`Filling.Selects`).

`append_key_images` stops at an input that is not `txin_to_key` and at a key
image already in the set, and the loop does not look at its result.  A
transaction whose inputs are all `txin_to_key`, at least one, with distinct key
images (`KeyImagesAdmitted`, what `check_tx_semantic` and `insert_key_images`
let into the pool's sorted entries) adds all its key images; for such
transactions no two taken share a key image and no hash is taken twice.  That
the pools the daemon builds list only such transactions is shown over their
runs, in `Pool.Runs`.
-/

namespace ElectroneumClassic

open Cryptonote Config Machine

/-- What `check_tx_semantic` and `insert_key_images` let into the pool's sorted
entries: inputs that are all `txin_to_key`, at least one, with distinct key
images. -/
def KeyImagesAdmitted (tx : Transaction) : Prop :=
  checkInputsTypesSupported tx = true ∧ tx.vin ≠ [] ∧ tx.keyImages.Nodup

instance : DecidablePred KeyImagesAdmitted := fun _ => inferInstanceAs (Decidable (_ ∧ _ ∧ _))

/-- The key images of a pool transaction; none for a hash not in the pool. -/
def poolKeyImages (table : PoolTable) (txid : Hash) : List KeyImage :=
  ((table.lookup txid).map (·.2.keyImages)).getD []

theorem poolKeyImages_of_lookup {table : PoolTable} {txid : Hash} {txMeta : TxpoolTxMeta} {tx : Transaction}
    (found : table.lookup txid = some (txMeta, tx)) : poolKeyImages table txid = tx.keyImages := by
  simp [poolKeyImages, found]

theorem isSome_of_poolKeyImages_ne_nil {table : PoolTable} {txid : Hash} (spends : poolKeyImages table txid ≠ []) :
    (table.lookup txid).isSome := by
  cases found : table.lookup txid with
  | none => simp [poolKeyImages, found] at spends
  | some row => rfl

theorem KeyImagesAdmitted.keyImages_ne_nil {tx : Transaction} (admitted : KeyImagesAdmitted tx) :
    tx.keyImages ≠ [] := by
  obtain ⟨supported, inputs, -⟩ := admitted
  obtain ⟨input, rest, split⟩ := List.exists_cons_of_ne_nil inputs
  unfold checkInputsTypesSupported at supported
  rw [split, List.all_cons, Bool.and_eq_true] at supported
  obtain ⟨amount, keyOffsets, kImage, rfl⟩ := (TxinV.isToKey_iff input).1 supported.1
  simp [Transaction.keyImages, split]

/-! ## The set of key images -/

section KeyImages

variable {kImages : List KeyImage} {vin : List TxinV}

/-- On inputs that are all `txin_to_key`, `have_key_images` looks for each of
their key images in the set. -/
theorem haveKeyImages_eq_false_iff (supported : vin.all TxinV.isToKey = true) :
    haveKeyImages kImages vin = false ↔ ∀ kImage ∈ vin.filterMap TxinV.keyImage?, kImage ∉ kImages := by
  induction vin with
  | nil => simp [haveKeyImages]
  | cons input rest inductionHypothesis =>
    rw [List.all_cons, Bool.and_eq_true] at supported
    obtain ⟨amount, keyOffsets, kImage, rfl⟩ := (TxinV.isToKey_iff input).1 supported.1
    simp [haveKeyImages, inductionHypothesis supported.2]

/-- Inputs that are all `txin_to_key`, with distinct key images none of which
is in the set, add all their key images to it. -/
theorem appendKeyImages_eq (supported : vin.all TxinV.isToKey = true)
    (fresh : ∀ kImage ∈ vin.filterMap TxinV.keyImage?, kImage ∉ kImages)
    (distinct : (vin.filterMap TxinV.keyImage?).Nodup) :
    appendKeyImages kImages vin = kImages ++ vin.filterMap TxinV.keyImage? := by
  induction vin generalizing kImages with
  | nil => simp [appendKeyImages]
  | cons input rest inductionHypothesis =>
    rw [List.all_cons, Bool.and_eq_true] at supported
    obtain ⟨amount, keyOffsets, kImage, rfl⟩ := (TxinV.isToKey_iff input).1 supported.1
    simp only [List.filterMap_cons, TxinV.keyImage?_toKey, List.mem_cons, forall_eq_or_imp,
      List.nodup_cons] at fresh distinct
    -- the later images are new to the set grown by this one
    have later : ∀ other ∈ rest.filterMap TxinV.keyImage?, other ∉ kImages ++ [kImage] := by
      intro other member
      rw [List.mem_append, List.mem_singleton, not_or]
      exact ⟨fresh.2 other member, fun same => distinct.1 (same ▸ member)⟩
    simp only [appendKeyImages, if_neg fresh.1, inductionHypothesis supported.2 later distinct.2,
      List.filterMap_cons, TxinV.keyImage?_toKey, List.append_assoc, List.singleton_append]

end KeyImages

/-! ## The rows the loop writes back -/

/-- Every row of `table'` is a row of `table` with the same weight, fee and
transaction. -/
def RowsKept (table table' : PoolTable) : Prop :=
  ∀ txid txMeta tx, table'.lookup txid = some (txMeta, tx) →
    ∃ txMeta₀ : TxpoolTxMeta, table.lookup txid = some (txMeta₀, tx) ∧ txMeta₀.weight = txMeta.weight ∧
      txMeta₀.fee = txMeta.fee

theorem RowsKept.refl (table : PoolTable) : RowsKept table table :=
  fun _ txMeta _ found => ⟨txMeta, found, rfl, rfl⟩

theorem RowsKept.writeBackMeta {table table' : PoolTable} (kept : RowsKept table table') {txid : Hash}
    {txMeta updated : TxpoolTxMeta} {tx : Transaction} (found : table'.lookup txid = some (txMeta, tx))
    (sameWeight : updated.weight = txMeta.weight) (sameFee : updated.fee = txMeta.fee) :
    RowsKept table (ElectroneumClassic.writeBackMeta table' txid txMeta updated tx) := by
  intro other otherMeta otherTx written
  unfold ElectroneumClassic.writeBackMeta at written
  split at written
  · by_cases same : other = txid
    · subst same
      rw [AList.lookup_insert, Option.some.injEq, Prod.mk.injEq] at written
      obtain ⟨rfl, rfl⟩ := written
      obtain ⟨txMeta₀, row, weight, fee⟩ := kept _ _ _ found
      exact ⟨txMeta₀, row, weight.trans sameWeight.symm, fee.trans sameFee.symm⟩
    · rw [AList.lookup_insert_ne same] at written
      exact kept _ _ _ written
  · exact kept _ _ _ written

/-- The reward of an empty block exists: a block of weight `0` is never over
twice the median. -/
theorem getBlockReward_empty (medianWeight alreadyGeneratedCoins version : Nat) :
    ∃ reward, getBlockReward medianWeight 0 alreadyGeneratedCoins version = some reward := by
  unfold getBlockReward
  dsimp only
  split_ifs
  all_goals first
    | exact ⟨_, rfl⟩
    | omega

/-! ## The loop from version 5 -/

namespace Filling

variable {s : TxMemoryPool} {medianWeight alreadyGeneratedCoins version maxTotalWeight : Nat}

/-- What the loop keeps from version 5, against the pool `s` it started from:
its rows, the hashes taken among the sorted entries, the weight and the fee as
the sums over the metas of those hashes in `size_t` and `uint64_t`, the weight
within the limit, the best
coinbase as the reward for that weight plus the fee, and the set of key images
as the distinct images of the transactions taken, each spending at least one. -/
structure Selects (s : TxMemoryPool) (medianWeight alreadyGeneratedCoins version maxTotalWeight : Nat)
    (f : Filling) : Prop where
  rowsKept : RowsKept s.table f.table
  listed : ∀ txid ∈ f.txHashes, ∃ entry ∈ s.txsByFeeAndReceiveTime, entry.2 = txid
  weight : f.totalWeight = wrapU64 (f.txHashes.map (metaWeight s.table)).sum
  withinLimit : f.totalWeight ≤ maxTotalWeight
  fee : f.fee = wrapU64 (f.txHashes.map (metaFee s.table)).sum
  rewarded : ∃ reward, getBlockReward medianWeight f.totalWeight alreadyGeneratedCoins version = some reward ∧
    f.bestCoinbase = wrapU64 (reward + f.fee)
  kImages : f.kImages = f.txHashes.flatMap (poolKeyImages s.table)
  distinct : f.kImages.Nodup
  spends : ∀ txid ∈ f.txHashes, poolKeyImages s.table txid ≠ []

/-- The locals `fill_block_template` starts its loop with. -/
theorem selects_start (s : TxMemoryPool) (medianWeight alreadyGeneratedCoins version maxTotalWeight : Nat) :
    (⟨[], 0, 0, (getBlockReward medianWeight 0 alreadyGeneratedCoins version).getD 0, 0, [], s.table⟩ :
      Filling).Selects s medianWeight alreadyGeneratedCoins version maxTotalWeight := by
  obtain ⟨reward, rewarded⟩ := getBlockReward_empty medianWeight alreadyGeneratedCoins version
  refine ⟨RowsKept.refl s.table, by simp, rfl, Nat.zero_le _, rfl, ⟨reward, rewarded, ?_⟩, rfl, List.nodup_nil,
    by simp⟩
  rw [rewarded, Option.getD_some, Nat.add_zero, wrapU64_of_lt (getBlockReward_lt rewarded)]

theorem Selects.with_coinbase {f : Filling} (selects : f.Selects s medianWeight alreadyGeneratedCoins version maxTotalWeight)
    (coinbase : Nat) :
    ({ f with coinbase } : Filling).Selects s medianWeight alreadyGeneratedCoins version maxTotalWeight :=
  ⟨selects.rowsKept, selects.listed, selects.weight, selects.withinLimit, selects.fee, selects.rewarded,
    selects.kImages, selects.distinct, selects.spends⟩

theorem Selects.with_table {f : Filling} (selects : f.Selects s medianWeight alreadyGeneratedCoins version maxTotalWeight)
    {table : PoolTable} (rowsKept : RowsKept s.table table) :
    ({ f with table } : Filling).Selects s medianWeight alreadyGeneratedCoins version maxTotalWeight :=
  ⟨rowsKept, selects.listed, selects.weight, selects.withinLimit, selects.fee, selects.rewarded,
    selects.kImages, selects.distinct, selects.spends⟩

/-- Taking a listed transaction whose key images are new to the block, with
the coinbase computed for the new weight as the best. -/
theorem Selects.take {f : Filling} (selects : f.Selects s medianWeight alreadyGeneratedCoins version maxTotalWeight)
    {txid : Hash} {txMeta : TxpoolTxMeta} {tx : Transaction} {blockReward : Nat}
    (found : f.table.lookup txid = some (txMeta, tx))
    (listedTxid : ∃ entry ∈ s.txsByFeeAndReceiveTime, entry.2 = txid) (admitted : KeyImagesAdmitted tx)
    (fits : wrapU64 (f.totalWeight + txMeta.weight) ≤ maxTotalWeight)
    (rewarded : getBlockReward medianWeight (wrapU64 (f.totalWeight + txMeta.weight)) alreadyGeneratedCoins version =
      some blockReward)
    (fresh : haveKeyImages f.kImages tx.vin = false) {table : PoolTable} (rowsKept : RowsKept s.table table) :
    ({ f with
      table
      txHashes := f.txHashes ++ [txid]
      totalWeight := wrapU64 (f.totalWeight + txMeta.weight)
      fee := wrapU64 (f.fee + txMeta.fee)
      bestCoinbase := wrapU64 (blockReward + f.fee + txMeta.fee)
      kImages := appendKeyImages f.kImages tx.vin } : Filling).Selects s medianWeight alreadyGeneratedCoins version
        maxTotalWeight := by
  obtain ⟨txMeta₀, row, sameWeight, sameFee⟩ := selects.rowsKept _ _ _ found
  have spends := admitted.keyImages_ne_nil
  obtain ⟨supported, -, distinct⟩ := admitted
  have freshImages := (haveKeyImages_eq_false_iff supported).1 fresh
  have appended : appendKeyImages f.kImages tx.vin = f.kImages ++ tx.keyImages :=
    appendKeyImages_eq supported freshImages distinct
  have keyImages : poolKeyImages s.table txid = tx.keyImages := poolKeyImages_of_lookup row
  constructor
  · exact rowsKept
  · intro other member
    rcases List.mem_append.1 member with earlier | latest
    · exact selects.listed other earlier
    · rw [List.mem_singleton.1 latest]
      exact listedTxid
  · rw [List.map_append, List.sum_append, List.map_singleton, List.sum_singleton, metaWeight_of_lookup row,
      sameWeight, selects.weight]
    unfold wrapU64
    rw [Nat.mod_add_mod]
  · exact fits
  · rw [List.map_append, List.sum_append, List.map_singleton, List.sum_singleton, metaFee_of_lookup row, sameFee,
      selects.fee]
    unfold wrapU64
    rw [Nat.mod_add_mod]
  · -- the coinbase added the fee before it wrapped; the fee wraps on its own
    refine ⟨blockReward, rewarded, ?_⟩
    unfold wrapU64
    rw [Nat.add_mod_mod, Nat.add_assoc]
  · rw [appended, selects.kImages, List.flatMap_append, List.flatMap_singleton, keyImages]
  · rw [appended, List.nodup_append]
    exact ⟨selects.distinct, distinct, fun image earlier other latest same => freshImages other latest (same ▸ earlier)⟩
  · intro other member
    rcases List.mem_append.1 member with earlier | latest
    · exact selects.spends other earlier
    · rw [List.mem_singleton.1 latest, keyImages]
      exact spends

/-- One round of the loop from version 5 on a listed entry whose transaction
was admitted keeps the invariant. -/
theorem Selects.fillStep {f f' : Filling}
    (selects : f.Selects s medianWeight alreadyGeneratedCoins version maxTotalWeight) (env : MinerEnv)
    (recent : 5 ≤ version) {entry : SortEntry} (listedEntry : entry ∈ s.txsByFeeAndReceiveTime)
    (admitted : ∀ row ∈ s.table.lookup entry.2, KeyImagesAdmitted row.2)
    (stepped : ElectroneumClassic.fillStep env medianWeight alreadyGeneratedCoins version maxTotalWeight entry f =
      some f') :
    f'.Selects s medianWeight alreadyGeneratedCoins version maxTotalWeight := by
  rcases fillStep_cases stepped with
    rfl | ⟨txMeta, tx, found, fits, ⟨-, blockReward, rewarded, rfl | ⟨-, rfl⟩⟩ | ⟨old, -, -⟩⟩
  · exact selects
  · exact selects.with_coinbase _
  · obtain ⟨txMeta₀, row, -, -⟩ := selects.rowsKept _ _ _ found
    obtain ⟨updated, sameWeight, sameFee, skipped | ⟨fresh, taken⟩⟩ :=
      addIfReady_cases env entry.2 txMeta tx { f with coinbase := wrapU64 (blockReward + f.fee + txMeta.fee) }
    · rw [skipped]
      exact (selects.with_coinbase _).with_table (selects.rowsKept.writeBackMeta found sameWeight sameFee)
    · rw [taken]
      exact (selects.with_coinbase (wrapU64 (blockReward + f.fee + txMeta.fee))).take found ⟨entry, listedEntry, rfl⟩
        (admitted (txMeta₀, tx) row) fits rewarded fresh (selects.rowsKept.writeBackMeta found sameWeight sameFee)
  · exact absurd recent (Nat.not_le.2 old)

theorem Selects.fillLoop (env : MinerEnv) (recent : 5 ≤ version)
    (admitted : ∀ entry ∈ s.txsByFeeAndReceiveTime, ∀ row ∈ s.table.lookup entry.2, KeyImagesAdmitted row.2) :
    ∀ (entries : List SortEntry) (f : Filling), (∀ entry ∈ entries, entry ∈ s.txsByFeeAndReceiveTime) →
      f.Selects s medianWeight alreadyGeneratedCoins version maxTotalWeight →
      (ElectroneumClassic.fillLoop env medianWeight alreadyGeneratedCoins version maxTotalWeight entries f).Selects
        s medianWeight alreadyGeneratedCoins version maxTotalWeight
  | [], _, _, selects => selects
  | entry :: rest, f, walked, selects => by
    have listedEntry := walked entry List.mem_cons_self
    unfold ElectroneumClassic.fillLoop
    split
    · exact selects
    · rename_i f' stepped
      exact Selects.fillLoop env recent admitted rest f' (fun other member => walked other (List.mem_cons_of_mem _ member))
        (selects.fillStep env recent listedEntry (admitted entry listedEntry) stepped)

end Filling

/-- From version 5, on a pool whose sorted entries name admitted transactions,
`fill_block_template` takes distinct listed hashes of the pool whose
transactions share no key image, with the weight and the fee the sums of their
metas in `size_t` and `uint64_t`, the weight within
`2 * median_weight - CRYPTONOTE_COINBASE_BLOB_RESERVED_SIZE` in `size_t`, and the
expected reward the reward for the final weight plus the fee in `uint64_t`. -/
theorem fill_block_template_selects (env : MinerEnv) (s : TxMemoryPool) (medianWeight alreadyGeneratedCoins version : Nat)
    (recent : 5 ≤ version)
    (admitted : ∀ entry ∈ s.txsByFeeAndReceiveTime, ∀ row ∈ s.table.lookup entry.2, KeyImagesAdmitted row.2) :
    let filled := fillBlockTemplate env s medianWeight alreadyGeneratedCoins version
    filled.txHashes.Nodup ∧
      (∀ txid ∈ filled.txHashes, (∃ entry ∈ s.txsByFeeAndReceiveTime, entry.2 = txid) ∧ (s.table.lookup txid).isSome) ∧
      filled.txHashes.Pairwise (fun txid other => (poolKeyImages s.table txid).Disjoint (poolKeyImages s.table other)) ∧
      filled.totalWeight = wrapU64 (filled.txHashes.map (metaWeight s.table)).sum ∧
      filled.totalWeight ≤ subU64 (wrapU64 (2 * medianWeight)) CRYPTONOTE_COINBASE_BLOB_RESERVED_SIZE ∧
      filled.fee = wrapU64 (filled.txHashes.map (metaFee s.table)).sum ∧
      ∃ reward, getBlockReward medianWeight filled.totalWeight alreadyGeneratedCoins version = some reward ∧
        filled.bestCoinbase = wrapU64 (reward + filled.fee) := by
  intro filled
  have selects : filled.Selects s medianWeight alreadyGeneratedCoins version
      (subU64 (wrapU64 (2 * medianWeight)) CRYPTONOTE_COINBASE_BLOB_RESERVED_SIZE) := by
    simp only [filled, fillBlockTemplate, if_pos recent]
    exact Filling.Selects.fillLoop env recent admitted _ _ (fun _ member => member) (Filling.selects_start _ _ _ _ _)
  -- the set of key images is the images of the hashes taken, one after another, without a repeat
  have disjoint := (List.nodup_flatMap.1 (selects.kImages ▸ selects.distinct)).2
  refine ⟨Containers.nodup_of_pairwise_disjoint disjoint selects.spends, ?_, disjoint, selects.weight,
    selects.withinLimit, selects.fee, selects.rewarded⟩
  intro txid member
  exact ⟨selects.listed txid member, isSome_of_poolKeyImages_ne_nil (selects.spends txid member)⟩

example :
    (fillBlockTemplate sampleMinerEnv feePool 300000 premine 5).txHashes.Nodup := by
  have admitted : ∀ entry ∈ feePool.txsByFeeAndReceiveTime, ∀ row ∈ feePool.table.lookup entry.2,
      KeyImagesAdmitted row.2 := by decide +kernel
  exact (fill_block_template_selects sampleMinerEnv feePool 300000 premine 5 le_rfl admitted).1

end ElectroneumClassic
