import ElectroneumClassic.Basic.Reward
import ElectroneumClassic.Basic.TransactionWeight
import Mathlib.Data.List.AList
import Mathlib.Data.Rat.Defs

/-!
# The transaction pool

`tx_memory_pool` keeps each transaction in the database's `txpool_meta` and
`txpool_blob` tables, and three indexes beside them: the running weight
`m_txpool_weight`, the map `m_spent_key_images` from a key image to the pool
transactions spending it, and the set `m_txs_by_fee_and_receive_time` ordered
by `txCompare`.

The tables are one association list from a hash to the meta and the
transaction, and a blob always parses back to its transaction.  A
`LockedTXN` commits what was written when an exception leaves its scope, so
a call that fails halfway keeps its earlier writes.  The checks `add_tx` asks
of the blockchain are the parameter `PoolEnv`, and the clock is an argument.

`m_txs_by_fee_and_receive_time` is a list in the order of the set: insertion
walks it with `txCompare` as the set's search does, and the loop of `prune`
walks it back from the end.
-/

namespace ElectroneumClassic

open Cryptonote Config Machine

/-- `txpool_tx_meta_t`: the fields the pool writes and reads. -/
structure TxpoolTxMeta where
  maxUsedBlockId : Hash
  maxUsedBlockHeight : Nat
  weight : Nat
  fee : Nat
  receiveTime : Nat
  lastRelayedTime : Nat
  keptByBlock : Bool
  relayed : Bool
  doNotRelay : Bool
  doubleSpendSeen : Bool
  deriving DecidableEq, Repr

/-- `tx_by_fee_and_receive_time_entry`: the fee per unit of weight and the
receive time, then the hash. -/
abbrev SortEntry := (ℚ × Nat) × Hash

/-- `txCompare`: the greater fee per unit of weight first, then the earlier
receive time, then any two different hashes. -/
def txCompare (a b : SortEntry) : Bool :=
  if a.1.1 > b.1.1 then true
  else if a.1.1 < b.1.1 then false
  else if a.1.2 < b.1.2 then true
  else if a.1.2 > b.1.2 then false
  else if a.2 ≠ b.2 then true
  else false

/-- Two entries with one key and different hashes each go before the other, so
the set's ordering is not a strict weak order. -/
theorem txCompare_both_ways {a b : SortEntry} (hkey : a.1 = b.1) (hhash : a.2 ≠ b.2) :
    txCompare a b = true ∧ txCompare b a = true := by
  obtain ⟨key, hashA⟩ := a
  obtain ⟨key', hashB⟩ := b
  dsimp only at hkey hhash
  subst hkey
  simp [txCompare, hhash, Ne.symm hhash]

/-- `sorted_tx_container::emplace`: the search of the ordered entries for the
first one the new entry goes before; an entry neither goes before nor after
is already there. -/
def emplace (entry : SortEntry) : List SortEntry → List SortEntry
  | [] => [entry]
  | other :: rest =>
    if txCompare entry other then entry :: other :: rest
    else if txCompare other entry then other :: emplace entry rest
    else other :: rest

/-- The `txpool_meta` and `txpool_blob` tables. -/
abbrev PoolTable := AList fun _ : Hash => TxpoolTxMeta × Transaction

/-- `m_spent_key_images`. -/
abbrev SpentKeyImages := AList fun _ : KeyImage => List Hash

/-- The members of a `tx_memory_pool` and its tables. -/
structure TxMemoryPool where
  table : PoolTable
  txpoolMaxWeight : Nat
  txpoolWeight : Nat
  spentKeyImages : SpentKeyImages
  txsByFeeAndReceiveTime : List SortEntry
  timedOutTransactions : List Hash

/-- What `add_tx` and `validate` ask of the blockchain. -/
structure PoolEnv where
  /-- `Blockchain::check_fee(tx_weight, fee)`. -/
  checkFee : Nat → Nat → Bool
  /-- `Blockchain::check_tx_outputs`. -/
  checkTxOutputs : Transaction → Bool
  /-- `check_tx_inputs` with `kept_by_block`: the height and hash of the
  highest block the inputs use, or `none` where they fail. -/
  checkTxInputs : Transaction → Bool → Option (Nat × Hash)
  /-- `Blockchain::have_tx`: the transaction is in the chain. -/
  haveTx : Hash → Bool
  /-- The size of the blob `txpool_blob` keeps for a transaction; the table keeps the
  transaction it parses to. -/
  txBlobSize : Transaction → Nat

namespace TxMemoryPool

/-! ## The database's pool tables -/

/-- `add_txpool_tx`; `none` where LMDB refuses a hash already there. -/
def addTxpoolTx (table : PoolTable) (id : Hash) (txMeta : TxpoolTxMeta) (tx : Transaction) : Option PoolTable :=
  if table.lookup id = none then some (table.insert id (txMeta, tx)) else none

/-- The sum of the weights in the table's metas. -/
def tableWeight (table : PoolTable) : Nat := (table.entries.map fun entry => entry.2.1.weight).sum

/-! ## The key images -/

/-- `insert_key_images`: the hash joins the set of each input's key image.  An
input that is not `txin_to_key`, a key image spent by another pool
transaction where the transaction was not kept by a block, or the hash
already in a set stops the loop, with the sets before it updated. -/
def insertKeyImages (id : Hash) (keptByBlock : Bool) : List TxinV → SpentKeyImages → Bool × SpentKeyImages
  | [], spent => (true, spent)
  | .toKey _ _ kImage :: rest, spent =>
    let keyImageSet := (spent.lookup kImage).getD []
    if !(keptByBlock || keyImageSet.isEmpty) then (false, spent)
    else if id ∈ keyImageSet then (false, spent)
    else insertKeyImages id keptByBlock rest (spent.insert kImage (keyImageSet ++ [id]))
  | _ :: _, spent => (false, spent)

/-- `remove_transaction_keyimages`: the hash leaves the set of each input's key
image, and an emptied set leaves the map.  A missing key image, an empty set or
the hash missing from the set stops the loop, with the sets before it
updated. -/
def removeTransactionKeyimages (actualHash : Hash) : List TxinV → SpentKeyImages → Bool × SpentKeyImages
  | [], spent => (true, spent)
  | .toKey _ _ kImage :: rest, spent =>
    match spent.lookup kImage with
    | none => (false, spent)
    | some keyImageSet =>
      if keyImageSet.isEmpty then (false, spent)
      else if actualHash ∉ keyImageSet then (false, spent)
      else
        let keyImageSet := keyImageSet.erase actualHash
        removeTransactionKeyimages actualHash rest
          (if keyImageSet.isEmpty then spent.erase kImage else spent.insert kImage keyImageSet)
  | _ :: _, spent => (false, spent)

/-- `have_tx_keyimges_as_spent`: some input's key image is spent in the pool;
an input that is not `txin_to_key` counts as spent. -/
def haveTxKeyimgesAsSpent (spent : SpentKeyImages) : List TxinV → Bool
  | [] => false
  | .toKey _ _ kImage :: rest => (spent.lookup kImage).isSome || haveTxKeyimgesAsSpent spent rest
  | _ :: _ => true

/-- The body of `mark_double_spend` for one pool transaction. -/
def markDoubleSpendSeen (table : PoolTable) (txid : Hash) : PoolTable :=
  match table.lookup txid with
  | none => table
  | some (txMeta, tx) => if txMeta.doubleSpendSeen then table else table.insert txid ({ txMeta with doubleSpendSeen := true }, tx)

/-- `mark_double_spend`: every pool transaction spending a key image of the
inputs is marked, up to the first input that is not `txin_to_key`. -/
def markDoubleSpend (spent : SpentKeyImages) : List TxinV → PoolTable → PoolTable
  | [], table => table
  | .toKey _ _ kImage :: rest, table =>
    markDoubleSpend spent rest (((spent.lookup kImage).getD []).foldl markDoubleSpendSeen table)
  | _ :: _, table => table

/-! ## `add_tx` -/

/-- `get_inputs_money_amount`: the `uint64_t` sum of the input amounts; `none`
where an input is not `txin_to_key`. -/
def getInputsMoneyAmount (tx : Transaction) : Option Nat :=
  tx.vin.foldl (fun money input => money.bind fun total =>
    match input with
    | .toKey amount _ _ => some (wrapU64 (total + amount))
    | _ => none) (some 0)

/-- The fee `add_tx` computes: the inputs less the outputs of a version 1
transaction, refused where the outputs reach the inputs; the RingCT fee of
any other. -/
def txFee (tx : Transaction) : Option Nat :=
  if tx.version = 1 then
    (getInputsMoneyAmount tx).bind fun inputsAmount =>
      let outputsAmount := getOutsMoneyAmount tx
      if outputsAmount > inputsAmount then none
      else if outputsAmount = inputsAmount then none
      else some (inputsAmount - outputsAmount)
  else some tx.rctSignatures.txnFee

/-- `get_transaction_weight_limit`: from version 8 half the minimum block
weight, less the coinbase reserve. -/
def getTransactionWeightLimit (version : Nat) : Nat :=
  if version ≥ 8 then getMinBlockWeight version / 2 - CRYPTONOTE_COINBASE_BLOB_RESERVED_SIZE
  else getMinBlockWeight version - CRYPTONOTE_COINBASE_BLOB_RESERVED_SIZE

/-- The writes both branches of `add_tx` make once the meta is built: the
table row, the key images, then the sorted entry. -/
def insertTx (s : TxMemoryPool) (tx : Transaction) (id : Hash) (txMeta : TxpoolTxMeta) : Bool × TxMemoryPool :=
  match addTxpoolTx s.table id txMeta tx with
  | none => (false, s)
  | some table =>
    match insertKeyImages id txMeta.keptByBlock tx.vin s.spentKeyImages with
    | (false, spent) => (false, { s with table, spentKeyImages := spent })
    | (true, spent) =>
      (true, { s with
        table
        spentKeyImages := spent
        txsByFeeAndReceiveTime :=
          emplace (((txMeta.fee : ℚ) / txMeta.weight, txMeta.receiveTime), id) s.txsByFeeAndReceiveTime })

/-- The loop of `prune` over the sorted entries from the last one back to, not
including, the first, while the weight is above the bound: a transaction not
kept by a block leaves the table, the key images and the sorted entries, and
the weight loses the entry's receive time. -/
def pruneLoop (bytes : Nat) : List SortEntry → TxMemoryPool → TxMemoryPool
  | [], s => s
  | entry :: rest, s =>
    if s.txpoolWeight ≤ bytes then s
    else
      match s.table.lookup entry.2 with
      | none => s
      | some (txMeta, tx) =>
        if txMeta.keptByBlock then pruneLoop bytes rest s
        else
          pruneLoop bytes rest { s with
            table := s.table.erase entry.2
            txpoolWeight := subU64 s.txpoolWeight entry.1.2
            spentKeyImages := (removeTransactionKeyimages entry.2 tx.vin s.spentKeyImages).2
            txsByFeeAndReceiveTime := s.txsByFeeAndReceiveTime.erase entry }

/-- `prune(bytes)`; `0` stands for the pool's maximum weight. -/
def prune (s : TxMemoryPool) (bytes : Nat) : TxMemoryPool :=
  pruneLoop (if bytes = 0 then s.txpoolMaxWeight else bytes) s.txsByFeeAndReceiveTime.reverse.dropLast s

/-- `add_tx(tx, id, tx_weight, tvc, kept_by_block, relayed, do_not_relay,
version)` at the time `now`. -/
def addTx (env : PoolEnv) (s : TxMemoryPool) (tx : Transaction) (id : Hash) (txWeight : Nat)
    (keptByBlock relayed doNotRelay : Bool) (version now : Nat) : Bool × TxMemoryPool :=
  if tx.version = 0 then (false, s)
  else if !keptByBlock && id ∈ s.timedOutTransactions then (false, s)
  else if !checkInputsTypesSupported tx then (false, s)
  else
    match txFee tx with
    | none => (false, s)
    | some fee =>
      if !keptByBlock && !env.checkFee txWeight fee then (false, s)
      else if (!keptByBlock || version ≥ HF_VERSION_PER_BYTE_FEE) && txWeight > getTransactionWeightLimit version then
        (false, s)
      else if !keptByBlock && haveTxKeyimgesAsSpent s.spentKeyImages tx.vin then
        (false, { s with table := markDoubleSpend s.spentKeyImages tx.vin s.table })
      else if !env.checkTxOutputs tx then (false, s)
      else
        let inserted :=
          match env.checkTxInputs tx keptByBlock with
          | none =>
            -- a transaction once in a block may become valid again: kept without its inputs checked
            if keptByBlock then
              insertTx s tx id ⟨nullHash, 0, txWeight, fee, now, now, keptByBlock, relayed, doNotRelay,
                haveTxKeyimgesAsSpent s.spentKeyImages tx.vin⟩
            else (false, s)
          | some (maxUsedBlockHeight, maxUsedBlockId) =>
            insertTx { s with table := s.table.erase id } tx id
              ⟨maxUsedBlockId, maxUsedBlockHeight, txWeight, fee, now, now, keptByBlock, relayed, doNotRelay, false⟩
        match inserted with
        | (false, s) => (false, s)
        | (true, s) => (true, prune { s with txpoolWeight := wrapU64 (s.txpoolWeight + txWeight) } s.txpoolMaxWeight)

/-! ## Taking and removing transactions -/

/-- `take_tx`: the transaction and its meta, which give the weight, the fee
and the relay flags; the pool loses it. -/
def takeTx (s : TxMemoryPool) (id : Hash) : Option (Transaction × TxpoolTxMeta) × TxMemoryPool :=
  match s.txsByFeeAndReceiveTime.find? (·.2 == id) with
  | none => (none, s)
  | some sortedEntry =>
    match s.table.lookup id with
    | none => (none, s)
    | some (txMeta, tx) =>
      (some (tx, txMeta), { s with
        table := s.table.erase id
        txpoolWeight := subU64 s.txpoolWeight txMeta.weight
        spentKeyImages := (removeTransactionKeyimages id tx.vin s.spentKeyImages).2
        txsByFeeAndReceiveTime := s.txsByFeeAndReceiveTime.erase sortedEntry })

/-- `erase(find_tx_in_sorted_container(txid))`, where found. -/
def eraseSorted (sorted : List SortEntry) (txid : Hash) : List SortEntry :=
  match sorted.find? (·.2 == txid) with
  | none => sorted
  | some entry => sorted.erase entry

/-- A transaction older than its lifetime, one week for one kept by a block
and three days otherwise; `time(nullptr) - receive_time` is unsigned. -/
def isStuck (now : Nat) (txMeta : TxpoolTxMeta) : Bool :=
  (subU64 now txMeta.receiveTime > CRYPTONOTE_MEMPOOL_TX_LIVETIME && !txMeta.keptByBlock) ||
    (subU64 now txMeta.receiveTime > CRYPTONOTE_MEMPOOL_TX_FROM_ALT_BLOCK_LIVETIME && txMeta.keptByBlock)

/-- `remove_stuck_transactions` at the time `now`: the stuck transactions lose
their sorted entries and are timed out while the table is walked, then each
leaves the table, the weight and the key images. -/
def removeStuckTransactions (s : TxMemoryPool) (now : Nat) : TxMemoryPool :=
  let remove := (s.table.entries.filter fun entry => isStuck now entry.2.1).map fun entry => (entry.1, entry.2.1.weight)
  let s := remove.foldl (fun s (txid, _) => { s with
    txsByFeeAndReceiveTime := eraseSorted s.txsByFeeAndReceiveTime txid
    timedOutTransactions := if txid ∈ s.timedOutTransactions then s.timedOutTransactions
      else s.timedOutTransactions ++ [txid] }) s
  remove.foldl (fun s (txid, weight) =>
    match s.table.lookup txid with
    | none => s
    | some (_, tx) => { s with
      table := s.table.erase txid
      txpoolWeight := subU64 s.txpoolWeight weight
      spentKeyImages := (removeTransactionKeyimages txid tx.vin s.spentKeyImages).2 }) s

/-- `validate(version)`: the weight is recounted from the metas, then every
transaction above the weight limit or already in the chain leaves the table,
the weight (by its recomputed weight), the key images and the sorted entries;
the number removed. -/
def validate (env : PoolEnv) (s : TxMemoryPool) (version : Nat) : Nat × TxMemoryPool :=
  let txWeightLimit := getTransactionWeightLimit version
  let s : TxMemoryPool :=
    { s with txpoolWeight := s.table.entries.foldl (fun total entry => wrapU64 (total + entry.2.1.weight)) 0 }
  let remove := (s.table.entries.filter fun entry =>
    entry.2.1.weight > txWeightLimit || env.haveTx entry.1).map (·.1)
  remove.foldl (fun ((removed, s) : Nat × TxMemoryPool) txid =>
    match s.table.lookup txid with
    | none => (removed, s)
    | some (_, tx) => (removed + 1, { s with
      table := s.table.erase txid
      -- the transaction was weighed from the same blob when it was added; the exception
      -- `get_transaction_weight` would throw after `remove_txpool_tx` is left out
      txpoolWeight := subU64 s.txpoolWeight ((getTransactionWeight tx (env.txBlobSize tx)).toOption.getD 0)
      spentKeyImages := (removeTransactionKeyimages txid tx.vin s.spentKeyImages).2
      txsByFeeAndReceiveTime := eraseSorted s.txsByFeeAndReceiveTime txid })) (0, s)

/-! ## `init` -/

/-- One pass of `init` over the table, for the transactions kept by a block or
for the others; a failed `insert_key_images` stops it. -/
def initPass (kept : Bool) : List (Σ _ : Hash, TxpoolTxMeta × Transaction) → TxMemoryPool → Bool × TxMemoryPool
  | [], s => (true, s)
  | entry :: rest, s =>
    if entry.2.1.keptByBlock ≠ kept then initPass kept rest s
    else
      match insertKeyImages entry.1 entry.2.1.keptByBlock entry.2.2.vin s.spentKeyImages with
      | (false, spent) => (false, { s with spentKeyImages := spent })
      | (true, spent) =>
        initPass kept rest { s with
          spentKeyImages := spent
          txsByFeeAndReceiveTime := emplace (((entry.2.1.fee : ℚ) / entry.2.1.weight, entry.2.1.receiveTime), entry.1)
            s.txsByFeeAndReceiveTime
          txpoolWeight := wrapU64 (s.txpoolWeight + entry.2.1.weight) }

/-- `init(max_txpool_weight)`: the indexes rebuilt from the table, first from
the transactions not kept by a block. -/
def init (s : TxMemoryPool) (maxTxpoolWeight : Nat) : Bool × TxMemoryPool :=
  let s := { s with
    txpoolMaxWeight := if maxTxpoolWeight = 0 then DEFAULT_TXPOOL_MAX_WEIGHT else maxTxpoolWeight
    txsByFeeAndReceiveTime := []
    spentKeyImages := ∅
    txpoolWeight := 0 }
  match initPass false s.table.entries s with
  | (false, s) => (false, s)
  | (true, s) => initPass true s.table.entries s

/-! ## \`prune\` and the weight counter -/

/-- Each sorted entry of a transaction in the table carries its receive time,
as \`insertTx\` and \`init\` write it. -/
def SortKeysMatch (s : TxMemoryPool) : Prop :=
  ∀ entry ∈ s.txsByFeeAndReceiveTime, ∀ row ∈ s.table.lookup entry.2, entry.1.2 = row.1.receiveTime

instance decidableSortKeysMatch (s : TxMemoryPool) : Decidable s.SortKeysMatch := by
  unfold SortKeysMatch; infer_instance

theorem weight_sum_kerase {entries : List (Σ _ : Hash, TxpoolTxMeta × Transaction)} {id : Hash}
    {txMeta : TxpoolTxMeta} {tx : Transaction} (hlookup : entries.dlookup id = some (txMeta, tx)) :
    ((entries.kerase id).map fun entry => entry.2.1.weight).sum + txMeta.weight =
      (entries.map fun entry => entry.2.1.weight).sum := by
  induction entries with
  | nil => simp at hlookup
  | cons entry rest ih =>
    by_cases hid : id = entry.1
    · obtain ⟨key, row⟩ := entry
      dsimp only at hid
      rw [hid, List.dlookup_cons_eq] at hlookup
      obtain rfl := Option.some.inj hlookup
      rw [List.kerase_cons_eq hid, List.map_cons, List.sum_cons, Nat.add_comm]
    · rw [List.dlookup_cons_ne _ _ hid] at hlookup
      rw [List.kerase_cons_ne hid, List.map_cons, List.sum_cons, List.map_cons, List.sum_cons,
        Nat.add_assoc, ih hlookup]

theorem tableWeight_erase {table : PoolTable} {id : Hash} {txMeta : TxpoolTxMeta} {tx : Transaction}
    (hlookup : table.lookup id = some (txMeta, tx)) :
    tableWeight (table.erase id) + txMeta.weight = tableWeight table :=
  weight_sum_kerase hlookup

/-- \`after\` is \`before\` less the rows \`pruned\`: each a row of \`before\` not kept by a
block, the table without them, the counter less their receive times and the table's
weight less their weights. -/
structure Prunes (before after : TxMemoryPool) (pruned : List (Hash × TxpoolTxMeta)) : Prop where
  nodup : (pruned.map Prod.fst).Nodup
  rows : ∀ row ∈ pruned, row.2.keptByBlock = false ∧ ∃ tx, before.table.lookup row.1 = some (row.2, tx)
  lookup : ∀ id, after.table.lookup id = if id ∈ pruned.map Prod.fst then none else before.table.lookup id
  counter : after.txpoolWeight = subU64 before.txpoolWeight (pruned.map fun row => row.2.receiveTime).sum
  weight : tableWeight after.table + (pruned.map fun row => row.2.weight).sum = tableWeight before.table

theorem Prunes.nil {s : TxMemoryPool} (hbound : s.txpoolWeight < 2 ^ 64) : Prunes s s [] where
  nodup := List.nodup_nil
  rows := by simp
  lookup := by simp
  counter := by
    rw [List.map_nil, List.sum_nil, subU64_of_le (Nat.zero_le _) hbound, Nat.sub_zero]
  weight := rfl

theorem Prunes.cons {s s' after : TxMemoryPool} {pruned : List (Hash × TxpoolTxMeta)} {id : Hash}
    {txMeta : TxpoolTxMeta} {tx : Transaction} (hlookup : s.table.lookup id = some (txMeta, tx))
    (hkept : txMeta.keptByBlock = false) (htable : s'.table = s.table.erase id)
    (hcounter : s'.txpoolWeight = subU64 s.txpoolWeight txMeta.receiveTime)
    (hrest : Prunes s' after pruned) : Prunes s after ((id, txMeta) :: pruned) where
  nodup := by
    refine List.nodup_cons.2 ⟨fun hmem => ?_, hrest.nodup⟩
    obtain ⟨row, hrow, rfl⟩ := List.mem_map.1 hmem
    obtain ⟨_, tx', hlookup'⟩ := hrest.rows row hrow
    rw [htable, AList.lookup_erase] at hlookup'
    cases hlookup'
  rows := by
    intro row hrow
    rcases List.mem_cons.1 hrow with rfl | hrow
    · exact ⟨hkept, tx, hlookup⟩
    · obtain ⟨hkept', tx', hlookup'⟩ := hrest.rows row hrow
      have hne : row.1 ≠ id := by
        rintro heq
        rw [htable, heq, AList.lookup_erase] at hlookup'
        cases hlookup'
      rw [htable, AList.lookup_erase_ne hne] at hlookup'
      exact ⟨hkept', tx', hlookup'⟩
  lookup := by
    intro key
    rw [hrest.lookup key, htable]
    by_cases hkey : key = id
    · subst hkey
      simp [AList.lookup_erase]
    · simp only [List.map_cons, List.mem_cons, hkey, false_or, AList.lookup_erase_ne hkey]
  counter := by
    rw [hrest.counter, hcounter, subU64_subU64, List.map_cons, List.sum_cons]
  weight := by
    rw [List.map_cons, List.sum_cons, Nat.add_left_comm, hrest.weight, htable, Nat.add_comm,
      tableWeight_erase hlookup]

/-- The sorted entries whose rows carry their receive times still do once a row
leaves the table. -/
theorem receiveTimes_erase {candidates : List SortEntry} {table : PoolTable} (id : Hash)
    (hkeys : ∀ entry ∈ candidates, ∀ row ∈ table.lookup entry.2, entry.1.2 = row.1.receiveTime) :
    ∀ entry ∈ candidates, ∀ row ∈ (table.erase id).lookup entry.2, entry.1.2 = row.1.receiveTime := by
  intro entry hentry row hrow
  by_cases hid : entry.2 = id
  · rw [hid, AList.lookup_erase] at hrow
    cases hrow
  · rw [AList.lookup_erase_ne hid] at hrow
    exact hkeys entry hentry row hrow

theorem pruneLoop_prunes (bytes : Nat) (candidates : List SortEntry) (s : TxMemoryPool)
    (hbound : s.txpoolWeight < 2 ^ 64)
    (hkeys : ∀ entry ∈ candidates, ∀ row ∈ s.table.lookup entry.2, entry.1.2 = row.1.receiveTime) :
    ∃ pruned, Prunes s (pruneLoop bytes candidates s) pruned := by
  induction candidates generalizing s with
  | nil => exact ⟨[], Prunes.nil hbound⟩
  | cons entry rest ih =>
    have hrest : ∀ other ∈ rest, ∀ row ∈ s.table.lookup other.2, other.1.2 = row.1.receiveTime :=
      fun other hother => hkeys other (List.mem_cons_of_mem _ hother)
    unfold pruneLoop
    split
    · exact ⟨[], Prunes.nil hbound⟩
    · split
      · exact ⟨[], Prunes.nil hbound⟩
      · rename_i txMeta tx hlookup
        split
        · exact ih s hbound hrest
        · rename_i hkept
          have hreceive : entry.1.2 = txMeta.receiveTime :=
            hkeys entry List.mem_cons_self (txMeta, tx) hlookup
          refine (ih _ (subU64_lt _ _) (receiveTimes_erase entry.2 hrest)).elim fun pruned hpruned =>
            ⟨_, Prunes.cons hlookup (by simpa using hkept) rfl ?_ hpruned⟩
          rw [hreceive]

/-- \`prune\` keeps the counter at the weight of the table exactly when the receive
times of the rows it removes add up to their weights modulo \`2 ^ 64\`. -/
theorem prune_counter_matches_table_iff (s : TxMemoryPool) (bytes : Nat) (hkeys : SortKeysMatch s)
    (hcounter : s.txpoolWeight = wrapU64 (tableWeight s.table)) :
    ∃ pruned, Prunes s (prune s bytes) pruned ∧
      ((prune s bytes).txpoolWeight = wrapU64 (tableWeight (prune s bytes).table) ↔
        wrapU64 (pruned.map fun row => row.2.receiveTime).sum =
          wrapU64 (pruned.map fun row => row.2.weight).sum) := by
  have hcandidates : ∀ entry ∈ s.txsByFeeAndReceiveTime.reverse.dropLast,
      ∀ row ∈ s.table.lookup entry.2, entry.1.2 = row.1.receiveTime :=
    fun entry hentry => hkeys entry (List.mem_reverse.1 (List.dropLast_subset _ hentry))
  obtain ⟨pruned, hpruned⟩ : ∃ pruned, Prunes s (prune s bytes) pruned :=
    pruneLoop_prunes _ _ s (hcounter ▸ wrapU64_lt _) hcandidates
  refine ⟨pruned, hpruned, ?_⟩
  have hweight := hpruned.weight
  have htable : tableWeight (prune s bytes).table =
      tableWeight s.table - (pruned.map fun row => row.2.weight).sum := by
    omega
  rw [hpruned.counter, hcounter, htable]
  exact subU64_wrapU64_eq_wrapU64_sub_iff (by omega)

/-- A transaction spending one key image with a RingCT fee. -/
def spendingTx (fee kImage : Nat) : Transaction :=
  { (default : Transaction) with
    version := 2
    vin := [TxinV.toKey 0 [] kImage]
    rctSignatures := { (default : Rct.RctSig) with txnFee := fee } }

/-- A pool limited to 150 holding two transactions of weight 100, one paying 1000
received at 1000 and one paying 10 received at 2000: the state \`add_tx\` hands
to \`prune\` after the second. -/
def crowdedPool : TxMemoryPool where
  table := AList.insert 2 (⟨nullHash, 0, 100, 10, 2000, 2000, false, false, false, false⟩, spendingTx 10 8)
    (AList.insert 1 (⟨nullHash, 0, 100, 1000, 1000, 1000, false, false, false, false⟩, spendingTx 1000 7) ∅)
  txpoolMaxWeight := 150
  txpoolWeight := 200
  spentKeyImages := AList.insert 8 [2] (AList.insert 7 [1] ∅)
  txsByFeeAndReceiveTime := [((10, 1000), 1), ((1 / 10, 2000), 2)]
  timedOutTransactions := []

/-- `prune` removes the transaction received at 2000 and takes its receive time off the
counter: the counter wraps to `2 ^ 64 - 1800` while the table weighs 100. -/
theorem crowded_pool_prune_drifts :
    SortKeysMatch crowdedPool ∧ crowdedPool.txpoolWeight = wrapU64 (tableWeight crowdedPool.table) ∧
      (prune crowdedPool 0).txpoolWeight = 2 ^ 64 - 1800 ∧ tableWeight (prune crowdedPool 0).table = 100 ∧
      ∃ pruned, Prunes crowdedPool (prune crowdedPool 0) pruned ∧
        ((prune crowdedPool 0).txpoolWeight = wrapU64 (tableWeight (prune crowdedPool 0).table) ↔
          wrapU64 (pruned.map fun row => row.2.receiveTime).sum =
            wrapU64 (pruned.map fun row => row.2.weight).sum) :=
  ⟨by decide +kernel, by decide +kernel, by decide +kernel, by decide +kernel,
    prune_counter_matches_table_iff crowdedPool 0 (by decide +kernel) (by decide +kernel)⟩

/-- The checks \`add_tx\` asks of the chain all passing, at weight 100. -/
def acceptingEnv : PoolEnv := ⟨fun _ _ => true, fun _ => true, fun _ _ => some (0, nullHash), fun _ => false, fun _ => 100⟩

example :
    let s := (init ⟨∅, 0, 0, ∅, [], []⟩ 150).2
    let s := (addTx acceptingEnv s (spendingTx 1000 7) 1 100 false false false 8 1000).2
    let s := addTx acceptingEnv s (spendingTx 10 8) 2 100 false false false 8 2000
    s.1 = true ∧ s.2.txpoolWeight = 2 ^ 64 - 1800 ∧ tableWeight s.2.table = 100 := by
  decide +kernel

end TxMemoryPool

end ElectroneumClassic
