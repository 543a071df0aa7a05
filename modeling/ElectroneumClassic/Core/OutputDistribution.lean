import ElectroneumClassic.Db.Undo

/-!
# The RingCT output distribution

`Blockchain::get_output_distribution` for amount 0 reads the cumulative count
of RingCT outputs `BlockchainLMDB::add_block` stores with each block
(`bi_cum_rct`), from the height at which the network's RingCT outputs begin,
which it takes from the fourth entry of the network's hard-fork table.  Only
the stagenet table has a fourth entry: the mainnet table has three and the
testnet table two, and there the source reads past the end of the array
(`.outOfBounds` here).

`add_block` counts a block's RingCT outputs as the outputs of a version-2
miner transaction and the zero-amount outputs of the others; for the blocks
`Blockchain` passes it these are the outputs `add_transaction` stores under
amount 0.  The stored count accumulates only over blocks of major version 4
and up, so it counts every amount-0 output so far as long as no block below
version 4 comes after one (`RctCounted`).
-/

namespace ElectroneumClassic

open Cryptonote BlockchainDB Effects

/-- `network_type`. -/
inductive NetworkType where
  | mainnet
  | testnet
  | stagenet
  | fakechain
  | undefined
  deriving DecidableEq, Repr

/-- An entry of the hard-fork tables of `blockchain.cpp`. -/
structure HardForkEntry where
  version : Nat
  height : Nat
  threshold : Nat
  time : Nat
  deriving DecidableEq, Repr

def mainnetHardForks : List HardForkEntry :=
  [⟨1, 1, 0, 1341378000⟩, ⟨6, 2, 0, 1530759847⟩, ⟨9, 146500, 0, 1535889548⟩]

def testnetHardForks : List HardForkEntry :=
  [⟨1, 1, 0, 1341378000⟩, ⟨6, 2, 0, 1530759847⟩]

def stagenetHardForks : List HardForkEntry :=
  [⟨1, 1, 0, 1341378000⟩, ⟨2, 32000, 0, 1521000000⟩, ⟨3, 33000, 0, 1521120000⟩, ⟨4, 34000, 0, 1521240000⟩,
    ⟨5, 35000, 0, 1521360000⟩, ⟨6, 36000, 0, 1521480000⟩, ⟨7, 37000, 0, 1521600000⟩,
    ⟨8, 176456, 0, 1537821770⟩, ⟨9, 177176, 0, 1537821771⟩]

/-- The hard-fork table of a network; none for the fake chain. -/
def hardForkTable : NetworkType → Option (List HardForkEntry)
  | .mainnet => some mainnetHardForks
  | .testnet => some testnetHardForks
  | .stagenet => some stagenetHardForks
  | _ => none

/-- Why `get_output_distribution` gives no distribution: it returns `false`,
the database throws, or it reads past the end of a hard-fork table. -/
inductive DistributionError where
  | refused
  | db (e : DbError)
  | outOfBounds
  deriving DecidableEq, Repr

namespace BlockchainDB

/-- `get_block_cumulative_rct_outputs`: `BLOCK_DNE` for a height not stored. -/
def Db.getBlockCumulativeRctOutputs (db : Db) (heights : List Nat) : Except DbError (List Nat) :=
  if heights.all (· < db.height) then .ok (heights.map fun height => (db.blockAt height).elim 0 (·.cumRct))
  else .error .blockDne

/-- The scan of `BlockchainLMDB::get_output_distribution` over the outputs of
one amount in amount-index order: a count per height from `fromHeight`, the
outputs below it counted apart, stopping after the first output above a
nonzero `toHeight`. -/
def outputDistributionLoop (fromHeight toHeight : Nat) : List OutputRecord → List Nat × Nat → List Nat × Nat
  | [], counted => counted
  | output :: rest, (distribution, base) =>
    let counted := if output.height ≥ fromHeight
      then (distribution.modify (output.height - fromHeight) (· + 1), base)
      else (distribution, base + 1)
    if toHeight > 0 ∧ output.height > toHeight then counted
    else outputDistributionLoop fromHeight toHeight rest counted

/-- `BlockchainLMDB::get_output_distribution`: the counts per height, the
outputs below `fromHeight` added to the first, summed up; `none` where it
returns `false`. -/
def Db.getOutputDistribution (db : Db) (amount fromHeight toHeight : Nat) : Option (List Nat × Nat) :=
  if fromHeight ≥ db.height then none
  else
    let (distribution, base) := outputDistributionLoop fromHeight toHeight
      (db.outputs.filter (·.amount == amount)) (List.replicate (db.height - fromHeight) 0, 0)
    let distribution := distribution.modify 0 (· + base)
    some ((distribution.scanl (· + ·) 0).tail, 0)

end BlockchainDB

/-- The start height of amount-0 distributions: `hard_forks[3].height` of the
network's table. -/
def rctStartHeight (nettype : NetworkType) : Except DistributionError Nat :=
  match hardForkTable nettype with
  | none => .error .refused
  | some table =>
    match table[3]? with
    | some entry => .ok entry.height
    -- the source reads past the end of the table
    | none => .error .outOfBounds

/-- The first height `get_output_distribution` considers: RingCT outputs do
not exist before their start height. -/
def distributionStart (nettype : NetworkType) (amount : Nat) : Except DistributionError Nat :=
  if amount = 0 then rctStartHeight nettype else .ok 0

/-- `Blockchain::get_output_distribution`: the start height, the cumulative
counts from it to `toHeight` (to the top for `0`), and the base. -/
def getOutputDistribution (nettype : NetworkType) (db : Db) (amount fromHeight toHeight : Nat) :
    Except DistributionError (Nat × List Nat × Nat) := do
  let startHeight ← distributionStart nettype amount
  if toHeight > 0 ∧ toHeight < fromHeight then throw .refused
  let startHeight := if fromHeight > startHeight then fromHeight else startHeight
  let dbHeight := db.height
  if dbHeight = 0 then throw .refused
  let toHeight := if toHeight = 0 then dbHeight - 1 else toHeight
  if startHeight ≥ dbHeight ∨ toHeight ≥ dbHeight then throw .refused
  if amount = 0 then
    match db.getBlockCumulativeRctOutputs (List.range' startHeight (toHeight + 1 - startHeight)) with
    | .ok distribution => pure (startHeight, distribution, 0)
    | .error e => throw (.db e)
  else
    match db.getOutputDistribution amount startHeight toHeight with
    | some (distribution, base) => pure (startHeight, distribution, base)
    | none => throw .refused

/-! ## The distribution counted from the RingCT activation height -/

/-- The amount-0 outputs of the blocks up to `height`. -/
def BlockchainDB.Db.zeroOutputsUpTo (db : Db) (height : Nat) : Nat :=
  db.outputs.countP fun output => output.amount == 0 && decide (output.height ≤ height)

/-- The height at which a network's RingCT outputs begin: that of the first
entry of its hard-fork table at version 4 or up. -/
def rctActivationHeight (nettype : NetworkType) : Nat :=
  (((hardForkTable nettype).bind fun table => table.find? (4 ≤ ·.version)).map (·.height)).getD 0

/-- The distribution of amount-0 outputs from `max fromHeight H` to
`toHeight`, `H` the network's activation height. -/
def rctDistributionFromActivation (nettype : NetworkType) (db : Db) (fromHeight toHeight : Nat) : Nat × List Nat × Nat :=
  let start := max fromHeight (rctActivationHeight nettype)
  (start, (List.range (toHeight + 1 - start)).map fun i => db.zeroOutputsUpTo (start + i), 0)

/-! ## The RingCT outputs `add_block` counts -/

namespace BlockchainDB

/-- What `add_transaction` writes to the output table for a transaction whose
inputs it stores: its outputs at the height of the block being added, all
under amount 0 for a v2 transaction with a `txin_gen` input; below version 2
no output may have amount 0 otherwise. -/
theorem addTransaction_outputs {H : Hashing} {tx : Transaction} {txHash? : Option Hash} {db db' : Db}
    {u : Unit} (storable : ∀ input ∈ tx.vin, storableInput input)
    (ran : (addTransaction H tx txHash?).run db = .ok u db') :
    ∃ added : List OutputRecord, db'.outputs = db.outputs ++ added ∧ db'.blocks = db.blocks ∧
      db'.batchActive = db.batchActive ∧ (∀ output ∈ added, output.height = db.height) ∧
      added.countP (·.amount == 0) =
        (if tx.vin.any TxinV.isGen = true ∧ tx.version = 2 then tx.vout.length
          else tx.vout.countP (·.amount == 0)) ∧
      (¬(tx.vin.any TxinV.isGen = true ∧ tx.version = 2) → tx.version ≤ 1 →
        tx.vout.countP (·.amount == 0) = 0) := by
  unfold addTransaction at ran
  obtain ⟨result, spending, inputs, ran⟩ := run_bind_ok ran
  obtain ⟨rfl, -, rfl⟩ := addInputs_run tx tx.vin false storable inputs
  obtain ⟨txId, written, data, ran⟩ := run_bind_ok ran
  obtain ⟨-, rfl, record, -, -, -, rfl⟩ := addTransactionData_run data
  obtain ⟨indices, outputted, outs, ran⟩ := run_bind_ok ran
  obtain ⟨added, -, amountsOf, -, heights, nonzero, rfl⟩ := addOutputs_run H tx _ _ _ outs
  simp only [addTxAmountOutputIndices, run_modify, EStateM.Result.ok.injEq] at ran
  obtain ⟨-, rfl⟩ := ran
  have zipped : ((List.range tx.vout.length).zip tx.vout).map Prod.snd = tx.vout := List.map_snd_zip (by simp)
  have counted : added.countP (·.amount == 0) =
      ((List.range tx.vout.length).zip tx.vout).countP fun p =>
        (if tx.vin.any TxinV.isGen = true ∧ tx.version = 2 then 0 else p.2.amount) == 0 := by
    have mapped := congrArg (List.countP (· == 0)) amountsOf
    simp only [List.countP_map, Function.comp_def, Bool.false_or] at mapped
    exact mapped
  refine ⟨added, rfl, rfl, rfl, heights, ?_, ?_⟩
  · rw [counted]
    by_cases pseudo : tx.vin.any TxinV.isGen = true ∧ tx.version = 2
    · simp [pseudo]
    · simp only [pseudo, if_false]
      conv_rhs => rw [← zipped]
      rw [List.countP_map]
      rfl
  · intro plain early
    apply List.countP_eq_zero.2
    intro out member zero
    obtain ⟨p, pairMember, rfl⟩ := List.mem_map.1 (zipped ▸ member : out ∈ _)
    exact nonzero (by simpa using plain) early p pairMember (by simpa using zero)

/-- The transactions a block lists, spending only keys, add their zero-amount
outputs, the count `add_block` takes for them. -/
theorem addTransactions_outputs (H : Hashing) :
    ∀ (txs : List (Transaction × Hash)) {db db' : Db} {count : Nat},
      (∀ p ∈ txs, checkInputsTypesSupported p.1 = true) → (addTransactions H txs).run db = .ok count db' →
      ∃ added : List OutputRecord, db'.outputs = db.outputs ++ added ∧ db'.blocks = db.blocks ∧
        db'.batchActive = db.batchActive ∧ (∀ output ∈ added, output.height = db.height) ∧
        added.countP (·.amount == 0) = count
  | [], db, db', count, _, ran => by
    simp only [addTransactions, run_pure, EStateM.Result.ok.injEq] at ran
    obtain ⟨rfl, rfl⟩ := ran
    exact ⟨[], by simp, rfl, rfl, by simp, rfl⟩
  | (tx, txHash) :: rest, db, db', count, supported, ran => by
    obtain ⟨_, db₁, first, ran⟩ := run_bind_ok ran
    obtain ⟨later, db₂, loop, done⟩ := run_bind_ok ran
    simp only [run_pure, EStateM.Result.ok.injEq] at done
    obtain ⟨rfl, rfl⟩ := done
    have keysOnly := supported (tx, txHash) List.mem_cons_self
    obtain ⟨firstAdded, outputs₁, blocks₁, batch₁, heights₁, counted₁, -⟩ :=
      addTransaction_outputs (storableInput_of_supported keysOnly) first
    obtain ⟨restAdded, outputs₂, blocks₂, batch₂, heights₂, counted₂⟩ :=
      addTransactions_outputs H rest (fun p member => supported p (List.mem_cons_of_mem _ member)) loop
    -- a transaction spending only keys has no `txin_gen` input
    have noGeneration : tx.vin.any TxinV.isGen = false := List.any_eq_false.2 fun input member => by
      obtain ⟨amount, keyOffsets, kImage, rfl⟩ :=
        (TxinV.isToKey_iff input).1 (List.all_eq_true.1 keysOnly input member)
      simp [TxinV.isGen]
    refine ⟨firstAdded ++ restAdded, by rw [outputs₂, outputs₁, List.append_assoc], blocks₂.trans blocks₁,
      batch₂.trans batch₁, ?_, ?_⟩
    · intro output member
      rcases List.mem_append.1 member with early | late
      · exact heights₁ output early
      · rw [heights₂ output late]
        simp only [Db.height, blocks₁]
    · rw [List.countP_append, counted₁, counted₂]
      simp [noGeneration]

/-- The block record: the block, and the RingCT count added to that of the
block below from version 4 on, which must then exist. -/
theorem addBlockRecord_cumRct {blk : Block} {weight cumulativeDifficulty coinsGenerated numRctOuts : Nat}
    {blkHash : Hash} {db db' : Db} {u : Unit}
    (ran : (addBlockRecord blk weight cumulativeDifficulty coinsGenerated numRctOuts blkHash).run db =
      .ok u db') :
    ∃ record : BlockRecord, record.block = blk ∧ (4 ≤ blk.majorVersion → 0 < db.height) ∧
      record.cumRct = numRctOuts +
        (if 4 ≤ blk.majorVersion then (db.blockAt (db.height - 1)).elim 0 (·.cumRct) else 0) ∧
      db' = { db with blocks := db.blocks ++ [record] } := by
  unfold addBlockRecord at ran
  simp only [run_bind, run_get] at ran
  split_ifs at ran <;> (try split at ran) <;> (try simp at ran; done)
  all_goals
    cases ran
    refine ⟨_, rfl, ?_, ?_, rfl⟩
  -- from version 4 the record counts on the block below, which exists
  · intro
    assumption
  · rename_i found
    rw [if_pos (by omega), found]
    rfl
  · intro
    assumption
  · rw [if_neg (by omega), Nat.add_zero]
  · rename_i found
    intro
    apply Nat.pos_of_ne_zero
    intro empty
    have noBlocks : db.blocks = [] := List.eq_nil_of_length_eq_zero empty
    simp [Db.blockAt, noBlocks] at found
  · rename_i found
    rw [if_pos (by omega), found]
    rfl
  · intro
    omega
  · rw [if_neg (by omega), Nat.add_zero]

/-- The blocks `Blockchain` passes to `add_block`: a coinbase miner
transaction of a version a transaction can have, and other transactions that
spend only keys. -/
structure BlockShaped (blk : Block) (txs : List Transaction) : Prop where
  coinbase : isCoinbase blk.minerTx = true
  current : blk.minerTx.version ≤ Config.CURRENT_TRANSACTION_VERSION
  supported : ∀ tx ∈ txs, checkInputsTypesSupported tx = true

theorem any_isGen_of_coinbase {tx : Transaction} (coinbase : isCoinbase tx = true) :
    tx.vin.any TxinV.isGen = true := by
  unfold isCoinbase at coinbase
  split at coinbase
  · rename_i input single
    simp [single, coinbase]
  · cases coinbase

/-- The writes of a successful `add_block` of a block `Blockchain` passes:
its outputs appended at its height, as many of amount 0 as `add_block` counts
RingCT outputs, and its record adding that count to the one below from
version 4 on. -/
theorem addBlockData_outputs {H : Hashing} {blk : Block} {weight cumulativeDifficulty coinsGenerated : Nat}
    {txs : List Transaction} {db db' : Db} {result : Hash × Nat} (shaped : BlockShaped blk txs)
    (ran : (addBlockData H blk weight cumulativeDifficulty coinsGenerated txs).run db = .ok result db') :
    ∃ (added : List OutputRecord) (record : BlockRecord), db'.outputs = db.outputs ++ added ∧
      db'.blocks = db.blocks ++ [record] ∧ db'.batchActive = db.batchActive ∧
      (∀ output ∈ added, output.height = db.height) ∧ record.block = blk ∧
      (4 ≤ blk.majorVersion → 0 < db.height) ∧
      record.cumRct = added.countP (·.amount == 0) +
        (if 4 ≤ blk.majorVersion then (db.blockAt (db.height - 1)).elim 0 (·.cumRct) else 0) := by
  unfold addBlockData at ran
  obtain ⟨_, db₀, read, ran⟩ := run_bind_ok ran
  simp only [run_get, EStateM.Result.ok.injEq] at read
  obtain ⟨rfl, rfl⟩ := read
  obtain ⟨_, mined, minerRan, ran⟩ := run_bind_ok ran
  obtain ⟨txRctOuts, stored, txsRan, ran⟩ := run_bind_ok ran
  obtain ⟨_, recorded, recordRan, done⟩ := run_bind_ok ran
  simp only [run_pure, EStateM.Result.ok.injEq] at done
  obtain ⟨-, rfl⟩ := done
  obtain ⟨minerAdded, minerOutputs, minerBlocks, minerBatch, minerHeights, minerCount, minerNonzero⟩ :=
    addTransaction_outputs (storableInput_of_coinbase shaped.coinbase) minerRan
  obtain ⟨txsAdded, txsOutputs, txsBlocks, txsBatch, txsHeights, txsCount⟩ :=
    addTransactions_outputs H (txs.zip blk.txHashes)
      (fun p member => shaped.supported p.1 (List.of_mem_zip member).1) txsRan
  obtain ⟨record, block, above, cumulative, rfl⟩ := addBlockRecord_cumRct recordRan
  have sameBlocks : stored.blocks = db.blocks := txsBlocks.trans minerBlocks
  have sameHeight : stored.height = db.height := by simp only [Db.height, sameBlocks]
  have sameBlockAt : stored.blockAt (stored.height - 1) = db.blockAt (db.height - 1) := by
    simp only [Db.blockAt, sameHeight, sameBlocks]
  -- a coinbase miner transaction adds all its outputs at amount 0 at version 2, none below
  have minerRct : minerAdded.countP (·.amount == 0) =
      if blk.minerTx.version = 2 then blk.minerTx.vout.length else 0 := by
    have generated := any_isGen_of_coinbase shaped.coinbase
    have current := shaped.current
    unfold Config.CURRENT_TRANSACTION_VERSION at current
    rw [minerCount]
    by_cases two : blk.minerTx.version = 2
    · simp [generated, two]
    · simp only [generated, two, and_false, if_false]
      exact minerNonzero (by simp [two]) (by omega)
  refine ⟨minerAdded ++ txsAdded, record, ?_, by simp [sameBlocks], txsBatch.trans minerBatch, ?_, block,
    fun versioned => sameHeight ▸ above versioned, ?_⟩
  · show stored.outputs = db.outputs ++ (minerAdded ++ txsAdded)
    rw [txsOutputs, minerOutputs, List.append_assoc]
  · intro output member
    rcases List.mem_append.1 member with mined_ | listed
    · exact minerHeights output mined_
    · rw [txsHeights output listed]
      simp only [Db.height, minerBlocks]
  · rw [cumulative, sameBlockAt, List.countP_append, minerRct, txsCount]

end BlockchainDB

/-! ## The stored counts over a chain -/

namespace BlockchainDB

/-- The stored RingCT counts are the counts of amount-0 outputs up to each
height, and every output belongs to a stored block. -/
structure RctCounted (db : Db) : Prop where
  heights : ∀ output ∈ db.outputs, output.height < db.height
  counts : ∀ height < db.height, (db.blockAt height).elim 0 (·.cumRct) = db.zeroOutputsUpTo height

theorem countP_upTo_of_le {outputs : List OutputRecord} {height : Nat}
    (below : ∀ output ∈ outputs, output.height ≤ height) :
    outputs.countP (fun output => output.amount == 0 && decide (output.height ≤ height)) =
      outputs.countP (·.amount == 0) := by
  apply List.countP_congr
  intro output member
  simp [below output member]

theorem countP_upTo_of_lt {outputs : List OutputRecord} {height : Nat}
    (above : ∀ output ∈ outputs, height < output.height) :
    outputs.countP (fun output => output.amount == 0 && decide (output.height ≤ height)) = 0 := by
  apply List.countP_eq_zero.2
  intro output member
  have later := above output member
  simp only [Bool.and_eq_true, beq_iff_eq, decide_eq_true_eq, not_and, Nat.not_le]
  intro _
  exact later

/-- `add_block` of a block `Blockchain` passes keeps the counts, when a block
below version 4 comes before any amount-0 output. -/
theorem RctCounted.addBlock {H : Hashing} {hf : HardFork} {blk : Block}
    {weight cumulativeDifficulty coinsGenerated : Nat} {txs : List Transaction} {db : Db} {height : Nat}
    (counted : RctCounted db) (shaped : BlockShaped blk txs)
    (ordered : blk.majorVersion < 4 → db.getNumOutputs 0 = 0)
    (accepted : (BlockchainDB.addBlock H hf blk weight cumulativeDifficulty coinsGenerated txs db).result =
      .ok height) :
    RctCounted (BlockchainDB.addBlock H hf blk weight cumulativeDifficulty coinsGenerated txs db).db ∧
      (BlockchainDB.addBlock H hf blk weight cumulativeDifficulty coinsGenerated txs db).db.batchActive =
        db.batchActive := by
  unfold BlockchainDB.addBlock at accepted ⊢
  by_cases sizes : blk.txHashes.length ≠ txs.length
  · rw [if_pos sizes] at accepted
    cases accepted
  rw [if_neg sizes] at accepted ⊢
  cases ran : (addBlockData H blk weight cumulativeDifficulty coinsGenerated txs).run db with
  | error e written =>
    rw [ran] at accepted
    cases accepted
  | ok result written =>
    obtain ⟨added, record, outputs, blocks, batch, heights, -, above, cumulative⟩ :=
      addBlockData_outputs shaped ran
    refine ⟨⟨?_, ?_⟩, batch⟩
    · -- the new outputs sit at the new block's height
      intro output member
      simp only [Db.height, blocks, List.length_append, List.length_singleton] at member ⊢
      rw [outputs] at member
      rcases List.mem_append.1 member with old | new
      · have below := counted.heights output old
        simp only [Db.height] at below
        omega
      · rw [heights output new]
        simp [Db.height]
    · intro h within
      simp only [Db.height, blocks, List.length_append, List.length_singleton] at within
      simp only [Db.zeroOutputsUpTo, Db.blockAt, outputs, blocks, List.countP_append]
      rcases Nat.lt_succ_iff_lt_or_eq.1 within with lower | top
      · -- a block below: its record and the outputs up to it are unchanged
        have before := counted.counts h lower
        simp only [Db.blockAt, Db.zeroOutputsUpTo] at before
        have newOnes : added.countP (fun output => output.amount == 0 && decide (output.height ≤ h)) = 0 :=
          countP_upTo_of_lt fun output member => by
            rw [heights output member]
            exact lower
        rw [List.getElem?_append_left lower, before, newOnes, Nat.add_zero]
      · -- the new block: the amount-0 outputs below it, and its own
        subst top
        have oldOnes : db.outputs.countP
            (fun output => output.amount == 0 && decide (output.height ≤ db.blocks.length)) =
            db.outputs.countP (·.amount == 0) :=
          countP_upTo_of_le fun output member => Nat.le_of_lt (counted.heights output member)
        have newOnes : added.countP
            (fun output => output.amount == 0 && decide (output.height ≤ db.blocks.length)) =
            added.countP (·.amount == 0) :=
          countP_upTo_of_le fun output member => Nat.le_of_eq (heights output member)
        rw [List.getElem?_append_right (Nat.le_refl _), Nat.sub_self, List.getElem?_cons_zero,
          Option.elim_some, cumulative, oldOnes, newOnes]
        by_cases versioned : 4 ≤ blk.majorVersion
        · have positive := above versioned
          have below := counted.counts (db.height - 1) (by omega)
          rw [if_pos versioned, below, Db.zeroOutputsUpTo,
            countP_upTo_of_le fun output member => by
              have earlier := counted.heights output member
              omega, Nat.add_comm]
        · have none_ : db.getNumOutputs 0 = 0 := ordered (by omega)
          rw [if_neg versioned, Nat.add_zero]
          simp only [Db.getNumOutputs] at none_
          rw [none_, Nat.zero_add]

/-- The databases `add_block` builds from an empty one outside a batch out of
blocks `Blockchain` passes it, where a block below version 4 comes before any
amount-0 output. -/
inductive BuiltByAddBlock (H : Hashing) : Db → Prop
  | empty (hfVersions : HfVersions) : BuiltByAddBlock H ⟨[], [], [], [], hfVersions, false⟩
  | addBlock {db : Db} (hf : HardFork) (blk : Block) (weight cumulativeDifficulty coinsGenerated : Nat)
      (txs : List Transaction) : BuiltByAddBlock H db → BlockShaped blk txs →
      (blk.majorVersion < 4 → db.getNumOutputs 0 = 0) →
      BuiltByAddBlock H (BlockchainDB.addBlock H hf blk weight cumulativeDifficulty coinsGenerated txs db).db

theorem BuiltByAddBlock.rctCounted {H : Hashing} {db : Db} (built : BuiltByAddBlock H db) :
    RctCounted db ∧ db.batchActive = false := by
  induction built with
  | empty hfVersions =>
    refine ⟨⟨fun output member => ?_, fun height within => ?_⟩, rfl⟩
    · simp at member
    · simp [Db.height] at within
  | addBlock hf blk weight cumulativeDifficulty coinsGenerated txs _ shaped ordered inductionHypothesis =>
    obtain ⟨counted, notBatch⟩ := inductionHypothesis
    cases accepted : (BlockchainDB.addBlock H hf blk weight cumulativeDifficulty coinsGenerated txs _).result with
    | ok height =>
      obtain ⟨counted', batch⟩ := counted.addBlock shaped ordered accepted
      exact ⟨counted', batch.trans notBatch⟩
    | error e =>
      -- outside a batch the abort restores the tables
      rw [(addBlock_error_of_not_batch notBatch accepted).1]
      exact ⟨counted, notBatch⟩

end BlockchainDB

/-! ## What the source returns against the counted distribution -/

/-- On a chain whose stored counts are the counts of amount-0 outputs, the
amount-0 distribution holds those counts from the start height to
`toHeight`, or to the top for `toHeight = 0`. -/
theorem getOutputDistribution_zero (nettype : NetworkType) {db : Db} (counted : RctCounted db)
    {fromHeight toHeight : Nat} (ordered : fromHeight ≤ toHeight) (below : toHeight < db.height) :
    getOutputDistribution nettype db 0 fromHeight toHeight =
      (rctStartHeight nettype).bind fun rctStart =>
        if max fromHeight rctStart < db.height then
          .ok (max fromHeight rctStart,
            (List.range' (max fromHeight rctStart)
              ((if toHeight = 0 then db.height - 1 else toHeight) + 1 - max fromHeight rctStart)).map
              db.zeroOutputsUpTo, 0)
        else .error .refused := by
  unfold getOutputDistribution distributionStart
  cases started : rctStartHeight nettype with
  | error e => rfl
  | ok rctStart =>
    have top : (if toHeight = 0 then db.height - 1 else toHeight) < db.height := by split <;> omega
    have start : (if fromHeight > rctStart then fromHeight else rctStart) = max fromHeight rctStart := by
      split <;> omega
    simp only [if_true, bind, Except.bind]
    rw [start, if_neg (by omega), if_neg (by omega)]
    by_cases fits : max fromHeight rctStart < db.height
    · rw [if_neg (by omega), if_pos fits]
      -- every height read is stored, and its count is that of the amount-0 outputs
      have stored : (List.range' (max fromHeight rctStart)
          ((if toHeight = 0 then db.height - 1 else toHeight) + 1 - max fromHeight rctStart)).all
          (· < db.height) = true := by
        simp only [List.all_eq_true, List.mem_range'_1, decide_eq_true_eq]
        omega
      simp only [Db.getBlockCumulativeRctOutputs, stored, if_true, pure, Except.pure, Except.ok.injEq,
        Prod.mk.injEq, true_and, and_true]
      apply List.map_congr_left
      intro h member
      rw [List.mem_range'_1] at member
      exact counted.counts h (by omega)
    · rw [if_pos (Or.inl (by omega)), if_neg fits]
      rfl

theorem rct_distribution_from_activation_iff (H : Hashing) (nettype : NetworkType) {db : Db}
    (built : BuiltByAddBlock H db) {fromHeight toHeight : Nat} (ordered : fromHeight ≤ toHeight)
    (below : toHeight < db.height) :
    getOutputDistribution nettype db 0 fromHeight toHeight =
        .ok (rctDistributionFromActivation nettype db fromHeight toHeight) ↔
      0 < toHeight ∧ ∃ entry, (hardForkTable nettype).bind (·[3]?) = some entry ∧
        max fromHeight entry.height < db.height := by
  rw [getOutputDistribution_zero nettype built.rctCounted.1 ordered below]
  cases nettype with
  | stagenet =>
    -- the fourth stagenet entry is the first at version 4
    have start : rctStartHeight .stagenet = .ok 34000 := rfl
    have activation : rctActivationHeight .stagenet = 34000 := rfl
    have fourth : (hardForkTable .stagenet).bind (·[3]?) = some ⟨4, 34000, 0, 1521240000⟩ := rfl
    simp only [start, Except.bind, rctDistributionFromActivation, activation, fourth, Option.some.injEq,
      exists_eq_left']
    by_cases fits : max fromHeight 34000 < db.height
    · rw [if_pos fits]
      simp only [Except.ok.injEq, Prod.mk.injEq, true_and, and_true, fits, List.range'_eq_map_range,
        List.map_map]
      by_cases zero : toHeight = 0
      · -- to the top: a nonempty list where the counted distribution is empty
        rw [if_pos zero]
        constructor
        · intro same
          have lengths := congrArg List.length same
          simp only [List.length_map, List.length_range] at lengths
          omega
        · intro positive
          omega
      · rw [if_neg zero]
        simp only [Function.comp_def, true_iff]
        omega
    · rw [if_neg fits]
      simp only [reduceCtorEq, false_iff, not_and, Nat.not_lt]
      intro _
      have same := Db.height_eq db
      omega
  -- elsewhere the source reads past the table or refuses
  | mainnet => simp [rctStartHeight, hardForkTable, mainnetHardForks, Except.bind]
  | testnet => simp [rctStartHeight, hardForkTable, testnetHardForks, Except.bind]
  | fakechain => simp [rctStartHeight, hardForkTable, Except.bind]
  | undefined => simp [rctStartHeight, hardForkTable, Except.bind]

/-- A genesis block of version 1 whose coinbase pays 5. -/
def versionOneGenesis : Block :=
  { (default : Block) with
    majorVersion := 1, minerTx := { (default : Transaction) with vin := [.gen 0], vout := [⟨5, .toKey 9⟩] } }

/-- The chain of `versionOneGenesis` alone. -/
def genesisChain : Db :=
  (BlockchainDB.addBlock unlockTimeHashes versionOneHardFork versionOneGenesis 0 0 0 []
    ⟨[], [], [], [], [], false⟩).db

theorem mainnet_rct_distribution_reads_past_table :
    BuiltByAddBlock unlockTimeHashes genesisChain ∧ 0 ≤ 0 ∧ 0 < genesisChain.height ∧
      getOutputDistribution .mainnet genesisChain 0 0 0 = .error .outOfBounds ∧
      (getOutputDistribution .mainnet genesisChain 0 0 0 = .ok (rctDistributionFromActivation .mainnet genesisChain 0 0) ↔
        0 < 0 ∧ ∃ entry, (hardForkTable .mainnet).bind (·[3]?) = some entry ∧
          max 0 entry.height < genesisChain.height) := by
  have built : BuiltByAddBlock unlockTimeHashes genesisChain :=
    .addBlock versionOneHardFork versionOneGenesis 0 0 0 [] (.empty [])
      ⟨by decide, by decide, fun tx member => by cases member⟩ fun _ => rfl
  have stored : 0 < genesisChain.height := by decide
  exact ⟨built, Nat.le_refl 0, stored, by decide,
    rct_distribution_from_activation_iff unlockTimeHashes .mainnet built (Nat.le_refl 0) stored⟩

end ElectroneumClassic
