import ElectroneumClassic.Chain.SpentKeys
import Mathlib.Data.Multiset.AddSub

/-!
# A refused block leaves the chain and the pool as they were

`handle_block_to_main_chain` takes the block's transactions out of the pool
one by one and hands them back on every refusal, including an `add_block`
exception.  Outside a batch the exception restores the tables, so a refusal
leaves the database and the hard-fork object as they were, and a pool that
takes back what it handed out holds the same transactions again
(`refused_block_leaves_chain_and_pool`).

Inside a batch the same refusal leaves the writes made before the exception
in the tables (`batch_refusal_keeps_partial_writes`).
-/

namespace ElectroneumClassic

open Cryptonote BlockchainDB Effects Relation

variable {Pool : Type}

/-- The transactions a pool holds, and the two pool operations the main chain
uses: `take_tx` hands out one of them, and `add_tx` takes back a transaction
the pool accepts. -/
structure PoolLaws (env : Env Pool) where
  contents : Pool → Multiset Transaction
  takeTx_contents : ∀ {pool : Pool} {txHash : Hash} {tx : SupportedTx} {weight fee : Nat} {pool' : Pool},
    env.takeTx pool txHash = some (tx, weight, fee, pool') → contents pool = tx.val ::ₘ contents pool'
  addTx_contents : ∀ (pool : Pool) (tx : SupportedTx) (version : Nat),
    contents (env.addTx pool tx.val version).2 = tx.val ::ₘ contents pool

namespace Blockchain

variable {env : Env Pool}

/-- `s'` keeps the database, the hard-fork object and the pool of `s`. -/
structure KeepsChain (s s' : Blockchain Pool) : Prop where
  db : s'.db = s.db
  hardfork : s'.hardfork = s.hardfork
  pool : s'.pool = s.pool

theorem KeepsChain.refl (s : Blockchain Pool) : KeepsChain s s := ⟨rfl, rfl, rfl⟩

theorem KeepsChain.trans {s₁ s₂ s₃ : Blockchain Pool} (h₁ : KeepsChain s₁ s₂) (h₂ : KeepsChain s₂ s₃) :
    KeepsChain s₁ s₃ :=
  ⟨h₂.db.trans h₁.db, h₂.hardfork.trans h₁.hardfork, h₂.pool.trans h₁.pool⟩

theorem KeepsChain.of_reflTransGen {s s' : Blockchain Pool} (h : ReflTransGen KeepsChain s s') :
    KeepsChain s s' := by
  induction h with
  | refl => exact .refl s
  | tail _ step ih => exact ih.trans step

theorem getDifficultyForNextBlock_keepsChain :
    Moves KeepsChain (getDifficultyForNextBlock : BcM Pool Nat) := by
  intro s
  unfold MovesFrom
  rw [getDifficultyForNextBlock_run]
  -- the fresh computation writes only the caches
  split_ifs <;> simp only [final_ok] <;> first | exact .refl | exact .single ⟨rfl, rfl, rfl⟩

theorem checkMainChainBlock_keepsChain {bl : Block} {id : Hash} {s s' : Blockchain Pool}
    {checked : Option (Nat × Bool)} (hrun : (checkMainChainBlock env bl id).run s = .ok checked s') :
    KeepsChain s s' := by
  have hmoves : MovesFrom KeepsChain (checkMainChainBlock env bl id) s :=
    checkMainChainBlock_moves_of getDifficultyForNextBlock_keepsChain bl id s
  rw [MovesFrom, hrun, final_ok] at hmoves
  exact KeepsChain.of_reflTransGen hmoves

theorem forIn_addTx_run (version : Nat) (txs : List Transaction) (s : Blockchain Pool) :
    (forIn txs PUnit.unit fun tx _ => do
        modify fun s => { s with pool := (env.addTx s.pool tx version).2 }
        pure (ForInStep.yield PUnit.unit) : BcM Pool PUnit).run s =
      .ok PUnit.unit { s with pool := txs.foldl (fun pool tx => (env.addTx pool tx version).2) s.pool } := by
  induction txs generalizing s with
  | nil => rfl
  | cons tx rest ih =>
    rw [List.forIn_cons, run_bind]
    simp only [run_bind, run_modify, run_pure]
    exact ih _

/-- `return_tx_to_pool` offers each transaction at the version in force when
it starts. -/
theorem returnTxToPool_run (txs : List Transaction) (s : Blockchain Pool) :
    (returnTxToPool env txs).run s =
      .ok PUnit.unit { s with
        pool := txs.foldl (fun pool tx => (env.addTx pool tx s.getCurrentHardForkVersion).2) s.pool } := by
  unfold returnTxToPool
  simp only [run_bind, run_get, forIn_addTx_run]
  rfl

theorem contents_foldl_addTx (laws : PoolLaws env) (version : Nat) :
    ∀ (txs : List Transaction) (pool : Pool), (∀ tx ∈ txs, checkInputsTypesSupported tx = true) →
      laws.contents (txs.foldl (fun pool tx => (env.addTx pool tx version).2) pool) =
        laws.contents pool + (txs : Multiset Transaction)
  | [], pool, _ => by simp
  | tx :: rest, pool, hsupported => by
    rw [List.foldl_cons, contents_foldl_addTx laws version rest _
      fun t ht => hsupported t (List.mem_cons_of_mem _ ht)]
    rw [laws.addTx_contents pool ⟨tx, hsupported tx List.mem_cons_self⟩ version, ← Multiset.cons_coe,
      Multiset.add_cons, Multiset.cons_add]

/-- Returning supported transactions adds them to the pool and touches
nothing else the chain keeps. -/
theorem returnTxToPool_contents (laws : PoolLaws env) {txs : List Transaction} {s s' : Blockchain Pool}
    {u : PUnit} (hsupported : ∀ tx ∈ txs, checkInputsTypesSupported tx = true)
    (hrun : (returnTxToPool env txs).run s = .ok u s') :
    s'.db = s.db ∧ s'.hardfork = s.hardfork ∧ laws.contents s'.pool = laws.contents s.pool + txs := by
  rw [returnTxToPool_run, EStateM.Result.ok.injEq] at hrun
  obtain ⟨-, rfl⟩ := hrun
  exact ⟨rfl, rfl, contents_foldl_addTx laws _ txs s.pool hsupported⟩

theorem addBlockAsInvalid_keepsChain {bei : BlockExtendedInfo} {h : Hash} {s s' : Blockchain Pool}
    {u : PUnit} (hrun : (addBlockAsInvalid bei h).run s = .ok u s') : KeepsChain s s' := by
  simp only [addBlockAsInvalid, run_modify, EStateM.Result.ok.injEq] at hrun
  obtain ⟨-, rfl⟩ := hrun
  split_ifs
  · exact .refl s
  · exact ⟨rfl, rfl, rfl⟩

/-- The transactions the loop holds and those in the pool make up, together,
what the pool held before: every take moves one over, and a refusal moves all
of them back. -/
theorem takeTransactions_contents (laws : PoolLaws env) (bl : Block) (id : Hash) (fastCheck : Bool) :
    ∀ (txIds : List Hash) (txIndex : Nat) (txs : List Transaction) (feeSummary cumulativeBlockWeight : Nat)
      {s s' : Blockchain Pool} {result : Option (List Transaction × Nat × Nat)},
      (∀ tx ∈ txs, checkInputsTypesSupported tx = true) →
      (takeTransactions env bl id fastCheck txIds txIndex (txs, feeSummary, cumulativeBlockWeight)).run s =
        .ok result s' →
      s'.db = s.db ∧ s'.hardfork = s.hardfork ∧
        laws.contents s'.pool + ((result.elim [] (·.1) : List Transaction) : Multiset Transaction) =
          laws.contents s.pool + txs
  | [], _, txs, _, _, s, s', result, _, hrun => by
    simp only [takeTransactions, run_pure, EStateM.Result.ok.injEq] at hrun
    obtain ⟨rfl, rfl⟩ := hrun
    exact ⟨rfl, rfl, rfl⟩
  | txId :: rest, txIndex, txs, feeSummary, cumulativeBlockWeight, s, s', result, hsupported, hrun => by
    -- a refusal returns what was taken and answers `none`
    have hrefuse : ∀ {s₁ : Blockchain Pool} (taken : List Transaction),
        (∀ tx ∈ taken, checkInputsTypesSupported tx = true) →
        (do returnTxToPool env taken; pure none : BcM Pool (Option (List Transaction × Nat × Nat))).run s₁ =
          .ok result s' →
        s'.db = s₁.db ∧ s'.hardfork = s₁.hardfork ∧
          laws.contents s'.pool + ((result.elim [] (·.1) : List Transaction) : Multiset Transaction) =
            laws.contents s₁.pool + taken := by
      intro s₁ taken htaken hrefused
      obtain ⟨_, s₂, hreturn, hpure⟩ := run_bind_ok hrefused
      simp only [run_pure, EStateM.Result.ok.injEq] at hpure
      obtain ⟨rfl, rfl⟩ := hpure
      obtain ⟨hdb, hhf, hpool⟩ := returnTxToPool_contents laws htaken hreturn
      exact ⟨hdb, hhf, by simpa using hpool⟩
    unfold takeTransactions at hrun
    obtain ⟨_, s₀, hget, hrest⟩ := run_bind_ok hrun
    simp only [run_get, EStateM.Result.ok.injEq] at hget
    obtain ⟨rfl, rfl⟩ := hget
    split at hrest
    · exact hrefuse txs hsupported hrest
    split at hrest
    · exact hrefuse txs hsupported hrest
    rename_i tx weight fee pool htake
    have hsupported' : ∀ t ∈ txs ++ [tx.val], checkInputsTypesSupported t = true := by
      intro t ht
      rcases List.mem_append.1 ht with ht | ht
      · exact hsupported t ht
      · rw [List.mem_singleton.1 ht]
        exact tx.property
    -- taking `tx` moves it from the pool to the loop's list
    have hmoved : laws.contents pool + ((txs ++ [tx.val] : List Transaction) : Multiset Transaction) =
        laws.contents s.pool + txs := by
      rw [laws.takeTx_contents htake, ← Multiset.coe_add, Multiset.coe_singleton, Multiset.add_comm (txs : Multiset Transaction),
        Multiset.singleton_add, Multiset.add_cons, Multiset.cons_add]
    obtain ⟨_, s₁, hset, hrest⟩ := run_bind_ok hrest
    simp only [run_set, EStateM.Result.ok.injEq] at hset
    obtain ⟨-, rfl⟩ := hset
    -- the check refused `tx`, or the loop goes on, under `fast_check` or not
    have hrefused : (do
          addBlockAsInvalid ⟨bl, 0, 0⟩ id
          returnTxToPool env (txs ++ [tx.val])
          pure none : BcM Pool (Option (List Transaction × Nat × Nat))).run { s with pool := pool } =
          .ok result s' →
        s'.db = s.db ∧ s'.hardfork = s.hardfork ∧
          laws.contents s'.pool + ((result.elim [] (·.1) : List Transaction) : Multiset Transaction) =
            laws.contents s.pool + txs := by
      intro hrefused
      obtain ⟨_, s₂, hinvalid, hrest⟩ := run_bind_ok hrefused
      have hkeeps := addBlockAsInvalid_keepsChain hinvalid
      obtain ⟨hdb, hhf, hpool⟩ := hrefuse (txs ++ [tx.val]) hsupported' hrest
      refine ⟨hdb.trans hkeeps.db, hhf.trans hkeeps.hardfork, ?_⟩
      rw [hpool, hkeeps.pool]
      exact hmoved
    have hcontinued : ∀ (txIndex' feeSummary' cumulativeBlockWeight' : Nat),
        (takeTransactions env bl id fastCheck rest txIndex'
            (txs ++ [tx.val], feeSummary', cumulativeBlockWeight')).run { s with pool := pool } =
          .ok result s' →
        s'.db = s.db ∧ s'.hardfork = s.hardfork ∧
          laws.contents s'.pool + ((result.elim [] (·.1) : List Transaction) : Multiset Transaction) =
            laws.contents s.pool + txs := by
      intro txIndex' feeSummary' cumulativeBlockWeight' hcontinue
      obtain ⟨hdb, hhf, hpool⟩ :=
        takeTransactions_contents laws bl id fastCheck rest _ _ _ _ hsupported' hcontinue
      exact ⟨hdb, hhf, hpool.trans hmoved⟩
    dsimp only at hrest
    split at hrest <;> split at hrest
    all_goals first
      | exact hrefused hrest
      | exact hcontinued _ _ _ hrest

/-- `store_block`'s refusals: a failed reward check or an `add_block`
exception, outside a batch, hands the transactions back and keeps the tables. -/
theorem storeBlock_false (laws : PoolLaws env) {bl : Block} {currentDiffic : Nat} {txs : List Transaction}
    {feeSummary cumulativeBlockWeight : Nat} {s s' : Blockchain Pool}
    (hbatch : s.db.batchActive = false) (hsupported : ∀ tx ∈ txs, checkInputsTypesSupported tx = true)
    (hrun : (storeBlock env bl currentDiffic txs feeSummary cumulativeBlockWeight).run s = .ok false s') :
    s'.db = s.db ∧ s'.hardfork = s.hardfork ∧ laws.contents s'.pool = laws.contents s.pool + txs := by
  have hreturn : ∀ {s₁ : Blockchain Pool},
      (do returnTxToPool env txs; pure false : BcM Pool Bool).run s₁ = .ok false s' →
      s'.db = s₁.db ∧ s'.hardfork = s₁.hardfork ∧ laws.contents s'.pool = laws.contents s₁.pool + txs := by
    intro s₁ hrefused
    obtain ⟨_, s₂, hreturned, hpure⟩ := run_bind_ok hrefused
    simp only [run_pure, EStateM.Result.ok.injEq] at hpure
    obtain ⟨-, rfl⟩ := hpure
    exact returnTxToPool_contents laws hsupported hreturned
  unfold storeBlock at hrun
  obtain ⟨_, s₀, hget, hrest⟩ := run_bind_ok hrun
  simp only [run_get, EStateM.Result.ok.injEq] at hget
  obtain ⟨rfl, rfl⟩ := hget
  dsimp only at hrest
  split at hrest
  · exact hreturn hrest
  obtain ⟨_, s₁, hset, hrest⟩ := run_bind_ok hrest
  simp only [run_set, EStateM.Result.ok.injEq] at hset
  obtain ⟨-, rfl⟩ := hset
  split at hrest
  · rename_i e herror
    -- outside a batch the aborted block transaction restored the tables
    obtain ⟨hdb, hhf⟩ := addBlock_error_of_not_batch hbatch herror
    obtain ⟨hdb', hhf', hpool⟩ := hreturn hrest
    exact ⟨hdb'.trans hdb, hhf'.trans hhf, hpool⟩
  · -- the block was stored, and the method answers `true`
    obtain ⟨_, s₂, _, hpure⟩ := run_bind_ok hrest
    simp at hpure

theorem refused_block_leaves_chain_and_pool (laws : PoolLaws env) :
    (∀ (hf : HardFork) (blk : Block) (weight cumulativeDifficulty coinsGenerated : Nat)
        (txs : List Transaction) (db : Db) (e : DbError), db.batchActive = false →
        (addBlock env.hashing hf blk weight cumulativeDifficulty coinsGenerated txs db).result = .error e →
        (addBlock env.hashing hf blk weight cumulativeDifficulty coinsGenerated txs db).db = db ∧
          (addBlock env.hashing hf blk weight cumulativeDifficulty coinsGenerated txs db).hardfork = hf) ∧
      ∀ (bl : Block) (id : Hash) (s s' : Blockchain Pool), s.db.batchActive = false →
        (handleBlockToMainChain env bl id).run s = .ok false s' →
        s'.db = s.db ∧ s'.hardfork = s.hardfork ∧ laws.contents s'.pool = laws.contents s.pool := by
  refine ⟨fun hf blk weight cumulativeDifficulty coinsGenerated txs db e hbatch herror =>
    addBlock_error_of_not_batch hbatch herror, fun bl id s s' hbatch hrun => ?_⟩
  unfold handleBlockToMainChain at hrun
  obtain ⟨checked, s₁, hchecked, hrest⟩ := run_bind_ok hrun
  have hkeeps := checkMainChainBlock_keepsChain hchecked
  split at hrest
  · -- refused by the checks before any transaction was taken
    simp only [run_pure, EStateM.Result.ok.injEq] at hrest
    obtain ⟨-, rfl⟩ := hrest
    exact ⟨hkeeps.db, hkeeps.hardfork, by rw [hkeeps.pool]⟩
  obtain ⟨taken, s₂, htaken, hrest⟩ := run_bind_ok hrest
  obtain ⟨hdb₂, hhf₂, hpool₂⟩ :=
    takeTransactions_contents laws bl id _ bl.txHashes 0 [] 0 _ (by simp) htaken
  have hsupported := takeTransactions_supported bl id _ bl.txHashes 0 _ (by simp) s₁ taken s₂ htaken
  split at hrest
  · -- the loop refused a transaction and returned what it had taken
    simp only [run_pure, EStateM.Result.ok.injEq] at hrest
    obtain ⟨-, rfl⟩ := hrest
    refine ⟨hdb₂.trans hkeeps.db, hhf₂.trans hkeeps.hardfork, ?_⟩
    simpa [hkeeps.pool] using hpool₂
  rename_i txs feeSummary cumulativeBlockWeight
  obtain ⟨_, s₃, hclear, hstore⟩ := run_bind_ok hrest
  simp only [run_modify, EStateM.Result.ok.injEq] at hclear
  obtain ⟨-, rfl⟩ := hclear
  have hbatch₂ : ({ s₂ with blocksTxsCheck := [] } : Blockchain Pool).db.batchActive = false := by
    show s₂.db.batchActive = false
    rw [hdb₂, hkeeps.db]
    exact hbatch
  obtain ⟨hdb₃, hhf₃, hpool₃⟩ :=
    storeBlock_false laws hbatch₂ (hsupported ⟨txs, feeSummary, cumulativeBlockWeight⟩ rfl) hstore
  refine ⟨hdb₃.trans (hdb₂.trans hkeeps.db), hhf₃.trans (hhf₂.trans hkeeps.hardfork), ?_⟩
  rw [hpool₃]
  simpa [hkeeps.pool] using hpool₂

/-- The hashing of `listPoolEnv`: a transaction is known by its unlock time. -/
def unlockTimeHashing : Hashing :=
  ⟨fun _ => nullHash, fun tx => tx.unlockTime, fun _ => nullHash, fun _ => 0⟩

/-- A node whose pool is a list of transactions: `take_tx` removes the first
one with the hash asked for, and `add_tx` puts back any supported
transaction. -/
def listPoolEnv : Env (List SupportedTx) where
  hashing := unlockTimeHashing
  getBlockLonghash := fun _ _ => nullHash
  checkTxInputs := fun _ _ _ => true
  getTransactionWeight := fun _ => 0
  takeTx := fun pool txHash =>
    (pool.find? fun tx => unlockTimeHashing.txHash tx.val == txHash).map fun tx => (tx, 0, 0, pool.erase tx)
  addTx := fun pool tx _ =>
    if hsupported : checkInputsTypesSupported tx = true then (true, ⟨tx, hsupported⟩ :: pool) else (false, pool)
  cnFastHash := fun _ => nullHash

def listPoolLaws : PoolLaws listPoolEnv where
  contents := fun pool => (pool.map Subtype.val : List Transaction)
  takeTx_contents := by
    intro pool txHash tx weight fee pool' htake
    simp only [listPoolEnv, Option.map_eq_some_iff, Prod.mk.injEq] at htake
    obtain ⟨found, hfound, rfl, -, -, rfl⟩ := htake
    rw [Multiset.cons_coe, Multiset.coe_eq_coe, ← List.map_cons]
    exact (List.perm_cons_erase (List.mem_of_find?_eq_some hfound)).map _
  addTx_contents := by
    intro pool tx version
    simp [listPoolEnv, tx.property]

/-- A transaction spending the key image `7`, known by the hash `n`. -/
def spendingSevenAt (n : Nat) : SupportedTx := ⟨{ spendingSeven with unlockTime := n }, rfl⟩

/-- The empty version-8 chain outside a batch, at a fixed difficulty of 1,
whose pool holds two transactions spending the key image `7`. -/
def pairChain : Blockchain (List SupportedTx) :=
  { db := ⟨[], [], [], [], [], false⟩, hardfork := versionEightHardFork,
    pool := [spendingSevenAt 1, spendingSevenAt 2], checkpoints := ⟨∅⟩, alternativeChains := ∅,
    invalidBlocks := ∅, timestampsAndDifficultiesHeight := 0, timestamps := [], difficulties := [],
    difficultyForNextBlockTopHash := 0, difficultyForNextBlock := 0, blocksHashOfHashes := [],
    blocksHashCheck := [], blocksTxsCheck := [], fixedDifficulty := 1, now := 0 }

-- the block's two transactions spend `7`: the second makes `add_block` throw,
-- and both are back in the pool
example :
    let r := (handleBlockToMainChain listPoolEnv doubleSpendBlock 0).run pairChain
    (final r).db = pairChain.db ∧ (final r).hardfork = pairChain.hardfork ∧
      listPoolLaws.contents (final r).pool = listPoolLaws.contents pairChain.pool :=
  (refused_block_leaves_chain_and_pool listPoolLaws).2 doubleSpendBlock 0 pairChain _ rfl rfl

theorem batch_refusal_keeps_partial_writes :
    (addBlock idleEnv.hashing versionEightHardFork doubleSpendBlock 0 1 0 [spendingSeven, spendingSeven]
        batchChain.db).result = .error .keyImageExists ∧
      (addBlock idleEnv.hashing versionEightHardFork doubleSpendBlock 0 1 0 [spendingSeven, spendingSeven]
        batchChain.db).db.spentKeys = [7] ∧
      batchChain.db.spentKeys = [] ∧
      ∃ s, (handleBlockToMainChain permissiveEnv doubleSpendBlock 0).run batchChain = .ok false s ∧
        s.db.spentKeys = [7] :=
  ⟨rfl, by decide, rfl, _, rfl, by decide⟩

end Blockchain

end ElectroneumClassic
