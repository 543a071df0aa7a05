import ElectroneumClassic.Chain.Steps
import ElectroneumClassic.Chain.AlternativeDifficulty
import ElectroneumClassic.Db.Writes

/-!
# The difficulty window cache

`get_difficulty_for_next_block` keeps the window it last handed to the
difficulty algorithm, with the height it was read for; one block higher it
pushes the new top block's values and drops the oldest instead of reading the
window again.

The cache holds the stored blocks' values at consecutive heights that end
just below the cache height and skip genesis (`WindowCached`).  Every effect
keeps that: the block table only grows until a block is popped, and a pop is
always preceded by resetting the cache height.  In every state the effects
reach, and so wherever a method calls `get_difficulty_for_next_block`, as long
as the height fits the source's 64-bit counter, the windows the method hands
on are therefore exactly those a fresh read of the database returns.
-/

namespace ElectroneumClassic

open Cryptonote BlockchainDB Effects Relation Machine

variable {Pool : Type}

namespace Blockchain

/-- The timestamps and cumulative difficulties of the stored blocks at the
heights from `start` to `stop - 1`. -/
def readWindow (db : Db) (start stop : Nat) : List Nat × List Nat :=
  let heights := List.range' start (stop - start)
  (heights.map db.getBlockTimestamp, heights.map db.getBlockCumulativeDifficulty)

theorem dbWindow_eq_readWindow (db : Db) (height count : Nat) :
    dbWindow db height count = readWindow db (windowStart height count) height := rfl

theorem readWindow_fst_length (db : Db) (start stop : Nat) :
    (readWindow db start stop).1.length = stop - start := by
  simp [readWindow]

/-- Growing the block table does not change a window below the old height. -/
theorem readWindow_of_extends {db db' : Db} (hextends : Extends db db') {start stop : Nat}
    (hstop : stop ≤ db.height) : readWindow db' start stop = readWindow db start stop := by
  have hread : ∀ i ∈ List.range' start (stop - start), db'.blockAt i = db.blockAt i := by
    intro i hi
    rw [List.mem_range'_1] at hi
    exact hextends.blockAt (by omega)
  simp only [readWindow, Prod.mk.injEq]
  constructor
  · exact List.map_congr_left fun i hi => by simp only [Db.getBlockTimestamp, hread i hi]
  · exact List.map_congr_left fun i hi => by simp only [Db.getBlockCumulativeDifficulty, hread i hi]

/-- Pushing the value at `stop` onto the values at `start` to `stop - 1` and
keeping the last `count` gives the values at the `count` heights up to `stop`. -/
theorem pushWindow_range' (f : Nat → Nat) {start stop count : Nat} (hstart : start ≤ stop)
    (hcount : count ≤ stop + 1 - start) :
    pushWindow ((List.range' start (stop - start)).map f) (f stop) count =
      (List.range' (stop + 1 - count) count).map f := by
  have hconcat : List.range' start (stop - start) ++ [stop] = List.range' start (stop + 1 - start) := by
    rw [show stop + 1 - start = stop - start + 1 by omega, List.range'_concat]
    congr 2
    omega
  have hdrop : (List.range' start (stop + 1 - start)).drop (stop + 1 - start - count) =
      List.range' (stop + 1 - count) count := by
    rw [List.drop_range']
    congr 1 <;> omega
  have hmap : (List.range' start (stop - start)).map f ++ [f stop] =
      (List.range' start (stop + 1 - start)).map f := by
    rw [← hconcat, List.map_append, List.map_singleton]
  unfold pushWindow
  rw [hmap, List.length_map, List.length_range', ← List.map_drop, hdrop]

/-- The pushed and trimmed cache is the window one block higher. -/
theorem pushWindow_readWindow (db : Db) {start stop count : Nat} (hstart : start ≤ stop)
    (hcount : count ≤ stop + 1 - start) :
    (pushWindow (readWindow db start stop).1 (db.getBlockTimestamp stop) count,
      pushWindow (readWindow db start stop).2 (db.getBlockCumulativeDifficulty stop) count) =
      readWindow db (stop + 1 - count) (stop + 1) := by
  have hlen : stop + 1 - (stop + 1 - count) = count := by omega
  simp only [readWindow, hlen]
  rw [pushWindow_range' _ hstart hcount, pushWindow_range' _ hstart hcount]

/-- The cache holds the stored blocks' window ending just below the cache
height, genesis skipped; a zero cache height marks the cache unused. -/
def WindowCached (s : Blockchain Pool) : Prop :=
  s.timestampsAndDifficultiesHeight ≠ 0 →
    s.timestampsAndDifficultiesHeight ≤ s.db.height ∧
      ∃ start, 1 ≤ start ∧ start ≤ s.timestampsAndDifficultiesHeight ∧
        (s.timestamps, s.difficulties) = readWindow s.db start s.timestampsAndDifficultiesHeight

theorem windowStart_pos (height count : Nat) : 1 ≤ windowStart height count := by
  simp only [windowStart]
  split <;> omega

theorem windowStart_le {height : Nat} (count : Nat) (hheight : height ≠ 0) :
    windowStart height count ≤ height := by
  simp only [windowStart]
  split <;> omega

/-- Under the invariant the cached branch hands on what the uncached branch
reads. -/
theorem difficultyInputs_eq_dbWindow {s : Blockchain Pool} (hcache : s.WindowCached)
    (hbound : s.db.height < 2 ^ 64) (count : Nat) :
    s.difficultyInputs s.db.height count = dbWindow s.db s.db.height count := by
  unfold difficultyInputs
  split_ifs with huse
  swap
  · rfl
  simp only [usesCache, Bool.and_eq_true, bne_iff_ne, ne_eq, beq_iff_eq, decide_eq_true_eq] at huse
  obtain ⟨⟨hcached, hnext⟩, hcount⟩ := huse
  obtain ⟨hle, start, hstart, hstop, hwindow⟩ := hcache hcached
  -- the cache was read one block below the current height
  rw [subU64_of_le hle hbound] at hnext
  have hheight : s.db.height = s.timestampsAndDifficultiesHeight + 1 := by omega
  have hts : s.timestamps = (readWindow s.db start s.timestampsAndDifficultiesHeight).1 :=
    congrArg Prod.fst hwindow
  have hlen : s.timestamps.length = s.timestampsAndDifficultiesHeight - start := by
    rw [hts, readWindow_fst_length]
  have hds : s.difficulties = (readWindow s.db start s.timestampsAndDifficultiesHeight).2 :=
    congrArg Prod.snd hwindow
  rw [dbWindow_eq_readWindow, windowStart_of_lt (by omega), hts, hds, hheight, Nat.add_sub_cancel,
    pushWindow_readWindow _ hstop (by omega)]

/-- A freshly computed difficulty leaves a sound cache. -/
theorem windowCached_withDifficultyCached {s : Blockchain Pool} (hcache : s.WindowCached)
    (hbound : s.db.height < 2 ^ 64) : s.withDifficultyCached.WindowCached := by
  intro hheight
  simp only [withDifficultyCached] at hheight ⊢
  let count := difficultyBlocksCount s.getCurrentHardForkVersion s.db.height
  refine ⟨le_rfl, windowStart s.db.height count, windowStart_pos _ _, windowStart_le _ hheight, ?_⟩
  rw [difficultyInputs_eq_dbWindow hcache hbound count, dbWindow_eq_readWindow]

theorem windowCached_of_reset {s : Blockchain Pool} (hreset : s.timestampsAndDifficultiesHeight = 0) :
    s.WindowCached :=
  fun hcached => absurd hreset hcached

/-- Storing a block keeps the cache, whatever `add_block` throws. -/
theorem windowCached_withBlockStored {env : Env Pool} {s : Blockchain Pool} (hcache : s.WindowCached)
    (bl : Block) (weight cumulativeDifficulty coinsGenerated : Nat) (txs : List Transaction) :
    (withBlockStored env s bl weight cumulativeDifficulty coinsGenerated txs).WindowCached := by
  intro hcached
  obtain ⟨hle, start, hstart, hstop, hwindow⟩ := hcache hcached
  have hextends := addBlock_extends env.hashing s.hardfork bl weight cumulativeDifficulty coinsGenerated txs s.db
  refine ⟨hle.trans hextends.height_le, start, hstart, hstop, ?_⟩
  simp only [withBlockStored]
  rw [readWindow_of_extends hextends hle]
  exact hwindow

theorem windowCached_hardForkReorganized {s : Blockchain Pool} (hcache : s.WindowCached) (height : Nat) :
    (s.hardForkReorganized height).WindowCached := by
  unfold hardForkReorganized
  split
  · exact hcache
  · exact hcache

theorem windowCached_of_frames {s s' : Blockchain Pool} (hframes : Frames s s') (hcache : s.WindowCached) :
    s'.WindowCached := by
  unfold WindowCached
  rw [hframes.db, hframes.windowHeight, hframes.timestamps, hframes.difficulties]
  exact hcache

/-- One effect keeps the cache sound, as long as heights fit in 64 bits: a
store only raises the height, and only a pop lowers it, after the reset. -/
theorem windowCached_step {env : Env Pool} {s s' : Blockchain Pool} (hstep : Effect env s s')
    (hcache : s.db.height < 2 ^ 64 → s.WindowCached) : s'.db.height < 2 ^ 64 → s'.WindowCached := by
  intro hbound
  cases hstep with
  | cacheDifficulty => exact windowCached_withDifficultyCached (hcache hbound) hbound
  | resetDifficultyCache => exact windowCached_of_reset rfl
  | storeBlock bl weight cumulativeDifficulty coinsGenerated txs =>
    have hextends := addBlock_extends env.hashing s.hardfork bl weight cumulativeDifficulty coinsGenerated
      txs s.db
    exact windowCached_withBlockStored (hcache (lt_of_le_of_lt hextends.height_le hbound))
      bl weight cumulativeDifficulty coinsGenerated txs
  | popBlock hreset => exact windowCached_of_reset hreset
  | reorganize height =>
    obtain ⟨table, hdb⟩ := hardForkReorganized_db s height
    rw [hdb] at hbound
    exact windowCached_hardForkReorganized (hcache hbound) height
  | prevalidate => exact hcache hbound
  | bookkeeping _ hframes =>
    exact windowCached_of_frames hframes (hcache (by rw [← hframes.db]; exact hbound))

theorem difficulty_window_cache_agrees (env : Env Pool) {init s : Blockchain Pool}
    (hevolves : Evolves env init s) (hinit : init.timestampsAndDifficultiesHeight = 0)
    (hbound : s.db.height < 2 ^ 64) :
    s.difficultyInputs s.db.height (difficultyBlocksCount s.getCurrentHardForkVersion s.db.height) =
      dbWindow s.db s.db.height (difficultyBlocksCount s.getCurrentHardForkVersion s.db.height) := by
  have hcache : s.db.height < 2 ^ 64 → s.WindowCached :=
    invariant_of_reflTransGen (I := fun s => s.db.height < 2 ^ 64 → s.WindowCached)
      (fun _ _ hstep => windowCached_step hstep) hevolves fun _ => windowCached_of_reset hinit
  exact difficultyInputs_eq_dbWindow (hcache hbound) hbound _

/-- A node whose pool is empty, whose checks refuse everything and whose
hashes are all null. -/
def idleEnv : Env Unit where
  hashing := ⟨fun _ => nullHash, fun _ => nullHash, fun _ => nullHash, fun _ => 0⟩
  getBlockLonghash := fun _ _ => nullHash
  checkTxInputs := fun _ _ _ => false
  getTransactionWeight := fun _ => 0
  takeTx := fun _ _ => none
  addTx := fun pool _ _ => (false, pool)
  cnFastHash := fun _ => nullHash

/-- Stored block `i` of `longChain`: timestamp `120 * i`, cumulative
difficulty `i + 1` and hash `i + 1`. -/
def longChainRecord (i : Nat) : BlockRecord := { windowRecord (120 * i, i + 1) with hash := i + 1 }

/-- A version-8 chain of 62 blocks, one more than the window of version 8. -/
def longChain : Blockchain Unit := versionEightChain ((List.range 62).map longChainRecord)

/-- The block at height 62 of `longChain`. -/
def longChainTop : Block :=
  { (default : Block) with
    majorVersion := 8, minorVersion := 8, timestamp := 120 * 62, prevId := 62,
    minerTx := { (default : Transaction) with vin := [.gen 62] } }

/-- The difficulty is computed on `longChain` and the next block stored: the
window is cached one block below the new height, and the next call extends it. -/
theorem difficulty_window_cache_agrees_after_store :
    let s := withBlockStored idleEnv longChain.withDifficultyCached longChainTop 0 63 0 []
    s.usesCache s.db.height (difficultyBlocksCount s.getCurrentHardForkVersion s.db.height) = true ∧
      s.difficultyInputs s.db.height (difficultyBlocksCount s.getCurrentHardForkVersion s.db.height) =
        dbWindow s.db s.db.height (difficultyBlocksCount s.getCurrentHardForkVersion s.db.height) := by
  intro s
  have hrun : s.db.height = 63 ∧
      s.usesCache 63 (difficultyBlocksCount s.getCurrentHardForkVersion 63) = true := by
    decide +kernel
  -- the run: the difficulty is computed on `longChain`, then the block is stored
  have hevolves : Evolves idleEnv longChain s :=
    (ReflTransGen.single (.cacheDifficulty longChain)).tail (.storeBlock _ _ 0 63 0 [] (by simp) rfl)
  refine ⟨hrun.1 ▸ hrun.2, ?_⟩
  exact difficulty_window_cache_agrees idleEnv hevolves rfl (by rw [hrun.1]; decide)

end Blockchain

end ElectroneumClassic
