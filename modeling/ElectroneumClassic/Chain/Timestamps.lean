import ElectroneumClassic.Chain.AlternativeDifficulty
import ElectroneumClassic.Core.AltChain

/-!
# Timestamp checks of alternative blocks

`handle_alternative_block` checks a block's timestamp against the median of
the timestamps of the branch below it, newest first, which
`complete_timestamps_vector` tops up from the main chain below the fork.  The
check a main-chain block goes through, `check_block_timestamp(b)`, refuses a
block too far in the future, skips the median below a chain of
`BLOCKCHAIN_TIMESTAMP_CHECK_WINDOW` blocks, and otherwise takes it over the
last blocks of the chain, genesis included.

`withBranchAsMain` is the chain the branch would make with the main chain up
to the fork.  Where that chain is longer than the window and the branch no
longer than it, the two checks read the same window and differ only by the
future limit (`alternative_timestamp_check_agrees_on_full_window`).
Elsewhere they disagree: the branch check has no future limit, never reads
genesis, and takes its median however short the chain or long the branch
(`alternative_timestamp_check_diverges_from_main`).
-/

namespace ElectroneumClassic

open Cryptonote BlockchainDB Config

variable {Pool : Type}

namespace Blockchain

/-- The timestamp check of `handle_alternative_block` on `b`, `none` where the
block is orphaned or the walk down its branch or the branch's connection
check ends the call before it. -/
def alternativeTimestampCheck (s : Blockchain Pool) (b : Block) : Option Bool :=
  if (s.alternativeChains.lookup b.prevId).isNone && !s.db.blockExists b.prevId then none
  else (altChainFrom s.alternativeChains (s.alternativeChains.entries.length + 1) b.prevId []).bind
    fun altChain => (s.alternativeTimestamps b altChain).map (checkBlockTimestampMedian · b)

/-- The main-chain block the branch below `b` grows from. -/
def forkParent (b : Block) (altChain : List (Hash × BlockExtendedInfo)) : Hash :=
  match altChain.head? with
  | some (_, front) => front.bl.prevId
  | none => b.prevId

/-- The records the branch's blocks would have in the main chain; the
timestamp checks read only their blocks. -/
def branchRecords (altChain : List (Hash × BlockExtendedInfo)) : List BlockRecord :=
  altChain.map fun (h, bei) => ⟨bei.bl, h, 0, bei.cumulativeDifficulty, 0, 0⟩

/-- The node with the main chain up to `forkHeight` followed by the branch. -/
def withBranchAsMain (s : Blockchain Pool) (forkHeight : Nat)
    (altChain : List (Hash × BlockExtendedInfo)) : Blockchain Pool :=
  { s with db := { s.db with blocks := s.db.blocks.take (forkHeight + 1) ++ branchRecords altChain } }

variable {s : Blockchain Pool}

/-- `complete_timestamps_vector` adds main-chain timestamps from heights `1`
to `startTopHeight` only. -/
theorem mem_completeTimestampsVector {startTopHeight : Nat} {timestamps : List Nat} {v : Nat}
    (hmem : v ∈ s.completeTimestampsVector startTopHeight timestamps) :
    v ∈ timestamps ∨ ∃ i, 0 < i ∧ i ≤ startTopHeight ∧ v = s.db.getBlockTimestamp i := by
  unfold completeTimestampsVector at hmem
  split at hmem
  · exact .inl hmem
  · split at hmem
    · rcases List.mem_append.1 hmem with hmem | hmem
      · exact .inl hmem
      · obtain ⟨i, hi, rfl⟩ := List.mem_map.1 hmem
        rw [List.mem_reverse, List.mem_range'_1] at hi
        split at hi <;> exact .inr ⟨i, by omega, by omega, rfl⟩
    · exact .inl hmem

theorem completeTimestampsVector_of_shallow {startTopHeight : Nat} {timestamps : List Nat}
    (hstored : startTopHeight < s.db.height)
    (hshallow : startTopHeight + timestamps.length < BLOCKCHAIN_TIMESTAMP_CHECK_WINDOW) :
    s.completeTimestampsVector startTopHeight timestamps =
      timestamps ++ ((List.range' 1 startTopHeight).map s.db.getBlockTimestamp).reverse := by
  have hstop : ¬startTopHeight > BLOCKCHAIN_TIMESTAMP_CHECK_WINDOW - timestamps.length := by omega
  rw [completeTimestampsVector, if_neg (by omega), if_pos hstored, if_neg hstop]
  simp [List.map_reverse]

theorem alternativeTimestamps_eq {b : Block} {altChain : List (Hash × BlockExtendedInfo)}
    {timestamps : List Nat} (htimestamps : s.alternativeTimestamps b altChain = some timestamps) :
    timestamps = s.completeTimestampsVector (s.db.getBlockHeight (forkParent b altChain))
      (altChain.reverse.map (·.2.bl.timestamp)) := by
  unfold alternativeTimestamps at htimestamps
  unfold forkParent
  rcases hhead : altChain.head? with _ | ⟨h, front⟩
  · simp only [hhead, Option.some.injEq] at htimestamps
    exact htimestamps.symm
  · simp only [hhead] at htimestamps ⊢
    split_ifs at htimestamps
    exact (Option.some.inj htimestamps).symm

theorem checkBlockTimestamp_of_short {b : Block} (hshort : s.db.height < BLOCKCHAIN_TIMESTAMP_CHECK_WINDOW) :
    s.checkBlockTimestamp b = decide (b.timestamp ≤ s.now + CRYPTONOTE_BLOCK_FUTURE_TIME_LIMIT) := by
  by_cases hfuture : b.timestamp ≤ s.now + CRYPTONOTE_BLOCK_FUTURE_TIME_LIMIT
  · rw [checkBlockTimestamp, if_neg (not_lt.2 hfuture), if_pos hshort, decide_eq_true hfuture]
  · rw [checkBlockTimestamp, if_pos (not_le.1 hfuture), decide_eq_false hfuture]

theorem checkBlockTimestamp_of_long {b : Block} (hlong : BLOCKCHAIN_TIMESTAMP_CHECK_WINDOW ≤ s.db.height) :
    s.checkBlockTimestamp b =
      (decide (b.timestamp ≤ s.now + CRYPTONOTE_BLOCK_FUTURE_TIME_LIMIT) &&
        checkBlockTimestampMedian ((s.db.blocks.drop (s.db.height - BLOCKCHAIN_TIMESTAMP_CHECK_WINDOW)).map
          (·.block.timestamp)) b) := by
  have hwindow : (List.range' (s.db.height - BLOCKCHAIN_TIMESTAMP_CHECK_WINDOW) BLOCKCHAIN_TIMESTAMP_CHECK_WINDOW).map
      s.db.getBlockTimestamp =
      (s.db.blocks.drop (s.db.height - BLOCKCHAIN_TIMESTAMP_CHECK_WINDOW)).map (·.block.timestamp) := by
    rw [show s.db.getBlockTimestamp = fun i => (s.db.blockAt i).elim 0 (·.block.timestamp) from rfl,
      Db.map_range'_blockAt _ _ _ _ _ (by omega), List.take_of_length_le (by simp; omega)]
  by_cases hfuture : b.timestamp ≤ s.now + CRYPTONOTE_BLOCK_FUTURE_TIME_LIMIT
  · rw [checkBlockTimestamp, if_neg (not_lt.2 hfuture), if_neg (not_lt.2 hlong), decide_eq_true hfuture,
      Bool.true_and]
    exact congrArg (checkBlockTimestampMedian · b) hwindow
  · rw [checkBlockTimestamp, if_pos (not_le.1 hfuture), decide_eq_false hfuture, Bool.false_and]

theorem height_withBranchAsMain {forkHeight : Nat} (altChain : List (Hash × BlockExtendedInfo))
    (hstored : forkHeight < s.db.height) :
    (s.withBranchAsMain forkHeight altChain).db.height = forkHeight + 1 + altChain.length := by
  simp only [withBranchAsMain, Db.height_eq, List.length_append, List.length_take, branchRecords,
    List.length_map]
  simp only [Db.height_eq] at hstored
  omega

@[simp] theorem now_withBranchAsMain (forkHeight : Nat) (altChain : List (Hash × BlockExtendedInfo)) :
    (s.withBranchAsMain forkHeight altChain).now = s.now := rfl

@[simp] theorem blocks_withBranchAsMain (forkHeight : Nat) (altChain : List (Hash × BlockExtendedInfo)) :
    (s.withBranchAsMain forkHeight altChain).db.blocks = s.db.blocks.take (forkHeight + 1) ++ branchRecords altChain :=
  rfl

@[simp] theorem length_branchRecords (altChain : List (Hash × BlockExtendedInfo)) :
    (branchRecords altChain).length = altChain.length := by
  simp [branchRecords]

theorem timestamps_branchRecords (altChain : List (Hash × BlockExtendedInfo)) :
    (branchRecords altChain).map (·.block.timestamp) = altChain.map (·.2.bl.timestamp) := by
  simp [branchRecords, Function.comp_def]

theorem completeTimestampsVector_of_deep {startTopHeight : Nat} {timestamps : List Nat}
    (hstored : startTopHeight < s.db.height) (hshort : timestamps.length ≤ BLOCKCHAIN_TIMESTAMP_CHECK_WINDOW)
    (hdeep : BLOCKCHAIN_TIMESTAMP_CHECK_WINDOW ≤ startTopHeight + timestamps.length) :
    s.completeTimestampsVector startTopHeight timestamps =
      timestamps ++ (((s.db.blocks.drop (startTopHeight + 1 + timestamps.length - BLOCKCHAIN_TIMESTAMP_CHECK_WINDOW)).take
        (BLOCKCHAIN_TIMESTAMP_CHECK_WINDOW - timestamps.length)).map (·.block.timestamp)).reverse := by
  have hrange : (List.range' (startTopHeight + 1 + timestamps.length - BLOCKCHAIN_TIMESTAMP_CHECK_WINDOW)
      (BLOCKCHAIN_TIMESTAMP_CHECK_WINDOW - timestamps.length)).map s.db.getBlockTimestamp =
      ((s.db.blocks.drop (startTopHeight + 1 + timestamps.length - BLOCKCHAIN_TIMESTAMP_CHECK_WINDOW)).take
        (BLOCKCHAIN_TIMESTAMP_CHECK_WINDOW - timestamps.length)).map (·.block.timestamp) :=
    Db.map_range'_blockAt _ _ _ _ _ (by omega)
  unfold completeTimestampsVector
  by_cases hfull : BLOCKCHAIN_TIMESTAMP_CHECK_WINDOW ≤ timestamps.length
  · have hnone : BLOCKCHAIN_TIMESTAMP_CHECK_WINDOW - timestamps.length = 0 := by omega
    rw [if_pos hfull, hnone]
    simp
  · have hstop : (if startTopHeight > BLOCKCHAIN_TIMESTAMP_CHECK_WINDOW - timestamps.length then
        startTopHeight - (BLOCKCHAIN_TIMESTAMP_CHECK_WINDOW - timestamps.length) else 0) =
        startTopHeight + timestamps.length - BLOCKCHAIN_TIMESTAMP_CHECK_WINDOW := by
      split <;> omega
    rw [if_neg hfull, if_pos hstored, ← hrange, ← List.map_reverse]
    simp only [hstop]
    congr 4 <;> omega

theorem drop_withBranchAsMain {forkHeight : Nat} {altChain : List (Hash × BlockExtendedInfo)}
    (hstored : forkHeight < s.db.height) (hbranch : altChain.length ≤ BLOCKCHAIN_TIMESTAMP_CHECK_WINDOW)
    (hdeep : BLOCKCHAIN_TIMESTAMP_CHECK_WINDOW ≤ forkHeight + altChain.length) :
    (s.db.blocks.take (forkHeight + 1) ++ branchRecords altChain).drop
        (forkHeight + 1 + altChain.length - BLOCKCHAIN_TIMESTAMP_CHECK_WINDOW) =
      (s.db.blocks.drop (forkHeight + 1 + altChain.length - BLOCKCHAIN_TIMESTAMP_CHECK_WINDOW)).take
        (BLOCKCHAIN_TIMESTAMP_CHECK_WINDOW - altChain.length) ++ branchRecords altChain := by
  have hprefix : (s.db.blocks.take (forkHeight + 1)).length = forkHeight + 1 := by
    simp only [List.length_take, Db.height_eq] at hstored ⊢
    omega
  rw [List.drop_append_of_le_length (by omega), List.drop_take]
  congr 2
  omega

theorem alternative_timestamp_check_agrees_on_full_window {b : Block}
    {altChain : List (Hash × BlockExtendedInfo)} {timestamps : List Nat}
    (hparent : s.db.blockExists (forkParent b altChain) = true)
    (htimestamps : s.alternativeTimestamps b altChain = some timestamps)
    (hbranch : altChain.length ≤ BLOCKCHAIN_TIMESTAMP_CHECK_WINDOW)
    (hdeep : BLOCKCHAIN_TIMESTAMP_CHECK_WINDOW ≤ s.db.getBlockHeight (forkParent b altChain) + altChain.length) :
    (s.withBranchAsMain (s.db.getBlockHeight (forkParent b altChain)) altChain).checkBlockTimestamp b =
      (decide (b.timestamp ≤ s.now + CRYPTONOTE_BLOCK_FUTURE_TIME_LIMIT) &&
        checkBlockTimestampMedian timestamps b) := by
  have hstored := Db.getBlockHeight_lt hparent
  have hheight := height_withBranchAsMain altChain hstored
  -- the branch check reads the main check's window newest first
  have hwindow : ((s.withBranchAsMain (s.db.getBlockHeight (forkParent b altChain)) altChain).db.blocks.drop
      ((s.withBranchAsMain (s.db.getBlockHeight (forkParent b altChain)) altChain).db.height -
        BLOCKCHAIN_TIMESTAMP_CHECK_WINDOW)).map (·.block.timestamp) = timestamps.reverse := by
    rw [alternativeTimestamps_eq htimestamps,
      completeTimestampsVector_of_deep hstored (by simpa using hbranch) (by simpa using hdeep),
      hheight, blocks_withBranchAsMain, drop_withBranchAsMain hstored hbranch hdeep]
    simp [List.length_reverse, timestamps_branchRecords, List.map_reverse]
  rw [checkBlockTimestamp_of_long (by omega), hwindow, now_withBranchAsMain]
  unfold checkBlockTimestampMedian
  rw [median_eq_of_perm (List.reverse_perm timestamps)]

theorem getBlockTimestamp_le {db : Db} {bound : Nat}
    (hbound : ∀ record ∈ db.blocks, record.block.timestamp ≤ bound) (i : Nat) :
    db.getBlockTimestamp i ≤ bound := by
  unfold Db.getBlockTimestamp Db.blockAt
  cases hrecord : db.blocks[i]? with
  | none => exact Nat.zero_le _
  | some record => exact hbound record (List.mem_of_getElem? hrecord)

/-- A block whose parent is a main-chain block and not an alternative one
starts a branch: the check reads the main chain below the parent alone. -/
theorem alternativeTimestampCheck_of_main_parent {b : Block} (hparent : s.db.blockExists b.prevId = true)
    (hnotAlternative : s.alternativeChains.lookup b.prevId = none) :
    s.alternativeTimestampCheck b =
      some (checkBlockTimestampMedian (s.completeTimestampsVector (s.db.getBlockHeight b.prevId) []) b) := by
  have hwalk : altChainFrom s.alternativeChains (s.alternativeChains.entries.length + 1) b.prevId [] =
      some [] := by
    simp [altChainFrom, hnotAlternative]
  simp [alternativeTimestampCheck, hparent, hwalk, alternativeTimestamps]

theorem alternative_timestamp_check_diverges_from_main (s : Blockchain Pool) (b : Block)
    (hparent : s.db.blockExists b.prevId = true)
    (hnotAlternative : s.alternativeChains.lookup b.prevId = none) :
    (s.now + CRYPTONOTE_BLOCK_FUTURE_TIME_LIMIT < b.timestamp →
      (∀ record ∈ s.db.blocks, record.block.timestamp ≤ b.timestamp) →
      s.alternativeTimestampCheck b = some true ∧
        (s.withBranchAsMain (s.db.getBlockHeight b.prevId) []).checkBlockTimestamp b = false) ∧
    (0 < s.db.getBlockHeight b.prevId →
      s.db.getBlockHeight b.prevId + 1 < BLOCKCHAIN_TIMESTAMP_CHECK_WINDOW →
      b.timestamp ≤ s.now + CRYPTONOTE_BLOCK_FUTURE_TIME_LIMIT →
      (∀ i, 0 < i → i ≤ s.db.getBlockHeight b.prevId →
        b.timestamp < s.db.getBlockTimestamp i ∧ s.db.getBlockTimestamp i < 2 ^ 63) →
      s.alternativeTimestampCheck b = some false ∧
        (s.withBranchAsMain (s.db.getBlockHeight b.prevId) []).checkBlockTimestamp b = true) := by
  have hstored := Db.getBlockHeight_lt hparent
  have hheight := height_withBranchAsMain (s := s) [] hstored
  rw [alternativeTimestampCheck_of_main_parent hparent hnotAlternative]
  constructor
  · -- no future limit on the branch: a block later than the whole chain passes
    intro hfuture hlater
    have hmedian : median (s.completeTimestampsVector (s.db.getBlockHeight b.prevId) []) ≤ b.timestamp := by
      apply median_le
      intro v hv
      rcases mem_completeTimestampsVector hv with hv | ⟨i, -, -, rfl⟩
      · simp at hv
      · exact getBlockTimestamp_le hlater i
    refine ⟨by simp [checkBlockTimestampMedian, hmedian], ?_⟩
    rw [checkBlockTimestamp, if_pos (by simpa using hfuture)]
  · -- below the window the main check skips the median, the branch check takes it without genesis
    intro hpositive hshort hpresent hearlier
    have hwindow : s.completeTimestampsVector (s.db.getBlockHeight b.prevId) [] =
        [] ++ ((List.range' 1 (s.db.getBlockHeight b.prevId)).map s.db.getBlockTimestamp).reverse :=
      completeTimestampsVector_of_shallow hstored (by simp only [List.length_nil]; omega)
    have hmedian : b.timestamp < median (s.completeTimestampsVector (s.db.getBlockHeight b.prevId) []) := by
      rw [hwindow]
      apply lt_median
      · simp [List.range'_eq_nil_iff]
        omega
      · intro v hv
        simp only [List.nil_append, List.mem_reverse, List.mem_map, List.mem_range'_1] at hv
        obtain ⟨i, hi, rfl⟩ := hv
        exact (hearlier i (by omega) (by omega)).1
      · intro v hv
        simp only [List.nil_append, List.mem_reverse, List.mem_map, List.mem_range'_1] at hv
        obtain ⟨i, hi, rfl⟩ := hv
        exact (hearlier i (by omega) (by omega)).2
    refine ⟨by simp [checkBlockTimestampMedian, hmedian], ?_⟩
    rw [checkBlockTimestamp_of_short (by rw [hheight]; simpa using hshort), now_withBranchAsMain]
    exact decide_eq_true hpresent

/-- `handle_alternative_block` refuses a block whose timestamp check fails,
with the state as it was but for the difficulty cache's height. -/
theorem handleAlternativeBlock_of_timestamp_refused {env : Env Pool} {fuel : Nat} {b : Block} {id : Hash}
    (hheight : getBlockHeight b ≠ 0)
    (hallowed : s.checkpoints.isAlternativeBlockAllowed s.getCurrentBlockchainHeight (getBlockHeight b) = true)
    (hversion : s.hardfork.checkForHeight b (getBlockHeight b) = true)
    (hrefused : s.alternativeTimestampCheck b = some false) :
    (handleAlternativeBlock env (fuel + 1) b id).run s = .ok false { s with timestampsAndDifficultiesHeight := 0 } := by
  unfold alternativeTimestampCheck at hrefused
  split_ifs at hrefused with horphan
  obtain ⟨altChain, hwalk, hcheck⟩ := Option.bind_eq_some_iff.1 hrefused
  obtain ⟨timestamps, htimestamps, hmedian⟩ := Option.map_eq_some_iff.1 hcheck
  have hnotOrphan : ¬(s.alternativeChains.lookup b.prevId = none ∧ s.db.blockExists b.prevId = false) := by
    simpa [Option.isNone_iff_eq_none] using horphan
  -- the reset of the cache's height changes nothing the checks before the timestamps read
  have hcurrent : ({ s with timestampsAndDifficultiesHeight := 0 } : Blockchain Pool).getCurrentBlockchainHeight =
      s.getCurrentBlockchainHeight := rfl
  have hreset : ({ s with timestampsAndDifficultiesHeight := 0 } : Blockchain Pool).alternativeTimestamps b altChain =
      s.alternativeTimestamps b altChain := rfl
  simp [handleAlternativeBlock, hheight, hcurrent, hallowed, hversion, hwalk, hreset, htimestamps, hmedian, hnotOrphan]

/-- A main chain of genesis at time `0`, block 1, hash `2`, at time `100` and
block 2, hash `3`, at time `200`. -/
def earlyChain : Blockchain Unit :=
  versionEightChain
    [windowRecord (0, 1), { windowRecord (100, 2) with hash := 2 }, { windowRecord (200, 3) with hash := 3 }]

/-- A block on block 1 at time `50`: an alternative block, since block 2 is
the top. -/
def earlyBlock : Block := { (default : Block) with prevId := 2, timestamp := 50 }

theorem alternative_timestamp_check_diverges_on_early_chain :
    earlyChain.db.blockExists earlyBlock.prevId = true ∧
      earlyChain.alternativeChains.lookup earlyBlock.prevId = none ∧
      earlyChain.alternativeTimestampCheck earlyBlock = some false ∧
      (earlyChain.withBranchAsMain (earlyChain.db.getBlockHeight earlyBlock.prevId) []).checkBlockTimestamp
        earlyBlock = true :=
  ⟨by decide, rfl,
    (alternative_timestamp_check_diverges_from_main earlyChain earlyBlock (by decide) rfl).2
      (by decide) (by decide) (by decide)
      (fun i hpositive hle => by
        have hone : earlyChain.db.getBlockHeight earlyBlock.prevId = 1 := by decide
        obtain rfl : i = 1 := by omega
        decide)⟩

end Blockchain

end ElectroneumClassic
