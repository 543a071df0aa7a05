import ElectroneumClassic.Core.State
import ElectroneumClassic.Basic.Difficulty
import ElectroneumClassic.Basic.Reward

/-!
# Difficulty and timestamp windows

`get_difficulty_for_next_block` reads the timestamps and cumulative
difficulties of the last blocks of the main chain, genesis excluded, and keeps
them in a cache (`m_timestamps`, `m_difficulties`, valid for
`m_timestamps_and_difficulties_height`) that a next call one block higher
extends by one block instead of reading the window again.
`get_next_difficulty_for_alternative_chain` assembles the window for an
alternative block from the main chain below the fork and the alternative
blocks above it.  Both pick the window length and the algorithm from the main
chain's height and hard-fork version, each with its own chain of cases.
-/

namespace ElectroneumClassic

open Cryptonote BlockchainDB Config Machine

variable {Pool : Type}

namespace Blockchain

/-- `difficultyBlocksCount` of both difficulty paths. -/
def difficultyBlocksCount (version height : Nat) : Nat :=
  if version ≥ 9 then DIFFICULTY_BLOCKS_COUNT_V9
  else if height ≥ 2 then DIFFICULTY_BLOCKS_COUNT_V6
  else DIFFICULTY_BLOCKS_COUNT

/-- The algorithm `get_difficulty_for_next_block` applies: LWMA-3 from version 8. -/
def mainChainDifficulty (timestamps difficulties : List Nat) (height version : Nat) : Nat :=
  if height < 2 then nextDifficulty timestamps difficulties DIFFICULTY_TARGET version
  else if height < HARDFORK_EMERGENCY_V6_HEIGHT then
    nextDifficultyV2 timestamps difficulties DIFFICULTY_TARGET
  else if version < 8 then nextDifficultyV3 timestamps difficulties DIFFICULTY_TARGET
  else nextDifficultyV9 timestamps difficulties DIFFICULTY_TARGET

/-- The algorithm `get_next_difficulty_for_alternative_chain` applies: LWMA-3
from version 9. -/
def alternativeChainDifficulty (timestamps difficulties : List Nat) (height version : Nat) : Nat :=
  if height < 2 then nextDifficulty timestamps difficulties DIFFICULTY_TARGET version
  else if height < HARDFORK_EMERGENCY_V6_HEIGHT then
    nextDifficultyV2 timestamps difficulties DIFFICULTY_TARGET
  else if version < 9 then nextDifficultyV3 timestamps difficulties DIFFICULTY_TARGET
  else nextDifficultyV9 timestamps difficulties DIFFICULTY_TARGET

/-- The heights the uncached branch reads: the last `count` below `height`,
never the genesis block. -/
def windowStart (height count : Nat) : Nat :=
  let offset := height - min height count
  if offset = 0 then 1 else offset

/-- The uncached branch's read of the database. -/
def dbWindow (db : Db) (height count : Nat) : List Nat × List Nat :=
  let heights := List.range' (windowStart height count) (height - windowStart height count)
  (heights.map db.getBlockTimestamp, heights.map db.getBlockCumulativeDifficulty)

/-- The cached branch's update: push the newest value, then erase from the
front until at most `count` remain. -/
def pushWindow (values : List Nat) (value count : Nat) : List Nat :=
  (values ++ [value]).drop ((values ++ [value]).length - count)

/-- Whether `get_difficulty_for_next_block` extends the cache. -/
def usesCache (s : Blockchain Pool) (height count : Nat) : Bool :=
  s.timestampsAndDifficultiesHeight != 0 &&
    subU64 height s.timestampsAndDifficultiesHeight == 1 && count ≤ s.timestamps.length

/-- The windows `get_difficulty_for_next_block` hands to the algorithm. -/
def difficultyInputs (s : Blockchain Pool) (height count : Nat) : List Nat × List Nat :=
  if s.usesCache height count then
    (pushWindow s.timestamps (s.db.getBlockTimestamp (height - 1)) count,
      pushWindow s.difficulties (s.db.getBlockCumulativeDifficulty (height - 1)) count)
  else dbWindow s.db height count

/-- `get_difficulty_for_next_block`: the difficulty the next main-chain block
must meet, answered from the top-hash cache when the top block has not changed. -/
def getDifficultyForNextBlock : BcM Pool Nat := do
  let s ← get
  if s.fixedDifficulty ≠ 0 then
    return if s.db.height ≠ 0 then s.fixedDifficulty else 1
  let version := s.getCurrentHardForkVersion
  let height := s.db.height
  let count := difficultyBlocksCount version height
  let topHash := s.getTailId
  if topHash = s.difficultyForNextBlockTopHash then
    return s.difficultyForNextBlock
  let (timestamps, difficulties) := s.difficultyInputs height count
  let diff := mainChainDifficulty timestamps difficulties height version
  set { s with
    timestampsAndDifficultiesHeight := height
    timestamps := timestamps
    difficulties := difficulties
    difficultyForNextBlockTopHash := topHash
    difficultyForNextBlock := diff }
  return diff

/-- The window of `get_next_difficulty_for_alternative_chain`; `none` where
its consistency check fails. -/
def alternativeWindow (s : Blockchain Pool) (altChain : List BlockExtendedInfo)
    (bei : BlockExtendedInfo) (count : Nat) : Option (List Nat × List Nat) :=
  if altChain.length < count then
    let stopOffset := match altChain.head? with
      | some front => front.height
      | none => bei.height
    let mainCount := min (count - min count altChain.length) stopOffset
    let startOffset := stopOffset - mainCount
    -- skip genesis block
    let startOffset := if startOffset = 0 then 1 else startOffset
    let heights := List.range' startOffset (stopOffset - startOffset)
    if altChain.length + heights.length ≤ count then
      some (heights.map s.db.getBlockTimestamp ++ altChain.map (·.bl.timestamp),
        heights.map s.db.getBlockCumulativeDifficulty ++ altChain.map (·.cumulativeDifficulty))
    else none
  else
    let recent := altChain.drop (altChain.length - count)
    some (recent.map (·.bl.timestamp), recent.map (·.cumulativeDifficulty))

/-- `get_next_difficulty_for_alternative_chain`: the difficulty of the block
`bei` on top of `altChain`; `0` where the source returns `false`. -/
def getNextDifficultyForAlternativeChain (s : Blockchain Pool)
    (altChain : List BlockExtendedInfo) (bei : BlockExtendedInfo) : Nat :=
  if s.fixedDifficulty ≠ 0 then (if s.db.height ≠ 0 then s.fixedDifficulty else 1)
  else
    let version := s.getCurrentHardForkVersion
    let height := s.db.height
    match s.alternativeWindow altChain bei (difficultyBlocksCount version height) with
    | none => 0
    | some (timestamps, difficulties) =>
      alternativeChainDifficulty timestamps difficulties height version

/-- `check_block_timestamp(timestamps, b)`: not below the median. -/
def checkBlockTimestampMedian (timestamps : List Nat) (b : Block) : Bool :=
  decide (median timestamps ≤ b.timestamp)

/-- `check_block_timestamp(b)`: not too far in the future, and not below the
median of the last `BLOCKCHAIN_TIMESTAMP_CHECK_WINDOW` blocks once there are
that many. -/
def checkBlockTimestamp (s : Blockchain Pool) (b : Block) : Bool :=
  if b.timestamp > s.now + CRYPTONOTE_BLOCK_FUTURE_TIME_LIMIT then false
  else if s.db.height < BLOCKCHAIN_TIMESTAMP_CHECK_WINDOW then true
  else
    let h := s.db.height
    checkBlockTimestampMedian
      ((List.range' (h - BLOCKCHAIN_TIMESTAMP_CHECK_WINDOW) BLOCKCHAIN_TIMESTAMP_CHECK_WINDOW).map
        s.db.getBlockTimestamp) b

/-- `complete_timestamps_vector`: main-chain timestamps from `startTopHeight`
down, until the window is full; the block at the stop offset is not read. -/
def completeTimestampsVector (s : Blockchain Pool) (startTopHeight : Nat)
    (timestamps : List Nat) : List Nat :=
  if timestamps.length ≥ BLOCKCHAIN_TIMESTAMP_CHECK_WINDOW then timestamps
  else
    let needElements := BLOCKCHAIN_TIMESTAMP_CHECK_WINDOW - timestamps.length
    if startTopHeight < s.db.height then
      let stopOffset := if startTopHeight > needElements then startTopHeight - needElements else 0
      timestamps ++ ((List.range' (stopOffset + 1) (startTopHeight - stopOffset)).reverse.map
        s.db.getBlockTimestamp)
    else timestamps

/-- The state `get_difficulty_for_next_block` leaves when it computes the
difficulty afresh: both caches hold the new window and difficulty. -/
def withDifficultyCached (s : Blockchain Pool) : Blockchain Pool :=
  let version := s.getCurrentHardForkVersion
  let height := s.db.height
  let inputs := s.difficultyInputs height (difficultyBlocksCount version height)
  { s with
    timestampsAndDifficultiesHeight := height
    timestamps := inputs.1
    difficulties := inputs.2
    difficultyForNextBlockTopHash := s.getTailId
    difficultyForNextBlock := mainChainDifficulty inputs.1 inputs.2 height version }

theorem getDifficultyForNextBlock_run (s : Blockchain Pool) :
    getDifficultyForNextBlock.run s =
      if s.fixedDifficulty ≠ 0 then .ok (if s.db.height ≠ 0 then s.fixedDifficulty else 1) s
      else if s.getTailId = s.difficultyForNextBlockTopHash then .ok s.difficultyForNextBlock s
      else .ok s.withDifficultyCached.difficultyForNextBlock s.withDifficultyCached := by
  by_cases hfixed : s.fixedDifficulty = 0
  swap
  · simp [getDifficultyForNextBlock, hfixed]
  by_cases htop : s.getTailId = s.difficultyForNextBlockTopHash
  · simp [getDifficultyForNextBlock, hfixed, htop]
  · simp [getDifficultyForNextBlock, withDifficultyCached, hfixed, htop]

theorem windowStart_of_lt {height count : Nat} (h : count < height) :
    windowStart height count = height - count := by
  simp only [windowStart, Nat.min_eq_right h.le]
  rw [if_neg (by omega)]

/-- Below a chain of more than `count` blocks the uncached window is the last
`count` stored blocks. -/
theorem dbWindow_eq_drop (db : Db) (count : Nat) (hcount : count < db.height) :
    dbWindow db db.height count =
      ((db.blocks.drop (db.height - count)).map (·.block.timestamp),
        (db.blocks.drop (db.height - count)).map (·.cumulativeDifficulty)) := by
  have hfit : db.height - count + count ≤ db.height := by omega
  have htake : (db.blocks.drop (db.height - count)).take count = db.blocks.drop (db.height - count) :=
    List.take_of_length_le (by simp only [List.length_drop, ← Db.height_eq]; omega)
  simp only [dbWindow, windowStart_of_lt hcount, show db.height - (db.height - count) = count by omega]
  rw [← htake]
  exact Prod.ext (db.map_range'_blockAt _ 0 _ count hfit) (db.map_range'_blockAt _ 0 _ count hfit)

/-- An alternative branch at least `count` long is the whole window. -/
theorem alternativeWindow_of_le_length (s : Blockchain Pool) (altChain : List BlockExtendedInfo)
    (bei : BlockExtendedInfo) {count : Nat} (hcount : count ≤ altChain.length) :
    s.alternativeWindow altChain bei count =
      some ((altChain.drop (altChain.length - count)).map (·.bl.timestamp),
        (altChain.drop (altChain.length - count)).map (·.cumulativeDifficulty)) := by
  simp [alternativeWindow, Nat.not_lt.2 hcount]

/-- `get_last_n_blocks_weights`. -/
def getLastNBlocksWeights (db : Db) (count : Nat) : List Nat :=
  (List.range' (db.height - min db.height count) (min db.height count)).map db.getBlockWeight

end Blockchain

/-! ## The median rule and LWMA-2 -/

/-- The timestamps of a chain pass the median rule of `check_block_timestamp`
block by block: from the `BLOCKCHAIN_TIMESTAMP_CHECK_WINDOW`-th block on, no
timestamp is below the median of the window before it. -/
def MedianAdmissible (timestamps : List Nat) : Prop :=
  ∀ k (bound : k < timestamps.length), BLOCKCHAIN_TIMESTAMP_CHECK_WINDOW ≤ k →
    median ((timestamps.take k).drop (k - BLOCKCHAIN_TIMESTAMP_CHECK_WINDOW)) ≤ timestamps[k]

/-- Blocks stamped no earlier than every block before them pass the median rule. -/
theorem MedianAdmissible.append_replicate {earlier : List Nat} {t : Nat} (m : Nat)
    (admissible : MedianAdmissible earlier) (latest : ∀ x ∈ earlier, x ≤ t) :
    MedianAdmissible (earlier ++ List.replicate m t) := by
  intro k bound deep
  by_cases old : k < earlier.length
  · -- a block of the earlier chain sees only earlier blocks
    rw [List.take_append_of_le_length old.le, List.getElem_append_left old]
    exact admissible k old deep
  · -- a new block is stamped `t`, and no block before it is later than `t`
    rw [List.getElem_append_right (by omega), List.getElem_replicate]
    apply median_le
    intro v member
    rcases List.mem_append.1 (List.mem_of_mem_take (List.mem_of_mem_drop member)) with early | late
    · exact latest v early
    · exact (List.eq_of_mem_replicate late).le

/-- The median rule lets a chain end in `DIFFICULTY_BLOCKS_COUNT_V6` blocks of
one timestamp, and on that window the weighted solve-time sum `L`, which
`next_difficulty_v3` divides by, is `0`. -/
theorem flat_tail_zeroes_lwma2_divisor {earlier : List Nat} {t m : Nat}
    (admissible : MedianAdmissible earlier) (latest : ∀ x ∈ earlier, x ≤ t)
    (long : DIFFICULTY_BLOCKS_COUNT_V6 ≤ m) :
    let chain := earlier ++ List.replicate m t
    MedianAdmissible chain ∧ lwma2Sums (chain.drop (chain.length - DIFFICULTY_BLOCKS_COUNT_V6)) = (0, 0) := by
  intro chain
  have window : chain.drop (chain.length - DIFFICULTY_BLOCKS_COUNT_V6) =
      List.replicate DIFFICULTY_BLOCKS_COUNT_V6 t := by
    simp only [chain, List.length_append, List.length_replicate, List.drop_append, List.drop_replicate]
    rw [List.drop_eq_nil_of_le (by omega), List.nil_append]
    congr 1
    omega
  refine ⟨admissible.append_replicate m latest, lwma2Sums_of_flat ?_⟩
  intro i bound
  have inWindow : i < DIFFICULTY_BLOCKS_COUNT_V6 := by
    unfold DIFFICULTY_BLOCKS_COUNT_V6
    omega
  rw [window, List.getD_eq_getElem _ _ (by rw [List.length_replicate]; exact inWindow),
    List.getD_eq_getElem _ _ (by rw [List.length_replicate]; unfold DIFFICULTY_BLOCKS_COUNT_V6; omega),
    List.getElem_replicate, List.getElem_replicate]

theorem flat_chain_of_sixty_one_blocks :
    (MedianAdmissible [] ∧ (∀ x ∈ ([] : List Nat), x ≤ 1600000000) ∧ DIFFICULTY_BLOCKS_COUNT_V6 ≤ 61) ∧
      (MedianAdmissible ([] ++ List.replicate 61 1600000000) ∧
        lwma2Sums (([] ++ List.replicate 61 1600000000).drop
          (([] ++ List.replicate 61 1600000000).length - DIFFICULTY_BLOCKS_COUNT_V6)) = (0, 0)) := by
  have admissible : MedianAdmissible [] := fun k bound => absurd bound (Nat.not_lt_zero k)
  have latest : ∀ x ∈ ([] : List Nat), x ≤ 1600000000 := fun x member => absurd member List.not_mem_nil
  have long : DIFFICULTY_BLOCKS_COUNT_V6 ≤ 61 := le_refl 61
  exact ⟨⟨admissible, latest, long⟩, flat_tail_zeroes_lwma2_divisor admissible latest long⟩

end ElectroneumClassic
