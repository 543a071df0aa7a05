import ElectroneumClassic.Core.Difficulty

/-!
# The difficulty of an alternative block

`get_next_difficulty_for_alternative_chain` should ask of a block on a branch
what `get_difficulty_for_next_block` would ask of it if the branch were the
main chain.  The two paths choose the algorithm with separate chains of cases:
the main chain switches to LWMA-3 (`next_difficulty_v9`) at hard-fork version
8, the alternative path only at version 9.  Everywhere else the choice is the
same (`alternativeChainDifficulty_eq_main`); at version 8 above the emergency
height they differ, and on the window `divergingWindow` the alternative path
asks 990 where the main chain asks 2010.
-/

namespace ElectroneumClassic

open Cryptonote BlockchainDB Config Machine

variable {Pool : Type}

namespace Blockchain

/-- The two algorithm choices agree at every version but 8. -/
theorem alternativeChainDifficulty_eq_main (timestamps difficulties : List Nat) {height version : Nat}
    (hversion : version ≠ 8) :
    alternativeChainDifficulty timestamps difficulties height version =
      mainChainDifficulty timestamps difficulties height version := by
  unfold alternativeChainDifficulty mainChainDifficulty
  by_cases hlow : version < 8
  · simp [hlow, show version < 9 by omega]
  · simp [hlow, show ¬version < 9 by omega]

/-- At version 8 above the emergency height the alternative path applies
LWMA-2 where the main chain applies LWMA-3. -/
theorem alternativeChainDifficulty_of_version_eight (timestamps difficulties : List Nat) {height : Nat}
    (hheight : HARDFORK_EMERGENCY_V6_HEIGHT ≤ height) :
    alternativeChainDifficulty timestamps difficulties height 8 =
        nextDifficultyV3 timestamps difficulties DIFFICULTY_TARGET ∧
      mainChainDifficulty timestamps difficulties height 8 =
        nextDifficultyV9 timestamps difficulties DIFFICULTY_TARGET := by
  have hnot : ¬height < HARDFORK_EMERGENCY_V6_HEIGHT := Nat.not_lt.2 hheight
  have hnot2 : ¬height < 2 := by simp only [HARDFORK_EMERGENCY_V6_HEIGHT] at hheight; omega
  exact ⟨by simp [alternativeChainDifficulty, hnot, hnot2],
    by simp [mainChainDifficulty, hnot, hnot2]⟩

/-- A branch of a minute per block at difficulty 1000, whose last block has
difficulty 3000: the timestamps and cumulative difficulties of its 61 blocks. -/
def divergingWindow : List (Nat × Nat) :=
  (List.range 61).map fun i => (1000 + 60 * i, 1000 * (i + 1) + if i = 60 then 2000 else 0)

theorem divergingWindow_length : divergingWindow.length = 61 := by simp [divergingWindow]

/-- Above the emergency height at version 8, with a branch of 61 blocks
carrying `divergingWindow`, the alternative path asks 990 of the next block;
a main chain whose last 61 blocks carry the same window, at the same version,
asks 2010 of it. -/
theorem alternative_difficulty_differs_at_version_eight (s t : Blockchain Pool)
    (branch : List BlockExtendedInfo) (bei : BlockExtendedInfo)
    (hbranch : branch.map (fun e => (e.bl.timestamp, e.cumulativeDifficulty)) = divergingWindow)
    (hfixed : s.fixedDifficulty = 0) (hversion : s.getCurrentHardForkVersion = 8)
    (hheight : HARDFORK_EMERGENCY_V6_HEIGHT ≤ s.db.height)
    (hfixedMain : t.fixedDifficulty = 0) (hversionMain : t.getCurrentHardForkVersion = 8)
    (hheightMain : HARDFORK_EMERGENCY_V6_HEIGHT ≤ t.db.height)
    (htop : (t.db.blocks.drop (t.db.height - 61)).map
      (fun r => (r.block.timestamp, r.cumulativeDifficulty)) = divergingWindow)
    (hcold : t.timestampsAndDifficultiesHeight = 0)
    (hnew : t.getTailId ≠ t.difficultyForNextBlockTopHash) :
    s.getNextDifficultyForAlternativeChain branch bei = 990 ∧
      getDifficultyForNextBlock.run t = .ok 2010 t.withDifficultyCached := by
  have hlen : branch.length = 61 := by
    simpa [divergingWindow] using congrArg List.length hbranch
  have hcount : ∀ height, HARDFORK_EMERGENCY_V6_HEIGHT ≤ height →
      difficultyBlocksCount 8 height = 61 := by
    intro height hh
    simp only [HARDFORK_EMERGENCY_V6_HEIGHT] at hh
    simp [difficultyBlocksCount, DIFFICULTY_BLOCKS_COUNT_V6, DIFFICULTY_WINDOW_V6]
    omega
  -- both windows are the branch's, as timestamps and cumulative difficulties
  have hts : branch.map (·.bl.timestamp) = divergingWindow.map Prod.fst := by
    rw [← hbranch, List.map_map]; rfl
  have hcds : branch.map (·.cumulativeDifficulty) = divergingWindow.map Prod.snd := by
    rw [← hbranch, List.map_map]; rfl
  have htsMain : (t.db.blocks.drop (t.db.height - 61)).map (·.block.timestamp) =
      divergingWindow.map Prod.fst := by
    rw [← htop, List.map_map]; rfl
  have hcdsMain : (t.db.blocks.drop (t.db.height - 61)).map (·.cumulativeDifficulty) =
      divergingWindow.map Prod.snd := by
    rw [← htop, List.map_map]; rfl
  have hnoCache : t.usesCache t.db.height 61 = false := by simp [usesCache, hcold]
  constructor
  · have hwindow := s.alternativeWindow_of_le_length branch bei (show 61 ≤ branch.length by omega)
    simp only [hlen, Nat.sub_self, List.drop_zero, hts, hcds] at hwindow
    simp only [getNextDifficultyForAlternativeChain, hfixed, ne_eq, not_true_eq_false, if_false,
      hversion, hcount _ hheight, hwindow, (alternativeChainDifficulty_of_version_eight _ _ hheight).1]
    decide +kernel
  · have hwindow := dbWindow_eq_drop t.db 61 (by
      simp only [HARDFORK_EMERGENCY_V6_HEIGHT] at hheightMain; omega)
    rw [htsMain, hcdsMain] at hwindow
    rw [getDifficultyForNextBlock_run]
    simp only [hfixedMain, hnew, ne_eq, not_true_eq_false, if_false, EStateM.Result.ok.injEq, and_true]
    simp only [withDifficultyCached, difficultyInputs, hversionMain, hcount _ hheightMain, hnoCache,
      Bool.false_eq_true, if_false, hwindow, (alternativeChainDifficulty_of_version_eight _ _ hheightMain).2]
    decide +kernel

/-- A hard-fork object at version 8, the last of eight forks. -/
def versionEightHardFork : HardFork :=
  { originalVersion := 1, originalVersionTillHeight := 0, windowSize := 10080,
    defaultThresholdPercent := 80, heights := (List.range 8).map fun v => ⟨v + 1, v, 0, 0⟩,
    versions := [], lastVersions := [], currentForkIndex := 7 }

/-- A chain at version 8 over the given blocks, with cold caches. -/
def versionEightChain (blocks : List BlockRecord) : Blockchain Unit :=
  { db := ⟨blocks, [], [], [], [], false⟩, hardfork := versionEightHardFork, pool := (),
    checkpoints := ⟨∅⟩, alternativeChains := ∅, invalidBlocks := ∅,
    timestampsAndDifficultiesHeight := 0, timestamps := [], difficulties := [],
    difficultyForNextBlockTopHash := 0, difficultyForNextBlock := 0, blocksHashOfHashes := [],
    blocksHashCheck := [], blocksTxsCheck := [], fixedDifficulty := 0, now := 0 }

/-- A stored block carrying a timestamp and a cumulative difficulty. -/
def windowRecord (entry : Nat × Nat) : BlockRecord :=
  { block := { (default : Block) with timestamp := entry.1 }, hash := 1, weight := 0,
    cumulativeDifficulty := entry.2, coinsGenerated := 0, cumRct := 0 }

theorem alternative_difficulty_differs_on_sample :
    (versionEightChain (List.replicate 12500 (windowRecord (0, 0)))).getNextDifficultyForAlternativeChain
        (divergingWindow.map fun e => ⟨(windowRecord e).block, 0, e.2⟩) ⟨default, 12500, 0⟩ = 990 ∧
      getDifficultyForNextBlock.run
          (versionEightChain (List.replicate 12439 (windowRecord (0, 0)) ++ divergingWindow.map windowRecord)) =
        .ok 2010 (versionEightChain
          (List.replicate 12439 (windowRecord (0, 0)) ++ divergingWindow.map windowRecord)).withDifficultyCached :=
  alternative_difficulty_differs_at_version_eight _ _ _ _
    (by simp only [List.map_map, Function.comp_def, windowRecord, List.map_id'])
    rfl (by decide)
    (by simp only [versionEightChain, Db.height_eq, List.length_replicate, HARDFORK_EMERGENCY_V6_HEIGHT]; omega)
    rfl (by decide)
    (by simp only [versionEightChain, Db.height_eq, List.length_append, List.length_replicate,
          List.length_map, divergingWindow_length, HARDFORK_EMERGENCY_V6_HEIGHT]; omega)
    (by
      simp only [versionEightChain, Db.height_eq, List.length_append, List.length_replicate,
        List.length_map, divergingWindow_length, Nat.add_sub_cancel]
      rw [List.drop_left' (List.length_replicate ..)]
      simp only [List.map_map, Function.comp_def, windowRecord, List.map_id'])
    rfl (by decide +kernel)

end Blockchain

end ElectroneumClassic
