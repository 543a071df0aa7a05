import Mathlib.Data.List.AList
import ElectroneumClassic.Basic.Types

/-!
# Checkpoints

`checkpoints.cpp`: the hashes hard-coded for some heights.  A block at a
checkpointed height must have the checkpoint's hash; up to the highest
checkpoint the main chain checks every block against the table, and an
alternative block must lie above the last checkpoint the main chain has reached.
-/

namespace ElectroneumClassic

/-- `m_points`: the hash required at each checkpointed height. -/
structure Checkpoints where
  points : AList (fun _ : Nat => Hash)

namespace Checkpoints

/-- `add_checkpoint`: `none` where a height already holds another hash. -/
def addCheckpoint (cp : Checkpoints) (height : Nat) (hash : Hash) : Option Checkpoints :=
  match cp.points.lookup height with
  | some existing => if existing = hash then some cp else none
  | none => some ⟨cp.points.insert height hash⟩

/-- `is_in_checkpoint_zone`: at or below the highest checkpoint. -/
def isInCheckpointZone (cp : Checkpoints) (height : Nat) : Bool :=
  match cp.points.keys.max? with
  | some top => decide (height ≤ top)
  | none => false

/-- `check_block(height, h, is_a_checkpoint)`, returning whether the block
passes and whether the height is a checkpoint. -/
def checkBlock (cp : Checkpoints) (height : Nat) (h : Hash) : Bool × Bool :=
  match cp.points.lookup height with
  | none => (true, false)
  | some expected => (expected == h, true)

/-- `is_alternative_block_allowed`: `upper_bound` finds the last checkpoint at
or below the chain height, and the block must lie above it. -/
def isAlternativeBlockAllowed (cp : Checkpoints) (blockchainHeight blockHeight : Nat) : Bool :=
  if blockHeight = 0 then false
  else
    match (cp.points.keys.filter (· ≤ blockchainHeight)).max? with
    | none => true
    | some checkpointHeight => decide (checkpointHeight < blockHeight)

theorem checkBlock_passes_iff (cp : Checkpoints) (height : Nat) (h : Hash) :
    (cp.checkBlock height h).1 = true ↔ ∀ expected, cp.points.lookup height = some expected →
      expected = h := by
  unfold checkBlock
  cases cp.points.lookup height <;> simp

theorem checkBlock_isCheckpoint_iff (cp : Checkpoints) (height : Nat) (h : Hash) :
    (cp.checkBlock height h).2 = true ↔ height ∈ cp.points := by
  rw [← AList.lookup_isSome]
  unfold checkBlock
  cases cp.points.lookup height <;> simp

theorem isInCheckpointZone_iff (cp : Checkpoints) (height : Nat) :
    cp.isInCheckpointZone height = true ↔ ∃ c ∈ cp.points, height ≤ c := by
  unfold isInCheckpointZone
  cases hmax : cp.points.keys.max? with
  | none =>
    have hempty : cp.points.keys = [] := List.max?_eq_none_iff.1 hmax
    simp only [Bool.false_eq_true, false_iff, not_exists, not_and]
    intro c hc
    have hkey := AList.mem_keys.1 hc
    rw [hempty] at hkey
    cases hkey
  | some top =>
    obtain ⟨htop, hle⟩ := List.max?_eq_some_iff.1 hmax
    simp only [decide_eq_true_eq]
    constructor
    · intro hheight
      exact ⟨top, AList.mem_keys.2 htop, hheight⟩
    · rintro ⟨c, hc, hheight⟩
      exact le_trans hheight (hle c (AList.mem_keys.1 hc))

/-- An alternative block is allowed exactly when it lies above every checkpoint
at or below the chain height. -/
theorem isAlternativeBlockAllowed_iff (cp : Checkpoints) (blockchainHeight blockHeight : Nat) :
    cp.isAlternativeBlockAllowed blockchainHeight blockHeight = true ↔
      blockHeight ≠ 0 ∧ ∀ c ∈ cp.points, c ≤ blockchainHeight → c < blockHeight := by
  unfold isAlternativeBlockAllowed
  by_cases hzero : blockHeight = 0
  · simp [hzero]
  simp only [hzero, if_false, ne_eq, not_false_eq_true, true_and]
  cases hmax : (cp.points.keys.filter (· ≤ blockchainHeight)).max? with
  | none =>
    have hempty := List.max?_eq_none_iff.1 hmax
    simp only [true_iff]
    intro c hc hle
    have hkey : c ∈ cp.points.keys.filter (· ≤ blockchainHeight) :=
      List.mem_filter.2 ⟨AList.mem_keys.1 hc, decide_eq_true hle⟩
    simp [hempty] at hkey
  | some top =>
    obtain ⟨htop, hmaximal⟩ := List.max?_eq_some_iff.1 hmax
    simp only [List.mem_filter, decide_eq_true_eq] at htop hmaximal
    simp only [decide_eq_true_eq]
    constructor
    · intro hlt c hc hle
      exact lt_of_le_of_lt (hmaximal c ⟨AList.mem_keys.1 hc, hle⟩) hlt
    · intro hall
      exact hall top (AList.mem_keys.2 htop.1) htop.2

end Checkpoints

end ElectroneumClassic
