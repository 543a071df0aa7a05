import ElectroneumClassic.Basic.HardFork
import ElectroneumClassic.Lib.Tally

/-!
# The voting window

The hard-fork object as the database drives it: `BlockchainDB::add_block`
stores a block and calls `HardFork::add` at its height, ignoring the result;
`reorganize_from_block_height` and `init` rebuild the state from the stored
blocks.  `VotingState.run` is any sequence of these calls.

Each of `add`, `reorganize_from_block_height`, `rescan_from_block_height` and
`init` has one equation here naming its parts (`voteAt`, the raise of the
fork index they all end with; `votesOf`, the effective votes of blocks), and
later proofs use these equations only.

Every call keeps the object `WellFormed`: the window holds at most
`window_size` votes, `last_versions` is the tally of the window in
`unsigned int` counters, and the fork index names a fork of the schedule.
The constructor refuses a window of size `0`, which the invariant records.
-/

namespace ElectroneumClassic

open Cryptonote Tally

namespace HardFork

/-- The end of `add`, `reorganize_from_block_height` and
`rescan_from_block_height`: the fork index raised to the fork voted in at a
height. -/
def voteAt (hf : HardFork) (height : Nat) : HardFork :=
  if hf.getVotedForkIndex height > hf.currentForkIndex then
    { hf with currentForkIndex := hf.getVotedForkIndex height }
  else hf

/-- The effective votes of blocks. -/
def votesOf (hf : HardFork) (blocks : List Block) : List Nat :=
  blocks.map fun block => hf.getEffectiveVersion (getBlockVote block.minorVersion)

/-- The first height of the window `reorganize_from_block_height` rebuilds. -/
def rescanHeight (hf : HardFork) (height : Nat) : Nat :=
  if height ≥ hf.windowSize - 1 then height - (hf.windowSize - 1) else 0

/-- The version `reorganize_from_block_height` steps the fork index back to. -/
def startVersion (hf : HardFork) (table : HfVersions) (height : Nat) : Nat :=
  if height = 0 then hf.originalVersion else (table.getHardForkVersion height).getD 0

/-- The state `init` clears the object to before it reads the database. -/
def reset (hf : HardFork) : HardFork :=
  { (if hf.heights = [] then { hf with heights := [⟨hf.originalVersion, 0, 0, 0⟩] } else hf) with
    versions := [], lastVersions := List.replicate 256 0, currentForkIndex := 0 }

/-- The state the constructor and `init` guarantee and every call keeps. -/
structure WellFormed (hf : HardFork) : Prop where
  window_pos : 0 < hf.windowSize
  versions_le : hf.versions.length ≤ hf.windowSize
  lastVersions_eq : hf.lastVersions = tally 256 (2 ^ 32) hf.versions
  index_lt : hf.currentForkIndex < hf.heights.length

variable {hf : HardFork}

section Fields

variable (hf) (height : Nat)

@[simp] theorem heights_voteAt : (hf.voteAt height).heights = hf.heights := by
  unfold voteAt
  split <;> rfl

@[simp] theorem windowSize_voteAt : (hf.voteAt height).windowSize = hf.windowSize := by
  unfold voteAt
  split <;> rfl

@[simp] theorem versions_voteAt : (hf.voteAt height).versions = hf.versions := by
  unfold voteAt
  split <;> rfl

@[simp] theorem lastVersions_voteAt : (hf.voteAt height).lastVersions = hf.lastVersions := by
  unfold voteAt
  split <;> rfl

theorem currentForkIndex_voteAt :
    (hf.voteAt height).currentForkIndex = max hf.currentForkIndex (hf.getVotedForkIndex height) := by
  unfold voteAt
  split
  · rename_i hvoted
    exact (max_eq_right hvoted.le).symm
  · rename_i hvoted
    exact (max_eq_left (not_lt.1 hvoted)).symm

@[simp] theorem heights_pushVote (vote : Nat) : (hf.pushVote vote).heights = hf.heights := rfl

@[simp] theorem windowSize_pushVote (vote : Nat) : (hf.pushVote vote).windowSize = hf.windowSize := rfl

@[simp] theorem currentForkIndex_pushVote (vote : Nat) :
    (hf.pushVote vote).currentForkIndex = hf.currentForkIndex := rfl

@[simp] theorem heights_trimWindow : hf.trimWindow.heights = hf.heights := by
  unfold trimWindow
  split <;> rfl

@[simp] theorem windowSize_trimWindow : hf.trimWindow.windowSize = hf.windowSize := by
  unfold trimWindow
  split <;> rfl

@[simp] theorem currentForkIndex_trimWindow : hf.trimWindow.currentForkIndex = hf.currentForkIndex := by
  unfold trimWindow
  split <;> rfl

@[simp] theorem heights_reset : hf.reset.heights ≠ [] := by
  unfold reset
  split <;> simp_all

@[simp] theorem windowSize_reset : hf.reset.windowSize = hf.windowSize := by
  unfold reset
  split <;> rfl

@[simp] theorem versions_reset : hf.reset.versions = [] := rfl

@[simp] theorem lastVersions_reset : hf.reset.lastVersions = List.replicate 256 0 := rfl

@[simp] theorem currentForkIndex_reset : hf.reset.currentForkIndex = 0 := rfl

end Fields

/-! ## One equation for each call -/

theorem foldl_increment_zero (window : List Nat) :
    window.foldl (fun counts v => counts.modify v fun c => (c + 1) % 2 ^ 32) (List.replicate 256 0) =
      tally 256 (2 ^ 32) window := by
  rw [← tally_nil, foldl_increment_tally, List.nil_append]

theorem add_of_doCheck {table : HfVersions} {blockVersion votingVersion : Nat}
    (hcheck : hf.doCheck blockVersion votingVersion = true) (height : Nat) :
    hf.add table blockVersion votingVersion height =
      (true, (hf.trimWindow.pushVote (hf.getEffectiveVersion votingVersion)).voteAt (height + 1),
        table.setHardForkVersion height (hf.fork hf.currentForkIndex).version) := by
  simp [add, hcheck, voteAt]

theorem add_of_not_doCheck {table : HfVersions} {blockVersion votingVersion : Nat}
    (hcheck : hf.doCheck blockVersion votingVersion = false) (height : Nat) :
    hf.add table blockVersion votingVersion height = (false, hf, table) := by
  simp [add, hcheck]

theorem reorganizeFromBlockHeight_of_lt {blocks : List Block} {table : HfVersions} {height : Nat}
    (hheight : height < blocks.length) :
    hf.reorganizeFromBlockHeight blocks table height =
      some ((({ hf with
          versions := hf.votesOf ((blocks.drop (hf.rescanHeight height)).take (height + 1 - hf.rescanHeight height))
          lastVersions := tally 256 (2 ^ 32)
            (hf.votesOf ((blocks.drop (hf.rescanHeight height)).take (height + 1 - hf.rescanHeight height)))
          currentForkIndex := hf.stepBack (hf.startVersion table height) hf.currentForkIndex } : HardFork).voteAt
            (height + 1)).replay table (blocks.drop (height + 1)) (height + 1)) := by
  unfold reorganizeFromBlockHeight
  rw [if_neg (Nat.not_le.2 hheight)]
  dsimp only
  rw [foldl_increment_zero]
  rfl

theorem rescanFromBlockHeight_of_lt {blocks : List Block} {table : HfVersions} {height : Nat}
    (hheight : height < blocks.length) :
    hf.rescanFromBlockHeight blocks table height =
      some (({ hf with
          versions := hf.votesOf (blocks.drop height)
          lastVersions := tally 256 (2 ^ 32) (hf.votesOf (blocks.drop height))
          currentForkIndex :=
            hf.forkIndexFrom ((table.getHardForkVersion (blocks.length - 1)).getD 0) hf.heights.length 0 } :
        HardFork).voteAt blocks.length) := by
  unfold rescanFromBlockHeight
  rw [if_neg (Nat.not_le.2 hheight)]
  dsimp only
  rw [foldl_increment_zero]
  rfl

theorem init_eq (blocks : List Block) (table : HfVersions) :
    hf.init blocks table =
      match table.getHardForkVersion 0 with
      | none =>
        match (hf.reset.reorganizeFromChainHeight blocks table 1).getD (hf.reset, table) with
        | (rebuilt, table) => (rebuilt, table.setHardForkVersion 0 rebuilt.originalVersion)
      | some _ =>
        ((hf.reset.rescanFromChainHeight blocks table
          (if blocks.length > hf.reset.windowSize then blocks.length - (hf.reset.windowSize - 1) else 1)).getD
          hf.reset,
          table) := by
  rcases hrecorded : table.getHardForkVersion 0 with _ | _
  · simp only [init, reset, hrecorded]
  · simp only [init, reset, hrecorded]
    rfl

/-! ## The fork index stays within the schedule -/

theorem votedForkIndexFrom_le (hf : HardFork) (height : Nat) :
    ∀ n accumulatedVotes : Nat, hf.votedForkIndexFrom height n accumulatedVotes ≤ max n hf.currentForkIndex
  | 0, _ => by simp [votedForkIndexFrom]
  | n + 1, accumulatedVotes => by
    unfold votedForkIndexFrom
    dsimp only
    split_ifs
    · omega
    · omega
    · have hrest := hf.votedForkIndexFrom_le height n (accumulatedVotes + hf.countOf (hf.fork (n + 1)).version)
      omega

theorem index_lt_voteAt (hindex : hf.currentForkIndex < hf.heights.length) (height : Nat) :
    (hf.voteAt height).currentForkIndex < (hf.voteAt height).heights.length := by
  have hbound := hf.votedForkIndexFrom_le height (hf.heights.length - 1) 0
  rw [currentForkIndex_voteAt, heights_voteAt]
  unfold getVotedForkIndex
  omega

theorem stepBack_le (hf : HardFork) (startVersion : Nat) : ∀ index, hf.stepBack startVersion index ≤ index
  | 0 => le_refl _
  | index + 1 => by
    unfold stepBack
    split_ifs
    · exact (hf.stepBack_le startVersion index).trans (Nat.le_succ index)
    · exact le_refl _

theorem forkIndexFrom_lt (hf : HardFork) (version : Nat) :
    ∀ fuel index, index < hf.heights.length → hf.forkIndexFrom version fuel index < hf.heights.length
  | 0, _, hindex => hindex
  | fuel + 1, index, hindex => by
    unfold forkIndexFrom
    split_ifs with hnext
    · exact hf.forkIndexFrom_lt version fuel (index + 1) hnext.1
    · exact hindex

/-! ## Every call keeps the object well formed -/

theorem WellFormed.voteAt (hwell : hf.WellFormed) (height : Nat) : (hf.voteAt height).WellFormed :=
  ⟨by simpa using hwell.window_pos, by simpa using hwell.versions_le, by simpa using hwell.lastVersions_eq,
    index_lt_voteAt hwell.index_lt height⟩

/-- Sliding a window of the last `window_size` votes keeps it so, and keeps
its tally. -/
theorem pushVote_trimWindow (hwell : hf.WellFormed) (vote : Nat) :
    (hf.trimWindow.pushVote vote).versions = (hf.versions ++ [vote]).rtake hf.windowSize ∧
      (hf.trimWindow.pushVote vote).lastVersions =
        tally 256 (2 ^ 32) ((hf.versions ++ [vote]).rtake hf.windowSize) := by
  have hwindow : hf.versions.rtake hf.windowSize = hf.versions := rtake_of_length_le hwell.versions_le
  have hslide := rtake_slide hf.versions vote hwell.window_pos
  rw [hwindow] at hslide
  unfold trimWindow pushVote
  split
  · rename_i hroom
    rw [if_pos hroom] at hslide
    exact ⟨hslide, by rw [← hslide, hwell.lastVersions_eq, modify_tally_append]⟩
  · rename_i hfull
    rw [if_neg hfull] at hslide
    refine ⟨hslide, ?_⟩
    rw [← hslide]
    dsimp only
    rw [hwell.lastVersions_eq, foldl_decrement_tally (Nat.two_pow_pos 32), modify_tally_append]

theorem WellFormed.trimWindow_pushVote (hwell : hf.WellFormed) (vote : Nat) :
    (hf.trimWindow.pushVote vote).WellFormed := by
  obtain ⟨hversions, hcounts⟩ := pushVote_trimWindow hwell vote
  refine ⟨by simpa [pushVote] using hwell.window_pos, ?_, by rw [hcounts, hversions], ?_⟩
  · rw [hversions, length_rtake, windowSize_pushVote, windowSize_trimWindow]
    exact Nat.min_le_left _ _
  · simpa [pushVote] using hwell.index_lt

theorem WellFormed.add (hwell : hf.WellFormed) (table : HfVersions) (blockVersion votingVersion height : Nat) :
    (hf.add table blockVersion votingVersion height).2.1.WellFormed := by
  cases hcheck : hf.doCheck blockVersion votingVersion
  · rw [add_of_not_doCheck hcheck]
    exact hwell
  · rw [add_of_doCheck hcheck]
    exact (hwell.trimWindow_pushVote _).voteAt _

/-- `add` never lowers the fork index. -/
theorem currentForkIndex_le_add (hf : HardFork) (table : HfVersions) (blockVersion votingVersion height : Nat) :
    hf.currentForkIndex ≤ (hf.add table blockVersion votingVersion height).2.1.currentForkIndex := by
  cases hcheck : hf.doCheck blockVersion votingVersion
  · rw [add_of_not_doCheck hcheck]
  · rw [add_of_doCheck hcheck, currentForkIndex_voteAt, currentForkIndex_pushVote, currentForkIndex_trimWindow]
    exact Nat.le_max_left _ _

theorem WellFormed.replay : ∀ {hf : HardFork} (table : HfVersions) (blocks : List Block) (height : Nat),
    hf.WellFormed → (hf.replay table blocks height).1.WellFormed
  | _, _, [], _, hwell => hwell
  | _, table, _ :: rest, height, hwell => WellFormed.replay _ rest _ (hwell.add table _ _ height)

/-- A rebuilt window of at most `window_size` votes and its tally, under a fork
of the schedule. -/
theorem wellFormed_rebuilt (hwell : hf.WellFormed) {window : List Nat} (hwindow : window.length ≤ hf.windowSize)
    {index : Nat} (hindex : index < hf.heights.length) :
    ({ hf with versions := window, lastVersions := tally 256 (2 ^ 32) window, currentForkIndex := index } :
      HardFork).WellFormed :=
  ⟨hwell.window_pos, hwindow, rfl, hindex⟩

theorem WellFormed.reorganizeFromBlockHeight (hwell : hf.WellFormed) {blocks : List Block} {table : HfVersions}
    {height : Nat} {result : HardFork × HfVersions}
    (hresult : hf.reorganizeFromBlockHeight blocks table height = some result) : result.1.WellFormed := by
  have hheight : height < blocks.length := by
    by_contra hnot
    simp [HardFork.reorganizeFromBlockHeight, not_lt.1 hnot] at hresult
  rw [reorganizeFromBlockHeight_of_lt hheight, Option.some.injEq] at hresult
  rw [← hresult]
  -- the rebuilt window covers at most `window_size` blocks up to the height
  have hcount : height + 1 - hf.rescanHeight height ≤ hf.windowSize := by
    have := hwell.window_pos
    unfold rescanHeight
    split <;> omega
  have hwindow : (hf.votesOf ((blocks.drop (hf.rescanHeight height)).take
      (height + 1 - hf.rescanHeight height))).length ≤ hf.windowSize := by
    simp only [votesOf, List.length_map, List.length_take]
    omega
  exact ((wellFormed_rebuilt hwell hwindow ((hf.stepBack_le _ _).trans_lt hwell.index_lt)).voteAt _).replay _ _ _

theorem WellFormed.reset (hwindow : 0 < hf.windowSize) : hf.reset.WellFormed := by
  refine ⟨by simpa using hwindow, by simp, by rw [lastVersions_reset, versions_reset, tally_nil], ?_⟩
  rw [currentForkIndex_reset]
  exact List.length_pos_iff.2 (heights_reset hf)

theorem WellFormed.rescanFromBlockHeight (hwell : hf.WellFormed) {blocks : List Block} {table : HfVersions}
    {height : Nat} (hcount : blocks.length - height ≤ hf.windowSize) {result : HardFork}
    (hresult : hf.rescanFromBlockHeight blocks table height = some result) : result.WellFormed := by
  have hheight : height < blocks.length := by
    by_contra hnot
    simp [HardFork.rescanFromBlockHeight, not_lt.1 hnot] at hresult
  rw [rescanFromBlockHeight_of_lt hheight, Option.some.injEq] at hresult
  rw [← hresult]
  have hwindow : (hf.votesOf (blocks.drop height)).length ≤ hf.windowSize := by
    simpa [votesOf] using hcount
  have hindex := hf.forkIndexFrom_lt ((table.getHardForkVersion (blocks.length - 1)).getD 0)
    hf.heights.length 0 (by have := hwell.index_lt; omega)
  exact (wellFormed_rebuilt hwell hwindow hindex).voteAt _

/-- What `init` leaves in the object: the cleared object, the object
`reorganize_from_block_height` rebuilds from the genesis, or the one
`rescan_from_block_height` rebuilds from the last `window_size` blocks. -/
theorem init_cases (hwindow : 0 < hf.windowSize) (blocks : List Block) (table : HfVersions) :
    (hf.init blocks table).1 = hf.reset ∨
      (∃ result, hf.reset.reorganizeFromBlockHeight blocks table 0 = some result ∧
        (hf.init blocks table).1 = result.1) ∨
      ∃ result, hf.reset.rescanFromBlockHeight blocks table (blocks.length - hf.windowSize) = some result ∧
        (hf.init blocks table).1 = result := by
  rw [init_eq]
  split
  · dsimp only
    cases hrebuilt : hf.reset.reorganizeFromChainHeight blocks table 1 with
    | none => exact .inl rfl
    | some result => exact .inr (.inl ⟨result, hrebuilt, rfl⟩)
  · dsimp only
    -- the rescan starts `window_size` blocks below the top, or at genesis
    have hstart : (if blocks.length > hf.reset.windowSize then
        blocks.length - (hf.reset.windowSize - 1) else 1) = blocks.length - hf.windowSize + 1 := by
      rw [windowSize_reset]
      split
      · omega
      · omega
    rw [hstart, rescanFromChainHeight, if_neg (Nat.succ_ne_zero _), Nat.add_sub_cancel]
    cases hrescan : hf.reset.rescanFromBlockHeight blocks table (blocks.length - hf.windowSize) with
    | none => exact .inl rfl
    | some result => exact .inr (.inr ⟨result, rfl, rfl⟩)

theorem WellFormed.init (hwindow : 0 < hf.windowSize) (blocks : List Block) (table : HfVersions) :
    (hf.init blocks table).1.WellFormed := by
  have hreset := WellFormed.reset hwindow
  rcases hf.init_cases hwindow blocks table with hcleared | ⟨result, hrebuilt, hresult⟩ | ⟨result, hrescan, hresult⟩
  · rw [hcleared]
    exact hreset
  · rw [hresult]
    exact hreset.reorganizeFromBlockHeight hrebuilt
  · rw [hresult]
    exact hreset.rescanFromBlockHeight (by rw [windowSize_reset]; omega) hrescan

end HardFork

/-- The calls the database makes on the hard-fork object. -/
inductive VotingCall where
  /-- `BlockchainDB::add_block`: the block is stored and `add` called at its
  height, whatever it returns. -/
  | addBlock (block : Block)
  | reorganize (height : Nat)
  | init

/-- The hard-fork object with the stored blocks and the `hf_versions` table. -/
structure VotingState where
  hf : HardFork
  blocks : List Block
  table : HfVersions

namespace VotingState

def call (st : VotingState) : VotingCall → VotingState
  | .addBlock block =>
    let (_, hf, table) := st.hf.addBlock st.table block st.blocks.length
    { hf, blocks := st.blocks ++ [block], table }
  | .reorganize height =>
    match st.hf.reorganizeFromBlockHeight st.blocks st.table height with
    | some (hf, table) => { st with hf, table }
    | none => st
  | .init =>
    let (hf, table) := st.hf.init st.blocks st.table
    { st with hf, table }

/-- The object after `init` over an empty database. -/
def start (hf : HardFork) : VotingState := call ⟨hf, [], []⟩ .init

/-- A sequence of calls. -/
def run (st : VotingState) (calls : List VotingCall) : VotingState := calls.foldl call st

end VotingState

end ElectroneumClassic
