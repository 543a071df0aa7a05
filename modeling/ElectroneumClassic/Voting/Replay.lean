import ElectroneumClassic.Voting.Window

/-!
# Replaying `add`

The facts about the hard-fork object on which the comparison of
`reorganize_from_block_height` and `init` with the run of `add` rests.

* `SameSchedule`: the calls change the window, its counts and the fork index,
  never the parameters or the schedule.
* A replay of accepted blocks slides the window over their votes
  (`versions_replay`) and records at each height the version of the fork in
  force (`getHardForkVersion_replay`); what it does to the object does not
  depend on the table (`replay_fst_congr`).
* Tables that record the same versions give the same object, and again such
  tables, through `add`, `reorganize_from_block_height` and `init`.
* `Ascending`: the versions of a schedule built by `add_fork` increase
  (`Ascending.addFork`); on such a schedule the version walk of
  `reorganize_from_block_height` and the search of `rescan_from_block_height`
  find the fork of a version (`stepBack_fork`, `forkIndexFrom_fork`).
-/

namespace ElectroneumClassic

namespace HfVersions

theorem lookup_filter_ne (table : HfVersions) (height key : Nat) :
    (table.filter (·.1 != height)).lookup key = if key = height then none else table.lookup key := by
  induction table with
  | nil => simp
  | cons entry table inductionHypothesis =>
    obtain ⟨h, v⟩ := entry
    by_cases hentry : h = height
    · subst hentry
      by_cases hkey : key = h
      · rw [List.filter_cons_of_neg (by simp), inductionHypothesis, if_pos hkey, if_pos hkey]
      · simp [List.lookup_cons, hkey, inductionHypothesis, beq_false_of_ne hkey]
    · by_cases hkey : key = h
      · subst hkey
        simp [hentry]
      · simp [hentry, List.lookup_cons, beq_false_of_ne hkey, inductionHypothesis]

theorem getHardForkVersion_setHardForkVersion (table : HfVersions) (height version key : Nat) :
    (table.setHardForkVersion height version).getHardForkVersion key =
      if key = height then some version else table.getHardForkVersion key := by
  unfold setHardForkVersion getHardForkVersion
  rw [List.lookup_append, lookup_filter_ne, List.lookup_singleton]
  by_cases hkey : key = height
  · simp [hkey]
  · simp [hkey]

end HfVersions

open Cryptonote Tally

namespace HardFork

variable {hf hf' : HardFork}

/-! ## Objects with one schedule -/

/-- Two states of the object with the same parameters and schedule. -/
structure SameSchedule (hf hf' : HardFork) : Prop where
  originalVersion : hf'.originalVersion = hf.originalVersion
  originalVersionTillHeight : hf'.originalVersionTillHeight = hf.originalVersionTillHeight
  windowSize : hf'.windowSize = hf.windowSize
  defaultThresholdPercent : hf'.defaultThresholdPercent = hf.defaultThresholdPercent
  heights : hf'.heights = hf.heights

theorem SameSchedule.refl (hf : HardFork) : SameSchedule hf hf := ⟨rfl, rfl, rfl, rfl, rfl⟩

theorem SameSchedule.symm (hsame : SameSchedule hf hf') : SameSchedule hf' hf :=
  ⟨hsame.originalVersion.symm, hsame.originalVersionTillHeight.symm, hsame.windowSize.symm,
    hsame.defaultThresholdPercent.symm, hsame.heights.symm⟩

theorem SameSchedule.trans {hf'' : HardFork} (hfirst : SameSchedule hf hf') (hsecond : SameSchedule hf' hf'') :
    SameSchedule hf hf'' :=
  ⟨hsecond.originalVersion.trans hfirst.originalVersion,
    hsecond.originalVersionTillHeight.trans hfirst.originalVersionTillHeight,
    hsecond.windowSize.trans hfirst.windowSize, hsecond.defaultThresholdPercent.trans hfirst.defaultThresholdPercent,
    hsecond.heights.trans hfirst.heights⟩

/-- A state is determined by its schedule, its window, its counts and its fork index. -/
theorem SameSchedule.eq (hsame : SameSchedule hf hf') (hversions : hf'.versions = hf.versions)
    (hcounts : hf'.lastVersions = hf.lastVersions) (hindex : hf'.currentForkIndex = hf.currentForkIndex) :
    hf' = hf := by
  obtain ⟨h₁, h₂, h₃, h₄, h₅⟩ := hsame
  cases hf
  cases hf'
  simp_all

theorem SameSchedule.fork (hsame : SameSchedule hf hf') (index : Nat) : hf'.fork index = hf.fork index := by
  simp only [HardFork.fork, hsame.heights]

theorem SameSchedule.votesOf (hsame : SameSchedule hf hf') (blocks : List Block) :
    hf'.votesOf blocks = hf.votesOf blocks := by
  simp only [HardFork.votesOf, getEffectiveVersion, hsame.heights]

theorem SameSchedule.getEffectiveVersion (hsame : SameSchedule hf hf') (vote : Nat) :
    hf'.getEffectiveVersion vote = hf.getEffectiveVersion vote := by
  simp only [HardFork.getEffectiveVersion, hsame.heights]

theorem sameSchedule_voteAt (hf : HardFork) (height : Nat) : SameSchedule hf (hf.voteAt height) := by
  unfold voteAt
  split
  · exact ⟨rfl, rfl, rfl, rfl, rfl⟩
  · exact SameSchedule.refl hf

theorem sameSchedule_trimWindow_pushVote (hf : HardFork) (vote : Nat) :
    SameSchedule hf (hf.trimWindow.pushVote vote) := by
  unfold trimWindow pushVote
  split
  · exact ⟨rfl, rfl, rfl, rfl, rfl⟩
  · exact ⟨rfl, rfl, rfl, rfl, rfl⟩

theorem sameSchedule_add (hf : HardFork) (table : HfVersions) (blockVersion votingVersion height : Nat) :
    SameSchedule hf (hf.add table blockVersion votingVersion height).2.1 := by
  cases hcheck : hf.doCheck blockVersion votingVersion
  · rw [add_of_not_doCheck hcheck]
    exact SameSchedule.refl hf
  · rw [add_of_doCheck hcheck]
    exact (sameSchedule_trimWindow_pushVote hf _).trans (sameSchedule_voteAt _ _)

theorem sameSchedule_addBlock (hf : HardFork) (table : HfVersions) (block : Block) (height : Nat) :
    SameSchedule hf (hf.addBlock table block height).2.1 :=
  sameSchedule_add hf table _ _ height

theorem sameSchedule_reset (hnonempty : hf.heights ≠ []) : SameSchedule hf hf.reset := by
  unfold reset
  rw [if_neg hnonempty]
  exact ⟨rfl, rfl, rfl, rfl, rfl⟩

@[simp] theorem originalVersion_reset : hf.reset.originalVersion = hf.originalVersion := by
  unfold reset
  split <;> rfl

theorem reset_reset (hf : HardFork) : hf.reset.reset = hf.reset :=
  (sameSchedule_reset (heights_reset hf)).eq rfl rfl rfl

/-! ## Replaying `add` -/

/-- `add` accepts each block in turn from `height` on. -/
def AcceptsAll (hf : HardFork) (table : HfVersions) : List Block → Nat → Prop
  | [], _ => True
  | block :: rest, height =>
    (hf.addBlock table block height).1 = true ∧
      AcceptsAll (hf.addBlock table block height).2.1 (hf.addBlock table block height).2.2 rest (height + 1)

instance decidableAcceptsAll (hf : HardFork) (table : HfVersions) :
    ∀ blocks height, Decidable (hf.AcceptsAll table blocks height)
  | [], _ => isTrue trivial
  | block :: rest, height =>
    have := decidableAcceptsAll (hf.addBlock table block height).2.1 (hf.addBlock table block height).2.2 rest
      (height + 1)
    inferInstanceAs (Decidable ((hf.addBlock table block height).1 = true ∧ _))

theorem addBlock_of_accepted {table : HfVersions} {block : Block} {height : Nat}
    (haccepted : (hf.addBlock table block height).1 = true) :
    hf.addBlock table block height =
      (true, (hf.trimWindow.pushVote (hf.getEffectiveVersion (getBlockVote block.minorVersion))).voteAt (height + 1),
        table.setHardForkVersion height (hf.fork hf.currentForkIndex).version) := by
  unfold addBlock at haccepted ⊢
  cases hcheck : hf.doCheck block.majorVersion (getBlockVote block.minorVersion)
  · rw [add_of_not_doCheck hcheck] at haccepted
    cases haccepted
  · exact add_of_doCheck hcheck height

/-- What `add` does to the object does not depend on the table. -/
theorem addBlock_congr (table table' : HfVersions) (block : Block) (height : Nat) :
    (hf.addBlock table block height).1 = (hf.addBlock table' block height).1 ∧
      (hf.addBlock table block height).2.1 = (hf.addBlock table' block height).2.1 := by
  unfold addBlock
  cases hcheck : hf.doCheck block.majorVersion (getBlockVote block.minorVersion)
  · simp [add_of_not_doCheck hcheck]
  · simp [add_of_doCheck hcheck]

theorem replay_cons (table : HfVersions) (block : Block) (rest : List Block) (height : Nat) :
    hf.replay table (block :: rest) height =
      (hf.addBlock table block height).2.1.replay (hf.addBlock table block height).2.2 rest (height + 1) := rfl

theorem replay_append (table : HfVersions) (blocks more : List Block) (height : Nat) :
    hf.replay table (blocks ++ more) height =
      (hf.replay table blocks height).1.replay (hf.replay table blocks height).2 more (height + blocks.length) := by
  induction blocks generalizing hf table height with
  | nil => rfl
  | cons block blocks inductionHypothesis =>
    rw [List.cons_append, replay_cons, replay_cons, inductionHypothesis, List.length_cons, Nat.add_assoc,
      Nat.add_comm 1]

theorem acceptsAll_append (table : HfVersions) (blocks more : List Block) (height : Nat) :
    hf.AcceptsAll table (blocks ++ more) height ↔
      hf.AcceptsAll table blocks height ∧
        (hf.replay table blocks height).1.AcceptsAll (hf.replay table blocks height).2 more
          (height + blocks.length) := by
  induction blocks generalizing hf table height with
  | nil => simp [AcceptsAll, replay]
  | cons block blocks inductionHypothesis =>
    rw [List.cons_append, AcceptsAll, AcceptsAll, inductionHypothesis, replay_cons, List.length_cons,
      Nat.add_comm blocks.length 1, ← Nat.add_assoc, and_assoc]

theorem replay_fst_congr (table table' : HfVersions) (blocks : List Block) (height : Nat) :
    (hf.replay table blocks height).1 = (hf.replay table' blocks height).1 := by
  induction blocks generalizing hf table table' height with
  | nil => rfl
  | cons block blocks inductionHypothesis =>
    rw [replay_cons, replay_cons, (addBlock_congr table table' block height).2]
    exact inductionHypothesis _ _ _

theorem sameSchedule_replay (hf : HardFork) (table : HfVersions) (blocks : List Block) (height : Nat) :
    SameSchedule hf (hf.replay table blocks height).1 := by
  induction blocks generalizing hf table height with
  | nil => exact SameSchedule.refl hf
  | cons block blocks inductionHypothesis =>
    rw [replay_cons]
    exact (sameSchedule_add hf _ _ _ _).trans (inductionHypothesis _ _ _)

theorem currentForkIndex_le_replay (hf : HardFork) (table : HfVersions) (blocks : List Block) (height : Nat) :
    hf.currentForkIndex ≤ (hf.replay table blocks height).1.currentForkIndex := by
  induction blocks generalizing hf table height with
  | nil => exact Nat.le_refl _
  | cons block blocks inductionHypothesis =>
    rw [replay_cons]
    exact (currentForkIndex_le_add hf table _ _ height).trans (inductionHypothesis _ _ _)

theorem votesOf_append (blocks more : List Block) : hf.votesOf (blocks ++ more) = hf.votesOf blocks ++ hf.votesOf more :=
  List.map_append

theorem votesOf_rtake (blocks : List Block) (n : Nat) : hf.votesOf (blocks.rtake n) = (hf.votesOf blocks).rtake n := by
  simp only [HardFork.votesOf, List.rtake, List.map_drop, List.length_map]

/-- An accepted replay slides the window over the votes of its blocks. -/
theorem versions_replay (hwell : hf.WellFormed) {table : HfVersions} {blocks : List Block} {height : Nat}
    (haccepted : hf.AcceptsAll table blocks height) :
    (hf.replay table blocks height).1.versions = (hf.versions ++ hf.votesOf blocks).rtake hf.windowSize := by
  induction blocks generalizing hf table height with
  | nil => simp [replay, HardFork.votesOf, rtake_of_length_le hwell.versions_le]
  | cons block blocks inductionHypothesis =>
    obtain ⟨hfirst, hrest⟩ := haccepted
    have hsame := sameSchedule_addBlock hf table block height
    have hwell' : (hf.addBlock table block height).2.1.WellFormed := hwell.add _ _ _ _
    rw [replay_cons, inductionHypothesis hwell' hrest, hsame.votesOf, hsame.windowSize,
      addBlock_of_accepted hfirst, versions_voteAt, (pushVote_trimWindow hwell _).1, rtake_append_rtake]
    simp [HardFork.votesOf]

/-- `add` writes the table only at its own height. -/
theorem getHardForkVersion_addBlock (table : HfVersions) (block : Block) {height key : Nat}
    (hkey : key ≠ height) :
    (hf.addBlock table block height).2.2.getHardForkVersion key = table.getHardForkVersion key := by
  unfold addBlock
  cases hcheck : hf.doCheck block.majorVersion (getBlockVote block.minorVersion)
  · rw [add_of_not_doCheck hcheck]
  · rw [add_of_doCheck hcheck, HfVersions.getHardForkVersion_setHardForkVersion, if_neg hkey]

theorem getHardForkVersion_replay_of_outside (table : HfVersions) (blocks : List Block) {height key : Nat}
    (hkey : key < height ∨ height + blocks.length ≤ key) :
    (hf.replay table blocks height).2.getHardForkVersion key = table.getHardForkVersion key := by
  induction blocks generalizing hf table height with
  | nil => rfl
  | cons block blocks inductionHypothesis =>
    rw [replay_cons, inductionHypothesis _ (by simp only [List.length_cons] at hkey; omega),
      getHardForkVersion_addBlock _ _ (by simp only [List.length_cons] at hkey; omega)]

/-- An accepted replay records at each height the version of the fork in force
when the block there was added. -/
theorem getHardForkVersion_replay {table : HfVersions} {blocks : List Block} {height : Nat}
    (haccepted : hf.AcceptsAll table blocks height) {i : Nat} (hi : i < blocks.length) :
    (hf.replay table blocks height).2.getHardForkVersion (height + i) =
      some (hf.fork (hf.replay table (blocks.take i) height).1.currentForkIndex).version := by
  induction blocks generalizing hf table height i with
  | nil => simp at hi
  | cons block blocks inductionHypothesis =>
    obtain ⟨hfirst, hrest⟩ := haccepted
    cases i with
    | zero =>
      rw [replay_cons, getHardForkVersion_replay_of_outside _ _ (.inl (by omega)), addBlock_of_accepted hfirst,
        HfVersions.getHardForkVersion_setHardForkVersion, if_pos (Nat.add_zero height)]
      rfl
    | succ i =>
      have hsame := sameSchedule_addBlock hf table block height
      rw [replay_cons, show height + (i + 1) = height + 1 + i by omega,
        inductionHypothesis hrest (by simpa using hi), List.take_succ_cons, replay_cons, hsame.fork]

/-- Accepted replays from tables that agree outside the replayed heights end
with tables that agree everywhere. -/
theorem getHardForkVersion_replay_congr {table table' : HfVersions} {blocks : List Block} {height : Nat}
    (haccepted : hf.AcceptsAll table blocks height)
    (hagree : ∀ key, (height ≤ key ∧ key < height + blocks.length) ∨
      table.getHardForkVersion key = table'.getHardForkVersion key) (key : Nat) :
    (hf.replay table blocks height).2.getHardForkVersion key =
      (hf.replay table' blocks height).2.getHardForkVersion key := by
  induction blocks generalizing hf table table' height with
  | nil =>
    rcases hagree key with hrange | hequal
    · simp at hrange
      omega
    · exact hequal
  | cons block blocks inductionHypothesis =>
    obtain ⟨hfirst, hrest⟩ := haccepted
    have hfirst' : (hf.addBlock table' block height).1 = true := (addBlock_congr table table' block height).1 ▸ hfirst
    rw [replay_cons, replay_cons, ← (addBlock_congr table table' block height).2]
    refine inductionHypothesis hrest (fun k => ?_)
    rw [addBlock_of_accepted hfirst, addBlock_of_accepted hfirst', HfVersions.getHardForkVersion_setHardForkVersion,
      HfVersions.getHardForkVersion_setHardForkVersion]
    by_cases hk : k = height
    · exact .inr (by rw [if_pos hk, if_pos hk])
    · rw [if_neg hk, if_neg hk]
      rcases hagree k with hrange | hequal
      · simp only [List.length_cons] at hrange
        exact .inl (by omega)
      · exact .inr hequal

/-! ## Rebuilding and rescanning -/

/-- `init` over a database with hard-fork information rescans. -/
theorem init_of_recorded {blocks : List Block} {table : HfVersions} {version : Nat}
    (hrecorded : table.getHardForkVersion 0 = some version) :
    hf.init blocks table =
      ((hf.reset.rescanFromChainHeight blocks table
        (if blocks.length > hf.reset.windowSize then blocks.length - (hf.reset.windowSize - 1) else 1)).getD
          hf.reset, table) := by
  rw [init_eq, hrecorded]

theorem rescanFromBlockHeight_of_le {blocks : List Block} {table : HfVersions} {height : Nat}
    (hheight : blocks.length ≤ height) : hf.rescanFromBlockHeight blocks table height = none := by
  rw [rescanFromBlockHeight, if_pos hheight]

theorem sameSchedule_reorganizeFromBlockHeight {blocks : List Block} {table : HfVersions} {height : Nat}
    {result : HardFork × HfVersions} (hresult : hf.reorganizeFromBlockHeight blocks table height = some result) :
    SameSchedule hf result.1 := by
  have hheight : height < blocks.length := by
    by_contra hnot
    rw [reorganizeFromBlockHeight, if_pos (Nat.le_of_not_lt hnot)] at hresult
    cases hresult
  rw [reorganizeFromBlockHeight_of_lt hheight, Option.some.injEq] at hresult
  subst hresult
  refine (SameSchedule.trans ?_ (sameSchedule_voteAt _ _)).trans (sameSchedule_replay _ _ _ _)
  exact ⟨rfl, rfl, rfl, rfl, rfl⟩

theorem sameSchedule_rescanFromBlockHeight {blocks : List Block} {table : HfVersions} {height : Nat}
    {result : HardFork} (hresult : hf.rescanFromBlockHeight blocks table height = some result) :
    SameSchedule hf result := by
  have hheight : height < blocks.length := by
    by_contra hnot
    rw [rescanFromBlockHeight_of_le (Nat.le_of_not_lt hnot)] at hresult
    cases hresult
  rw [rescanFromBlockHeight_of_lt hheight, Option.some.injEq] at hresult
  subst hresult
  refine SameSchedule.trans ?_ (sameSchedule_voteAt _ _)
  exact ⟨rfl, rfl, rfl, rfl, rfl⟩

/-- `init` keeps the window size. -/
theorem windowSize_init (hwindow : 0 < hf.windowSize) (blocks : List Block) (table : HfVersions) :
    (hf.init blocks table).1.windowSize = hf.windowSize := by
  rcases hf.init_cases hwindow blocks table with hcleared | ⟨result, hrebuilt, hresult⟩ | ⟨result, hrescan, hresult⟩
  · rw [hcleared, windowSize_reset]
  · rw [hresult, (sameSchedule_reorganizeFromBlockHeight hrebuilt).windowSize, windowSize_reset]
  · rw [hresult, (sameSchedule_rescanFromBlockHeight hrescan).windowSize, windowSize_reset]

theorem rescanFromChainHeight_of_pos {blocks : List Block} {table : HfVersions} {height : Nat} (hpositive : 0 < height) :
    hf.rescanFromChainHeight blocks table height = hf.rescanFromBlockHeight blocks table (height - 1) := by
  rw [rescanFromChainHeight, if_neg (by omega)]

/-- The blocks `reorganize_from_block_height` rebuilds the window from are the
last `window_size` of those up to the height. -/
theorem window_eq_rtake (hwindow : 0 < hf.windowSize) (blocks : List Block) {height : Nat}
    (hheight : height < blocks.length) :
    (blocks.drop (hf.rescanHeight height)).take (height + 1 - hf.rescanHeight height) =
      (blocks.take (height + 1)).rtake hf.windowSize := by
  have hrescan : hf.rescanHeight height = height + 1 - hf.windowSize := by
    unfold rescanHeight
    split <;> omega
  rw [hrescan, List.rtake, List.length_take, Nat.min_eq_left (by omega), List.drop_take]

/-- A window rebuilt as the last `window_size` votes up to a block, with the
fork index of the object before it, is the object `add` votes from. -/
theorem rebuilt_eq_trimWindow_pushVote (hwell : hf.WellFormed) {rebuilt : HardFork} (hsame : SameSchedule hf rebuilt)
    {vote : Nat} (hversions : rebuilt.versions = (hf.versions ++ [vote]).rtake hf.windowSize)
    (hcounts : rebuilt.lastVersions = tally 256 (2 ^ 32) rebuilt.versions)
    (hindex : rebuilt.currentForkIndex = hf.currentForkIndex) :
    rebuilt = hf.trimWindow.pushVote vote := by
  obtain ⟨hpushed, hpushedCounts⟩ := pushVote_trimWindow hwell vote
  refine ((sameSchedule_trimWindow_pushVote hf vote).symm.trans hsame).eq ?_ ?_ ?_
  · rw [hversions, hpushed]
  · rw [hcounts, hversions, hpushedCounts]
  · rw [hindex, currentForkIndex_pushVote, currentForkIndex_trimWindow]

/-! ## Tables that record the same versions -/

section Congruence

variable {table table' : HfVersions}

theorem getHardForkVersion_setHardForkVersion_congr
    (hagree : ∀ key, table.getHardForkVersion key = table'.getHardForkVersion key) (height version key : Nat) :
    (table.setHardForkVersion height version).getHardForkVersion key =
      (table'.setHardForkVersion height version).getHardForkVersion key := by
  rw [HfVersions.getHardForkVersion_setHardForkVersion, HfVersions.getHardForkVersion_setHardForkVersion, hagree]

theorem getHardForkVersion_addBlock_congr
    (hagree : ∀ key, table.getHardForkVersion key = table'.getHardForkVersion key) (block : Block) (height key : Nat) :
    (hf.addBlock table block height).2.2.getHardForkVersion key =
      (hf.addBlock table' block height).2.2.getHardForkVersion key := by
  unfold addBlock
  cases hcheck : hf.doCheck block.majorVersion (getBlockVote block.minorVersion)
  · rw [add_of_not_doCheck hcheck, add_of_not_doCheck hcheck]
    exact hagree key
  · rw [add_of_doCheck hcheck, add_of_doCheck hcheck]
    exact getHardForkVersion_setHardForkVersion_congr hagree _ _ key

theorem getHardForkVersion_replay_of_agree
    (hagree : ∀ key, table.getHardForkVersion key = table'.getHardForkVersion key) (blocks : List Block)
    (height key : Nat) :
    (hf.replay table blocks height).2.getHardForkVersion key =
      (hf.replay table' blocks height).2.getHardForkVersion key := by
  induction blocks generalizing hf table table' height with
  | nil => exact hagree key
  | cons block blocks inductionHypothesis =>
    rw [replay_cons, replay_cons, ← (addBlock_congr table table' block height).2]
    exact inductionHypothesis (getHardForkVersion_addBlock_congr hagree block height) (height + 1)

theorem reorganizeFromBlockHeight_eq_none_iff {blocks : List Block} {height : Nat} :
    hf.reorganizeFromBlockHeight blocks table height = none ↔ blocks.length ≤ height := by
  constructor
  · intro hnone
    by_contra hnot
    rw [reorganizeFromBlockHeight_of_lt (Nat.lt_of_not_le hnot)] at hnone
    cases hnone
  · intro hheight
    rw [reorganizeFromBlockHeight, if_pos hheight]

theorem reorganizeFromChainHeight_one (blocks : List Block) (table : HfVersions) :
    hf.reorganizeFromChainHeight blocks table 1 = hf.reorganizeFromBlockHeight blocks table 0 := rfl

/-- `reorganize_from_block_height` reads the table only through the versions
it records. -/
theorem reorganizeFromBlockHeight_congr
    (hagree : ∀ key, table.getHardForkVersion key = table'.getHardForkVersion key) {blocks : List Block}
    {height : Nat} {result : HardFork × HfVersions}
    (hresult : hf.reorganizeFromBlockHeight blocks table height = some result) :
    ∃ result', hf.reorganizeFromBlockHeight blocks table' height = some result' ∧ result'.1 = result.1 ∧
      ∀ key, result'.2.getHardForkVersion key = result.2.getHardForkVersion key := by
  have hheight : height < blocks.length := by
    by_contra hnot
    rw [reorganizeFromBlockHeight, if_pos (Nat.le_of_not_lt hnot)] at hresult
    cases hresult
  have hstart : hf.startVersion table' height = hf.startVersion table height := by
    rw [startVersion, startVersion, hagree]
  rw [reorganizeFromBlockHeight_of_lt hheight, Option.some.injEq] at hresult
  subst hresult
  rw [reorganizeFromBlockHeight_of_lt hheight, hstart]
  exact ⟨_, rfl, replay_fst_congr _ _ _ _,
    fun key => (getHardForkVersion_replay_of_agree hagree _ _ key).symm⟩

/-- `init` reads the table only through the versions it records. -/
theorem init_congr (hagree : ∀ key, table.getHardForkVersion key = table'.getHardForkVersion key)
    (blocks : List Block) :
    (hf.init blocks table').1 = (hf.init blocks table).1 ∧
      ∀ key, (hf.init blocks table').2.getHardForkVersion key = (hf.init blocks table).2.getHardForkVersion key := by
  rw [init_eq, init_eq, hagree]
  rcases table'.getHardForkVersion 0 with _ | _
  · dsimp only
    rw [reorganizeFromChainHeight_one, reorganizeFromChainHeight_one]
    rcases hrebuilt : hf.reset.reorganizeFromBlockHeight blocks table 0 with _ | ⟨rebuilt, rebuiltTable⟩
    · rw [reorganizeFromBlockHeight_eq_none_iff.2 (reorganizeFromBlockHeight_eq_none_iff.1 hrebuilt)]
      exact ⟨rfl, getHardForkVersion_setHardForkVersion_congr (fun key => (hagree key).symm) _ _⟩
    · obtain ⟨⟨rebuilt', rebuiltTable'⟩, hresult', hobject, htable⟩ := reorganizeFromBlockHeight_congr hagree hrebuilt
      dsimp only at hobject htable
      rw [hresult', hobject]
      exact ⟨rfl, fun key => by
        rw [HfVersions.getHardForkVersion_setHardForkVersion, HfVersions.getHardForkVersion_setHardForkVersion]
        simp only [Option.getD_some, htable]⟩
  · dsimp only
    have hrescan : ∀ height, hf.reset.rescanFromBlockHeight blocks table' height =
        hf.reset.rescanFromBlockHeight blocks table height := by
      intro height
      rw [rescanFromBlockHeight, rescanFromBlockHeight, hagree]
    refine ⟨?_, fun key => (hagree key).symm⟩
    rw [rescanFromChainHeight, rescanFromChainHeight, hrescan]

end Congruence

/-! ## Schedules accepted by `add_fork` -/

/-- The fork versions increase along the schedule. -/
def Ascending (hf : HardFork) : Prop :=
  hf.heights.Pairwise fun earlier later => earlier.version < later.version

instance (hf : HardFork) : Decidable hf.Ascending :=
  inferInstanceAs (Decidable (hf.heights.Pairwise _))

theorem SameSchedule.ascending (hsame : SameSchedule hf hf') (hascending : hf.Ascending) : hf'.Ascending := by
  unfold Ascending
  rw [hsame.heights]
  exact hascending

theorem Ascending.reset (hascending : hf.Ascending) : hf.reset.Ascending := by
  unfold Ascending HardFork.reset
  split
  · exact List.pairwise_singleton _ _
  · exact hascending

theorem fork_eq_getElem {i : Nat} (hi : i < hf.heights.length) : hf.fork i = hf.heights[i] := by
  rw [HardFork.fork, List.getD_eq_getElem?_getD, List.getElem?_eq_getElem hi, Option.getD_some]

theorem Ascending.fork_lt (hascending : hf.Ascending) {i j : Nat} (hij : i < j) (hj : j < hf.heights.length) :
    (hf.fork i).version < (hf.fork j).version := by
  rw [fork_eq_getElem (by omega), fork_eq_getElem hj]
  exact List.pairwise_iff_getElem.1 hascending i j (by omega) hj hij

theorem Ascending.fork_le (hascending : hf.Ascending) {i j : Nat} (hij : i ≤ j) (hj : j < hf.heights.length) :
    (hf.fork i).version ≤ (hf.fork j).version := by
  rcases Nat.eq_or_lt_of_le hij with rfl | hlt
  · exact Nat.le_refl _
  · exact (hascending.fork_lt hlt hj).le

/-- `add_fork` keeps the versions ascending. -/
theorem Ascending.addFork (hascending : hf.Ascending) (version height threshold time : Nat) :
    (hf.addFork version height threshold time).2.Ascending := by
  unfold HardFork.addFork
  split_ifs with hzero hlater hthreshold
  · exact hascending
  · exact hascending
  · exact hascending
  · unfold Ascending at hascending ⊢
    rcases List.eq_nil_or_concat hf.heights with hnil | ⟨front, last, hsplit⟩
    · rw [hnil]
      exact List.pairwise_singleton _ _
    rw [List.concat_eq_append] at hsplit
    have hlast : last.version < version := by
      simp [hsplit] at hlater
      omega
    rw [hsplit] at hascending ⊢
    refine List.pairwise_append.2 ⟨hascending, List.pairwise_singleton _ _, fun earlier hearlier later hlater' => ?_⟩
    rw [List.mem_singleton.1 hlater']
    rcases List.mem_append.1 hearlier with hfront | hend
    · exact ((List.pairwise_append.1 hascending).2.2 earlier hfront last (List.mem_singleton_self _)).trans hlast
    · rw [List.mem_singleton.1 hend]
      exact hlast

/-- Stepping the fork index back to the version of an earlier fork of an
ascending schedule stops at that fork. -/
theorem stepBack_fork (hascending : hf.Ascending) {j : Nat} :
    ∀ index, j ≤ index → index < hf.heights.length → hf.stepBack (hf.fork j).version index = j
  | 0, hle, _ => by
    rw [stepBack]
    omega
  | index + 1, hle, hindex => by
    unfold stepBack
    rcases Nat.eq_or_lt_of_le hle with rfl | hlt
    · rw [if_neg (Nat.lt_irrefl _)]
    · rw [if_pos (hascending.fork_lt hlt hindex)]
      exact stepBack_fork hascending index (by omega) (by omega)

/-- Stepping back to a version below every fork after the first reaches it. -/
theorem stepBack_of_lt {version : Nat} :
    ∀ index, (∀ i, 0 < i → i ≤ index → version < (hf.fork i).version) → hf.stepBack version index = 0
  | 0, _ => rfl
  | index + 1, hbelow => by
    unfold stepBack
    rw [if_pos (hbelow (index + 1) (Nat.succ_pos _) (Nat.le_refl _))]
    exact stepBack_of_lt index fun i hpositive hle => hbelow i hpositive (Nat.le_succ_of_le hle)

/-- The search of `rescan_from_block_height` finds the fork of a version of an
ascending schedule. -/
theorem forkIndexFrom_fork (hascending : hf.Ascending) {j : Nat} (hj : j < hf.heights.length) :
    ∀ fuel index, index ≤ j → j < index + fuel → hf.forkIndexFrom (hf.fork j).version fuel index = j
  | 0, index, hle, hfuel => by omega
  | fuel + 1, index, hle, hfuel => by
    unfold forkIndexFrom
    rcases Nat.eq_or_lt_of_le hle with rfl | hlt
    · rw [if_neg fun hcontinue => hcontinue.2 rfl]
    · rw [if_pos ⟨by omega, (hascending.fork_lt hlt hj).ne⟩]
      exact forkIndexFrom_fork hascending hj fuel (index + 1) (by omega) (by omega)

/-- With the original version below the second fork's, it is below every later
fork of the schedule `init` sets up. -/
theorem originalVersion_lt_fork_reset (hascending : hf.Ascending)
    (hstart : hf.heights.length ≤ 1 ∨ hf.originalVersion < (hf.fork 1).version) {i : Nat} (hpositive : 0 < i)
    (hi : i < hf.reset.heights.length) : hf.originalVersion < (hf.reset.fork i).version := by
  by_cases hnil : hf.heights = []
  · have hsingle : hf.reset.heights.length = 1 := by
      unfold reset
      rw [if_pos hnil]
      rfl
    omega
  · have hsame := sameSchedule_reset hnil
    rw [hsame.heights] at hi
    rw [hsame.fork]
    rcases hstart with hsingle | hbelow
    · omega
    · exact hbelow.trans_le (hascending.fork_le hpositive hi)

end HardFork

end ElectroneumClassic
