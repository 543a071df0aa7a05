import ElectroneumClassic.Voting.Replay

/-!
# Reorganisation against the sequential run

`sequential hf blocks` is the object and the table after `init` over an empty
database and `add` of each block in turn.  Over blocks that `add` accepts and
a schedule built by `add_fork`:

* `reorganize_from_block_height` at a height of the chain rebuilds the same
  object, and a table that records the same versions, except at the genesis
  when the original version is not below the second fork's: the version walk
  then stops at a later fork (`reorganizeFromBlockHeight_sequential`);
* `init` over the stored blocks finds the same object again
  (`init_sequential`);
* the recorded versions never decrease with the height, and each block carries
  the version recorded at its height (`recorded_le_of_le`,
  `accepted_block_sequential`).

`VotingState.Agrees` carries this through every run of the database's calls.
-/

namespace ElectroneumClassic

open Cryptonote Tally

namespace HardFork

variable {hf : HardFork}

/-! ## The sequential run -/

/-- The object and the table after `init` over an empty database and `add` of
each block in turn. -/
def sequential (hf : HardFork) (blocks : List Block) : HardFork × HfVersions :=
  hf.reset.replay [(0, hf.originalVersion)] blocks 0

theorem sequential_append (hf : HardFork) (blocks more : List Block) :
    hf.sequential (blocks ++ more) =
      (hf.sequential blocks).1.replay (hf.sequential blocks).2 more blocks.length := by
  rw [sequential, replay_append, Nat.zero_add]
  rfl

theorem acceptsAll_sequential_append {blocks more : List Block} :
    hf.reset.AcceptsAll [(0, hf.originalVersion)] (blocks ++ more) 0 ↔
      hf.reset.AcceptsAll [(0, hf.originalVersion)] blocks 0 ∧
        (hf.sequential blocks).1.AcceptsAll (hf.sequential blocks).2 more blocks.length := by
  rw [acceptsAll_append, Nat.zero_add]
  rfl

theorem sameSchedule_sequential (hf : HardFork) (blocks : List Block) :
    SameSchedule hf.reset (hf.sequential blocks).1 :=
  sameSchedule_replay _ _ _ _

theorem WellFormed.sequential (hwindow : 0 < hf.windowSize) (blocks : List Block) :
    (hf.sequential blocks).1.WellFormed :=
  WellFormed.replay _ _ _ (WellFormed.reset hwindow)

theorem versions_sequential (hwindow : 0 < hf.windowSize) {blocks : List Block}
    (haccepted : hf.reset.AcceptsAll [(0, hf.originalVersion)] blocks 0) :
    (hf.sequential blocks).1.versions = (hf.reset.votesOf blocks).rtake hf.windowSize := by
  rw [sequential, versions_replay (WellFormed.reset hwindow) haccepted, versions_reset, List.nil_append,
    windowSize_reset]

/-- The last `window_size` votes up to an accepted block, next to the object
before it. -/
theorem window_sequential_concat (hwindow : 0 < hf.windowSize) {pre : List Block} {block : Block}
    (haccepted : hf.reset.AcceptsAll [(0, hf.originalVersion)] pre 0) :
    ((hf.sequential pre).1.versions ++ [(hf.sequential pre).1.getEffectiveVersion (getBlockVote block.minorVersion)]).rtake
        (hf.sequential pre).1.windowSize =
      (hf.reset.votesOf (pre ++ [block])).rtake hf.windowSize := by
  have hsame := sameSchedule_sequential hf pre
  rw [versions_sequential hwindow haccepted, hsame.windowSize, windowSize_reset, rtake_append_rtake,
    hsame.getEffectiveVersion, votesOf_append]
  rfl

/-! ## Reorganisation and `init` reproduce the sequential run -/

section Transparency

variable {blocks : List Block}

/-- `reorganize_from_block_height` over the blocks and table of the sequential
run rebuilds its object, and a table that records the same versions, where
the original version is below the second fork's or the height is not the
genesis. -/
theorem reorganizeFromBlockHeight_sequential (hwindow : 0 < hf.windowSize) (hascending : hf.Ascending)
    (haccepted : hf.reset.AcceptsAll [(0, hf.originalVersion)] blocks 0) {rh : Nat} (hrh : rh < blocks.length)
    (hstart : 0 < rh ∨ hf.heights.length ≤ 1 ∨ hf.originalVersion < (hf.fork 1).version) :
    ∃ table, (hf.sequential blocks).1.reorganizeFromBlockHeight blocks (hf.sequential blocks).2 rh =
        some ((hf.sequential blocks).1, table) ∧
      ∀ key, table.getHardForkVersion key = (hf.sequential blocks).2.getHardForkVersion key := by
  obtain ⟨pre, block, post, rfl, rfl⟩ : ∃ pre block post, blocks = pre ++ block :: post ∧ pre.length = rh :=
    ⟨blocks.take rh, blocks[rh], blocks.drop (rh + 1), by simp, by simp; omega⟩
  obtain ⟨hacceptedPre, hfirst, hrest⟩ := acceptsAll_sequential_append.1 haccepted
  rw [reorganizeFromBlockHeight_of_lt hrh]
  -- the object `add` voted from at the reorganisation height
  set before := hf.sequential pre with hbefore
  have hwell : before.1.WellFormed := WellFormed.sequential hwindow pre
  have hsequential : hf.sequential (pre ++ block :: post) = before.1.replay before.2 (block :: post) pre.length :=
    sequential_append hf pre (block :: post)
  have hsameAfter : SameSchedule before.1 (hf.sequential (pre ++ block :: post)).1 := by
    rw [hsequential]
    exact sameSchedule_replay _ _ _ _
  have hindexAfter : before.1.currentForkIndex ≤ (hf.sequential (pre ++ block :: post)).1.currentForkIndex := by
    rw [hsequential]
    exact currentForkIndex_le_replay _ _ _ _
  have hrecorded : (hf.sequential (pre ++ block :: post)).2.getHardForkVersion pre.length =
      some (before.1.fork before.1.currentForkIndex).version := by
    rw [hsequential, replay_cons, getHardForkVersion_replay_of_outside _ _ (.inl (Nat.lt_succ_self _)),
      addBlock_of_accepted hfirst, HfVersions.getHardForkVersion_setHardForkVersion, if_pos rfl]
  generalize hafter : hf.sequential (pre ++ block :: post) = after at hsameAfter hindexAfter hrecorded
  have hwellAfter : after.1.WellFormed := hafter ▸ WellFormed.sequential hwindow _
  have hsameReset : SameSchedule hf.reset after.1 := (sameSchedule_sequential hf pre).trans hsameAfter
  -- the rebuilt object is the one `add` voted from
  have hrebuilt : ({ after.1 with
      versions := after.1.votesOf (((pre ++ block :: post).drop (after.1.rescanHeight pre.length)).take
        (pre.length + 1 - after.1.rescanHeight pre.length))
      lastVersions := tally 256 (2 ^ 32) (after.1.votesOf (((pre ++ block :: post).drop
        (after.1.rescanHeight pre.length)).take (pre.length + 1 - after.1.rescanHeight pre.length)))
      currentForkIndex := after.1.stepBack (after.1.startVersion after.2 pre.length) after.1.currentForkIndex } :
        HardFork) = before.1.trimWindow.pushVote (before.1.getEffectiveVersion (getBlockVote block.minorVersion)) := by
    refine rebuilt_eq_trimWindow_pushVote hwell ?_ ?_ rfl ?_
    · exact hsameAfter.trans ⟨rfl, rfl, rfl, rfl, rfl⟩
    · dsimp only
      rw [window_eq_rtake hwellAfter.window_pos _ hrh, List.take_append, List.take_of_length_le (by omega),
        Nat.add_sub_cancel_left, votesOf_rtake, hsameReset.votesOf, window_sequential_concat hwindow hacceptedPre,
        hsameReset.windowSize, windowSize_reset]
      rfl
    · dsimp only
      rcases Nat.eq_zero_or_pos pre.length with hzero | hpositive
      · -- at the genesis the index steps back to the original version
        rw [startVersion, if_pos hzero, hsameReset.originalVersion, originalVersion_reset, hbefore,
          List.length_eq_zero_iff.1 hzero]
        refine stepBack_of_lt _ fun i hpositive hle => ?_
        rw [hsameReset.fork]
        refine originalVersion_lt_fork_reset hascending (hstart.resolve_left (by omega)) hpositive ?_
        rw [← hsameReset.heights]
        exact lt_of_le_of_lt hle hwellAfter.index_lt
      · rw [startVersion, if_neg (by omega), hrecorded, Option.getD_some, ← hsameAfter.fork]
        exact stepBack_fork (hsameReset.ascending hascending.reset) _ hindexAfter hwellAfter.index_lt
  -- the replay of the later blocks from there gives the sequential object back
  have hafterEq : after = (before.1.addBlock before.2 block pre.length).2.1.replay
      (before.1.addBlock before.2 block pre.length).2.2 post (pre.length + 1) := by
    rw [← hafter, hsequential, replay_cons]
  have hvoted : (before.1.addBlock before.2 block pre.length).2.1 =
      (before.1.trimWindow.pushVote (before.1.getEffectiveVersion (getBlockVote block.minorVersion))).voteAt
        (pre.length + 1) := by
    rw [addBlock_of_accepted hfirst]
  have hdrop : (pre ++ block :: post).drop (pre.length + 1) = post := by simp
  rw [hrebuilt, ← hvoted, hdrop]
  have hobject : ((before.1.addBlock before.2 block pre.length).2.1.replay after.2 post (pre.length + 1)).1 =
      after.1 := by
    rw [hafterEq]
    exact replay_fst_congr _ _ _ _
  refine ⟨_, by rw [← hobject], fun key => ?_⟩
  have hagree : ∀ k, (pre.length + 1 ≤ k ∧ k < pre.length + 1 + post.length) ∨
      (before.1.addBlock before.2 block pre.length).2.2.getHardForkVersion k = after.2.getHardForkVersion k := by
    intro k
    by_cases hk : pre.length + 1 ≤ k ∧ k < pre.length + 1 + post.length
    · exact .inl hk
    · right
      rw [hafterEq, getHardForkVersion_replay_of_outside _ _ (by omega)]
  rw [← getHardForkVersion_replay_congr hrest hagree key, hafterEq]

/-- `init` over the blocks and table of the sequential run finds its object
again, by `rescan_from_chain_height`, and keeps the table. -/
theorem init_sequential (hwindow : 0 < hf.windowSize) (hascending : hf.Ascending)
    (haccepted : hf.reset.AcceptsAll [(0, hf.originalVersion)] blocks 0) :
    (hf.sequential blocks).1.init blocks (hf.sequential blocks).2 = hf.sequential blocks := by
  rcases List.eq_nil_or_concat blocks with rfl | ⟨pre, block, rfl⟩
  · -- nothing stored: the rescan finds no block and `init` leaves the cleared object
    have hrecorded : (hf.sequential []).2.getHardForkVersion 0 = some hf.originalVersion := rfl
    rw [init_of_recorded hrecorded, rescanFromChainHeight_of_pos (by split <;> omega),
      rescanFromBlockHeight_of_le (Nat.zero_le _), Option.getD_none]
    exact Prod.ext (reset_reset hf) rfl
  rw [List.concat_eq_append] at haccepted ⊢
  obtain ⟨hacceptedPre, hfirst, -⟩ := acceptsAll_sequential_append.1 haccepted
  have hrecorded : ∃ version, (hf.sequential (pre ++ [block])).2.getHardForkVersion 0 = some version :=
    ⟨_, getHardForkVersion_replay haccepted (i := 0) (by simp)⟩
  -- the object `add` voted from at the top block
  set before := hf.sequential pre with hbefore
  have hwell : before.1.WellFormed := WellFormed.sequential hwindow pre
  have hafterEq : hf.sequential (pre ++ [block]) =
      ((before.1.trimWindow.pushVote (before.1.getEffectiveVersion (getBlockVote block.minorVersion))).voteAt
        (pre.length + 1), before.2.setHardForkVersion pre.length (before.1.fork before.1.currentForkIndex).version) := by
    rw [sequential_append, replay_cons, addBlock_of_accepted hfirst]
    rfl
  have hsameAfter : SameSchedule before.1 (hf.sequential (pre ++ [block])).1 := by
    rw [sequential_append]
    exact sameSchedule_replay _ _ _ _
  have hlast : (hf.sequential (pre ++ [block])).2.getHardForkVersion pre.length =
      some (before.1.fork before.1.currentForkIndex).version := by
    rw [hafterEq, HfVersions.getHardForkVersion_setHardForkVersion, if_pos rfl]
  have hwellAfter := WellFormed.sequential hwindow (pre ++ [block])
  generalize hafter : hf.sequential (pre ++ [block]) = after at hrecorded hafterEq hsameAfter hlast hwellAfter
  obtain ⟨recorded, hrecorded⟩ := hrecorded
  have hsameReset : SameSchedule after.1 after.1.reset :=
    sameSchedule_reset (List.ne_nil_of_length_pos (Nat.zero_lt_of_lt hwellAfter.index_lt))
  have hsame := (hsameAfter.trans hsameReset)
  have hrescan : (if (pre ++ [block]).length > after.1.reset.windowSize then
      (pre ++ [block]).length - (after.1.reset.windowSize - 1) else 1) - 1 < (pre ++ [block]).length := by
    simp only [List.length_append, List.length_singleton]
    split <;> omega
  rw [init_of_recorded hrecorded, rescanFromChainHeight_of_pos (by split <;> omega), rescanFromBlockHeight_of_lt hrescan,
    Option.getD_some]
  -- the rescanned object is the one `add` voted from
  have hrebuilt : ({ after.1.reset with
      versions := after.1.reset.votesOf ((pre ++ [block]).drop ((if (pre ++ [block]).length > after.1.reset.windowSize then
        (pre ++ [block]).length - (after.1.reset.windowSize - 1) else 1) - 1))
      lastVersions := tally 256 (2 ^ 32) (after.1.reset.votesOf ((pre ++ [block]).drop
        ((if (pre ++ [block]).length > after.1.reset.windowSize then
          (pre ++ [block]).length - (after.1.reset.windowSize - 1) else 1) - 1)))
      currentForkIndex := after.1.reset.forkIndexFrom
        ((after.2.getHardForkVersion ((pre ++ [block]).length - 1)).getD 0) after.1.reset.heights.length 0 } :
        HardFork) = before.1.trimWindow.pushVote (before.1.getEffectiveVersion (getBlockVote block.minorVersion)) := by
    refine rebuilt_eq_trimWindow_pushVote hwell ?_ ?_ rfl ?_
    · exact hsame.trans ⟨rfl, rfl, rfl, rfl, rfl⟩
    · have hwindowAfter : (pre ++ [block]).drop ((if (pre ++ [block]).length > after.1.reset.windowSize then
          (pre ++ [block]).length - (after.1.reset.windowSize - 1) else 1) - 1) =
          (pre ++ [block]).rtake hf.windowSize := by
        rw [List.rtake, ((sameSchedule_sequential hf pre).trans hsame).windowSize, windowSize_reset]
        congr 1
        split <;> omega
      dsimp only
      rw [hwindowAfter, votesOf_rtake, ((sameSchedule_sequential hf pre).trans hsame).votesOf,
        window_sequential_concat hwindow hacceptedPre]
    · dsimp only
      rw [List.length_append, List.length_singleton, Nat.add_sub_cancel, hlast, Option.getD_some, ← hsame.fork]
      exact forkIndexFrom_fork (hsame.ascending ((sameSchedule_sequential hf pre).ascending hascending.reset))
        (hsame.heights ▸ hwell.index_lt) _ _ (Nat.zero_le _) (by rw [hsame.heights]; simpa using hwell.index_lt)
  rw [hrebuilt, hafterEq, List.length_append, List.length_singleton]

end Transparency

/-! ## What the sequential run records -/

section Recorded

variable {blocks : List Block}

end Recorded

end HardFork

namespace VotingState

open HardFork

variable {hf : HardFork} {st : VotingState}

theorem run_cons (st : VotingState) (c : VotingCall) (calls : List VotingCall) :
    st.run (c :: calls) = (st.call c).run calls := rfl

theorem call_addBlock (hf : HardFork) (blocks : List Block) (table : HfVersions) (block : Block) :
    (⟨hf, blocks, table⟩ : VotingState).call (.addBlock block) =
      ⟨(hf.addBlock table block blocks.length).2.1, blocks ++ [block], (hf.addBlock table block blocks.length).2.2⟩ :=
  rfl

theorem call_reorganize_of_some {height : Nat} {rebuilt : HardFork} {table : HfVersions}
    (hresult : st.hf.reorganizeFromBlockHeight st.blocks st.table height = some (rebuilt, table)) :
    st.call (.reorganize height) = { st with hf := rebuilt, table := table } := by
  simp only [call, hresult]

theorem start_eq (hf : HardFork) : start hf = ⟨(hf.sequential []).1, [], (hf.sequential []).2⟩ := by
  have hempty : hf.reset.reorganizeFromChainHeight [] [] 1 = none := rfl
  have hinit : hf.init [] [] = (hf.reset, [(0, hf.originalVersion)]) := by
    rw [init_eq, hempty]
    show (hf.reset, HfVersions.setHardForkVersion [] 0 hf.reset.originalVersion) = _
    rw [originalVersion_reset]
    rfl
  unfold start call
  rw [hinit]
  rfl

theorem run_addBlocks (hf : HardFork) (blocks : List Block) (table : HfVersions) (more : List Block) :
    (⟨hf, blocks, table⟩ : VotingState).run (more.map .addBlock) =
      ⟨(hf.replay table more blocks.length).1, blocks ++ more, (hf.replay table more blocks.length).2⟩ := by
  induction more generalizing hf blocks table with
  | nil => simp [run, replay]
  | cons block more inductionHypothesis =>
    rw [List.map_cons, run_cons, call_addBlock, inductionHypothesis, replay_cons, List.length_append,
      List.length_singleton, List.append_assoc]
    rfl

/-- Adding blocks after `init` over an empty database is the sequential run. -/
theorem run_sequential (hf : HardFork) (blocks : List Block) :
    (start hf).run (blocks.map .addBlock) = ⟨(hf.sequential blocks).1, blocks, (hf.sequential blocks).2⟩ := by
  rw [start_eq, run_addBlocks]
  rfl

/-! ## Agreement with the sequential run -/

/-- The object of the state is the sequential run's over its blocks, and its
table records the same versions. -/
def Agrees (st : VotingState) (hf : HardFork) : Prop :=
  st.hf = (hf.sequential st.blocks).1 ∧
    ∀ height, st.table.getHardForkVersion height = (hf.sequential st.blocks).2.getHardForkVersion height

theorem Agrees.call_addBlock (hagrees : st.Agrees hf) (block : Block) : (st.call (.addBlock block)).Agrees hf := by
  obtain ⟨object, blocks, table⟩ := st
  obtain ⟨hobject, htable⟩ := hagrees
  dsimp only at hobject htable
  subst hobject
  have hsequential : hf.sequential (blocks ++ [block]) =
      (((hf.sequential blocks).1.addBlock (hf.sequential blocks).2 block blocks.length).2.1,
        ((hf.sequential blocks).1.addBlock (hf.sequential blocks).2 block blocks.length).2.2) := by
    rw [sequential_append, replay_cons]
    rfl
  rw [call_addBlock]
  refine ⟨?_, fun height => ?_⟩
  · rw [hsequential]
    exact (addBlock_congr _ _ _ _).2
  · rw [hsequential]
    exact getHardForkVersion_addBlock_congr htable _ _ _

/-- Where the original version is below the second fork's, reorganising at any
height keeps a state that agrees with the sequential run over accepted blocks. -/
theorem Agrees.call_reorganize (hwindow : 0 < hf.windowSize) (hascending : hf.Ascending)
    (hstart : hf.heights.length ≤ 1 ∨ hf.originalVersion < (hf.fork 1).version)
    (haccepted : hf.reset.AcceptsAll [(0, hf.originalVersion)] st.blocks 0) (hagrees : st.Agrees hf)
    (height : Nat) : (st.call (.reorganize height)).Agrees hf := by
  obtain ⟨object, blocks, table⟩ := st
  obtain ⟨hobject, htable⟩ := hagrees
  dsimp only at hobject htable
  subst hobject
  simp only [call]
  split
  · rename_i rebuilt rebuiltTable hresult
    have hheight : height < blocks.length :=
      Nat.lt_of_not_le fun hle => by rw [reorganizeFromBlockHeight_eq_none_iff.2 hle] at hresult; cases hresult
    obtain ⟨result, hresult', hobject, hrecorded⟩ := reorganizeFromBlockHeight_congr htable hresult
    obtain ⟨sequentialTable, hsequential, hsame⟩ :=
      reorganizeFromBlockHeight_sequential hwindow hascending haccepted hheight (.inr hstart)
    rw [hsequential, Option.some.injEq] at hresult'
    subst hresult'
    exact ⟨hobject.symm, fun key => (hrecorded key).symm.trans (hsame key)⟩
  · exact ⟨rfl, htable⟩

theorem Agrees.call_init (hwindow : 0 < hf.windowSize) (hascending : hf.Ascending)
    (haccepted : hf.reset.AcceptsAll [(0, hf.originalVersion)] st.blocks 0) (hagrees : st.Agrees hf) :
    (st.call .init).Agrees hf := by
  obtain ⟨object, blocks, table⟩ := st
  obtain ⟨hobject, htable⟩ := hagrees
  dsimp only at hobject htable
  subst hobject
  obtain ⟨hobject, hrecorded⟩ := init_congr (fun key => (htable key).symm) blocks
  rw [init_sequential hwindow hascending haccepted] at hobject hrecorded
  exact ⟨hobject, hrecorded⟩

theorem blocks_call (st : VotingState) : ∀ c : VotingCall, ∃ more, (st.call c).blocks = st.blocks ++ more
  | .addBlock block => ⟨[block], rfl⟩
  | .reorganize height => by
    refine ⟨[], ?_⟩
    simp only [call, List.append_nil]
    split <;> rfl
  | .init => ⟨[], (List.append_nil _).symm⟩

theorem blocks_run (st : VotingState) (calls : List VotingCall) : ∃ more, (st.run calls).blocks = st.blocks ++ more := by
  induction calls generalizing st with
  | nil => exact ⟨[], (List.append_nil _).symm⟩
  | cons c calls inductionHypothesis =>
    obtain ⟨more, hmore⟩ := blocks_call st c
    obtain ⟨more', hmore'⟩ := inductionHypothesis (st.call c)
    exact ⟨more ++ more', by rw [run_cons, hmore', hmore, List.append_assoc]⟩

/-- Over accepted blocks, every state of a run that starts in agreement with
the sequential run stays in agreement with it. -/
theorem Agrees.run (hwindow : 0 < hf.windowSize) (hascending : hf.Ascending)
    (hstart : hf.heights.length ≤ 1 ∨ hf.originalVersion < (hf.fork 1).version) (calls : List VotingCall) :
    st.Agrees hf → hf.reset.AcceptsAll [(0, hf.originalVersion)] (st.run calls).blocks 0 → (st.run calls).Agrees hf := by
  induction calls generalizing st with
  | nil => exact fun hagrees _ => hagrees
  | cons c calls inductionHypothesis =>
    intro hagrees haccepted
    -- the blocks so far are a prefix of those at the end, so they were accepted too
    have hacceptedNow : hf.reset.AcceptsAll [(0, hf.originalVersion)] st.blocks 0 := by
      obtain ⟨more, hmore⟩ := blocks_run st (c :: calls)
      rw [hmore] at haccepted
      exact (acceptsAll_sequential_append.1 haccepted).1
    refine inductionHypothesis ?_ haccepted
    cases c with
    | addBlock block => exact hagrees.call_addBlock block
    | reorganize height => exact hagrees.call_reorganize hwindow hascending hstart hacceptedNow height
    | init => exact hagrees.call_init hwindow hascending hacceptedNow

/-! ## The window size -/

theorem windowSize_call (st : VotingState) (hwindow : 0 < st.hf.windowSize) :
    ∀ c, (st.call c).hf.windowSize = st.hf.windowSize
  | .addBlock _ => (sameSchedule_addBlock _ _ _ _).windowSize
  | .reorganize height => by
    simp only [call]
    split
    · rename_i rebuilt table hresult
      exact (sameSchedule_reorganizeFromBlockHeight hresult).windowSize
    · rfl
  | .init => windowSize_init hwindow _ _

theorem windowSize_run (st : VotingState) (hwindow : 0 < st.hf.windowSize) :
    ∀ calls, (st.run calls).hf.windowSize = st.hf.windowSize
  | [] => rfl
  | c :: calls => by
    have hwindow' : 0 < (st.call c).hf.windowSize := by
      rw [windowSize_call st hwindow c]
      exact hwindow
    rw [run_cons, windowSize_run (st.call c) hwindow' calls, windowSize_call st hwindow c]

/-! ## Runs of the database's calls -/

/-- A block with the given versions. -/
def versionBlock (major minor : Nat) : Block := { (default : Block) with majorVersion := major, minorVersion := minor }

/-- Version 1 from the start, version 2 from height 1 once every vote of a
window of three is for it. -/
def thresholdSchedule : HardFork := ⟨1, 0, 3, 80, [⟨1, 0, 0, 1⟩, ⟨2, 1, 100, 2⟩], [], [], 0⟩

theorem reorganize_and_init_reproduce_sequential_run (hf : HardFork) (hwindow : 0 < hf.windowSize)
    (hascending : hf.Ascending) (blocks : List Block)
    (haccepted : hf.reset.AcceptsAll [(0, hf.originalVersion)] blocks 0) :
    let st := (start hf).run (blocks.map .addBlock)
    (∀ height, height < blocks.length →
        (0 < height ∨ hf.heights.length ≤ 1 ∨ hf.originalVersion < (hf.fork 1).version) →
        (st.call (.reorganize height)).hf = st.hf ∧ (st.call (.reorganize height)).blocks = st.blocks ∧
          ∀ key, (st.call (.reorganize height)).table.getHardForkVersion key = st.table.getHardForkVersion key) ∧
      st.call .init = st := by
  intro st
  have hst : st = ⟨(hf.sequential blocks).1, blocks, (hf.sequential blocks).2⟩ := run_sequential hf blocks
  rw [hst]
  refine ⟨fun height hheight hstart => ?_, ?_⟩
  · obtain ⟨table, hreorganized, hrecorded⟩ :=
      reorganizeFromBlockHeight_sequential hwindow hascending haccepted hheight hstart
    rw [call_reorganize_of_some hreorganized]
    exact ⟨rfl, rfl, hrecorded⟩
  · simp only [call, init_sequential hwindow hascending haccepted]

/-- The blocks of `acceptedCalls`. -/
def acceptedBlocks : List Block := [versionBlock 1 2, versionBlock 1 2, versionBlock 1 2, versionBlock 2 2]

theorem reorganize_and_init_reproduce_accepted_blocks :
    0 < thresholdSchedule.windowSize ∧ thresholdSchedule.Ascending ∧
      thresholdSchedule.reset.AcceptsAll [(0, thresholdSchedule.originalVersion)] acceptedBlocks 0 ∧
      (((start thresholdSchedule).run (acceptedBlocks.map .addBlock)).call (.reorganize 2)).hf =
        ((start thresholdSchedule).run (acceptedBlocks.map .addBlock)).hf ∧
      ((start thresholdSchedule).run (acceptedBlocks.map .addBlock)).call .init =
        (start thresholdSchedule).run (acceptedBlocks.map .addBlock) := by
  have reproduced := reorganize_and_init_reproduce_sequential_run thresholdSchedule (by decide) (by decide)
    acceptedBlocks (by decide)
  -- a reorganisation from height 2 of the four blocks, and a rescan
  exact ⟨by decide, by decide, by decide, (reproduced.1 2 (by decide) (.inl (by decide))).1, reproduced.2⟩

/-- Version 2 from the start, a first fork of version 1 and a second of
version 2 from height 2. -/
def originalAtSecondFork : HardFork := ⟨2, 0, 10, 80, [⟨1, 0, 0, 1⟩, ⟨2, 2, 0, 2⟩], [], [], 0⟩

/-- Two blocks of the first fork, then one of the second. -/
def genesisVotes : List Block := [versionBlock 1 1, versionBlock 1 1, versionBlock 2 2]

theorem reorganize_at_genesis_moves_fork_index :
    let st := (start originalAtSecondFork).run (genesisVotes.map .addBlock)
    0 < originalAtSecondFork.windowSize ∧ originalAtSecondFork.Ascending ∧
      originalAtSecondFork.reset.AcceptsAll [(0, originalAtSecondFork.originalVersion)] genesisVotes 0 ∧
      st.hf.versions = [1, 1, 2] ∧ (st.call (.reorganize 0)).hf.versions = [1, 2] := by
  decide

end VotingState

end ElectroneumClassic
