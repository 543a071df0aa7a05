import ElectroneumClassic.Basic.Types

/-!
# Hard-fork voting

`hardfork.cpp`.  The object keeps the fork schedule (`heights`), a window of
the effective votes of the last `window_size` blocks (`versions`), a count of
each vote in the window (`last_versions`) and the index of the fork in force
(`current_fork_index`).

`add` records the version in force for the new block, slides the window and
moves `current_fork_index` up when enough votes accumulate.
`reorganize_from_block_height` rebuilds the window after blocks below the top
changed, steps the index back to the version recorded at the height, and
replays `add` over the blocks above.  `init` starts the object over a
database: with no recorded versions it reorganizes from the first block and
records the original version for genesis, otherwise `rescan_from_block_height`
rebuilds the window of the last blocks and finds the fork of the version
recorded for the top.  The object reads the stored blocks and the
`hf_versions` table of the database; both are passed in, and the table is
returned with the object.
-/

namespace ElectroneumClassic

/-- The `hf_versions` table of the blockchain database: the version in force
at each height, as an association list. -/
abbrev HfVersions := List (Nat × Nat)

namespace HfVersions

/-- `set_hard_fork_version`: insert, or overwrite, the version at a height. -/
def setHardForkVersion (table : HfVersions) (height version : Nat) : HfVersions :=
  table.filter (·.1 != height) ++ [(height, version)]

/-- `get_hard_fork_version`; `none` where LMDB throws for a missing height. -/
def getHardForkVersion (table : HfVersions) (height : Nat) : Option Nat :=
  table.lookup height

end HfVersions

/-- `HardFork::Params`: a fork of the schedule. -/
structure ForkParams where
  version : Nat
  height : Nat
  threshold : Nat
  time : Nat
  deriving DecidableEq, Repr

/-- The state of a `HardFork` object. -/
structure HardFork where
  originalVersion : Nat
  originalVersionTillHeight : Nat
  windowSize : Nat
  defaultThresholdPercent : Nat
  heights : List ForkParams
  versions : List Nat
  lastVersions : List Nat
  currentForkIndex : Nat
  deriving DecidableEq, Repr

namespace HardFork

/-- `get_block_vote`: minor version `0` votes for version `1`. -/
def getBlockVote (minorVersion : Nat) : Nat :=
  if minorVersion = 0 then 1 else minorVersion

def fork (hf : HardFork) (index : Nat) : ForkParams :=
  hf.heights.getD index ⟨0, 0, 0, 0⟩

/-- `get_effective_version`: votes above the last scheduled version count for it. -/
def getEffectiveVersion (hf : HardFork) (votingVersion : Nat) : Nat :=
  match hf.heights.getLast? with
  | some last => if votingVersion > last.version then last.version else votingVersion
  | none => votingVersion

def countOf (hf : HardFork) (version : Nat) : Nat := hf.lastVersions.getD version 0

/-- The loop of `get_voted_fork_index` from fork `n` down to just above the
current one, with the votes accumulated so far. -/
def votedForkIndexFrom (hf : HardFork) (height : Nat) : Nat → Nat → Nat
  | 0, _ => hf.currentForkIndex
  | n + 1, accumulatedVotes =>
    if n + 1 ≤ hf.currentForkIndex then hf.currentForkIndex
    else
      let params := hf.fork (n + 1)
      let accumulatedVotes := accumulatedVotes + hf.countOf params.version
      let threshold := (hf.windowSize * params.threshold + 99) / 100
      if height ≥ params.height ∧ accumulatedVotes ≥ threshold then n + 1
      else hf.votedForkIndexFrom height n accumulatedVotes

/-- `get_voted_fork_index`: the highest fork above the current one whose
height is reached and whose votes, with those for later forks, meet its
threshold. -/
def getVotedForkIndex (hf : HardFork) (height : Nat) : Nat :=
  hf.votedForkIndexFrom height (hf.heights.length - 1) 0

def getCurrentVersion (hf : HardFork) : Nat := (hf.fork hf.currentForkIndex).version

/-- `get_ideal_version()`: the last scheduled version. -/
def getIdealVersion (hf : HardFork) : Nat := (hf.fork (hf.heights.length - 1)).version

/-- `do_check`: the block carries the version in force and votes at least for it. -/
def doCheck (hf : HardFork) (blockVersion votingVersion : Nat) : Bool :=
  blockVersion == (hf.fork hf.currentForkIndex).version &&
    votingVersion ≥ (hf.fork hf.currentForkIndex).version

def check (hf : HardFork) (block : Cryptonote.Block) : Bool :=
  hf.doCheck block.majorVersion (getBlockVote block.minorVersion)

/-- `check_for_height`: as `check`, against the fork voted in at a height. -/
def checkForHeight (hf : HardFork) (block : Cryptonote.Block) (height : Nat) : Bool :=
  let forkIndex := hf.getVotedForkIndex height
  block.majorVersion == (hf.fork forkIndex).version &&
    getBlockVote block.minorVersion ≥ (hf.fork forkIndex).version

/-- Drop votes from the front of the window until it has room for one more. -/
def trimWindow (hf : HardFork) : HardFork :=
  if hf.versions.length < hf.windowSize then hf
  else
    let drop := hf.versions.length + 1 - hf.windowSize
    let dropped := hf.versions.take drop
    { hf with
      versions := hf.versions.drop drop
      lastVersions := dropped.foldl
        (fun counts v => counts.modify v fun c => (c + 2 ^ 32 - 1) % 2 ^ 32) hf.lastVersions }

/-- Append a vote to the window and count it. -/
def pushVote (hf : HardFork) (vote : Nat) : HardFork :=
  { hf with
    versions := hf.versions ++ [vote]
    lastVersions := hf.lastVersions.modify vote fun c => (c + 1) % 2 ^ 32 }

/-- `HardFork::add(block_version, voting_version, height)`. -/
def add (hf : HardFork) (table : HfVersions) (blockVersion votingVersion height : Nat) :
    Bool × HardFork × HfVersions :=
  if !hf.doCheck blockVersion votingVersion then (false, hf, table)
  else
    let table := table.setHardForkVersion height (hf.fork hf.currentForkIndex).version
    let votingVersion := hf.getEffectiveVersion votingVersion
    let hf := (hf.trimWindow).pushVote votingVersion
    let voted := hf.getVotedForkIndex (height + 1)
    let hf := if voted > hf.currentForkIndex then { hf with currentForkIndex := voted } else hf
    (true, hf, table)

/-- `HardFork::add(block, height)`. -/
def addBlock (hf : HardFork) (table : HfVersions) (block : Cryptonote.Block) (height : Nat) :
    Bool × HardFork × HfVersions :=
  hf.add table block.majorVersion (getBlockVote block.minorVersion) height

/-- The `add` calls of `reorganize_from_block_height` for the stored blocks
from `height` up. -/
def replay (hf : HardFork) (table : HfVersions) : List Cryptonote.Block → Nat →
    HardFork × HfVersions
  | [], _ => (hf, table)
  | block :: rest, height =>
    let (_, hf, table) := hf.addBlock table block height
    replay hf table rest (height + 1)

/-- The `while` loop of `reorganize_from_block_height` that steps the fork
index back to the version recorded at the height. -/
def stepBack (hf : HardFork) (startVersion : Nat) : Nat → Nat
  | 0 => 0
  | index + 1 =>
    if (hf.fork (index + 1)).version > startVersion then hf.stepBack startVersion index
    else index + 1

/-- `reorganize_from_block_height` over the stored blocks; `none` where the
source returns `false`. -/
def reorganizeFromBlockHeight (hf : HardFork) (blocks : List Cryptonote.Block)
    (table : HfVersions) (height : Nat) : Option (HardFork × HfVersions) :=
  if height ≥ blocks.length then none
  else
    let rescanHeight := if height ≥ hf.windowSize - 1 then height - (hf.windowSize - 1) else 0
    let startVersion :=
      if height = 0 then hf.originalVersion else (table.getHardForkVersion height).getD 0
    let window := ((blocks.drop rescanHeight).take (height + 1 - rescanHeight)).map fun block =>
      hf.getEffectiveVersion (getBlockVote block.minorVersion)
    let hf : HardFork := { hf with
      versions := window
      lastVersions := window.foldl (fun counts v => counts.modify v fun c => (c + 1) % 2 ^ 32)
        (List.replicate 256 0)
      currentForkIndex := hf.stepBack startVersion hf.currentForkIndex }
    let voted := hf.getVotedForkIndex (height + 1)
    let hf := if voted > hf.currentForkIndex then { hf with currentForkIndex := voted } else hf
    some (hf.replay table (blocks.drop (height + 1)) (height + 1))

/-- `reorganize_from_chain_height`. -/
def reorganizeFromChainHeight (hf : HardFork) (blocks : List Cryptonote.Block)
    (table : HfVersions) (height : Nat) : Option (HardFork × HfVersions) :=
  if height = 0 then none else hf.reorganizeFromBlockHeight blocks table (height - 1)

/-- `add_fork(version, height, threshold, time)`: a fork later than the last
one in version, height and time, with a threshold of at most 100. -/
def addFork (hf : HardFork) (version height threshold time : Nat) : Bool × HardFork :=
  if version = 0 then (false, hf)
  else if hf.heights.getLast?.any fun last =>
      version ≤ last.version || height ≤ last.height || time ≤ last.time then (false, hf)
  else if threshold > 100 then (false, hf)
  else (true, { hf with heights := hf.heights ++ [⟨version, height, threshold, time⟩] })

/-- The loop of `rescan_from_block_height` looking for the fork of a version
from `index` on: the first such fork, or the last one; `fuel` is at least the
number of forks. -/
def forkIndexFrom (hf : HardFork) (version : Nat) : Nat → Nat → Nat
  | 0, index => index
  | fuel + 1, index =>
    if index + 1 < hf.heights.length ∧ (hf.fork index).version ≠ version then
      hf.forkIndexFrom version fuel (index + 1)
    else index

/-- `rescan_from_block_height`: the window of the blocks from `height` to the
top, the fork of the version recorded for the top block, then a vote; `none`
where the source returns `false`. -/
def rescanFromBlockHeight (hf : HardFork) (blocks : List Cryptonote.Block) (table : HfVersions)
    (height : Nat) : Option HardFork :=
  if height ≥ blocks.length then none
  else
    let window := (blocks.drop height).map fun block =>
      hf.getEffectiveVersion (getBlockVote block.minorVersion)
    let lastVersion := (table.getHardForkVersion (blocks.length - 1)).getD 0
    let hf : HardFork := { hf with
      versions := window
      lastVersions := window.foldl (fun counts v => counts.modify v fun c => (c + 1) % 2 ^ 32)
        (List.replicate 256 0)
      currentForkIndex := hf.forkIndexFrom lastVersion hf.heights.length 0 }
    let voted := hf.getVotedForkIndex blocks.length
    some (if voted > hf.currentForkIndex then { hf with currentForkIndex := voted } else hf)

/-- `rescan_from_chain_height`. -/
def rescanFromChainHeight (hf : HardFork) (blocks : List Cryptonote.Block) (table : HfVersions)
    (height : Nat) : Option HardFork :=
  if height = 0 then none else hf.rescanFromBlockHeight blocks table (height - 1)

/-- `init()` over the stored blocks and the `hf_versions` table. -/
def init (hf : HardFork) (blocks : List Cryptonote.Block) (table : HfVersions) :
    HardFork × HfVersions :=
  -- a placeholder fork for the original version where none was added
  let hf := if hf.heights = [] then { hf with heights := [⟨hf.originalVersion, 0, 0, 0⟩] } else hf
  let hf := { hf with versions := [], lastVersions := List.replicate 256 0, currentForkIndex := 0 }
  match table.getHardForkVersion 0 with
  | none =>
    -- no hard-fork information: reparse from the start, genesis marks it done
    let (hf, table) := (hf.reorganizeFromChainHeight blocks table 1).getD (hf, table)
    (hf, table.setHardForkVersion 0 hf.originalVersion)
  | some _ =>
    let height := if blocks.length > hf.windowSize then blocks.length - (hf.windowSize - 1) else 1
    ((hf.rescanFromChainHeight blocks table height).getD hf, table)

end HardFork

end ElectroneumClassic
