import ElectroneumClassic.Core.MainChain

/-!
# Alternative blocks and reorganisation

`handle_alternative_block` stores a block that does not extend the main chain
among the alternative blocks, and reorganises when its branch has become
heavier or reaches a checkpoint.  `switch_to_alternative_blockchain` pops the
main chain down to the fork, connects the branch block by block and on the
first refusal calls `rollback_blockchain_switching` to pop what was connected
and re-add the blocks it popped; after a switch the popped blocks are handed
to `handle_alternative_block` as alternative blocks.

The two functions call each other.  `switchToAlternativeBlockchain` takes the
`handle_alternative_block` it calls as an argument, and
`handleAlternativeBlock` recurses on a fuel argument.
-/

namespace ElectroneumClassic

open Cryptonote BlockchainDB Config Machine

variable {Pool : Type}

namespace Blockchain

/-- `count` calls of `pop_block_from_blockchain`. -/
def popBlocks (env : Env Pool) : Nat → BcM Pool Unit
  | 0 => pure ()
  | count + 1 => do
    let _ ← popBlockFromBlockchain env
    popBlocks env count

/-- The loop of `switch_to_alternative_blockchain` popping the main chain until
its top is `target`, the popped blocks oldest first; `fuel` bounds the pops,
and a caller gives more than the blocks above a stored `target`. -/
def popUntil (env : Env Pool) (target : Hash) : Nat → List Block → BcM Pool (List Block)
  | 0, disconnected => pure disconnected
  | fuel + 1, disconnected => do
    if (← get).db.topBlockHash = target then return disconnected
    let b ← popBlockFromBlockchain env
    popUntil env target fuel (b :: disconnected)

/-- `rollback_blockchain_switching`: pop back to `rollbackHeight`, then re-add
the original blocks; `false` at the first block the main chain refuses. -/
def rollbackBlockchainSwitching (env : Env Pool) (originalChain : List Block)
    (rollbackHeight : Nat) : BcM Pool Bool := do
  let s ← get
  if rollbackHeight > s.db.height then return true
  set { s with timestampsAndDifficultiesHeight := 0 }
  popBlocks env (s.db.height - rollbackHeight)
  reorganizeFromChainHeight rollbackHeight
  for bl in originalChain do
    if !(← handleBlockToMainChain env bl (env.hashing.blockHash bl)) then
      -- PANIC! failed to add (again) block while chain switching during the rollback
      return false
  reorganizeFromChainHeight rollbackHeight
  return true

/-- The connecting loop of `switch_to_alternative_blockchain`: `some` of the
first entry the main chain refuses and the entries after it. -/
def connectAlternatives (env : Env Pool) :
    List (Hash × BlockExtendedInfo) →
      BcM Pool (Option ((Hash × BlockExtendedInfo) × List (Hash × BlockExtendedInfo)))
  | [] => pure none
  | entry :: rest => do
    if ← handleBlockToMainChain env entry.2.bl (env.hashing.blockHash entry.2.bl) then
      connectAlternatives env rest
    else pure (some (entry, rest))

/-- `switch_to_alternative_blockchain(alt_chain, discard_disconnected_chain)`;
`handleAlternative` is the `handle_alternative_block` it calls. -/
def switchToAlternativeBlockchain (env : Env Pool)
    (handleAlternative : Block → Hash → BcM Pool Bool)
    (altChain : List (Hash × BlockExtendedInfo)) (discardDisconnectedChain : Bool) :
    BcM Pool Bool := do
  modify fun s => { s with timestampsAndDifficultiesHeight := 0 }
  match altChain.head? with
  | none => return false
  | some (_, front) =>
    let s ← get
    if !s.db.blockExists front.bl.prevId then return false
    let disconnectedChain ← popUntil env front.bl.prevId (s.db.height + 1) []
    let splitHeight := (← get).db.height
    match ← connectAlternatives env altChain with
    | some ((failedHash, failed), rest) =>
      let _ ← rollbackBlockchainSwitching env disconnectedChain splitHeight
      addBlockAsInvalid failed (env.hashing.blockHash failed.bl)
      modify fun s => { s with alternativeChains := s.alternativeChains.erase failedHash }
      for (h, bei) in rest do
        addBlockAsInvalid bei h
        modify fun s => { s with alternativeChains := s.alternativeChains.erase h }
      return false
    | none =>
      if !discardDisconnectedChain then
        for old in disconnectedChain do
          -- a refusal is only logged
          let _ ← handleAlternative old (env.hashing.blockHash old)
      for (h, _) in altChain do
        modify fun s => { s with alternativeChains := s.alternativeChains.erase h }
      reorganizeFromChainHeight splitHeight
      return true

/-- The walk of `handle_alternative_block` from the parent back through the
alternative blocks, the branch oldest first; `none` when `fuel`, more than the
number of alternative blocks, runs out, which only a cycle of parents causes. -/
def altChainFrom (alternatives : AList (fun _ : Hash => BlockExtendedInfo)) :
    Nat → Hash → List (Hash × BlockExtendedInfo) → Option (List (Hash × BlockExtendedInfo))
  | 0, _, _ => none
  | fuel + 1, h, altChain =>
    match alternatives.lookup h with
    | none => some altChain
    | some bei => altChainFrom alternatives fuel bei.bl.prevId ((h, bei) :: altChain)

/-- The timestamps `handle_alternative_block` checks the block against: the
branch's, newest first, completed from the main chain below the fork; `none`
where a consistency check of the branch's connection fails. -/
def alternativeTimestamps (s : Blockchain Pool) (b : Block)
    (altChain : List (Hash × BlockExtendedInfo)) : Option (List Nat) :=
  let timestamps := altChain.reverse.map (·.2.bl.timestamp)
  match altChain.head? with
  | some (_, front) =>
    if s.db.height ≤ front.height then none
    else if !s.db.blockExists front.bl.prevId then none
    else if s.db.getBlockHashFromHeight (front.height - 1) ≠ front.bl.prevId then none
    else some (s.completeTimestampsVector (s.db.getBlockHeight front.bl.prevId) timestamps)
  | none => some (s.completeTimestampsVector (s.db.getBlockHeight b.prevId) timestamps)

/-- `handle_alternative_block(b, id)`: `true` for a block stored, added by a
reorganisation, or orphaned. -/
def handleAlternativeBlock (env : Env Pool) : Nat → Block → Hash → BcM Pool Bool
  | 0, _, _ => throw .outOfFuel
  | fuel + 1, b, id => do
    modify fun s => { s with timestampsAndDifficultiesHeight := 0 }
    let s ← get
    let blockHeight := getBlockHeight b
    if blockHeight = 0 then return false
    if !s.checkpoints.isAlternativeBlockAllowed s.getCurrentBlockchainHeight blockHeight then
      return false
    if !s.hardfork.checkForHeight b blockHeight then return false
    let itPrev := s.alternativeChains.lookup b.prevId
    let parentInMain := s.db.blockExists b.prevId
    -- block orphaned
    if itPrev.isNone && !parentInMain then return true
    match altChainFrom s.alternativeChains (s.alternativeChains.entries.length + 1) b.prevId [] with
    | none => throw .outOfFuel
    | some altChain =>
    match s.alternativeTimestamps b altChain with
    | none => return false
    | some timestamps =>
    if !checkBlockTimestampMedian timestamps b then return false
    let parent? := altChain.getLast?.map (·.2)
    let height := match parent? with
      | some parent => parent.height + 1
      | none => s.db.getBlockHeight b.prevId + 1
    let (passed, isACheckpoint) := s.checkpoints.checkBlock height id
    if !passed then return false
    let currentDiff := s.getNextDifficultyForAlternativeChain (altChain.map (·.2)) ⟨b, height, 0⟩
    if currentDiff = 0 then return false
    if !checkHash (env.getBlockLonghash b height) currentDiff then return false
    if !prevalidateMinerTransaction b height then return false
    let mainChainCumulativeDifficulty := s.db.getBlockCumulativeDifficulty (s.db.height - 1)
    let parentDifficulty := match parent? with
      | some parent => parent.cumulativeDifficulty
      | none => s.db.getBlockCumulativeDifficulty (s.db.getBlockHeight b.prevId)
    let bei : BlockExtendedInfo := ⟨b, height, wrapU64 (parentDifficulty + currentDiff)⟩
    if id ∈ s.alternativeChains then return false
    set { s with alternativeChains := s.alternativeChains.insert id bei }
    let altChain := altChain ++ [(id, bei)]
    if isACheckpoint then
      switchToAlternativeBlockchain env (handleAlternativeBlock env fuel) altChain true
    else if mainChainCumulativeDifficulty < bei.cumulativeDifficulty then
      switchToAlternativeBlockchain env (handleAlternativeBlock env fuel) altChain false
    else return true

/-- `add_new_block`: a known block is refused, a block not on the top of the
main chain goes to `handle_alternative_block`. -/
def addNewBlock (env : Env Pool) (fuel : Nat) (bl : Block) : BcM Pool Bool := do
  let id := env.hashing.blockHash bl
  let s ← get
  if s.haveBlock id then
    set { s with blocksTxsCheck := [] }
    return false
  if bl.prevId ≠ s.getTailId then
    let r ← handleAlternativeBlock env fuel bl id
    modify fun s => { s with blocksTxsCheck := [] }
    return r
  handleBlockToMainChain env bl id

end Blockchain

end ElectroneumClassic
