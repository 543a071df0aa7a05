import ElectroneumClassic.Core.State
import ElectroneumClassic.Lib.Machine
import ElectroneumClassic.Config

/-!
# Pre-validated block hashes

For fast sync the binary carries `m_blocks_hash_of_hashes`: for each group of
`HASH_OF_HASHES_STEP` consecutive blocks, the `cn_fast_hash` of their hashes.
`prevalidate_block_hashes` receives the hashes of blocks a peer offers from a
height on, recomputes the hash of each complete group they cover (the hashes
of blocks already stored complete the first group) and, for every group whose
hash matches, records the block hashes in `m_blocks_hash_check`.  It returns
how many of the offered hashes are usable.  `handle_block_to_main_chain` then
accepts a block whose hash is recorded for its height without proof of work
(`fast_check`).

`on_new_tx_from_block` queues the hashes of the transactions a block arrives
with, for `fast_check` to compare with the block's transaction hashes.
-/

namespace ElectroneumClassic

open Cryptonote BlockchainDB Config Machine

variable {Pool : Type}

namespace Blockchain

/-- The write loop of one group: each entry must be null or already hold the
new hash (`Consistency failure in m_blocks_hash_check construction`);
`.error` with the entries written before the failure. -/
def storeGroup : List Hash → Nat → List Hash → Except (List Hash) (List Hash)
  | check, _, [] => .ok check
  | check, i, h :: rest =>
    if check.getD i nullHash = nullHash ∨ check.getD i nullHash = h then
      storeGroup (check.set i h) (i + 1) rest
    else .error check

/-- The loop of `prevalidate_block_hashes` over the groups `n` its hashes
cover, with the running `usable` count: a group that is incomplete or does not
match ends it; groups past the pre-validated ones count as usable, capped at
the number of hashes offered. -/
def checkGroups (env : Env Pool) (hashOfHashes data : List Hash) (firstIndex hashesCount : Nat) :
    List Nat → Nat → List Hash → Except (List Hash) (Nat × List Hash)
  | [], usable, check => .ok (usable, check)
  | n :: rest, usable, check =>
    if n < hashOfHashes.length then
      -- if the last index isn't fully filled, we can't tell if valid
      if data.length < (n - firstIndex) * HASH_OF_HASHES_STEP + HASH_OF_HASHES_STEP then
        .ok (usable, check)
      else
        let group := (data.drop ((n - firstIndex) * HASH_OF_HASHES_STEP)).take HASH_OF_HASHES_STEP
        if env.cnFastHash group ≠ hashOfHashes.getD n nullHash then .ok (usable, check)
        else
          match storeGroup check (n * HASH_OF_HASHES_STEP) group with
          | .error check => .error check
          | .ok check =>
            checkGroups env hashOfHashes data firstIndex hashesCount rest
              (wrapU64 (usable + HASH_OF_HASHES_STEP)) check
    else
      -- if after the end of the precomputed blocks, accept anything
      let usable := wrapU64 (usable + HASH_OF_HASHES_STEP)
      checkGroups env hashOfHashes data firstIndex hashesCount rest
        (if usable > hashesCount then hashesCount else usable) check

/-- The first group `prevalidate_block_hashes` checks, how many offered
hashes it skips, and the stored hashes that complete that group: a request
above the stored chain that starts inside a group skips to the next one. -/
def firstGroup (s : Blockchain Pool) (height : Nat) : Nat × Nat × List Hash :=
  let firstIndex := height / HASH_OF_HASHES_STEP
  if height > s.db.height ∧ height % HASH_OF_HASHES_STEP ≠ 0 then
    (firstIndex + 1, HASH_OF_HASHES_STEP - height % HASH_OF_HASHES_STEP, [])
  else
    (firstIndex, 0, (List.range' (firstIndex * HASH_OF_HASHES_STEP)
      (height - firstIndex * HASH_OF_HASHES_STEP)).map s.db.getBlockHashFromHeight)

/-- The hash-and-check part of `prevalidate_block_hashes`, past its early
returns, up to group `lastIndex`: the usable count and the new table, or the
message of the `CHECK_AND_ASSERT_MES` that makes it return 0 with the table as
written before it. -/
def checkOffered (env : Env Pool) (s : Blockchain Pool) (height : Nat) (hashes : List Hash)
    (lastIndex : Nat) : Except (String × List Hash) (Nat × List Hash) :=
  let (firstIndex, pop, stored) := s.firstGroup height
  let data := stored ++ hashes.drop pop
  -- may start negative, but unsigned under/overflow is not UB
  let usable := subU64 (firstIndex * HASH_OF_HASHES_STEP) height
  match checkGroups env s.blocksHashOfHashes data firstIndex hashes.length
    (List.range' firstIndex (lastIndex + 1 - firstIndex)) usable s.blocksHashCheck with
  | .error check => .error ("Consistency failure in m_blocks_hash_check construction", check)
  | .ok (usable, check) =>
    if usable < (2 ^ 64 - 1) / 2 then .ok (usable, check) else .error ("usable is negative", check)

/-- `prevalidate_block_hashes(height, hashes)`, as `checkOffered` with the
early returns that accept every offered hash. -/
def prevalidateBlockHashesResult (env : Env Pool) (s : Blockchain Pool) (height : Nat)
    (hashes : List Hash) : Except (String × List Hash) (Nat × List Hash) :=
  if height ≥ s.blocksHashOfHashes.length * HASH_OF_HASHES_STEP then
    .ok (hashes.length, s.blocksHashCheck)
  -- if we're getting old blocks, we might have jettisoned the hashes already
  else if s.blocksHashCheck.isEmpty then .ok (hashes.length, s.blocksHashCheck)
  else
    let lastIndex := subU64 (height + hashes.length) 1 / HASH_OF_HASHES_STEP
    -- not enough to calculate even a single hash
    if height / HASH_OF_HASHES_STEP = lastIndex ∧ hashes.length < HASH_OF_HASHES_STEP ∧
        (height + hashes.length) % HASH_OF_HASHES_STEP ≠ 0 then
      .ok (hashes.length, s.blocksHashCheck)
    else checkOffered env s height hashes lastIndex

/-- The table a call leaves, returned or asserted. -/
def checkWritten : Except (String × List Hash) (Nat × List Hash) → List Hash
  | .ok (_, check) => check
  | .error (_, check) => check

/-- `prevalidate_block_hashes`. -/
def prevalidateBlockHashes (env : Env Pool) (height : Nat) (hashes : List Hash) : BcM Pool Nat := do
  let s ← get
  let result := prevalidateBlockHashesResult env s height hashes
  set { s with blocksHashCheck := checkWritten result }
  return match result with
    | .ok (usable, _) => usable
    | .error _ => 0

/-- `on_new_tx_from_block`. -/
def onNewTxFromBlock (env : Env Pool) (tx : Transaction) : BcM Pool Unit :=
  modify fun s =>
    if s.db.height < s.blocksHashCheck.length then
      { s with blocksTxsCheck := s.blocksTxsCheck ++ [env.hashing.txHash tx] }
    else s

end Blockchain

end ElectroneumClassic
