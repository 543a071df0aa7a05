import ElectroneumClassic.Chain.SpentKeys
import ElectroneumClassic.Chain.HashCheck

/-!
# Reorganisation

`switch_to_alternative_blockchain` pops the main chain down to the fork and
connects the branch; on a refusal `rollback_blockchain_switching` pops what was
connected and re-adds the popped blocks through `handle_block_to_main_chain`,
whose result it only logs.

Inside the pre-validated range a re-added block goes through `fast_check`,
which compares its transaction hashes with `m_blocks_txs_check`; that queue
is filled only by `on_new_tx_from_block` as transactions arrive with a block,
and `pop_block_from_blockchain` clears it.  A popped block with a transaction
is then refused on its re-add and recorded as invalid, and a failed switch
leaves the main chain shorter than it was
(`failed_switch_drops_prevalidated_block`).
-/

namespace ElectroneumClassic

open Cryptonote BlockchainDB Config Machine

namespace Blockchain

/-- A node with distinct block hashes, whose pool hands out `spendingSeven`
for every hash, whose checks all pass, and whose every group of block hashes
matches the pre-validated hash `7`. -/
def fastSyncEnv : Env Unit :=
  { permissiveEnv with
    hashing := { permissiveEnv.hashing with
      blockHash := fun b => b.nonce + 1, txHash := fun tx => tx.unlockTime + 100 }
    cnFastHash := fun _ => 7 }

/-- A fork schedule with version 8 from genesis on. -/
def versionEightOnly : HardFork :=
  { originalVersion := 8, originalVersionTillHeight := 0, windowSize := 10080,
    defaultThresholdPercent := 80, heights := [⟨8, 0, 0, 0⟩], versions := [], lastVersions := [],
    currentForkIndex := 0 }

/-- A chain of the genesis block with one pre-validated group, its table as
loaded, at a fixed difficulty of 1. -/
def fastSyncStart : Blockchain Unit :=
  { versionEightChain [genesisRecord] with
    hardfork := versionEightOnly, fixedDifficulty := 1, blocksHashOfHashes := [7],
    blocksHashCheck := List.replicate HASH_OF_HASHES_STEP nullHash }

/-- Block 1 of the main chain, hash 2, with one transaction. -/
def originalBlock : Block := blockAt 1 1 1 [5]

/-- A branch from genesis: its block 1, hash 3, and block 2, hash 4. -/
def firstAlternative : Block := blockAt 2 1 1 []

def secondAlternative : Block := blockAt 3 3 2 []

/-- The node after storing `originalBlock`, pre-validating the hashes of the
first group as the main chain has them, and storing the branch's first block
as an alternative. -/
def beforeSwitch : Blockchain Unit :=
  let stored := step fastSyncEnv fastSyncStart (.addNewBlock originalBlock 1)
  let prevalidated := step fastSyncEnv stored (.prevalidateBlockHashes 0 ([1, 2] ++ List.replicate 254 0))
  step fastSyncEnv prevalidated (.addNewBlock firstAlternative 1)

theorem failed_switch_drops_prevalidated_block :
    Reachable fastSyncEnv fastSyncStart beforeSwitch ∧
      beforeSwitch.db.blocks.map (·.hash) = [1, 2] ∧
      ((Blockchain.addNewBlock fastSyncEnv 1 secondAlternative).run beforeSwitch matches .ok false _) ∧
      (step fastSyncEnv beforeSwitch (.addNewBlock secondAlternative 1)).db.blocks.map (·.hash) = [1] ∧
      (step fastSyncEnv beforeSwitch (.addNewBlock secondAlternative 1)).invalidBlocks.keys = [4, 3, 2] := by
  have hstored : (step fastSyncEnv fastSyncStart (.addNewBlock originalBlock 1)).blocksHashOfHashes = [7] ∧
      (step fastSyncEnv fastSyncStart (.addNewBlock originalBlock 1)).blocksHashCheck =
        List.replicate HASH_OF_HASHES_STEP nullHash := by
    decide +kernel
  -- the offered group matches, so the pre-validation writes it over the loaded table
  have hprevalidated : prevalidateBlockHashesResult fastSyncEnv
      (step fastSyncEnv fastSyncStart (.addNewBlock originalBlock 1)) 0 ([1, 2] ++ List.replicate 254 0) = _ :=
    prevalidateBlockHashesResult_of_loaded (k := 0)
      (by rw [List.length_append, List.length_replicate, hashOfHashesStep_eq]; rfl) (by rw [hstored.1]; decide)
      (by rw [hstored.1]; rfl) (by rw [hstored.2, Nat.zero_add, Nat.one_mul])
  have hbefore : beforeSwitch = step fastSyncEnv
      { step fastSyncEnv fastSyncStart (.addNewBlock originalBlock 1) with
        blocksHashCheck := [1, 2] ++ List.replicate 254 0 } (.addNewBlock firstAlternative 1) := by
    show step fastSyncEnv (step fastSyncEnv (step fastSyncEnv fastSyncStart (.addNewBlock originalBlock 1))
      (.prevalidateBlockHashes 0 ([1, 2] ++ List.replicate 254 0))) (.addNewBlock firstAlternative 1) = _
    rw [step_prevalidateBlockHashes, hprevalidated, Nat.zero_mul, List.replicate_zero, List.append_nil]
    rfl
  refine ⟨.step _ (.step _ (.step _ .init)), ?_⟩
  rw [hbefore]
  exact ⟨by decide +kernel, by decide +kernel, by decide +kernel, by decide +kernel⟩

/-- A node as `fastSyncEnv` whose `check_tx_inputs` refuses every
transaction. -/
def refusingEnv : Env Unit := { fastSyncEnv with checkTxInputs := fun _ _ _ => false }

/-- The chain of the genesis block without pre-validated hashes. -/
def plainStart : Blockchain Unit :=
  { fastSyncStart with blocksHashOfHashes := [], blocksHashCheck := [] }

/-- Blocks 1 and 2 of the main chain, hashes 2 and 3; a branch root at height
1 with a transaction, hash 11; two children of it at height 2, hashes 12 and
13; a child of the second at height 3, hash 14. -/
def mainOne : Block := blockAt 1 1 1 []

def mainTwo : Block := blockAt 2 2 2 []

def branchRoot : Block := blockAt 10 1 1 [5]

def siblingBlock : Block := blockAt 11 11 2 []

def heavierBlock : Block := blockAt 12 11 2 []

def heaviestBlock : Block := blockAt 13 13 3 []

/-- The node after storing the main chain and, as alternatives no heavier than
it, the branch root and both its children. -/
def beforeSiblingSwitch : Blockchain Unit :=
  let one := step refusingEnv plainStart (.addNewBlock mainOne 1)
  let two := step refusingEnv one (.addNewBlock mainTwo 1)
  let root := step refusingEnv two (.addNewBlock branchRoot 1)
  let sibling := step refusingEnv root (.addNewBlock siblingBlock 1)
  step refusingEnv sibling (.addNewBlock heavierBlock 1)

theorem failed_switch_orphans_sibling_branch :
    Reachable refusingEnv plainStart beforeSiblingSwitch ∧
      beforeSiblingSwitch.alternativeChains.keys = [13, 12, 11] ∧
      (step refusingEnv beforeSiblingSwitch (.addNewBlock heaviestBlock 1)).alternativeChains.keys = [12] ∧
      ((step refusingEnv beforeSiblingSwitch (.addNewBlock heaviestBlock 1)).alternativeChains.lookup 12).map
        (·.bl.prevId) = some 11 ∧
      (step refusingEnv beforeSiblingSwitch (.addNewBlock heaviestBlock 1)).db.blockExists 11 = false :=
  ⟨.step _ (.step _ (.step _ (.step _ (.step _ .init)))), by decide +kernel, by decide +kernel,
    by decide +kernel, by decide +kernel⟩

end Blockchain

end ElectroneumClassic
