import ElectroneumClassic.Checkpoints
import ElectroneumClassic.Db.Update
import ElectroneumClassic.Lib.Effects

/-!
# The `Blockchain` object

The state `Blockchain` keeps besides its database: the hard-fork object, the
transaction pool, the checkpoints, the alternative blocks and the blocks found
invalid, the two difficulty caches, the fast-sync tables and the clock.

What the blockchain code calls without it being embedded here is a parameter
`Env`: hashing and proof of work, the signature checks of `check_tx_inputs`,
transaction weights, and the pool's `take_tx` and `add_tx` over a pool state
`Pool`.  The pool only ever hands out transactions whose inputs are all
`txin_to_key`, since `tx_memory_pool::add_tx` refuses any other; its type says so.

Methods run in `BcM`: a thrown `DbError` is a database exception escaping the
method, and `outOfFuel` marks a recursion between `handle_alternative_block`
and `switch_to_alternative_blockchain` deeper than the fuel a caller gave.
-/

namespace ElectroneumClassic

open Cryptonote BlockchainDB

/-- A transaction the pool can hold: `check_inputs_types_supported` passed. -/
abbrev SupportedTx := {tx : Transaction // checkInputsTypesSupported tx = true}

/-- The code the model calls without embedding it. -/
structure Env (Pool : Type) where
  hashing : Hashing
  /-- `get_block_longhash(b, height)`: the proof-of-work hash. -/
  getBlockLonghash : Block → Nat → Hash
  /-- `check_tx_inputs(tx, tvc)` at a hard-fork version, against the database. -/
  checkTxInputs : Db → Nat → Transaction → Bool
  getTransactionWeight : Transaction → Nat
  /-- `tx_memory_pool::take_tx`: the transaction with its weight and fee, and
  the pool without it; `none` for an unknown hash. -/
  takeTx : Pool → Hash → Option (SupportedTx × Nat × Nat × Pool)
  /-- `tx_memory_pool::add_tx(tx, tvc, true, true, false, version)`. -/
  addTx : Pool → Transaction → Nat → Bool × Pool
  /-- `cn_fast_hash` over a group of block hashes. -/
  cnFastHash : List Hash → Hash

/-- `block_extended_info` as `handle_alternative_block` fills it. -/
structure BlockExtendedInfo where
  bl : Block
  height : Nat
  cumulativeDifficulty : Nat
  deriving DecidableEq, Repr

/-- The members of a `Blockchain` object the modelled methods read or write. -/
structure Blockchain (Pool : Type) where
  db : Db
  hardfork : HardFork
  pool : Pool
  checkpoints : Checkpoints
  alternativeChains : AList (fun _ : Hash => BlockExtendedInfo)
  invalidBlocks : AList (fun _ : Hash => BlockExtendedInfo)
  timestampsAndDifficultiesHeight : Nat
  timestamps : List Nat
  difficulties : List Nat
  difficultyForNextBlockTopHash : Hash
  difficultyForNextBlock : Nat
  blocksHashOfHashes : List Hash
  blocksHashCheck : List Hash
  blocksTxsCheck : List Hash
  fixedDifficulty : Nat
  /-- `time(NULL)` while the call runs. -/
  now : Nat

/-- An exception escaping a method. -/
inductive BcError where
  | db (e : DbError)
  | outOfFuel
  deriving DecidableEq, Repr

abbrev BcM (Pool : Type) := EStateM BcError (Blockchain Pool)

variable {Pool : Type}

namespace Blockchain

def getTailId (s : Blockchain Pool) : Hash := s.db.topBlockHash

def getCurrentBlockchainHeight (s : Blockchain Pool) : Nat := s.db.height

def getCurrentHardForkVersion (s : Blockchain Pool) : Nat := s.hardfork.getCurrentVersion

/-- `have_block`: in the main chain, among the alternative blocks or the
invalid ones. -/
def haveBlock (s : Blockchain Pool) (id : Hash) : Bool :=
  s.db.blockExists id || decide (id ∈ s.alternativeChains) || decide (id ∈ s.invalidBlocks)

/-- `add_block_as_invalid`: an existing entry is kept. -/
def addBlockAsInvalid (bei : BlockExtendedInfo) (h : Hash) : BcM Pool Unit :=
  modify fun s =>
    if h ∈ s.invalidBlocks then s else { s with invalidBlocks := s.invalidBlocks.insert h bei }

/-- `return_tx_to_pool`: each transaction is offered back to the pool at the
current version; a refusal is only logged. -/
def returnTxToPool (env : Env Pool) (txs : List Transaction) : BcM Pool Unit := do
  let version := (← get).getCurrentHardForkVersion
  for tx in txs do
    modify fun s => { s with pool := (env.addTx s.pool tx version).2 }

end Blockchain

end ElectroneumClassic
