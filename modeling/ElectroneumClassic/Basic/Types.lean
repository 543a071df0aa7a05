import ElectroneumClassic.Config

/-!
# Transactions and blocks

The value types of `cryptonote_basic.h` and `ringct/rctTypes.h`, with the
helpers of `cryptonote_format_utils.cpp` that consensus code reads.

Hashes, keys and signatures are fixed-size byte strings in the source; here a
value of such a type is the number it encodes, so that `null_hash` is `0`.
Fields the source keeps only in memory (`senderPk`, `message`, `mixRing`, the
key images of an `mgSig`) are left out: nothing modelled reads them.
-/

namespace ElectroneumClassic

/-- `crypto::hash`, identified with the number its 32 bytes encode. -/
abbrev Hash := Nat
/-- `crypto::key_image`. -/
abbrev KeyImage := Nat
/-- `crypto::public_key` and `rct::key`. -/
abbrev Key := Nat
/-- `crypto::signature` (64 bytes). -/
abbrev Signature := Nat

/-- `crypto::null_hash`. -/
def nullHash : Hash := 0

namespace Cryptonote

structure TxoutToScript where
  keys : List Key
  script : List UInt8
  deriving DecidableEq, Repr, Inhabited

/-- `txin_v`: the four input kinds, in the order of their variant tags. -/
inductive TxinV where
  | gen (height : Nat)
  | toScript (prev : Hash) (prevout : Nat) (sigset : List UInt8)
  | toScripthash (prev : Hash) (prevout : Nat) (script : TxoutToScript)
      (sigset : List UInt8)
  | toKey (amount : Nat) (keyOffsets : List Nat) (kImage : KeyImage)
  deriving DecidableEq, Repr, Inhabited

/-- `txout_target_v`. -/
inductive TxoutTargetV where
  | toScript (target : TxoutToScript)
  | toScripthash (hash : Hash)
  | toKey (key : Key)
  deriving DecidableEq, Repr, Inhabited

structure TxOut where
  amount : Nat
  target : TxoutTargetV
  deriving DecidableEq, Repr, Inhabited

namespace Rct

/-- `rct::ecdhTuple` as serialized: the mask and the amount. -/
structure EcdhTuple where
  mask : Key
  amount : Key
  deriving DecidableEq, Repr, Inhabited

structure CtKey where
  dest : Key
  mask : Key
  deriving DecidableEq, Repr, Inhabited

/-- `rct::boroSig`; `s0` and `s1` are `key64` arrays. -/
structure BoroSig where
  s0 : List Key
  s1 : List Key
  ee : Key
  deriving DecidableEq, Repr, Inhabited

structure RangeSig where
  asig : BoroSig
  ci : List Key
  deriving DecidableEq, Repr, Inhabited

structure MgSig where
  ss : List (List Key)
  cc : Key
  deriving DecidableEq, Repr, Inhabited

structure Bulletproof where
  v : List Key
  bigA : Key
  bigS : Key
  t1 : Key
  t2 : Key
  taux : Key
  mu : Key
  bigL : List Key
  bigR : List Key
  a : Key
  b : Key
  t : Key
  deriving DecidableEq, Repr, Inhabited

structure RctSigPrunable where
  rangeSigs : List RangeSig
  bulletproofs : List Bulletproof
  mgs : List MgSig
  pseudoOuts : List Key
  deriving DecidableEq, Repr, Inhabited

def RCTTypeNull : Nat := 0
def RCTTypeFull : Nat := 1
def RCTTypeSimple : Nat := 2
def RCTTypeBulletproof : Nat := 3

structure RctSig where
  type : Nat
  pseudoOuts : List Key
  ecdhInfo : List EcdhTuple
  outPk : List CtKey
  txnFee : Nat
  p : RctSigPrunable
  deriving DecidableEq, Repr, Inhabited

end Rct

/-- `transaction`: the prefix fields, then the v1 ring signatures or the v2
RingCT data. -/
structure Transaction where
  version : Nat
  unlockTime : Nat
  vin : List TxinV
  vout : List TxOut
  extra : List UInt8
  signatures : List (List Signature)
  rctSignatures : Rct.RctSig
  deriving DecidableEq, Repr, Inhabited

/-- `block`: the header fields, the miner transaction and the hashes of the
other transactions. -/
structure Block where
  majorVersion : Nat
  minorVersion : Nat
  timestamp : Nat
  prevId : Hash
  nonce : Nat
  minerTx : Transaction
  txHashes : List Hash
  deriving DecidableEq, Repr, Inhabited

namespace TxinV

/-- The key image of a `txin_to_key` input. -/
def keyImage? : TxinV → Option KeyImage
  | .toKey _ _ kImage => some kImage
  | _ => none

def isToKey : TxinV → Bool
  | .toKey .. => true
  | _ => false

def isGen : TxinV → Bool
  | .gen _ => true
  | _ => false

@[simp] theorem keyImage?_toKey (amount : Nat) (keyOffsets : List Nat) (kImage : KeyImage) :
    (TxinV.toKey amount keyOffsets kImage).keyImage? = some kImage := rfl

theorem isToKey_iff (input : TxinV) :
    input.isToKey = true ↔ ∃ amount keyOffsets kImage,
      input = .toKey amount keyOffsets kImage := by
  cases input <;> simp [isToKey]

end TxinV

/-- The key images of a transaction's `txin_to_key` inputs, in input order. -/
def Transaction.keyImages (tx : Transaction) : List KeyImage :=
  tx.vin.filterMap TxinV.keyImage?

/-- `check_inputs_types_supported`: every input is a `txin_to_key`. -/
def checkInputsTypesSupported (tx : Transaction) : Bool :=
  tx.vin.all TxinV.isToKey

/-- `is_coinbase`: a single `txin_gen` input. -/
def isCoinbase (tx : Transaction) : Bool :=
  match tx.vin with
  | [input] => input.isGen
  | _ => false

/-- `get_block_height`: the height the miner transaction's `txin_gen` claims,
or `0` when the miner transaction is malformed. -/
def getBlockHeight (b : Block) : Nat :=
  match b.minerTx.vin with
  | [.gen height] => height
  | _ => 0

/-- `get_outs_money_amount`, an unchecked `uint64_t` sum. -/
def getOutsMoneyAmount (tx : Transaction) : Nat :=
  tx.vout.foldl (fun total out => (total + out.amount) % 2 ^ 64) 0

/-- `check_outs_overflow`: the running `uint64_t` sum never wraps. -/
def checkOutsOverflow (tx : Transaction) : Bool :=
  (tx.vout.foldl (fun (state : Option Nat) out =>
      state.bind fun money =>
        if money > (out.amount + money) % 2 ^ 64 then none
        else some ((money + out.amount) % 2 ^ 64)) (some 0)).isSome

/-- `valid_decomposed_outputs`: one significant digit, from `1` to `10 ^ 19`. -/
def validDecomposedOutputs : List Nat :=
  (List.range 19).flatMap (fun k => (List.range' 1 9).map (· * 10 ^ k)) ++ [10 ^ 19]

def isValidDecomposedAmount (amount : Nat) : Bool := amount ∈ validDecomposedOutputs

end Cryptonote

/-- The hash functions of `crypto/` and `ringct/` that storage and consensus
code apply to blocks and transactions.  They are cryptographic primitives, so
the model takes them as parameters. -/
structure Hashing where
  /-- `get_block_hash`. -/
  blockHash : Cryptonote.Block → Hash
  /-- `get_transaction_hash`. -/
  txHash : Cryptonote.Transaction → Hash
  /-- `get_transaction_prunable_hash`. -/
  txPrunableHash : Cryptonote.Transaction → Hash
  /-- `rct::zeroCommit`: the commitment to an amount with the identity mask. -/
  zeroCommit : Nat → Key

end ElectroneumClassic
