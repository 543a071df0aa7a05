import ElectroneumClassic.Serialization.BinaryArchive
import ElectroneumClassic.Basic.Types
import ElectroneumClassic.Lib.Machine
import Mathlib.Data.Nat.Digits.Defs

/-!
# Loading a transaction

The loading `do_serialize` of `transaction` on a `binary_archive<false>`
(`cryptonote_basic.h`, `ringct/rctTypes.h` and `serialization/`): the prefix,
then the ring signatures of a version 1 transaction or the RingCT data of a
later one.  A reader is a `Load`: from the stream, the value read and the
stream after it, or `none` where the source returns `false`, which every
caller passes on.  `FIELD` and `FIELDS` fail on a stream that is no longer
good.

A vector is read as `do_serialize_container` reads it, a varint count that
fails where fewer bytes remain, then the elements; a vector whose size the
object already knows (`PREPARE_CUSTOM_VECTOR_SERIALIZATION`) has no count in
the stream.  A variant is a one-byte tag, then the value of the type of that
tag.  Hashes, keys and key images are the numbers their bytes encode, the
first byte the lowest.

`serialize_rctsig_prunable` refuses a bulletproof transaction with more
proofs than outputs or fewer provable amounts than outputs, and a proof with
no `L` or with `L` and `R` of different sizes: what a transaction read this
way keeps of these checks is `BulletproofsRead` (`loadTransaction_bulletproofs`).
-/

namespace ElectroneumClassic

open Cryptonote Config Machine Serialization

namespace Serialization

/-- The number a blob's bytes encode, the first byte the lowest. -/
def Pod.toNat {n : Nat} (p : Pod n) : Nat := Nat.ofDigits 256 (p.bytes.map UInt8.toNat)

/-- `serialize_uint` of an integer `width` bytes wide: `width` calls of `get`,
the first byte the lowest. -/
def serializeUint : Nat → IStream → Nat × IStream
  | 0, s => (0, s)
  | width + 1, s =>
    let (c, s) := s.get
    let (high, s) := serializeUint width s
    (c.toNat + 256 * high, s)

/-- A loading `do_serialize`: the value and the stream after it, or `none`
where it returns `false`. -/
abbrev Load := StateT IStream Option

namespace Load

variable {α β : Type}

/-- The check of `FIELD`, `FIELDS` and `VARINT_FIELD` after a value, and of
the element loops after each element. -/
def ensureGood : Load Unit := fun s => if s.good then some ((), s) else none

/-- `if (!ok) return false;`: nothing is read. -/
def check (ok : Prop) [Decidable ok] : Load Unit := fun s => if ok then some ((), s) else none

/-- `FIELD`: a value, then the check. -/
def field (load : Load α) : Load α := do
  let value ← load
  ensureGood
  pure value

/-- `VARINT_FIELD` of an unsigned field `bits` wide. -/
def varint (bits : Nat) : Load Nat := field (modifyGet (serializeVarint bits))

/-- `FIELD` of an integer field `width` bytes wide (`serialize_int`). -/
def int (width : Nat) : Load Nat := field (modifyGet (serializeUint width))

/-- `read_variant_tag`: one byte, not checked. -/
def tag : Load Nat := modifyGet serializeUint8

/-- `serialize_int` of a `uint8_t` element, not checked. -/
def byte : Load UInt8 := modifyGet IStream.get

/-- `FIELD` of a blob type of `n` bytes (`serialize_blob`), as the number its
bytes encode. -/
def blob (n : Nat) : Load Nat := fun s =>
  match readPod n s with
  | (some p, s) => if s.good then some (p.toNat, s) else none
  | (none, _) => none

/-- `count` elements, the stream checked after each: the loop of
`do_serialize_container`, and of the `FIELDS` of a vector prepared to `count`. -/
def elements (element : Load α) : Nat → Load (List α)
  | 0 => pure []
  | count + 1 => do
    let e ← field element
    let es ← elements element count
    pure (e :: es)

/-- The loading `do_serialize_container`: a varint count, refused where fewer
bytes remain, then the elements. -/
def vector (element : Load α) : Load (List α) := do
  let count ← varint 64
  check ¬remainingBytes (← get) < count
  elements element count

@[simp] theorem run_bind_eq_some {load : Load α} {next : α → Load β} {s s' : IStream} {b : β} :
    (load >>= next) s = some (b, s') ↔ ∃ a s₁, load s = some (a, s₁) ∧ next a s₁ = some (b, s') := by
  change (load s).bind (fun p => next p.1 p.2) = some (b, s') ↔ _
  simp only [Option.bind_eq_some_iff, Prod.exists]

@[simp] theorem run_pure_eq_some {a b : α} {s s' : IStream} :
    (pure a : Load α) s = some (b, s') ↔ a = b ∧ s = s' := by
  change some (a, s) = some (b, s') ↔ _
  simp

@[simp] theorem run_failure {s : IStream} : (failure : Load α) s = none := rfl

@[simp] theorem run_get_eq_some {s s' a : IStream} : (get : Load IStream) s = some (a, s') ↔ a = s ∧ s' = s := by
  change some (s, s) = some (a, s') ↔ _
  simp only [Option.some.injEq, Prod.mk.injEq]
  constructor
  · rintro ⟨rfl, rfl⟩
    exact ⟨rfl, rfl⟩
  · rintro ⟨rfl, rfl⟩
    exact ⟨rfl, rfl⟩

@[simp] theorem check_eq_some {ok : Prop} [Decidable ok] {s s' : IStream} {u : Unit} :
    check ok s = some (u, s') ↔ ok ∧ s' = s := by
  unfold check
  split
  · rename_i holds
    simp only [Option.some.injEq, Prod.mk.injEq, true_and, holds]
    exact eq_comm
  · rename_i fails
    simp [fails]

theorem ensureGood_eq_some {s s' : IStream} {u : Unit} (checked : ensureGood s = some (u, s')) :
    s' = s ∧ s.good = true := by
  unfold ensureGood at checked
  split at checked
  · rename_i good
    cases checked
    exact ⟨rfl, good⟩
  · cases checked

theorem field_eq_some {load : Load α} {s s' : IStream} {a : α} (read : field load s = some (a, s')) :
    load s = some (a, s') ∧ s'.good = true := by
  simp only [field, run_bind_eq_some, run_pure_eq_some] at read
  obtain ⟨a₁, s₁, loaded, u, s₂, checked, rfl, rfl⟩ := read
  obtain ⟨rfl, good⟩ := ensureGood_eq_some checked
  exact ⟨loaded, good⟩

/-- What holds of every element read holds of the list. -/
theorem elements_forall {element : Load α} {P : α → Prop}
    (each : ∀ {s s' : IStream} {a : α}, element s = some (a, s') → P a) :
    ∀ (count : Nat) {s s' : IStream} {l : List α}, elements element count s = some (l, s') → ∀ a ∈ l, P a
  | 0, s, s', l, read => by
    simp only [elements, run_pure_eq_some] at read
    obtain ⟨rfl, rfl⟩ := read
    simp
  | count + 1, s, s', l, read => by
    simp only [elements, run_bind_eq_some, run_pure_eq_some] at read
    obtain ⟨e, s₁, first, es, s₂, rest, rfl, rfl⟩ := read
    intro a member
    rcases List.mem_cons.1 member with rfl | later
    · exact each (field_eq_some first).1
    · exact elements_forall each count rest a later

theorem length_elements {element : Load α} :
    ∀ (count : Nat) {s s' : IStream} {l : List α}, elements element count s = some (l, s') → l.length = count
  | 0, s, s', l, read => by
    simp only [elements, run_pure_eq_some] at read
    obtain ⟨rfl, rfl⟩ := read
    rfl
  | count + 1, s, s', l, read => by
    simp only [elements, run_bind_eq_some, run_pure_eq_some] at read
    obtain ⟨e, s₁, -, es, s₂, rest, rfl, rfl⟩ := read
    rw [List.length_cons, length_elements count rest]

end Load

end Serialization

namespace Cryptonote.Rct

/-- `n_bulletproof_max_amounts(proof)`: the number of amounts a proof with
`L.size()` between `6` and `6 + 4` proves, `2 ^ (L.size() - 6)`; `0` for any
other size or `L` and `R` of different sizes. -/
def nBulletproofMaxAmounts (proof : Bulletproof) : Nat :=
  if proof.bigL.length < 6 then 0
  else if proof.bigL.length ≠ proof.bigR.length then 0
  else if proof.bigL.length > 6 + 4 then 0
  else 1 <<< (proof.bigL.length - 6)

/-- The loop of `n_bulletproof_max_amounts(proofs)` from the count `n`. -/
def nBulletproofMaxAmountsLoop (n : Nat) : List Bulletproof → Nat
  | [] => n
  | proof :: rest =>
    let n2 := nBulletproofMaxAmounts proof
    if ¬n2 < subU64 (2 ^ 32 - 1) n then 0
    else if n2 = 0 then 0
    else nBulletproofMaxAmountsLoop (n + n2) rest

/-- `n_bulletproof_max_amounts(proofs)`: the sum over the proofs, `0` where a
proof proves none or the sum would reach `2 ^ 32 - 1`. -/
def nBulletproofMaxAmountsOf (proofs : List Bulletproof) : Nat := nBulletproofMaxAmountsLoop 0 proofs

end Cryptonote.Rct

namespace Cryptonote

open Serialization.Load

/-- The loading `do_serialize` of `txout_to_script`. -/
def loadTxoutToScript : Load TxoutToScript := do
  let keys ← field (vector (blob 32))
  let script ← field (vector byte)
  pure ⟨keys, script⟩

/-- The loading `do_serialize` of `txin_v`: the tags `0xff` (`txin_gen`),
`0x0` (`txin_to_script`), `0x1` (`txin_to_scripthash`) and `0x2`
(`txin_to_key`). -/
def loadTxinV : Load TxinV := do
  let t ← tag
  if t = 0xff then
    let height ← varint 64
    pure (.gen height)
  else if t = 0x0 then
    let prev ← blob 32
    let prevout ← varint 64
    let sigset ← field (vector byte)
    pure (.toScript prev prevout sigset)
  else if t = 0x1 then
    let prev ← blob 32
    let prevout ← varint 64
    let script ← field loadTxoutToScript
    let sigset ← field (vector byte)
    pure (.toScripthash prev prevout script sigset)
  else if t = 0x2 then
    let amount ← varint 64
    let keyOffsets ← field (vector (modifyGet (serializeVarint 64)))
    let kImage ← blob 32
    pure (.toKey amount keyOffsets kImage)
  else failure

/-- The loading `do_serialize` of `txout_target_v`: the tags `0x0`
(`txout_to_script`), `0x1` (`txout_to_scripthash`) and `0x2` (`txout_to_key`),
the last two blobs. -/
def loadTxoutTargetV : Load TxoutTargetV := do
  let t ← tag
  if t = 0x0 then
    let target ← loadTxoutToScript
    pure (.toScript target)
  else if t = 0x1 then
    let hash ← blob 32
    pure (.toScripthash hash)
  else if t = 0x2 then
    let key ← blob 32
    pure (.toKey key)
  else failure

/-- The loading `do_serialize` of `tx_out`. -/
def loadTxOut : Load TxOut := do
  let amount ← varint 64
  let target ← field loadTxoutTargetV
  pure ⟨amount, target⟩

/-- `transaction_prefix::do_serialize` into a fresh transaction: the version,
refused outside `1` to `CURRENT_TRANSACTION_VERSION`, the unlock time, the
inputs, the outputs and the extra. -/
def loadTransactionPrefix : Load Transaction := do
  let version ← varint 64
  check ¬(version = 0 ∨ CURRENT_TRANSACTION_VERSION < version)
  let unlockTime ← varint 64
  let vin ← field (vector loadTxinV)
  let vout ← field (vector loadTxOut)
  let extra ← field (vector byte)
  pure { (default : Transaction) with version, unlockTime, vin, vout, extra }

/-- `get_signature_size`: a `txin_to_key` is signed by each member of its ring. -/
def getSignatureSize : TxinV → Nat
  | .toKey _ keyOffsets _ => keyOffsets.length
  | _ => 0

/-- The loading `do_serialize` of `std::vector<crypto::signature>` prepared to
`count`: refused where fewer than `count` signatures of 64 bytes remain. -/
def loadSignatures (count : Nat) : Load (List Signature) := do
  check ¬remainingBytes (← get) < count * 64
  elements (blob 64) count

/-- The ring signatures of a version 1 transaction, input by input. -/
def loadRingSignatures (vin : List TxinV) : Load (List (List Signature)) :=
  vin.mapM fun input => loadSignatures (getSignatureSize input)

/-- The loading `do_serialize` of `ecdhTuple`. -/
def loadEcdhTuple : Load Rct.EcdhTuple := do
  let mask ← blob 32
  let amount ← blob 32
  pure ⟨mask, amount⟩

/-- `rctSigBase::serialize_rctsig_base(ar, inputs, outputs)`: the type, refused
unless null, full, simple or bulletproof; then the fee, the pseudo outputs of a
simple signature, and for each output its ECDH tuple and its commitment. -/
def serializeRctsigBase (inputs outputs : Nat) : Load Rct.RctSig := do
  let type ← int 1
  if type = Rct.RCTTypeNull then pure { (default : Rct.RctSig) with type }
  else if type ≠ Rct.RCTTypeFull ∧ type ≠ Rct.RCTTypeSimple ∧ type ≠ Rct.RCTTypeBulletproof then failure
  else
    let txnFee ← varint 64
    let pseudoOuts ← if type = Rct.RCTTypeSimple then elements (blob 32) inputs else pure []
    let ecdhInfo ← elements loadEcdhTuple outputs
    let masks ← elements (blob 32) outputs
    pure { (default : Rct.RctSig) with
      type, txnFee, pseudoOuts, ecdhInfo
      outPk := masks.map fun mask => ⟨0, mask⟩ }

/-- The loading `do_serialize` of `rangeSig`: the blob `boroSig`, then `Ci`. -/
def loadRangeSig : Load Rct.RangeSig := do
  let s0 ← elements (blob 32) 64
  let s1 ← elements (blob 32) 64
  let ee ← blob 32
  let ci ← elements (blob 32) 64
  pure ⟨⟨s0, s1, ee⟩, ci⟩

/-- The loading `do_serialize` of `Bulletproof`, without the commitments `V`;
refused where `L` is empty or `L` and `R` differ in size. -/
def loadBulletproof : Load Rct.Bulletproof := do
  let bigA ← blob 32
  let bigS ← blob 32
  let t1 ← blob 32
  let t2 ← blob 32
  let taux ← blob 32
  let mu ← blob 32
  let bigL ← field (vector (blob 32))
  let bigR ← field (vector (blob 32))
  let a ← blob 32
  let b ← blob 32
  let t ← blob 32
  check ¬(bigL.isEmpty ∨ bigL.length ≠ bigR.length)
  pure ⟨[], bigA, bigS, t1, t2, taux, mu, bigL, bigR, a, b, t⟩

/-- An `mgSig` as `serialize_rctsig_prunable` reads it: `rows` rows of
`rowSize` keys, then `cc`. -/
def loadMgSig (rows rowSize : Nat) : Load Rct.MgSig := do
  let ss ← elements (elements (blob 32) rowSize) rows
  let cc ← blob 32
  pure ⟨ss, cc⟩

/-- `rctSigPrunable::serialize_rctsig_prunable(ar, type, inputs, outputs,
mixin)`: the bulletproofs, no more than the outputs and proving at least as many
amounts as there are outputs, or a range signature for each output; then the
MLSAG signatures, one for each input of a simple or bulletproof signature,
and the pseudo outputs of a bulletproof signature.  `mixin + 1` is a `size_t`. -/
def serializeRctsigPrunable (type inputs outputs mixin : Nat) : Load Rct.RctSigPrunable := do
  if type = Rct.RCTTypeNull then pure default
  else if type ≠ Rct.RCTTypeFull ∧ type ≠ Rct.RCTTypeSimple ∧ type ≠ Rct.RCTTypeBulletproof then failure
  else
    let (rangeSigs, bulletproofs) ← if type = Rct.RCTTypeBulletproof then do
        let nbp ← int 4
        check ¬nbp > outputs
        let bulletproofs ← elements loadBulletproof nbp
        check ¬Rct.nBulletproofMaxAmountsOf bulletproofs < outputs
        pure ([], bulletproofs)
      else do
        let rangeSigs ← elements loadRangeSig outputs
        pure (rangeSigs, [])
    let simple := type = Rct.RCTTypeSimple ∨ type = Rct.RCTTypeBulletproof
    let mgs ← elements (loadMgSig (wrapU64 (mixin + 1)) ((if simple then 1 else inputs) + 1))
      (if simple then inputs else 1)
    let pseudoOuts ← if type = Rct.RCTTypeBulletproof then elements (blob 32) inputs else pure []
    pure ⟨rangeSigs, bulletproofs, mgs, pseudoOuts⟩

/-- The ring size less one that `transaction::do_serialize` passes as `mixin`:
of the first input where it is a `txin_to_key`, in `size_t`. -/
def mixinOf : List TxinV → Nat
  | .toKey _ keyOffsets _ :: _ => subU64 keyOffsets.length 1
  | _ => 0

/-- `transaction::do_serialize` loading into a fresh transaction: the prefix,
then the ring signatures of version 1, or, where there are inputs, the RingCT
base and, unless its type is null, the prunable part. -/
def loadTransaction : Load Transaction := do
  let tx ← field loadTransactionPrefix
  if tx.version = 1 then
    let signatures ← loadRingSignatures tx.vin
    pure { tx with signatures }
  else if tx.vin.isEmpty then pure tx
  else
    let rct ← field (serializeRctsigBase tx.vin.length tx.vout.length)
    if rct.type = Rct.RCTTypeNull then pure { tx with rctSignatures := rct }
    else
      let p ← field (serializeRctsigPrunable rct.type tx.vin.length tx.vout.length (mixinOf tx.vin))
      pure { tx with rctSignatures := { rct with p } }

/-- `::serialization::serialize(ba, tx)` over a blob: the transaction, with
the stream good and at its end. -/
def serializeTransaction (blob : List UInt8) : Option Transaction :=
  match loadTransaction (IStream.ofBytes blob) with
  | some (tx, s) => if checkStreamState s then some tx else none
  | none => none

/-! ## What the reader checks of the bulletproofs -/

/-- What `serialize_rctsig_prunable` checks of the bulletproofs of a
transaction with `outputs` outputs: no more proofs than outputs, as many provable
amounts as outputs, and each proof with a nonempty `L` as long as its `R`. -/
structure BulletproofsRead (proofs : List Rct.Bulletproof) (outputs : Nat) : Prop where
  fewProofs : proofs.length ≤ outputs
  enoughAmounts : outputs ≤ Rct.nBulletproofMaxAmountsOf proofs
  balanced : ∀ proof ∈ proofs, proof.bigL ≠ [] ∧ proof.bigL.length = proof.bigR.length

theorem loadBulletproof_balanced {s s' : IStream} {proof : Rct.Bulletproof}
    (read : loadBulletproof s = some (proof, s')) : proof.bigL ≠ [] ∧ proof.bigL.length = proof.bigR.length := by
  simp only [loadBulletproof, run_bind_eq_some, check_eq_some, run_pure_eq_some] at read
  obtain ⟨_, _, -, _, _, -, _, _, -, _, _, -, _, _, -, _, _, -, bigL, _, -, bigR, _, -, _, _, -, _, _, -, _, _, -,
    u, s₁, ⟨passed, -⟩, built, -⟩ := read
  subst built
  simp only [not_or, List.isEmpty_iff, ne_eq, not_not] at passed
  exact passed

theorem serializeRctsigPrunable_bulletproofs {type inputs outputs mixin : Nat} {s s' : IStream}
    {p : Rct.RctSigPrunable} (read : serializeRctsigPrunable type inputs outputs mixin s = some (p, s'))
    (bulletproof : type = Rct.RCTTypeBulletproof) : BulletproofsRead p.bulletproofs outputs := by
  subst bulletproof
  simp only [serializeRctsigPrunable, if_neg (by decide : Rct.RCTTypeBulletproof ≠ Rct.RCTTypeNull),
    ne_eq, not_true_eq_false, and_false, if_false, if_true, run_bind_eq_some, check_eq_some,
    run_pure_eq_some] at read
  obtain ⟨nbp, s₁, -, u, s₂, ⟨fewProofs, -⟩, proofs, s₃, loaded, u', s₄, ⟨enoughAmounts, -⟩, pair, s₅, ⟨rfl, -⟩,
    mgs, s₆, -, pseudoOuts, s₇, -, rfl, -⟩ := read
  refine ⟨?_, Nat.le_of_not_lt enoughAmounts, elements_forall loadBulletproof_balanced nbp loaded⟩
  rw [length_elements nbp loaded]
  exact Nat.le_of_not_lt fewProofs

theorem loadTransactionPrefix_rctSignatures {s s' : IStream} {tx : Transaction}
    (read : loadTransactionPrefix s = some (tx, s')) : tx.rctSignatures = default := by
  simp only [loadTransactionPrefix, run_bind_eq_some, check_eq_some, run_pure_eq_some] at read
  obtain ⟨_, _, -, _, _, -, _, _, -, _, _, -, _, _, -, _, _, -, rfl, -⟩ := read
  rfl

/-- A transaction read with a bulletproof signature passed the checks of
`serialize_rctsig_prunable` for its outputs: only a version 2 transaction with
inputs reads its RingCT data, and only a type that is not null its proofs. -/
theorem loadTransaction_bulletproofs {s s' : IStream} {tx : Transaction} (read : loadTransaction s = some (tx, s'))
    (bulletproof : tx.rctSignatures.type = Rct.RCTTypeBulletproof) :
    BulletproofsRead tx.rctSignatures.p.bulletproofs tx.vout.length := by
  simp only [loadTransaction, run_bind_eq_some] at read
  obtain ⟨prefixTx, s₁, loadedPrefix, rest⟩ := read
  have nullRct := loadTransactionPrefix_rctSignatures (field_eq_some loadedPrefix).1
  split at rest
  · simp only [run_bind_eq_some, run_pure_eq_some] at rest
    obtain ⟨signatures, s₂, -, rfl, -⟩ := rest
    rw [show _ = _ from nullRct] at bulletproof
    exact absurd bulletproof (by decide)
  split at rest
  · rw [run_pure_eq_some] at rest
    obtain ⟨rfl, -⟩ := rest
    rw [nullRct] at bulletproof
    exact absurd bulletproof (by decide)
  simp only [run_bind_eq_some] at rest
  obtain ⟨rct, s₂, -, rest⟩ := rest
  split at rest
  · rename_i null
    rw [run_pure_eq_some] at rest
    obtain ⟨rfl, -⟩ := rest
    exact absurd (null.symm.trans bulletproof) (by decide)
  · simp only [run_bind_eq_some, run_pure_eq_some] at rest
    obtain ⟨p, s₃, prunable, rfl, -⟩ := rest
    exact serializeRctsigPrunable_bulletproofs (field_eq_some prunable).1 bulletproof

theorem serializeTransaction_bulletproofs {blob : List UInt8} {tx : Transaction}
    (parsed : serializeTransaction blob = some tx) (bulletproof : tx.rctSignatures.type = Rct.RCTTypeBulletproof) :
    BulletproofsRead tx.rctSignatures.p.bulletproofs tx.vout.length := by
  unfold serializeTransaction at parsed
  split at parsed
  · rename_i read
    split at parsed
    · cases parsed
      exact loadTransaction_bulletproofs read bulletproof
    · cases parsed
  · cases parsed

end Cryptonote

end ElectroneumClassic
