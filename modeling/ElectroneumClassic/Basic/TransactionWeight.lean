import ElectroneumClassic.Serialization.Transaction

/-!
# The weight of a transaction

`get_transaction_weight(tx, blob_size)` charges a transaction its blob size,
and a bulletproof transaction with more than two outputs also a clawback: four
fifths of what its proofs save against one range proof of 368 bytes an
output, padded to the amounts they can prove.  It throws where the proofs are
larger than that or the sum overflows.

`parse_and_validate_tx_from_blob` reads the transaction and passes it to
`expand_transaction_1`, which asks of a version 2 transaction that is not a
coinbase exactly one proof, with an `L` of at least `6` keys proving at least
as many amounts as there are outputs.  With the checks of the reader, that
`L` has `6` to `10` keys; with more than two outputs, `8` to `10`, and the
clawback is then at most `3968` (`get_transaction_weight_of_parsed`).

A transaction whose only input is a `txin_gen` skips those checks, so the
reader's checks are all a bulletproof coinbase meets: three proofs of `6`
keys each for three outputs parse, and their weight throws
(`coinbase_bulletproofs_weight_throws`).

`expand_transaction_1` also fills the commitments `V` of the proof from the
output commitments by a curve multiplication; nothing modelled reads them,
and they are left as read.
-/

namespace ElectroneumClassic.Cryptonote

open Config Machine Serialization

/-- `rct::is_rct_bulletproof`. -/
def isRctBulletproof (type : Nat) : Bool := type = Rct.RCTTypeBulletproof

/-- The key of a `txout_to_key` output. -/
def toKeyTarget? : TxoutTargetV → Option Key
  | .toKey key => some key
  | _ => none

/-- The loop of `expand_transaction_1` over the commitments: the output of
each is a `txout_to_key`, whose key becomes the commitment's destination. -/
def expandDestinations (outPk : List Rct.CtKey) (vout : List TxOut) : Option (List Rct.CtKey) :=
  (outPk.zip vout).mapM fun (pk, out) => (toKeyTarget? out.target).map fun key => { pk with dest := key }

/-- The checks of `expand_transaction_1` on the bulletproofs of a transaction
with `nOutputs` outputs: one proof, at least `6` keys in its `L`, and
`max_outputs = 1 << (L.size() - 6)` at least the outputs.  The shift is an
`int` one; the reader keeps `L.size()` at most `10` wherever it is reached. -/
def bulletproofsExpandable (proofs : List Rct.Bulletproof) (nOutputs : Nat) : Bool :=
  match proofs with
  | [proof] => !decide (proof.bigL.length < 6) && !decide (1 <<< (proof.bigL.length - 6) < nOutputs)
  | _ => false

/-- `expand_transaction_1(tx, base_only)`: of a version 2 transaction that is
not a coinbase, as many commitments as outputs, their destinations set, and
unless `base_only` the bulletproofs checked. -/
def expandTransaction1 (tx : Transaction) (baseOnly : Bool) : Option Transaction :=
  if tx.version ≥ 2 ∧ isCoinbase tx = false then
    let rv := tx.rctSignatures
    if rv.outPk.length ≠ tx.vout.length then none
    else do
      let outPk ← expandDestinations rv.outPk tx.vout
      if !baseOnly && isRctBulletproof rv.type && !bulletproofsExpandable rv.p.bulletproofs tx.vout.length then none
      else some { tx with rctSignatures := { rv with outPk } }
  else some tx

/-- `parse_and_validate_tx_from_blob`: the transaction read to the end of the
blob, then expanded. -/
def parseAndValidateTxFromBlob (blob : List UInt8) : Option Transaction :=
  (serializeTransaction blob).bind fun tx => expandTransaction1 tx false

/-- `get_transaction_weight(tx, blob_size)`: the blob size, with the clawback
of a bulletproof transaction of more than two outputs; the errors are the
messages it throws.  `nlr` and `bp_size` are `size_t`. -/
def getTransactionWeight (tx : Transaction) (blobSize : Nat) : Except String Nat :=
  if tx.version < 2 then .ok blobSize
  else if !isRctBulletproof tx.rctSignatures.type then .ok blobSize
  else
    let nOutputs := tx.vout.length
    if nOutputs ≤ 2 then .ok blobSize
    else
      let bpBase := 368
      let nPaddedOutputs := Rct.nBulletproofMaxAmountsOf tx.rctSignatures.p.bulletproofs
      let nlr := tx.rctSignatures.p.bulletproofs.foldl (fun nlr bp => wrapU64 (nlr + bp.bigL.length * 2)) 0
      let bpSize := wrapU64 (32 * (9 + nlr))
      if ¬bpBase * nPaddedOutputs ≥ bpSize then .error "Invalid bulletproof clawback"
      else
        let bpClawback := (bpBase * nPaddedOutputs - bpSize) * 4 / 5
        if ¬bpClawback ≤ 2 ^ 64 - 1 - blobSize then .error "Weight overflow"
        else .ok (blobSize + bpClawback)

/-! ## The proofs of a parsed transaction -/

theorem bulletproofsExpandable_eq_true {proofs : List Rct.Bulletproof} {nOutputs : Nat}
    (expandable : bulletproofsExpandable proofs nOutputs = true) :
    ∃ proof, proofs = [proof] ∧ 6 ≤ proof.bigL.length ∧ nOutputs ≤ 2 ^ (proof.bigL.length - 6) := by
  unfold bulletproofsExpandable at expandable
  split at expandable
  · rename_i proof
    simp only [Bool.and_eq_true, Bool.not_eq_true', decide_eq_false_iff_not, not_lt,
      Nat.one_shiftLeft] at expandable
    exact ⟨proof, rfl, expandable⟩
  · cases expandable

/-- What `expand_transaction_1` does to a transaction it accepts: it sets the
destinations of the commitments, and of a version 2 bulletproof transaction
that is not a coinbase it has checked the proofs. -/
theorem expandTransaction1_eq_some {tx tx' : Transaction} (expanded : expandTransaction1 tx false = some tx') :
    (∃ outPk, tx' = { tx with rctSignatures := { tx.rctSignatures with outPk } }) ∧
      (2 ≤ tx.version → isCoinbase tx = false → isRctBulletproof tx.rctSignatures.type = true →
        bulletproofsExpandable tx.rctSignatures.p.bulletproofs tx.vout.length = true) := by
  unfold expandTransaction1 at expanded
  split at expanded
  · dsimp only at expanded
    split at expanded
    · cases expanded
    · rw [Option.bind_eq_bind, Option.bind_eq_some_iff] at expanded
      obtain ⟨outPk, -, checked⟩ := expanded
      split at checked
      · cases checked
      · rename_i passed
        cases checked
        refine ⟨⟨outPk, rfl⟩, fun _ _ bulletproof => ?_⟩
        simpa [bulletproof] using passed
  · rename_i unexpanded
    cases expanded
    refine ⟨⟨tx.rctSignatures.outPk, rfl⟩, fun recent coinbase _ => absurd ⟨recent, coinbase⟩ unexpanded⟩

theorem nBulletproofMaxAmountsOf_singleton (proof : Rct.Bulletproof) :
    Rct.nBulletproofMaxAmountsOf [proof] = Rct.nBulletproofMaxAmounts proof := by
  have small : Rct.nBulletproofMaxAmounts proof < 2 ^ 32 - 1 := by
    unfold Rct.nBulletproofMaxAmounts
    split_ifs
    · decide
    · decide
    · decide
    · rw [Nat.one_shiftLeft]
      have few : proof.bigL.length - 6 ≤ 4 := by omega
      exact Nat.lt_of_le_of_lt (Nat.pow_le_pow_right (by decide) few) (by decide)
  unfold Rct.nBulletproofMaxAmountsOf Rct.nBulletproofMaxAmountsLoop
  rw [subU64_of_le (Nat.zero_le _) (by decide), Nat.sub_zero, if_neg (not_not.2 small)]
  split
  · rename_i none
    exact none.symm
  · rw [Rct.nBulletproofMaxAmountsLoop, Nat.zero_add]

/-- A proof proving some amounts has `6` to `10` keys in `L`, as many as in
`R`, and proves `2 ^ (L.size() - 6)`. -/
theorem nBulletproofMaxAmounts_pos {proof : Rct.Bulletproof} (proves : 0 < Rct.nBulletproofMaxAmounts proof) :
    6 ≤ proof.bigL.length ∧ proof.bigL.length ≤ 10 ∧ proof.bigL.length = proof.bigR.length ∧
      Rct.nBulletproofMaxAmounts proof = 2 ^ (proof.bigL.length - 6) := by
  unfold Rct.nBulletproofMaxAmounts at proves ⊢
  split_ifs at proves ⊢ with short unbalanced long
  · exact absurd proves (lt_irrefl 0)
  · exact absurd proves (lt_irrefl 0)
  · exact absurd proves (lt_irrefl 0)
  · exact ⟨Nat.le_of_not_lt short, Nat.le_of_not_lt long, not_not.1 unbalanced, Nat.one_shiftLeft _⟩

/-- A parsed version 2 bulletproof transaction that is not a coinbase has one
proof, with `6` to `10` keys in `L`, proving `2 ^ (L.size() - 6)` amounts and
at least the outputs: the expansion asks for the one proof and the lower bound,
the reader for the upper one. -/
theorem parseAndValidateTxFromBlob_bulletproof {blob : List UInt8} {tx : Transaction}
    (parsed : parseAndValidateTxFromBlob blob = some tx) (notCoinbase : isCoinbase tx = false)
    (recent : 2 ≤ tx.version) (bulletproof : isRctBulletproof tx.rctSignatures.type = true) :
    ∃ proof, tx.rctSignatures.p.bulletproofs = [proof] ∧ 6 ≤ proof.bigL.length ∧ proof.bigL.length ≤ 10 ∧
      tx.vout.length ≤ 2 ^ (proof.bigL.length - 6) ∧
      Rct.nBulletproofMaxAmountsOf tx.rctSignatures.p.bulletproofs = 2 ^ (proof.bigL.length - 6) := by
  obtain ⟨read, readTx, expanded⟩ := Option.bind_eq_some_iff.1 parsed
  obtain ⟨⟨outPk, rfl⟩, checked⟩ := expandTransaction1_eq_some expanded
  obtain ⟨proof, single, long, provable⟩ :=
    bulletproofsExpandable_eq_true (checked recent notCoinbase bulletproof)
  have typed : read.rctSignatures.type = Rct.RCTTypeBulletproof := by
    simpa [isRctBulletproof] using bulletproof
  have checkedRead := serializeTransaction_bulletproofs readTx typed
  rw [single] at checkedRead
  have proves : 0 < Rct.nBulletproofMaxAmounts proof := by
    rw [← nBulletproofMaxAmountsOf_singleton]
    exact Nat.lt_of_lt_of_le checkedRead.fewProofs checkedRead.enoughAmounts
  obtain ⟨-, short, -, amounts⟩ := nBulletproofMaxAmounts_pos proves
  have padded : Rct.nBulletproofMaxAmountsOf read.rctSignatures.p.bulletproofs = 2 ^ (proof.bigL.length - 6) := by
    rw [single, nBulletproofMaxAmountsOf_singleton]
    exact amounts
  exact ⟨proof, single, long, short, provable, padded⟩

/-! ## The weight -/

/-- More than two outputs proven by `2 ^ (length - 6)` amounts, with `length`
at most `10`, need `8` to `10` keys. -/
theorem length_mem_of_outputs {length nOutputs : Nat} (long : 6 ≤ length) (short : length ≤ 10)
    (manyOutputs : 2 < nOutputs) (provable : nOutputs ≤ 2 ^ (length - 6)) : length ∈ [8, 9, 10] := by
  have wide : 2 ≤ length - 6 := by
    by_contra narrow
    have fewAmounts : 2 ^ (length - 6) ≤ 2 ^ 1 := Nat.pow_le_pow_right (by decide) (by omega)
    omega
  simp only [List.mem_cons, List.not_mem_nil, or_false]
  omega

/-- The clawback of one proof with `8` to `10` keys in `L` is covered by the
amounts it proves and at most `3968`. -/
theorem clawback_of_length {length : Nat} (sized : length ∈ [8, 9, 10]) :
    32 * (9 + 2 * length) ≤ 368 * 2 ^ (length - 6) ∧
      (368 * 2 ^ (length - 6) - 32 * (9 + 2 * length)) * 4 / 5 ≤ 3968 := by
  simp only [List.mem_cons, List.not_mem_nil, or_false] at sized
  rcases sized with rfl | rfl | rfl
  · decide
  · decide
  · decide

/-- A transaction of version 1, of another signature than bulletproofs, or
of at most two outputs weighs its blob size. -/
theorem getTransactionWeight_of_uncharged {tx : Transaction} {blobSize : Nat}
    (uncharged : ¬(2 ≤ tx.version ∧ isRctBulletproof tx.rctSignatures.type = true ∧ 2 < tx.vout.length)) :
    getTransactionWeight tx blobSize = .ok blobSize := by
  unfold getTransactionWeight
  by_cases old : tx.version < 2
  · rw [if_pos old]
  by_cases plain : isRctBulletproof tx.rctSignatures.type = false
  · rw [if_neg old, plain, if_pos (by decide)]
  have few : tx.vout.length ≤ 2 := by
    by_contra many
    exact uncharged ⟨by omega, by simpa using plain, by omega⟩
  rw [if_neg old, if_neg (by simpa using plain)]
  dsimp only
  rw [if_pos few]

/-- The weight of a version 2 bulletproof transaction of more than two outputs
and one proof of `8` to `10` keys in `L`, proving `2 ^ (L.size() - 6)`. -/
theorem getTransactionWeight_of_proof {tx : Transaction} {proof : Rct.Bulletproof} {blobSize : Nat}
    (recent : 2 ≤ tx.version) (bulletproof : isRctBulletproof tx.rctSignatures.type = true)
    (manyOutputs : 2 < tx.vout.length) (single : tx.rctSignatures.p.bulletproofs = [proof])
    (amounts : Rct.nBulletproofMaxAmountsOf [proof] = 2 ^ (proof.bigL.length - 6))
    (sized : proof.bigL.length ∈ [8, 9, 10]) (fits : blobSize + 3968 < 2 ^ 64) :
    getTransactionWeight tx blobSize =
      .ok (blobSize + (368 * 2 ^ (proof.bigL.length - 6) - 32 * (9 + 2 * proof.bigL.length)) * 4 / 5) := by
  obtain ⟨covered, bounded⟩ := clawback_of_length sized
  have short : proof.bigL.length ≤ 10 := by
    simp only [List.mem_cons, List.not_mem_nil, or_false] at sized
    omega
  have nlr : [proof].foldl (fun nlr bp => wrapU64 (nlr + bp.bigL.length * 2)) 0 = 2 * proof.bigL.length := by
    rw [List.foldl_cons, List.foldl_nil, wrapU64_of_lt (by omega)]
    omega
  have bpSize : wrapU64 (32 * (9 + 2 * proof.bigL.length)) = 32 * (9 + 2 * proof.bigL.length) :=
    wrapU64_of_lt (by omega)
  unfold getTransactionWeight
  rw [if_neg (by omega), bulletproof, if_neg (by decide), if_neg (by omega)]
  simp only [single, amounts, nlr, bpSize]
  rw [if_neg (not_not.2 covered), if_neg (not_not.2 (by omega))]

/-- The weight of a transaction parsed from a blob, if it is not a coinbase:
the shift of its expansion is by at most four bits, and the weight is the blob
size with the clawback of a proof of `8` to `10` keys, never throwing where
the blob size leaves room for the largest clawback. -/
theorem get_transaction_weight_of_parsed {blob : List UInt8} {tx : Transaction}
    (parsed : parseAndValidateTxFromBlob blob = some tx) (notCoinbase : isCoinbase tx = false)
    (fits : blob.length + 3968 < 2 ^ 64) :
    (2 ≤ tx.version → isRctBulletproof tx.rctSignatures.type = true →
      ∃ proof, tx.rctSignatures.p.bulletproofs = [proof] ∧ 6 ≤ proof.bigL.length ∧ proof.bigL.length - 6 ≤ 4) ∧
    ∃ weight, getTransactionWeight tx blob.length = .ok weight ∧
      (tx.version < 2 ∨ isRctBulletproof tx.rctSignatures.type = false ∨ tx.vout.length ≤ 2 →
        weight = blob.length) ∧
      (2 ≤ tx.version → isRctBulletproof tx.rctSignatures.type = true → 2 < tx.vout.length →
        ∃ proof, tx.rctSignatures.p.bulletproofs = [proof] ∧ proof.bigL.length ∈ [8, 9, 10] ∧
          weight = blob.length + (368 * 2 ^ (proof.bigL.length - 6) - 32 * (9 + 2 * proof.bigL.length)) * 4 / 5) ∧
      blob.length ≤ weight ∧ weight ≤ blob.length + 3968 := by
  refine ⟨fun recent bulletproof => ?_, ?_⟩
  · obtain ⟨proof, single, long, short, -⟩ := parseAndValidateTxFromBlob_bulletproof parsed notCoinbase recent bulletproof
    exact ⟨proof, single, long, by omega⟩
  by_cases charged : 2 ≤ tx.version ∧ isRctBulletproof tx.rctSignatures.type = true ∧ 2 < tx.vout.length
  · obtain ⟨recent, bulletproof, manyOutputs⟩ := charged
    obtain ⟨proof, single, long, short, provable, amounts⟩ :=
      parseAndValidateTxFromBlob_bulletproof parsed notCoinbase recent bulletproof
    rw [single] at amounts
    have sized := length_mem_of_outputs long short manyOutputs provable
    have bounded := (clawback_of_length sized).2
    refine ⟨_, getTransactionWeight_of_proof recent bulletproof manyOutputs single amounts sized fits, ?_,
      fun _ _ _ => ⟨proof, single, sized, rfl⟩, Nat.le_add_right _ _, Nat.add_le_add_left bounded _⟩
    rintro (old | plain | few)
    · exact absurd recent (by omega)
    · rw [bulletproof] at plain
      cases plain
    · exact absurd manyOutputs (by omega)
  · refine ⟨blob.length, getTransactionWeight_of_uncharged charged, fun _ => rfl,
      fun recent bulletproof manyOutputs => absurd ⟨recent, bulletproof, manyOutputs⟩ charged, le_refl _,
      Nat.le_add_right _ _⟩

/-- `n` zero bytes. -/
def zeroBytes (n : Nat) : List UInt8 := List.replicate n 0

/-- A `tx_out` of amount `0` to the zero key. -/
def zeroKeyOutBytes : List UInt8 := [0x00, 0x02] ++ zeroBytes 32

/-- A bulletproof of zeros with `n` keys in `L` and in `R`, for `n < 128`. -/
def zeroProofBytes (n : Nat) : List UInt8 :=
  zeroBytes (6 * 32) ++ [n.toUInt8] ++ zeroBytes (n * 32) ++ [n.toUInt8] ++ zeroBytes (n * 32) ++ zeroBytes (3 * 32)

/-- A version 2 transaction with one `txin_to_key` input of a ring of one,
three outputs and one proof of `8` keys. -/
def threeOutputBlob : List UInt8 :=
  [0x02, 0x00, 0x01, 0x02, 0x00, 0x01, 0x00] ++ zeroBytes 32 ++
    [0x03] ++ zeroKeyOutBytes ++ zeroKeyOutBytes ++ zeroKeyOutBytes ++ [0x00] ++
    -- the RingCT base: the type, the fee, three ECDH tuples and three commitments
    [0x03, 0x00] ++ zeroBytes (3 * 64) ++ zeroBytes (3 * 32) ++
    -- the proof, an MLSAG of one row of two keys with its `cc`, and the pseudo output
    [1, 0, 0, 0] ++ zeroProofBytes 8 ++ zeroBytes (3 * 32) ++ zeroBytes 32

theorem get_transaction_weight_of_three_outputs :
    ∃ tx, parseAndValidateTxFromBlob threeOutputBlob = some tx ∧ isCoinbase tx = false ∧
      threeOutputBlob.length + 3968 < 2 ^ 64 ∧
      ∃ weight, getTransactionWeight tx threeOutputBlob.length = .ok weight ∧
        weight ≤ threeOutputBlob.length + 3968 := by
  have parsed : parseAndValidateTxFromBlob threeOutputBlob =
      some ((parseAndValidateTxFromBlob threeOutputBlob).getD default) := by
    decide +kernel
  have notCoinbase : isCoinbase ((parseAndValidateTxFromBlob threeOutputBlob).getD default) = false := by
    decide +kernel
  have fits : threeOutputBlob.length + 3968 < 2 ^ 64 := by
    decide +kernel
  obtain ⟨-, weight, weighed, -, -, -, bounded⟩ := get_transaction_weight_of_parsed parsed notCoinbase fits
  exact ⟨_, parsed, notCoinbase, fits, weight, weighed, bounded⟩

/-- A version 2 coinbase with three outputs and three proofs of `6` keys. -/
def coinbaseBulletproofsBlob : List UInt8 :=
  [0x02, 0x00, 0x01, 0xff, 0x00] ++
    [0x03] ++ zeroKeyOutBytes ++ zeroKeyOutBytes ++ zeroKeyOutBytes ++ [0x00] ++
    [0x03, 0x00] ++ zeroBytes (3 * 64) ++ zeroBytes (3 * 32) ++
    [3, 0, 0, 0] ++ zeroProofBytes 6 ++ zeroProofBytes 6 ++ zeroProofBytes 6 ++ zeroBytes (3 * 32) ++ zeroBytes 32

/-- The three proofs prove three amounts, padded to `3 * 368 = 1104` bytes,
against `32 * (9 + 36) = 1440` bytes of proofs. -/
theorem coinbase_bulletproofs_weight_throws :
    ((parseAndValidateTxFromBlob coinbaseBulletproofsBlob).map fun tx =>
      (isCoinbase tx, getTransactionWeight tx coinbaseBulletproofsBlob.length)) =
      some (true, .error "Invalid bulletproof clawback") := by
  decide +kernel

end ElectroneumClassic.Cryptonote
