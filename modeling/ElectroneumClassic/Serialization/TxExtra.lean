import ElectroneumClassic.Serialization.BinaryArchive

/-!
# The `tx_extra` field

A transaction's `extra` is a sequence of `tx_extra_field`s (`tx_extra.h`),
each a variant tag followed by the field: padding (zero bytes up to the end
of the stream), a public key (32 bytes), a nonce and the minergate data
(strings), a merge mining tag (a string holding a varint depth and a 32-byte
root, read with its own archive) and additional public keys (a vector of
keys).  `parse_tx_extra` reads fields until the stream is at its end; the
builders of `cryptonote_format_utils.cpp` append fields by hand, and
`remove_field_from_tx_extra` re-serializes the fields of the other types.

`add_extra_nonce_to_tx_extra` writes the nonce's size as one byte, where the
reader expects a varint: for a nonce of `128` to `255` bytes the size byte has
its high bit set and the reader takes the nonce's first byte as part of the
size.  Whatever came before, the result is not read back as a field for the
nonce (`added_extra_nonce_does_not_parse_back`).
-/

namespace ElectroneumClassic.Cryptonote

open Serialization Tools

def TX_EXTRA_PADDING_MAX_COUNT : Nat := 255
def TX_EXTRA_NONCE_MAX_COUNT : Nat := 255

def TX_EXTRA_TAG_PADDING : Nat := 0x00
def TX_EXTRA_TAG_PUBKEY : Nat := 0x01
def TX_EXTRA_NONCE : Nat := 0x02
def TX_EXTRA_MERGE_MINING_TAG : Nat := 0x03
def TX_EXTRA_TAG_ADDITIONAL_PUBKEYS : Nat := 0x04
def TX_EXTRA_MYSTERIOUS_MINERGATE_TAG : Nat := 0xDE

/-- `tx_extra_field`. -/
inductive TxExtraField where
  | padding (size : Nat)
  | pubKey (pubKey : Pod 32)
  | nonce (nonce : List UInt8)
  | mergeMiningTag (depth : Nat) (merkleRoot : Pod 32)
  | additionalPubKeys (data : List (Pod 32))
  | mysteriousMinergate (data : List UInt8)
  deriving DecidableEq, Repr

/-- The variant tag of a field's type (`VARIANT_TAG`); types and tags
correspond one to one. -/
def TxExtraField.tag : TxExtraField → Nat
  | .padding _ => TX_EXTRA_TAG_PADDING
  | .pubKey _ => TX_EXTRA_TAG_PUBKEY
  | .nonce _ => TX_EXTRA_NONCE
  | .mergeMiningTag _ _ => TX_EXTRA_MERGE_MINING_TAG
  | .additionalPubKeys _ => TX_EXTRA_TAG_ADDITIONAL_PUBKEYS
  | .mysteriousMinergate _ => TX_EXTRA_MYSTERIOUS_MINERGATE_TAG

/-! ## Loading -/

/-- The loop of the loading `tx_extra_padding::do_serialize` at `size`, with
`count` rounds left: the size where the stream ends, or `none` for a byte
that is not zero. -/
def paddingLoop : Nat → Nat → IStream → Option Nat × IStream
  | 0, size, s => (some size, s)
  | count + 1, size, s =>
    if s.peekIsEof then (some size, s)
    else
      let (byte, s) := serializeUint8 s
      if 0 ≠ byte then (none, s) else paddingLoop count (size + 1) s

/-- The loading `tx_extra_padding::do_serialize`: zero bytes to the end of
the stream, the size counting the tag. -/
def readPadding (s : IStream) : Option Nat × IStream :=
  match paddingLoop TX_EXTRA_PADDING_MAX_COUNT 1 s with
  | (some size, s) => (if size ≤ TX_EXTRA_PADDING_MAX_COUNT then some size else none, s)
  | (none, s) => (none, s)

/-- `FIELD(f)`: the value read, if the stream is still good. -/
def fieldResult {α : Type} : Option α × IStream → Option α × IStream
  | (some value, s) => if !s.good then (none, s) else (some value, s)
  | (none, s) => (none, s)

/-- The loading `tx_extra_pub_key::do_serialize`. -/
def readPubKey (s : IStream) : Option (Pod 32) × IStream := fieldResult (readPod 32 s)

/-- The loading `tx_extra_nonce::do_serialize`: a string of at most
`TX_EXTRA_NONCE_MAX_COUNT` bytes. -/
def readNonce (s : IStream) : Option (List UInt8) × IStream :=
  match fieldResult (readString s) with
  | (some nonce, s) => if TX_EXTRA_NONCE_MAX_COUNT < nonce.length then (none, s) else (some nonce, s)
  | (none, s) => (none, s)

/-- `serialize` of the merge mining tag's `serialize_helper` from an archive
over the string: the varint depth and the root, and nothing after them. -/
def readMergeMiningHelper (s : IStream) : Option (Nat × Pod 32) :=
  let (depth, s) := serializeVarint 64 s
  if !s.good then none
  else
    match fieldResult (readPod 32 s) with
    | (some merkleRoot, s) => if checkStreamState s then some (depth, merkleRoot) else none
    | (none, _) => none

/-- The loading `tx_extra_merge_mining_tag::do_serialize`. -/
def readMergeMiningTag (s : IStream) : Option (Nat × Pod 32) × IStream :=
  match readString s with
  | (some field, s) => (readMergeMiningHelper (IStream.ofBytes field), s)
  | (none, s) => (none, s)

/-- The loading `tx_extra_additional_pub_keys::do_serialize`. -/
def readAdditionalPubKeys (s : IStream) : Option (List (Pod 32)) × IStream :=
  fieldResult (readPodVector 32 s)

/-- The loading `tx_extra_mysterious_minergate::do_serialize`. -/
def readMysteriousMinergate (s : IStream) : Option (List UInt8) × IStream := fieldResult (readString s)

/-- `variant_reader::read` after the tag: the field of the type with that tag. -/
def readFieldOfTag (tag : Nat) (s : IStream) : Option TxExtraField × IStream :=
  if tag = TX_EXTRA_TAG_PADDING then Prod.map (Option.map .padding) id (readPadding s)
  else if tag = TX_EXTRA_TAG_PUBKEY then Prod.map (Option.map .pubKey) id (readPubKey s)
  else if tag = TX_EXTRA_NONCE then Prod.map (Option.map .nonce) id (readNonce s)
  else if tag = TX_EXTRA_MERGE_MINING_TAG then
    Prod.map (Option.map fun (depth, merkleRoot) => .mergeMiningTag depth merkleRoot) id
      (readMergeMiningTag s)
  else if tag = TX_EXTRA_TAG_ADDITIONAL_PUBKEYS then
    Prod.map (Option.map .additionalPubKeys) id (readAdditionalPubKeys s)
  else if tag = TX_EXTRA_MYSTERIOUS_MINERGATE_TAG then
    Prod.map (Option.map .mysteriousMinergate) id (readMysteriousMinergate s)
  else (none, s)

/-- The loading serializer of the `tx_extra_field` variant: a one-byte tag,
then the field; a failure sets `failbit`. -/
def readTxExtraField (s : IStream) : Option TxExtraField × IStream :=
  let (tag, s) := serializeUint8 s
  match readFieldOfTag tag s with
  | (some field, s) => (some field, s)
  | (none, s) => (none, s.setFail)

/-- The loop of `parse_tx_extra` with the fields read so far; every field
takes at least its tag, so `fuel` is the number of bytes. -/
def parseTxExtraLoop : Nat → IStream → List TxExtraField → Option (List TxExtraField)
  | 0, _, _ => none
  | fuel + 1, s, fields =>
    match readTxExtraField s with
    | (none, _) => none
    | (some field, s) =>
      let fields := fields ++ [field]
      if s.peekIsEof then (if checkStreamState s then some fields else none)
      else parseTxExtraLoop fuel s fields

/-- `parse_tx_extra`: the fields, or `none` where it returns `false`. -/
def parseTxExtra (txExtra : List UInt8) : Option (List TxExtraField) :=
  if txExtra.isEmpty then some []
  else parseTxExtraLoop txExtra.length (IStream.ofBytes txExtra) []

/-! ## Storing and the builders -/

/-- The storing serializer of the variant: the tag, then the field; `none`
where it returns `false`. -/
def writeTxExtraField : TxExtraField → Option (List UInt8)
  | .padding size =>
    if TX_EXTRA_PADDING_MAX_COUNT < size then none
    else some (UInt8.ofNat TX_EXTRA_TAG_PADDING :: List.replicate (size - 1) 0)
  | .pubKey pubKey => some (UInt8.ofNat TX_EXTRA_TAG_PUBKEY :: pubKey.bytes)
  | .nonce nonce =>
    if TX_EXTRA_NONCE_MAX_COUNT < nonce.length then none
    else some (UInt8.ofNat TX_EXTRA_NONCE :: writeString nonce)
  | .mergeMiningTag depth merkleRoot =>
    some (UInt8.ofNat TX_EXTRA_MERGE_MINING_TAG :: writeString (writeVarint depth ++ merkleRoot.bytes))
  | .additionalPubKeys data => some (UInt8.ofNat TX_EXTRA_TAG_ADDITIONAL_PUBKEYS :: writePodVector data)
  | .mysteriousMinergate data => some (UInt8.ofNat TX_EXTRA_MYSTERIOUS_MINERGATE_TAG :: writeString data)

/-- `add_tx_pub_key_to_extra`. -/
def addTxPubKeyToExtra (txExtra : List UInt8) (txPubKey : Pod 32) : List UInt8 :=
  txExtra ++ UInt8.ofNat TX_EXTRA_TAG_PUBKEY :: txPubKey.bytes

/-- `add_extra_nonce_to_tx_extra`: the tag, the size as one byte, the nonce;
`none` for a nonce longer than `TX_EXTRA_NONCE_MAX_COUNT`. -/
def addExtraNonceToTxExtra (txExtra : List UInt8) (extraNonce : List UInt8) : Option (List UInt8) :=
  if extraNonce.length ≤ TX_EXTRA_NONCE_MAX_COUNT then
    some (txExtra ++ UInt8.ofNat TX_EXTRA_NONCE :: UInt8.ofNat extraNonce.length :: extraNonce)
  else none

/-- The loop of `remove_field_from_tx_extra`: each field read is written to
the new extra unless it has the removed type. -/
def removeFieldLoop (tag : Nat) : Nat → IStream → List UInt8 → Option (List UInt8)
  | 0, _, _ => none
  | fuel + 1, s, out =>
    match readTxExtraField s with
    | (none, _) => none
    | (some field, s) =>
      let out := if field.tag ≠ tag then out ++ (writeTxExtraField field).getD [] else out
      if s.peekIsEof then (if checkStreamState s then some out else none)
      else removeFieldLoop tag fuel s out

/-- `remove_field_from_tx_extra(tx_extra, type)`: the new extra, or `none`
where the source returns `false` and leaves the extra as it was. -/
def removeFieldFromTxExtra (txExtra : List UInt8) (tag : Nat) : Option (List UInt8) :=
  if txExtra.isEmpty then some txExtra
  else removeFieldLoop tag txExtra.length (IStream.ofBytes txExtra) []

/-! ## Reading only moves forward -/

@[simp] theorem fieldResult_snd {α : Type} (p : Option α × IStream) : (fieldResult p).2 = p.2 := by
  rcases p with ⟨_ | value, s⟩
  · rfl
  · simp only [fieldResult]
    split_ifs <;> rfl

theorem rest_paddingLoop_suffix : ∀ (count size : Nat) (s : IStream), (paddingLoop count size s).2.rest <:+ s.rest
  | 0, _, s => List.suffix_refl _
  | count + 1, size, s => by
    have hbyte := rest_serializeUint8_suffix s
    rcases hpair : serializeUint8 s with ⟨byte, s'⟩
    rw [hpair] at hbyte
    simp only [paddingLoop, hpair]
    split_ifs
    · exact List.suffix_refl _
    · exact hbyte
    · exact (rest_paddingLoop_suffix count (size + 1) s').trans hbyte

theorem rest_readPadding_suffix (s : IStream) : (readPadding s).2.rest <:+ s.rest := by
  have hloop := rest_paddingLoop_suffix TX_EXTRA_PADDING_MAX_COUNT 1 s
  unfold readPadding
  split <;> rename_i hpair <;> rw [hpair] at hloop <;> exact hloop

theorem rest_readNonce_suffix (s : IStream) : (readNonce s).2.rest <:+ s.rest := by
  have hstring : (fieldResult (readString s)).2.rest <:+ s.rest := by
    rw [fieldResult_snd]
    exact rest_readString_suffix s
  unfold readNonce
  split
  · rename_i hpair
    rw [hpair] at hstring
    split_ifs <;> exact hstring
  · rename_i hpair
    rw [hpair] at hstring
    exact hstring

theorem rest_readMergeMiningTag_suffix (s : IStream) : (readMergeMiningTag s).2.rest <:+ s.rest := by
  have hstring := rest_readString_suffix s
  unfold readMergeMiningTag
  split <;> rename_i hpair <;> rw [hpair] at hstring <;> exact hstring

theorem rest_readFieldOfTag_suffix (tag : Nat) (s : IStream) : (readFieldOfTag tag s).2.rest <:+ s.rest := by
  unfold readFieldOfTag
  split_ifs
  · exact rest_readPadding_suffix s
  · simpa [readPubKey] using rest_readPod_suffix 32 s
  · exact rest_readNonce_suffix s
  · exact rest_readMergeMiningTag_suffix s
  · simpa [readAdditionalPubKeys] using rest_readPodVector_suffix 32 s
  · simpa [readMysteriousMinergate] using rest_readString_suffix s
  · exact List.suffix_refl _

theorem rest_readTxExtraField_suffix (s : IStream) : (readTxExtraField s).2.rest <:+ s.rest := by
  have htag := rest_serializeUint8_suffix s
  rcases hpair : serializeUint8 s with ⟨tag, s'⟩
  rw [hpair] at htag
  have hfield := (rest_readFieldOfTag_suffix tag s').trans htag
  simp only [readTxExtraField, hpair]
  split <;> rename_i hread <;> rw [hread] at hfield <;> simpa using hfield

/-! ## The last field of a parse -/

/-- A parse that returns fields read its last one from a good stream holding
a final segment of the input, and that read took the whole segment. -/
theorem parseTxExtraLoop_last : ∀ (fuel : Nat) (s : IStream) (fields result : List TxExtraField),
    parseTxExtraLoop fuel s fields = some result → s.good = true →
    ∃ init last segment s', result = init ++ [last] ∧ segment <:+ s.rest ∧
      readTxExtraField (IStream.ofBytes segment) = (some last, s') ∧ s'.rest = []
  | 0, _, _, _, hparse, _ => by simp [parseTxExtraLoop] at hparse
  | fuel + 1, s, fields, result, hparse, hgood => by
    have hsuffix := rest_readTxExtraField_suffix s
    rcases hread : readTxExtraField s with ⟨_ | field, s'⟩
    · simp [parseTxExtraLoop, hread] at hparse
    rw [hread] at hsuffix
    simp only [parseTxExtraLoop, hread] at hparse
    split_ifs at hparse with hend hstate
    · -- the stream is at its end after this field: it is the last one
      cases hparse
      have hempty : s'.rest = [] := by
        simp only [checkStreamState, IStream.peekIsEof, Bool.and_eq_true, Bool.or_eq_true,
          Bool.not_eq_true', List.isEmpty_iff] at hstate
        rcases hstate with ⟨hgood', hbad | hnil⟩
        · simp_all
        · exact hnil
      refine ⟨fields, field, s.rest, s', rfl, List.suffix_refl _, ?_, hempty⟩
      rw [← IStream.eq_ofBytes_of_good hgood, hread]
    · -- more bytes: the last field is read further on
      have hgood' : s'.good = true := by
        simp only [IStream.peekIsEof, Bool.or_eq_true, Bool.not_eq_true'] at hend
        cases hs' : s'.good <;> simp_all
      obtain ⟨init, last, segment, s'', hresult, hsegment, hlast, hempty⟩ :=
        parseTxExtraLoop_last fuel s' _ result hparse hgood'
      exact ⟨init, last, segment, s'', hresult, hsegment.trans hsuffix, hlast, hempty⟩

/-! ## A nonce read back -/

/-- Only the nonce branch of the dispatch gives a nonce. -/
theorem readFieldOfTag_nonce {tag : Nat} {s s' : IStream} {nonce : List UInt8}
    (hread : readFieldOfTag tag s = (some (.nonce nonce), s')) :
    tag = TX_EXTRA_NONCE ∧ readNonce s = (some nonce, s') := by
  unfold readFieldOfTag at hread
  split_ifs at hread
  · rcases hpair : readPadding s with ⟨_ | size, afterPadding⟩ <;> simp [hpair] at hread
  · rcases hpair : readPubKey s with ⟨_ | key, afterKey⟩ <;> simp [hpair] at hread
  · refine ⟨‹tag = TX_EXTRA_NONCE›, ?_⟩
    rcases hpair : readNonce s with ⟨_ | read, afterNonce⟩ <;> simp [hpair] at hread
    rw [hread.1, hread.2]
  · rcases hpair : readMergeMiningTag s with ⟨_ | ⟨depth, root⟩, afterTag⟩ <;> simp [hpair] at hread
  · rcases hpair : readAdditionalPubKeys s with ⟨_ | keys, afterKeys⟩ <;> simp [hpair] at hread
  · rcases hpair : readMysteriousMinergate s with ⟨_ | data, afterData⟩ <;> simp [hpair] at hread
  · simp at hread

/-- A string read that takes the rest of a good stream: the size varint
leaves exactly the string's bytes. -/
theorem readString_whole {bytes str : List UInt8} {s' : IStream}
    (hread : readString (IStream.ofBytes bytes) = (some str, s')) (hend : s'.rest = []) :
    (readVarint 64 bytes).rest = str := by
  have hvarint : serializeVarint 64 (IStream.ofBytes bytes) =
      ((readVarint 64 bytes).value, IStream.ofBytes (readVarint 64 bytes).rest) := rfl
  simp only [readString, hvarint] at hread
  by_cases hshort : remainingBytes (IStream.ofBytes (readVarint 64 bytes).rest) < (readVarint 64 bytes).value
  · rw [if_pos hshort] at hread
    simp at hread
  -- the size fits in what remains: the read takes that many bytes and leaves none
  rw [if_neg hshort] at hread
  have hfits : (readVarint 64 bytes).value ≤ (readVarint 64 bytes).rest.length := by
    simpa [remainingBytes] using hshort
  rw [IStream.read_append (IStream.good_ofBytes _) (List.take_append_drop _ _).symm
    (List.length_take_of_le hfits)] at hread
  simp only [Prod.mk.injEq, Option.some.injEq] at hread
  obtain ⟨htake, rfl⟩ := hread
  simp only at hend
  rw [← htake, List.take_of_length_le (List.drop_eq_nil_iff.1 hend)]
  rfl

/-- A field read as a nonce that takes a whole segment: the segment is the
nonce tag, a size varint, and the nonce. -/
theorem readTxExtraField_nonce {segment nonce : List UInt8} {s' : IStream}
    (hread : readTxExtraField (IStream.ofBytes segment) = (some (.nonce nonce), s')) (hend : s'.rest = []) :
    ∃ rest, segment = UInt8.ofNat TX_EXTRA_NONCE :: rest ∧ (readVarint 64 rest).rest = nonce := by
  cases segment with
  | nil =>
    -- no tag byte: the dispatch sees tag `0`, a padding
    simp only [readTxExtraField, serializeUint8, IStream.get, IStream.good_ofBytes] at hread
    split at hread
    · rename_i hfield
      exact absurd (readFieldOfTag_nonce (hread ▸ hfield)).1 (by decide)
    · simp at hread
  | cons tag rest =>
    have hget : serializeUint8 (IStream.ofBytes (tag :: rest)) = (tag.toNat, IStream.ofBytes rest) := by
      simp [serializeUint8, IStream.get_cons (IStream.good_ofBytes _) (IStream.rest_ofBytes _)]
      rfl
    simp only [readTxExtraField, hget] at hread
    split at hread
    · rename_i field afterField hfield
      simp only [Prod.mk.injEq, Option.some.injEq] at hread
      obtain ⟨rfl, rfl⟩ := hread
      obtain ⟨htag, hnonce⟩ := readFieldOfTag_nonce hfield
      refine ⟨rest, by rw [← htag, UInt8.ofNat_toNat], ?_⟩
      simp only [readNonce] at hnonce
      split at hnonce
      · rename_i read afterString hstring
        split_ifs at hnonce
        · simp at hnonce
        simp only [Prod.mk.injEq, Option.some.injEq] at hnonce
        obtain ⟨rfl, rfl⟩ := hnonce
        simp only [fieldResult] at hstring
        split at hstring
        · rename_i found afterFound hfound
          split_ifs at hstring
          · simp at hstring
          simp only [Prod.mk.injEq, Option.some.injEq] at hstring
          obtain ⟨rfl, rfl⟩ := hstring
          exact readString_whole hfound hend
        · simp at hstring
      · simp at hnonce
    · simp at hread

/-- `add_extra_nonce_to_tx_extra` with a nonce of `128` to `255` bytes gives
an extra that `parse_tx_extra` does not read as any fields followed by that
nonce: the size byte has its high bit set, so the size varint goes on into
the nonce, or an earlier field's varint runs into the size byte. -/
theorem added_extra_nonce_does_not_parse_back (txExtra extraNonce : List UInt8)
    (hlong : 128 ≤ extraNonce.length) (hcount : extraNonce.length ≤ TX_EXTRA_NONCE_MAX_COUNT) :
    ∃ extended, addExtraNonceToTxExtra txExtra extraNonce = some extended ∧
      ∀ fields, parseTxExtra extended ≠ some (fields ++ [.nonce extraNonce]) := by
  refine ⟨_, by rw [addExtraNonceToTxExtra, if_pos hcount], fun fields hparse => ?_⟩
  have hsize : (UInt8.ofNat extraNonce.length).toNat = extraNonce.length := by
    rw [UInt8.toNat_ofNat', Nat.mod_eq_of_lt (by unfold TX_EXTRA_NONCE_MAX_COUNT at hcount; omega)]
  rw [parseTxExtra, if_neg (by simp)] at hparse
  obtain ⟨init, last, segment, s', hresult, hsegment, hread, hend⟩ :=
    parseTxExtraLoop_last _ _ [] _ hparse (IStream.good_ofBytes _)
  have hlast : last = .nonce extraNonce := by
    have := (List.append_inj' hresult rfl).2
    simp only [List.cons.injEq, and_true] at this
    exact this.symm
  subst hlast
  obtain ⟨rest, rfl, hvarint⟩ := readTxExtraField_nonce hread hend
  obtain ⟨front, hcontinued, hcases⟩ := readVarintLoop_stops 64 rest 0 0 0
  simp only [readVarint] at hvarint
  rw [hvarint] at hcases
  rcases hcases with ⟨-, hempty⟩ | ⟨lastByte, hsplit, hstop⟩
  · -- the varint cannot end the input: the nonce follows it
    rw [hempty] at hlong
    simp at hlong
  -- the varint's bytes end just before the nonce, at the size byte
  rw [hsplit, IStream.rest_ofBytes] at hsegment
  have hsuffix : (UInt8.ofNat TX_EXTRA_NONCE :: front ++ [lastByte]) ++ extraNonce <:+
      (txExtra ++ [UInt8.ofNat TX_EXTRA_NONCE, UInt8.ofNat extraNonce.length]) ++ extraNonce := by
    simpa using hsegment
  obtain ⟨before, hbefore⟩ := List.suffix_append_self_iff.1 hsuffix
  have hjoin : (before ++ UInt8.ofNat TX_EXTRA_NONCE :: front) ++ [lastByte] =
      (txExtra ++ [UInt8.ofNat TX_EXTRA_NONCE]) ++ [UInt8.ofNat extraNonce.length] := by
    simpa using hbefore
  obtain ⟨hleading, hbyte⟩ := List.append_inj' hjoin rfl
  simp only [List.cons.injEq, and_true] at hbyte
  rcases List.eq_nil_or_concat front with rfl | ⟨front', highByte, rfl⟩
  · -- the size byte alone, with its high bit set, does not end a varint at shift 0
    rw [hbyte, hsize] at hstop
    simp only [List.length_nil] at hstop
    omega
  · -- a byte before the size byte would have to carry the high bit, but it is the nonce tag
    have hleading' : (before ++ UInt8.ofNat TX_EXTRA_NONCE :: front') ++ [highByte] =
        txExtra ++ [UInt8.ofNat TX_EXTRA_NONCE] := by
      simpa using hleading
    have htag := (List.append_inj' hleading' rfl).2
    simp only [List.cons.injEq, and_true] at htag
    have hhigh := hcontinued highByte (by simp)
    rw [htag] at hhigh
    exact absurd hhigh (by decide)

theorem extra_nonce_builder_disagrees_on_empty_extra :
    128 ≤ (List.replicate 128 (0 : UInt8)).length ∧
      (List.replicate 128 (0 : UInt8)).length ≤ TX_EXTRA_NONCE_MAX_COUNT ∧
      ∃ extended, addExtraNonceToTxExtra [] (List.replicate 128 0) = some extended ∧
        ∀ fields, parseTxExtra extended ≠ some (fields ++ [.nonce (List.replicate 128 0)]) :=
  ⟨by simp, by simp [TX_EXTRA_NONCE_MAX_COUNT],
    added_extra_nonce_does_not_parse_back [] (List.replicate 128 0) (by simp)
      (by simp [TX_EXTRA_NONCE_MAX_COUNT])⟩

/-! ## Written fields read back -/

/-- A field that the storing serializer writes and the loading one reads back
as it was. -/
def Serializable : TxExtraField → Prop
  | .padding size => 1 ≤ size ∧ size ≤ TX_EXTRA_PADDING_MAX_COUNT
  | .pubKey _ => True
  | .nonce nonce => nonce.length ≤ TX_EXTRA_NONCE_MAX_COUNT
  | .mergeMiningTag depth _ => depth < 2 ^ 64
  | .additionalPubKeys data => data.length < 2 ^ 64
  | .mysteriousMinergate data => data.length < 2 ^ 64

instance : DecidablePred Serializable
  | .padding size => inferInstanceAs (Decidable (1 ≤ size ∧ size ≤ TX_EXTRA_PADDING_MAX_COUNT))
  | .pubKey _ => inferInstanceAs (Decidable True)
  | .nonce nonce => inferInstanceAs (Decidable (nonce.length ≤ TX_EXTRA_NONCE_MAX_COUNT))
  | .mergeMiningTag depth _ => inferInstanceAs (Decidable (depth < 2 ^ 64))
  | .additionalPubKeys data => inferInstanceAs (Decidable (data.length < 2 ^ 64))
  | .mysteriousMinergate data => inferInstanceAs (Decidable (data.length < 2 ^ 64))

/-- Fields written one after another by the storing serializer, as the loop of
`remove_field_from_tx_extra` writes the fields it keeps. -/
def writeTxExtraFields (fields : List TxExtraField) : List UInt8 :=
  fields.flatMap fun field => (writeTxExtraField field).getD []

/-- The fields of a `tx_extra` that `parse_tx_extra` reads back as written:
each field serializable, and padding, which runs to the end of the stream,
only last. -/
structure Writable (fields : List TxExtraField) : Prop where
  serializable : ∀ field ∈ fields, Serializable field
  paddingLast : fields.Pairwise fun field _ => field.tag ≠ TX_EXTRA_TAG_PADDING

theorem fieldResult_of_good {α : Type} {s : IStream} (good : s.good = true) (value : α) :
    fieldResult (some value, s) = (some value, s) := by
  simp [fieldResult, good]

/-- Zero bytes up to the end of the stream, no more than the loop's rounds. -/
theorem paddingLoop_zeros (k : Nat) : ∀ (count size : Nat) (s : IStream), s.good = true →
    s.rest = List.replicate k 0 → k ≤ count →
      paddingLoop count size s = (some (size + k), { s with rest := [] }) := by
  induction k with
  | zero =>
    intro count size s good zeros _
    have same : s = { s with rest := [] } := by
      cases s
      simp_all
    cases count with
    | zero => rw [paddingLoop, Nat.add_zero, ← same]
    | succ count =>
      rw [paddingLoop, if_pos (by simp [IStream.peekIsEof, zeros]), Nat.add_zero, ← same]
  | succ k inductionHypothesis =>
    intro count size s good zeros fits
    obtain ⟨count, rfl⟩ : ∃ c, count = c + 1 := ⟨count - 1, by omega⟩
    have byte : serializeUint8 s = (0, { s with rest := List.replicate k 0 }) := by
      simp [serializeUint8, IStream.get_cons good (by rw [zeros, List.replicate_succ])]
    rw [paddingLoop, if_neg (by rw [IStream.peekIsEof_cons good (by rw [zeros, List.replicate_succ])]; decide)]
    simp only [byte, ne_eq, not_true_eq_false, if_false]
    rw [inductionHypothesis count (size + 1) _ (by simpa using good) rfl (by omega)]
    simp [Nat.add_assoc, Nat.add_comm 1 k]

theorem readPadding_zeros {s : IStream} (good : s.good = true) {size : Nat}
    (serializable : 1 ≤ size ∧ size ≤ TX_EXTRA_PADDING_MAX_COUNT)
    (zeros : s.rest = List.replicate (size - 1) 0) :
    readPadding s = (some size, { s with rest := [] }) := by
  have loop := paddingLoop_zeros (size - 1) TX_EXTRA_PADDING_MAX_COUNT 1 s good zeros (by omega)
  rw [Nat.add_sub_cancel' serializable.1] at loop
  simp [readPadding, loop, serializable.2]

/-- A field's tag read, the field of that type read after it. -/
theorem readTxExtraField_of_tag {s : IStream} (good : s.good = true) {tag : UInt8}
    {payload rest : List UInt8} {field : TxExtraField} (written : s.rest = tag :: (payload ++ rest))
    (read : readFieldOfTag tag.toNat { s with rest := payload ++ rest } =
      (some field, { s with rest := rest })) :
    readTxExtraField s = (some field, { s with rest := rest }) := by
  have first : serializeUint8 s = (tag.toNat, { s with rest := payload ++ rest }) := by
    simp [serializeUint8, IStream.get_cons good written]
  simp only [readTxExtraField, first, read]

theorem readMergeMiningHelper_write {depth : Nat} (fits : depth < 2 ^ 64) (merkleRoot : Pod 32) :
    readMergeMiningHelper (IStream.ofBytes (writeVarint depth ++ merkleRoot.bytes)) =
      some (depth, merkleRoot) := by
  have varint : serializeVarint 64 (IStream.ofBytes (writeVarint depth ++ merkleRoot.bytes)) =
      (depth, IStream.ofBytes merkleRoot.bytes) :=
    serializeVarint_writeVarint fits rfl
  have root : readPod 32 (IStream.ofBytes merkleRoot.bytes) =
      (some merkleRoot, IStream.ofBytes []) :=
    readPod_append rfl merkleRoot (List.append_nil _).symm
  simp only [readMergeMiningHelper, varint, IStream.good_ofBytes, Bool.not_true, root,
    fieldResult_of_good (IStream.good_ofBytes []), Bool.false_eq_true, if_false]
  rfl

@[simp]
theorem toNat_tag (field : TxExtraField) : (UInt8.ofNat field.tag).toNat = field.tag := by
  cases field <;> rfl

theorem readTxExtraField_write {field : TxExtraField} (serializable : Serializable field)
    {s : IStream} (good : s.good = true) {rest : List UInt8}
    (written : s.rest = (writeTxExtraField field).getD [] ++ rest)
    (last : field.tag = TX_EXTRA_TAG_PADDING → rest = []) :
    readTxExtraField s = (some field, { s with rest := rest }) := by
  cases field with
  | padding size =>
    have noRest : rest = [] := last rfl
    subst noRest
    simp only [Serializable] at serializable
    rw [writeTxExtraField, if_neg (by unfold TX_EXTRA_PADDING_MAX_COUNT at *; omega),
      Option.getD_some, List.cons_append] at written
    apply readTxExtraField_of_tag good written
    rw [show (UInt8.ofNat TX_EXTRA_TAG_PADDING).toNat = TX_EXTRA_TAG_PADDING from rfl, readFieldOfTag,
      if_pos rfl, readPadding_zeros
        (show ({ s with rest := List.replicate (size - 1) 0 ++ [] } : IStream).good = true from good)
        serializable (List.append_nil _)]
    rfl
  | pubKey pubKey =>
    rw [writeTxExtraField, Option.getD_some, List.cons_append] at written
    apply readTxExtraField_of_tag good written
    have read := readPod_append (s := { s with rest := pubKey.bytes ++ rest }) good pubKey rfl
    rw [show (UInt8.ofNat TX_EXTRA_TAG_PUBKEY).toNat = TX_EXTRA_TAG_PUBKEY from rfl, readFieldOfTag,
      if_neg (by decide), if_pos rfl, readPubKey, read,
      fieldResult_of_good (show ({ s with rest := rest } : IStream).good = true from good)]
    rfl
  | nonce nonce =>
    simp only [Serializable] at serializable
    rw [writeTxExtraField, if_neg (Nat.not_lt.mpr serializable), Option.getD_some,
      List.cons_append] at written
    apply readTxExtraField_of_tag good written
    have read := readString_writeString (s := { s with rest := writeString nonce ++ rest }) good
      (by unfold TX_EXTRA_NONCE_MAX_COUNT at serializable; omega) rfl
    rw [show (UInt8.ofNat TX_EXTRA_NONCE).toNat = TX_EXTRA_NONCE from rfl, readFieldOfTag,
      if_neg (by decide), if_neg (by decide), if_pos rfl, readNonce, read,
      fieldResult_of_good (show ({ s with rest := rest } : IStream).good = true from good)]
    simp only [if_neg (Nat.not_lt.mpr serializable)]
    rfl
  | mergeMiningTag depth merkleRoot =>
    simp only [Serializable] at serializable
    rw [writeTxExtraField, Option.getD_some, List.cons_append] at written
    apply readTxExtraField_of_tag good written
    have short := length_writeVarint_le depth
    have read := readString_writeString
      (s := { s with rest := writeString (writeVarint depth ++ merkleRoot.bytes) ++ rest }) good
      (by rw [List.length_append, merkleRoot.length_eq]; omega) rfl
    rw [show (UInt8.ofNat TX_EXTRA_MERGE_MINING_TAG).toNat = TX_EXTRA_MERGE_MINING_TAG from rfl,
      readFieldOfTag, if_neg (by decide), if_neg (by decide), if_neg (by decide), if_pos rfl,
      readMergeMiningTag, read]
    simp only [readMergeMiningHelper_write serializable]
    rfl
  | additionalPubKeys data =>
    simp only [Serializable] at serializable
    rw [writeTxExtraField, Option.getD_some, List.cons_append] at written
    apply readTxExtraField_of_tag good written
    have read := readPodVector_writePodVector (s := { s with rest := writePodVector data ++ rest })
      good (by decide) data serializable rfl
    rw [show (UInt8.ofNat TX_EXTRA_TAG_ADDITIONAL_PUBKEYS).toNat = TX_EXTRA_TAG_ADDITIONAL_PUBKEYS
        from rfl, readFieldOfTag, if_neg (by decide), if_neg (by decide), if_neg (by decide),
      if_neg (by decide), if_pos rfl, readAdditionalPubKeys, read,
      fieldResult_of_good (show ({ s with rest := rest } : IStream).good = true from good)]
    rfl
  | mysteriousMinergate data =>
    simp only [Serializable] at serializable
    rw [writeTxExtraField, Option.getD_some, List.cons_append] at written
    apply readTxExtraField_of_tag good written
    have read := readString_writeString (s := { s with rest := writeString data ++ rest }) good
      serializable rfl
    rw [show (UInt8.ofNat TX_EXTRA_MYSTERIOUS_MINERGATE_TAG).toNat = TX_EXTRA_MYSTERIOUS_MINERGATE_TAG
        from rfl, readFieldOfTag, if_neg (by decide), if_neg (by decide), if_neg (by decide),
      if_neg (by decide), if_neg (by decide), if_pos rfl, readMysteriousMinergate, read,
      fieldResult_of_good (show ({ s with rest := rest } : IStream).good = true from good)]
    rfl

theorem writeTxExtraField_ne_nil {field : TxExtraField} (serializable : Serializable field) :
    (writeTxExtraField field).getD [] ≠ [] := by
  cases field with
  | padding size =>
    simp only [Serializable] at serializable
    rw [writeTxExtraField, if_neg (by unfold TX_EXTRA_PADDING_MAX_COUNT at *; omega)]
    simp
  | nonce nonce =>
    simp only [Serializable] at serializable
    rw [writeTxExtraField, if_neg (Nat.not_lt.mpr serializable)]
    simp
  | pubKey | mergeMiningTag | additionalPubKeys | mysteriousMinergate => simp [writeTxExtraField]

theorem Writable.tail {field : TxExtraField} {fields : List TxExtraField}
    (writable : Writable (field :: fields)) : Writable fields where
  serializable := fun other member => writable.serializable other (List.mem_cons_of_mem field member)
  paddingLast := (List.pairwise_cons.mp writable.paddingLast).2

/-- Only the last field may be padding. -/
theorem Writable.eq_nil_of_padding {field : TxExtraField} {fields : List TxExtraField}
    (writable : Writable (field :: fields)) (padding : field.tag = TX_EXTRA_TAG_PADDING) :
    fields = [] := by
  cases fields with
  | nil => rfl
  | cons next fields =>
    exact absurd padding ((List.pairwise_cons.mp writable.paddingLast).1 next List.mem_cons_self)

theorem Writable.filter {fields : List TxExtraField} (writable : Writable fields)
    (keep : TxExtraField → Bool) : Writable (fields.filter keep) where
  serializable := fun field member => writable.serializable field (List.mem_filter.mp member).1
  paddingLast := writable.paddingLast.filter keep

theorem writeTxExtraFields_eq_nil_iff {fields : List TxExtraField} (writable : Writable fields) :
    writeTxExtraFields fields = [] ↔ fields = [] := by
  cases fields with
  | nil => simp [writeTxExtraFields]
  | cons field rest =>
    simp only [writeTxExtraFields, List.flatMap_cons, List.append_eq_nil_iff, reduceCtorEq, iff_false,
      not_and]
    intro empty
    exact absurd empty (writeTxExtraField_ne_nil (writable.serializable field List.mem_cons_self))

theorem length_le_writeTxExtraFields {fields : List TxExtraField} (writable : Writable fields) :
    fields.length ≤ (writeTxExtraFields fields).length := by
  induction fields with
  | nil => simp
  | cons field rest inductionHypothesis =>
    have first := writeTxExtraField_ne_nil (writable.serializable field List.mem_cons_self)
    have later := inductionHypothesis writable.tail
    rw [writeTxExtraFields, List.flatMap_cons, List.length_append, ← writeTxExtraFields,
      List.length_cons]
    have positive := List.length_pos_of_ne_nil first
    omega

/-- The first of the written fields reads back, and the stream is at its end
exactly where no field follows. -/
theorem readTxExtraField_writeTxExtraFields {field : TxExtraField} {rest : List TxExtraField}
    (writable : Writable (field :: rest)) {s : IStream} (good : s.good = true)
    (written : s.rest = writeTxExtraFields (field :: rest)) :
    readTxExtraField s = (some field, { s with rest := writeTxExtraFields rest }) ∧
      (({ s with rest := writeTxExtraFields rest } : IStream).peekIsEof = true ↔ rest = []) := by
  constructor
  · apply readTxExtraField_write (writable.serializable field List.mem_cons_self) good
    · rw [written, writeTxExtraFields, List.flatMap_cons, ← writeTxExtraFields]
    · intro padding
      rw [writable.eq_nil_of_padding padding]
      rfl
  · simp [IStream.peekIsEof, good, writeTxExtraFields_eq_nil_iff writable.tail]

/-- The loop of `parse_tx_extra` reads the written fields one by one, with
a round for each. -/
theorem parseTxExtraLoop_write {fields : List TxExtraField} (writable : Writable fields)
    (nonempty : fields ≠ []) :
    ∀ (fuel : Nat) (s : IStream) (parsed : List TxExtraField), s.good = true →
      s.rest = writeTxExtraFields fields → fields.length ≤ fuel →
        parseTxExtraLoop fuel s parsed = some (parsed ++ fields) := by
  induction fields with
  | nil => exact absurd rfl nonempty
  | cons field rest inductionHypothesis =>
    intro fuel s parsed good written enough
    obtain ⟨fuel, rfl⟩ : ∃ f, fuel = f + 1 := ⟨fuel - 1, by simp at enough; omega⟩
    obtain ⟨read, atEnd⟩ := readTxExtraField_writeTxExtraFields writable good written
    rw [parseTxExtraLoop, read]
    by_cases last : rest = []
    · subst last
      simp [atEnd.mpr rfl, checkStreamState, good]
    · have more : ({ s with rest := writeTxExtraFields rest } : IStream).peekIsEof = false := by
        simpa using mt atEnd.mp last
      simp only [more, Bool.false_eq_true, if_false]
      rw [inductionHypothesis writable.tail last fuel { s with rest := writeTxExtraFields rest } _ good rfl
          (by simp at enough; omega),
        List.append_assoc, List.singleton_append]

/-- The loop of `remove_field_from_tx_extra` writes back the written fields of
the other types. -/
theorem removeFieldLoop_write (tag : Nat) {fields : List TxExtraField} (writable : Writable fields)
    (nonempty : fields ≠ []) :
    ∀ (fuel : Nat) (s : IStream) (out : List UInt8), s.good = true →
      s.rest = writeTxExtraFields fields → fields.length ≤ fuel →
        removeFieldLoop tag fuel s out =
          some (out ++ writeTxExtraFields (fields.filter fun field => field.tag ≠ tag)) := by
  induction fields with
  | nil => exact absurd rfl nonempty
  | cons field rest inductionHypothesis =>
    intro fuel s out good written enough
    obtain ⟨fuel, rfl⟩ : ∃ f, fuel = f + 1 := ⟨fuel - 1, by simp at enough; omega⟩
    obtain ⟨read, atEnd⟩ := readTxExtraField_writeTxExtraFields writable good written
    -- what the round writes for this field, kept or not
    have kept : (if field.tag ≠ tag then out ++ (writeTxExtraField field).getD [] else out) ++
        writeTxExtraFields (rest.filter fun field => field.tag ≠ tag) =
        out ++ writeTxExtraFields ((field :: rest).filter fun field => field.tag ≠ tag) := by
      by_cases other : field.tag ≠ tag
      · simp [other, writeTxExtraFields]
      · simp [other, writeTxExtraFields]
    rw [removeFieldLoop, read]
    by_cases last : rest = []
    · subst last
      simp only [atEnd.mpr rfl, checkStreamState, IStream.good_with_rest, good, Bool.and_self,
        if_true]
      rw [← kept]
      simp [writeTxExtraFields]
    · have more : ({ s with rest := writeTxExtraFields rest } : IStream).peekIsEof = false := by
        simpa using mt atEnd.mp last
      simp only [more, Bool.false_eq_true, if_false]
      rw [inductionHypothesis writable.tail last fuel { s with rest := writeTxExtraFields rest } _ good rfl
          (by simp at enough; omega), kept]

theorem parseTxExtra_writeTxExtraFields {fields : List TxExtraField} (writable : Writable fields) :
    parseTxExtra (writeTxExtraFields fields) = some fields := by
  by_cases empty : fields = []
  · subst empty
    rfl
  · have bytes : writeTxExtraFields fields ≠ [] := mt (writeTxExtraFields_eq_nil_iff writable).mp empty
    rw [parseTxExtra, if_neg (by simpa using bytes),
      parseTxExtraLoop_write writable empty _ _ [] rfl rfl (length_le_writeTxExtraFields writable),
      List.nil_append]

theorem removeFieldFromTxExtra_writeTxExtraFields {fields : List TxExtraField}
    (writable : Writable fields) (tag : Nat) :
    removeFieldFromTxExtra (writeTxExtraFields fields) tag =
      some (writeTxExtraFields (fields.filter fun field => field.tag ≠ tag)) := by
  by_cases empty : fields = []
  · subst empty
    rfl
  · have bytes : writeTxExtraFields fields ≠ [] := mt (writeTxExtraFields_eq_nil_iff writable).mp empty
    rw [removeFieldFromTxExtra, if_neg (by simpa using bytes),
      removeFieldLoop_write tag writable empty _ _ [] rfl rfl (length_le_writeTxExtraFields writable),
      List.nil_append]

/-- Fields written by the storing serializer, with padding only last, are what
`parse_tx_extra` reads back; `remove_field_from_tx_extra` leaves an extra
that reads back as the fields of the other types, in their order. -/
theorem tx_extra_round_trip (fields : List TxExtraField) (writable : Writable fields) (tag : Nat) :
    parseTxExtra (writeTxExtraFields fields) = some fields ∧
      ∃ extra, removeFieldFromTxExtra (writeTxExtraFields fields) tag = some extra ∧
        parseTxExtra extra = some (fields.filter fun field => field.tag ≠ tag) :=
  ⟨parseTxExtra_writeTxExtraFields writable, _, removeFieldFromTxExtra_writeTxExtraFields writable tag,
    parseTxExtra_writeTxExtraFields (writable.filter _)⟩

theorem tx_extra_round_trip_on_fields :
    parseTxExtra (writeTxExtraFields [.pubKey ⟨List.replicate 32 7, rfl⟩, .nonce [1, 2, 3],
        .additionalPubKeys [⟨List.replicate 32 9, rfl⟩], .padding 3]) =
        some [.pubKey ⟨List.replicate 32 7, rfl⟩, .nonce [1, 2, 3],
          .additionalPubKeys [⟨List.replicate 32 9, rfl⟩], .padding 3] ∧
      ∃ extra, removeFieldFromTxExtra (writeTxExtraFields [.pubKey ⟨List.replicate 32 7, rfl⟩,
          .nonce [1, 2, 3], .additionalPubKeys [⟨List.replicate 32 9, rfl⟩], .padding 3])
          TX_EXTRA_NONCE = some extra ∧
        parseTxExtra extra = some ([.pubKey ⟨List.replicate 32 7, rfl⟩, .nonce [1, 2, 3],
          .additionalPubKeys [⟨List.replicate 32 9, rfl⟩], .padding 3].filter fun field =>
            field.tag ≠ TX_EXTRA_NONCE) :=
  tx_extra_round_trip _ ⟨by decide, by decide⟩ TX_EXTRA_NONCE

end ElectroneumClassic.Cryptonote
