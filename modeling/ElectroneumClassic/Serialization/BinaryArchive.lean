import ElectroneumClassic.Lib.IStream
import ElectroneumClassic.Serialization.Varint

/-!
# The binary archive

`binary_archive<false>` of `serialization/binary_archive.h` reads from an
input stream, `binary_archive<true>` writes to an output stream, here the list
of bytes written.  On top of them, the loading and storing `do_serialize` of
`std::string` (`string.h`), of blob types such as keys and hashes
(`BLOB_SERIALIZER`) and of vectors of blobs (`container.h`).

Varints are read through the stream's buffer with `read_varint`, whose return
value `serialize_uvarint` ignores: a non-canonical or truncated varint reads
as the value accumulated so far and leaves the stream good.  The readers that
check sizes do so against `remaining_bytes`, which is `0` on a stream that is
not good.

What was written reads back: `serializeVarint_writeVarint`,
`readString_writeString`, `readPod_append` and `readPodVector_writePodVector`,
each on a good stream with the written bytes in front, leaving what follows.
-/

namespace ElectroneumClassic.Serialization

open Tools

/-- A value of a blob type: its `sizeof` bytes, as `serialize_blob` copies
them. -/
structure Pod (n : Nat) where
  bytes : List UInt8
  length_eq : bytes.length = n
  deriving DecidableEq, Repr

/-! ## Reading -/

/-- `serialize_varint` of a `bits`-wide unsigned value. -/
def serializeVarint (bits : Nat) (s : IStream) : Nat × IStream :=
  let r := readVarint bits s.rest
  (r.value, { s with rest := r.rest })

/-- `serialize_uint` of a one-byte value, the variant tags and `uint8_t`
fields. -/
def serializeUint8 (s : IStream) : Nat × IStream :=
  let (c, s) := s.get
  (c.toNat, s)

/-- `remaining_bytes()`. -/
def remainingBytes (s : IStream) : Nat := if s.good then s.rest.length else 0

/-- The loading `do_serialize` of a blob type: `serialize_blob` of its `n`
bytes.  The source returns `true` with the value partly read where the stream
runs out; its callers then find the stream failed, here the value is `none`. -/
def readPod (n : Nat) (s : IStream) : Option (Pod n) × IStream :=
  let (bytes, s) := s.read n
  if h : bytes.length = n then (some ⟨bytes, h⟩, s) else (none, s)

/-- The loading `do_serialize` of `std::string`: a varint size, checked
against the bytes remaining, then that many bytes. -/
def readString (s : IStream) : Option (List UInt8) × IStream :=
  let (size, s) := serializeVarint 64 s
  if remainingBytes s < size then (none, s.setFail)
  else
    let (buf, s) := s.read size
    (some buf, s)

/-- The element loop of `do_serialize_container` for a vector of blobs. -/
def readPodVectorLoop (n : Nat) : Nat → IStream → Option (List (Pod n)) × IStream
  | 0, s => (some [], s)
  | count + 1, s =>
    match readPod n s with
    | (none, s) => (none, s)
    | (some e, s) =>
      if !s.good then (none, s)
      else
        match readPodVectorLoop n count s with
        | (some es, s) => (some (e :: es), s)
        | (none, s) => (none, s)

/-- The loading `do_serialize_container` for a vector of blobs: a varint count,
checked against the bytes remaining (one byte an element), then the blobs. -/
def readPodVector (n : Nat) (s : IStream) : Option (List (Pod n)) × IStream :=
  let (cnt, s) := serializeVarint 64 s
  if !s.good then (none, s)
  else if remainingBytes s < cnt then (none, s.setFail)
  else readPodVectorLoop n cnt s

/-- `check_stream_state` of a reading archive: the stream is good and at its
end. -/
def checkStreamState (s : IStream) : Bool := s.good && s.peekIsEof

/-! ## Writing -/

/-- The storing `do_serialize` of `std::string`. -/
def writeString (str : List UInt8) : List UInt8 := writeVarint str.length ++ str

/-- The storing `do_serialize_container` for a vector of blobs. -/
def writePodVector {n : Nat} (v : List (Pod n)) : List UInt8 :=
  writeVarint v.length ++ (v.map (·.bytes)).flatten

/-! ## What was written reads back -/

variable {s : IStream}

theorem serializeVarint_writeVarint {bits value : Nat} (hfit : value < 2 ^ bits) {rest : List UInt8}
    (hrest : s.rest = writeVarint value ++ rest) :
    serializeVarint bits s = (value, { s with rest := rest }) := by
  simp [serializeVarint, hrest, readVarint_writeVarint hfit]

/-- A varint read leaves the state bits alone. -/
@[simp] theorem good_serializeVarint (bits : Nat) (s : IStream) :
    (serializeVarint bits s).2.good = s.good := rfl

theorem readPod_append (hgood : s.good = true) {n : Nat} (p : Pod n) {rest : List UInt8}
    (hrest : s.rest = p.bytes ++ rest) : readPod n s = (some p, { s with rest := rest }) := by
  simp [readPod, IStream.read_append hgood hrest p.length_eq, p.length_eq]

theorem readString_writeString (hgood : s.good = true) {str rest : List UInt8}
    (hsize : str.length < 2 ^ 64) (hrest : s.rest = writeString str ++ rest) :
    readString s = (some str, { s with rest := rest }) := by
  have hvarint : serializeVarint 64 s = (str.length, { s with rest := str ++ rest }) :=
    serializeVarint_writeVarint hsize (by rw [hrest, writeString, List.append_assoc])
  have hroom : ¬remainingBytes { s with rest := str ++ rest } < str.length := by
    simp [remainingBytes, hgood]
  simp only [readString, hvarint, hroom, if_false]
  rw [IStream.read_append (by simpa using hgood) (rfl : (str ++ rest) = str ++ rest) rfl]

theorem readPodVectorLoop_append {n : Nat} (v : List (Pod n)) :
    ∀ (s : IStream) (rest : List UInt8), s.good = true → s.rest = (v.map (·.bytes)).flatten ++ rest →
      readPodVectorLoop n v.length s = (some v, { s with rest := rest }) := by
  induction v with
  | nil =>
    intro s rest _ hrest
    have hs : s = { s with rest := rest } := by cases s; simp_all
    simp only [List.length_nil, readPodVectorLoop]
    rw [← hs]
  | cons e v inductionHypothesis =>
    intro s rest hgood hrest
    have hhead : readPod n s = (some e, { s with rest := (v.map (·.bytes)).flatten ++ rest }) :=
      readPod_append hgood e (by simp [hrest])
    have htail := inductionHypothesis { s with rest := (v.map (·.bytes)).flatten ++ rest } rest
      (by simpa using hgood) rfl
    simp only [List.length_cons, readPodVectorLoop, hhead, IStream.good_with_rest, hgood]
    simp [htail]

theorem length_flatten_pods {n : Nat} (v : List (Pod n)) : ((v.map (·.bytes)).flatten).length = n * v.length := by
  induction v with
  | nil => rfl
  | cons e v inductionHypothesis =>
    simp only [List.map_cons, List.flatten_cons, List.length_append, e.length_eq, inductionHypothesis,
      List.length_cons]
    ring

/-- A vector of blobs of a positive size reads back; the sanity check passes
since every element takes at least one byte. -/
theorem readPodVector_writePodVector (hgood : s.good = true) {n : Nat} (hn : 0 < n) (v : List (Pod n))
    (hcount : v.length < 2 ^ 64) {rest : List UInt8} (hrest : s.rest = writePodVector v ++ rest) :
    readPodVector n s = (some v, { s with rest := rest }) := by
  have hvarint : serializeVarint 64 s = (v.length, { s with rest := (v.map (·.bytes)).flatten ++ rest }) :=
    serializeVarint_writeVarint hcount (by rw [hrest, writePodVector, List.append_assoc])
  have hroom : ¬remainingBytes { s with rest := (v.map (·.bytes)).flatten ++ rest } < v.length := by
    have hbytes : v.length ≤ n * v.length := Nat.le_mul_of_pos_left _ hn
    simp only [remainingBytes, IStream.good_with_rest, hgood, if_true, List.length_append,
      length_flatten_pods]
    omega
  simp only [readPodVector, hvarint, IStream.good_with_rest, hgood, Bool.not_true, hroom]
  exact readPodVectorLoop_append v _ rest (by simpa using hgood) rfl

/-! ## Reading only moves forward -/

theorem rest_serializeVarint_suffix (bits : Nat) (s : IStream) : (serializeVarint bits s).2.rest <:+ s.rest := by
  obtain ⟨front, -, hcases⟩ := readVarintLoop_stops bits s.rest 0 0 0
  simp only [serializeVarint, readVarint]
  rcases hcases with ⟨-, hend⟩ | ⟨last, hsplit, -⟩
  · rw [hend]
    exact List.nil_suffix
  · exact ⟨front ++ [last], by rw [List.append_assoc, List.singleton_append, ← hsplit]⟩

theorem rest_serializeUint8_suffix (s : IStream) : (serializeUint8 s).2.rest <:+ s.rest :=
  s.rest_get_suffix

theorem rest_readPod_suffix (n : Nat) (s : IStream) : (readPod n s).2.rest <:+ s.rest := by
  have hread := IStream.rest_read_suffix n s
  rcases hpair : s.read n with ⟨bytes, s'⟩
  rw [hpair] at hread
  simp only [readPod, hpair]
  split_ifs <;> exact hread

theorem rest_readString_suffix (s : IStream) : (readString s).2.rest <:+ s.rest := by
  have hvarint := rest_serializeVarint_suffix 64 s
  rcases hpair : serializeVarint 64 s with ⟨size, s'⟩
  rw [hpair] at hvarint
  simp only [readString, hpair]
  split_ifs
  · exact hvarint
  · exact (IStream.rest_read_suffix _ _).trans hvarint

theorem rest_readPodVectorLoop_suffix (n : Nat) :
    ∀ (count : Nat) (s : IStream), (readPodVectorLoop n count s).2.rest <:+ s.rest
  | 0, s => List.suffix_refl _
  | count + 1, s => by
    have hhead := rest_readPod_suffix n s
    simp only [readPodVectorLoop]
    split
    · rename_i s' hpod
      rw [hpod] at hhead
      exact hhead
    · rename_i s' hpod
      rw [hpod] at hhead
      split
      · exact hhead
      · have htail := rest_readPodVectorLoop_suffix n count s'
        split <;> rename_i hloop <;> rw [hloop] at htail <;> exact htail.trans hhead

theorem rest_readPodVector_suffix (n : Nat) (s : IStream) : (readPodVector n s).2.rest <:+ s.rest := by
  have hvarint := rest_serializeVarint_suffix 64 s
  rcases hpair : serializeVarint 64 s with ⟨cnt, s'⟩
  rw [hpair] at hvarint
  simp only [readPodVector, hpair]
  split_ifs
  · exact hvarint
  · exact hvarint
  · exact (rest_readPodVectorLoop_suffix n _ _).trans hvarint

end ElectroneumClassic.Serialization
