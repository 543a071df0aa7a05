import Mathlib.Data.List.Basic

/-!
# Input streams over a byte string

An `std::istringstream` as the unformatted input functions see it: the bytes
not yet extracted, and the `eofbit` and `failbit` of its state.  A stream is
*good* while neither bit is set; an input function on a stream that is not
good extracts nothing and sets `failbit` (its sentry fails), and one that runs
out of bytes sets both bits.

* `get` extracts one byte, `read n` up to `n` bytes.
* `peekIsEof` is the idiom that saves the state, compares `peek()` with `EOF`
  and restores the state: it asks whether the next extraction would find the
  end, and changes nothing.
* `setFail` is `setstate(failbit)`.

A reader that goes through the stream's buffer directly (an
`istreambuf_iterator`) takes bytes from `rest` without looking at the state
bits, and leaves them as they are.

Each operation has one equation for a good stream with the bytes it extracts
in front (`get_cons`, `read_append`), and a stream that is not good stays so.
-/

/-- An input stream over a byte string. -/
structure IStream where
  rest : List UInt8
  eofBit : Bool
  failBit : Bool
  deriving DecidableEq, Repr

namespace IStream

/-- A fresh stream over `bytes`. -/
def ofBytes (bytes : List UInt8) : IStream := ⟨bytes, false, false⟩

/-- `good()`. -/
def good (s : IStream) : Bool := !s.eofBit && !s.failBit

/-- `setstate(failbit)`. -/
def setFail (s : IStream) : IStream := { s with failBit := true }

/-- `get(c)`.  Where nothing is extracted the byte is `0`: the callers leave
their variable unset there, and read it only on a stream that is good. -/
def get (s : IStream) : UInt8 × IStream :=
  if !s.good then (0, s.setFail)
  else
    match s.rest with
    | [] => (0, { s with eofBit := true, failBit := true })
    | byte :: rest => (byte, { s with rest := rest })

/-- `read(buf, n)`: the bytes extracted, `n` of them unless the string ends
first, which sets `eofbit` and `failbit`. -/
def read (n : Nat) (s : IStream) : List UInt8 × IStream :=
  if !s.good then ([], s.setFail)
  else if n ≤ s.rest.length then (s.rest.take n, { s with rest := s.rest.drop n })
  else (s.rest, { s with rest := [], eofBit := true, failBit := true })

/-- `EOF == peek()` between saving and restoring the state. -/
def peekIsEof (s : IStream) : Bool := !s.good || s.rest.isEmpty

variable {s : IStream}

@[simp] theorem good_ofBytes (bytes : List UInt8) : (ofBytes bytes).good = true := rfl

@[simp] theorem rest_ofBytes (bytes : List UInt8) : (ofBytes bytes).rest = bytes := rfl

@[simp] theorem good_setFail (s : IStream) : s.setFail.good = false := by
  simp [setFail, good]

@[simp] theorem rest_setFail (s : IStream) : s.setFail.rest = s.rest := rfl

/-- A good stream with other bytes in it is the fresh stream over them. -/
theorem eq_ofBytes_of_good (hgood : s.good = true) : s = ofBytes s.rest := by
  cases s with
  | mk rest eofBit failBit =>
    cases eofBit <;> cases failBit <;> simp_all [good, ofBytes]

@[simp] theorem good_with_rest (bytes : List UInt8) :
    ({ s with rest := bytes } : IStream).good = s.good := rfl

theorem get_cons (hgood : s.good = true) {byte : UInt8} {rest : List UInt8}
    (hrest : s.rest = byte :: rest) : s.get = (byte, { s with rest := rest }) := by
  simp [get, hgood, hrest]

theorem get_of_not_good (hbad : s.good = false) : s.get = (0, s.setFail) := by
  simp [get, hbad]

theorem read_append (hgood : s.good = true) {front rest : List UInt8} {n : Nat}
    (hrest : s.rest = front ++ rest) (hlength : front.length = n) :
    s.read n = (front, { s with rest := rest }) := by
  subst hlength
  simp [read, hgood, hrest]

/-- Reading more bytes than are left fails the stream. -/
theorem read_of_lt (hshort : s.rest.length < n) : (s.read n).2.good = false := by
  unfold read
  split
  · exact good_setFail s
  · rw [if_neg (by omega)]
    simp [good]

theorem read_of_not_good (hbad : s.good = false) : s.read n = ([], s.setFail) := by
  simp [read, hbad]

@[simp] theorem peekIsEof_nil (s : IStream) : ({ s with rest := [] } : IStream).peekIsEof = true := by
  simp [peekIsEof]

theorem peekIsEof_cons (hgood : s.good = true) {byte : UInt8} {rest : List UInt8}
    (hrest : s.rest = byte :: rest) : s.peekIsEof = false := by
  simp [peekIsEof, hgood, hrest]

theorem peekIsEof_of_not_good (hbad : s.good = false) : s.peekIsEof = true := by
  simp [peekIsEof, hbad]

/-! ## Extraction only moves forward -/

theorem rest_get_suffix (s : IStream) : s.get.2.rest <:+ s.rest := by
  unfold get
  split
  · exact List.suffix_refl _
  · split
    · exact List.suffix_refl _
    · rename_i byte rest hrest
      rw [hrest]
      exact List.suffix_cons byte rest

theorem rest_read_suffix (n : Nat) (s : IStream) : (s.read n).2.rest <:+ s.rest := by
  unfold read
  split
  · exact List.suffix_refl _
  · split
    · exact List.drop_suffix n s.rest
    · exact List.nil_suffix

end IStream
