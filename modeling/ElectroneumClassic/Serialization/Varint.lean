import Mathlib.Tactic.Ring

/-!
# Varints

`tools::write_varint` and `tools::read_varint<bits>` of `common/varint.h`.
The writer emits seven bits a byte, low bits first, with the high bit set on
every byte but the last.  The reader ORs the payloads in at shifts
`0, 7, 14, …` into a `bits`-wide value and returns the number of bytes read,
or one of two error codes: `EVARINT_OVERFLOW` for a byte that would carry the
value past `bits`, `EVARINT_REPRESENT` for a zero byte after the first.  At
the end of the input it returns the count read so far, whatever the last byte
said.

What the reader accepts is described in two parts:

* `readVarint_writeVarint`: the writer's bytes read back as the value, their
  length as the count, with the following bytes left alone;
* `readVarintLoop_cases`: a read that returns a count consumed either the
  writer's bytes for the value it returns, or the whole rest of the input,
  every byte with its high bit set.  The second case is a truncated encoding,
  and the reader reports it as a success.
-/

namespace ElectroneumClassic.Tools

/-- `EVARINT_OVERFLOW`. -/
def EVARINT_OVERFLOW : Int := -1

/-- `EVARINT_REPRESENT`: a non-canonical representation. -/
def EVARINT_REPRESENT : Int := -2

/-- `write_varint`. -/
def writeVarint (i : Nat) : List UInt8 :=
  if i ≥ 0x80 then UInt8.ofNat ((i &&& 0x7f) ||| 0x80) :: writeVarint (i >>> 7)
  else [UInt8.ofNat i]
termination_by i
decreasing_by
  rw [Nat.shiftRight_eq_div_pow]
  omega

/-- What `read_varint` leaves: its return value, the value it wrote and the
input after the iterator it advanced. -/
structure VarintRead where
  code : Int
  value : Nat
  rest : List UInt8
  deriving DecidableEq, Repr

/-- The loop of `read_varint<bits>` at `shift`, after `read` bytes, with
`write` accumulated; `write` is `bits` wide. -/
def readVarintLoop (bits : Nat) : Nat → Nat → Nat → List UInt8 → VarintRead
  | _, read, write, [] => ⟨read, write, []⟩
  | shift, read, write, byte :: rest =>
    if shift + 7 ≥ bits ∧ byte.toNat ≥ 2 ^ (bits - shift) then ⟨EVARINT_OVERFLOW, write, rest⟩
    else if byte = 0 ∧ shift ≠ 0 then ⟨EVARINT_REPRESENT, write, rest⟩
    else
      let write := (write ||| (byte.toNat &&& 0x7f) <<< shift) % 2 ^ bits
      -- no next byte
      if byte.toNat &&& 0x80 = 0 then ⟨read + 1, write, rest⟩
      else readVarintLoop bits (shift + 7) (read + 1) write rest

/-- `read_varint<bits>(first, last, write)`. -/
def readVarint (bits : Nat) (input : List UInt8) : VarintRead := readVarintLoop bits 0 0 0 input

/-! ## The bit operations as arithmetic -/

theorem payload_eq_mod (byte : Nat) : byte &&& 0x7f = byte % 128 :=
  Nat.and_two_pow_sub_one_eq_mod byte 7

theorem continuation_eq_zero_iff {byte : Nat} (hbyte : byte < 256) : byte &&& 0x80 = 0 ↔ byte < 128 :=
  (by decide +kernel : ∀ b : Fin 256, (b.val &&& 0x80 = 0 ↔ b.val < 128)) ⟨byte, hbyte⟩

theorem or_high_bit {byte : Nat} (hbyte : byte < 128) : byte ||| 0x80 = byte + 128 := by
  have hor := Nat.two_pow_add_eq_or_of_lt (i := 7) hbyte 1
  simp only [Nat.reducePow, Nat.mul_one] at hor
  rw [Nat.or_comm]
  omega

/-- OR-ing a payload in above an accumulator that fits below it adds. -/
theorem or_shiftLeft_eq_add {acc shift : Nat} (hacc : acc < 2 ^ shift) (payload : Nat) :
    acc ||| payload <<< shift = acc + payload * 2 ^ shift := by
  rw [Nat.shiftLeft_eq, Nat.or_comm, Nat.mul_comm, ← Nat.two_pow_add_eq_or_of_lt hacc, Nat.add_comm]

/-- A positive payload at `shift` that stays below `2 ^ bits` leaves room for
it: it is below `2 ^ (bits - shift)`. -/
theorem lt_two_pow_sub_of_mul_lt {value shift bits : Nat} (hpos : 0 < value)
    (hfit : value * 2 ^ shift < 2 ^ bits) : value < 2 ^ (bits - shift) := by
  by_cases hshift : shift ≤ bits
  · have hsplit : 2 ^ bits = 2 ^ (bits - shift) * 2 ^ shift := by
      rw [← Nat.pow_add, Nat.sub_add_cancel hshift]
    rw [hsplit] at hfit
    exact Nat.lt_of_mul_lt_mul_right hfit
  · have hsmall : 2 ^ bits ≤ 2 ^ shift := Nat.pow_le_pow_right (by decide) (by omega)
    have hlarge : 2 ^ shift ≤ value * 2 ^ shift := Nat.le_mul_of_pos_left _ hpos
    omega

/-- A payload that passed the overflow check fits above an accumulator that
fits. -/
theorem add_payload_lt {acc shift bits payload : Nat} (hacc : acc < 2 ^ shift) (haccBits : acc < 2 ^ bits)
    (hpayload : payload < 128) (hroom : shift + 7 ≥ bits → payload < 2 ^ (bits - shift)) :
    acc + payload * 2 ^ shift < 2 ^ bits := by
  rcases Nat.eq_zero_or_pos payload with hzero | hpos
  · simpa [hzero] using haccBits
  have hbelow : acc + payload * 2 ^ shift < (payload + 1) * 2 ^ shift := by
    rw [Nat.succ_mul]
    omega
  by_cases hlow : shift + 7 < bits
  · -- the payload is below `2 ^ 7`, and `shift + 7` bits fit
    have hcap : (payload + 1) * 2 ^ shift ≤ 2 ^ 7 * 2 ^ shift := Nat.mul_le_mul_right _ (by omega)
    have hwide : 2 ^ 7 * 2 ^ shift ≤ 2 ^ bits := by
      rw [← Nat.pow_add]
      exact Nat.pow_le_pow_right (by decide) (by omega)
    omega
  · -- the overflow check left a payload below `2 ^ (bits - shift)`
    have hroom := hroom (by omega)
    have hshift : shift < bits := by
      by_contra hge
      rw [Nat.sub_eq_zero_of_le (by omega)] at hroom
      omega
    have hcap : (payload + 1) * 2 ^ shift ≤ 2 ^ (bits - shift) * 2 ^ shift := Nat.mul_le_mul_right _ hroom
    rw [← Nat.pow_add, Nat.sub_add_cancel (by omega)] at hcap
    omega

/-! ## The writer -/

theorem writeVarint_of_lt {i : Nat} (hsmall : i < 128) : writeVarint i = [UInt8.ofNat i] := by
  rw [writeVarint, if_neg (by omega)]

theorem writeVarint_of_ge {i : Nat} (hlarge : 128 ≤ i) :
    writeVarint i = UInt8.ofNat (i % 128 + 128) :: writeVarint (i / 128) := by
  rw [writeVarint, if_pos hlarge, Nat.shiftRight_eq_div_pow, payload_eq_mod,
    or_high_bit (Nat.mod_lt i (by decide))]

theorem writeVarint_ne_nil (i : Nat) : writeVarint i ≠ [] := by
  by_cases hsmall : i < 128
  · simp [writeVarint_of_lt hsmall]
  · simp [writeVarint_of_ge (Nat.le_of_not_lt hsmall)]

/-- Each byte after the first takes seven bits of the value off. -/
theorem length_writeVarint_le (i : Nat) : (writeVarint i).length ≤ i / 128 + 1 := by
  induction i using Nat.strong_induction_on with
  | _ i inductionHypothesis =>
    by_cases small : i < 128
    · rw [writeVarint_of_lt small]
      simp
    · have large : 128 ≤ i := Nat.le_of_not_lt small
      have shorter := inductionHypothesis (i / 128) (by omega)
      rw [writeVarint_of_ge large, List.length_cons]
      omega

/-! ## The writer's bytes read back -/

theorem readVarintLoop_writeVarint (bits : Nat) (rest : List UInt8) :
    ∀ (value shift read acc : Nat), acc < 2 ^ shift → acc + value * 2 ^ shift < 2 ^ bits →
      (shift ≠ 0 → 0 < value) →
      readVarintLoop bits shift read acc (writeVarint value ++ rest) =
        ⟨read + (writeVarint value).length, acc + value * 2 ^ shift, rest⟩ := by
  intro value
  induction value using Nat.strong_induction_on with
  | _ value inductionHypothesis =>
    intro shift read acc hacc hfit hpos
    by_cases hsmall : value < 128
    · -- the last byte: the payload is the whole value
      have hbyte : (UInt8.ofNat value).toNat = value := by
        rw [UInt8.toNat_ofNat', Nat.mod_eq_of_lt (by omega)]
      have hroom : shift + 7 ≥ bits → value < 2 ^ (bits - shift) := by
        intro _
        rcases Nat.eq_zero_or_pos value with hzero | hvalue
        · rw [hzero]; exact Nat.two_pow_pos _
        · exact lt_two_pow_sub_of_mul_lt hvalue (by omega)
      have hnonzero : ¬(UInt8.ofNat value = 0 ∧ shift ≠ 0) := by
        rintro ⟨hzero, hshift⟩
        have := congrArg UInt8.toNat hzero
        rw [hbyte] at this
        have := hpos hshift
        simp_all
      rw [writeVarint_of_lt hsmall, List.singleton_append]
      simp only [readVarintLoop, hbyte]
      rw [if_neg (fun hover => absurd (hroom hover.1) (by omega)), if_neg hnonzero,
        if_pos ((continuation_eq_zero_iff (by omega)).2 hsmall), payload_eq_mod,
        Nat.mod_eq_of_lt hsmall, or_shiftLeft_eq_add hacc, Nat.mod_eq_of_lt hfit]
      simp
    · -- a byte with the high bit set, then the writer's bytes for `value / 128`
      have hlarge : 128 ≤ value := by omega
      have hbyte : (UInt8.ofNat (value % 128 + 128)).toNat = value % 128 + 128 := by
        rw [UInt8.toNat_ofNat', Nat.mod_eq_of_lt (by omega)]
      have hlow : shift + 7 < bits := by
        by_contra hhigh
        have hroom := lt_two_pow_sub_of_mul_lt (by omega : 0 < value) (by omega : value * 2 ^ shift < 2 ^ bits)
        have hseven : 2 ^ (bits - shift) ≤ 2 ^ 7 := Nat.pow_le_pow_right (by decide) (by omega)
        omega
      have hnonzero : ¬(UInt8.ofNat (value % 128 + 128) = 0 ∧ shift ≠ 0) := by
        rintro ⟨hzero, -⟩
        have := congrArg UInt8.toNat hzero
        rw [hbyte] at this
        simp at this
      have hsplit : value = value % 128 + 128 * (value / 128) := (Nat.mod_add_div value 128).symm
      have hshift : 2 ^ (shift + 7) = 128 * 2 ^ shift := by rw [Nat.pow_add, Nat.mul_comm]
      have hstep : acc + value % 128 * 2 ^ shift + value / 128 * 2 ^ (shift + 7) =
          acc + value * 2 ^ shift := by
        rw [hshift]
        conv_rhs => rw [hsplit]
        ring
      have hnext : acc + value % 128 * 2 ^ shift < 2 ^ (shift + 7) := by
        have hmod : value % 128 ≤ 127 := by omega
        have := Nat.mul_le_mul_right (2 ^ shift) hmod
        omega
      have hfitNext : acc + value % 128 * 2 ^ shift < 2 ^ bits := by
        have := Nat.mul_le_mul_right (value / 128) (Nat.le_of_lt (Nat.two_pow_pos (shift + 7)))
        omega
      rw [writeVarint_of_ge hlarge, List.cons_append]
      simp only [readVarintLoop, hbyte]
      rw [if_neg (fun hover => absurd hover.1 (by omega)), if_neg hnonzero,
        if_neg (fun hstop => absurd ((continuation_eq_zero_iff (by omega)).1 hstop) (by omega)),
        payload_eq_mod, Nat.add_mod_right, Nat.mod_mod, or_shiftLeft_eq_add hacc, Nat.mod_eq_of_lt hfitNext,
        inductionHypothesis (value / 128) (by omega) (shift + 7) (read + 1) _ hnext (by omega) (fun _ => by omega),
        hstep, List.length_cons]
      congr 1
      omega

/-- `read_varint` reads the writer's bytes back. -/
theorem readVarint_writeVarint {bits value : Nat} (hfit : value < 2 ^ bits) (rest : List UInt8) :
    readVarint bits (writeVarint value ++ rest) = ⟨(writeVarint value).length, value, rest⟩ := by
  have := readVarintLoop_writeVarint bits rest value 0 0 0 (by decide) (by simpa using hfit)
    (fun hzero => absurd rfl hzero)
  simpa [readVarint] using this

/-! ## What a successful read consumed -/

/-- A run of the loop that returns a count consumed, from where it started,
either the writer's bytes for a value whose payload it added, or the rest of
the input with the high bit set on every byte. -/
theorem readVarintLoop_cases (bits : Nat) : ∀ (input : List UInt8) (shift read acc : Nat),
    acc < 2 ^ shift → acc < 2 ^ bits → 0 ≤ (readVarintLoop bits shift read acc input).code →
    ∃ consumed, input = consumed ++ (readVarintLoop bits shift read acc input).rest ∧
      (readVarintLoop bits shift read acc input).code = read + consumed.length ∧
      ((∃ value, consumed = writeVarint value ∧ (shift ≠ 0 → 0 < value) ∧
          (readVarintLoop bits shift read acc input).value = acc + value * 2 ^ shift ∧
          acc + value * 2 ^ shift < 2 ^ bits) ∨
        ((readVarintLoop bits shift read acc input).rest = [] ∧ ∀ byte ∈ consumed, 128 ≤ byte.toNat))
  | [], shift, read, acc, _, _, _ => ⟨[], rfl, by simp [readVarintLoop], .inr ⟨rfl, by simp⟩⟩
  | byte :: rest, shift, read, acc, hacc, haccBits, hcode => by
    have hbyte := byte.toNat_lt
    by_cases hover : shift + 7 ≥ bits ∧ byte.toNat ≥ 2 ^ (bits - shift)
    · have heq : readVarintLoop bits shift read acc (byte :: rest) = ⟨EVARINT_OVERFLOW, acc, rest⟩ := by
        simp only [readVarintLoop]
        rw [if_pos hover]
      rw [heq] at hcode
      exact absurd hcode (by simp [EVARINT_OVERFLOW])
    by_cases hzero : byte = 0 ∧ shift ≠ 0
    · have heq : readVarintLoop bits shift read acc (byte :: rest) = ⟨EVARINT_REPRESENT, acc, rest⟩ := by
        simp only [readVarintLoop]
        rw [if_neg hover, if_pos hzero]
      rw [heq] at hcode
      exact absurd hcode (by simp [EVARINT_REPRESENT])
    have hroom : shift + 7 ≥ bits → byte.toNat % 128 < 2 ^ (bits - shift) :=
      fun hhigh => Nat.lt_of_le_of_lt (Nat.mod_le _ _) (Nat.lt_of_not_le fun hge => hover ⟨hhigh, hge⟩)
    have hfit := add_payload_lt hacc haccBits (Nat.mod_lt _ (by decide)) hroom
    by_cases hstop : byte.toNat &&& 0x80 = 0
    · -- the last byte: the writer's one byte for its value
      have hsmall := (continuation_eq_zero_iff hbyte).1 hstop
      have heq : readVarintLoop bits shift read acc (byte :: rest) =
          ⟨read + 1, acc + byte.toNat * 2 ^ shift, rest⟩ := by
        simp only [readVarintLoop]
        rw [if_neg hover, if_neg hzero, if_pos hstop, payload_eq_mod, or_shiftLeft_eq_add hacc,
          Nat.mod_eq_of_lt hfit, Nat.mod_eq_of_lt hsmall]
      rw [heq]
      refine ⟨[byte], rfl, by simp, .inl ⟨byte.toNat, ?_, ?_, rfl, ?_⟩⟩
      · rw [writeVarint_of_lt hsmall, UInt8.ofNat_toNat]
      · intro hshift
        rcases Nat.eq_zero_or_pos byte.toNat with hnull | hpos
        · exact absurd ⟨UInt8.toNat_inj.1 hnull, hshift⟩ hzero
        · exact hpos
      · rwa [Nat.mod_eq_of_lt hsmall] at hfit
    · -- a byte with the high bit set: the loop goes on at the next shift
      have hlarge : 128 ≤ byte.toNat := Nat.le_of_not_lt fun hsmall =>
        hstop ((continuation_eq_zero_iff hbyte).2 hsmall)
      have heq : readVarintLoop bits shift read acc (byte :: rest) =
          readVarintLoop bits (shift + 7) (read + 1) (acc + byte.toNat % 128 * 2 ^ shift) rest := by
        simp only [readVarintLoop]
        rw [if_neg hover, if_neg hzero, if_neg hstop, payload_eq_mod, or_shiftLeft_eq_add hacc,
          Nat.mod_eq_of_lt hfit]
      have hnext : acc + byte.toNat % 128 * 2 ^ shift < 2 ^ (shift + 7) := by
        have hmod : byte.toNat % 128 ≤ 127 := by omega
        have := Nat.mul_le_mul_right (2 ^ shift) hmod
        rw [Nat.pow_add]
        omega
      rw [heq] at hcode ⊢
      obtain ⟨consumed, hsplit, hcount, hcases⟩ :=
        readVarintLoop_cases bits rest (shift + 7) (read + 1) _ hnext hfit hcode
      refine ⟨byte :: consumed, by rw [List.cons_append, ← hsplit], by rw [hcount, List.length_cons]; push_cast; ring, ?_⟩
      rcases hcases with ⟨value, hwritten, hpos, hvalue, hfitNext⟩ | ⟨hend, hhigh⟩
      · -- the bytes are the writer's for `byte % 128 + 128 * value`
        have hpos := hpos (by omega)
        have hpayload : 2 ^ (shift + 7) = 128 * 2 ^ shift := by rw [Nat.pow_add, Nat.mul_comm]
        have hwhole : acc + byte.toNat % 128 * 2 ^ shift + value * 2 ^ (shift + 7) =
            acc + (byte.toNat % 128 + 128 * value) * 2 ^ shift := by
          rw [hpayload]
          ring
        refine .inl ⟨byte.toNat % 128 + 128 * value, ?_, fun _ => by omega, by rw [hvalue, hwhole],
          by rwa [← hwhole]⟩
        rw [writeVarint_of_ge (by omega), hwritten]
        have hlow : (byte.toNat % 128 + 128 * value) % 128 + 128 = byte.toNat := by omega
        have hhigh : (byte.toNat % 128 + 128 * value) / 128 = value := by omega
        rw [hlow, hhigh, UInt8.ofNat_toNat]
      · refine .inr ⟨hend, ?_⟩
        intro member hmember
        rcases List.mem_cons.1 hmember with rfl | hmember
        · exact hlarge
        · exact hhigh member hmember

/-- Where any run of the loop stops: after bytes that all have the high bit
set, either at the end of the input, or at one more byte that has no high bit
or made the read fail at its shift. -/
theorem readVarintLoop_stops (bits : Nat) : ∀ (input : List UInt8) (shift read acc : Nat),
    ∃ front, (∀ byte ∈ front, 128 ≤ byte.toNat) ∧
      ((input = front ∧ (readVarintLoop bits shift read acc input).rest = []) ∨
        ∃ last, input = front ++ last :: (readVarintLoop bits shift read acc input).rest ∧
          (last.toNat < 128 ∨ shift + 7 * front.length + 7 ≥ bits ∨
            (last = 0 ∧ shift + 7 * front.length ≠ 0)))
  | [], _, _, _ => ⟨[], by simp, .inl ⟨rfl, rfl⟩⟩
  | byte :: rest, shift, read, acc => by
    by_cases hfail : (shift + 7 ≥ bits ∧ byte.toNat ≥ 2 ^ (bits - shift)) ∨ (byte = 0 ∧ shift ≠ 0)
    · -- an error code at this byte
      refine ⟨[], by simp, .inr ⟨byte, ?_, ?_⟩⟩
      · simp only [readVarintLoop]
        split_ifs <;> simp_all
      · rcases hfail with hover | hzero
        · exact .inr (.inl (by simpa using hover.1))
        · exact .inr (.inr (by simpa using hzero))
    rw [not_or] at hfail
    by_cases hstop : byte.toNat &&& 0x80 = 0
    · have heq : (readVarintLoop bits shift read acc (byte :: rest)).rest = rest := by
        simp only [readVarintLoop]
        rw [if_neg hfail.1, if_neg hfail.2, if_pos hstop]
      refine ⟨[], by simp, .inr ⟨byte, by rw [heq]; rfl, .inl ?_⟩⟩
      exact (continuation_eq_zero_iff byte.toNat_lt).1 hstop
    · -- the high bit: the loop goes on with the rest at the next shift
      have heq : readVarintLoop bits shift read acc (byte :: rest) =
          readVarintLoop bits (shift + 7) (read + 1)
            ((acc ||| (byte.toNat &&& 0x7f) <<< shift) % 2 ^ bits) rest := by
        simp only [readVarintLoop]
        rw [if_neg hfail.1, if_neg hfail.2, if_neg hstop]
      have hhigh : 128 ≤ byte.toNat := Nat.le_of_not_lt fun hsmall =>
        hstop ((continuation_eq_zero_iff byte.toNat_lt).2 hsmall)
      obtain ⟨front, hfront, hcases⟩ := readVarintLoop_stops bits rest (shift + 7) (read + 1)
        ((acc ||| (byte.toNat &&& 0x7f) <<< shift) % 2 ^ bits)
      rw [heq]
      refine ⟨byte :: front, ?_, ?_⟩
      · intro member hmember
        rcases List.mem_cons.1 hmember with rfl | hmember
        · exact hhigh
        · exact hfront member hmember
      · rcases hcases with ⟨rfl, hend⟩ | ⟨last, hsplit, hlast⟩
        · exact .inl ⟨rfl, hend⟩
        · refine .inr ⟨last, by rw [List.cons_append]; exact congrArg (List.cons byte) hsplit, ?_⟩
          simp only [List.length_cons]
          rcases hlast with hsmall | hwide | hzero
          · exact .inl hsmall
          · exact .inr (.inl (by omega))
          · exact .inr (.inr ⟨hzero.1, by omega⟩)

theorem read_varint_round_trip_or_truncated (bits : Nat) :
    (∀ value rest, value < 2 ^ bits →
      readVarint bits (writeVarint value ++ rest) = ⟨(writeVarint value).length, value, rest⟩) ∧
    (∀ input, 0 < (readVarint bits input).code →
      ∃ consumed, input = consumed ++ (readVarint bits input).rest ∧
        (readVarint bits input).code = consumed.length ∧
        ((consumed = writeVarint (readVarint bits input).value ∧ (readVarint bits input).value < 2 ^ bits) ∨
          ((readVarint bits input).rest = [] ∧ ∀ byte ∈ consumed, 128 ≤ byte.toNat))) := by
  refine ⟨fun value rest hfit => readVarint_writeVarint hfit rest, fun input hread => ?_⟩
  obtain ⟨consumed, hsplit, hcount, hcases⟩ :=
    readVarintLoop_cases bits input 0 0 0 (by decide) (Nat.two_pow_pos bits) (le_of_lt hread)
  refine ⟨consumed, hsplit, by simpa [readVarint] using hcount, ?_⟩
  rcases hcases with ⟨value, hwritten, -, hvalue, hfit⟩ | htruncated
  · -- a complete read: the value read is the one whose bytes were consumed
    have hread : (readVarint bits input).value = value := by simpa [readVarint] using hvalue
    rw [hread]
    exact .inl ⟨hwritten, by simpa using hfit⟩
  · exact .inr htruncated

theorem read_varint_round_trip_at_three_hundred :
    300 < 2 ^ 64 ∧ readVarint 64 (writeVarint 300 ++ []) = ⟨(writeVarint 300).length, 300, []⟩ :=
  ⟨by decide, (read_varint_round_trip_or_truncated 64).1 300 [] (by decide)⟩

/-- A lone byte with the high bit set is read as a one-byte varint of value
`0`, whose encoding is the byte `0`. -/
theorem truncated_varint_read_as_zero : readVarint 64 [0x80] = ⟨1, 0, []⟩ ∧ [0x80] ≠ writeVarint 0 := by
  refine ⟨by decide, ?_⟩
  rw [writeVarint_of_lt (by decide)]
  decide

end ElectroneumClassic.Tools
