import ElectroneumClassic.Lib.Positional
import ElectroneumClassic.Lib.Machine
import ElectroneumClassic.Serialization.Varint

/-!
# Base58

`tools::base58` of `common/base58.cpp`.  The data is cut into blocks of eight
bytes and a shorter last block; a block of `k` bytes, read as a big-endian
number, is written as `encoded_block_sizes[k]` base-58 digits, most
significant first.  `decode` reads each block back and refuses a letter
outside the alphabet, a last block of a length no block encodes to, and a
block whose value does not fit in its `k` bytes.

`decode` inverts `encode` (`decode_encode`), and everything `decode` accepts
is what `encode` writes for what it returns (`encode_of_decode`).  Addresses
put a varint tag before the data and four bytes of `cn_fast_hash` after it;
`decodeAddr` returns the tag and data `encodeAddr` was given, whatever the
hash (`decodeAddr_encodeAddr`).
-/

namespace ElectroneumClassic.Tools.Base58

open Machine Positional

def alphabet : List Char := "123456789ABCDEFGHJKLMNPQRSTUVWXYZabcdefghijkmnopqrstuvwxyz".toList

def alphabetSize : Nat := alphabet.length

/-- `encoded_block_sizes`: the letters of a block of `k` bytes, at index `k`. -/
def encodedBlockSizes : List Nat := [0, 2, 3, 5, 6, 7, 9, 10, 11]

def fullBlockSize : Nat := encodedBlockSizes.length - 1

def fullEncodedBlockSize : Nat := encodedBlockSizes.getD fullBlockSize 0

def addrChecksumSize : Nat := 4

/-- `reverse_alphabet`: the digit of a letter, `-1` for a letter outside the alphabet. -/
def reverseAlphabet (letter : Char) : Int :=
  match alphabet.idxOf? letter with
  | some digit => digit
  | none => -1

/-- `decoded_block_sizes`: the bytes of a block of `encodedBlockSize` letters,
`-1` for a length no block encodes to. -/
def decodedBlockSizes (encodedBlockSize : Nat) : Int :=
  match encodedBlockSizes.idxOf? encodedBlockSize with
  | some size => size
  | none => -1

/-- `uint_8be_to_64`: the bytes as a big-endian number. -/
def uint8beTo64 (data : List UInt8) : Nat :=
  data.foldl (fun res byte => (res <<< 8) ||| byte.toNat) 0

/-- `uint_64_to_8be`: the low `size` bytes of `num`, most significant first
(`SWAP64BE`, then the last `size` bytes). -/
def uint64To8be (num : Nat) : Nat → List UInt8
  | 0 => []
  | size + 1 => uint64To8be (num >>> 8) size ++ [UInt8.ofNat num]

/-- The loop of `encode_block`: while `num` is not zero, write its last
base-58 digit at position `i - 1` and move left. -/
def encodeBlockLoop (num : Nat) : Nat → List Char → List Char
  | 0, res => res
  | i + 1, res =>
    if 0 < num then encodeBlockLoop (num / alphabetSize) i (res.set i (alphabet.getD (num % alphabetSize) '1'))
    else res

/-- `encode_block`, into its slot of the result, which `encode` fills with `alphabet[0]`. -/
def encodeBlock (block : List UInt8) : List Char :=
  let size := encodedBlockSizes.getD block.length 0
  encodeBlockLoop (uint8beTo64 block) size (List.replicate size (alphabet.getD 0 '1'))

/-- The loop of `decode_block`, over the letters from the last: `order` is
the weight of the next digit, and the sum must stay within 64 bits. -/
def decodeBlockLoop : List Char → Nat → Nat → Option Nat
  | [], resNum, _ => some resNum
  | letter :: rest, resNum, order =>
    let digit := reverseAlphabet letter
    if digit < 0 then none
    else
      -- `mul128`: the low word is added, the high word must be zero
      let product := order * digit.toNat
      let tmp := wrapU64 (resNum + product % 2 ^ 64)
      if tmp < resNum ∨ product / 2 ^ 64 ≠ 0 then none
      else decodeBlockLoop rest tmp (wrapU64 (order * alphabetSize))

/-- `decode_block`: the bytes of a block, none where it returns `false`. -/
def decodeBlock (block : List Char) : Option (List UInt8) :=
  let resSize := decodedBlockSizes block.length
  if resSize ≤ 0 then none
  else
    match decodeBlockLoop block.reverse 0 1 with
    | none => none
    | some resNum =>
      if resSize.toNat < fullBlockSize ∧ 2 ^ (8 * resSize.toNat) ≤ resNum then none
      else some (uint64To8be resNum resSize.toNat)

/-- The loop of `encode` over the full blocks. -/
def encodeFullBlocks : Nat → List UInt8 → List Char
  | 0, _ => []
  | count + 1, data => encodeBlock (data.take fullBlockSize) ++ encodeFullBlocks count (data.drop fullBlockSize)

/-- `tools::base58::encode`. -/
def encode (data : List UInt8) : List Char :=
  if data.isEmpty then []
  else
    let fullBlockCount := data.length / fullBlockSize
    let lastBlockSize := data.length % fullBlockSize
    encodeFullBlocks fullBlockCount data ++
      if 0 < lastBlockSize then encodeBlock (data.drop (fullBlockCount * fullBlockSize)) else []

/-- The loop of `decode` over the full blocks. -/
def decodeFullBlocks : Nat → List Char → Option (List UInt8)
  | 0, _ => some []
  | count + 1, enc => do
    let block ← decodeBlock (enc.take fullEncodedBlockSize)
    let rest ← decodeFullBlocks count (enc.drop fullEncodedBlockSize)
    pure (block ++ rest)

/-- `tools::base58::decode`: the data, none where it returns `false`. -/
def decode (enc : List Char) : Option (List UInt8) :=
  if enc.isEmpty then some []
  else
    let fullBlockCount := enc.length / fullEncodedBlockSize
    let lastBlockSize := enc.length % fullEncodedBlockSize
    if decodedBlockSizes lastBlockSize < 0 then none
    else do
      let data ← decodeFullBlocks fullBlockCount enc
      if 0 < lastBlockSize then
        let last ← decodeBlock (enc.drop (fullBlockCount * fullEncodedBlockSize))
        pure (data ++ last)
      else pure data

/-! ## The pieces as positional notation -/

@[simp] theorem alphabetSize_eq : alphabetSize = 58 := rfl

@[simp] theorem fullBlockSize_eq : fullBlockSize = 8 := rfl

@[simp] theorem fullEncodedBlockSize_eq : fullEncodedBlockSize = 11 := rfl

@[simp] theorem addrChecksumSize_eq : addrChecksumSize = 4 := rfl

/-- The letter of a base-58 digit. -/
def letterOf (digit : Nat) : Char := alphabet.getD digit '1'

theorem reverseAlphabet_letterOf {digit : Nat} (small : digit < 58) : reverseAlphabet (letterOf digit) = digit :=
  (by decide : ∀ d : Fin 58, reverseAlphabet (letterOf d) = d) ⟨digit, small⟩

/-- An entry found by `idxOf?` is at its index. -/
theorem getD_of_idxOf?_eq_some {α : Type} [BEq α] [LawfulBEq α] {l : List α} {a : α} {i : Nat} (fallback : α)
    (found : l.idxOf? a = some i) : i < l.length ∧ l.getD i fallback = a := by
  obtain ⟨bound, atIndex, -⟩ := List.idxOf?_eq_some_iff.1 found
  exact ⟨bound, by rw [List.getD_eq_getElem?_getD, List.getElem?_eq_getElem bound, Option.getD_some, atIndex]⟩

/-- A letter `reverse_alphabet` accepts is the letter of its digit. -/
theorem letterOf_reverseAlphabet {letter : Char} (valid : 0 ≤ reverseAlphabet letter) :
    (reverseAlphabet letter).toNat < 58 ∧ letterOf (reverseAlphabet letter).toNat = letter := by
  unfold reverseAlphabet at valid ⊢
  cases found : alphabet.idxOf? letter with
  | none => simp [found] at valid
  | some digit =>
    obtain ⟨bound, atDigit⟩ := getD_of_idxOf?_eq_some '1' found
    have size : alphabet.length = 58 := alphabetSize_eq
    simp only [Int.toNat_natCast, letterOf]
    exact ⟨size ▸ bound, atDigit⟩

theorem uint8beTo64_eq (data : List UInt8) :
    uint8beTo64 data = Nat.ofDigits 256 (data.map UInt8.toNat).reverse := by
  have step : ∀ res : Nat, ∀ byte : UInt8, (res <<< 8) ||| byte.toNat = res * 256 + byte.toNat := by
    intro res byte
    rw [← Nat.shiftLeft_add_eq_or_of_lt (by simpa using byte.toNat_lt), Nat.shiftLeft_eq]
  have mapped := @foldl_mul_add 256 (data.map UInt8.toNat) 0
  rw [List.foldl_map, Nat.zero_mul, Nat.zero_add] at mapped
  simp only [uint8beTo64, step, mapped]

theorem uint64To8be_eq (num size : Nat) : uint64To8be num size = (digitsBE 256 size num).map UInt8.ofNat := by
  induction size generalizing num with
  | zero => rfl
  | succ size inductionHypothesis =>
    have lowByte : UInt8.ofNat num = UInt8.ofNat (num % 256) := by
      apply UInt8.toNat_inj.1
      simp
    rw [uint64To8be, digitsBE, inductionHypothesis, Nat.shiftRight_eq_div_pow, List.map_append, lowByte]
    rfl

/-- `encode_block` writes the digits of its number, padded with the letter of zero. -/
theorem encodeBlockLoop_eq (num width : Nat) (suffix : List Char) :
    encodeBlockLoop num width (List.replicate width '1' ++ suffix) =
      (digitsBE 58 width num).map letterOf ++ suffix := by
  induction width generalizing num suffix with
  | zero => rfl
  | succ width inductionHypothesis =>
    unfold encodeBlockLoop
    split
    · have written : (List.replicate (width + 1) '1' ++ suffix).set width (alphabet.getD (num % alphabetSize) '1') =
          List.replicate width '1' ++ letterOf (num % 58) :: suffix := by
        rw [List.replicate_succ', List.append_assoc, List.singleton_append, List.set_append_right _ _ (by simp)]
        simp [letterOf]
      rw [written, alphabetSize_eq, inductionHypothesis, digitsBE, List.map_append, List.append_assoc]
      rfl
    · rename_i zero
      obtain rfl : num = 0 := Nat.eq_zero_of_not_pos zero
      have zeroLetter : letterOf 0 = '1' := by decide
      rw [digitsBE_zero, List.map_replicate, zeroLetter]

/-- The digit of a letter, none outside the alphabet. -/
def digitOf? (letter : Char) : Option Nat :=
  if reverseAlphabet letter < 0 then none else some (reverseAlphabet letter).toNat

theorem digitOf?_letterOf {digit : Nat} (small : digit < 58) : digitOf? (letterOf digit) = some digit := by
  simp [digitOf?, reverseAlphabet_letterOf small]

theorem letterOf_of_digitOf? {letter : Char} {digit : Nat} (found : digitOf? letter = some digit) :
    digit < 58 ∧ letterOf digit = letter := by
  unfold digitOf? at found
  split at found
  · cases found
  · rename_i valid
    cases found
    exact letterOf_reverseAlphabet (not_lt.1 valid)

/-- A 64-bit sum wraps below its first term exactly when it carries. -/
theorem wrapU64_add_lt_iff {a b : Nat} (ha : a < 2 ^ 64) (hb : b < 2 ^ 64) :
    wrapU64 (a + b) < a ↔ 2 ^ 64 ≤ a + b := by
  unfold wrapU64
  by_cases fits : a + b < 2 ^ 64
  · rw [Nat.mod_eq_of_lt fits]
    omega
  · rw [Nat.mod_eq_sub_mod (not_lt.1 fits), Nat.mod_eq_of_lt (by omega)]
    omega

/-- The decoding loop reads the digits from the last, and fails exactly when a
letter is not in the alphabet or the sum leaves 64 bits. -/
theorem decodeBlockLoop_eq (letters : List Char) {resNum k : Nat} (bounded : resNum < 2 ^ 64)
    (short : k + letters.length ≤ 11) :
    decodeBlockLoop letters resNum (wrapU64 (58 ^ k)) =
      (letters.mapM digitOf?).bind fun digits =>
        if resNum + 58 ^ k * Nat.ofDigits 58 digits < 2 ^ 64 then some (resNum + 58 ^ k * Nat.ofDigits 58 digits)
        else none := by
  induction letters generalizing resNum k with
  | nil => simpa [decodeBlockLoop] using bounded
  | cons letter rest inductionHypothesis =>
    have atMost : k ≤ 10 := by
      simp only [List.length_cons] at short
      omega
    have weight : 58 ^ k < 2 ^ 64 :=
      calc 58 ^ k ≤ 58 ^ 10 := Nat.pow_le_pow_right (by norm_num) atMost
        _ < 2 ^ 64 := by norm_num
    rw [List.mapM_cons]
    unfold decodeBlockLoop
    rw [wrapU64_of_lt weight]
    cases found : digitOf? letter with
    | none =>
      have invalid : reverseAlphabet letter < 0 := by
        unfold digitOf? at found
        split at found
        · assumption
        · cases found
      simp [invalid]
    | some d =>
      have valid : ¬reverseAlphabet letter < 0 := by
        unfold digitOf? at found
        split at found
        · cases found
        · assumption
      have digit : (reverseAlphabet letter).toNat = d := by
        unfold digitOf? at found
        simpa [valid] using found
      simp only [valid, if_false, digit]
      -- past 64 bits once, past 64 bits with every later digit
      have exceeds : 2 ^ 64 ≤ resNum + 58 ^ k * d → ∀ later, ¬resNum + 58 ^ k * (d + 58 * later) < 2 ^ 64 := by
        intro overflow later
        have more : 58 ^ k * d ≤ 58 ^ k * (d + 58 * later) := Nat.mul_le_mul_left _ (Nat.le_add_right _ _)
        omega
      by_cases fits : 58 ^ k * d < 2 ^ 64
      · rw [Nat.mod_eq_of_lt fits, Nat.div_eq_of_lt fits]
        by_cases carries : 2 ^ 64 ≤ resNum + 58 ^ k * d
        · rw [if_pos (.inl ((wrapU64_add_lt_iff bounded fits).2 carries))]
          cases rests : rest.mapM digitOf? with
          | none => simp
          | some ds => simp [Nat.ofDigits_cons, exceeds carries, -Nat.reducePow]
        · have noCarry : ¬(wrapU64 (resNum + 58 ^ k * d) < resNum ∨ 0 ≠ 0) := by
            rintro (wrapped | nonzero)
            · exact carries ((wrapU64_add_lt_iff bounded fits).1 wrapped)
            · exact nonzero rfl
          rw [if_neg noCarry, wrapU64_of_lt (not_le.1 carries), alphabetSize_eq, ← Nat.pow_succ,
            inductionHypothesis (not_le.1 carries) (by simp only [List.length_cons] at short; omega)]
          cases rests : rest.mapM digitOf? with
          | none => simp
          | some ds =>
            have regrouped : resNum + 58 ^ k * d + 58 ^ (k + 1) * Nat.ofDigits 58 ds =
                resNum + 58 ^ k * (d + 58 * Nat.ofDigits 58 ds) := by
              ring
            simp only [Option.bind_eq_bind, Option.bind_some, pure, Nat.ofDigits_cons, regrouped]
            rfl
      · have high : 58 ^ k * d / 2 ^ 64 ≠ 0 := Nat.pos_iff_ne_zero.1 (Nat.div_pos (not_lt.1 fits) (by norm_num))
        rw [if_pos (.inr high)]
        cases rests : rest.mapM digitOf? with
        | none => simp
        | some ds => simp [Nat.ofDigits_cons, exceeds (by omega), -Nat.reducePow]
/-- A length `decoded_block_sizes` accepts is the encoded size of its decoded size. -/
theorem encodedBlockSizes_decodedBlockSizes {size : Nat} (valid : 0 ≤ decodedBlockSizes size) :
    (decodedBlockSizes size).toNat ≤ 8 ∧ encodedBlockSizes.getD (decodedBlockSizes size).toNat 0 = size := by
  unfold decodedBlockSizes at valid ⊢
  cases found : encodedBlockSizes.idxOf? size with
  | none => simp [found] at valid
  | some k =>
    obtain ⟨bound, atK⟩ := getD_of_idxOf?_eq_some 0 found
    have tableLength : encodedBlockSizes.length = 9 := rfl
    exact ⟨by simp only [Int.toNat_natCast]; omega, by simpa using atK⟩

theorem decodedBlockSizes_encodedBlockSizes {k : Nat} (sized : k ≤ 8) :
    decodedBlockSizes (encodedBlockSizes.getD k 0) = k :=
  (by decide : ∀ k : Fin 9, decodedBlockSizes (encodedBlockSizes.getD k 0) = k) ⟨k, by omega⟩

/-- Each block size has room for its bytes, and a block has at most eleven letters. -/
theorem encodedBlockSizes_fit {k : Nat} (sized : k ≤ 8) :
    256 ^ k ≤ 58 ^ encodedBlockSizes.getD k 0 ∧ encodedBlockSizes.getD k 0 ≤ 11 :=
  (by decide : ∀ k : Fin 9, 256 ^ (k : Nat) ≤ 58 ^ encodedBlockSizes.getD k 0 ∧ encodedBlockSizes.getD k 0 ≤ 11)
    ⟨k, by omega⟩

theorem mapM_digitOf?_map_letterOf {ds : List Nat} (digits : ∀ d ∈ ds, d < 58) :
    (ds.map letterOf).mapM digitOf? = some ds := by
  induction ds with
  | nil => rfl
  | cons d rest inductionHypothesis =>
    rw [List.map_cons, List.mapM_cons, digitOf?_letterOf (digits d List.mem_cons_self),
      inductionHypothesis fun e member => digits e (List.mem_cons_of_mem d member)]
    rfl

theorem eq_map_letterOf_of_mapM {letters : List Char} {ds : List Nat} (found : letters.mapM digitOf? = some ds) :
    letters = ds.map letterOf ∧ ∀ d ∈ ds, d < 58 := by
  induction letters generalizing ds with
  | nil =>
    cases found
    exact ⟨rfl, fun _ member => by cases member⟩
  | cons letter rest inductionHypothesis =>
    rw [List.mapM_cons] at found
    cases digit : digitOf? letter with
    | none => simp [digit] at found
    | some d =>
      cases rests : rest.mapM digitOf? with
      | none => simp [digit, rests] at found
      | some restDigits =>
        simp only [digit, rests, Option.bind_eq_bind, Option.bind_some, pure, Option.some.injEq] at found
        subst found
        obtain ⟨small, letterEq⟩ := letterOf_of_digitOf? digit
        obtain ⟨restEq, restSmall⟩ := inductionHypothesis rests
        refine ⟨by rw [List.map_cons, letterEq, ← restEq], ?_⟩
        intro e member
        rcases List.mem_cons.1 member with rfl | member
        · exact small
        · exact restSmall e member

/-- `encode_block` writes the digits of the block's big-endian value. -/
theorem encodeBlock_eq (block : List UInt8) :
    encodeBlock block = (digitsBE 58 (encodedBlockSizes.getD block.length 0)
      (Nat.ofDigits 256 (block.map UInt8.toNat).reverse)).map letterOf := by
  have padded := encodeBlockLoop_eq (uint8beTo64 block) (encodedBlockSizes.getD block.length 0) []
  rw [List.append_nil, List.append_nil, uint8beTo64_eq] at padded
  have zeroLetter : alphabet.getD 0 '1' = '1' := by decide
  rw [encodeBlock, zeroLetter, uint8beTo64_eq, padded]

@[simp] theorem length_encodeBlock (block : List UInt8) :
    (encodeBlock block).length = encodedBlockSizes.getD block.length 0 := by
  rw [encodeBlock_eq, List.length_map, length_digitsBE]

theorem ofDigits_reverse_bytes_lt (block : List UInt8) :
    Nat.ofDigits 256 (block.map UInt8.toNat).reverse < 256 ^ block.length := by
  have digits : ∀ d ∈ (block.map UInt8.toNat).reverse, d < 256 := by
    simp only [List.mem_reverse, List.mem_map]
    rintro _ ⟨byte, -, rfl⟩
    exact byte.toNat_lt
  simpa using Nat.ofDigits_lt_base_pow_length (by norm_num) digits

/-- A block of one to eight bytes decodes from what it encodes to. -/
theorem decodeBlock_encodeBlock {block : List UInt8} (nonempty : 0 < block.length) (sized : block.length ≤ 8) :
    decodeBlock (encodeBlock block) = some block := by
  obtain ⟨room, short⟩ := encodedBlockSizes_fit sized
  have value := ofDigits_reverse_bytes_lt block
  have inRoom : Nat.ofDigits 256 (block.map UInt8.toNat).reverse < 58 ^ encodedBlockSizes.getD block.length 0 :=
    lt_of_lt_of_le value room
  have within : Nat.ofDigits 256 (block.map UInt8.toNat).reverse < 2 ^ 64 :=
    lt_of_lt_of_le value (by rw [show (256 : Nat) = 2 ^ 8 from rfl, ← Nat.pow_mul]; exact Nat.pow_le_pow_right (by norm_num) (by omega))
  have letters : (encodeBlock block).reverse.mapM digitOf? =
      some (digitsBE 58 (encodedBlockSizes.getD block.length 0) (Nat.ofDigits 256 (block.map UInt8.toNat).reverse)).reverse := by
    rw [encodeBlock_eq, ← List.map_reverse]
    exact mapM_digitOf?_map_letterOf fun d member => lt_of_mem_digitsBE (by norm_num) (List.mem_reverse.1 member)
  have read := decodeBlockLoop_eq (encodeBlock block).reverse (show 0 < 2 ^ 64 by norm_num)
    (show 0 + (encodeBlock block).reverse.length ≤ 11 by simpa using short)
  rw [letters, Option.bind_some, ofDigits_reverse_digitsBE inRoom, Nat.pow_zero, Nat.one_mul, Nat.zero_add,
    if_pos within, show wrapU64 1 = 1 from rfl] at read
  have bytes : digitsBE 256 block.length (Nat.ofDigits 256 (block.map UInt8.toNat).reverse) = block.map UInt8.toNat := by
    have digits : ∀ d ∈ block.map UInt8.toNat, d < 256 := by
      simp only [List.mem_map]
      rintro _ ⟨byte, -, rfl⟩
      exact byte.toNat_lt
    simpa using digitsBE_ofDigits_reverse digits
  have positive : ¬((block.length : Int) ≤ 0) := by omega
  have fits : ¬(block.length < fullBlockSize ∧ 2 ^ (8 * block.length) ≤ Nat.ofDigits 256 (block.map UInt8.toNat).reverse) := by
    rintro ⟨-, tooLarge⟩
    rw [Nat.pow_mul, show (2 : Nat) ^ 8 = 256 from rfl] at tooLarge
    omega
  unfold decodeBlock
  rw [length_encodeBlock, decodedBlockSizes_encodedBlockSizes sized, read]
  simp only [positive, if_false, Int.toNat_natCast, fits, uint64To8be_eq, bytes, List.map_map]
  simp [Function.comp_def]

theorem toNat_uint64To8be (num size : Nat) :
    (uint64To8be num size).map UInt8.toNat = digitsBE 256 size num := by
  rw [uint64To8be_eq, List.map_map]
  conv_rhs => rw [← List.map_id (digitsBE 256 size num)]
  apply List.map_congr_left
  intro d member
  simp [Nat.mod_eq_of_lt (lt_of_mem_digitsBE (by norm_num) member)]

/-- What `decode_block` accepts is the encoding of the one to eight bytes it
returns. -/
theorem encodeBlock_of_decodeBlock {block : List Char} {bytes : List UInt8} (decoded : decodeBlock block = some bytes) :
    encodeBlock bytes = block ∧ 0 < bytes.length ∧ bytes.length ≤ 8 := by
  unfold decodeBlock at decoded
  dsimp only at decoded
  by_cases positive : decodedBlockSizes block.length ≤ 0
  · rw [if_pos positive] at decoded
    cases decoded
  rw [if_neg positive] at decoded
  obtain ⟨atMost, encoded⟩ := encodedBlockSizes_decodedBlockSizes (by omega : 0 ≤ decodedBlockSizes block.length)
  have short := (encodedBlockSizes_fit atMost).2
  rw [encoded] at short
  have read := decodeBlockLoop_eq block.reverse (show 0 < 2 ^ 64 by norm_num)
    (show 0 + block.reverse.length ≤ 11 by simpa using short)
  rw [show wrapU64 (58 ^ 0) = 1 from rfl] at read
  cases digitsFound : block.reverse.mapM digitOf? with
  | none =>
    rw [digitsFound, Option.bind_none] at read
    rw [read] at decoded
    cases decoded
  | some rs =>
    rw [digitsFound, Option.bind_some, Nat.pow_zero, Nat.one_mul, Nat.zero_add] at read
    obtain ⟨reversed, small⟩ := eq_map_letterOf_of_mapM digitsFound
    by_cases within : Nat.ofDigits 58 rs < 2 ^ 64
    · rw [if_pos within] at read
      rw [read] at decoded
      dsimp only at decoded
      by_cases fits : (decodedBlockSizes block.length).toNat < fullBlockSize ∧
          2 ^ (8 * (decodedBlockSizes block.length).toNat) ≤ Nat.ofDigits 58 rs
      · rw [if_pos fits] at decoded
        cases decoded
      rw [if_neg fits] at decoded
      cases decoded
      -- the value fits in the bytes it is written to
      have inBytes : Nat.ofDigits 58 rs < 256 ^ (decodedBlockSizes block.length).toNat := by
        by_cases full : (decodedBlockSizes block.length).toNat < fullBlockSize
        · have below := not_le.1 fun tooLarge => fits ⟨full, tooLarge⟩
          rwa [Nat.pow_mul] at below
        · have eight : (decodedBlockSizes block.length).toNat = 8 := by
            simp only [fullBlockSize_eq] at full
            omega
          rw [eight]
          exact within
      have value : Nat.ofDigits 256 ((uint64To8be (Nat.ofDigits 58 rs) (decodedBlockSizes block.length).toNat).map
          UInt8.toNat).reverse = Nat.ofDigits 58 rs := by
        rw [toNat_uint64To8be, ofDigits_reverse_digitsBE inBytes]
      have letters : digitsBE 58 block.length (Nat.ofDigits 58 rs) = rs.reverse := by
        have lengths : block.length = rs.reverse.length := by
          rw [List.length_reverse, ← List.length_map letterOf, ← reversed, List.length_reverse]
        have reversedSmall : ∀ d ∈ rs.reverse, d < 58 := fun d member => small d (List.mem_reverse.1 member)
        rw [lengths]
        simpa using digitsBE_ofDigits_reverse reversedSmall
      have sizes : (uint64To8be (Nat.ofDigits 58 rs) (decodedBlockSizes block.length).toNat).length =
          (decodedBlockSizes block.length).toNat := by
        rw [uint64To8be_eq, List.length_map, length_digitsBE]
      refine ⟨?_, by rw [sizes]; omega, by rw [sizes]; exact atMost⟩
      rw [encodeBlock_eq, sizes, encoded, value, letters, List.map_reverse, ← reversed, List.reverse_reverse]
    · rw [if_neg within] at read
      rw [read] at decoded
      cases decoded

/-! ## The whole codec -/

/-- The last block is shorter than eleven letters, and empty only for no bytes. -/
theorem encodedBlockSizes_last {k : Nat} (short : k < 8) :
    encodedBlockSizes.getD k 0 ≤ 10 ∧ (encodedBlockSizes.getD k 0 = 0 ↔ k = 0) :=
  (by decide : ∀ k : Fin 8, encodedBlockSizes.getD k 0 ≤ 10 ∧ (encodedBlockSizes.getD k 0 = 0 ↔ (k : Nat) = 0))
    ⟨k, short⟩

/-- Only blocks of eight bytes take eleven letters. -/
theorem eq_eight_of_encodedBlockSizes {k : Nat} (sized : k ≤ 8) (full : encodedBlockSizes.getD k 0 = 11) : k = 8 :=
  (by decide : ∀ k : Fin 9, encodedBlockSizes.getD k 0 = 11 → (k : Nat) = 8) ⟨k, by omega⟩ full

theorem encodeFullBlocks_append (count : Nat) {full : List UInt8} (sized : full.length = 8 * count)
    (rest : List UInt8) : encodeFullBlocks count (full ++ rest) = encodeFullBlocks count full := by
  induction count generalizing full with
  | zero => rfl
  | succ count inductionHypothesis =>
    simp only [encodeFullBlocks, fullBlockSize_eq]
    rw [List.take_append_of_le_length (by omega), List.drop_append_of_le_length (by omega),
      inductionHypothesis (by simp only [List.length_drop]; omega)]

theorem length_encodeFullBlocks (count : Nat) {data : List UInt8} (sized : 8 * count ≤ data.length) :
    (encodeFullBlocks count data).length = 11 * count := by
  induction count generalizing data with
  | zero => rfl
  | succ count inductionHypothesis =>
    have eight : (data.take 8).length = 8 := by
      simp only [List.length_take]
      omega
    simp only [encodeFullBlocks, fullBlockSize_eq, List.length_append, length_encodeBlock, eight,
      inductionHypothesis (show 8 * count ≤ (data.drop 8).length by simp only [List.length_drop]; omega)]
    have full : encodedBlockSizes.getD 8 0 = 11 := rfl
    omega

/-- The full blocks decode from their encoding, whatever follows it. -/
theorem decodeFullBlocks_encodeFullBlocks (count : Nat) {data : List UInt8} (sized : 8 * count ≤ data.length)
    (tail : List Char) :
    decodeFullBlocks count (encodeFullBlocks count data ++ tail) = some (data.take (8 * count)) := by
  induction count generalizing data with
  | zero => rfl
  | succ count inductionHypothesis =>
    have eight : (data.take 8).length = 8 := by
      simp only [List.length_take]
      omega
    have eleven : (encodeBlock (data.take 8)).length = 11 := by
      rw [length_encodeBlock, eight]
      rfl
    simp only [encodeFullBlocks, decodeFullBlocks, fullBlockSize_eq, fullEncodedBlockSize_eq, List.append_assoc,
      List.take_left' eleven, List.drop_left' eleven, decodeBlock_encodeBlock (by omega : 0 < (data.take 8).length)
        (by omega : (data.take 8).length ≤ 8),
      inductionHypothesis (show 8 * count ≤ (data.drop 8).length by simp only [List.length_drop]; omega)]
    rw [Nat.mul_succ, Nat.add_comm, List.take_add]
    rfl

/-- What the loop over full blocks accepts is their encoding, eight bytes a block. -/
theorem encodeFullBlocks_of_decodeFullBlocks (count : Nat) {enc : List Char} (sized : 11 * count ≤ enc.length)
    {full : List UInt8} (decoded : decodeFullBlocks count enc = some full) :
    encodeFullBlocks count full = enc.take (11 * count) ∧ full.length = 8 * count := by
  induction count generalizing enc full with
  | zero =>
    cases decoded
    exact ⟨rfl, rfl⟩
  | succ count inductionHypothesis =>
    simp only [decodeFullBlocks, fullEncodedBlockSize_eq] at decoded
    cases first : decodeBlock (enc.take 11) with
    | none => simp [first] at decoded
    | some block =>
      cases rest : decodeFullBlocks count (enc.drop 11) with
      | none => simp [first, rest] at decoded
      | some restBytes =>
        simp only [first, rest, Option.bind_eq_bind, Option.bind_some, pure, Option.some.injEq] at decoded
        subst decoded
        obtain ⟨blockEncoded, -, atMost⟩ := encodeBlock_of_decodeBlock first
        obtain ⟨restEncoded, restLength⟩ :=
          inductionHypothesis (show 11 * count ≤ (enc.drop 11).length by simp only [List.length_drop]; omega) rest
        have eight : block.length = 8 := by
          have lengths := congrArg List.length blockEncoded
          rw [length_encodeBlock, List.length_take] at lengths
          exact eq_eight_of_encodedBlockSizes atMost (by omega)
        refine ⟨?_, by simp only [List.length_append, eight, restLength]; omega⟩
        simp only [encodeFullBlocks, fullBlockSize_eq, List.take_left' eight, List.drop_left' eight,
          blockEncoded, restEncoded]
        rw [Nat.mul_succ, Nat.add_comm, List.take_add]

/-- `decode` inverts `encode`. -/
theorem decode_encode (data : List UInt8) : decode (encode data) = some data := by
  by_cases empty : data = []
  · subst empty
    rfl
  have notEmpty : data.isEmpty = false := List.isEmpty_eq_false_iff.2 empty
  have split := Nat.div_add_mod data.length 8
  have lastShort : data.length % 8 < 8 := Nat.mod_lt _ (by norm_num)
  obtain ⟨lastLetters, lastEmpty⟩ := encodedBlockSizes_last lastShort
  have fullDecoded := @decodeFullBlocks_encodeFullBlocks (data.length / 8) data (by omega)
  have fullLength := @length_encodeFullBlocks (data.length / 8) data (by omega)
  have sizes := decodedBlockSizes_encodedBlockSizes (by omega : data.length % 8 ≤ 8)
  by_cases ragged : 0 < data.length % 8
  · -- a last block of one to seven bytes follows the full blocks
    have lastBytes : (data.drop (data.length / 8 * 8)).length = data.length % 8 := by
      simp only [List.length_drop]
      omega
    have lastLength : (encodeBlock (data.drop (data.length / 8 * 8))).length = encodedBlockSizes.getD (data.length % 8) 0 := by
      rw [length_encodeBlock, lastBytes]
    have encoded : encode data = encodeFullBlocks (data.length / 8) data ++ encodeBlock (data.drop (data.length / 8 * 8)) := by
      simp only [encode, notEmpty, fullBlockSize_eq, ragged, if_true, Bool.false_eq_true, if_false]
    have encodedLength : (encode data).length = 11 * (data.length / 8) + encodedBlockSizes.getD (data.length % 8) 0 := by
      rw [encoded, List.length_append, fullLength, lastLength]
    have lettersPositive : 0 < encodedBlockSizes.getD (data.length % 8) 0 := by omega
    have notEmptyLetters : (encode data).isEmpty = false := by
      rw [List.isEmpty_eq_false_iff, ← List.length_pos_iff]
      omega
    have count : (encode data).length / 11 = data.length / 8 := by omega
    have last : (encode data).length % 11 = encodedBlockSizes.getD (data.length % 8) 0 := by omega
    have lastDecoded : decodeBlock ((encode data).drop (data.length / 8 * 11)) = some (data.drop (data.length / 8 * 8)) := by
      rw [encoded, List.drop_append_of_le_length (by omega), List.drop_eq_nil_of_le (by omega), List.nil_append,
        decodeBlock_encodeBlock (by omega) (by omega)]
    have fullRead : decodeFullBlocks (data.length / 8) (encode data) = some (data.take (8 * (data.length / 8))) := by
      rw [encoded]
      exact fullDecoded _
    simp only [decode, notEmptyLetters, fullEncodedBlockSize_eq, count, last, sizes, if_false, Bool.false_eq_true,
      lettersPositive, if_true, lastDecoded, fullRead]
    have known : ¬((data.length % 8 : Nat) : Int) < 0 := by omega
    simp only [known, if_false, Option.bind_eq_bind, Option.bind_some, pure, Option.some.injEq]
    rw [Nat.mul_comm (data.length / 8) 8, List.take_append_drop]
  · -- only full blocks
    have whole : data.length % 8 = 0 := by omega
    have encoded : encode data = encodeFullBlocks (data.length / 8) data := by
      simp only [encode, notEmpty, fullBlockSize_eq, ragged, if_false, Bool.false_eq_true, List.append_nil]
    have lettersPositive : 0 < (encode data).length := by
      rw [encoded, fullLength]
      have : 0 < data.length := List.length_pos_iff.2 empty
      omega
    have notEmptyLetters : (encode data).isEmpty = false := by
      rw [List.isEmpty_eq_false_iff, ← List.length_pos_iff]
      exact lettersPositive
    have count : (encode data).length / 11 = data.length / 8 := by
      rw [encoded, fullLength]
      omega
    have last : (encode data).length % 11 = 0 := by
      rw [encoded, fullLength]
      omega
    have fullRead : decodeFullBlocks (data.length / 8) (encode data) = some (data.take (8 * (data.length / 8))) := by
      rw [encoded, ← List.append_nil (encodeFullBlocks _ data)]
      exact fullDecoded []
    have noLast : decodedBlockSizes 0 = 0 := rfl
    simp only [decode, notEmptyLetters, fullEncodedBlockSize_eq, count, last, noLast, Bool.false_eq_true, if_false,
      fullRead, lt_self_iff_false, Option.bind_eq_bind, Option.bind_some, pure]
    rw [List.take_of_length_le (by omega)]

/-- Everything `decode` accepts is what `encode` writes for what it returns. -/
theorem encode_of_decode {enc : List Char} {data : List UInt8} (decoded : decode enc = some data) :
    encode data = enc := by
  by_cases empty : enc = []
  · subst empty
    simp only [decode, List.isEmpty_nil, if_true, Option.some.injEq] at decoded
    subst decoded
    rfl
  have notEmpty : enc.isEmpty = false := List.isEmpty_eq_false_iff.2 empty
  have split := Nat.div_add_mod enc.length 11
  have lastShort : enc.length % 11 < 11 := Nat.mod_lt _ (by norm_num)
  simp only [decode, notEmpty, Bool.false_eq_true, if_false] at decoded
  rw [fullEncodedBlockSize_eq] at decoded
  by_cases invalid : decodedBlockSizes (enc.length % 11) < 0
  · rw [if_pos invalid] at decoded
    cases decoded
  rw [if_neg invalid] at decoded
  obtain ⟨atMost, encoded⟩ := encodedBlockSizes_decodedBlockSizes (not_lt.1 invalid)
  cases fullFound : decodeFullBlocks (enc.length / 11) enc with
  | none => simp [fullFound] at decoded
  | some full =>
    obtain ⟨fullEncoded, fullLength⟩ := encodeFullBlocks_of_decodeFullBlocks _ (by omega) fullFound
    simp only [fullFound, Option.bind_eq_bind, Option.bind_some] at decoded
    by_cases ragged : 0 < enc.length % 11
    · rw [if_pos ragged] at decoded
      cases lastFound : decodeBlock (enc.drop (enc.length / 11 * 11)) with
      | none => simp [lastFound] at decoded
      | some last =>
        simp only [lastFound, Option.bind_some, pure, Option.some.injEq] at decoded
        subst decoded
        obtain ⟨lastEncoded, lastPositive, lastAtMost⟩ := encodeBlock_of_decodeBlock lastFound
        -- the last block has fewer letters than a full one, so fewer than eight bytes
        have lastLetters := congrArg List.length lastEncoded
        rw [length_encodeBlock, List.length_drop] at lastLetters
        have lastShortBytes : last.length < 8 := by
          rcases Nat.lt_or_eq_of_le lastAtMost with below | eight
          · exact below
          · rw [eight, show encodedBlockSizes.getD 8 0 = 11 from rfl] at lastLetters
            omega
        have notEmptyData : (full ++ last).isEmpty = false := by
          rw [List.isEmpty_eq_false_iff, ← List.length_pos_iff, List.length_append]
          omega
        have count : (full ++ last).length / 8 = enc.length / 11 := by
          rw [List.length_append, fullLength]
          omega
        have rest : (full ++ last).length % 8 = last.length := by
          rw [List.length_append, fullLength]
          omega
        have lastDropped : (full ++ last).drop (enc.length / 11 * 8) = last := List.drop_left' (by omega)
        simp only [encode, notEmptyData, fullBlockSize_eq, count, rest, lastPositive, if_true, Bool.false_eq_true,
          if_false, encodeFullBlocks_append _ fullLength, fullEncoded, lastDropped, lastEncoded]
        rw [Nat.mul_comm, List.take_append_drop]
    · rw [if_neg ragged] at decoded
      simp only [pure, Option.some.injEq] at decoded
      subst decoded
      have positive : 0 < enc.length := List.length_pos_iff.2 empty
      have notEmptyData : full.isEmpty = false := by
        rw [List.isEmpty_eq_false_iff, ← List.length_pos_iff, fullLength]
        omega
      have count : full.length / 8 = enc.length / 11 := by
        rw [fullLength]
        omega
      have rest : full.length % 8 = 0 := by
        rw [fullLength]
        omega
      simp only [encode, notEmptyData, fullBlockSize_eq, count, rest, Nat.lt_irrefl, Bool.false_eq_true, if_false,
        List.append_nil, fullEncoded]
      exact List.take_of_length_le (by omega)

/-! ## What `decode` accepts -/

/-- A block `encode_block` can write: a length of `encoded_block_sizes` for some
`k` of one to eight bytes, letters of the alphabet, and a value below `256 ^ k`. -/
def WellFormedBlock (block : List Char) : Prop :=
  ∃ k, 0 < k ∧ k ≤ 8 ∧ encodedBlockSizes.getD k 0 = block.length ∧
    ∃ digits, block.mapM digitOf? = some digits ∧ Nat.ofDigits 58 digits.reverse < 256 ^ k

theorem decodeBlock_isSome_iff (block : List Char) : (decodeBlock block).isSome ↔ WellFormedBlock block := by
  constructor
  · intro accepted
    obtain ⟨bytes, decoded⟩ := Option.isSome_iff_exists.1 accepted
    obtain ⟨encoded, positive, atMost⟩ := encodeBlock_of_decodeBlock decoded
    have inRoom := lt_of_lt_of_le (ofDigits_reverse_bytes_lt bytes) (encodedBlockSizes_fit atMost).1
    refine ⟨bytes.length, positive, atMost, by rw [← encoded, length_encodeBlock],
      digitsBE 58 (encodedBlockSizes.getD bytes.length 0) (Nat.ofDigits 256 (bytes.map UInt8.toNat).reverse), ?_, ?_⟩
    · rw [← encoded, encodeBlock_eq]
      exact mapM_digitOf?_map_letterOf fun d member => lt_of_mem_digitsBE (by norm_num) member
    · rw [ofDigits_reverse_digitsBE inRoom]
      exact ofDigits_reverse_bytes_lt bytes
  · rintro ⟨k, positive, atMost, sized, digits, found, fits⟩
    obtain ⟨letters, small⟩ := eq_map_letterOf_of_mapM found
    -- the bytes the block stands for encode back to it
    have bytes : ((digitsBE 256 k (Nat.ofDigits 58 digits.reverse)).map UInt8.ofNat).map UInt8.toNat =
        digitsBE 256 k (Nat.ofDigits 58 digits.reverse) := by
      rw [← uint64To8be_eq, toNat_uint64To8be]
    have lengths : digits.length = encodedBlockSizes.getD k 0 := by
      rw [sized, letters, List.length_map]
    have encoded : encodeBlock ((digitsBE 256 k (Nat.ofDigits 58 digits.reverse)).map UInt8.ofNat) = block := by
      rw [encodeBlock_eq, bytes, List.length_map, length_digitsBE, ofDigits_reverse_digitsBE fits, ← lengths,
        digitsBE_ofDigits_reverse small, letters]
    rw [← encoded, decodeBlock_encodeBlock (by simp; omega) (by simp; omega)]
    rfl

theorem decodeFullBlocks_isSome_iff (count : Nat) (enc : List Char) :
    (decodeFullBlocks count enc).isSome ↔ ∀ i < count, (decodeBlock ((enc.drop (11 * i)).take 11)).isSome := by
  induction count generalizing enc with
  | zero => simp [decodeFullBlocks]
  | succ count inductionHypothesis =>
    rw [Nat.forall_lt_succ_left]
    simp only [Nat.mul_zero, List.drop_zero]
    have shifted : ∀ i, (enc.drop (11 * (i + 1))).take 11 = ((enc.drop 11).drop (11 * i)).take 11 := by
      intro i
      rw [List.drop_drop, Nat.mul_succ, Nat.add_comm]
    simp only [shifted, ← inductionHypothesis, decodeFullBlocks, fullEncodedBlockSize_eq]
    cases decodeBlock (enc.take 11) <;> cases decodeFullBlocks count (enc.drop 11) <;> simp

/-- The letters `decode` accepts: a last block of a length some block encodes
to, and every full block and the last one well formed. -/
def WellFormed (enc : List Char) : Prop :=
  enc.length % 11 ∈ encodedBlockSizes ∧ (∀ i < enc.length / 11, WellFormedBlock ((enc.drop (11 * i)).take 11)) ∧
    (0 < enc.length % 11 → WellFormedBlock (enc.drop (enc.length / 11 * 11)))

theorem decodedBlockSizes_nonneg_iff (size : Nat) : 0 ≤ decodedBlockSizes size ↔ size ∈ encodedBlockSizes := by
  unfold decodedBlockSizes
  cases found : encodedBlockSizes.idxOf? size with
  | none =>
    rw [List.idxOf?_eq_none_iff] at found
    simp [found]
  | some k =>
    obtain ⟨bound, atK⟩ := getD_of_idxOf?_eq_some 0 found
    simp only [Int.natCast_nonneg, true_iff]
    rw [← atK, List.getD_eq_getElem?_getD, List.getElem?_eq_getElem bound, Option.getD_some]
    exact List.getElem_mem bound

theorem decode_isSome_iff (enc : List Char) : (decode enc).isSome ↔ WellFormed enc := by
  by_cases empty : enc = []
  · subst empty
    simp [decode, WellFormed, encodedBlockSizes]
  have notEmpty : enc.isEmpty = false := List.isEmpty_eq_false_iff.2 empty
  -- the three checks of `decode`, one after another
  have checks : (decode enc).isSome ↔ 0 ≤ decodedBlockSizes (enc.length % 11) ∧
      (decodeFullBlocks (enc.length / 11) enc).isSome ∧
      (0 < enc.length % 11 → (decodeBlock (enc.drop (enc.length / 11 * 11))).isSome) := by
    unfold decode
    simp only [notEmpty, Bool.false_eq_true, if_false]
    rw [fullEncodedBlockSize_eq]
    by_cases invalid : decodedBlockSizes (enc.length % 11) < 0
    · rw [if_pos invalid]
      simp only [Option.isSome_none, Bool.false_eq_true, false_iff, not_and]
      intro nonneg
      omega
    rw [if_neg invalid]
    cases decodeFullBlocks (enc.length / 11) enc with
    | none => simp
    | some full =>
      by_cases ragged : 0 < enc.length % 11
      · cases decodeBlock (enc.drop (enc.length / 11 * 11)) with
        | none => simp [ragged]
        | some last =>
          simp [ragged]
          omega
      · simp [ragged]
        omega
  rw [checks, decodedBlockSizes_nonneg_iff, decodeFullBlocks_isSome_iff]
  simp only [decodeBlock_isSome_iff, WellFormed]

theorem base58_round_trip_and_canonical :
    (∀ data : List UInt8, decode (encode data) = some data) ∧
      ∀ enc : List Char, ((decode enc).isSome ↔ ∃ data, encode data = enc) ∧
        ((decode enc).isSome ↔ WellFormed enc) ∧ ∀ data, decode enc = some data → encode data = enc := by
  refine ⟨decode_encode, fun enc => ⟨⟨fun accepted => ?_, ?_⟩, decode_isSome_iff enc, fun _ => encode_of_decode⟩⟩
  · obtain ⟨data, decoded⟩ := Option.isSome_iff_exists.1 accepted
    exact ⟨data, encode_of_decode decoded⟩
  · rintro ⟨data, rfl⟩
    rw [decode_encode]
    rfl

/-! ## Addresses -/

/-- `encode_addr`: the varint tag, the data and the first four bytes of
`cn_fast_hash` of both, in base 58. -/
def encodeAddr (cnFastHash : List UInt8 → Vector UInt8 32) (tag : UInt64) (data : List UInt8) : List Char :=
  let buf := writeVarint tag.toNat ++ data
  encode (buf ++ (cnFastHash buf).toList.take addrChecksumSize)

/-- `decode_addr`: the tag and the data, none where it returns `false`. -/
def decodeAddr (cnFastHash : List UInt8 → Vector UInt8 32) (addr : List Char) : Option (UInt64 × List UInt8) := do
  let addrData ← decode addr
  if addrData.length ≤ addrChecksumSize then none
  else
    let checksum := addrData.drop (addrData.length - addrChecksumSize)
    let addrData := addrData.take (addrData.length - addrChecksumSize)
    let expectedChecksum := (cnFastHash addrData).toList.take addrChecksumSize
    if expectedChecksum ≠ checksum then none
    else
      let read := readVarint 64 addrData
      if read.code ≤ 0 then none
      else some (UInt64.ofNat read.value, addrData.drop read.code.toNat)

/-- The address codec gives back the tag and the data, whatever the hash, and
the varint read stops exactly after the bytes the writer produced. -/
theorem decodeAddr_encodeAddr (cnFastHash : List UInt8 → Vector UInt8 32) (tag : UInt64) (data : List UInt8) :
    decodeAddr cnFastHash (encodeAddr cnFastHash tag data) = some (tag, data) ∧
      readVarint 64 (writeVarint tag.toNat ++ data) = ⟨(writeVarint tag.toNat).length, tag.toNat, data⟩ := by
  have read := @readVarint_writeVarint 64 tag.toNat tag.toNat_lt data
  refine ⟨?_, read⟩
  have checksumLength : ((cnFastHash (writeVarint tag.toNat ++ data)).toList.take addrChecksumSize).length = 4 := by
    simp
  have prefixLength : 0 < (writeVarint tag.toNat).length := List.length_pos_iff.2 (writeVarint_ne_nil _)
  have bufLength : (writeVarint tag.toNat ++ data ++ (cnFastHash (writeVarint tag.toNat ++ data)).toList.take
      addrChecksumSize).length - addrChecksumSize = (writeVarint tag.toNat ++ data).length := by
    rw [List.length_append, checksumLength, addrChecksumSize_eq]
    omega
  have longEnough : ¬(writeVarint tag.toNat ++ data ++ (cnFastHash (writeVarint tag.toNat ++ data)).toList.take
      addrChecksumSize).length ≤ addrChecksumSize := by
    rw [List.length_append, checksumLength, addrChecksumSize_eq, List.length_append]
    omega
  have counted : ¬((writeVarint tag.toNat).length : Int) ≤ 0 := by omega
  simp only [encodeAddr, decodeAddr, decode_encode, Option.bind_eq_bind, Option.bind_some, bufLength,
    List.take_left' rfl, List.drop_left' rfl, read, longEnough, ne_eq, not_true_eq_false, counted, if_false,
    Int.toNat_natCast, UInt64.ofNat_toNat]

example : encodeBlock [0xFF] = "5Q".toList := by decide
example : encodeBlock [0x06, 0x15, 0x60, 0x13, 0x76, 0x28, 0x79, 0xF7] = "22222222222".toList := by decide
example : decodeBlock "5R".toList = none := by decide

end ElectroneumClassic.Tools.Base58
