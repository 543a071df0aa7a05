import ElectroneumClassic.Basic.Types
import ElectroneumClassic.Lib.Machine
import Mathlib.Data.List.GetD

/-!
# Difficulty algorithms

`difficulty.cpp`: the proof-of-work target check and the four next-difficulty
algorithms the chain has used.

* `nextDifficulty` is the original CryptoNote algorithm: sort the window's
  timestamps, cut outliers, divide the work by the time span, rounding up.
* `nextDifficultyV2` is LWMA over `double`s.  Its `solveTime * i` multiplies an
  `int64_t` by a `size_t`, so the product is taken as `uint64_t` before the
  division by `k`; a negative solve time becomes a huge positive weight.
* `nextDifficultyV3` is LWMA-2 over `int64_t` and `nextDifficultyV9` is LWMA-3
  over `uint64_t`; every arithmetic step keeps the source's width.

A read past the end of a window (undefined behaviour in the source) is `0`.
-/

namespace ElectroneumClassic.Cryptonote

open Config Machine

/-- `mul` on x86_64: `mul128`, the exact 128-bit product as `(low, high)`. -/
def mul (a b : Nat) : Nat × Nat := (a * b % 2 ^ 64, a * b / 2 ^ 64)

/-- `mul` on other targets: four 32-bit partial products added up with their
carries, every step a `uint64_t`. -/
def mulPortable (a b : Nat) : Nat × Nat :=
  let aLow := a &&& 0xFFFFFFFF
  let aHigh := a >>> 32
  let bLow := b &&& 0xFFFFFFFF
  let bHigh := b >>> 32
  let res := wrapU64 (aLow * bLow)
  let lowRes1 := res &&& 0xFFFFFFFF
  let carry := res >>> 32
  let res := wrapU64 (aHigh * bLow + carry)
  let highResHigh1 := res >>> 32
  let highResLow1 := res &&& 0xFFFFFFFF
  let res := wrapU64 (aLow * bHigh)
  let lowRes2 := res &&& 0xFFFFFFFF
  let carry := res >>> 32
  let res := wrapU64 (aHigh * bHigh + carry)
  let highResHigh2 := res >>> 32
  let highResLow2 := res &&& 0xFFFFFFFF
  let r := wrapU64 (highResLow1 + lowRes2)
  let carry := r >>> 32
  let low := wrapU64 (r <<< 32) ||| lowRes1
  let r := wrapU64 (highResHigh1 + highResLow2 + carry)
  let d3 := r &&& 0xFFFFFFFF
  let carry := r >>> 32
  let r := wrapU64 (highResHigh2 + carry)
  let high := d3 ||| wrapU64 (r <<< 32)
  (low, high)

/-- `swap64le(((const uint64_t *) &hash)[i])`: the `i`-th little-endian word. -/
def hashWord (hash : Hash) (i : Nat) : Nat := hash / 2 ^ (64 * i) % 2 ^ 64

def cadd (a b : Nat) : Bool := decide (wrapU64 (a + b) < a)

def cadc (a b : Nat) (c : Bool) : Bool :=
  decide (wrapU64 (a + b) < a) || (c && wrapU64 (a + b) == 2 ^ 64 - 1)

/-- `check_hash`: the hash, read as a 256-bit number, times the difficulty
does not overflow 256 bits. -/
def checkHash (hash : Hash) (difficulty : Nat) : Bool :=
  let (top, high) := mul (hashWord hash 3) difficulty
  if high != 0 then false
  else
    let (_, cur) := mul (hashWord hash 0) difficulty
    let (low, high) := mul (hashWord hash 1) difficulty
    let carry := cadd cur low
    let cur := high
    let (low, high) := mul (hashWord hash 2) difficulty
    let carry := cadc cur low carry
    let carry := cadc high top carry
    !carry

/-- `next_difficulty`: the original algorithm, over at most
`difficultyWindow` blocks with `DIFFICULTY_CUT` outliers cut at each end. -/
def nextDifficulty (timestamps cumulativeDifficulties : List Nat)
    (targetSeconds version : Nat) : Nat :=
  let difficultyWindow := if version ≥ 6 then DIFFICULTY_WINDOW_V6_OLD else DIFFICULTY_WINDOW
  let (timestamps, cumulativeDifficulties) :=
    if timestamps.length > difficultyWindow then
      (resize timestamps difficultyWindow 0, resize cumulativeDifficulties difficultyWindow 0)
    else (timestamps, cumulativeDifficulties)
  let length := timestamps.length
  if length ≤ 1 then 1
  else
    let sorted := timestamps.insertionSort (· ≤ ·)
    let (cutBegin, cutEnd) :=
      if length ≤ difficultyWindow - 2 * DIFFICULTY_CUT then (0, length)
      else
        let cutBegin := (length - (difficultyWindow - 2 * DIFFICULTY_CUT) + 1) / 2
        (cutBegin, cutBegin + (difficultyWindow - 2 * DIFFICULTY_CUT))
    let timeSpan := subU64 (sorted.getD (cutEnd - 1) 0) (sorted.getD cutBegin 0)
    let timeSpan := if timeSpan = 0 then 1 else timeSpan
    let totalWork := subU64 (cumulativeDifficulties.getD (cutEnd - 1) 0)
      (cumulativeDifficulties.getD cutBegin 0)
    let (low, high) := mul totalWork targetSeconds
    if high != 0 || wrapU64 (low + timeSpan - 1) < low then 0
    else (low + timeSpan - 1) / timeSpan

/-- `static_cast<int64_t>` of a rounded non-negative `double`, as x86_64
converts it: out-of-range values become `INT64_MIN`. -/
def floatToInt64 (x : Float) : Int :=
  if x < 9223372036854775808.0 then (x.toUInt64.toNat : Int) else -2 ^ 63

/-- `next_difficulty_v2`: LWMA over `double`s with `N = DIFFICULTY_WINDOW_V6`. -/
def nextDifficultyV2 (timestamps cumulativeDifficulties : List Nat)
    (targetSeconds : Nat) : Nat :=
  let T : Int := targetSeconds
  let (timestamps, cumulativeDifficulties) :=
    if timestamps.length > DIFFICULTY_WINDOW_V6 then
      (resize timestamps (DIFFICULTY_WINDOW_V6 + 1) 0,
        resize cumulativeDifficulties (DIFFICULTY_WINDOW_V6 + 1) 0)
    else (timestamps, cumulativeDifficulties)
  let n := timestamps.length
  if n < 6 then 1
  else
    let N := if n < DIFFICULTY_WINDOW_V6 + 1 then n - 1 else DIFFICULTY_WINDOW_V6
    let adjust : Float := 0.998
    let k : Float := Float.ofNat (N * (N + 1) / 2)
    let (lwma, sumInverseD) := (List.range N).foldl (fun (acc : Float × Float) j =>
        let i := j + 1
        let solveTime := wrapI64 ((timestamps.getD i 0 : Int) - (timestamps.getD (i - 1) 0 : Int))
        let solveTime := min (T * 7) (max solveTime (-7 * T))
        let difficulty := subU64 (cumulativeDifficulties.getD i 0)
          (cumulativeDifficulties.getD (i - 1) 0)
        -- `solveTime * i` is an `int64_t` times a `size_t`: a `uint64_t` product
        let weighted := wrapU64 (Int.toNat (solveTime % 2 ^ 64) * i)
        (acc.1 + Float.ofNat weighted / k, acc.2 + 1 / Float.ofNat difficulty)) (0, 0)
    let lwma := if floatToInt64 lwma.round < T.tdiv 20 then Float.ofInt (T.tdiv 20) else lwma
    let harmonicMeanD := Float.ofNat N / sumInverseD * adjust
    let nextDifficulty := harmonicMeanD * Float.ofInt T / lwma
    nextDifficulty.toUInt64.toNat

/-- `next_difficulty_v3`: LWMA-2 over `int64_t` with `N = DIFFICULTY_WINDOW_V6 - 1`. -/
def nextDifficultyV3 (timestamps cumulativeDifficulties : List Nat)
    (_targetSeconds : Nat) : Nat :=
  let T : Int := DIFFICULTY_TARGET
  let N : Int := DIFFICULTY_WINDOW_V6 - 1
  let FTL : Int := CRYPTONOTE_BLOCK_FUTURE_TIME_LIMIT_V6
  let stamp (i : Nat) : Int := wrapI64 (timestamps.getD i 0)
  let (L, sum3ST) := (List.range (DIFFICULTY_WINDOW_V6 - 1)).foldl (fun (acc : Int × Int) j =>
      let i := j + 1
      let ST := max (-FTL) (min (wrapI64 (stamp i - stamp (i - 1))) (6 * T))
      (wrapI64 (acc.1 + ST * i), if (i : Int) > N - 3 then wrapI64 (acc.2 + ST) else acc.2))
      (0, 0)
  let cd (i : Nat) : Nat := cumulativeDifficulties.getD i 0
  let work : Int := wrapI64 (subU64 (cd (DIFFICULTY_WINDOW_V6 - 1)) (cd 0))
  let nextD := (wrapI64 (wrapI64 (wrapI64 (work * T) * (N + 1)) * 99)).tdiv (wrapI64 (100 * 2 * L))
  let prevD : Int := wrapI64 (subU64 (cd (DIFFICULTY_WINDOW_V6 - 1)) (cd (DIFFICULTY_WINDOW_V6 - 2)))
  let nextD := max ((wrapI64 (prevD * 67)).tdiv 100) (min nextD ((wrapI64 (prevD * 150)).tdiv 100))
  let nextD := if sum3ST < (8 * T).tdiv 10 then max nextD ((wrapI64 (prevD * 110)).tdiv 100) else nextD
  Int.toNat (nextD % 2 ^ 64)

/-- `next_difficulty_v9`: LWMA-3 over `uint64_t` with `N = DIFFICULTY_WINDOW_V9`,
shortened to the window when fewer blocks are given. -/
def nextDifficultyV9 (timestamps cumulativeDifficulties : List Nat)
    (_targetSeconds : Nat) : Nat :=
  let T := DIFFICULTY_TARGET
  if timestamps.length ≤ 10 then 100
  else
    let N := if timestamps.length < DIFFICULTY_WINDOW_V9 + 1 then timestamps.length - 1
      else DIFFICULTY_WINDOW_V9
    let (L, sum3ST, _) := (List.range N).foldl (fun (acc : Nat × Nat × Nat) j =>
        let i := j + 1
        let previous := acc.2.2
        let this := if timestamps.getD i 0 > previous then timestamps.getD i 0
          else wrapU64 (previous + 1)
        let ST := min (6 * T) (subU64 this previous)
        (wrapU64 (acc.1 + ST * i), (if i > N - 3 then wrapU64 (acc.2.1 + ST) else acc.2.1), this))
        (0, 0, timestamps.getD 0 0)
    let cd (i : Nat) : Nat := cumulativeDifficulties.getD i 0
    let nextD := wrapU64 (wrapU64 (wrapU64 (subU64 (cd N) (cd 0) * T) * (N + 1)) * 99) /
      wrapU64 (100 * 2 * L)
    let prevD := subU64 (cd N) (cd (N - 1))
    let nextD := max (wrapU64 (prevD * 67) / 100) (min nextD (wrapU64 (prevD * 150) / 100))
    if sum3ST < 8 * T / 10 then max nextD (wrapU64 (prevD * 108) / 100) else nextD

/-! ## The two multiplications -/

theorem and_low_word (x : Nat) : x &&& 0xFFFFFFFF = x % 2 ^ 32 := Nat.and_two_pow_sub_one_eq_mod x 32

/-- A word shifted up by 32 bits, in `uint64_t`, ORed with a low half adds. -/
theorem wrapU64_shiftLeft_or {x y : Nat} (low : y < 2 ^ 32) :
    wrapU64 (x <<< 32) ||| y = x % 2 ^ 32 * 2 ^ 32 + y := by
  have shifted : wrapU64 (x <<< 32) = 2 ^ 32 * (x % 2 ^ 32) := by
    rw [wrapU64, Nat.shiftLeft_eq, show (2 : Nat) ^ 64 = 2 ^ 32 * 2 ^ 32 by norm_num, Nat.mul_mod_mul_right,
      Nat.mul_comm]
  rw [shifted, ← Nat.two_pow_add_eq_or_of_lt low, Nat.mul_comm]

theorem halves_of_lt (high : Nat) {low : Nat} (bounded : low < 2 ^ 32) :
    (high * 2 ^ 32 + low) / 2 ^ 32 = high ∧ (high * 2 ^ 32 + low) % 2 ^ 32 = low := by
  omega

/-- The portable `mul` is the exact product: no carry between the partial
products is lost. -/
theorem mulPortable_eq {a b : Nat} (ha : a < 2 ^ 64) (hb : b < 2 ^ 64) : mulPortable a b = mul a b := by
  -- the 32-bit halves of the operands
  obtain ⟨aHigh, aLow, rfl, aHighBound, aLowBound⟩ : ∃ aHigh aLow, a = aHigh * 2 ^ 32 + aLow ∧
      aHigh < 2 ^ 32 ∧ aLow < 2 ^ 32 := ⟨a / 2 ^ 32, a % 2 ^ 32, by omega, by omega, by omega⟩
  obtain ⟨bHigh, bLow, rfl, bHighBound, bLowBound⟩ : ∃ bHigh bLow, b = bHigh * 2 ^ 32 + bLow ∧
      bHigh < 2 ^ 32 ∧ bLow < 2 ^ 32 := ⟨b / 2 ^ 32, b % 2 ^ 32, by omega, by omega, by omega⟩
  obtain ⟨aHighHalf, aLowHalf⟩ := halves_of_lt aHigh aLowBound
  obtain ⟨bHighHalf, bLowHalf⟩ := halves_of_lt bHigh bLowBound
  have product : (aHigh * 2 ^ 32 + aLow) * (bHigh * 2 ^ 32 + bLow) =
      aHigh * bHigh * 2 ^ 64 + (aHigh * bLow + aLow * bHigh) * 2 ^ 32 + aLow * bLow := by ring
  -- each partial product fits in a word with a 32-bit carry added
  have bounded : ∀ x y : Nat, x < 2 ^ 32 → y < 2 ^ 32 → x * y ≤ (2 ^ 32 - 1) * (2 ^ 32 - 1) := fun x y hx hy =>
    Nat.mul_le_mul (by omega) (by omega)
  have p1 := bounded aLow bLow aLowBound bLowBound
  have p2 := bounded aHigh bLow aHighBound bLowBound
  have p3 := bounded aLow bHigh aLowBound bHighBound
  have p4 := bounded aHigh bHigh aHighBound bHighBound
  simp only [mulPortable, mul, and_low_word, Nat.shiftRight_eq_div_pow, aHighHalf, aLowHalf, bHighHalf, bLowHalf,
    product]
  rw [wrapU64_shiftLeft_or (Nat.mod_lt _ (by norm_num)), Nat.or_comm,
    wrapU64_shiftLeft_or (Nat.mod_lt _ (by norm_num))]
  generalize aLow * bLow = p1 at *
  generalize aHigh * bLow = p2 at *
  generalize aLow * bHigh = p3 at *
  generalize aHigh * bHigh = p4 at *
  simp only [wrapU64, Prod.mk.injEq]
  omega

/-- The portable `mul` gives the high and low words of the exact product, as
`mul128` does on x86_64. -/
theorem portable_mul_exact (a b : Nat) (ha : a < 2 ^ 64) (hb : b < 2 ^ 64) :
    (mulPortable a b).2 * 2 ^ 64 + (mulPortable a b).1 = a * b ∧ mulPortable a b = mul a b := by
  have same := mulPortable_eq ha hb
  refine ⟨?_, same⟩
  rw [same, mul, Nat.mul_comm]
  exact Nat.div_add_mod (a * b) (2 ^ 64)

theorem portable_mul_exact_at_max :
    2 ^ 64 - 1 < 2 ^ 64 ∧
      (mulPortable (2 ^ 64 - 1) (2 ^ 64 - 1)).2 * 2 ^ 64 + (mulPortable (2 ^ 64 - 1) (2 ^ 64 - 1)).1 =
        (2 ^ 64 - 1) * (2 ^ 64 - 1) :=
  ⟨by decide, (portable_mul_exact (2 ^ 64 - 1) (2 ^ 64 - 1) (by decide) (by decide)).1⟩

/-! ## The target check -/

theorem hashWord_lt (hash : Hash) (i : Nat) : hashWord hash i < 2 ^ 64 := Nat.mod_lt _ (by norm_num)

/-- A 256-bit value is the sum of its four little-endian words. -/
theorem eq_hashWords {value : Nat} (fits : value < 2 ^ 256) :
    value = hashWord value 0 + 2 ^ 64 * hashWord value 1 + 2 ^ 128 * hashWord value 2 +
      2 ^ 192 * hashWord value 3 := by
  simp only [hashWord, Nat.reduceMul, Nat.pow_zero, Nat.div_one]
  omega

/-- `cadd` is the carry out of a 64-bit addition. -/
theorem toNat_cadd {a b : Nat} (ha : a < 2 ^ 64) (hb : b < 2 ^ 64) : (cadd a b).toNat = (a + b) / 2 ^ 64 := by
  unfold cadd wrapU64
  by_cases overflow : (a + b) % 2 ^ 64 < a
  · rw [decide_eq_true overflow, Bool.toNat_true]
    omega
  · rw [decide_eq_false overflow, Bool.toNat_false]
    omega

/-- `cadc` is the carry out of a 64-bit addition with a carry in. -/
theorem toNat_cadc {a b : Nat} (c : Bool) (ha : a < 2 ^ 64) (hb : b < 2 ^ 64) :
    (cadc a b c).toNat = (a + b + c.toNat) / 2 ^ 64 := by
  unfold cadc wrapU64
  by_cases overflow : (a + b) % 2 ^ 64 < a
  · rw [decide_eq_true overflow, Bool.true_or, Bool.toNat_true]
    cases c <;> simp only [Bool.toNat_false, Bool.toNat_true] <;> omega
  · rw [decide_eq_false overflow, Bool.false_or]
    cases c with
    | false => simp only [Bool.false_and, Bool.toNat_false]; omega
    | true =>
      by_cases full : (a + b) % 2 ^ 64 = 2 ^ 64 - 1
      · simp only [Bool.true_and, full, beq_self_eq_true, Bool.toNat_true]
        omega
      · simp only [Bool.true_and, beq_eq_false_iff_ne.2 full, Bool.toNat_false, Bool.toNat_true]
        omega

/-- `check_hash` accepts exactly the hashes whose product with the difficulty
stays below `2 ^ 256`: the product is never formed, and the early exit on the
top word and the two carry tests decide the same thing. -/
theorem check_hash_iff_product_fits {hash : Hash} {difficulty : Nat} (fits : hash < 2 ^ 256) (word : difficulty < 2 ^ 64) :
    checkHash hash difficulty = true ↔ hash * difficulty < 2 ^ 256 := by
  -- `omega` reads the arithmetic of a `Hash` only once it is typed as `Nat`
  obtain ⟨value, rfl⟩ : ∃ value : Nat, value = hash := ⟨hash, rfl⟩
  replace fits : value < 2 ^ 256 := fits
  show checkHash value difficulty = true ↔ value * difficulty < 2 ^ 256
  have product : value * difficulty = hashWord value 0 * difficulty + 2 ^ 64 * (hashWord value 1 * difficulty) +
      2 ^ 128 * (hashWord value 2 * difficulty) + 2 ^ 192 * (hashWord value 3 * difficulty) := by
    conv_lhs => rw [eq_hashWords fits]
    ring
  have bounded : ∀ i, hashWord value i * difficulty < 2 ^ 128 := fun i =>
    calc hashWord value i * difficulty < 2 ^ 64 * 2 ^ 64 := Nat.mul_lt_mul'' (hashWord_lt value i) word
      _ = 2 ^ 128 := by norm_num
  have b0 := bounded 0
  have b1 := bounded 1
  have b2 := bounded 2
  have b3 := bounded 3
  simp only [checkHash, mul]
  -- a high half of the top word's product is an overflow by itself
  by_cases top : hashWord value 3 * difficulty / 2 ^ 64 = 0
  · simp only [top, bne_self_eq_false, Bool.false_eq_true, if_false]
    rw [Bool.not_eq_true', ← Bool.toNat_eq_zero, toNat_cadc _ (by omega) (by omega),
      toNat_cadc _ (by omega) (by omega), toNat_cadd (by omega) (by omega)]
    omega
  · simp only [bne_iff_ne.2 top, if_true, Bool.false_eq_true, false_iff, Nat.not_lt]
    omega

theorem check_hash_at_carry_boundary :
    (2 ^ 192 - 1 < 2 ^ 256 ∧ 2 ^ 64 - 1 < 2 ^ 64) ∧
      (checkHash (2 ^ 192 - 1) (2 ^ 64 - 1) = true ↔ (2 ^ 192 - 1) * (2 ^ 64 - 1) < 2 ^ 256) :=
  ⟨⟨by decide, by decide⟩, check_hash_iff_product_fits (by decide) (by decide)⟩

example : checkHash (2 ^ 255) 2 = false := by decide
example : checkHash (2 ^ 255 - 1) 2 = true := by decide

/-! ## LWMA-2 -/

/-- One turn of the loop of `next_difficulty_v3`: the solve time, clamped to
`[-FTL, 6 * T]`, is added to `L` with weight `i` and to the sum of the last
three. -/
def lwma2Step (timestamps : List Nat) (acc : Int × Int) (j : Nat) : Int × Int :=
  let T : Int := DIFFICULTY_TARGET
  let N : Int := DIFFICULTY_WINDOW_V6 - 1
  let FTL : Int := CRYPTONOTE_BLOCK_FUTURE_TIME_LIMIT_V6
  let stamp (i : Nat) : Int := wrapI64 (timestamps.getD i 0)
  let i := j + 1
  let ST := max (-FTL) (min (wrapI64 (stamp i - stamp (i - 1))) (6 * T))
  (wrapI64 (acc.1 + ST * i), if (i : Int) > N - 3 then wrapI64 (acc.2 + ST) else acc.2)

/-- `L` and the sum of the last three solve times after the loop of
`next_difficulty_v3`. -/
def lwma2Sums (timestamps : List Nat) : Int × Int :=
  (List.range (DIFFICULTY_WINDOW_V6 - 1)).foldl (lwma2Step timestamps) (0, 0)

/-- Equal timestamps have solve times `0`, so `L` and the last three add up to `0`. -/
theorem lwma2Sums_of_flat {timestamps : List Nat}
    (flat : ∀ i < DIFFICULTY_WINDOW_V6, timestamps.getD i 0 = timestamps.getD 0 0) :
    lwma2Sums timestamps = (0, 0) := by
  unfold lwma2Sums
  apply foldl_range_invariant (lwma2Step timestamps) (fun _ acc => acc = (0, 0)) rfl
  intro j bound acc zero
  have same : timestamps.getD (j + 1) 0 = timestamps.getD j 0 := by
    rw [flat (j + 1) (by unfold DIFFICULTY_WINDOW_V6 at bound ⊢; omega), flat j (by unfold DIFFICULTY_WINDOW_V6 at bound ⊢; omega)]
  subst zero
  -- a solve time of `0` lies inside the clamp and adds nothing
  have inside : max (-(CRYPTONOTE_BLOCK_FUTURE_TIME_LIMIT_V6 : Int)) (min 0 (6 * DIFFICULTY_TARGET)) = 0 := by
    rw [min_eq_left (by unfold DIFFICULTY_TARGET; norm_num)]
    exact max_eq_right (by simp)
  simp only [lwma2Step, Nat.add_sub_cancel, same, sub_self, wrapI64_zero, inside, zero_mul, zero_add, ite_self]

/-! ## LWMA-3 -/

/-- One turn of the loop of `next_difficulty_v9`: the timestamp is made later
than the previous one, and its solve time, at most `6 * T`, is added to `L`
with weight `i` and to the sum of the last three. -/
def lwma3Step (timestamps : List Nat) (N : Nat) (acc : Nat × Nat × Nat) (j : Nat) : Nat × Nat × Nat :=
  let T := DIFFICULTY_TARGET
  let i := j + 1
  let previous := acc.2.2
  let this := if timestamps.getD i 0 > previous then timestamps.getD i 0 else wrapU64 (previous + 1)
  let ST := min (6 * T) (subU64 this previous)
  (wrapU64 (acc.1 + ST * i), (if i > N - 3 then wrapU64 (acc.2.1 + ST) else acc.2.1), this)

/-- `L`, the sum of the last three solve times and the last timestamp after
the loop of `next_difficulty_v9` over `N` blocks. -/
def lwma3Sums (timestamps : List Nat) (N : Nat) : Nat × Nat × Nat :=
  (List.range N).foldl (lwma3Step timestamps N) (0, 0, timestamps.getD 0 0)

theorem lwma3Sums_def (timestamps : List Nat) (N : Nat) :
    (List.range N).foldl (lwma3Step timestamps N) (0, 0, timestamps.getD 0 0) = lwma3Sums timestamps N := rfl

/-- Each solve time is between one second and `6 * T`, and the timestamp stays a word. -/
theorem lwma3Step_bounds {timestamps : List Nat} {N j : Nat} {acc : Nat × Nat × Nat}
    (stamps : ∀ t ∈ timestamps, t < 2 ^ 64) (previous : acc.2.2 < 2 ^ 64)
    (room : acc.1 + 6 * DIFFICULTY_TARGET * (j + 1) < 2 ^ 64) :
    acc.1 + (j + 1) ≤ (lwma3Step timestamps N acc j).1 ∧
      (lwma3Step timestamps N acc j).1 ≤ acc.1 + 6 * DIFFICULTY_TARGET * (j + 1) ∧
      (lwma3Step timestamps N acc j).2.2 < 2 ^ 64 := by
  have stamp : timestamps.getD (j + 1) 0 < 2 ^ 64 := by
    rw [List.getD_eq_getElem?_getD]
    cases lookup : timestamps[j + 1]? with
    | none => simp
    | some t => simpa using stamps t (List.mem_of_getElem? lookup)
  -- the next timestamp is later than the previous one, so its solve time is at least one
  have later : 1 ≤ subU64 (if timestamps.getD (j + 1) 0 > acc.2.2 then timestamps.getD (j + 1) 0
      else wrapU64 (acc.2.2 + 1)) acc.2.2 := by
    unfold subU64 wrapU64
    split_ifs <;> omega
  have word : (if timestamps.getD (j + 1) 0 > acc.2.2 then timestamps.getD (j + 1) 0
      else wrapU64 (acc.2.2 + 1)) < 2 ^ 64 := by
    split_ifs
    · exact stamp
    · exact wrapU64_lt _
  unfold lwma3Step
  dsimp only
  refine ⟨?_, ?_, word⟩ <;>
  generalize subU64 (if timestamps.getD (j + 1) 0 > acc.2.2 then timestamps.getD (j + 1) 0
      else wrapU64 (acc.2.2 + 1)) acc.2.2 = solve at later ⊢
  · have weighted : j + 1 ≤ min (6 * DIFFICULTY_TARGET) solve * (j + 1) :=
      Nat.le_mul_of_pos_left _ (lt_min (by decide) later)
    have capped : min (6 * DIFFICULTY_TARGET) solve * (j + 1) ≤ 6 * DIFFICULTY_TARGET * (j + 1) :=
      Nat.mul_le_mul_right _ (min_le_left _ _)
    rw [wrapU64_of_lt (by omega)]
    omega
  · have capped : min (6 * DIFFICULTY_TARGET) solve * (j + 1) ≤ 6 * DIFFICULTY_TARGET * (j + 1) :=
      Nat.mul_le_mul_right _ (min_le_left _ _)
    rw [wrapU64_of_lt (by omega)]
    omega


/-- Over at most `DIFFICULTY_WINDOW_V9` blocks the loop adds up a positive `L`
far below `2 ^ 64`: every solve time is between one second and `6 * T`. -/
theorem lwma3Sums_bounds {timestamps : List Nat} {N : Nat} (stamps : ∀ t ∈ timestamps, t < 2 ^ 64)
    (window : N ≤ DIFFICULTY_WINDOW_V9) :
    N ≤ (lwma3Sums timestamps N).1 ∧
      (lwma3Sums timestamps N).1 ≤ 6 * DIFFICULTY_TARGET * DIFFICULTY_WINDOW_V9 * N := by
  suffices invariant : N ≤ (lwma3Sums timestamps N).1 ∧
      (lwma3Sums timestamps N).1 ≤ 6 * DIFFICULTY_TARGET * DIFFICULTY_WINDOW_V9 * N ∧
      (lwma3Sums timestamps N).2.2 < 2 ^ 64 from ⟨invariant.1, invariant.2.1⟩
  unfold lwma3Sums
  apply foldl_range_invariant (lwma3Step timestamps N)
    (fun k acc => k ≤ acc.1 ∧ acc.1 ≤ 6 * DIFFICULTY_TARGET * DIFFICULTY_WINDOW_V9 * k ∧ acc.2.2 < 2 ^ 64)
  · exact ⟨le_refl 0, le_refl 0, getD_lt_of_forall_lt (by norm_num) stamps 0⟩
  · intro i bound acc ⟨counted, capped, previous⟩
    have turns : i + 1 ≤ DIFFICULTY_WINDOW_V9 := by omega
    have grown : acc.1 + 6 * DIFFICULTY_TARGET * (i + 1) ≤ 6 * DIFFICULTY_TARGET * DIFFICULTY_WINDOW_V9 * (i + 1) :=
      calc acc.1 + 6 * DIFFICULTY_TARGET * (i + 1)
          ≤ 6 * DIFFICULTY_TARGET * DIFFICULTY_WINDOW_V9 * i + 6 * DIFFICULTY_TARGET * DIFFICULTY_WINDOW_V9 :=
            Nat.add_le_add capped (Nat.mul_le_mul_left _ turns)
        _ = 6 * DIFFICULTY_TARGET * DIFFICULTY_WINDOW_V9 * (i + 1) := by ring
    have room : acc.1 + 6 * DIFFICULTY_TARGET * (i + 1) < 2 ^ 64 :=
      calc acc.1 + 6 * DIFFICULTY_TARGET * (i + 1)
          ≤ 6 * DIFFICULTY_TARGET * DIFFICULTY_WINDOW_V9 * DIFFICULTY_WINDOW_V9 :=
            le_trans grown (Nat.mul_le_mul_left _ turns)
        _ < 2 ^ 64 := by decide
    obtain ⟨low, high, word⟩ := lwma3Step_bounds (N := N) stamps previous room
    exact ⟨by omega, le_trans high grown, word⟩

theorem next_difficulty_v9_bounds (timestamps cumulativeDifficulties : List Nat) (targetSeconds : Nat)
    (sameLength : timestamps.length = cumulativeDifficulties.length) (enough : 11 ≤ timestamps.length)
    (window : timestamps.length ≤ DIFFICULTY_WINDOW_V9 + 1) (stamps : ∀ t ∈ timestamps, t < 2 ^ 64)
    (words : ∀ c ∈ cumulativeDifficulties, c < 2 ^ 64) (increasing : cumulativeDifficulties.Pairwise (· < ·))
    (small : cumulativeDifficulties.getD (timestamps.length - 1) 0 -
      cumulativeDifficulties.getD (timestamps.length - 2) 0 < 2 ^ 64 / 150) :
    let N := timestamps.length - 1
    let prevD := cumulativeDifficulties.getD N 0 - cumulativeDifficulties.getD (N - 1) 0
    let D := nextDifficultyV9 timestamps cumulativeDifficulties targetSeconds
    (0 < (lwma3Sums timestamps N).1 ∧ 100 * 2 * (lwma3Sums timestamps N).1 < 2 ^ 64) ∧
      prevD * 67 / 100 ≤ D ∧ D ≤ prevD * 150 / 100 ∧
      ((lwma3Sums timestamps N).2.1 < 8 * DIFFICULTY_TARGET / 10 → prevD * 108 / 100 ≤ D) ∧
      (2 ≤ prevD → 1 ≤ D) := by
  intro N prevD D
  have index : N = timestamps.length - 1 := rfl
  have long : ¬timestamps.length ≤ 10 := by omega
  have pick : (if timestamps.length < DIFFICULTY_WINDOW_V9 + 1 then timestamps.length - 1
      else DIFFICULTY_WINDOW_V9) = N := by
    unfold DIFFICULTY_WINDOW_V9 at window ⊢
    split_ifs <;> omega
  obtain ⟨counted, capped⟩ := lwma3Sums_bounds (N := N) stamps (by omega)
  -- the last two cumulative difficulties are in order, so their `uint64_t` difference is `prevD`
  have ordered : cumulativeDifficulties.getD (N - 1) 0 < cumulativeDifficulties.getD N 0 := by
    rw [List.getD_eq_getElem _ _ (by omega), List.getD_eq_getElem _ _ (by omega)]
    exact List.pairwise_iff_getElem.1 increasing _ _ _ _ (by omega)
  have last : cumulativeDifficulties.getD N 0 < 2 ^ 64 := getD_lt_of_forall_lt (by norm_num) words N
  have difference : subU64 (cumulativeDifficulties.getD N 0) (cumulativeDifficulties.getD (N - 1) 0) = prevD :=
    subU64_of_le ordered.le last
  have fits : prevD * 150 < 2 ^ 64 := by
    have previous : N - 1 = timestamps.length - 2 := by omega
    have bounded : prevD < 2 ^ 64 / 150 := by
      rw [← index, ← previous] at small
      exact small
    omega
  have result : ∃ nextD, D = if (lwma3Sums timestamps N).2.1 < 8 * DIFFICULTY_TARGET / 10
      then max (max (prevD * 67 / 100) (min nextD (prevD * 150 / 100))) (prevD * 108 / 100)
      else max (prevD * 67 / 100) (min nextD (prevD * 150 / 100)) := by
    refine ⟨?nextD, ?equation⟩
    case equation =>
    simp only [D, nextDifficultyV9, if_neg long]
    erw [lwma3Sums_def]
    rw [pick, difference, wrapU64_of_lt (by omega : prevD * 67 < 2 ^ 64), wrapU64_of_lt fits,
      wrapU64_of_lt (by omega : prevD * 108 < 2 ^ 64)]
  obtain ⟨nextD, equation⟩ := result
  have divisor : 100 * 2 * (lwma3Sums timestamps N).1 < 2 ^ 64 :=
    calc 100 * 2 * (lwma3Sums timestamps N).1
        ≤ 100 * 2 * (6 * DIFFICULTY_TARGET * DIFFICULTY_WINDOW_V9 * DIFFICULTY_WINDOW_V9) :=
          Nat.mul_le_mul_left _ (le_trans capped (Nat.mul_le_mul_left _ (by omega)))
      _ < 2 ^ 64 := by decide
  refine ⟨⟨by omega, divisor⟩, ?_⟩
  -- whatever `nextD` the weighted average gives, the clamps keep `D` in the band
  rw [equation]
  split_ifs <;> omega

theorem next_difficulty_v9_band_on_steady_chain :
    let timestamps := (List.range 11).map (· * 60)
    let cumulativeDifficulties := (List.range 11).map (· * 1000)
    (timestamps.length = cumulativeDifficulties.length ∧ 11 ≤ timestamps.length ∧
      timestamps.length ≤ DIFFICULTY_WINDOW_V9 + 1 ∧ (∀ t ∈ timestamps, t < 2 ^ 64) ∧
      (∀ c ∈ cumulativeDifficulties, c < 2 ^ 64) ∧ cumulativeDifficulties.Pairwise (· < ·) ∧
      cumulativeDifficulties.getD (timestamps.length - 1) 0 -
        cumulativeDifficulties.getD (timestamps.length - 2) 0 < 2 ^ 64 / 150) ∧
    (let N := timestamps.length - 1
      let prevD := cumulativeDifficulties.getD N 0 - cumulativeDifficulties.getD (N - 1) 0
      let D := nextDifficultyV9 timestamps cumulativeDifficulties DIFFICULTY_TARGET
      (0 < (lwma3Sums timestamps N).1 ∧ 100 * 2 * (lwma3Sums timestamps N).1 < 2 ^ 64) ∧
        prevD * 67 / 100 ≤ D ∧ D ≤ prevD * 150 / 100 ∧
        ((lwma3Sums timestamps N).2.1 < 8 * DIFFICULTY_TARGET / 10 → prevD * 108 / 100 ≤ D) ∧
        (2 ≤ prevD → 1 ≤ D)) := by
  intro timestamps cumulativeDifficulties
  have sameLength : timestamps.length = cumulativeDifficulties.length := by decide
  have enough : 11 ≤ timestamps.length := by decide
  have window : timestamps.length ≤ DIFFICULTY_WINDOW_V9 + 1 := by decide
  have stamps : ∀ t ∈ timestamps, t < 2 ^ 64 := by decide
  have words : ∀ c ∈ cumulativeDifficulties, c < 2 ^ 64 := by decide
  have increasing : cumulativeDifficulties.Pairwise (· < ·) := by decide
  have small : cumulativeDifficulties.getD (timestamps.length - 1) 0 -
      cumulativeDifficulties.getD (timestamps.length - 2) 0 < 2 ^ 64 / 150 := by decide
  exact ⟨⟨sameLength, enough, window, stamps, words, increasing, small⟩,
    next_difficulty_v9_bounds timestamps cumulativeDifficulties DIFFICULTY_TARGET sameLength enough window stamps
      words increasing small⟩

/-- With a last block of difficulty one the band's lower end is `0`, and a
window of slow blocks drives the result there. -/
theorem next_difficulty_v9_zero_after_unit_difficulty :
    let timestamps := (List.range 11).map (· * 360)
    let cumulativeDifficulties := List.range 11
    (timestamps.length = cumulativeDifficulties.length ∧ 11 ≤ timestamps.length ∧
      timestamps.length ≤ DIFFICULTY_WINDOW_V9 + 1 ∧ (∀ t ∈ timestamps, t < 2 ^ 64) ∧
      (∀ c ∈ cumulativeDifficulties, c < 2 ^ 64) ∧ cumulativeDifficulties.Pairwise (· < ·) ∧
      cumulativeDifficulties.getD (timestamps.length - 1) 0 -
        cumulativeDifficulties.getD (timestamps.length - 2) 0 = 1) ∧
    nextDifficultyV9 timestamps cumulativeDifficulties DIFFICULTY_TARGET = 0 := by
  decide

end ElectroneumClassic.Cryptonote
