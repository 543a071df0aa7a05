import ElectroneumClassic.Basic.Types
import ElectroneumClassic.Lib.Machine
import ElectroneumClassic.Lib.Merkle
import Mathlib.Order.Bounds.Basic

/-!
# The transaction tree hash

`tree_hash(hashes, count, root_hash)` of `crypto/tree-hash.c` hashes the
transactions of a block into one root.  One hash is its own root and two are
hashed together.  Of more, `cnt = tree_hash_cnt(count)` is the largest power
of two below `count`: the first `2 * cnt - count` hashes are copied into an
array `ints` of `cnt` entries, the others paired into the rest of it, and
`ints` is halved in place until two entries are left, whose hash is the root.

The model reads and writes the two arrays only through accesses checked
against their bounds, and stops at a failed `assert`, so that a run with a
result read only `hashes[0 .. count)`, wrote only `ints[0 .. cnt)` and passed
every `assert`.  `cn_fast_hash` of the 64 bytes of two adjacent hashes is a
parameter.  For every `count` from `1` to `2 ^ 28`, `tree_hash` has a result,
the Merkle root of the specification (`tree_hash_merkle_root`).
-/

namespace ElectroneumClassic.Crypto

open Machine

/-- `assert(ok)`: a run stops where it fails. -/
def assert (ok : Prop) [Decidable ok] : Option Unit := if ok then some () else none

/-- The store `a[j] = v`; past the end of `a` it fails. -/
def writeAt (a : List Hash) (j : Nat) (v : Hash) : Option (List Hash) :=
  if j < a.length then some (a.set j v) else none

/-- `memcpy(dst, src, count * HASH_SIZE)`: the first `count` hashes of `src`
over those of `dst`; a copy past the end of either fails. -/
def memcpy (dst src : List Hash) (count : Nat) : Option (List Hash) :=
  if count ≤ dst.length ∧ count ≤ src.length then some (src.take count ++ dst.drop count) else none

@[simp] theorem assert_of {ok : Prop} [Decidable ok] (holds : ok) : assert ok = some () := if_pos holds

theorem writeAt_of_lt {a : List Hash} {j : Nat} (v : Hash) (inside : j < a.length) :
    writeAt a j v = some (a.set j v) := if_pos inside

theorem memcpy_of_le {dst src : List Hash} {count : Nat} (intoDst : count ≤ dst.length) (fromSrc : count ≤ src.length) :
    memcpy dst src count = some (src.take count ++ dst.drop count) := if_pos ⟨intoDst, fromSrc⟩

/-- The loop of `tree_hash_cnt`: `pow` doubled while it is below `count`,
for at most `fuel` turns. -/
def treeHashCntLoop (count : Nat) : (fuel pow : Nat) → Option Nat
  | 0, pow => if pow < count then none else some pow
  | fuel + 1, pow => if pow < count then treeHashCntLoop count fuel (pow <<< 1) else some pow

/-- `tree_hash_cnt(count)`, for `3 ≤ count ≤ 2 ^ 28`: `pow` from `2` doubled
until it reaches `count`, which takes fewer than `count` turns, then halved. -/
def treeHashCnt (count : Nat) : Option Nat := do
  assert (count ≥ 3)
  assert (count ≤ 0x10000000)
  let pow ← treeHashCntLoop count count 2
  pure (pow >>> 1)

/-! ## `tree_hash_cnt` -/

/-- The largest power of two below `n` is `2 ^ log2 (n - 1)`. -/
theorem two_pow_log2_pred_lt {n : Nat} (two : 2 ≤ n) :
    2 ^ Nat.log2 (n - 1) < n ∧ n ≤ 2 * 2 ^ Nat.log2 (n - 1) := by
  have below := Nat.log2_self_le (n := n - 1) (by omega)
  have above := Nat.lt_log2_self (n := n - 1)
  rw [Nat.pow_succ] at above
  omega

theorem isGreatest_two_pow_log2_pred {n : Nat} (two : 2 ≤ n) :
    IsGreatest {p | (∃ k, p = 2 ^ k) ∧ p < n} (2 ^ Nat.log2 (n - 1)) := by
  refine ⟨⟨⟨_, rfl⟩, (two_pow_log2_pred_lt two).1⟩, ?_⟩
  rintro p ⟨⟨k, rfl⟩, below⟩
  apply Nat.pow_le_pow_right (by decide)
  exact (Nat.le_log2 (by omega)).2 (by omega)

/-- From `2 ^ m` with `m` at most `log2 (count - 1) + 1`, the loop of
`tree_hash_cnt` doubles up to `2 ^ (log2 (count - 1) + 1)`, given a turn for
each doubling. -/
theorem treeHashCntLoop_eq {count : Nat} (two : 2 ≤ count) :
    ∀ fuel m, m ≤ Nat.log2 (count - 1) + 1 → Nat.log2 (count - 1) + 1 - m ≤ fuel →
      treeHashCntLoop count fuel (2 ^ m) = some (2 ^ (Nat.log2 (count - 1) + 1)) := by
  have bounds := two_pow_log2_pred_lt two
  -- the doubling stops exactly at the first power of two reaching `count`
  have reaches : ∀ m, m ≤ Nat.log2 (count - 1) + 1 → ¬2 ^ m < count → m = Nat.log2 (count - 1) + 1 := by
    intro m atMost reached
    by_contra short
    have smaller : 2 ^ m ≤ 2 ^ Nat.log2 (count - 1) := Nat.pow_le_pow_right (by decide) (by omega)
    omega
  intro fuel
  induction fuel with
  | zero =>
    intro m atMost noTurns
    have top : m = Nat.log2 (count - 1) + 1 := by omega
    subst top
    rw [treeHashCntLoop, if_neg (by rw [Nat.pow_succ]; omega)]
  | succ fuel inductionHypothesis =>
    intro m atMost turns
    rw [treeHashCntLoop]
    split_ifs with below
    · have short : m < Nat.log2 (count - 1) + 1 := by
        by_contra top
        have larger : 2 ^ (Nat.log2 (count - 1) + 1) ≤ 2 ^ m := Nat.pow_le_pow_right (by decide) (by omega)
        rw [Nat.pow_succ] at larger
        omega
      rw [Nat.shiftLeft_eq, Nat.pow_one, ← Nat.pow_succ]
      exact inductionHypothesis (m + 1) (by omega) (by omega)
    · rw [reaches m atMost below]

theorem treeHashCnt_eq {count : Nat} (three : 3 ≤ count) (bounded : count ≤ 2 ^ 28) :
    treeHashCnt count = some (2 ^ Nat.log2 (count - 1)) := by
  have turns : Nat.log2 (count - 1) + 1 - 1 ≤ count := by
    have below := Nat.log2_self_le (n := count - 1) (by omega)
    have grows := Nat.lt_two_pow_self (n := Nat.log2 (count - 1))
    omega
  have doubled := treeHashCntLoop_eq (by omega) count 1 (by omega) turns
  rw [Nat.pow_one] at doubled
  simp only [treeHashCnt, assert_of three, assert_of (show count ≤ 0x10000000 by omega), Option.bind_eq_bind,
    Option.bind_some, doubled, pure, Nat.shiftRight_eq_div_pow, Nat.pow_succ, Nat.mul_div_cancel _ (by decide : 0 < 2)]

section

variable (cnFastHash : Hash → Hash → Hash)

/-- A pairing loop of `tree_hash`,
`for (; j < cnt; i += 2, ++j) cn_fast_hash(source[i], 64, ints[j])`, with the
final `i`: `source ints` is the array read, `hashes` in the first loop and
`ints` itself in the halving loop. -/
def pairLoop (source : List Hash → List Hash) (cnt i j : Nat) (ints : List Hash) : Option (List Hash × Nat) :=
  (List.range' j (cnt - j)).foldlM
    (fun (ints, i) j => do
      let left ← (source ints)[i]?
      let right ← (source ints)[i + 1]?
      let ints ← writeAt ints j (cnFastHash left right)
      pure (ints, i + 2))
    (ints, i)

/-- The `while (cnt > 2)` loop of `tree_hash`: `cnt` halved and the first
`cnt` entries of `ints` paired in place, for at most `fuel` turns. -/
def halvingLoop : (fuel cnt : Nat) → List Hash → Option (List Hash)
  | 0, cnt, ints => if cnt > 2 then none else some ints
  | fuel + 1, cnt, ints =>
    if cnt > 2 then do
      let (ints, _) ← pairLoop cnFastHash id (cnt >>> 1) 0 0 ints
      halvingLoop fuel (cnt >>> 1) ints
    else some ints

/-- `tree_hash(hashes, count, root_hash)` over the `count` hashes it is
passed; the result is `root_hash`.  `ints` is allocated with `cnt` zero
entries, and `cnt` halves at most `cnt` times. -/
def treeHash (hashes : List Hash) : Option Hash := do
  let count := hashes.length
  assert (count > 0)
  if count = 1 then hashes[0]?
  else if count = 2 then do
    let left ← hashes[0]?
    let right ← hashes[1]?
    pure (cnFastHash left right)
  else do
    let cnt ← treeHashCnt count
    let ints ← memcpy (List.replicate cnt nullHash) hashes (subU64 (2 * cnt) count)
    let (ints, i) ← pairLoop cnFastHash (fun _ => hashes) cnt (subU64 (2 * cnt) count) (subU64 (2 * cnt) count) ints
    assert (i = count)
    let ints ← halvingLoop cnFastHash cnt cnt ints
    let left ← ints[0]?
    let right ← ints[1]?
    pure (cnFastHash left right)

/-! ## The Merkle root of the specification -/

/-- The level of `cnt` nodes the leaves enter the tree at: the first
`carried` leaves as they are, the others paired. -/
def firstLevel (carried : Nat) (leaves : List Hash) : List Hash :=
  leaves.take carried ++ Merkle.pairUp cnFastHash (leaves.drop carried)

/-- The CryptoNote Merkle root of `n` leaves: with `cnt = 2 ^ height` the
largest power of two below `n` (`1` for one leaf), `2 * cnt - n` leaves
carried up unchanged and the others paired, then the `cnt` nodes halved to
one. -/
def merkleRoot (leaves : List Hash) : Option Hash :=
  let height := Nat.log2 (leaves.length - 1)
  Merkle.rootOf cnFastHash height (firstLevel cnFastHash (2 * 2 ^ height - leaves.length) leaves)

/-! ## The pairing loops -/

theorem pairLoop_of_le {source : List Hash → List Hash} {cnt i j : Nat} (ints : List Hash) (done : cnt ≤ j) :
    pairLoop cnFastHash source cnt i j ints = some (ints, i) := by
  rw [pairLoop, Nat.sub_eq_zero_of_le done, List.range'_zero, List.foldlM_nil]
  rfl

/-- A turn whose reads and store stay inside the arrays. -/
theorem pairLoop_turn {source : List Hash → List Hash} {cnt i j : Nat} {ints : List Hash} {left right : Hash}
    (turn : j < cnt) (readLeft : (source ints)[i]? = some left) (readRight : (source ints)[i + 1]? = some right)
    (writable : j < ints.length) :
    pairLoop cnFastHash source cnt i j ints =
      pairLoop cnFastHash source cnt (i + 2) (j + 1) (ints.set j (cnFastHash left right)) := by
  rw [pairLoop, show cnt - j = cnt - (j + 1) + 1 by omega, List.range'_succ, List.foldlM_cons]
  simp only [readLeft, readRight, writeAt_of_lt _ writable, Option.bind_eq_bind, Option.bind_some, pure]
  rfl

theorem take_succ_set {a : List Hash} {j : Nat} (v : Hash) (inside : j < a.length) :
    (a.set j v).take (j + 1) = a.take j ++ [v] := by
  rw [List.set_eq_take_append_cons_drop, if_pos inside, List.take_append, List.length_take,
    Nat.min_eq_left inside.le, List.take_of_length_le (by simp), Nat.add_sub_cancel_left]
  rfl

/-- The first loop pairs the hashes of `source` from `i` into `ints` from `j`
up to `cnt`, around them `ints` is left as it was. -/
theorem pairLoop_of_source (source : List Hash) {cnt : Nat} :
    ∀ steps i j (ints : List Hash), j + steps = cnt → cnt ≤ ints.length → i + 2 * steps ≤ source.length →
      pairLoop cnFastHash (fun _ => source) cnt i j ints =
        some (ints.take j ++ Merkle.pairUp cnFastHash ((source.drop i).take (2 * steps)) ++ ints.drop cnt,
          i + 2 * steps) := by
  intro steps
  induction steps with
  | zero =>
    intro i j ints ends _ _
    rw [pairLoop_of_le cnFastHash ints (by omega)]
    subst ends
    simp
  | succ steps inductionHypothesis =>
    intro i j ints ends fits readable
    have pairs : (source.drop i).take (2 * (steps + 1)) =
        source[i] :: source[i + 1] :: (source.drop (i + 2)).take (2 * steps) := by
      rw [List.drop_eq_getElem_cons (by omega), List.drop_eq_getElem_cons (by omega), Nat.mul_succ]
      rfl
    rw [pairLoop_turn cnFastHash (by omega) (List.getElem?_eq_getElem (by omega))
        (List.getElem?_eq_getElem (by omega)) (by omega),
      inductionHypothesis (i + 2) (j + 1) _ (by omega) (by simpa using fits) (by omega),
      take_succ_set _ (by omega), List.drop_set, if_pos (by omega), pairs, Merkle.pairUp_cons_cons]
    simp only [List.append_assoc, List.cons_append, List.nil_append, Option.some.injEq, Prod.mk.injEq, true_and]
    omega

/-- The halving loop pairs the first `2 * cnt` entries of `ints` into its
first `cnt`: a store at `j` is behind the reads at `2 * j` and `2 * j + 1`,
still of the entries as they were. -/
theorem pairLoop_in_place {original : List Hash} {cnt : Nat} (fits : 2 * cnt ≤ original.length) :
    ∀ steps j, j + steps = cnt →
      pairLoop cnFastHash id cnt (2 * j) j (Merkle.pairUp cnFastHash (original.take (2 * j)) ++ original.drop j) =
        some (Merkle.pairUp cnFastHash (original.take (2 * cnt)) ++ original.drop cnt, 2 * cnt) := by
  intro steps
  induction steps with
  | zero =>
    intro j ends
    subst ends
    exact pairLoop_of_le cnFastHash _ (le_refl _)
  | succ steps inductionHypothesis =>
    intro j ends
    have paired : (Merkle.pairUp cnFastHash (original.take (2 * j))).length = j := by
      rw [Merkle.length_pairUp, List.length_take, Nat.min_eq_left (by omega)]
      omega
    have read : ∀ k (inside : k < original.length), j ≤ k →
        (id (Merkle.pairUp cnFastHash (original.take (2 * j)) ++ original.drop j))[k]? = some original[k] := by
      intro k inside after
      rw [id, List.getElem?_append_right (by omega), paired, List.getElem?_drop, Nat.add_sub_cancel' after,
        List.getElem?_eq_getElem inside]
    rw [pairLoop_turn cnFastHash (by omega) (read (2 * j) (by omega) (by omega)) (read (2 * j + 1) (by omega) (by omega))
        (by simp [paired]; omega),
      List.set_append, if_neg (by omega), paired, Nat.sub_self, List.drop_eq_getElem_cons (by omega), List.set_cons_zero,
      show 2 * j + 2 = 2 * (j + 1) by omega, ← List.singleton_append, ← List.append_assoc,
      ← Merkle.pairUp_take_succ cnFastHash (by omega)]
    exact inductionHypothesis (j + 1) (by omega)

/-- From `2 ^ (height + 1)` entries, the halving loop leaves the level
`height` halvings up at the front of `ints`, given a turn for each halving. -/
theorem halvingLoop_eq : ∀ (height fuel : Nat) (ints : List Hash), height ≤ fuel → 2 ^ (height + 1) ≤ ints.length →
    ∃ rest, halvingLoop cnFastHash fuel (2 ^ (height + 1)) ints =
      some (Merkle.halve cnFastHash height (ints.take (2 ^ (height + 1))) ++ rest) := by
  intro height
  induction height with
  | zero =>
    intro fuel ints _ _
    refine ⟨ints.drop 2, ?_⟩
    cases fuel with
    | zero => rw [halvingLoop, if_neg (by decide), Merkle.halve, Nat.zero_add, Nat.pow_one, List.take_append_drop]
    | succ fuel => rw [halvingLoop, if_neg (by decide), Merkle.halve, Nat.zero_add, Nat.pow_one, List.take_append_drop]
  | succ height inductionHypothesis =>
    intro fuel ints turns fits
    obtain ⟨fuel, rfl⟩ : ∃ fewer, fuel = fewer + 1 := ⟨fuel - 1, by omega⟩
    have doubled : 2 ^ (height + 1 + 1) = 2 * 2 ^ (height + 1) := Nat.pow_succ'
    have many : 2 ^ (height + 1 + 1) > 2 := by
      have atLeast : 2 ^ 2 ≤ 2 ^ (height + 1 + 1) := Nat.pow_le_pow_right (by decide) (by omega)
      omega
    have halved : 2 ^ (height + 1 + 1) >>> 1 = 2 ^ (height + 1) := by
      rw [Nat.shiftRight_eq_div_pow, Nat.pow_one, doubled, Nat.mul_div_cancel_left _ (by decide)]
    -- one pass pairs the whole live prefix, from `j = 0`
    have paired := @pairLoop_in_place cnFastHash ints _ (by omega) (2 ^ (height + 1)) 0 (Nat.zero_add _)
    rw [Nat.mul_zero, List.take_zero, Merkle.pairUp_nil, List.drop_zero, List.nil_append, ← doubled] at paired
    have pairedLength : (Merkle.pairUp cnFastHash (ints.take (2 ^ (height + 1 + 1)))).length = 2 ^ (height + 1) := by
      rw [Merkle.length_pairUp, List.length_take, Nat.min_eq_left fits, doubled, Nat.mul_div_cancel_left _ (by decide)]
    obtain ⟨rest, halving⟩ := inductionHypothesis fuel
      (Merkle.pairUp cnFastHash (ints.take (2 ^ (height + 1 + 1))) ++ ints.drop (2 ^ (height + 1))) (by omega)
      (by rw [List.length_append, pairedLength]; omega)
    refine ⟨rest, ?_⟩
    rw [halvingLoop, if_pos many, halved, paired, Option.bind_eq_bind, Option.bind_some]
    dsimp only
    rw [halving, List.take_left' pairedLength, Merkle.halve]

/-- After the copy of the first `2 * cnt - count` hashes, the first pairing
loop builds the level the leaves enter the tree at and ends with
`i = count`, so that the `assert` after it holds. -/
theorem pairLoop_copied {hashes : List Hash} {cnt : Nat} (below : cnt < hashes.length)
    (covers : hashes.length ≤ 2 * cnt) :
    pairLoop cnFastHash (fun _ => hashes) cnt (2 * cnt - hashes.length) (2 * cnt - hashes.length)
        (hashes.take (2 * cnt - hashes.length) ++ (List.replicate cnt nullHash).drop (2 * cnt - hashes.length)) =
      some (firstLevel cnFastHash (2 * cnt - hashes.length) hashes, hashes.length) := by
  rw [pairLoop_of_source cnFastHash hashes (hashes.length - cnt) _ _ _ (by omega) (by simp; omega) (by omega)]
  -- the pairs take every hash after the copied ones, and nothing of `ints` is left after `cnt`
  have allPaired : (hashes.drop (2 * cnt - hashes.length)).take (2 * (hashes.length - cnt)) =
      hashes.drop (2 * cnt - hashes.length) := List.take_of_length_le (by simp; omega)
  have copiedPrefix : (hashes.take (2 * cnt - hashes.length) ++
      (List.replicate cnt nullHash).drop (2 * cnt - hashes.length)).take (2 * cnt - hashes.length) =
      hashes.take (2 * cnt - hashes.length) := List.take_left' (by simp; omega)
  have nothingAfter : (hashes.take (2 * cnt - hashes.length) ++
      (List.replicate cnt nullHash).drop (2 * cnt - hashes.length)).drop cnt = [] :=
    List.drop_of_length_le (by simp; omega)
  rw [allPaired, copiedPrefix, nothingAfter, List.append_nil, firstLevel]
  congr 2
  omega

theorem length_firstLevel (carried : Nat) (leaves : List Hash) :
    (firstLevel cnFastHash carried leaves).length = min carried leaves.length + (leaves.length - carried) / 2 := by
  rw [firstLevel, List.length_append, List.length_take, Merkle.length_pairUp, List.length_drop]

/-- `tree_hash` of three hashes or more: `cnt = 2 ^ (height + 1)`, the level
the leaves enter at, `height` halvings in place, and the hash of the two
nodes left, which is the root of the specification. -/
theorem treeHash_of_three_le {hashes : List Hash} (three : 3 ≤ hashes.length) (bounded : hashes.length ≤ 2 ^ 28) :
    ∃ root, treeHash cnFastHash hashes = some root ∧ merkleRoot cnFastHash hashes = some root := by
  obtain ⟨height, logEq⟩ : ∃ height, Nat.log2 (hashes.length - 1) = height + 1 := by
    have one : 1 ≤ Nat.log2 (hashes.length - 1) := (Nat.le_log2 (by omega)).2 (by omega)
    exact ⟨Nat.log2 (hashes.length - 1) - 1, by omega⟩
  have bounds := two_pow_log2_pred_lt (n := hashes.length) (by omega)
  rw [logEq] at bounds
  have counted := treeHashCnt_eq three bounded
  rw [logEq] at counted
  have carried : subU64 (2 * 2 ^ (height + 1)) hashes.length = 2 * 2 ^ (height + 1) - hashes.length :=
    subU64_of_le bounds.2 (by omega)
  have copied := @memcpy_of_le (List.replicate (2 ^ (height + 1)) nullHash) hashes
    (2 * 2 ^ (height + 1) - hashes.length) (by rw [List.length_replicate]; omega) (by omega)
  have levelLength :
      (firstLevel cnFastHash (2 * 2 ^ (height + 1) - hashes.length) hashes).length = 2 ^ (height + 1) := by
    rw [length_firstLevel]
    omega
  have turns : height ≤ 2 ^ (height + 1) := by
    have grows := Nat.lt_two_pow_self (n := height + 1)
    omega
  obtain ⟨rest, halving⟩ := halvingLoop_eq cnFastHash height _ _ turns levelLength.ge
  rw [List.take_of_length_le levelLength.le] at halving
  -- two nodes are left below the root
  have twoLeft : (Merkle.halve cnFastHash height
      (firstLevel cnFastHash (2 * 2 ^ (height + 1) - hashes.length) hashes)).length = 2 := by
    rw [Merkle.length_halve, levelLength, Nat.pow_succ, Nat.mul_div_cancel_left _ (Nat.two_pow_pos height)]
  obtain ⟨left, right, top⟩ := List.length_eq_two.1 twoLeft
  refine ⟨cnFastHash left right, ?_, ?_⟩
  · simp only [treeHash, assert_of (show hashes.length > 0 by omega), if_neg (show hashes.length ≠ 1 by omega),
      if_neg (show hashes.length ≠ 2 by omega), counted, carried, copied, pairLoop_copied cnFastHash bounds.1 bounds.2,
      halving, top, Option.bind_eq_bind, Option.bind_some]
    rfl
  · simp only [merkleRoot, logEq, Merkle.rootOf, Merkle.halve_succ', top, Merkle.pairUp_cons_cons, Merkle.pairUp_nil]
    rfl

/-- `tree_hash` of `1` to `2 ^ 28` hashes stays inside its arrays, passes its
`assert`s and computes the Merkle root of the specification; from three
hashes on, `tree_hash_cnt` is the largest power of two below their number. -/
theorem tree_hash_merkle_root (hashes : List Hash) (nonempty : 1 ≤ hashes.length) (bounded : hashes.length ≤ 2 ^ 28) :
    (3 ≤ hashes.length → ∃ cnt, treeHashCnt hashes.length = some cnt ∧
      IsGreatest {p | (∃ k, p = 2 ^ k) ∧ p < hashes.length} cnt) ∧
    ∃ root, treeHash cnFastHash hashes = some root ∧ merkleRoot cnFastHash hashes = some root := by
  refine ⟨fun three => ⟨_, treeHashCnt_eq three bounded, isGreatest_two_pow_log2_pred (by omega)⟩, ?_⟩
  obtain one | two | three : hashes.length = 1 ∨ hashes.length = 2 ∨ 3 ≤ hashes.length := by omega
  · obtain ⟨leaf, rfl⟩ := List.length_eq_one_iff.1 one
    exact ⟨leaf, rfl, rfl⟩
  · obtain ⟨left, right, rfl⟩ := List.length_eq_two.1 two
    exact ⟨cnFastHash left right, rfl, rfl⟩
  · exact treeHash_of_three_le cnFastHash three bounded

end

theorem tree_hash_of_five_hashes :
    1 ≤ [1, 2, 3, 4, 5].length ∧ [1, 2, 3, 4, 5].length ≤ 2 ^ 28 ∧
      ∃ root, treeHash (fun left right => 3 * left + right) [1, 2, 3, 4, 5] = some root ∧
        merkleRoot (fun left right => 3 * left + right) [1, 2, 3, 4, 5] = some root :=
  ⟨by decide, by decide, (tree_hash_merkle_root (fun left right => 3 * left + right) [1, 2, 3, 4, 5]
    (by decide) (by decide)).2⟩

end ElectroneumClassic.Crypto
