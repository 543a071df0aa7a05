import ElectroneumClassic.Chain.DifficultyCache
import ElectroneumClassic.Lib.WriteOnce
import Mathlib.Logic.Equiv.List

/-!
# Soundness of fast-sync pre-validation

A call `prevalidate_block_hashes(height, hashes)` sees block `i` as the stored
hash below `height` and as the offered one from there on (`offeredHashAt`).
Whether the request connects to the stored chain or skips to the next group
boundary, the hashes it checks are those blocks from its first group on, so
every entry it writes into `m_blocks_hash_check` is the hash of block `i` in a
group whose hash of hashes is the pre-validated one, and only null entries
change (`checkWritten_fills`).  Its running count starts at the offset of the
first group, which may be negative modulo `2 ^ 64`, and grows by a group per
matching group; that keeps it within the number of offered hashes, or leaves
it negative for the final assertion to replace by 0 (`usableAfter_bound`).

Over whole runs the table only ever holds such entries (`HashCheckSound`).
With `cn_fast_hash` injective on groups, an entry already written is then the
hash a later matching group writes again, so the consistency assertion never
fires, and `fast_check` is taken only for a block whose hash is in a matching
group.

Conversely, a call offered a whole group at its boundary whose hash is the
pre-validated one, on a table still null there, accepts all its hashes and
writes the group (`prevalidateBlockHashesResult_of_matching_group`).
-/

namespace ElectroneumClassic

open Cryptonote BlockchainDB Config Machine WriteOnce

variable {Pool : Type}

namespace Blockchain

/-- The hash of block `i` as the call `prevalidate_block_hashes(height, hashes)`
sees it: the stored hash below `height`, the offered one from there on. -/
def offeredHashAt (s : Blockchain Pool) (height : Nat) (hashes : List Hash) (i : Nat) : Hash :=
  if i < height then s.db.getBlockHashFromHeight i else hashes.getD (i - height) nullHash

/-- The hashes of the blocks of group `g` as the call sees them. -/
def offeredGroup (s : Blockchain Pool) (height : Nat) (hashes : List Hash) (g : Nat) : List Hash :=
  (List.range' (g * HASH_OF_HASHES_STEP) HASH_OF_HASHES_STEP).map (s.offeredHashAt height hashes)

/-- `h` is the hash at place `i` in a group of hashes whose `cn_fast_hash` is
the pre-validated one for group `i / HASH_OF_HASHES_STEP`. -/
def GroupEntry (env : Env Pool) (hashOfHashes : List Hash) (i : Nat) (h : Hash) : Prop :=
  ∃ group : List Hash, group.length = HASH_OF_HASHES_STEP ∧
    env.cnFastHash group = hashOfHashes.getD (i / HASH_OF_HASHES_STEP) nullHash ∧
    group.getD (i % HASH_OF_HASHES_STEP) nullHash = h

/-- The fast-sync table has the size `load_compiled_in_block_hashes` gives it,
and every entry not null sits in a pre-validated group. -/
structure HashCheckSound (env : Env Pool) (s : Blockchain Pool) : Prop where
  length : s.blocksHashCheck.length = s.blocksHashOfHashes.length * HASH_OF_HASHES_STEP
  entries : ∀ i, s.blocksHashCheck.getD i nullHash ≠ nullHash →
    GroupEntry env s.blocksHashOfHashes i (s.blocksHashCheck.getD i nullHash)

/-- Group `n` of the hashes `checkGroups` checks, for `data` starting at group
`firstIndex`. -/
def checkedGroup (data : List Hash) (firstIndex n : Nat) : List Hash :=
  (data.drop ((n - firstIndex) * HASH_OF_HASHES_STEP)).take HASH_OF_HASHES_STEP

/-- What `checkGroups` writes at `i`: the hash at its place in a complete
group `n` of `data` that matches its pre-validated hash. -/
def StoredFromGroup (env : Env Pool) (hashOfHashes data : List Hash) (firstIndex : Nat) (i : Nat)
    (h : Hash) : Prop :=
  ∃ n, firstIndex ≤ n ∧ (n - firstIndex) * HASH_OF_HASHES_STEP + HASH_OF_HASHES_STEP ≤ data.length ∧
    env.cnFastHash (checkedGroup data firstIndex n) = hashOfHashes.getD n nullHash ∧
    n * HASH_OF_HASHES_STEP ≤ i ∧ i < n * HASH_OF_HASHES_STEP + HASH_OF_HASHES_STEP ∧
    h = (checkedGroup data firstIndex n).getD (i - n * HASH_OF_HASHES_STEP) nullHash

theorem hashOfHashesStep_eq : HASH_OF_HASHES_STEP = 256 := rfl

theorem group_div {n i : Nat} (hlo : n * HASH_OF_HASHES_STEP ≤ i)
    (hhi : i < n * HASH_OF_HASHES_STEP + HASH_OF_HASHES_STEP) : i / HASH_OF_HASHES_STEP = n := by
  rw [hashOfHashesStep_eq] at *
  omega

theorem group_mod {n i : Nat} (hlo : n * HASH_OF_HASHES_STEP ≤ i)
    (hhi : i < n * HASH_OF_HASHES_STEP + HASH_OF_HASHES_STEP) :
    i % HASH_OF_HASHES_STEP = i - n * HASH_OF_HASHES_STEP := by
  rw [hashOfHashesStep_eq] at *
  omega

theorem checkedGroup_length {data : List Hash} {firstIndex n : Nat}
    (hcomplete : (n - firstIndex) * HASH_OF_HASHES_STEP + HASH_OF_HASHES_STEP ≤ data.length) :
    (checkedGroup data firstIndex n).length = HASH_OF_HASHES_STEP := by
  simp only [checkedGroup, List.length_take, List.length_drop]
  omega

theorem checkedGroup_getD (data : List Hash) (firstIndex n : Nat) {j : Nat} (hj : j < HASH_OF_HASHES_STEP) :
    (checkedGroup data firstIndex n).getD j nullHash =
      data.getD ((n - firstIndex) * HASH_OF_HASHES_STEP + j) nullHash := by
  simp only [checkedGroup, List.getD_eq_getElem?_getD, List.getElem?_take, hj, if_true,
    List.getElem?_drop]

/-! ## The write loop of one group -/

/-- `storeGroup` fills its table with the group, whether it finishes or stops
on the assertion. -/
theorem storeGroup_fills {check check' : List Hash} {start : Nat} {group : List Hash}
    (hrun : storeGroup check start group = .ok check' ∨ storeGroup check start group = .error check') :
    Fills nullHash (fun i h => start ≤ i ∧ i < start + group.length ∧ h = group.getD (i - start) nullHash)
      check check' := by
  induction group generalizing check start with
  | nil =>
    simp only [storeGroup, Except.ok.injEq, reduceCtorEq, or_false] at hrun
    exact hrun ▸ Fills.refl check
  | cons h rest ih =>
    simp only [storeGroup] at hrun
    split at hrun
    · next hfree =>
      have hfirst : Fills nullHash (fun i h' => start ≤ i ∧ i < start + (h :: rest).length ∧
          h' = (h :: rest).getD (i - start) nullHash) check (check.set start h) :=
        fills_set hfree ⟨le_rfl, by simp, by simp⟩
      -- the rest of the group goes to the places after `start`
      refine hfirst.trans ((ih hrun).mono fun i h' ⟨hlo, hhi, hval⟩ => ⟨by omega, ?_, ?_⟩)
      · simp only [List.length_cons]
        omega
      · rw [hval, show i - start = i - (start + 1) + 1 by omega, List.getD_cons_succ]
    · simp only [reduceCtorEq, Except.error.injEq, false_or] at hrun
      exact hrun ▸ Fills.refl check

/-- `storeGroup` finishes when every place it writes is null or already holds
the hash it writes there. -/
theorem storeGroup_ok {check : List Hash} {start : Nat} {group : List Hash}
    (hfree : ∀ j < group.length, check.getD (start + j) nullHash = nullHash ∨
      check.getD (start + j) nullHash = group.getD j nullHash) :
    ∃ check', storeGroup check start group = .ok check' := by
  induction group generalizing check start with
  | nil => exact ⟨check, rfl⟩
  | cons h rest ih =>
    have hhead : check.getD start nullHash = nullHash ∨ check.getD start nullHash = h := by
      simpa using hfree 0 (by simp)
    rw [storeGroup, if_pos hhead]
    refine ih fun j hj => ?_
    -- writing at `start` leaves the later places as they were
    rw [getD_set, if_neg (by omega), show start + 1 + j = start + (j + 1) by omega]
    simpa using hfree (j + 1) (by simp; omega)

/-- On places that are all null, `storeGroup` finishes with the group written
over them. -/
theorem storeGroup_of_null {check : List Hash} {start : Nat} {group : List Hash}
    (hfit : start + group.length ≤ check.length)
    (hnull : ∀ j < group.length, check.getD (start + j) nullHash = nullHash) :
    storeGroup check start group = .ok (check.take start ++ group ++ check.drop (start + group.length)) := by
  induction group generalizing check start with
  | nil => simp [storeGroup]
  | cons h rest ih =>
    have hhead : check.getD start nullHash = nullHash := by simpa using hnull 0 (by simp)
    have hlt : start < check.length := by simp at hfit; omega
    rw [storeGroup, if_pos (.inl hhead)]
    -- the rest of the group goes to the places after `start`, still null after the write
    have hrest := @ih (check.set start h) (start + 1) (by simp at hfit ⊢; omega)
      fun j hj => by
        rw [getD_set, if_neg (by omega), show start + 1 + j = start + (j + 1) by omega]
        simpa using hnull (j + 1) (by simp; omega)
    have htake : (check.set start h).take (start + 1) = check.take start ++ [h] := by
      rw [List.take_add_one, List.take_set_of_le (le_refl _), List.getElem?_set_self hlt, Option.toList_some]
    have hdrop : (check.set start h).drop (start + 1 + rest.length) = check.drop (start + (rest.length + 1)) := by
      rw [List.drop_set_of_lt (by omega)]
      congr 1
      omega
    rw [hrest, htake, hdrop, List.length_cons]
    simp

/-- A group entry written by `storeGroup` for a matching complete group. -/
theorem groupEntry_of_stored {env : Env Pool} {hashOfHashes group : List Hash} {n i : Nat} {h : Hash}
    (hlength : group.length = HASH_OF_HASHES_STEP) (hmatch : env.cnFastHash group = hashOfHashes.getD n nullHash)
    (hlo : n * HASH_OF_HASHES_STEP ≤ i) (hhi : i < n * HASH_OF_HASHES_STEP + HASH_OF_HASHES_STEP)
    (hval : h = group.getD (i - n * HASH_OF_HASHES_STEP) nullHash) : GroupEntry env hashOfHashes i h :=
  ⟨group, hlength, by rw [group_div hlo hhi, hmatch], by rw [group_mod hlo hhi, hval]⟩

/-! ## The loop over the groups -/

section CheckGroups

variable {env : Env Pool} {hashOfHashes data : List Hash} {firstIndex hashesCount : Nat}

/-- `checkGroups` fills its table with the hashes of complete matching groups,
however it ends. -/
theorem checkGroups_fills {ns : List Nat} (hfirst : ∀ n ∈ ns, firstIndex ≤ n) {usable : Nat}
    {check check' : List Hash} {u : Nat}
    (hrun : checkGroups env hashOfHashes data firstIndex hashesCount ns usable check = .ok (u, check') ∨
      checkGroups env hashOfHashes data firstIndex hashesCount ns usable check = .error check') :
    Fills nullHash (StoredFromGroup env hashOfHashes data firstIndex) check check' := by
  induction ns generalizing usable check with
  | nil =>
    simp only [checkGroups, Except.ok.injEq, Prod.mk.injEq, reduceCtorEq, or_false] at hrun
    exact hrun.2 ▸ Fills.refl check
  | cons n rest ih =>
    have hrest : ∀ m ∈ rest, firstIndex ≤ m := fun m hm => hfirst m (List.mem_cons_of_mem n hm)
    -- a write of group `n` is a `StoredFromGroup` entry
    have hstored : ∀ {c c'}, ¬data.length < (n - firstIndex) * HASH_OF_HASHES_STEP + HASH_OF_HASHES_STEP →
        ¬env.cnFastHash (checkedGroup data firstIndex n) ≠ hashOfHashes.getD n nullHash →
        (storeGroup c (n * HASH_OF_HASHES_STEP) (checkedGroup data firstIndex n) = .ok c' ∨
          storeGroup c (n * HASH_OF_HASHES_STEP) (checkedGroup data firstIndex n) = .error c') →
        Fills nullHash (StoredFromGroup env hashOfHashes data firstIndex) c c' := by
      intro c c' hlong hmatch hstore
      have hlength := checkedGroup_length (Nat.le_of_not_lt hlong)
      refine (storeGroup_fills hstore).mono fun i h ⟨hlo, hhi, hval⟩ => ?_
      rw [hlength] at hhi
      exact ⟨n, hfirst n List.mem_cons_self, Nat.le_of_not_lt hlong, not_not.1 hmatch, hlo, hhi, hval⟩
    simp only [checkGroups] at hrun
    split at hrun
    · split at hrun
      · simp only [Except.ok.injEq, Prod.mk.injEq, reduceCtorEq, or_false] at hrun
        exact hrun.2 ▸ Fills.refl check
      · next hlong =>
        split at hrun
        · simp only [Except.ok.injEq, Prod.mk.injEq, reduceCtorEq, or_false] at hrun
          exact hrun.2 ▸ Fills.refl check
        · next hmatch =>
          split at hrun
          · next c hstore =>
            simp only [reduceCtorEq, Except.error.injEq, false_or] at hrun
            exact hrun ▸ hstored hlong hmatch (.inr hstore)
          · next c hstore => exact (hstored hlong hmatch (.inl hstore)).trans (ih hrest hrun)
    · exact ih hrest hrun

/-- With `cn_fast_hash` injective on groups, `checkGroups` never fails its
consistency assertion on a table whose entries are all group entries. -/
theorem checkGroups_ne_error
    (hinjective : ∀ a b : List Hash, a.length = HASH_OF_HASHES_STEP → b.length = HASH_OF_HASHES_STEP →
      env.cnFastHash a = env.cnFastHash b → a = b)
    {ns : List Nat} (hfirst : ∀ n ∈ ns, firstIndex ≤ n) {usable : Nat} {check : List Hash}
    (hentries : ∀ i, check.getD i nullHash ≠ nullHash → GroupEntry env hashOfHashes i (check.getD i nullHash))
    (check' : List Hash) :
    checkGroups env hashOfHashes data firstIndex hashesCount ns usable check ≠ .error check' := by
  induction ns generalizing usable check with
  | nil => simp [checkGroups]
  | cons n rest ih =>
    have hrest : ∀ m ∈ rest, firstIndex ≤ m := fun m hm => hfirst m (List.mem_cons_of_mem n hm)
    simp only [checkGroups]
    split
    · split
      · simp
      · next hlong =>
        split
        · simp
        · next hmatch =>
          have hlength := checkedGroup_length (Nat.le_of_not_lt hlong)
          -- an entry already there is the group's own hash at that place
          have hfree : ∀ j < (checkedGroup data firstIndex n).length,
              check.getD (n * HASH_OF_HASHES_STEP + j) nullHash = nullHash ∨
                check.getD (n * HASH_OF_HASHES_STEP + j) nullHash = (checkedGroup data firstIndex n).getD j nullHash := by
            intro j hj
            rw [hlength] at hj
            by_cases hnull : check.getD (n * HASH_OF_HASHES_STEP + j) nullHash = nullHash
            · exact .inl hnull
            obtain ⟨group, hgroup, hhash, hval⟩ := hentries _ hnull
            have hlo : n * HASH_OF_HASHES_STEP ≤ n * HASH_OF_HASHES_STEP + j := Nat.le_add_right _ _
            have hhi : n * HASH_OF_HASHES_STEP + j < n * HASH_OF_HASHES_STEP + HASH_OF_HASHES_STEP := by omega
            rw [group_div hlo hhi] at hhash
            rw [group_mod hlo hhi, Nat.add_sub_cancel_left] at hval
            have hsame := hinjective _ _ hgroup hlength (hhash.trans (not_not.1 hmatch).symm)
            exact .inr (hval ▸ hsame ▸ rfl)
          obtain ⟨c, hstore⟩ := storeGroup_ok hfree
          rw [show (data.drop ((n - firstIndex) * HASH_OF_HASHES_STEP)).take HASH_OF_HASHES_STEP =
            checkedGroup data firstIndex n from rfl, hstore]
          have hfills : Fills nullHash (GroupEntry env hashOfHashes) check c :=
            (storeGroup_fills (.inl hstore)).mono fun i h ⟨hlo, hhi, hval⟩ =>
              groupEntry_of_stored hlength (not_not.1 hmatch) hlo (hlength ▸ hhi) hval
          exact ih hrest (hfills.entries hentries)
    · exact ih hrest hentries

/-- The running count after `k` groups from `firstIndex`, having started at
`start`: capped at the number of offered hashes once past the pre-validated
groups, and before that `HASH_OF_HASHES_STEP` per complete group over
`start`, modulo `2 ^ 64`. -/
def UsableAfter (hashOfHashes data : List Hash) (firstIndex hashesCount start k usable : Nat) : Prop :=
  (usable ≤ hashesCount ∧ hashOfHashes.length ≤ firstIndex + k) ∨
    (usable = (start + k * HASH_OF_HASHES_STEP) % 2 ^ 64 ∧ k * HASH_OF_HASHES_STEP ≤ data.length)

/-- The count `checkGroups` returns over the groups `firstIndex + k` on is one
it could reach after some number of groups. -/
theorem checkGroups_usable {start : Nat} :
    ∀ (m k usable : Nat) (check : List Hash) {u : Nat} {check' : List Hash},
      UsableAfter hashOfHashes data firstIndex hashesCount start k usable →
      checkGroups env hashOfHashes data firstIndex hashesCount (List.range' (firstIndex + k) m) usable check =
        .ok (u, check') →
      ∃ k', UsableAfter hashOfHashes data firstIndex hashesCount start k' u
  | 0, k, usable, check, u, check', hinv, hrun => by
    simp only [List.range'_zero, checkGroups, Except.ok.injEq, Prod.mk.injEq] at hrun
    exact ⟨k, hrun.1 ▸ hinv⟩
  | m + 1, k, usable, check, u, check', hinv, hrun => by
    have hnext : firstIndex + k + 1 = firstIndex + (k + 1) := by omega
    rw [List.range'_succ] at hrun
    simp only [checkGroups] at hrun
    split at hrun
    · next hvalid =>
      split at hrun
      · simp only [Except.ok.injEq, Prod.mk.injEq] at hrun
        exact ⟨k, hrun.1 ▸ hinv⟩
      · next hlong =>
        split at hrun
        · simp only [Except.ok.injEq, Prod.mk.injEq] at hrun
          exact ⟨k, hrun.1 ▸ hinv⟩
        · split at hrun
          · cases hrun
          · rw [hnext] at hrun
            refine checkGroups_usable m (k + 1) _ _ ?_ hrun
            -- a matching group lies below the end of the pre-validated ones
            rcases hinv with ⟨-, hpast⟩ | ⟨hcount, -⟩
            · omega
            · rw [Nat.add_sub_cancel_left] at hlong
              refine .inr ⟨?_, ?_⟩
              · rw [hcount, wrapU64, Nat.mod_add_mod, Nat.add_mul, one_mul, Nat.add_assoc]
              · rw [Nat.add_mul, one_mul]
                omega
    · next hpast =>
      rw [hnext] at hrun
      refine checkGroups_usable m (k + 1) _ _ (.inl ⟨?_, by omega⟩) hrun
      split <;> omega

/-- One complete group whose hash matches, over null places: the loop writes it
and counts it. -/
theorem checkGroups_matching_group {check group : List Hash} {n usable : Nat}
    (hindex : n < hashOfHashes.length) (hlength : group.length = HASH_OF_HASHES_STEP)
    (hhash : env.cnFastHash group = hashOfHashes.getD n nullHash)
    (hfit : n * HASH_OF_HASHES_STEP + HASH_OF_HASHES_STEP ≤ check.length)
    (hnull : ∀ j < HASH_OF_HASHES_STEP, check.getD (n * HASH_OF_HASHES_STEP + j) nullHash = nullHash) :
    checkGroups env hashOfHashes group n hashesCount [n] usable check =
      .ok (wrapU64 (usable + HASH_OF_HASHES_STEP),
        check.take (n * HASH_OF_HASHES_STEP) ++ group ++ check.drop (n * HASH_OF_HASHES_STEP + HASH_OF_HASHES_STEP)) := by
  have hstore := @storeGroup_of_null check (n * HASH_OF_HASHES_STEP) group (by rwa [hlength]) (by rwa [hlength])
  rw [hlength] at hstore
  have htake : (group.drop 0).take HASH_OF_HASHES_STEP = group := by
    rw [List.drop_zero, List.take_of_length_le hlength.le]
  simp only [checkGroups, if_pos hindex, Nat.sub_self, Nat.zero_mul, Nat.zero_add, hlength, lt_irrefl,
    if_false, htake, hhash, ne_eq, not_true_eq_false, hstore]

end CheckGroups

/-! ## The first group -/

/-- A request starting at a group boundary starts with that group and needs no
stored hash. -/
theorem firstGroup_aligned (s : Blockchain Pool) (n : Nat) :
    s.firstGroup (n * HASH_OF_HASHES_STEP) = (n, 0, []) := by
  have hdiv : n * HASH_OF_HASHES_STEP / HASH_OF_HASHES_STEP = n := Nat.mul_div_cancel n (by decide)
  simp [firstGroup, hdiv, Nat.mul_mod_left]

/-- The first group starts `pop` offered hashes above `height`, or
`storedLength` stored ones below it, and the stored ones are fewer than a
group. -/
theorem firstGroup_split (s : Blockchain Pool) (height : Nat) :
    (s.firstGroup height).1 * HASH_OF_HASHES_STEP + (s.firstGroup height).2.2.length =
        height + (s.firstGroup height).2.1 ∧
      (s.firstGroup height).2.2.length < HASH_OF_HASHES_STEP := by
  unfold firstGroup
  split
  · simp only [List.length_nil, hashOfHashesStep_eq] at *
    omega
  · simp only [List.length_map, List.length_range', hashOfHashesStep_eq]
    omega

/-- A request that passed the early return for short requests does not skip
more hashes than it offers. -/
theorem firstGroup_pop_le (s : Blockchain Pool) {height count : Nat} (hcount : 0 < count)
    (hbound : height + count < 2 ^ 64)
    (hlong : ¬(height / HASH_OF_HASHES_STEP = subU64 (height + count) 1 / HASH_OF_HASHES_STEP ∧
      count < HASH_OF_HASHES_STEP ∧ (height + count) % HASH_OF_HASHES_STEP ≠ 0)) :
    (s.firstGroup height).2.1 ≤ count := by
  rw [subU64_of_le (by omega) hbound] at hlong
  unfold firstGroup
  split
  · simp only [hashOfHashesStep_eq] at *
    omega
  · exact Nat.zero_le _

/-- The hashes a call checks are the blocks from its first group on, as it
sees them, in the connected and the disconnected case alike. -/
theorem firstGroup_data_getD (s : Blockchain Pool) (height : Nat) (hashes : List Hash) (idx : Nat) :
    ((s.firstGroup height).2.2 ++ hashes.drop (s.firstGroup height).2.1).getD idx nullHash =
      s.offeredHashAt height hashes ((s.firstGroup height).1 * HASH_OF_HASHES_STEP + idx) := by
  unfold firstGroup offeredHashAt
  dsimp only
  split
  · -- the request skips to the group boundary above `height`
    dsimp only
    rw [List.nil_append, List.getD_eq_getElem?_getD, List.getElem?_drop, ← List.getD_eq_getElem?_getD,
      if_neg (by rw [hashOfHashesStep_eq]; omega)]
    congr 1
    rw [hashOfHashesStep_eq]
    omega
  · -- stored hashes complete the first group below `height`
    dsimp only
    by_cases hidx : idx < height - height / HASH_OF_HASHES_STEP * HASH_OF_HASHES_STEP
    · rw [if_pos (by omega), List.getD_append _ _ _ _ (by simpa using hidx), List.getD_eq_getElem?_getD,
        List.getElem?_map, List.getElem?_range' hidx]
      simp
    · rw [if_neg (by omega), List.getD_append_right _ _ _ _ (by simpa using hidx), List.drop_zero]
      simp only [List.length_map, List.length_range']
      congr 1
      have := Nat.div_mul_le_self height HASH_OF_HASHES_STEP
      omega

/-! ## One call -/

/-- What a call writes at `i`: the hash of block `i` as it sees it, in a group
whose hash matches the pre-validated one. -/
def OfferedEntry (env : Env Pool) (s : Blockchain Pool) (height : Nat) (hashes : List Hash) (i : Nat)
    (h : Hash) : Prop :=
  h = s.offeredHashAt height hashes i ∧
    env.cnFastHash (s.offeredGroup height hashes (i / HASH_OF_HASHES_STEP)) =
      s.blocksHashOfHashes.getD (i / HASH_OF_HASHES_STEP) nullHash

section Call

variable {env : Env Pool} {s : Blockchain Pool} {height : Nat} {hashes : List Hash}

theorem offeredGroup_getD (n : Nat) {j : Nat} (hj : j < HASH_OF_HASHES_STEP) :
    (s.offeredGroup height hashes n).getD j nullHash =
      s.offeredHashAt height hashes (n * HASH_OF_HASHES_STEP + j) := by
  rw [offeredGroup, List.getD_eq_getElem?_getD, List.getElem?_map, List.getElem?_range' hj]
  simp only [Option.map_some, Option.getD_some, Nat.one_mul]

/-- A complete group of the checked hashes is the group of blocks the call
sees there. -/
theorem checkedGroup_eq_offeredGroup {data : List Hash} {firstIndex n : Nat}
    (hdata : ∀ idx, data.getD idx nullHash = s.offeredHashAt height hashes (firstIndex * HASH_OF_HASHES_STEP + idx))
    (hfirst : firstIndex ≤ n)
    (hcomplete : (n - firstIndex) * HASH_OF_HASHES_STEP + HASH_OF_HASHES_STEP ≤ data.length) :
    checkedGroup data firstIndex n = s.offeredGroup height hashes n := by
  have hlength := checkedGroup_length hcomplete
  refine List.ext_getElem (by simp [hlength, offeredGroup]) fun j hj _ => ?_
  rw [hlength] at hj
  have hbelow := Nat.mul_le_mul_right HASH_OF_HASHES_STEP hfirst
  have hplace : firstIndex * HASH_OF_HASHES_STEP + ((n - firstIndex) * HASH_OF_HASHES_STEP + j) =
      n * HASH_OF_HASHES_STEP + j := by
    rw [Nat.sub_mul]
    omega
  rw [← List.getD_eq_getElem _ nullHash, ← List.getD_eq_getElem _ nullHash, checkedGroup_getD _ _ _ hj,
    hdata, hplace, offeredGroup_getD n hj]

theorem offeredEntry_of_stored {data : List Hash} {firstIndex i : Nat} {h : Hash}
    (hdata : ∀ idx, data.getD idx nullHash = s.offeredHashAt height hashes (firstIndex * HASH_OF_HASHES_STEP + idx))
    (hstored : StoredFromGroup env s.blocksHashOfHashes data firstIndex i h) :
    OfferedEntry env s height hashes i h := by
  obtain ⟨n, hfirst, hcomplete, hmatch, hlo, hhi, hval⟩ := hstored
  rw [checkedGroup_eq_offeredGroup hdata hfirst hcomplete] at hmatch hval
  have hplace : i - n * HASH_OF_HASHES_STEP < HASH_OF_HASHES_STEP := by omega
  refine ⟨?_, by rw [group_div hlo hhi]; exact hmatch⟩
  rw [hval, offeredGroup_getD n hplace, Nat.add_sub_cancel' hlo]

/-- The entries a call writes into `m_blocks_hash_check`, whether it returns
its count or asserts. -/
theorem checkWritten_fills (env : Env Pool) (s : Blockchain Pool) (height : Nat) (hashes : List Hash) :
    Fills nullHash (OfferedEntry env s height hashes) s.blocksHashCheck
      (checkWritten (prevalidateBlockHashesResult env s height hashes)) := by
  have hchecked : ∀ lastIndex, Fills nullHash (OfferedEntry env s height hashes) s.blocksHashCheck
      (checkWritten (checkOffered env s height hashes lastIndex)) := by
    intro lastIndex
    have hdata := firstGroup_data_getD s height hashes
    unfold checkOffered
    rcases hfg : s.firstGroup height with ⟨firstIndex, pop, stored⟩
    rw [hfg] at hdata
    dsimp only at hdata ⊢
    have hfirst : ∀ n ∈ List.range' firstIndex (lastIndex + 1 - firstIndex), firstIndex ≤ n :=
      fun n hn => (List.mem_range'_1.1 hn).1
    split
    · next check hrun =>
      exact (checkGroups_fills hfirst (Or.inr hrun : _ = Except.ok (0, check) ∨ _)).mono fun _ _ => offeredEntry_of_stored hdata
    · next usable check hrun =>
      -- both the returned count and the final assertion leave the loop's table
      have hfills := (checkGroups_fills hfirst (.inl hrun)).mono fun _ _ => offeredEntry_of_stored hdata
      split <;> exact hfills
  unfold prevalidateBlockHashesResult
  dsimp only
  split_ifs
  · exact Fills.refl _
  · exact Fills.refl _
  · exact Fills.refl _
  · exact hchecked _

/-- Where a count satisfying `UsableAfter` ends: within the offered hashes,
or at half of `2 ^ 64` and above, where the final assertion returns 0.  It
started at the offset of the first group, `pop` offered hashes being skipped
and `storedLength` stored ones completing that group. -/
theorem usableAfter_bound {hashOfHashes data : List Hash} {firstIndex hashesCount pop storedLength k u : Nat}
    (hsplit : firstIndex * HASH_OF_HASHES_STEP + storedLength = height + pop)
    (hstored : storedLength < HASH_OF_HASHES_STEP) (hpop : pop ≤ hashesCount)
    (hdata : data.length = storedLength + (hashesCount - pop)) (hbound : height + hashesCount < 2 ^ 64)
    (hinv : UsableAfter hashOfHashes data firstIndex hashesCount
      (subU64 (firstIndex * HASH_OF_HASHES_STEP) height) k u) :
    u ≤ hashesCount ∨ (2 ^ 64 - 1) / 2 ≤ u := by
  rcases hinv with ⟨hu, -⟩ | ⟨hu, hk⟩
  · exact .inl hu
  · rw [hu, subU64]
    rw [hdata] at hk
    rw [hashOfHashesStep_eq] at hsplit hstored hk ⊢
    omega

theorem checkOffered_usable_le {lastIndex : Nat} (hbound : height + hashes.length < 2 ^ 64)
    (hpop : (s.firstGroup height).2.1 ≤ hashes.length) {u : Nat} {check : List Hash}
    (hresult : checkOffered env s height hashes lastIndex = .ok (u, check)) : u ≤ hashes.length := by
  obtain ⟨hsplit, hstored⟩ := firstGroup_split s height
  unfold checkOffered at hresult
  rcases hfg : s.firstGroup height with ⟨firstIndex, pop, stored⟩
  rw [hfg] at hresult hsplit hstored hpop
  dsimp only at hresult hsplit hstored hpop
  split at hresult
  · cases hresult
  · next usable check' hrun =>
    split at hresult
    · next hhalf =>
      simp only [Except.ok.injEq, Prod.mk.injEq] at hresult
      have hstart : UsableAfter s.blocksHashOfHashes (stored ++ hashes.drop pop) firstIndex hashes.length
          (subU64 (firstIndex * HASH_OF_HASHES_STEP) height) 0 (subU64 (firstIndex * HASH_OF_HASHES_STEP) height) :=
        .inr ⟨by rw [Nat.zero_mul, Nat.add_zero, Nat.mod_eq_of_lt (subU64_lt _ _)], by simp⟩
      obtain ⟨k, hk⟩ := checkGroups_usable _ 0 _ _ hstart hrun
      have hdata : (stored ++ hashes.drop pop).length = stored.length + (hashes.length - pop) := by simp
      rw [← hresult.1]
      exact (usableAfter_bound hsplit hstored hpop hdata hbound hk).resolve_right (by omega)
    · cases hresult

/-- (a): a call returning its count returns at most the number of hashes
offered. -/
theorem prevalidateBlockHashesResult_usable_le (hnonempty : hashes ≠ [])
    (hbound : height + hashes.length < 2 ^ 64) {u : Nat} {check : List Hash}
    (hresult : prevalidateBlockHashesResult env s height hashes = .ok (u, check)) : u ≤ hashes.length := by
  have hcount : 0 < hashes.length := List.length_pos_of_ne_nil hnonempty
  unfold prevalidateBlockHashesResult at hresult
  dsimp only at hresult
  split_ifs at hresult with _ _ hshort
  · simp only [Except.ok.injEq, Prod.mk.injEq] at hresult
    exact hresult.1 ▸ le_rfl
  · simp only [Except.ok.injEq, Prod.mk.injEq] at hresult
    exact hresult.1 ▸ le_rfl
  · simp only [Except.ok.injEq, Prod.mk.injEq] at hresult
    exact hresult.1 ▸ le_rfl
  · exact checkOffered_usable_le hbound (firstGroup_pop_le s hcount hbound hshort) hresult

theorem checkOffered_consistent
    (hinjective : ∀ a b : List Hash, a.length = HASH_OF_HASHES_STEP → b.length = HASH_OF_HASHES_STEP →
      env.cnFastHash a = env.cnFastHash b → a = b)
    (hsound : HashCheckSound env s) (lastIndex : Nat) (check : List Hash) :
    checkOffered env s height hashes lastIndex ≠
      .error ("Consistency failure in m_blocks_hash_check construction", check) := by
  intro hresult
  unfold checkOffered at hresult
  rcases hfg : s.firstGroup height with ⟨firstIndex, pop, stored⟩
  rw [hfg] at hresult
  dsimp only at hresult
  have hfirst : ∀ n ∈ List.range' firstIndex (lastIndex + 1 - firstIndex), firstIndex ≤ n :=
    fun n hn => (List.mem_range'_1.1 hn).1
  split at hresult
  · next check' hrun => exact checkGroups_ne_error hinjective hfirst hsound.entries check' hrun
  · split at hresult <;> simp at hresult

/-- (c): on a table whose entries all sit in pre-validated groups, and with
`cn_fast_hash` injective on groups, a call never fails its consistency
assertion. -/
theorem prevalidateBlockHashesResult_consistent
    (hinjective : ∀ a b : List Hash, a.length = HASH_OF_HASHES_STEP → b.length = HASH_OF_HASHES_STEP →
      env.cnFastHash a = env.cnFastHash b → a = b)
    (hsound : HashCheckSound env s) (check : List Hash) :
    prevalidateBlockHashesResult env s height hashes ≠
      .error ("Consistency failure in m_blocks_hash_check construction", check) := by
  intro hresult
  unfold prevalidateBlockHashesResult at hresult
  dsimp only at hresult
  split_ifs at hresult
  exact checkOffered_consistent hinjective hsound _ check hresult

theorem prevalidateBlockHashes_run (env : Env Pool) (s : Blockchain Pool) (height : Nat) (hashes : List Hash) :
    (prevalidateBlockHashes env height hashes).run s =
      .ok (match prevalidateBlockHashesResult env s height hashes with
          | .ok (usable, _) => usable
          | .error _ => 0)
        { s with blocksHashCheck := checkWritten (prevalidateBlockHashesResult env s height hashes) } :=
  rfl

/-- What a call `prevalidate_block_hashes(height, hashes)` on `s` must do to be
sound: return at most the number of hashes offered, write only null entries
and only hashes of blocks in matching groups, and never fail the consistency
assertion. -/
structure PrevalidationSound (env : Env Pool) (s : Blockchain Pool) (height : Nat) (hashes : List Hash) :
    Prop where
  usableLe : ∀ u s', (prevalidateBlockHashes env height hashes).run s = .ok u s' → u ≤ hashes.length
  writes : ∀ u s', (prevalidateBlockHashes env height hashes).run s = .ok u s' →
    Fills nullHash (OfferedEntry env s height hashes) s.blocksHashCheck s'.blocksHashCheck
  consistent : ∀ check, prevalidateBlockHashesResult env s height hashes ≠
    .error ("Consistency failure in m_blocks_hash_check construction", check)

theorem prevalidationSound_of_hashCheckSound
    (hinjective : ∀ a b : List Hash, a.length = HASH_OF_HASHES_STEP → b.length = HASH_OF_HASHES_STEP →
      env.cnFastHash a = env.cnFastHash b → a = b)
    (hsound : HashCheckSound env s) (hnonempty : hashes ≠ []) (hbound : height + hashes.length < 2 ^ 64) :
    PrevalidationSound env s height hashes where
  usableLe u s' hrun := by
    rw [prevalidateBlockHashes_run, EStateM.Result.ok.injEq] at hrun
    rw [← hrun.1]
    split
    · next usable check hresult => exact prevalidateBlockHashesResult_usable_le hnonempty hbound hresult
    · exact Nat.zero_le _
  writes u s' hrun := by
    rw [prevalidateBlockHashes_run, EStateM.Result.ok.injEq] at hrun
    rw [← hrun.2]
    exact checkWritten_fills env s height hashes
  consistent := prevalidateBlockHashesResult_consistent hinjective hsound

/-- The converse direction for one group: a call offering group `n` whole, at
its boundary, whose hash is the pre-validated one, on a table still null there,
accepts every hash and writes the group into the table. -/
theorem prevalidateBlockHashesResult_of_matching_group {n : Nat} {group : List Hash}
    (hlength : group.length = HASH_OF_HASHES_STEP) (hindex : n < s.blocksHashOfHashes.length)
    (hhash : env.cnFastHash group = s.blocksHashOfHashes.getD n nullHash)
    (hfit : n * HASH_OF_HASHES_STEP + HASH_OF_HASHES_STEP ≤ s.blocksHashCheck.length)
    (hnull : ∀ j < HASH_OF_HASHES_STEP, s.blocksHashCheck.getD (n * HASH_OF_HASHES_STEP + j) nullHash = nullHash)
    (hbound : n * HASH_OF_HASHES_STEP + HASH_OF_HASHES_STEP < 2 ^ 64) :
    prevalidateBlockHashesResult env s (n * HASH_OF_HASHES_STEP) group =
      .ok (HASH_OF_HASHES_STEP, s.blocksHashCheck.take (n * HASH_OF_HASHES_STEP) ++ group ++
        s.blocksHashCheck.drop (n * HASH_OF_HASHES_STEP + HASH_OF_HASHES_STEP)) := by
  have hpos : 0 < HASH_OF_HASHES_STEP := by decide
  have hbelow : ¬n * HASH_OF_HASHES_STEP ≥ s.blocksHashOfHashes.length * HASH_OF_HASHES_STEP :=
    not_le.2 (Nat.mul_lt_mul_of_pos_right hindex hpos)
  have hnonempty : s.blocksHashCheck.isEmpty = false := by
    rw [List.isEmpty_eq_false_iff_exists_mem]
    exact ⟨_, List.getElem_mem (show 0 < s.blocksHashCheck.length by omega)⟩
  -- the call covers exactly group `n`
  have hlast : subU64 (n * HASH_OF_HASHES_STEP + group.length) 1 / HASH_OF_HASHES_STEP = n := by
    rw [hlength, subU64_of_le (by omega) (by omega)]
    exact Nat.div_eq_of_lt_le (by omega) (by rw [Nat.add_one_mul]; omega)
  have hlong : ¬(n * HASH_OF_HASHES_STEP / HASH_OF_HASHES_STEP = n ∧ group.length < HASH_OF_HASHES_STEP ∧
      (n * HASH_OF_HASHES_STEP + group.length) % HASH_OF_HASHES_STEP ≠ 0) := fun h => by omega
  have hgroups : List.range' n (n + 1 - n) = [n] := by rw [Nat.add_sub_cancel_left, List.range'_one]
  have hhalf : HASH_OF_HASHES_STEP < (2 ^ 64 - 1) / 2 := by rw [hashOfHashesStep_eq]; decide
  unfold prevalidateBlockHashesResult
  rw [if_neg hbelow, hnonempty]
  simp only [Bool.false_eq_true, if_false]
  rw [hlast, if_neg hlong]
  unfold checkOffered
  rw [firstGroup_aligned]
  dsimp only
  rw [List.nil_append, List.drop_zero, hgroups, subU64_of_le (le_refl _) (by omega), Nat.sub_self,
    checkGroups_matching_group hindex hlength hhash hfit hnull]
  dsimp only
  rw [Nat.zero_add, wrapU64_of_lt (by omega), if_pos hhalf]

/-- The first call after `load_compiled_in_block_hashes`, offered the first
group, writes it at the front of the table as loaded. -/
theorem prevalidateBlockHashesResult_of_loaded {k : Nat} {group : List Hash}
    (hlength : group.length = HASH_OF_HASHES_STEP) (hindex : 0 < s.blocksHashOfHashes.length)
    (hhash : env.cnFastHash group = s.blocksHashOfHashes.getD 0 nullHash)
    (hloaded : s.blocksHashCheck = List.replicate ((k + 1) * HASH_OF_HASHES_STEP) nullHash) :
    prevalidateBlockHashesResult env s 0 group =
      .ok (HASH_OF_HASHES_STEP, group ++ List.replicate (k * HASH_OF_HASHES_STEP) nullHash) := by
  have hrun := prevalidateBlockHashesResult_of_matching_group (n := 0) hlength hindex hhash
    (by rw [hloaded, List.length_replicate, Nat.add_one_mul]; omega)
    (fun j _ => by rw [hloaded, List.getD_eq_getElem?_getD, List.getElem?_replicate]; split <;> rfl)
    (by rw [hashOfHashesStep_eq]; decide)
  rw [Nat.zero_mul] at hrun
  rw [hrun, hloaded, List.take_zero, List.nil_append, List.drop_replicate, Nat.zero_add, Nat.add_one_mul,
    Nat.add_sub_cancel]

end Call

/-! ## Whole runs -/

section Runs

variable {env : Env Pool}

theorem step_prevalidateBlockHashes (env : Env Pool) (s : Blockchain Pool) (height : Nat) (hashes : List Hash) :
    step env s (.prevalidateBlockHashes height hashes) =
      { s with blocksHashCheck := checkWritten (prevalidateBlockHashesResult env s height hashes) } :=
  rfl

/-- A node offered a whole matching group at its boundary, on a table still
null there, writes the group into `m_blocks_hash_check`. -/
theorem step_prevalidate_matching_group {s : Blockchain Pool} {n : Nat} {group : List Hash}
    (hlength : group.length = HASH_OF_HASHES_STEP) (hindex : n < s.blocksHashOfHashes.length)
    (hhash : env.cnFastHash group = s.blocksHashOfHashes.getD n nullHash)
    (hfit : n * HASH_OF_HASHES_STEP + HASH_OF_HASHES_STEP ≤ s.blocksHashCheck.length)
    (hnull : ∀ j < HASH_OF_HASHES_STEP, s.blocksHashCheck.getD (n * HASH_OF_HASHES_STEP + j) nullHash = nullHash)
    (hbound : n * HASH_OF_HASHES_STEP + HASH_OF_HASHES_STEP < 2 ^ 64) :
    (step env s (.prevalidateBlockHashes (n * HASH_OF_HASHES_STEP) group)).blocksHashCheck =
      s.blocksHashCheck.take (n * HASH_OF_HASHES_STEP) ++ group ++
        s.blocksHashCheck.drop (n * HASH_OF_HASHES_STEP + HASH_OF_HASHES_STEP) := by
  rw [step_prevalidateBlockHashes,
    prevalidateBlockHashesResult_of_matching_group hlength hindex hhash hfit hnull hbound]
  rfl

theorem groupEntry_of_offered {s : Blockchain Pool} {height : Nat} {hashes : List Hash} {i : Nat} {h : Hash}
    (hoffered : OfferedEntry env s height hashes i h) : GroupEntry env s.blocksHashOfHashes i h := by
  obtain ⟨hval, hmatch⟩ := hoffered
  have hplace : i % HASH_OF_HASHES_STEP < HASH_OF_HASHES_STEP := Nat.mod_lt _ (by decide)
  refine ⟨s.offeredGroup height hashes (i / HASH_OF_HASHES_STEP), by simp [offeredGroup], hmatch, ?_⟩
  rw [offeredGroup_getD _ hplace, Nat.div_add_mod', hval]

theorem HashCheckSound.of_tables {s s' : Blockchain Pool} (hsound : HashCheckSound env s)
    (hhashes : s'.blocksHashOfHashes = s.blocksHashOfHashes) (hcheck : s'.blocksHashCheck = s.blocksHashCheck) :
    HashCheckSound env s' where
  length := by rw [hcheck, hhashes]; exact hsound.length
  entries := by rw [hcheck, hhashes]; exact hsound.entries

/-- A call keeps the table sound: it fills it with entries of matching groups. -/
theorem hashCheckSound_prevalidate {s : Blockchain Pool} (hsound : HashCheckSound env s) (height : Nat)
    (hashes : List Hash) :
    HashCheckSound env { s with
      blocksHashCheck := checkWritten (prevalidateBlockHashesResult env s height hashes) } := by
  have hfills := (checkWritten_fills env s height hashes).mono fun _ _ => groupEntry_of_offered
  exact ⟨hfills.1.trans hsound.length, hfills.entries hsound.entries⟩

theorem hardForkReorganized_hashTables (s : Blockchain Pool) (height : Nat) :
    (s.hardForkReorganized height).blocksHashOfHashes = s.blocksHashOfHashes ∧
      (s.hardForkReorganized height).blocksHashCheck = s.blocksHashCheck := by
  unfold hardForkReorganized
  split <;> exact ⟨rfl, rfl⟩

/-- Every effect keeps the fast-sync table sound: only a pre-validation writes
it. -/
theorem hashCheckSound_step {s s' : Blockchain Pool} (hstep : Effect env s s') (hsound : HashCheckSound env s) :
    HashCheckSound env s' := by
  cases hstep with
  | cacheDifficulty => exact hsound.of_tables rfl rfl
  | resetDifficultyCache => exact hsound.of_tables rfl rfl
  | storeBlock => exact hsound.of_tables rfl rfl
  | popBlock => exact hsound.of_tables rfl rfl
  | reorganize height =>
    obtain ⟨hhashes, hcheck⟩ := hardForkReorganized_hashTables s height
    exact hsound.of_tables hhashes hcheck
  | prevalidate height hashes => exact hashCheckSound_prevalidate hsound height hashes
  | bookkeeping _ hframes => exact hsound.of_tables hframes.hashOfHashes hframes.hashCheck

/-- The table as `load_compiled_in_block_hashes` leaves it: all null. -/
theorem hashCheckSound_of_loaded {s : Blockchain Pool}
    (hloaded : s.blocksHashCheck = List.replicate (s.blocksHashOfHashes.length * HASH_OF_HASHES_STEP) nullHash) :
    HashCheckSound env s where
  length := by rw [hloaded, List.length_replicate]
  entries i hi := by
    rw [hloaded, List.getD_eq_getElem?_getD, List.getElem?_replicate] at hi
    split at hi <;> simp at hi

/-- `fast_check` is taken only for a block whose hash sits at its height in a
pre-validated group. -/
theorem checkProofOfWork_fastCheck {s : Blockchain Pool} (hsound : HashCheckSound env s) {bl : Block}
    {currentDiffic : Nat} (hfast : checkProofOfWork env s bl currentDiffic = some true) :
    GroupEntry env s.blocksHashOfHashes s.db.height (env.hashing.blockHash bl) := by
  unfold checkProofOfWork at hfast
  dsimp only at hfast
  split_ifs at hfast with hbelow hexpected hhash
  · have hentry := hsound.entries _ hexpected
    rwa [← not_not.1 hhash] at hentry
  · simp only [Option.some.injEq, Bool.false_eq_true] at hfast
  · simp only [Option.some.injEq, Bool.false_eq_true] at hfast

theorem fast_sync_prevalidation_sound (env : Env Pool) {init s : Blockchain Pool}
    (hreach : Reachable env init s)
    (hloaded : init.blocksHashCheck =
      List.replicate (init.blocksHashOfHashes.length * HASH_OF_HASHES_STEP) nullHash)
    (hinjective : ∀ a b : List Hash, a.length = HASH_OF_HASHES_STEP → b.length = HASH_OF_HASHES_STEP →
      env.cnFastHash a = env.cnFastHash b → a = b)
    (height : Nat) (hashes : List Hash) (hnonempty : hashes ≠ []) (hbound : height + hashes.length < 2 ^ 64) :
    PrevalidationSound env s height hashes ∧
      ∀ bl currentDiffic, checkProofOfWork env s bl currentDiffic = some true →
        GroupEntry env s.blocksHashOfHashes s.db.height (env.hashing.blockHash bl) := by
  have hsound : HashCheckSound env s :=
    hreach.invariant (fun _ _ hstep => hashCheckSound_step hstep) (hashCheckSound_of_loaded hloaded)
  exact ⟨prevalidationSound_of_hashCheckSound hinjective hsound hnonempty hbound,
    fun _ _ => checkProofOfWork_fastCheck hsound⟩

/-- The block hashes of heights 0 to 255 and of heights 256 to 511. -/
def firstHashGroup : List Hash := List.range' 1 HASH_OF_HASHES_STEP

def secondHashGroup : List Hash := List.range' (HASH_OF_HASHES_STEP + 1) HASH_OF_HASHES_STEP

/-- A node whose `cn_fast_hash` gives `1` and `2` to the two groups and an
injective encoding above them to every other list. -/
def groupsEnv : Env Unit :=
  { idleEnv with cnFastHash := fun group =>
      if group = firstHashGroup then 1 else if group = secondHashGroup then 2 else Encodable.encode group + 3 }

/-- The empty chain with the two groups pre-validated and its table as loaded. -/
def groupsChain : Blockchain Unit :=
  { versionEightChain [] with
    blocksHashOfHashes := [1, 2], blocksHashCheck := List.replicate (2 * HASH_OF_HASHES_STEP) nullHash }

theorem groupsEnv_injective (a b : List Hash) (hhash : groupsEnv.cnFastHash a = groupsEnv.cnFastHash b) :
    a = b := by
  simp only [groupsEnv] at hhash
  -- the two groups hash apart from each other and from every encoded list
  split_ifs at hhash <;>
    first | (subst_vars; rfl) | exact Encodable.encode_injective (Nat.add_right_cancel hhash) | simp at hhash

theorem fast_sync_prevalidation_sound_on_second_group :
    let s := step groupsEnv groupsChain (.prevalidateBlockHashes 0 firstHashGroup)
    (step groupsEnv s (.prevalidateBlockHashes HASH_OF_HASHES_STEP secondHashGroup)).blocksHashCheck =
        firstHashGroup ++ secondHashGroup ∧
      PrevalidationSound groupsEnv s HASH_OF_HASHES_STEP secondHashGroup ∧
      ∀ bl currentDiffic, checkProofOfWork groupsEnv s bl currentDiffic = some true →
        GroupEntry groupsEnv s.blocksHashOfHashes s.db.height (groupsEnv.hashing.blockHash bl) := by
  intro s
  have hlengths : firstHashGroup.length = HASH_OF_HASHES_STEP ∧ secondHashGroup.length = HASH_OF_HASHES_STEP := by
    simp [firstHashGroup, secondHashGroup]
  have hbound : 1 * HASH_OF_HASHES_STEP + HASH_OF_HASHES_STEP < 2 ^ 64 := by rw [hashOfHashesStep_eq]; decide
  -- the first call writes the first group over the loaded table
  have hfirst : s.blocksHashCheck = firstHashGroup ++ List.replicate HASH_OF_HASHES_STEP nullHash := by
    have hrun : prevalidateBlockHashesResult groupsEnv groupsChain 0 firstHashGroup = _ :=
      prevalidateBlockHashesResult_of_loaded (k := 1) hlengths.1 (by decide) (by simp [groupsEnv, groupsChain]) rfl
    have hstep := congrArg blocksHashCheck (step_prevalidateBlockHashes groupsEnv groupsChain 0 firstHashGroup)
    rw [hrun, Nat.one_mul] at hstep
    exact hstep
  -- the second call writes the second group after it
  have hhashes : s.blocksHashOfHashes = [1, 2] := rfl
  have hdistinct : secondHashGroup ≠ firstHashGroup := by decide
  have hsecond : (step groupsEnv s
      (.prevalidateBlockHashes (1 * HASH_OF_HASHES_STEP) secondHashGroup)).blocksHashCheck = _ :=
    step_prevalidate_matching_group hlengths.2 (by rw [hhashes]; decide) (by simp [groupsEnv, hhashes, hdistinct])
      (by simp [hfirst, hlengths.1])
      (fun j _ => by rw [hfirst, List.getD_append_right _ _ _ _ (by rw [hlengths.1]; omega)]; simp) hbound
  rw [Nat.one_mul] at hsecond
  refine ⟨?_, ?_⟩
  · rw [hsecond, hfirst]
    simp [hlengths.1]
  exact fast_sync_prevalidation_sound groupsEnv (.step _ .init) rfl (fun a b _ _ => groupsEnv_injective a b)
    _ _ (by simp [secondHashGroup, hashOfHashesStep_eq]) (by simp [secondHashGroup, hashOfHashesStep_eq])

end Runs

end Blockchain

end ElectroneumClassic
