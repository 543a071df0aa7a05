import ElectroneumClassic.Lib.Machine
import Mathlib.Data.List.Sort
import Mathlib.Data.List.GetD

/-!
# Relative and absolute output offsets

A `txin_to_key` names the members of its ring by their global output indices,
written as the first index and then the gap from each index to the next.
`relative_output_offsets_to_absolute` adds the gaps up in place, and
`absolute_output_offsets_to_relative` sorts the indices, then takes the gaps
from the last index down, each still from an index the loop has not changed.

The `uint64_t` arithmetic of neither loop wraps on what the other produces,
so the two are inverse (`output_offsets_round_trip`): the gaps of any indices
add back up to the indices sorted, and running totals that fit a word give
back their gaps.
-/

namespace ElectroneumClassic.Cryptonote

open Machine

/-- `relative_output_offsets_to_absolute`: `res[i] += res[i - 1]` for `i`
from `1`. -/
def relativeOutputOffsetsToAbsolute (off : List Nat) : List Nat :=
  (List.range' 1 (off.length - 1)).foldl
    (fun res i => res.set i (wrapU64 (res.getD i 0 + res.getD (i - 1) 0))) off

/-- `absolute_output_offsets_to_relative`: sorted, then `res[i] -= res[i - 1]`
for `i` from the last index down to `1`. -/
def absoluteOutputOffsetsToRelative (off : List Nat) : List Nat :=
  if off.isEmpty then off
  else
    let res := off.insertionSort (· ≤ ·)
    (List.range' 1 (res.length - 1)).reverse.foldl
      (fun res i => res.set i (subU64 (res.getD i 0) (res.getD (i - 1) 0))) res

/-! ## Running totals and gaps -/

/-- The running totals of a list, from `total`. -/
def runningTotals : List Nat → Nat → List Nat
  | [], _ => []
  | x :: rest, total => (total + x) :: runningTotals rest (total + x)

/-- The gap from each entry to the next, the first from `previous`. -/
def gaps : List Nat → Nat → List Nat
  | [], _ => []
  | x :: rest, previous => (x - previous) :: gaps rest x

@[simp] theorem length_runningTotals (values : List Nat) (total : Nat) :
    (runningTotals values total).length = values.length := by
  induction values generalizing total with
  | nil => rfl
  | cons x rest inductionHypothesis => simp [runningTotals, inductionHypothesis]

theorem runningTotals_append (first rest : List Nat) (total : Nat) :
    runningTotals (first ++ rest) total = runningTotals first total ++ runningTotals rest (total + first.sum) := by
  induction first generalizing total with
  | nil => simp [runningTotals]
  | cons x first inductionHypothesis =>
    rw [List.cons_append, runningTotals, inductionHypothesis, runningTotals, List.sum_cons, Nat.add_assoc]
    rfl

theorem runningTotals_concat (first : List Nat) (x total : Nat) :
    runningTotals (first ++ [x]) total = runningTotals first total ++ [total + first.sum + x] := by
  rw [runningTotals_append]
  rfl

theorem gaps_concat (first : List Nat) (x previous : Nat) :
    gaps (first ++ [x]) previous = gaps first previous ++ [x - first.getLastD previous] := by
  induction first generalizing previous with
  | nil => rfl
  | cons y first inductionHypothesis =>
    rw [List.cons_append, gaps, inductionHypothesis, gaps, List.getLastD_cons]
    rfl

/-- Running totals only grow. -/
theorem pairwise_runningTotals (values : List Nat) (total : Nat) :
    (total :: runningTotals values total).Pairwise (· ≤ ·) := by
  induction values generalizing total with
  | nil => exact List.pairwise_singleton _ _
  | cons x rest inductionHypothesis =>
    have later := inductionHypothesis (total + x)
    refine List.Pairwise.cons (fun y member => ?_) later
    rcases List.mem_cons.1 member with rfl | member
    · exact Nat.le_add_right _ _
    · exact Nat.le_trans (Nat.le_add_right _ _) (List.rel_of_pairwise_cons later member)

/-- The running totals of the gaps of an ascending list are the list. -/
theorem runningTotals_gaps {values : List Nat} {previous : Nat}
    (ascending : (previous :: values).Pairwise (· ≤ ·)) : runningTotals (gaps values previous) previous = values := by
  induction values generalizing previous with
  | nil => rfl
  | cons x rest inductionHypothesis =>
    have above : previous ≤ x := List.rel_of_pairwise_cons ascending List.mem_cons_self
    rw [gaps, runningTotals, Nat.add_sub_cancel' above, inductionHypothesis (List.pairwise_cons.1 ascending).2]

/-- The gaps of running totals are the values added up. -/
theorem gaps_runningTotals (values : List Nat) (total : Nat) : gaps (runningTotals values total) total = values := by
  induction values generalizing total with
  | nil => rfl
  | cons x rest inductionHypothesis => rw [runningTotals, gaps, Nat.add_sub_cancel_left, inductionHypothesis]

theorem mem_runningTotals {values : List Nat} {total y : Nat} (member : y ∈ runningTotals values total) :
    ∃ k < values.length, y = total + (values.take (k + 1)).sum := by
  induction values generalizing total with
  | nil => cases member
  | cons x rest inductionHypothesis =>
    rcases List.mem_cons.1 member with rfl | member
    · exact ⟨0, by simp, by simp⟩
    · obtain ⟨k, inside, rfl⟩ := inductionHypothesis member
      exact ⟨k + 1, by simpa using inside, by simp [List.take_succ_cons, Nat.add_assoc]⟩

theorem getD_runningTotals_concat (first : List Nat) (x total : Nat) :
    (runningTotals (first ++ [x]) total).getD first.length 0 = total + first.sum + x := by
  rw [runningTotals_concat, List.getD_append_right _ _ _ _ (by simp), length_runningTotals, Nat.sub_self]
  rfl

/-! ## The two loops -/

/-- The turns of `relative_output_offsets_to_absolute` from `j`: the first
`j` entries hold running totals, and each turn adds the next entry to the
total before it. -/
theorem relativeLoop_eq {values : List Nat} (fits : ∀ y ∈ runningTotals values 0, y < 2 ^ 64) :
    ∀ steps j, 1 ≤ j → j + steps = values.length →
      (List.range' j steps).foldl (fun res i => res.set i (wrapU64 (res.getD i 0 + res.getD (i - 1) 0)))
        (runningTotals (values.take j) 0 ++ values.drop j) = runningTotals values 0 := by
  intro steps
  induction steps with
  | zero =>
    intro j _ ends
    rw [List.range'_zero, List.foldl_nil, List.take_of_length_le (by omega), List.drop_of_length_le (by omega),
      List.append_nil]
  | succ steps inductionHypothesis =>
    intro j first ends
    obtain ⟨i, rfl⟩ : ∃ i, j = i + 1 := ⟨j - 1, by omega⟩
    have inside : i + 1 < values.length := by omega
    have before : values.take (i + 1) = values.take i ++ [values[i]] := (List.take_append_getElem _).symm
    have next : values.take (i + 1 + 1) = values.take (i + 1) ++ [values[i + 1]] :=
      (List.take_append_getElem inside).symm
    have total : (runningTotals (values.take (i + 1)) 0).getD i 0 = (values.take (i + 1)).sum := by
      have last := getD_runningTotals_concat (values.take i) values[i] 0
      rw [List.length_take, Nat.min_eq_left (by omega)] at last
      rw [before, last, List.sum_append, List.sum_singleton, Nat.zero_add]
    have entry : (runningTotals (values.take (i + 1)) 0 ++ values.drop (i + 1)).getD (i + 1) 0 = values[i + 1] := by
      rw [List.getD_append_right _ _ _ _ (by simp), length_runningTotals, List.length_take,
        Nat.min_eq_left inside.le, Nat.sub_self, List.drop_eq_getElem_cons inside]
      rfl
    have earlier : (runningTotals (values.take (i + 1)) 0 ++ values.drop (i + 1)).getD (i + 1 - 1) 0 =
        (values.take (i + 1)).sum := by
      rw [Nat.add_sub_cancel, List.getD_append _ _ _ _ (by simp; omega), total]
    -- the new total is one of the running totals of `values`, so it fits in a word
    have bounded : (values.take (i + 1)).sum + values[i + 1] < 2 ^ 64 := by
      apply fits
      have whole : runningTotals values 0 = runningTotals (values.take (i + 1 + 1) ++ values.drop (i + 1 + 1)) 0 := by
        rw [List.take_append_drop]
      rw [whole, runningTotals_append, next, runningTotals_concat]
      simp
    have extended : runningTotals (values.take (i + 1)) 0 ++ [(values.take (i + 1)).sum + values[i + 1]] =
        runningTotals (values.take (i + 1 + 1)) 0 := by
      rw [next, runningTotals_concat, Nat.zero_add]
    rw [List.range'_succ, List.foldl_cons, entry, earlier, Nat.add_comm values[i + 1], wrapU64_of_lt bounded,
      List.set_append, if_neg (by simp), length_runningTotals, List.length_take, Nat.min_eq_left inside.le,
      Nat.sub_self, List.drop_eq_getElem_cons inside, List.set_cons_zero, ← List.singleton_append,
      ← List.append_assoc, extended]
    exact inductionHypothesis (i + 1 + 1) (by omega) (by omega)

theorem relativeOutputOffsetsToAbsolute_eq {values : List Nat} (fits : ∀ y ∈ runningTotals values 0, y < 2 ^ 64) :
    relativeOutputOffsetsToAbsolute values = runningTotals values 0 := by
  cases values with
  | nil => rfl
  | cons x rest =>
    have start : x :: rest = runningTotals ((x :: rest).take 1) 0 ++ (x :: rest).drop 1 := by
      simp [runningTotals]
    rw [relativeOutputOffsetsToAbsolute]
    conv_lhs => rw [start]
    exact relativeLoop_eq fits _ 1 (le_refl 1) (by simp; omega)

/-- The turns of `absolute_output_offsets_to_relative` from `m` down: the
entries up to `m` are still the sorted indices, and each turn takes the gap
of an entry from the one before. -/
theorem absoluteLoop_eq {sorted : List Nat} (ascending : sorted.Pairwise (· ≤ ·)) (words : ∀ y ∈ sorted, y < 2 ^ 64) :
    ∀ m (res : List Nat), m < sorted.length → res.take (m + 1) = sorted.take (m + 1) →
      (List.range' 1 m).reverse.foldl (fun res i => res.set i (subU64 (res.getD i 0) (res.getD (i - 1) 0))) res =
        gaps (sorted.take (m + 1)) 0 ++ res.drop (m + 1) := by
  intro m
  induction m with
  | zero =>
    intro res nonempty untouched
    obtain ⟨x, rest, rfl⟩ := List.exists_cons_of_length_pos nonempty
    rw [List.range'_zero, List.reverse_nil, List.foldl_nil, ← List.take_append_drop 1 res, untouched]
    simp [gaps]
  | succ m inductionHypothesis =>
    intro res inside untouched
    have below : m < sorted.length := by omega
    have read : ∀ i, i ≤ m + 1 → res.getD i 0 = sorted.getD i 0 := by
      intro i atMost
      rw [List.getD_eq_getElem?_getD, ← List.getElem?_take_of_lt (show i < m + 2 by omega), untouched,
        List.getElem?_take_of_lt (by omega), ← List.getD_eq_getElem?_getD]
    have ordered : sorted[m] ≤ sorted[m + 1] :=
      List.pairwise_iff_getElem.1 ascending m (m + 1) below inside (by omega)
    have gap : subU64 (res.getD (m + 1) 0) (res.getD (m + 1 - 1) 0) = sorted[m + 1] - sorted[m] := by
      rw [read (m + 1) (le_refl _), Nat.add_sub_cancel, read m (by omega), List.getD_eq_getElem _ _ inside,
        List.getD_eq_getElem _ _ below]
      exact subU64_of_le ordered (words _ (List.getElem_mem _))
    have kept : (res.set (m + 1) (sorted[m + 1] - sorted[m])).take (m + 1) = sorted.take (m + 1) := by
      rw [List.take_set, List.set_eq_of_length_le (by simp),
        show res.take (m + 1) = (res.take (m + 1 + 1)).take (m + 1) by rw [List.take_take, Nat.min_eq_left (by omega)],
        untouched, List.take_take, Nat.min_eq_left (by omega)]
    have resLength : m + 1 < res.length := by
      have same := congrArg List.length untouched
      simp at same
      omega
    rw [List.range'_concat, Nat.one_mul, Nat.add_comm 1 m, List.reverse_append, List.reverse_singleton,
      List.singleton_append, List.foldl_cons, gap, inductionHypothesis _ (by omega) kept, List.drop_set, if_neg (by omega),
      Nat.sub_self,
      List.drop_eq_getElem_cons (by simpa using resLength), List.set_cons_zero, ← List.take_append_getElem inside, gaps_concat]
    have last : (sorted.take (m + 1)).getLastD 0 = sorted[m] := by
      rw [← List.take_append_getElem (show m < sorted.length by omega), List.getLastD_concat]
    rw [last, List.append_assoc, List.singleton_append]

theorem absoluteOutputOffsetsToRelative_eq {values : List Nat} (words : ∀ y ∈ values, y < 2 ^ 64) :
    absoluteOutputOffsetsToRelative values = gaps (values.insertionSort (· ≤ ·)) 0 := by
  have permuted := List.perm_insertionSort (· ≤ ·) values
  cases values with
  | nil => rfl
  | cons x rest =>
    have sortedLength := permuted.length_eq
    rw [absoluteOutputOffsetsToRelative, if_neg (by simp)]
    dsimp only
    rw [absoluteLoop_eq (List.pairwise_insertionSort _ _) (fun y member => words y (permuted.subset member))
        _ _ (by rw [sortedLength]; simp) rfl,
      List.take_of_length_le (by omega), List.drop_of_length_le (by omega), List.append_nil]

/-! ## The round trips -/

/-- Indices made relative and back are the indices sorted ascending, and
relative offsets whose running totals fit a `uint64_t` made absolute and back
are the offsets. -/
theorem output_offsets_round_trip :
    (∀ v : List Nat, (∀ x ∈ v, x < 2 ^ 64) →
      (relativeOutputOffsetsToAbsolute (absoluteOutputOffsetsToRelative v)).Pairwise (· ≤ ·) ∧
        (relativeOutputOffsetsToAbsolute (absoluteOutputOffsetsToRelative v)).Perm v) ∧
    (∀ r : List Nat, (∀ k ≤ r.length, (r.take k).sum ≤ 2 ^ 64 - 1) →
      absoluteOutputOffsetsToRelative (relativeOutputOffsetsToAbsolute r) = r) := by
  constructor
  · intro v words
    have permuted := List.perm_insertionSort (· ≤ ·) v
    have ascending := List.pairwise_insertionSort (· ≤ ·) v
    -- the gaps of the sorted indices add back up to them, each a word
    have totals : runningTotals (gaps (v.insertionSort (· ≤ ·)) 0) 0 = v.insertionSort (· ≤ ·) :=
      runningTotals_gaps (List.pairwise_cons.2 ⟨fun y _ => Nat.zero_le y, ascending⟩)
    rw [absoluteOutputOffsetsToRelative_eq words, relativeOutputOffsetsToAbsolute_eq, totals]
    · exact ⟨ascending, permuted⟩
    · rw [totals]
      exact fun y member => words y (permuted.subset member)
  · intro r fits
    have words : ∀ y ∈ runningTotals r 0, y < 2 ^ 64 := by
      intro y member
      obtain ⟨k, inside, rfl⟩ := mem_runningTotals member
      have bounded := fits (k + 1) (by omega)
      omega
    have ascending := (List.pairwise_cons.1 (pairwise_runningTotals r 0)).2
    rw [relativeOutputOffsetsToAbsolute_eq words, absoluteOutputOffsetsToRelative_eq words,
      List.Pairwise.insertionSort_eq ascending, gaps_runningTotals]

theorem output_offsets_round_trip_on_ring :
    (∀ x ∈ [7, 3, 3, 12], x < 2 ^ 64) ∧
      (relativeOutputOffsetsToAbsolute (absoluteOutputOffsetsToRelative [7, 3, 3, 12])).Perm [7, 3, 3, 12] ∧
      (∀ k ≤ [3, 0, 2].length, ([3, 0, 2].take k).sum ≤ 2 ^ 64 - 1) ∧
      absoluteOutputOffsetsToRelative (relativeOutputOffsetsToAbsolute [3, 0, 2]) = [3, 0, 2] :=
  ⟨by decide, (output_offsets_round_trip.1 [7, 3, 3, 12] (by decide)).2, by decide,
    output_offsets_round_trip.2 [3, 0, 2] (by decide)⟩

example : absoluteOutputOffsetsToRelative [7, 3, 3, 12] = [3, 0, 4, 5] := by decide

end ElectroneumClassic.Cryptonote
