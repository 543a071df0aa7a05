import Mathlib.Data.List.DropRight

/-!
# Tallies over a sliding window

`tally bound modulus xs` counts each value below `bound` in `xs`, in counters
that wrap at `modulus`, as a fixed array of unsigned counters does.
Incrementing the counter of a value appended to the list, or decrementing the
counter of a value dropped from its front, keeps the array the tally of the
list (`modify_tally_append`, `modify_tally_cons`, and their folds); values
at or above `bound` have no counter and leave the array alone.

A window of the last `n` values is `List.rtake`; `rtake_slide` is the step
that drops the oldest value of a full window and appends a new one.
-/

namespace Tally

/-- The counters of the values below `bound` in `xs`, modulo `modulus`. -/
def tally (bound modulus : Nat) (xs : List Nat) : List Nat :=
  (List.range bound).map fun v => xs.count v % modulus

variable {bound modulus : Nat}

@[simp] theorem length_tally (xs : List Nat) : (tally bound modulus xs).length = bound := by
  simp [tally]

theorem getElem_tally (xs : List Nat) {i : Nat} (hi : i < (tally bound modulus xs).length) :
    (tally bound modulus xs)[i] = xs.count i % modulus := by
  simp [tally]

theorem tally_nil : tally bound modulus [] = List.replicate bound 0 := by
  apply List.ext_getElem
  · simp
  · intro i _ _
    simp [tally]

theorem modify_tally_append (xs : List Nat) (v : Nat) :
    (tally bound modulus xs).modify v (fun c => (c + 1) % modulus) = tally bound modulus (xs ++ [v]) := by
  apply List.ext_getElem
  · simp
  · intro i hi _
    rw [List.getElem_modify, getElem_tally, getElem_tally, List.count_append, List.count_singleton]
    split
    · subst v
      simp [Nat.add_mod]
    · rename_i hne
      simp [hne]

theorem foldl_increment_tally (xs : List Nat) (appended : List Nat) :
    appended.foldl (fun counts v => counts.modify v fun c => (c + 1) % modulus) (tally bound modulus xs) =
      tally bound modulus (xs ++ appended) := by
  induction appended generalizing xs with
  | nil => simp
  | cons v appended inductionHypothesis =>
    rw [List.foldl_cons, modify_tally_append, inductionHypothesis, List.append_assoc, List.singleton_append]

/-- The counter of a value decremented as it leaves the front. -/
theorem modify_tally_cons (hmodulus : 0 < modulus) (v : Nat) (xs : List Nat) :
    (tally bound modulus (v :: xs)).modify v (fun c => (c + modulus - 1) % modulus) =
      tally bound modulus xs := by
  apply List.ext_getElem
  · simp
  · intro i hi _
    rw [List.getElem_modify, getElem_tally, getElem_tally, List.count_cons]
    split
    · subst v
      have hwrap : (xs.count i + 1) % modulus + modulus - 1 = (xs.count i + 1) % modulus + (modulus - 1) := by
        omega
      rw [beq_self_eq_true, if_pos rfl, hwrap, Nat.mod_add_mod, Nat.add_assoc, Nat.add_sub_cancel' hmodulus,
        Nat.add_mod_right]
    · rename_i hne
      simp [hne]

theorem foldl_decrement_tally (hmodulus : 0 < modulus) (xs : List Nat) (dropped : Nat) :
    (xs.take dropped).foldl (fun counts v => counts.modify v fun c => (c + modulus - 1) % modulus)
        (tally bound modulus xs) = tally bound modulus (xs.drop dropped) := by
  induction xs generalizing dropped with
  | nil => simp
  | cons v xs inductionHypothesis =>
    cases dropped with
    | zero => simp
    | succ dropped =>
      rw [List.take_succ_cons, List.foldl_cons, modify_tally_cons hmodulus, inductionHypothesis,
        List.drop_succ_cons]

/-! ## Windows of the last values -/

theorem rtake_of_length_le {α : Type*} {xs : List α} {n : Nat} (hshort : xs.length ≤ n) :
    xs.rtake n = xs := by
  simp [List.rtake, Nat.sub_eq_zero_of_le hshort]

theorem length_rtake {α : Type*} (xs : List α) (n : Nat) : (xs.rtake n).length = min n xs.length := by
  simp only [List.rtake, List.length_drop]
  omega

/-- Taking the last `n` values first loses none of the last `n` values of a
longer list. -/
theorem rtake_append_rtake {α : Type*} (xs ys : List α) (n : Nat) :
    (xs.rtake n ++ ys).rtake n = (xs ++ ys).rtake n := by
  simp only [List.rtake_eq_reverse_take_reverse, List.reverse_append, List.reverse_reverse,
    List.take_append, List.take_take, List.length_reverse]
  congr 3
  omega

/-- A window of the last `n` values takes a new value by dropping its oldest
one once it holds `n`. -/
theorem rtake_slide {α : Type*} (xs : List α) (v : α) {n : Nat} (hn : 0 < n) :
    (if (xs.rtake n).length < n then xs.rtake n else (xs.rtake n).drop ((xs.rtake n).length + 1 - n)) ++ [v] =
      (xs ++ [v]).rtake n := by
  obtain ⟨m, rfl⟩ : ∃ m, n = m + 1 := ⟨n - 1, by omega⟩
  rw [List.rtake_concat_succ, length_rtake]
  split
  · rename_i hshort
    rw [rtake_of_length_le (by omega), rtake_of_length_le (by omega)]
  · rename_i hfull
    simp only [List.rtake, List.drop_drop]
    congr 2
    omega

end Tally
