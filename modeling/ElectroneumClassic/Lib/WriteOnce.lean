import Mathlib.Data.List.GetD

/-!
# Tables that are only filled in

A table here is a list read with a blank default, as a vector of hashes is
read with the null hash.  A procedure *fills* a table when every entry it
changes was blank before and the value it leaves there satisfies a predicate
of the index (`Fills`).  Fills compose (`Fills.trans`), a single write into a
blank or equal entry is one (`fills_set`), and a property of every entry that
is not blank survives a fill whose values have it (`Fills.entries`).
-/

namespace WriteOnce

variable {α : Type*}

/-- `t'` has the length of `t` and differs from it only at entries blank in
`t`, each holding a value that satisfies `P` at its index. -/
def Fills (blank : α) (P : Nat → α → Prop) (t t' : List α) : Prop :=
  t'.length = t.length ∧
    ∀ i, t'.getD i blank ≠ t.getD i blank → t.getD i blank = blank ∧ P i (t'.getD i blank)

variable {blank : α} {P Q : Nat → α → Prop} {t t' t'' : List α}

theorem Fills.refl (t : List α) : Fills blank P t t :=
  ⟨rfl, fun _ hne => absurd rfl hne⟩

theorem Fills.trans (h : Fills blank P t t') (h' : Fills blank P t' t'') : Fills blank P t t'' := by
  refine ⟨h'.1.trans h.1, fun i hne => ?_⟩
  by_cases hlast : t''.getD i blank = t'.getD i blank
  · -- the entry changed in the first fill and kept its value in the second
    have hfirst : t'.getD i blank ≠ t.getD i blank := hlast ▸ hne
    rw [hlast]
    exact h.2 i hfirst
  · obtain ⟨hblank', hP⟩ := h'.2 i hlast
    refine ⟨?_, hP⟩
    by_cases hfirst : t'.getD i blank = t.getD i blank
    · rw [← hfirst, hblank']
    · exact (h.2 i hfirst).1

theorem Fills.mono (hPQ : ∀ i a, P i a → Q i a) (h : Fills blank P t t') : Fills blank Q t t' :=
  ⟨h.1, fun i hne => ⟨(h.2 i hne).1, hPQ i _ (h.2 i hne).2⟩⟩

theorem getD_set (t : List α) (i j : Nat) (a d : α) :
    (t.set i a).getD j d = if i = j ∧ i < t.length then a else t.getD j d := by
  simp only [List.getD_eq_getElem?_getD, List.getElem?_set]
  by_cases hij : i = j
  · subst hij
    by_cases hlt : i < t.length <;> simp [hlt]
  · simp [hij]

/-- Writing `a` at `i` fills the table when the entry there is blank or
already `a`. -/
theorem fills_set {i : Nat} {a : α} (hfree : t.getD i blank = blank ∨ t.getD i blank = a)
    (hP : P i a) : Fills blank P t (t.set i a) := by
  refine ⟨List.length_set, fun j hne => ?_⟩
  rw [getD_set] at hne ⊢
  split at hne
  · next hwrite =>
    rw [if_pos hwrite]
    obtain ⟨rfl, -⟩ := hwrite
    exact ⟨hfree.resolve_right fun heq => hne heq.symm, hP⟩
  · exact absurd rfl hne

/-- A fill never changes an entry that is not blank. -/
theorem Fills.getD_of_ne_blank (h : Fills blank P t t') {i : Nat} (hi : t.getD i blank ≠ blank) :
    t'.getD i blank = t.getD i blank := by
  by_cases hchanged : t'.getD i blank = t.getD i blank
  · exact hchanged
  · exact absurd (h.2 i hchanged).1 hi

/-- A property of every entry that is not blank survives a fill whose written
values have it. -/
theorem Fills.entries (h : Fills blank P t t') (hall : ∀ i, t.getD i blank ≠ blank → P i (t.getD i blank)) :
    ∀ i, t'.getD i blank ≠ blank → P i (t'.getD i blank) := by
  intro i hi
  by_cases hchanged : t'.getD i blank = t.getD i blank
  · rw [hchanged] at hi ⊢
    exact hall i hi
  · exact (h.2 i hchanged).2

end WriteOnce
