import Mathlib.Data.Finset.Basic
import Mathlib.Data.Finset.Lattice.Lemmas

/-!
# Sets as the C++ containers keep them

A `std::set` whose comparison looks at one field of its records is a list kept
strictly ascending in that field (`KeyedSet`).  Inserting a record whose key is
already there leaves the set as it is, erasing goes by key, and no two records
share a key (`KeyedSet.eq_of_key_eq`).  A `std::unordered_set` is a `Finset`;
the loops that insert or erase each element of a list are folds, equal to a
union and a difference (`foldl_insert_eq`, `foldl_erase_eq`).
-/

/-- The records of a `std::set` ordered by `key`, in ascending order. -/
@[ext] structure KeyedSet {κ : Type*} [LinearOrder κ] (α : Type*) (key : α → κ) where
  elems : List α
  ascending : elems.Pairwise fun a b => key a < key b

namespace KeyedSet

variable {κ α : Type*} [LinearOrder κ] {key : α → κ}

/-- The empty set. -/
def empty : KeyedSet α key := ⟨[], .nil⟩

instance [DecidableEq α] : DecidableEq (KeyedSet α key) :=
  fun s t => decidable_of_iff (s.elems = t.elems) ⟨KeyedSet.ext, congrArg elems⟩

/-- `std::set::insert` on the ascending list: before the first record of a
larger key, and not at all when a record has the same key. -/
def insertList (key : α → κ) (a : α) : List α → List α
  | [] => [a]
  | b :: rest =>
    if key a < key b then a :: b :: rest
    else if key a = key b then b :: rest
    else b :: insertList key a rest

theorem mem_insertList {a b : α} {l : List α} (member : b ∈ insertList key a l) : b = a ∨ b ∈ l := by
  induction l with
  | nil => simpa [insertList] using member
  | cons c rest inductionHypothesis =>
    simp only [insertList] at member
    split_ifs at member
    · simpa using member
    · exact .inr member
    · rcases List.mem_cons.1 member with rfl | member
      · exact .inr List.mem_cons_self
      · rcases inductionHypothesis member with rfl | member
        · exact .inl rfl
        · exact .inr (List.mem_cons_of_mem c member)

theorem mem_insertList_of_mem {a b : α} {l : List α} (member : b ∈ l) : b ∈ insertList key a l := by
  induction l with
  | nil => cases member
  | cons c rest inductionHypothesis =>
    simp only [insertList]
    split_ifs
    · exact List.mem_cons_of_mem a member
    · exact member
    · rcases List.mem_cons.1 member with rfl | member
      · exact List.mem_cons_self
      · exact List.mem_cons_of_mem c (inductionHypothesis member)

theorem mem_insertList_self {a : α} {l : List α} (fresh : ∀ b ∈ l, key b ≠ key a) :
    a ∈ insertList key a l := by
  induction l with
  | nil => simp [insertList]
  | cons c rest inductionHypothesis =>
    have other : key c ≠ key a := fresh c List.mem_cons_self
    simp only [insertList, Ne.symm other, if_false]
    split_ifs
    · exact List.mem_cons_self
    · exact List.mem_cons_of_mem c
        (inductionHypothesis fun b member => fresh b (List.mem_cons_of_mem c member))

/-- A record whose key is present is not inserted. -/
theorem insertList_of_key_mem {a b : α} {l : List α} (ascending : l.Pairwise fun a b => key a < key b)
    (member : b ∈ l) (same : key b = key a) : insertList key a l = l := by
  induction l with
  | nil => cases member
  | cons c rest inductionHypothesis =>
    rw [List.pairwise_cons] at ascending
    simp only [insertList]
    rcases List.mem_cons.1 member with rfl | member
    · simp [same]
    · have later : key c < key a := same ▸ ascending.1 b member
      rw [if_neg (lt_asymm later), if_neg (ne_of_gt later), inductionHypothesis ascending.2 member]

theorem ascending_insertList {a : α} {l : List α} (ascending : l.Pairwise fun a b => key a < key b) :
    (insertList key a l).Pairwise fun a b => key a < key b := by
  induction l with
  | nil => simp [insertList]
  | cons c rest inductionHypothesis =>
    rw [List.pairwise_cons] at ascending
    simp only [insertList]
    split_ifs with before same
    · refine List.pairwise_cons.2 ⟨?_, List.pairwise_cons.2 ascending⟩
      intro b member
      rcases List.mem_cons.1 member with rfl | member
      · exact before
      · exact lt_trans before (ascending.1 b member)
    · exact List.pairwise_cons.2 ascending
    · have after : key c < key a := lt_of_le_of_ne (not_lt.1 before) (Ne.symm same)
      refine List.pairwise_cons.2 ⟨?_, inductionHypothesis ascending.2⟩
      intro b member
      rcases mem_insertList member with rfl | member
      · exact after
      · exact ascending.1 b member

/-- `std::set::insert`. -/
def insert (a : α) (s : KeyedSet α key) : KeyedSet α key :=
  ⟨insertList key a s.elems, ascending_insertList s.ascending⟩

/-- `std::set::erase` of the record of key `k`. -/
def erase (k : κ) (s : KeyedSet α key) : KeyedSet α key :=
  ⟨s.elems.filter fun a => key a ≠ k, s.ascending.filter _⟩

variable {s : KeyedSet α key}

@[simp] theorem elems_empty : (empty : KeyedSet α key).elems = [] := rfl

@[simp] theorem mem_erase {a : α} {k : κ} : a ∈ (s.erase k).elems ↔ a ∈ s.elems ∧ key a ≠ k := by
  simp [erase]

theorem eq_of_key_eq_of_ascending {a b : α} {l : List α} (ascending : l.Pairwise fun a b => key a < key b)
    (memberA : a ∈ l) (memberB : b ∈ l) (same : key a = key b) : a = b := by
  induction l with
  | nil => cases memberA
  | cons c rest inductionHypothesis =>
    rw [List.pairwise_cons] at ascending
    rcases List.mem_cons.1 memberA with rfl | laterA <;> rcases List.mem_cons.1 memberB with rfl | laterB
    · rfl
    · exact absurd same (ne_of_lt (ascending.1 b laterB))
    · exact absurd same (ne_of_gt (ascending.1 a laterA))
    · exact inductionHypothesis ascending.2 laterA laterB

/-- At most one record has a given key. -/
theorem eq_of_key_eq {a b : α} (memberA : a ∈ s.elems) (memberB : b ∈ s.elems) (same : key a = key b) :
    a = b :=
  eq_of_key_eq_of_ascending s.ascending memberA memberB same

theorem mem_insert {a b : α} :
    b ∈ (s.insert a).elems ↔ b ∈ s.elems ∨ b = a ∧ ∀ c ∈ s.elems, key c ≠ key a := by
  constructor
  · intro member
    rcases mem_insertList member with rfl | member
    · rcases em (∃ c ∈ s.elems, key c = key b) with ⟨c, present, same⟩ | fresh
      · change b ∈ insertList key b s.elems at member
        rw [insertList_of_key_mem s.ascending present same] at member
        exact .inl member
      · exact .inr ⟨rfl, fun c present same => fresh ⟨c, present, same⟩⟩
    · exact .inl member
  · rintro (member | ⟨rfl, fresh⟩)
    · exact mem_insertList_of_mem member
    · exact mem_insertList_self fresh

theorem filter_insertList_of_fresh {a : α} {l : List α} (fresh : ∀ c ∈ l, key c ≠ key a) :
    (insertList key a l).filter (fun b => key b ≠ key a) = l := by
  induction l with
  | nil => simp [insertList]
  | cons c rest inductionHypothesis =>
    have restFresh : ∀ b ∈ rest, key b ≠ key a := fun b member => fresh b (List.mem_cons_of_mem c member)
    have other : key c ≠ key a := fresh c List.mem_cons_self
    simp only [insertList, Ne.symm other, if_false]
    split_ifs
    · simpa [List.filter_eq_self, other] using restFresh
    · simpa [other] using inductionHypothesis restFresh

/-- Inserting a record of a new key and erasing that key gives the set back. -/
theorem erase_insert_of_fresh {a : α} (fresh : ∀ c ∈ s.elems, key c ≠ key a) :
    (s.insert a).erase (key a) = s :=
  KeyedSet.ext (filter_insertList_of_fresh fresh)

/-- A record whose key is present is not inserted. -/
theorem insert_of_key_mem {a b : α} (member : b ∈ s.elems) (same : key b = key a) : s.insert a = s :=
  KeyedSet.ext (insertList_of_key_mem s.ascending member same)

/-- The records after the first of an ascending run keep their places when the first is erased. -/
theorem sublist_erase {a : α} {rest : List α} (walked : (a :: rest).Sublist s.elems) :
    rest.Sublist (s.erase (key a)).elems := by
  have later : ∀ b ∈ rest, key a < key b := (List.pairwise_cons.1 (s.ascending.sublist walked)).1
  have kept : rest.filter (fun b => key b ≠ key a) = rest :=
    List.filter_eq_self.2 fun b member => by simpa using (later b member).ne'
  rw [← kept]
  exact (List.sublist_of_cons_sublist walked).filter _

end KeyedSet

namespace Containers

/-- Elements with nonempty, pairwise disjoint images are distinct. -/
theorem nodup_of_pairwise_disjoint {α β : Type*} {l : List α} {g : α → List β}
    (disjoint : l.Pairwise fun a b => (g a).Disjoint (g b)) (nonempty : ∀ a ∈ l, g a ≠ []) : l.Nodup := by
  apply disjoint.imp_of_mem
  intro a b member _ separate same
  subst same
  obtain ⟨x, image⟩ := List.exists_mem_of_ne_nil _ (nonempty a member)
  exact separate image image

variable {α : Type*} [DecidableEq α]

theorem foldl_insert_eq (l : List α) (s : Finset α) :
    l.foldl (fun s a => insert a s) s = s ∪ l.toFinset := by
  induction l generalizing s with
  | nil => simp
  | cons a rest inductionHypothesis =>
    rw [List.foldl_cons, inductionHypothesis, List.toFinset_cons, Finset.union_insert, Finset.insert_union]

theorem foldl_erase_eq (l : List α) (s : Finset α) :
    l.foldl (fun s a => s.erase a) s = s \ l.toFinset := by
  induction l generalizing s with
  | nil => simp
  | cons a rest inductionHypothesis =>
    rw [List.foldl_cons, inductionHypothesis, List.toFinset_cons, Finset.sdiff_insert, Finset.erase_sdiff_comm]

end Containers
