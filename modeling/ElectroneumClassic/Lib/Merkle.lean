import Mathlib.Data.List.Basic
import Mathlib.Algebra.Group.Nat.Even

/-!
# Merkle roots by halving

A level of a binary hash tree is a list of nodes; the level above pairs
neighbours with a combining function `node` (`pairUp`), and a level of
`2 ^ height` nodes reaches its root after `height` halvings (`halve`,
`rootOf`).  A trailing odd node is dropped: the trees built here have levels
of even length below the root.

Pairing distributes over an append whose first part has even length
(`pairUp_append`), and halving can peel its last step as well as its first
(`halve_succ'`), which is how a loop that pairs in place is compared with it.
-/

namespace Merkle

variable {α : Type*} (node : α → α → α)

/-- One level up: neighbours paired. -/
def pairUp : List α → List α
  | a :: b :: rest => node a b :: pairUp rest
  | _ => []

/-- `height` levels up. -/
def halve : Nat → List α → List α
  | 0, level => level
  | height + 1, level => halve height (pairUp node level)

/-- The root of a level of `2 ^ height` nodes. -/
def rootOf (height : Nat) (level : List α) : Option α := (halve node height level).head?

@[simp] theorem pairUp_nil : pairUp node ([] : List α) = [] := rfl

@[simp] theorem pairUp_cons_cons (a b : α) (rest : List α) :
    pairUp node (a :: b :: rest) = node a b :: pairUp node rest := rfl

theorem length_pairUp : ∀ level : List α, (pairUp node level).length = level.length / 2
  | [] => by simp
  | [_] => by simp [pairUp]
  | a :: b :: rest => by
    rw [pairUp_cons_cons, List.length_cons, length_pairUp rest, List.length_cons, List.length_cons]
    omega

theorem pairUp_append : ∀ (first rest : List α), Even first.length →
    pairUp node (first ++ rest) = pairUp node first ++ pairUp node rest
  | [], rest, _ => rfl
  | [_], _, odd => by simp at odd
  | a :: b :: first, rest, even => by
    have evenFirst : Even first.length := by
      simpa [List.length_cons, Nat.even_add_one] using even
    rw [List.cons_append, List.cons_append, pairUp_cons_cons, pairUp_append first rest evenFirst,
      pairUp_cons_cons, List.cons_append]

/-- The pairs of a prefix one pair longer. -/
theorem pairUp_take_succ {level : List α} {k : Nat} (inside : 2 * k + 1 < level.length) :
    pairUp node (level.take (2 * (k + 1))) =
      pairUp node (level.take (2 * k)) ++ [node level[2 * k] level[2 * k + 1]] := by
  have pair : (level.drop (2 * k)).take 2 = [level[2 * k], level[2 * k + 1]] := by
    rw [List.drop_eq_getElem_cons (by omega), List.drop_eq_getElem_cons (by omega)]
    rfl
  have evenPrefix : Even (level.take (2 * k)).length := by
    rw [List.length_take, Nat.min_eq_left (by omega)]
    exact ⟨k, Nat.two_mul k⟩
  rw [Nat.mul_succ, List.take_add, pair, pairUp_append node _ _ evenPrefix, pairUp_cons_cons, pairUp_nil]

theorem length_halve (height : Nat) (level : List α) :
    (halve node height level).length = level.length / 2 ^ height := by
  induction height generalizing level with
  | zero => simp [halve]
  | succ height inductionHypothesis =>
    rw [halve, inductionHypothesis, length_pairUp, Nat.div_div_eq_div_mul, Nat.pow_succ, Nat.mul_comm 2]

/-- The last halving can be taken last as well as first. -/
theorem halve_succ' (height : Nat) (level : List α) :
    halve node (height + 1) level = pairUp node (halve node height level) := by
  induction height generalizing level with
  | zero => rfl
  | succ height inductionHypothesis =>
    rw [halve, inductionHypothesis, halve]

end Merkle
