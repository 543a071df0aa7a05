import Mathlib.Logic.Relation

/-!
# Where a stateful computation can take its state

`MovesFrom r x s`: running `x : EStateM ε σ α` from `s` ends, whether it
returns or throws, in a state reachable from `s` by steps of `r`.  A model
names the primitive effects its code performs as the steps `r`; each function
is shown once to move along them, and an invariant that every step preserves
then holds wherever any run of any function ends.

The rules follow the monad's operations; `movesFrom_bind` hands the
continuation the value and state the first computation returned, so that a
write computed from what was read can be justified.
-/

namespace Effects

open Relation

variable {ε σ α β : Type} {r : σ → σ → Prop}

/-- The state a run ends in, returned or thrown. -/
def final : EStateM.Result ε σ α → σ
  | .ok _ s => s
  | .error _ s => s

@[simp] theorem final_ok (a : α) (s : σ) : final (.ok a s : EStateM.Result ε σ α) = s := rfl

@[simp] theorem final_error (e : ε) (s : σ) : final (.error e s : EStateM.Result ε σ α) = s := rfl

variable (r) in
/-- Running `x` from `s` ends in a state `r`-reachable from `s`. -/
def MovesFrom (x : EStateM ε σ α) (s : σ) : Prop :=
  ReflTransGen r s (final (x.run s))

variable (r) in
/-- From every state, `x` moves along `r`. -/
def Moves (x : EStateM ε σ α) : Prop := ∀ s, MovesFrom r x s

/-! The monad's operations run from a state; `simp` with these evaluates a
straight-line computation. -/

@[simp] theorem run_bind (x : EStateM ε σ α) (f : α → EStateM ε σ β) (s : σ) :
    (x >>= f).run s = match x.run s with
      | .ok a s' => (f a).run s'
      | .error e s' => .error e s' := rfl

@[simp] theorem run_map (f : α → β) (x : EStateM ε σ α) (s : σ) :
    (f <$> x).run s = match x.run s with
      | .ok a s' => .ok (f a) s'
      | .error e s' => .error e s' := by
  show (x >>= fun a => pure (f a)).run s = _
  rw [run_bind]
  cases x.run s <;> rfl

@[simp] theorem run_pure (a : α) (s : σ) : (pure a : EStateM ε σ α).run s = .ok a s := rfl

@[simp] theorem run_get (s : σ) : (get : EStateM ε σ σ).run s = .ok s s := rfl

@[simp] theorem run_set (s' s : σ) : (set s' : EStateM ε σ PUnit).run s = .ok ⟨⟩ s' := rfl

@[simp] theorem run_modify (f : σ → σ) (s : σ) :
    (modify f : EStateM ε σ PUnit).run s = .ok ⟨⟩ (f s) := rfl

@[simp] theorem run_throw (e : ε) (s : σ) : (throw e : EStateM ε σ α).run s = .error e s := rfl

/-- A bind that returns ran its first computation to a return. -/
theorem run_bind_ok {x : EStateM ε σ α} {f : α → EStateM ε σ β} {s s'' : σ} {b : β}
    (h : (x >>= f).run s = .ok b s'') : ∃ a s', x.run s = .ok a s' ∧ (f a).run s' = .ok b s'' := by
  rw [run_bind] at h
  cases hx : x.run s with
  | ok a s' =>
    rw [hx] at h
    exact ⟨a, s', rfl, h⟩
  | error e s' =>
    rw [hx] at h
    cases h

theorem movesFrom_pure (a : α) (s : σ) : MovesFrom r (pure a : EStateM ε σ α) s := .refl

theorem movesFrom_throw (e : ε) (s : σ) : MovesFrom r (throw e : EStateM ε σ α) s := .refl

theorem movesFrom_set {s s' : σ} (h : ReflTransGen r s s') :
    MovesFrom r (set s' : EStateM ε σ PUnit) s := h

theorem movesFrom_modify {f : σ → σ} {s : σ} (h : ReflTransGen r s (f s)) :
    MovesFrom r (modify f : EStateM ε σ PUnit) s := h

theorem movesFrom_bind {x : EStateM ε σ α} {f : α → EStateM ε σ β} {s : σ}
    (hx : MovesFrom r x s) (hf : ∀ a s', x.run s = .ok a s' → MovesFrom r (f a) s') :
    MovesFrom r (x >>= f) s := by
  unfold MovesFrom at hx ⊢
  rw [run_bind]
  cases hrun : x.run s with
  | ok a s' =>
    rw [hrun] at hx
    exact hx.trans (hf a s' hrun)
  | error e s' =>
    rw [hrun] at hx
    exact hx

/-- A read hands the continuation the state itself. -/
theorem movesFrom_get_bind {f : σ → EStateM ε σ β} {s : σ} (hf : MovesFrom r (f s) s) :
    MovesFrom r (get >>= f) s :=
  movesFrom_bind .refl fun _ _ hrun => by cases hrun; exact hf

theorem movesFrom_ite {c : Prop} [Decidable c] {x y : EStateM ε σ α} {s : σ}
    (hx : c → MovesFrom r x s) (hy : ¬c → MovesFrom r y s) : MovesFrom r (if c then x else y) s := by
  by_cases hc : c
  · rw [if_pos hc]; exact hx hc
  · rw [if_neg hc]; exact hy hc

theorem movesFrom_of_moves {x : EStateM ε σ α} (hx : Moves r x) (s : σ) : MovesFrom r x s := hx s

theorem Moves.bind {x : EStateM ε σ α} {f : α → EStateM ε σ β} (hx : Moves r x)
    (hf : ∀ a, Moves r (f a)) : Moves r (x >>= f) :=
  fun s => movesFrom_bind (hx s) fun a s' _ => hf a s'

theorem Moves.pure (a : α) : Moves r (Pure.pure a : EStateM ε σ α) := fun _ => .refl

/-- A `for` loop over a list moves along `r` when its body does. -/
theorem Moves.forIn {xs : List α} {init : β} {body : α → β → EStateM ε σ (ForInStep β)}
    (hbody : ∀ a b, Moves r (body a b)) : Moves r (ForIn.forIn xs init body) := by
  induction xs generalizing init with
  | nil => exact Moves.pure init
  | cons a rest ih =>
    rw [List.forIn_cons]
    refine Moves.bind (hbody a init) fun step => ?_
    cases step with
    | done b => exact Moves.pure b
    | yield b => exact ih

theorem Moves.mono {r' : σ → σ → Prop} {x : EStateM ε σ α} (hx : Moves r x)
    (hr : ∀ s s', r s s' → r' s s') : Moves r' x :=
  fun s => ReflTransGen.mono hr _ _ (hx s)

variable (ε σ) in
/-- Every value `x` returns, from any state, satisfies `P`. -/
def Returns (P : α → Prop) (x : EStateM ε σ α) : Prop :=
  ∀ s a s', x.run s = .ok a s' → P a

theorem Returns.pure {P : α → Prop} {a : α} (h : P a) : Returns ε σ P (Pure.pure a) := by
  intro s b s' hrun
  cases hrun
  exact h

theorem Returns.bind {P : β → Prop} {x : EStateM ε σ α} {f : α → EStateM ε σ β}
    (hf : ∀ a, Returns ε σ P (f a)) : Returns ε σ P (x >>= f) := by
  intro s b s' hrun
  rw [run_bind] at hrun
  cases hx : x.run s with
  | ok a s₁ =>
    rw [hx] at hrun
    exact hf a s₁ b s' hrun
  | error e s₁ =>
    rw [hx] at hrun
    cases hrun

/-- An invariant that every step preserves holds wherever the steps lead. -/
theorem invariant_of_reflTransGen {I : σ → Prop} (hstep : ∀ s s', r s s' → I s → I s')
    {s s' : σ} (hreach : ReflTransGen r s s') (hs : I s) : I s' := by
  induction hreach with
  | refl => exact hs
  | tail _ step ih => exact hstep _ _ step ih

/-- A fold each of whose rounds moves its state, seen through `v`, along `r` moves it
along `r`. -/
theorem reflTransGen_foldl {τ : Type} {v : τ → σ} {f : τ → α → τ}
    (round : ∀ t a, ReflTransGen r (v t) (v (f t a))) :
    ∀ (l : List α) {t : τ} {start : σ}, v t = start → ReflTransGen r start (v (l.foldl f t))
  | [], _, _, rfl => .refl
  | a :: rest, t, _, rfl => (round t a).trans (reflTransGen_foldl round rest rfl)

/-- An invariant that each round of a fold keeps holds at its end. -/
theorem foldl_invariant {τ : Type} {f : τ → α → τ} (I : τ → Prop) (round : ∀ t a, I t → I (f t a)) :
    ∀ (l : List α) (t : τ), I t → I (l.foldl f t)
  | [], _, holds => holds
  | a :: rest, t, holds => foldl_invariant I round rest (f t a) (round t a holds)

theorem MovesFrom.invariant {I : σ → Prop} (hstep : ∀ s s', r s s' → I s → I s')
    {x : EStateM ε σ α} {s : σ} (hx : MovesFrom r x s) (hs : I s) : I (final (x.run s)) :=
  invariant_of_reflTransGen hstep hx hs

end Effects
