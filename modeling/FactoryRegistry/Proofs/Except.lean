import Mathlib.Data.List.Forall2

/-!
# Computations that can fail

When a computation in steps gives a result, every step gives one.

`FailsOnly P` states of a computation that `P` is true of every reason for which it fails. It is
proved step by step. `failsWith p` tells whether a computation fails for a reason that `p` is true
of, so that the failure of a concrete computation can be evaluated.

`AgreeUpTo R` relates two computations that give results related by `R`, or fail for the same
reason.
-/

namespace FactoryRegistry

variable {ε α β : Type}

/-- A sequence `x >>= f` succeeds if `x` does, and then `f` on the result of `x`. -/
theorem bind_eq_ok_iff {x : Except ε α} {f : α → Except ε β} {b : β} :
    x >>= f = .ok b ↔ ∃ a, x = .ok a ∧ f a = .ok b := by
  cases x with
  | error e => exact iff_of_false (fun h => nomatch h) fun ⟨_, h, _⟩ => nomatch h
  | ok a => exact ⟨fun h => ⟨a, rfl, h⟩, fun ⟨_, h, hb⟩ => by cases h; exact hb⟩

/-- `x.map f` succeeds if `x` does. -/
theorem map_eq_ok_iff {x : Except ε α} {f : α → β} {b : β} :
    x.map f = .ok b ↔ ∃ a, x = .ok a ∧ f a = b := by
  cases x with
  | error e => exact iff_of_false (fun h => nomatch h) fun ⟨_, h, _⟩ => nomatch h
  | ok a => exact ⟨fun h => ⟨a, rfl, Except.ok.inj h⟩, fun ⟨_, h, hb⟩ => by cases h; rw [← hb]; rfl⟩

/-- The computation fails only for reasons that `P` is true of. -/
def FailsOnly (P : ε → Prop) (x : Except ε α) : Prop := ∀ e, x = .error e → P e

namespace FailsOnly

variable {P : ε → Prop} {x : Except ε α}

/-- A result is no failure. -/
protected theorem ok {a : α} : FailsOnly P (.ok a) := fun _ h => nomatch h

/-- `pure a` is no failure. -/
protected theorem pure {a : α} : FailsOnly P (pure a) := .ok

/-- A failure for a reason that satisfies `P`. -/
protected theorem error {e : ε} (h : P e) : FailsOnly P (.error e : Except ε α) := fun _ he => by
  cases he
  exact h

/-- A `throw` for a reason that satisfies `P`. -/
protected theorem throw {e : ε} (h : P e) : FailsOnly P (throw e : Except ε α) := .error h

/-- `P` may be weakened. -/
theorem mono {Q : ε → Prop} (hx : FailsOnly P x) (h : ∀ e, P e → Q e) : FailsOnly Q x :=
  fun e he => h e (hx e he)

/-- `x >>= f` fails only as `x` or as `f` does. -/
protected theorem bind {f : α → Except ε β} (hx : FailsOnly P x) (hf : ∀ a, FailsOnly P (f a)) :
    FailsOnly P (x >>= f) := by
  cases x with
  | error e => exact .error (hx e rfl)
  | ok a => exact hf a

/-- Either branch may be taken. -/
protected theorem ite {c : Prop} [Decidable c] {y : Except ε α} (hx : FailsOnly P x)
    (hy : FailsOnly P y) : FailsOnly P (if c then x else y) := by
  split
  · exact hx
  · exact hy

/-- `x.map f` fails only as `x` does. -/
protected theorem map {f : α → β} (hx : FailsOnly P x) : FailsOnly P (x.map f) := by
  cases x with
  | error e => exact .error (hx e rfl)
  | ok a => exact .ok

/-- `as.mapM f` fails only as `f` does on one of `as`. -/
protected theorem mapM {f : α → Except ε β} (hf : ∀ a, FailsOnly P (f a)) (as : List α) :
    FailsOnly P (as.mapM f) := by
  induction as with
  | nil => exact .pure
  | cons a as ih =>
    rw [List.mapM_cons]
    exact (hf a).bind fun _ => ih.bind fun _ => .pure

end FailsOnly

/-- The computation fails, for a reason that `p` is true of. -/
def failsWith (p : ε → Bool) : Except ε α → Bool
  | .ok _ => false
  | .error e => p e

/-- `failsWith p` decides whether there is a failure whose reason satisfies `p`. -/
theorem failsWith_iff {p : ε → Bool} {x : Except ε α} :
    failsWith p x = true ↔ ∃ e, x = .error e ∧ p e = true := by
  cases x with
  | ok a => exact iff_of_false (fun h => nomatch h) fun ⟨_, h, _⟩ => nomatch h
  | error e => exact ⟨fun h => ⟨e, rfl, h⟩, fun ⟨_, h, hp⟩ => by cases h; exact hp⟩

/-- Two computations give related results, or fail for the same reason. -/
inductive AgreeUpTo (R : β → β → Prop) : Except ε β → Except ε β → Prop where
  /-- Both give a result. -/
  | ok {b c : β} (h : R b c) : AgreeUpTo R (.ok b) (.ok c)
  /-- Both fail. -/
  | error (e : ε) : AgreeUpTo R (.error e) (.error e)

namespace AgreeUpTo

variable {R : β → β → Prop}

/-- Every computation agrees with itself, if `R` is reflexive. -/
theorem refl (hR : ∀ b, R b b) (x : Except ε β) : AgreeUpTo R x x := by
  cases x with
  | ok b => exact .ok (hR b)
  | error e => exact .error e

/-- If `f` and `g` agree on each argument, `as.mapM f` and `as.mapM g` agree item by item. -/
protected theorem mapM {f g : α → Except ε β} (h : ∀ a, AgreeUpTo R (f a) (g a)) (as : List α) :
    AgreeUpTo (List.Forall₂ R) (as.mapM f) (as.mapM g) := by
  induction as with
  | nil => exact .ok .nil
  | cons a as ih =>
    rw [List.mapM_cons, List.mapM_cons]
    have hfirst := h a
    generalize f a = x, g a = y at hfirst
    generalize as.mapM f = rest, as.mapM g = rest' at ih
    cases hfirst with
    | error e => exact .error e
    | ok hab =>
      cases ih with
      | error e => exact .error e
      | ok hrest => exact .ok (.cons hab hrest)

end AgreeUpTo

end FactoryRegistry
