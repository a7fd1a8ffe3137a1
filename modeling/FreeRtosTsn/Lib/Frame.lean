import Mathlib.Order.Defs.Unbundled

/-!
# What code with state and errors keeps

`Keeps R x` relates every state to the one that `x` leaves, whether it ends or is stopped. The rules build it along
the code for a preorder `R`; "this part of the state is unchanged" is the case used most (`Same`).
-/

namespace FreeRtosTsn.Lib

variable {ε σ τ α β : Type}

/-- The state in which code ended or was stopped. -/
def lastState : EStateM.Result ε σ α → σ
  | .ok _ s => s
  | .error _ s => s

@[simp] theorem lastState_ok (a : α) (s : σ) : lastState (.ok a s : EStateM.Result ε σ α) = s := rfl

@[simp] theorem lastState_error (e : ε) (s : σ) : lastState (.error e s : EStateM.Result ε σ α) = s := rfl

/-- What code returned if it ended. -/
def valueOf : EStateM.Result ε σ α → Option α
  | .ok a _ => some a
  | .error _ _ => none

theorem eq_ok_of_valueOf {r : EStateM.Result ε σ α} {a : α} (h : valueOf r = some a) : r = .ok a (lastState r) := by
  cases r with
  | ok b s =>
      cases h
      rfl
  | error e s => exact nomatch h

/-! ## Running the parts of code -/

section Run

variable {x : EStateM ε σ α} {f : α → EStateM ε σ β} {s s' : σ} {a : α}

theorem run_bind_ok (h : x.run s = .ok a s') : (x >>= f).run s = (f a).run s' := by
  rw [EStateM.run_bind, h]

theorem run_bind_error {e : ε} (h : x.run s = .error e s') : (x >>= f).run s = .error e s' := by
  rw [EStateM.run_bind, h]

/-- Code that ends went through its parts. -/
theorem run_bind_inv {b : β} (h : (x >>= f).run s = .ok b s') :
    ∃ a s₁, x.run s = .ok a s₁ ∧ (f a).run s₁ = .ok b s' := by
  rw [EStateM.run_bind] at h
  cases hx : x.run s with
  | ok a s₁ =>
      rw [hx] at h
      exact ⟨a, s₁, rfl, h⟩
  | error e s₁ =>
      rw [hx] at h
      exact nomatch h

end Run

/-! ## What is kept -/

def Keeps (R : σ → σ → Prop) (x : EStateM ε σ α) : Prop := ∀ s, R s (lastState (x.run s))

/-- The part `f` of the state is the same. -/
def Same (f : σ → τ) (s s' : σ) : Prop := f s' = f s

instance (f : σ → τ) : IsPreorder σ (Same f) where
  refl _ := rfl
  trans _ _ _ h h' := h'.trans h

namespace Keeps

variable {R : σ → σ → Prop}

theorem ok {x : EStateM ε σ α} (h : Keeps R x) {s s' : σ} {a : α} (hx : x.run s = .ok a s') : R s s' := by
  have := h s
  rwa [hx] at this

theorem modify {f : σ → σ} (h : ∀ s, R s (f s)) : Keeps R (modify f : EStateM ε σ Unit) := h

theorem get {f : σ → EStateM ε σ β} (hf : ∀ s, R s (lastState ((f s).run s))) :
    Keeps R (MonadState.get >>= f) := hf

theorem ite {c : Prop} [Decidable c] {x y : EStateM ε σ α} (hx : Keeps R x) (hy : Keeps R y) :
    Keeps R (if c then x else y) := by
  split
  · exact hx
  · exact hy

theorem mono {R' : σ → σ → Prop} (hR : ∀ s s', R s s' → R' s s') {x : EStateM ε σ α} (h : Keeps R x) : Keeps R' x :=
  fun s => hR _ _ (h s)

variable [IsPreorder σ R]

theorem pure (a : α) : Keeps R (Pure.pure a : EStateM ε σ α) := fun s => refl_of R s

theorem throw (e : ε) : Keeps R (throw e : EStateM ε σ α) := fun s => refl_of R s

theorem bind {x : EStateM ε σ α} {f : α → EStateM ε σ β} (hx : Keeps R x) (hf : ∀ a, Keeps R (f a)) :
    Keeps R (x >>= f) := by
  intro s
  have h := hx s
  rw [EStateM.run_bind]
  cases hs : x.run s with
  | ok a s' =>
      rw [hs] at h
      exact trans_of R h (hf a s')
  | error e s' =>
      rw [hs] at h
      exact h

end Keeps

end FreeRtosTsn.Lib
