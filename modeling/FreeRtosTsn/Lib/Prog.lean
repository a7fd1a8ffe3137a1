import Mathlib.Logic.Relation

/-!
# Programs that call an interface

A program is the tree of the calls it makes, each with the continuation of its answer. One definition of a
program then serves two readings: `interp` answers its calls in a monad, and `Lib/Rely.lean` lets other
threads act between any two of them.
-/

namespace FreeRtosTsn.Lib

/-- An interface: its calls, and the type of the answer to each. -/
structure Sig where
  Op : Type
  Res : Op → Type

/-- A program over the interface `σ` that ends with an `α`. -/
inductive Prog (σ : Sig) (α : Type) : Type
  | ret (a : α)
  | call (o : σ.Op) (k : σ.Res o → Prog σ α)

namespace Prog

variable {σ : Sig} {α β γ : Type}

def bind : Prog σ α → (α → Prog σ β) → Prog σ β
  | .ret a, f => f a
  | .call o k, f => .call o fun r => (k r).bind f

/-- One call, ending with its answer. -/
def op (o : σ.Op) : Prog σ (σ.Res o) := .call o .ret

instance : Monad (Prog σ) where
  pure := .ret
  bind := Prog.bind

@[simp] theorem pure_eq (a : α) : (pure a : Prog σ α) = .ret a := rfl

@[simp] theorem ret_bind (a : α) (f : α → Prog σ β) : (Prog.ret a >>= f) = f a := rfl

@[simp] theorem call_bind (o : σ.Op) (k : σ.Res o → Prog σ α) (f : α → Prog σ β) :
    (Prog.call o k >>= f) = .call o fun r => k r >>= f := rfl

@[simp] theorem op_bind (o : σ.Op) (f : σ.Res o → Prog σ β) : (op o >>= f) = .call o f := rfl

@[simp] theorem bind_ret (p : Prog σ α) : (p >>= Prog.ret) = p := by
  induction p with
  | ret a => rfl
  | call o k ih =>
      simp only [call_bind]
      exact congrArg _ (funext ih)

theorem assoc (p : Prog σ α) (f : α → Prog σ β) (g : β → Prog σ γ) :
    (p >>= f >>= g) = p >>= fun a => f a >>= g := by
  induction p with
  | ret a => rfl
  | call o k ih =>
      simp only [call_bind]
      exact congrArg _ (funext ih)

instance : LawfulMonad (Prog σ) :=
  LawfulMonad.mk' _ (fun p => bind_ret p) (fun _ _ => rfl) (fun p f g => assoc p f g)

/-- Every call of the program is in `C`, whatever the answers. -/
def Within (C : σ.Op → Prop) : Prog σ α → Prop
  | .ret _ => True
  | .call o k => C o ∧ ∀ r, (k r).Within C

theorem Within.bind {C : σ.Op → Prop} {p : Prog σ α} {f : α → Prog σ β} (hp : p.Within C)
    (hf : ∀ a, (f a).Within C) : (p >>= f).Within C := by
  induction p with
  | ret a => exact hf a
  | call o k ih => exact ⟨hp.1, fun r => ih r (hp.2 r)⟩

theorem Within.mono {C D : σ.Op → Prop} (hCD : ∀ o, C o → D o) {p : Prog σ α} (hp : p.Within C) : p.Within D := by
  induction p with
  | ret a => trivial
  | call o k ih => exact ⟨hCD o hp.1, fun r => ih r (hp.2 r)⟩

/-! ## Answering the calls in a monad -/

variable {m : Type → Type} [Monad m]

/-- Runs a program in a monad that answers its calls. -/
def interp (h : (o : σ.Op) → m (σ.Res o)) : Prog σ α → m α
  | .ret a => pure a
  | .call o k => h o >>= fun r => interp h (k r)

@[simp] theorem interp_ret (h : (o : σ.Op) → m (σ.Res o)) (a : α) :
    (Prog.ret a : Prog σ α).interp h = pure a := rfl

@[simp] theorem interp_call (h : (o : σ.Op) → m (σ.Res o)) (o : σ.Op) (k : σ.Res o → Prog σ α) :
    (Prog.call o k).interp h = h o >>= fun r => (k r).interp h := rfl

theorem interp_bind [LawfulMonad m] (h : (o : σ.Op) → m (σ.Res o)) (p : Prog σ α) (f : α → Prog σ β) :
    (p >>= f).interp h = p.interp h >>= fun a => (f a).interp h := by
  induction p with
  | ret a => simp
  | call o k ih => simp only [call_bind, interp_call, bind_assoc, ih]

end Prog

end FreeRtosTsn.Lib
