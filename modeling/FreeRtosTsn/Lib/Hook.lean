import FreeRtosTsn.Lib.Frame
import Mathlib.Logic.Nontrivial.Defs

/-!
# Code over a hook

Code that is given what it calls at one place: `p : H → EStateM ε σ α`, with `c : H → EStateM ε σ β` for the call. From
a state it makes the call in a state that does not depend on the hook (`Reaches`), or does not make it at all (`Never`).
The rules find out along the code, up to the call and from there to the end.
-/

namespace FreeRtosTsn.Lib

variable {ε σ ι α β γ H : Type} {s t u : σ}

/-- The code does not make the call. -/
def Never (p : H → EStateM ε σ α) (s : σ) : Prop := ∃ r, ∀ g, (p g).run s = r

/-- The code first makes the call `c` in the state `t`. -/
def Reaches (c : H → EStateM ε σ β) (p : H → EStateM ε σ α) (s t : σ) : Prop :=
  ∃ k : β → EStateM ε σ α, ∀ g, (p g).run s = (c g >>= k).run t

/-- The same, observed from outside: a call that fails is where the code fails. -/
def Invokes (p : EStateM ε σ β → EStateM ε σ α) (s t : σ) : Prop := ∀ e, (p (throw e)).run s = .error e t

/-! ## No call -/

namespace Never

theorem const (x : EStateM ε σ α) : Never (fun _ : H => x) s := ⟨x.run s, fun _ => rfl⟩

theorem comp {G : Type} {p : H → EStateM ε σ α} (h : Never p s) (f : G → H) : Never (fun g => p (f g)) s := by
  obtain ⟨r, hr⟩ := h
  exact ⟨r, fun g => hr (f g)⟩

theorem eq {p : H → EStateM ε σ α} (h : Never p s) (g g' : H) : (p g).run s = (p g').run s := by
  obtain ⟨r, hr⟩ := h
  rw [hr g, hr g']

theorem seq {p : H → EStateM ε σ α} (h : Never p s) (k : α → EStateM ε σ γ) : Never (fun g => p g >>= k) s := by
  obtain ⟨r, hr⟩ := h
  refine ⟨match r with | .ok a t => (k a).run t | .error e t => .error e t, fun g => ?_⟩
  rw [EStateM.run_bind, hr g]
  cases r <;> rfl

theorem after {x : EStateM ε σ α} {a : α} {p : α → H → EStateM ε σ γ} (hx : x.run s = .ok a t) (h : Never (p a) t) :
    Never (fun g => x >>= fun a => p a g) s := by
  obtain ⟨r, hr⟩ := h
  refine ⟨r, fun g => ?_⟩
  rw [run_bind_ok hx]
  exact hr g

theorem stopped {x : EStateM ε σ α} {e : ε} (p : α → H → EStateM ε σ γ) (hx : x.run s = .error e t) :
    Never (fun g => x >>= fun a => p a g) s := by
  refine ⟨.error e t, fun g => ?_⟩
  rw [run_bind_error hx]

theorem ite {d : Prop} [Decidable d] {p q : H → EStateM ε σ α} (hp : d → Never p s) (hq : ¬d → Never q s) :
    Never (fun g => if d then p g else q g) s := by
  by_cases hd : d
  · simpa only [if_pos hd] using hp hd
  · simpa only [if_neg hd] using hq hd

theorem not_invokes [Nontrivial ε] {p : EStateM ε σ β → EStateM ε σ α} (h : Never p s) : ¬Invokes p s t := by
  intro hp
  obtain ⟨e, e', hne⟩ := exists_pair_ne ε
  have heq := h.eq (throw e) (throw e')
  rw [hp e, hp e'] at heq
  cases heq
  exact hne rfl

end Never

/-! ## The call -/

namespace Reaches

variable {c : H → EStateM ε σ β} {p : H → EStateM ε σ α}

theorem self (c : H → EStateM ε σ β) (s : σ) : Reaches c c s s := ⟨pure, fun g => by rw [bind_pure]⟩

theorem comp {G : Type} (h : Reaches c p s t) (f : G → H) :
    Reaches (fun g => c (f g)) (fun g => p (f g)) s t := by
  obtain ⟨k, hk⟩ := h
  exact ⟨k, fun g => hk (f g)⟩

theorem seq (h : Reaches c p s t) (k : α → EStateM ε σ γ) : Reaches c (fun g => p g >>= k) s t := by
  obtain ⟨j, hj⟩ := h
  refine ⟨fun b => j b >>= k, fun g => ?_⟩
  rw [← bind_assoc, EStateM.run_bind, hj g, EStateM.run_bind (c g >>= j)]

theorem after {x : EStateM ε σ γ} {a : γ} {p : γ → H → EStateM ε σ α} (hx : x.run s = .ok a t)
    (h : Reaches c (p a) t u) : Reaches c (fun g => x >>= fun a => p a g) s u := by
  obtain ⟨k, hk⟩ := h
  refine ⟨k, fun g => ?_⟩
  rw [run_bind_ok hx]
  exact hk g

theorem ite_pos {d : Prop} [Decidable d] (hd : d) {q : H → EStateM ε σ α} (h : Reaches c p s t) :
    Reaches c (fun g => if d then p g else q g) s t := by
  simpa only [if_pos hd] using h

theorem trans {d : H → EStateM ε σ γ} (h : Reaches c p s t) (hc : Reaches d c t u) : Reaches d p s u := by
  obtain ⟨k, hk⟩ := h
  obtain ⟨j, hj⟩ := hc.seq k
  exact ⟨j, fun g => (hk g).trans (hj g)⟩

theorem never (h : Reaches c p s t) (hc : Never c t) : Never p s := by
  obtain ⟨k, hk⟩ := h
  obtain ⟨r, hr⟩ := hc.seq k
  exact ⟨r, fun g => (hk g).trans (hr g)⟩

/-- A call that stops the code. -/
theorem stopped (h : Reaches c p s t) {g : H} {e : ε} (hc : (c g).run t = .error e u) : (p g).run s = .error e u := by
  obtain ⟨k, hk⟩ := h
  rw [hk, EStateM.run_bind, hc]

/-- Hooks that make the same of the call make the same of the code. -/
theorem eq (h : Reaches c p s t) {g g' : H} (hg : (c g).run t = (c g').run t) : (p g).run s = (p g').run s := by
  obtain ⟨k, hk⟩ := h
  rw [hk g, hk g', EStateM.run_bind, EStateM.run_bind, hg]

theorem invokes {p : EStateM ε σ β → EStateM ε σ α} (h : Reaches id p s t) : Invokes p s t := by
  obtain ⟨k, hk⟩ := h
  intro e
  rw [hk]
  rfl

theorem eq_of_invokes (e : ε) {p : EStateM ε σ β → EStateM ε σ α} (h : Reaches id p s t) (hu : Invokes p s u) :
    u = t := by
  have heq := (h.invokes e).symm.trans (hu e)
  cases heq
  rfl

end Reaches

/-! ## Along the code -/

/-- The code makes one of the calls `c`, in a state that `R` relates, or none. -/
def AtMostOnce (R : σ → σ → Prop) (c : ι → H → EStateM ε σ β) (p : H → EStateM ε σ α) (s : σ) : Prop :=
  Never p s ∨ ∃ i t, R s t ∧ Reaches (c i) p s t

namespace AtMostOnce

variable {R : σ → σ → Prop} {c : ι → H → EStateM ε σ β} {p : H → EStateM ε σ α}

theorem const (x : EStateM ε σ α) : AtMostOnce R c (fun _ => x) s := .inl (.const x)

theorem seq (h : AtMostOnce R c p s) (k : α → EStateM ε σ γ) : AtMostOnce R c (fun g => p g >>= k) s := by
  rcases h with h | ⟨i, t, hR, h⟩
  · exact .inl (h.seq k)
  · exact .inr ⟨i, t, hR, h.seq k⟩

theorem ite {d : Prop} [Decidable d] {q : H → EStateM ε σ α} (hp : AtMostOnce R c p s) (hq : AtMostOnce R c q s) :
    AtMostOnce R c (fun g => if d then p g else q g) s := by
  by_cases hd : d
  · simpa only [if_pos hd] using hp
  · simpa only [if_neg hd] using hq

variable [IsPreorder σ R]

theorem call (i : ι) : AtMostOnce R c (c i) s := .inr ⟨i, s, refl_of R s, .self _ s⟩

theorem after {x : EStateM ε σ γ} {p : γ → H → EStateM ε σ α} (hx : Keeps R x)
    (h : ∀ a t, AtMostOnce R c (p a) t) : AtMostOnce R c (fun g => x >>= fun a => p a g) s := by
  cases hrun : x.run s with
  | ok a t =>
      rcases h a t with h | ⟨i, u, hR, h⟩
      · exact .inl (h.after hrun)
      · exact .inr ⟨i, u, trans_of R (hx.ok hrun) hR, h.after hrun⟩
  | error e t => exact .inl (.stopped p hrun)

end AtMostOnce

end FreeRtosTsn.Lib
