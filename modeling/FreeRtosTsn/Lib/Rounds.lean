import FreeRtosTsn.Lib.Rely
import Mathlib.Tactic.Choose

/-!
# Counting the bodies of a thread

`ReachIn n` is a run on which the thread entered `n` loop bodies. An invariant that names this number bounds it by
what the state records. In an infinite run where the thread is not left waiting forever the number grows beyond
every bound, as a body is a well founded tree of calls.
-/

namespace FreeRtosTsn.Lib

variable {σ : Sig} {S α β L : Type} {T : Loops σ S L} {D : Sem σ S}

/-! ## Two facts about one run of a program -/

/-- Every result of the program is in `R`, whatever the answers. -/
def Prog.Ends (R : α → Prop) : Prog σ α → Prop
  | .ret a => R a
  | .call _ k => ∀ r, (k r).Ends R

theorem Prog.Ends.bind {R : β → Prop} {p : Prog σ α} {f : α → Prog σ β} (hf : ∀ a, (f a).Ends R) :
    (p >>= f).Ends R := by
  induction p with
  | ret a => exact hf a
  | call o k ih => exact ih

namespace wp

variable {pre pre' : σ.Op → S → Prop}

theorem ends {R : α → Prop} {p : Prog σ α} (hp : p.Ends R) {Q : α → S → Prop} {s : S} (h : wp D pre p Q s) :
    wp D pre p (fun a s => R a ∧ Q a s) s := by
  induction p generalizing s with
  | ret a => exact fun s' hs => ⟨hp, h s' hs⟩
  | call o k ih => exact fun s' hs => ⟨(h s' hs).1, fun r s'' hst => ih r (hp r) ((h s' hs).2 r s'' hst)⟩

/-- Of the first fact only the result is kept. -/
theorem and_post {p : Prog σ α} {Q Q' : α → S → Prop} {s : S} (h : wp D pre p Q s) (h' : wp D pre' p Q' s) :
    wp D pre' p (fun a s => Q a s ∧ Q' a s) s := by
  induction p generalizing s with
  | ret a => exact fun s' hs => ⟨h s' hs, h' s' hs⟩
  | call o k ih =>
      exact fun s' hs => ⟨(h' s' hs).1, fun r s'' hst => ih r ((h s' hs).2 r s'' hst) ((h' s' hs).2 r s'' hst)⟩

theorem mono_pre (hpre : ∀ o s, pre o s → pre' o s) {p : Prog σ α} {Q : α → S → Prop} {s : S} (h : wp D pre p Q s) :
    wp D pre' p Q s := by
  induction p generalizing s with
  | ret a => exact h
  | call o k ih =>
      exact fun s' hs => ⟨hpre o s' (h s' hs).1, fun r s'' hst => ih r ((h s' hs).2 r s'' hst)⟩

end wp

/-! ## Counted runs -/

namespace Loops

/-- The states that the thread reaches from `c` when it enters `n` bodies. -/
inductive ReachIn (T : Loops σ S L) (D : Sem σ S) (c : Prog σ L × S) : Nat → Prog σ L × S → Prop
  | refl : ReachIn T D c 0 c
  | call {n : Nat} {o : σ.Op} {k : σ.Res o → Prog σ L} {s s' : S} {r : σ.Res o} :
      ReachIn T D c n (.call o k, s) → D.step o s r s' → ReachIn T D c n (k r, s')
  | loop {n : Nat} {l : L} {s : S} : ReachIn T D c n (.ret l, s) → ReachIn T D c (n + 1) (T.body l, T.enter l s)
  | env {n : Nat} {p : Prog σ L} {s s' : S} : ReachIn T D c n (p, s) → D.rely s s' → ReachIn T D c n (p, s')

namespace ReachIn

variable {c c' c'' : Prog σ L × S} {m n : Nat}

theorem reach (h : T.ReachIn D c n c') : T.Reach D c c' := by
  induction h with
  | refl => exact .refl
  | call _ hs ih => exact ih.tail (.call hs)
  | loop _ ih => exact ih.tail .loop
  | env _ hr ih => exact ih.tail (.env hr)

theorem trans (h : T.ReachIn D c m c') (h' : T.ReachIn D c' n c'') : T.ReachIn D c (m + n) c'' := by
  induction h' with
  | refl => exact h
  | call _ hs ih => exact ih.call hs
  | loop _ ih => exact ih.loop
  | env _ hr ih => exact ih.env hr

/-- `P n` is what holds in the `n`-th body, and `I n` is what holds when it has ended. -/
theorem wp {P : Nat → σ.Op → S → Prop} {I : Nat → L → S → Prop}
    (hbody : ∀ n l s, I n l s → Lib.wp D (P (n + 1)) (T.body l) (I (n + 1)) (T.enter l s))
    (hc : T.ReachIn D c n c') (h : Lib.wp D (P 0) c.1 (I 0) c.2) : Lib.wp D (P n) c'.1 (I n) c'.2 := by
  induction hc with
  | refl => exact h
  | call _ hs ih => exact ih.step hs
  | loop _ ih => exact hbody _ _ _ (ih _ .refl)
  | env _ hr ih => exact ih.rely hr

end ReachIn

/-- What is left of a loop body makes the calls of a whole body only. -/
theorem Reach.within {C : σ.Op → Prop} (hbody : ∀ l, (T.body l).Within C) {c c' : Prog σ L × S}
    (hc : T.Reach D c c') (h : c.1.Within C) : c'.1.Within C := by
  induction hc with
  | refl => exact h
  | tail _ hst ih =>
      cases hst with
      | call => exact ih.2 _
      | loop => exact hbody _
      | env => exact ih

/-! ## Infinite runs -/

/-- A step of the thread itself. -/
inductive Moves (T : Loops σ S L) (D : Sem σ S) : Prog σ L × S → Prog σ L × S → Prop
  | call {o : σ.Op} {k : σ.Res o → Prog σ L} {s s' : S} {r : σ.Res o} :
      D.step o s r s' → Moves T D (.call o k, s) (k r, s')
  | loop {l : L} {s : S} : Moves T D (.ret l, s) (T.body l, T.enter l s)

theorem Step.moves {c c' : Prog σ L × S} (h : T.Step D c c') :
    T.Moves D c c' ∨ T.ReachIn D c 0 c' ∧ c'.1 = c.1 := by
  cases h with
  | call hs => exact Or.inl (.call hs)
  | loop => exact Or.inl .loop
  | env hr => exact Or.inr ⟨.env .refl hr, rfl⟩

theorem Moves.step {c c' : Prog σ L × S} (h : T.Moves D c c') : T.Step D c c' := by
  cases h with
  | call hs => exact .call hs
  | loop => exact .loop

/-- The thread enters a body, or makes a call of the one it is in. -/
theorem Moves.enters {c c' : Prog σ L × S} (h : T.Moves D c c') :
    T.ReachIn D c 1 c' ∨ T.ReachIn D c 0 c' ∧ ∃ o k r, c.1 = .call o k ∧ c'.1 = k r := by
  cases h with
  | @call o k s s' r hs => exact Or.inr ⟨.call .refl hs, o, k, r, rfl, rfl⟩
  | loop => exact Or.inl (.loop .refl)

/-- An infinite run on which the thread makes a step again and again. -/
structure FairRun (T : Loops σ S L) (D : Sem σ S) (f : Nat → Prog σ L × S) : Prop where
  step : ∀ i, T.Step D (f i) (f (i + 1))
  fair : ∀ i, ∃ d, T.Moves D (f (i + d)) (f (i + d + 1))

namespace FairRun

variable {f : Nat → Prog σ L × S}

/-- Until the next step of the thread its program stays. -/
theorem waits (h : T.FairRun D f) (i : Nat) :
    ∃ j, T.ReachIn D (f i) 0 (f j) ∧ (f j).1 = (f i).1 ∧ T.Moves D (f j) (f (j + 1)) := by
  obtain ⟨d, hd⟩ := h.fair i
  induction d generalizing i with
  | zero => exact ⟨i, .refl, rfl, hd⟩
  | succ d ih =>
      rcases (h.step i).moves with hmoves | ⟨hreach, hp⟩
      · exact ⟨i, .refl, rfl, hmoves⟩
      · obtain ⟨j, hj, hpj, hmoves⟩ := ih (i + 1) (by rwa [Nat.add_right_comm, Nat.add_assoc])
        exact ⟨j, hreach.trans hj, hpj.trans hp, hmoves⟩

/-- The induction is on what is left of the body that the thread is in. -/
theorem enters (h : T.FairRun D f) (p : Prog σ L) {i : Nat} (hp : (f i).1 = p) : ∃ j, T.ReachIn D (f i) 1 (f j) := by
  induction p generalizing i with
  | ret l =>
      obtain ⟨j, hj, hpj, hmoves⟩ := h.waits i
      rcases hmoves.enters with hone | ⟨-, o, k, r, hcall, -⟩
      · exact ⟨j + 1, hj.trans hone⟩
      · rw [hpj, hp] at hcall
        cases hcall
  | call o k ih =>
      obtain ⟨j, hj, hpj, hmoves⟩ := h.waits i
      rcases hmoves.enters with hone | ⟨hzero, o', k', r, hcall, hk⟩
      · exact ⟨j + 1, hj.trans hone⟩
      · rw [hpj, hp] at hcall
        cases hcall
        obtain ⟨j', hj'⟩ := ih r hk
        exact ⟨j', (hj.trans hzero).trans hj'⟩

theorem rounds (h : T.FairRun D f) (n : Nat) : ∃ j, T.ReachIn D (f 0) n (f j) := by
  induction n with
  | zero => exact ⟨0, .refl⟩
  | succ n ih =>
      obtain ⟨j, hj⟩ := ih
      obtain ⟨j', hj'⟩ := h.enters _ (Eq.refl (f j).1)
      exact ⟨j', hj.trans hj'⟩

end FairRun

/-- A thread that is never stuck has such a run, in which the others stand still. -/
theorem Moves.fairRun {I : Prog σ L × S → Prop} (hstep : ∀ c, I c → ∃ c', T.Moves D c c' ∧ I c') {c : Prog σ L × S}
    (hc : I c) : ∃ f, f 0 = c ∧ T.FairRun D f ∧ ∀ i, T.Moves D (f i) (f (i + 1)) ∧ I (f i) := by
  choose next hmoves hkeep using fun x : {c // I c} => hstep x.1 x.2
  let g : Nat → {c // I c} := Nat.rec ⟨c, hc⟩ fun _ x => ⟨next x, hkeep x⟩
  have hg : ∀ i, T.Moves D (g i).1 (g (i + 1)).1 := fun i => hmoves (g i)
  exact ⟨fun i => (g i).1, rfl, ⟨fun i => (hg i).step, fun i => ⟨0, hg i⟩⟩, fun i => ⟨hg i, (g i).2⟩⟩

end Loops

end FreeRtosTsn.Lib
