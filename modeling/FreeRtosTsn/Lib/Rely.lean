import FreeRtosTsn.Lib.Prog

/-!
# A program among other threads

`Sem` gives the effect of each call on the shared state and what the other threads may do. `wp` is the weakest
precondition of a program when the others may act between any two of its calls; `pre` is what has to hold of
each call at the moment it is made. A thread that runs loop bodies forever keeps what its bodies keep
(`Reach.wp`).
-/

namespace FreeRtosTsn.Lib

open Relation

/-- The effect of a call on the shared state, and the steps of the other threads. -/
structure Sem (σ : Sig) (S : Type) where
  step : (o : σ.Op) → S → σ.Res o → S → Prop
  rely : S → S → Prop

variable {σ : Sig} {S α β L : Type}

/-- `I` still holds after the other threads acted. -/
def Stable (D : Sem σ S) (I : S → Prop) : Prop := ∀ s s', I s → D.rely s s' → I s'

theorem Stable.star {D : Sem σ S} {I : S → Prop} (h : Stable D I) {s s' : S}
    (hs : ReflTransGen D.rely s s') : I s → I s' := by
  induction hs with
  | refl => exact id
  | tail _ hr ih => exact fun hI => h _ _ (ih hI) hr

theorem Stable.and {D : Sem σ S} {I J : S → Prop} (hI : Stable D I) (hJ : Stable D J) :
    Stable D fun s => I s ∧ J s :=
  fun s s' h hr => ⟨hI s s' h.1 hr, hJ s s' h.2 hr⟩

/-- Every call `o` of the program is made in a state where `pre o` holds, and the program ends in `Q`. -/
def wp (D : Sem σ S) (pre : σ.Op → S → Prop) : Prog σ α → (α → S → Prop) → S → Prop
  | .ret a, Q, s => ∀ s', ReflTransGen D.rely s s' → Q a s'
  | .call o k, Q, s => ∀ s', ReflTransGen D.rely s s' →
      pre o s' ∧ ∀ r s'', D.step o s' r s'' → wp D pre (k r) Q s''

namespace wp

variable {D : Sem σ S} {pre : σ.Op → S → Prop}

theorem star {p : Prog σ α} {Q : α → S → Prop} {s s' : S} (h : wp D pre p Q s)
    (hs : ReflTransGen D.rely s s') : wp D pre p Q s' := by
  cases p with
  | ret a => exact fun s'' h' => h s'' (hs.trans h')
  | call o k => exact fun s'' h' => h s'' (hs.trans h')

theorem rely {p : Prog σ α} {Q : α → S → Prop} {s s' : S} (h : wp D pre p Q s) (hs : D.rely s s') :
    wp D pre p Q s' := h.star (.single hs)

theorem pre_call {o : σ.Op} {k : σ.Res o → Prog σ α} {Q : α → S → Prop} {s : S}
    (h : wp D pre (.call o k) Q s) : pre o s := (h s .refl).1

theorem step {o : σ.Op} {k : σ.Res o → Prog σ α} {Q : α → S → Prop} {s s' : S} {r : σ.Res o}
    (h : wp D pre (.call o k) Q s) (hs : D.step o s r s') : wp D pre (k r) Q s' := (h s .refl).2 r s' hs

theorem mono {p : Prog σ α} {Q Q' : α → S → Prop} (hQ : ∀ a s, Q a s → Q' a s) {s : S}
    (h : wp D pre p Q s) : wp D pre p Q' s := by
  induction p generalizing s with
  | ret a => exact fun s' hs => hQ a s' (h s' hs)
  | call o k ih => exact fun s' hs => ⟨(h s' hs).1, fun r s'' hst => ih r ((h s' hs).2 r s'' hst)⟩

theorem bind {p : Prog σ α} {f : α → Prog σ β} {Q : β → S → Prop} {s : S}
    (h : wp D pre p (fun a => wp D pre (f a) Q) s) : wp D pre (p >>= f) Q s := by
  induction p generalizing s with
  | ret a => exact h s .refl
  | call o k ih => exact fun s' hs => ⟨(h s' hs).1, fun r s'' hst => ih r ((h s' hs).2 r s'' hst)⟩

theorem ret_of_stable {a : α} {I : S → Prop} {Q : α → S → Prop} {s : S} (hI : Stable D I) (hs : I s)
    (hQ : ∀ s, I s → Q a s) : wp D pre (.ret a) Q s :=
  fun _ h => hQ _ (hI.star h hs)

theorem call_of_stable {o : σ.Op} {k : σ.Res o → Prog σ α} {I : S → Prop} {Q : α → S → Prop} {s : S}
    (hI : Stable D I) (hs : I s) (hpre : ∀ s, I s → pre o s)
    (hk : ∀ s r s', I s → D.step o s r s' → wp D pre (k r) Q s') : wp D pre (.call o k) Q s :=
  fun _ h => ⟨hpre _ (hI.star h hs), fun r s'' hst => hk _ r s'' (hI.star h hs) hst⟩

/-- A program whose calls keep a stable state property keeps it. -/
theorem frame {p : Prog σ α} {C : σ.Op → Prop} {I : S → Prop} {s : S} (hp : p.Within C) (hI : Stable D I)
    (hs : I s) (hpre : ∀ o s, C o → I s → pre o s)
    (hstep : ∀ o s r s', C o → I s → D.step o s r s' → I s') : wp D pre p (fun _ => I) s := by
  induction p generalizing s with
  | ret a => exact ret_of_stable hI hs fun _ h => h
  | call o k ih =>
      exact call_of_stable hI hs (fun s h => hpre o s hp.1 h)
        fun s r s' h hst => ih r (hp.2 r) (hstep o s r s' hp.1 h hst)

end wp

/-! ## Loops -/

/-- A thread that runs the body of a loop to its end, which names the loop to go on with. `enter` is what the
shared state records when a body is entered. -/
structure Loops (σ : Sig) (S L : Type) where
  body : L → Prog σ L
  enter : L → S → S

/-- One step of the thread or of the others. -/
inductive Loops.Step (T : Loops σ S L) (D : Sem σ S) : Prog σ L × S → Prog σ L × S → Prop
  | call {o : σ.Op} {k : σ.Res o → Prog σ L} {s s' : S} {r : σ.Res o} :
      D.step o s r s' → Step T D (.call o k, s) (k r, s')
  | loop {l : L} {s : S} : Step T D (.ret l, s) (T.body l, T.enter l s)
  | env {p : Prog σ L} {s s' : S} : D.rely s s' → Step T D (p, s) (p, s')

/-- The states that the thread and the others reach together. -/
abbrev Loops.Reach (T : Loops σ S L) (D : Sem σ S) : Prog σ L × S → Prog σ L × S → Prop :=
  ReflTransGen (T.Step D)

/-- What every loop body keeps holds in every reachable state. -/
theorem Loops.Reach.wp {T : Loops σ S L} {D : Sem σ S} {pre : σ.Op → S → Prop} {I : L → S → Prop}
    (hbody : ∀ l s, I l s → Lib.wp D pre (T.body l) I (T.enter l s)) {c c' : Prog σ L × S}
    (hc : T.Reach D c c') (h : Lib.wp D pre c.1 I c.2) : Lib.wp D pre c'.1 I c'.2 := by
  induction hc with
  | refl => exact h
  | tail _ hst ih =>
      cases hst with
      | call hs => exact ih.step hs
      | loop => exact hbody _ _ (ih _ .refl)
      | env hr => exact ih.rely hr

/-- What every call, every entry of a loop and every step of the others keeps. -/
theorem Loops.Reach.keeps {T : Loops σ S L} {D : Sem σ S} {I : S → Prop}
    (hstep : ∀ o s r s', D.step o s r s' → I s → I s') (hrely : Stable D I) (henter : ∀ l s, I s → I (T.enter l s))
    {c c' : Prog σ L × S} (hc : T.Reach D c c') (h : I c.2) : I c'.2 := by
  induction hc with
  | refl => exact h
  | tail _ hst ih =>
      cases hst with
      | call hs => exact hstep _ _ _ _ hs ih
      | loop => exact henter _ _ ih
      | env hr => exact hrely _ _ ih hr

/-- A semantics that allows more has every run. -/
theorem Loops.Reach.refines {T : Loops σ S L} {D D' : Sem σ S} (hstep : ∀ o s r s', D.step o s r s' → D'.step o s r s')
    (hrely : ∀ s s', D.rely s s' → D'.rely s s') {c c' : Prog σ L × S} (hc : T.Reach D c c') : T.Reach D' c c' := by
  induction hc with
  | refl => exact .refl
  | tail _ hst ih =>
      cases hst with
      | call hs => exact ih.tail (.call (hstep _ _ _ _ hs))
      | loop => exact ih.tail .loop
      | env hr => exact ih.tail (.env (hrely _ _ hr))

end FreeRtosTsn.Lib
