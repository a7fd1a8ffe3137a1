import FreeRtosTsn.Lib.Prog

/-!
# Two runs of a program

`Runs` is a run of a program in which others act on the state before each call, with the calls that were made. A
`Mirror` maps the calls and their answers to others; a program `Mirrors` a second one when the second makes the mirrored
calls, as long as the calls show what the mirror asks for. A run of the first is then one of the second.
-/

namespace FreeRtosTsn.Lib

variable {σ : Sig} {S X T α β : Type}

/-- A call with its answer. -/
abbrev Sig.Event (σ : Sig) : Type := (o : σ.Op) × σ.Res o

/-- What the others do between two calls, and the effect of each call. -/
structure Machine (σ : Sig) (S X : Type) where
  act : X → S → S
  step : (o : σ.Op) → S → σ.Res o → S → Prop

def Runs (D : Machine σ S X) : Prog σ α → S → List X → List σ.Event → α → S → Prop
  | .ret a, s, xs, es, b, s' => xs = [] ∧ es = [] ∧ b = a ∧ s' = s
  | .call o k, s, xs, es, b, s' => ∃ x xs' r s₁ es', xs = x :: xs' ∧ es = ⟨o, r⟩ :: es' ∧
      D.step o (D.act x s) r s₁ ∧ Runs D (k r) s₁ xs' es' b s'

namespace Runs

variable {D : Machine σ S X} {s s' : S} {xs : List X} {es : List σ.Event}

theorem ret (a : α) (s : S) : Runs D (.ret a) s [] [] a s := ⟨rfl, rfl, rfl, rfl⟩

theorem call {o : σ.Op} {k : σ.Res o → Prog σ α} {x : X} {r : σ.Res o} {s₁ : S} {a : α}
    (hs : D.step o (D.act x s) r s₁) (h : Runs D (k r) s₁ xs es a s') :
    Runs D (.call o k) s (x :: xs) (⟨o, r⟩ :: es) a s' := ⟨x, xs, r, s₁, es, rfl, rfl, hs, h⟩

/-- In a machine that answers each call in one way, what the others do decides the run. -/
theorem unique (hD : ∀ o s r s₁ r' s₁', D.step o s r s₁ → D.step o s r' s₁' → r = r' ∧ s₁ = s₁') {p : Prog σ α}
    {ys zs : List X} {es' : List σ.Event} {a a' : α} {s'' : S} (hxs : xs <+: zs) (hys : ys <+: zs)
    (h : Runs D p s xs es a s') (h' : Runs D p s ys es' a' s'') : a = a' := by
  induction p generalizing s xs ys zs es es' with
  | ret b =>
      obtain ⟨-, -, rfl, -⟩ := h
      obtain ⟨-, -, rfl, -⟩ := h'
      rfl
  | call o k ih =>
      obtain ⟨x, xs', r, s₁, es₁, rfl, -, hs, hrest⟩ := h
      obtain ⟨y, ys', r', s₁', es₁', rfl, -, hs', hrest'⟩ := h'
      obtain ⟨ws, rfl⟩ := hxs
      obtain ⟨rfl, hys'⟩ := List.cons_prefix_cons.mp hys
      obtain ⟨rfl, rfl⟩ := hD o _ r s₁ r' s₁' hs hs'
      exact ih r (List.prefix_append xs' ws) hys' hrest hrest'

end Runs

/-- `pre` is what holds of each call and `knows` of each answer; `asks` may depend on what the calls before have shown,
which `next` records. `rest` is what holds of this record where a program ends. -/
structure Mirror (σ : Sig) (T : Type) where
  op : σ.Op → σ.Op
  res : (o : σ.Op) → σ.Res o → σ.Res (op o)
  pre : σ.Op → Prop
  knows : σ.Event → Prop
  next : T → σ.Event → T
  asks : T → σ.Event → Prop
  rest : T → Prop

namespace Mirror

def event (Y : Mirror σ T) (e : σ.Event) : σ.Event := ⟨Y.op e.1, Y.res e.1 e.2⟩

/-- The calls show what is asked for. -/
def Holds (Y : Mirror σ T) : T → List σ.Event → Prop
  | _, [] => True
  | t, e :: es => Y.asks t e ∧ Y.Holds (Y.next t e) es

end Mirror

def Mirrors (Y : Mirror σ T) : T → Prog σ α → Prog σ α → Prop
  | t, .ret a, p' => p' = .ret a ∧ Y.rest t
  | t, .call o k, p' => Y.pre o ∧ ∃ k', p' = .call (Y.op o) k' ∧
      ∀ r, Y.knows ⟨o, r⟩ → Y.asks t ⟨o, r⟩ → Mirrors Y (Y.next t ⟨o, r⟩) (k r) (k' (Y.res o r))

namespace Mirrors

variable {Y : Mirror σ T}

theorem ret {t : T} (ht : Y.rest t) (a : α) : Mirrors Y t (.ret a) (.ret a) := ⟨rfl, ht⟩

theorem call {t : T} {o : σ.Op} {k : σ.Res o → Prog σ α} {k' : σ.Res (Y.op o) → Prog σ α} (hpre : Y.pre o)
    (hk : ∀ r, Y.knows ⟨o, r⟩ → Y.asks t ⟨o, r⟩ → Mirrors Y (Y.next t ⟨o, r⟩) (k r) (k' (Y.res o r))) :
    Mirrors Y t (.call o k) (.call (Y.op o) k') := ⟨hpre, k', rfl, hk⟩

theorem bind {p p' : Prog σ α} {f f' : α → Prog σ β} {t : T} (h : Mirrors Y t p p')
    (hf : ∀ a t, Y.rest t → Mirrors Y t (f a) (f' a)) : Mirrors Y t (p >>= f) (p' >>= f') := by
  induction p generalizing t p' with
  | ret a =>
      rw [h.1]
      exact hf a t h.2
  | call o k ih =>
      obtain ⟨hpre, k', rfl, hk⟩ := h
      exact call hpre fun r hr ha => ih r (hk r hr ha)

/-- A run of a program is mirrored when each step of the machine is, in the states of an invariant. -/
theorem runs {D : Machine σ S X} {I : S → Prop} {mirror : S → S}
    (hstep : ∀ o x s r s', I s → Y.pre o → D.step o (D.act x s) r s' →
      I s' ∧ Y.knows ⟨o, r⟩ ∧ D.step (Y.op o) (D.act x (mirror s)) (Y.res o r) (mirror s'))
    {p p' : Prog σ α} {t : T} {s s' : S} {xs : List X} {es : List σ.Event} {a : α} (h : Mirrors Y t p p') (hI : I s)
    (hrun : Runs D p s xs es a s') (hasks : Y.Holds t es) :
    Runs D p' (mirror s) xs (es.map Y.event) a (mirror s') ∧ ∀ e ∈ es, Y.knows e := by
  induction p generalizing t p' s xs es with
  | ret b =>
      obtain ⟨rfl, rfl, rfl, rfl⟩ := hrun
      rw [h.1]
      exact ⟨⟨rfl, rfl, rfl, rfl⟩, by simp⟩
  | call o k ih =>
      obtain ⟨x, xs', r, s₁, es', rfl, rfl, hs, hrest⟩ := hrun
      obtain ⟨hpre, k', rfl, hk⟩ := h
      obtain ⟨hI₁, hknows, hs'⟩ := hstep o x s r s₁ hI hpre hs
      obtain ⟨hrun', hall⟩ := ih r (hk r hknows hasks.1) hI₁ hrest hasks.2
      refine ⟨⟨x, xs', Y.res o r, mirror s₁, es'.map Y.event, rfl, rfl, hs', hrun'⟩, ?_⟩
      simp only [List.forall_mem_cons]
      exact ⟨hknows, hall⟩

end Mirrors

end FreeRtosTsn.Lib
