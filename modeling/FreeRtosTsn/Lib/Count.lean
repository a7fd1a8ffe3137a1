import FreeRtosTsn.Lib.Rely

/-!
# How often a program makes a call

`AtMost A C n` bounds the calls of the kind `C` that a program makes beside those of the kind `A`, whatever the
answers. A state property that loses one unit of a budget with each call of `C` then still has what is left of it
when the program ends.
-/

namespace FreeRtosTsn.Lib

variable {σ : Sig} {S α β L : Type} {A C : σ.Op → Prop}

/-- Every call of the program is in `A`, except for `n` at most, which are in `C`. -/
def Prog.AtMost (A C : σ.Op → Prop) : Nat → Prog σ α → Prop
  | _, .ret _ => True
  | n, .call o k => (A o ∧ ∀ r, (k r).AtMost A C n) ∨ C o ∧ ∃ m, n = m + 1 ∧ ∀ r, (k r).AtMost A C m

namespace Prog.AtMost

theorem of_within {p : Prog σ α} (n : Nat) (h : p.Within A) : p.AtMost A C n := by
  induction p with
  | ret a => trivial
  | call o k ih => exact Or.inl ⟨h.1, fun r => ih r (h.2 r)⟩

theorem succ {p : Prog σ α} {n : Nat} (h : p.AtMost A C n) : p.AtMost A C (n + 1) := by
  induction p generalizing n with
  | ret a => trivial
  | call o k ih =>
      rcases h with ⟨ho, hk⟩ | ⟨ho, m, rfl, hk⟩
      · exact Or.inl ⟨ho, fun r => ih r (hk r)⟩
      · exact Or.inr ⟨ho, m + 1, rfl, fun r => ih r (hk r)⟩

theorem mono {p : Prog σ α} {m n : Nat} (hmn : m ≤ n) (h : p.AtMost A C m) : p.AtMost A C n := by
  induction hmn with
  | refl => exact h
  | step _ ih => exact ih.succ

theorem bind {p : Prog σ α} {f : α → Prog σ β} {m n : Nat} (hp : p.AtMost A C m) (hf : ∀ a, (f a).AtMost A C n) :
    (p >>= f).AtMost A C (m + n) := by
  induction p generalizing m with
  | ret a => exact (hf a).mono (Nat.le_add_left n m)
  | call o k ih =>
      rcases hp with ⟨ho, hk⟩ | ⟨ho, m, rfl, hk⟩
      · exact Or.inl ⟨ho, fun r => ih r (hk r)⟩
      · exact Or.inr ⟨ho, m + n, Nat.succ_add m n, fun r => ih r (hk r)⟩

/-- `I n` is what holds while `n` calls of `C` may still come. -/
theorem wp {D : Sem σ S} {pre : σ.Op → S → Prop} {p : Prog σ α} {I : Nat → S → Prop} {n : Nat} {s : S}
    (hp : p.AtMost A C n) (hI : ∀ n, Stable D (I n)) (hs : I n s) (hpre : ∀ n o s, I n s → pre o s)
    (hkeep : ∀ n o s r s', A o → I n s → D.step o s r s' → I n s')
    (hspend : ∀ n o s r s', C o → I (n + 1) s → D.step o s r s' → I n s') :
    Lib.wp D pre p (fun _ s => ∃ n, I n s) s := by
  induction p generalizing n s with
  | ret a => exact wp.ret_of_stable (hI n) hs fun s h => ⟨n, h⟩
  | call o k ih =>
      refine wp.call_of_stable (hI n) hs (hpre n o) fun s r s' h hst => ?_
      rcases hp with ⟨ho, hk⟩ | ⟨ho, m, rfl, hk⟩
      · exact ih r (hk r) (hkeep n o s r s' ho h hst)
      · exact ih r (hk r) (hspend m o s r s' ho h hst)

end Prog.AtMost

/-- What is left of a loop body makes no more calls than a whole body. -/
theorem Loops.Reach.atMost {T : Loops σ S L} {D : Sem σ S} {n : Nat} (hbody : ∀ l, (T.body l).AtMost A C n)
    {c c' : Prog σ L × S} (hc : T.Reach D c c') (h : c.1.AtMost A C n) : c'.1.AtMost A C n := by
  induction hc with
  | refl => exact h
  | tail _ hst ih =>
      cases hst with
      | loop => exact hbody _
      | env => exact ih
      | call =>
          rcases ih with ⟨-, hk⟩ | ⟨-, m, rfl, hk⟩
          · exact hk _
          · exact (hk _).succ

end FreeRtosTsn.Lib
