import Mathlib.Data.List.Nodup

/-!
# Counting a thing at the places it can be

`n i` is how often the thing is at place `i`. `Once n` says that it is at exactly one place, once.
-/

namespace FreeRtosTsn.Lib

variable {ι : Type} {n n' : ι → Nat} {i : ι}

def Once (n : ι → Nat) : Prop := ∃ i, n i = 1 ∧ ∀ j, j ≠ i → n j = 0

theorem Once.not_zero (h : Once n) : ¬∀ i, n i = 0 := by
  obtain ⟨i, hi, -⟩ := h
  intro h0
  rw [h0 i] at hi
  exact absurd hi (by decide)

/-- It is added at the place `i`, and stays where it was otherwise. -/
def Added (i : ι) (n n' : ι → Nat) : Prop := n' i = n i + 1 ∧ ∀ j, j ≠ i → n' j = n j

/-- What was nowhere was put in one place. -/
theorem Added.once (h : Added i n n') (h0 : ∀ j, n j = 0) : Once n' :=
  ⟨i, by rw [h.1, h0 i], fun j hj => by rw [h.2 j hj, h0 j]⟩

theorem Added.congr {m m' : ι → Nat} (h : Added i n n') (hm : ∀ j, m j = n j) (hm' : ∀ j, m' j = n' j) : Added i m m' :=
  ⟨by rw [hm', hm, h.1], fun j hj => by rw [hm', hm, h.2 j hj]⟩

/-- It is at no place, or at one. -/
def OnceOrNever (n : ι → Nat) : Prop := Once n ∨ ∀ i, n i = 0

section Passed

variable [DecidableEq ι] {m : ι → Nat} {j : ι}

/-- Some of it went from one place to one place. -/
def Passed (n n' : ι → Nat) : Prop := ∃ (m : ι → Nat) (d : Nat) (i j : ι),
  (∀ k, n k = m k + if k = i then d else 0) ∧ ∀ k, n' k = m k + if k = j then d else 0

theorem Passed.of_eq (i : ι) (h : ∀ k, n' k = n k) : Passed n n' := ⟨n, 0, i, i, by simp, by simpa using h⟩

theorem Added.eq_add (h : Added i n n') (k : ι) : n' k = n k + if k = i then 1 else 0 := by
  by_cases hk : k = i
  · simp [hk, h.1]
  · simp [hk, h.2 k hk]

/-- It was taken from one place and put in one. -/
theorem Added.passed (h : Added i m n) (h' : Added j m n') : Passed n n' := ⟨m, 1, i, j, h.eq_add, h'.eq_add⟩

/-- All that was in one place was moved to another. -/
theorem Passed.emptied (hij : i ≠ j) (hi : n' i = 0) (hj : n' j = n j + n i)
    (hother : ∀ k, k ≠ i → k ≠ j → n' k = n k) : Passed n n' := by
  refine ⟨fun k => if k = i then 0 else n k, n i, i, j, fun k => ?_, fun k => ?_⟩
  · by_cases hk : k = i <;> simp [hk]
  · by_cases hki : k = i
    · simp [hki, hij, hi]
    · by_cases hkj : k = j
      · simp [hkj, hij.symm, hj]
      · simp [hki, hkj, hother k hki hkj]

theorem Passed.never (h : Passed n n') (h0 : ∀ k, n k = 0) : ∀ k, n' k = 0 := by
  obtain ⟨m, d, i, j, hn, hn'⟩ := h
  have hm : ∀ k, m k = 0 := fun k => (Nat.add_eq_zero_iff.mp ((hn k).symm.trans (h0 k))).1
  have hd : d = 0 := by simpa [hm i, h0 i] using (hn i).symm
  simp [hn', hm, hd]

theorem Passed.once (h : Passed n n') (h1 : Once n) : Once n' := by
  obtain ⟨m, d, i, j, hn, hn'⟩ := h
  obtain ⟨k, hk, hother⟩ := h1
  by_cases hd : d = 0
  · have hsame : ∀ l, n' l = n l := by simp [hn, hn', hd]
    exact ⟨k, (hsame k).trans hk, fun l hl => (hsame l).trans (hother l hl)⟩
  · -- What went is all that there was.
    have hik : i = k := by
      by_contra hne
      have hi := hn i
      simp [hother i hne, eq_comm, hd] at hi
    subst hik
    have hi := hn i
    have hm : ∀ l, m l = 0 := by
      intro l
      by_cases hl : l = i
      · subst hl
        simp [hk] at hi
        omega
      · simpa [hl, hother l hl] using (hn l).symm
    have hd1 : d = 1 := by simpa [hk, hm i] using hi.symm
    exact ⟨j, by simp [hn', hm, hd1], fun l hl => by simp [hn', hm, hl]⟩

theorem Passed.onceOrNever (h : Passed n n') (hn : OnceOrNever n) : OnceOrNever n' := hn.imp h.once h.never

end Passed

/-- A list that grew by one thing names it once if it did not name it before. -/
theorem nodup_append_singleton {α : Type} {l : List α} {a : α} : (l ++ [a]).Nodup ↔ a ∉ l ∧ l.Nodup := by
  rw [← List.concat_eq_append, List.nodup_concat]

end FreeRtosTsn.Lib
