import Mathlib.Data.List.MinMax

/-!
# The first maximum of a list

Among the elements with a property, the first one that no other exceeds.
-/

namespace FreeRtosTsn.Lib

variable {α β : Type} [LinearOrder β] {f : α → β} {p : α → Bool} {xs : List α} {x y : α}

/-- Those before `x` are smaller, and those behind it not larger. -/
def FirstMax (f : α → β) (p : α → Bool) (xs : List α) (x : α) : Prop :=
  ∃ before behind, xs = before ++ x :: behind ∧ p x = true ∧
    (∀ y ∈ before, p y = true → f y < f x) ∧ ∀ y ∈ behind, p y = true → f y ≤ f x

namespace FirstMax

theorem mem (h : FirstMax f p xs x) : x ∈ xs := by
  obtain ⟨before, behind, rfl, -⟩ := h
  simp

theorem holds (h : FirstMax f p xs x) : p x = true := by
  obtain ⟨_, _, _, hx, _⟩ := h
  exact hx

theorem le (h : FirstMax f p xs x) (hy : y ∈ xs) (hp : p y = true) : f y ≤ f x := by
  obtain ⟨before, behind, rfl, -, hbefore, hbehind⟩ := h
  rcases List.mem_append.mp hy with hy | hy
  · exact le_of_lt (hbefore y hy hp)
  · rcases List.mem_cons.mp hy with rfl | hy
    · exact le_refl _
    · exact hbehind y hy hp

/-- The head is the first maximum, or the tail has one that is larger. -/
theorem cons_iff : FirstMax f p (y :: xs) x ↔
    (x = y ∧ p y = true ∧ ∀ z ∈ xs, p z = true → f z ≤ f y) ∨ (FirstMax f p xs x ∧ (p y = true → f y < f x)) := by
  constructor
  · rintro ⟨before, behind, heq, hx, hbefore, hbehind⟩
    cases before with
    | nil =>
        obtain ⟨rfl, rfl⟩ := List.cons.inj heq
        exact .inl ⟨rfl, hx, hbehind⟩
    | cons z before =>
        obtain ⟨rfl, rfl⟩ := List.cons.inj heq
        exact .inr ⟨⟨before, behind, rfl, hx, fun z hz => hbefore z (List.mem_cons_of_mem _ hz), hbehind⟩,
          hbefore y List.mem_cons_self⟩
  · rintro (⟨rfl, hx, hbehind⟩ | ⟨⟨before, behind, rfl, hx, hbefore, hbehind⟩, hy⟩)
    · exact ⟨[], xs, rfl, hx, by simp, hbehind⟩
    · refine ⟨y :: before, behind, rfl, hx, fun z hz => ?_, hbehind⟩
      rcases List.mem_cons.mp hz with rfl | hz
      · exact hy
      · exact hbefore z hz

end FirstMax

/-- `List.argmax` finds it. -/
theorem argmax_filter_iff : (xs.filter p).argmax f = some x ↔ FirstMax f p xs x := by
  induction xs generalizing x with
  | nil =>
      refine iff_of_false (by simp) fun h => ?_
      simpa using h.mem
  | cons y xs ih =>
      rw [FirstMax.cons_iff]
      by_cases hy : p y = true
      · rw [List.filter_cons_of_pos hy, List.argmax_cons]
        cases hmax : (xs.filter p).argmax f with
        | none =>
            have hnil := List.filter_eq_nil_iff.mp (List.argmax_eq_none.mp hmax)
            constructor
            · rintro ⟨⟩
              exact .inl ⟨rfl, hy, fun z hz hpz => absurd hpz (hnil z hz)⟩
            · rintro (⟨rfl, -⟩ | ⟨h, -⟩)
              · rfl
              · exact absurd h.holds (hnil x h.mem)
        | some c =>
            have hc : FirstMax f p xs c := ih.mp hmax
            dsimp only
            split
            · rename_i hlt
              constructor
              · rintro ⟨⟩
                exact .inr ⟨hc, fun _ => hlt⟩
              · rintro (⟨-, -, hle⟩ | ⟨h, -⟩)
                · exact absurd hlt (not_lt.mpr (hle c hc.mem hc.holds))
                · rw [← ih.mpr h, hmax]
            · rename_i hlt
              constructor
              · rintro ⟨⟩
                exact .inl ⟨rfl, hy, fun z hz hpz => (hc.le hz hpz).trans (not_lt.mp hlt)⟩
              · rintro (⟨rfl, -⟩ | ⟨h, hyx⟩)
                · rfl
                · have hcx := ih.mpr h
                  rw [hmax] at hcx
                  cases hcx
                  exact absurd (hyx hy) hlt
      · rw [List.filter_cons_of_neg hy, ih]
        simp [hy]

theorem argmax_filter_eq_none : (xs.filter p).argmax f = none ↔ ∀ y ∈ xs, p y = false := by
  rw [List.argmax_eq_none, List.filter_eq_nil_iff]
  simp

end FreeRtosTsn.Lib
