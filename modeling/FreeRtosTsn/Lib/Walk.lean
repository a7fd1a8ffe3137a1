import Mathlib.Data.Finset.Card
import Mathlib.Data.List.Basic
import Mathlib.Logic.Function.Basic

/-!
# Walks along links

A node has at most one successor; a walk follows the links until there is none, and a loop along the links goes where
the walk goes.
-/

namespace FreeRtosTsn.Lib

variable {α : Type} {next : α → Option α} {o o' : Option α} {l l' : List α}

/-- The links lead from `o`, through the nodes `l`, to `o'`. -/
inductive Leads (next : α → Option α) : Option α → List α → Option α → Prop
  | here (o : Option α) : Leads next o [] o
  | visit {a : α} {l : List α} {o : Option α} (h : Leads next (next a) l o) : Leads next (some a) (a :: l) o

/-- The walk from `o` ends, and has visited `l`. -/
def Walk (next : α → Option α) (o : Option α) (l : List α) : Prop := Leads next o l none

theorem Walk.nil_iff : Walk next o [] ↔ o = none := by
  constructor
  · intro h
    cases h
    rfl
  · rintro rfl
    exact .here none

theorem Walk.some_iff {a : α} : Walk next (some a) l ↔ ∃ r, l = a :: r ∧ Walk next (next a) r := by
  constructor
  · intro h
    cases h with
    | visit h => exact ⟨_, rfl, h⟩
  · rintro ⟨r, rfl, h⟩
    exact .visit h

/-- A walk goes where the links lead, and on from there. -/
theorem Leads.walk_iff (h : Leads next o l o') : Walk next o l' ↔ ∃ r, l' = l ++ r ∧ Walk next o' r := by
  induction h generalizing l' with
  | here o => simp
  | @visit a l o h ih =>
      constructor
      · intro hw
        cases hw with
        | visit hw =>
            obtain ⟨r, rfl, hr⟩ := ih.mp hw
            exact ⟨r, rfl, hr⟩
      · rintro ⟨r, rfl, hr⟩
        exact .visit (ih.mpr ⟨r, rfl, hr⟩)

/-- Links of other nodes do not matter. -/
theorem Leads.congr {next' : α → Option α} (h : Leads next o l o') (heq : ∀ a ∈ l, next a = next' a) :
    Leads next' o l o' := by
  induction h with
  | here o => exact .here o
  | @visit a l o h ih =>
      have hrest := ih fun b hb => heq b (List.mem_cons_of_mem a hb)
      rw [heq a List.mem_cons_self] at hrest
      exact .visit hrest

theorem Leads.trans {o'' : Option α} (h : Leads next o l o') (h' : Leads next o' l' o'') : Leads next o (l ++ l') o'' := by
  induction h with
  | here o => exact h'
  | visit h ih => exact .visit (ih h')

namespace Walk

/-- A walk is at the last node before it ends. -/
theorem last {z : α} (h : Walk next o (l ++ [z])) : Leads next o l (some z) ∧ next z = none := by
  induction l generalizing o with
  | nil =>
      cases h with
      | visit h => exact ⟨.here _, nil_iff.mp h⟩
  | cons a l ih =>
      cases h with
      | visit h => exact ⟨.visit (ih h).1, (ih h).2⟩

theorem unique (h : Walk next o l) (h' : Walk next o l') : l = l' := by
  induction l generalizing o l' with
  | nil =>
      cases h
      cases h'
      rfl
  | cons a l ih =>
      cases h with
      | visit h =>
          cases h' with
          | visit h' => rw [ih h h']

/-- A walk goes on from each node as it went. -/
theorem from_mem {a : α} {r : List α} (h : Walk next o (l ++ a :: r)) : Walk next (some a) (a :: r) := by
  induction l generalizing o with
  | nil =>
      cases h with
      | visit h => exact .visit h
  | cons b l ih =>
      cases h with
      | visit h => exact ih h

/-- A walk that ends never comes back. -/
theorem nodup (h : Walk next o l) : l.Nodup := by
  induction l generalizing o with
  | nil => exact List.nodup_nil
  | cons a l ih =>
      cases h with
      | visit h =>
          refine List.nodup_cons.mpr ⟨fun ha => ?_, ih h⟩
          obtain ⟨l₁, l₂, rfl⟩ := List.append_of_mem ha
          have hlen := congrArg List.length (from_mem h |>.unique (.visit h))
          simp only [List.length_append, List.length_cons] at hlen
          omega

/-- A node that is linked behind the last one is visited after all others. -/
theorem link_last [DecidableEq α] {z b : α} (h : Walk next o (l ++ [z])) (hb : b ∉ l ++ [z]) :
    Walk (Function.update (Function.update next b none) z (some b)) o (l ++ [z, b]) := by
  have hbz : b ≠ z := fun hbz => hb (by simp [hbz])
  have hz : z ∉ l := fun hz => (List.nodup_append.mp h.nodup).2.2 z hz z List.mem_cons_self rfl
  refine Leads.trans (h.last.1.congr fun a ha => ?_) (.visit ?_)
  · have haz : a ≠ z := fun haz => hz (haz ▸ ha)
    have hab : a ≠ b := fun hab => hb (List.mem_append_left _ (hab ▸ ha))
    rw [Function.update_of_ne haz, Function.update_of_ne hab]
  · rw [Function.update_self]
    refine .visit ?_
    rw [Function.update_of_ne hbz, Function.update_self]
    exact .here none

end Walk

/-! ## Loops -/

section Chase

variable {ε β γ : Type} (load : α → Except ε (γ × Option α)) (lost : ε) (body : γ → β → Except ε (ForInStep β))

/-- A loop along links that may stop before their end; `lost` says that it ran out of fuel. -/
def chase : Nat → Option α → β → Except ε β
  | _, none, b => .ok b
  | 0, some _, _ => .error lost
  | fuel + 1, some a, b =>
      match load a with
      | .error e => .error e
      | .ok (x, o) =>
          match body x b with
          | .error e => .error e
          | .ok (.done b') => .ok b'
          | .ok (.yield b') => chase fuel o b'

variable {load lost body}

/-- With enough fuel the loop is one over what the nodes of the walk hold. -/
theorem Walk.chase_eq {val : α → γ} (h : Walk next o l) (hload : ∀ a ∈ l, load a = .ok (val a, next a)) {fuel : Nat}
    (hfuel : l.length ≤ fuel) (b : β) : chase load lost body fuel o b = forIn (l.map val) b body := by
  induction l generalizing o fuel b with
  | nil =>
      obtain rfl := nil_iff.mp h
      cases fuel <;> rfl
  | cons a l ih =>
      cases h with
      | visit h =>
          obtain ⟨fuel, rfl⟩ := Nat.exists_eq_succ_of_ne_zero (Nat.ne_of_gt (Nat.lt_of_lt_of_le (Nat.succ_pos _) hfuel))
          rw [chase, hload a List.mem_cons_self, List.map_cons, List.forIn_cons]
          cases hbody : body (val a) b with
          | error e => simp [hbody, bind, Except.bind]
          | ok r =>
              cases r with
              | done b' => simp [hbody, bind, Except.bind, pure, Except.pure]
              | yield b' =>
                  simp only [hbody, bind, Except.bind]
                  exact ih h (fun a' ha' => hload a' (List.mem_cons_of_mem a ha')) (Nat.le_of_succ_le_succ hfuel) b'

end Chase

/-- A result has the first property, and an error the second. -/
def Ends {ε β : Type} (I : β → Prop) (P : ε → Prop) : Except ε β → Prop
  | .ok b => I b
  | .error e => P e

/-- A loop keeps what each pass keeps, and has no errors but those of a pass. -/
theorem forIn_ends {ε β γ : Type} {l : List γ} {body : γ → β → Except ε (ForInStep β)} {I : β → Prop} {P : ε → Prop}
    (hbody : ∀ x ∈ l, ∀ b, I b → Ends (fun r => I r.value) P (body x b)) {b : β} (hb : I b) :
    Ends I P (forIn l b body) := by
  induction l generalizing b with
  | nil => exact hb
  | cons x l ih =>
      have hx := hbody x List.mem_cons_self b hb
      rw [List.forIn_cons]
      cases hstep : body x b with
      | error e =>
          rw [hstep] at hx
          exact hx
      | ok r =>
          rw [hstep] at hx
          cases r with
          | done b' => exact hx
          | yield b' => exact ih (fun y hy => hbody y (List.mem_cons_of_mem x hy)) hx

/-- A loop that stops at the first element with a property finds it. -/
theorem forIn_find {ε γ : Type} {l : List γ} {p : γ → Bool} {body : γ → Option γ → Except ε (ForInStep (Option γ))}
    (hbody : ∀ x ∈ l, ∀ b, body x b = .ok (if p x then .done (some x) else .yield none)) :
    forIn l none body = .ok (l.find? p) := by
  induction l with
  | nil => rfl
  | cons x l ih =>
      rw [List.forIn_cons, hbody x List.mem_cons_self, List.find?_cons]
      cases p x with
      | true => rfl
      | false => exact ih fun y hy => hbody y (List.mem_cons_of_mem x hy)

/-- Different numbers below `n` are at most `n`. -/
theorem length_le_of_nodup_lt {l : List Nat} {n : Nat} (h : l.Nodup) (hlt : ∀ a ∈ l, a < n) : l.length ≤ n := by
  rw [← List.toFinset_card_of_nodup h]
  refine (Finset.card_le_card fun a ha => ?_).trans (Finset.card_range n).le
  exact Finset.mem_range.mpr (hlt a (List.mem_toFinset.mp ha))

end FreeRtosTsn.Lib
