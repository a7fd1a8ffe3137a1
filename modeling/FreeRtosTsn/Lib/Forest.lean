import Mathlib.Logic.Relation
import Mathlib.Data.Finset.Card
import Mathlib.Data.List.Nodup

/-!
# Forests

`R a b` says that `b` is a child of `a`. A relation without cycles over finitely many nodes unfolds to trees of bounded
depth, and where each node has one parent, no node occurs twice in such a tree.
-/

namespace FreeRtosTsn.Lib

open Relation

variable {α : Type} {R S : α → α → Prop}

/-! ## Cycles -/

def Acyclic (R : α → α → Prop) : Prop := ∀ a, ¬TransGen R a a

theorem Acyclic.mono (hR : Acyclic R) (h : ∀ a b, S a b → R a b) : Acyclic S :=
  fun a ha => hR a (ha.lift id h)

/-- Paths with one more edge use it, or do not. -/
theorem reflTransGen_link {p c : α} (h : ∀ a b, S a b → R a b ∨ a = p ∧ b = c) {a b : α}
    (hab : ReflTransGen S a b) : ReflTransGen R a b ∨ ReflTransGen R a p ∧ ReflTransGen R c b := by
  induction hab with
  | refl => exact .inl .refl
  | tail _ hlast ih =>
      rcases h _ _ hlast with hR | ⟨rfl, rfl⟩
      · exact ih.imp (·.tail hR) fun hpc => ⟨hpc.1, hpc.2.tail hR⟩
      · exact .inr ⟨ih.elim id (·.1), .refl⟩

/-- A new edge closes no cycle when it does not end above its start. -/
theorem Acyclic.link {p c : α} (hR : Acyclic R) (hcp : ¬ReflTransGen R c p)
    (h : ∀ a b, S a b → R a b ∨ a = p ∧ b = c) : Acyclic S := by
  intro a ha
  obtain ⟨b, hab, hba⟩ := TransGen.tail'_iff.mp ha
  rcases h _ _ hba with hR' | ⟨rfl, rfl⟩
  · rcases reflTransGen_link h hab with hab | ⟨hap, hcb⟩
    · exact hR a (.tail' hab hR')
    · exact hcp ((hcb.tail hR').trans hap)
  · exact hcp ((reflTransGen_link h hab).elim id (·.2))

/-- What holds of a node whenever it holds of its children, one level down, holds at the number of the nodes. -/
theorem Acyclic.bounded (hR : Acyclic R) (s : Finset α) (hs : ∀ a b, R a b → b ∈ s) {P : Nat → α → Prop}
    (h : ∀ n a, (∀ b, R a b → P n b) → P (n + 1) a) : ∀ a ∈ s, P s.card a := by
  classical
  have hbelow : ∀ n a, a ∈ s → {b ∈ s | ReflTransGen R a b}.card ≤ n → P n a := by
    intro n
    induction n with
    | zero =>
        intro a ha hcard
        have hempty := Finset.card_eq_zero.mp (Nat.le_zero.mp hcard)
        exact absurd (Finset.mem_filter.mpr ⟨ha, .refl⟩) (hempty ▸ Finset.notMem_empty a)
    | succ n ih =>
        intro a ha hcard
        refine h n a fun b hab => ih b (hs a b hab) (Nat.le_of_lt_succ (Nat.lt_of_lt_of_le ?_ hcard))
        -- The nodes below the child are below the node, which is not one of them.
        refine Finset.card_lt_card (Finset.ssubset_iff_of_subset ?_ |>.mpr ⟨a, ?_, ?_⟩)
        · intro x hx
          exact Finset.mem_filter.mpr ⟨(Finset.mem_filter.mp hx).1, (Finset.mem_filter.mp hx).2.head hab⟩
        · exact Finset.mem_filter.mpr ⟨ha, .refl⟩
        · exact fun hx => hR a (.head' hab (Finset.mem_filter.mp hx).2)
  exact fun a ha => hbelow s.card a ha (Finset.card_le_card (Finset.filter_subset _ _))

/-! ## Occurrences -/

/-- A node, and the nodes below it to a depth of `n`. -/
def preorder (children : α → List α) : Nat → α → List α
  | 0, _ => []
  | n + 1, a => a :: (children a).flatMap (preorder children n)

variable {children : α → List α}

theorem mem_preorder {n : Nat} {a x : α} (h : x ∈ preorder children n a) :
    ReflTransGen (fun a b => b ∈ children a) a x := by
  induction n generalizing a with
  | zero => cases h
  | succ n ih =>
      rcases List.mem_cons.mp h with rfl | hx
      · exact .refl
      · obtain ⟨b, hb, hx⟩ := List.mem_flatMap.mp hx
        exact (ih hx).head hb

/-- The nodes above a node are above each other. -/
theorem siblings_disjoint (hR : Acyclic R) (hone : ∀ a b c, R a c → R b c → a = b) {p c d x : α} (hc : R p c)
    (hd : R p d) (hne : c ≠ d) (hcx : ReflTransGen R c x) : ¬ReflTransGen R d x := by
  -- A child that is above its sibling is above their parent.
  have hsibling : ∀ c d, R p c → R p d → c ≠ d → ¬ReflTransGen R c d := by
    intro c d hc hd hne hcd
    rcases hcd.cases_tail with rfl | ⟨b, hcb, hbd⟩
    · exact hne rfl
    · exact hR p (.head' hc (hone b p d hbd hd ▸ hcb))
  intro hdx
  have hright : Relator.RightUnique (Function.swap R) := fun a b c hb hc => hone b c a hb hc
  rcases ReflTransGen.total_of_right_unique hright (reflTransGen_swap.mpr hcx) (reflTransGen_swap.mpr hdx) with h | h
  · exact hsibling d c hd hc hne.symm (reflTransGen_swap.mp h)
  · exact hsibling c d hc hd hne (reflTransGen_swap.mp h)

theorem preorder_nodup (hR : Acyclic fun a b => b ∈ children a)
    (hone : ∀ a b c, c ∈ children a → c ∈ children b → a = b) (hchildren : ∀ a, (children a).Nodup) (n : Nat) (a : α) :
    (preorder children n a).Nodup := by
  induction n generalizing a with
  | zero => exact .nil
  | succ n ih =>
      refine List.nodup_cons.mpr ⟨fun ha => ?_, List.nodup_flatMap.mpr ⟨fun b _ => ih b, ?_⟩⟩
      · obtain ⟨b, hb, hab⟩ := List.mem_flatMap.mp ha
        exact hR a (.head' hb (mem_preorder hab))
      · refine (hchildren a).imp_of_mem ?_
        intro c d hc hd hne x hxc hxd
        exact siblings_disjoint hR hone hc hd hne (mem_preorder hxc) (mem_preorder hxd)

end FreeRtosTsn.Lib
