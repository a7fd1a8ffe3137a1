import FreeRtosTsn.Scheduler.Lemmas.Linking

/-!
# Main result on the calls that link
-/

namespace FreeRtosTsn.Scheduler.NodeBlock

open Kernel

/-- **Linking** keeps queues and children apart, and lets every child in, if and only if no call finds children under its
queue or a position that was cut off. -/
theorem links_lawful_iff {Q N : Type} {n : Nat} {pvPortMalloc : Nat → Bool} {node : NodeBlock Q N (uxSpaceRequired n)}
    (h : pxNetworkNodeCreate pvPortMalloc n = .ok (some node)) (calls : List (LinkCall Q N)) :
    LinkInvariant n calls node ↔ CallsFit n calls node := by
  obtain ⟨hcreated, hqueue, -⟩ := Created.of_create h
  have hex : node.Exclusive := by
    rintro ⟨hsome, -⟩
    rw [hqueue] at hsome
    cases hsome
  exact (and_iff_right hex).trans (callsLawful_iff calls hcreated hex)

/-- Two children, a third one that there is no slot for, and nothing else. -/
theorem links_lawful_children :
    LinkInvariant 2 [.child 'a' 0, .child 'b' 1, .child 'c' 2]
      (⟨2, none, Vector.replicate _ none⟩ : NodeBlock Nat Char (uxSpaceRequired 2)) :=
  (@links_lawful_iff Nat Char 2 (fun _ => true) _ rfl _).mpr (by
    refine ⟨by decide, fun _ _ h => ⟨?_, fun _ _ h' => ⟨?_, fun _ _ _ => trivial⟩⟩⟩
    · cases h
      decide
    · cases h
      cases h'
      decide)

/-- A queue is linked to a node that a child is linked to. -/
theorem queue_over_child :
    ¬LinkInvariant 1 [.child 'a' 0, .queue 0]
      (⟨1, none, Vector.replicate _ none⟩ : NodeBlock Nat Char (uxSpaceRequired 1)) := by
  rintro ⟨-, r, node, hrun, -, r', node', hrun', hlawful, -⟩
  cases hrun
  cases hrun'
  exact hlawful.exclusive (by decide)

end FreeRtosTsn.Scheduler.NodeBlock
