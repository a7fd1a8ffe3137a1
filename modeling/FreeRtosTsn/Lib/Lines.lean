import FreeRtosTsn.Lib.Places

/-!
# Things that pass from line to line

A place holds a list of things, and has a rank. In a line the things leave at the front and come at the back. When
things only go to places of higher rank, two things of a line keep their order in the lines of the next rank.
-/

namespace FreeRtosTsn.Lib

variable {ι α : Type} {l l' : ι → List α} {a b c : α} {i j : ι}

/-! ## One thing -/

/-- It comes to one place, and last if that is a line. -/
structure Joins (line : ι → Prop) (a : α) (i : ι) (l l' : ι → List α) : Prop where
  perm : (l' i).Perm (a :: l i)
  last : line i → l' i = l i ++ [a]
  others : ∀ j, j ≠ i → l' j = l j

/-- It goes from one place, and was first if that is a line. -/
structure Leaves (line : ι → Prop) (a : α) (i : ι) (l l' : ι → List α) : Prop where
  perm : (l i).Perm (a :: l' i)
  first : line i → l i = a :: l' i
  others : ∀ j, j ≠ i → l' j = l j

variable {line : ι → Prop}

theorem Joins.of_append (h : l' i = l i ++ [a]) (hothers : ∀ j, j ≠ i → l' j = l j) : Joins line a i l l' :=
  ⟨h ▸ List.perm_append_singleton a (l i), fun _ => h, hothers⟩

theorem Leaves.of_cons (h : l i = a :: l' i) (hothers : ∀ j, j ≠ i → l' j = l j) : Leaves line a i l l' :=
  ⟨h ▸ .refl _, fun _ => h, hothers⟩

section Append

variable {m : ι → List α} (hm : ∀ j, line j → m j = [])

include hm

/-- What else is there stays. -/
theorem Joins.append (h : Joins line a i l l') : Joins line a i (fun j => l j ++ m j) fun j => l' j ++ m j where
  perm := h.perm.append_right (m i)
  last hi := by simp [hm i hi, h.last hi]
  others j hj := by rw [h.others j hj]

theorem Leaves.append (h : Leaves line a i l l') : Leaves line a i (fun j => l j ++ m j) fun j => l' j ++ m j where
  perm := h.perm.append_right (m i)
  first hi := by simp [hm i hi, h.first hi]
  others j hj := by rw [h.others j hj]

end Append

/-- What is there before stays. -/
theorem Joins.prepend (h : Joins line a i l l') (m : ι → List α) :
    Joins line a i (fun j => m j ++ l j) fun j => m j ++ l' j where
  perm := (h.perm.append_left (m i)).trans List.perm_middle
  last hi := by simp [h.last hi]
  others j hj := by rw [h.others j hj]

theorem Leaves.prepend (h : Leaves line a i l l') {m : ι → List α} (hm : m i = []) :
    Leaves line a i (fun j => m j ++ l j) fun j => m j ++ l' j where
  perm := by simpa [hm] using h.perm
  first hi := by simp [hm, h.first hi]
  others j hj := by rw [h.others j hj]

theorem Joins.mem (h : Joins line a i l l') : b ∈ l' j ↔ b ∈ l j ∨ b = a ∧ j = i := by
  by_cases hj : j = i
  · subst hj
    simp [h.perm.mem_iff, or_comm]
  · simp [h.others j hj, hj]

theorem Leaves.mem (h : Leaves line a i l l') : b ∈ l j ↔ b ∈ l' j ∨ b = a ∧ j = i := by
  by_cases hj : j = i
  · subst hj
    simp [h.perm.mem_iff, or_comm]
  · simp [h.others j hj, hj]

section Count

variable [DecidableEq α]

theorem Joins.added (h : Joins line a i l l') : Added i (fun j => (l j).count a) fun j => (l' j).count a :=
  ⟨by simp [h.perm.count_eq], fun j hj => by simp [h.others j hj]⟩

theorem Joins.count (h : Joins line a i l l') (hc : c ≠ a) (j : ι) : (l' j).count c = (l j).count c := by
  by_cases hj : j = i
  · subst hj
    simp [h.perm.count_eq, hc.symm]
  · rw [h.others j hj]

theorem Leaves.added (h : Leaves line a i l l') : Added i (fun j => (l' j).count a) fun j => (l j).count a :=
  ⟨by simp [h.perm.count_eq], fun j hj => by simp [h.others j hj]⟩

theorem Leaves.count (h : Leaves line a i l l') (hc : c ≠ a) (j : ι) : (l' j).count c = (l j).count c := by
  by_cases hj : j = i
  · subst hj
    simp [h.perm.count_eq, hc.symm]
  · rw [h.others j hj]

end Count

/-- No thing is at two places, or twice at one. -/
structure Separate (l : ι → List α) : Prop where
  nodup : ∀ i, (l i).Nodup
  unique : ∀ a i j, a ∈ l i → a ∈ l j → i = j

theorem Separate.of_count [DecidableEq α] (h : ∀ a, OnceOrNever fun i => (l i).count a) : Separate l where
  nodup i := by
    refine List.nodup_iff_count_le_one.mpr fun a => ?_
    rcases h a with ⟨j, hj, hother⟩ | hnone
    · by_cases hij : i = j
      · exact hij ▸ Nat.le_of_eq hj
      · exact Nat.le_succ_of_le (Nat.le_of_eq (hother i hij))
    · exact Nat.le_succ_of_le (Nat.le_of_eq (hnone i))
  unique a i j hi hj := by
    rcases h a with ⟨k, -, hother⟩ | hnone
    · have hk : ∀ m, a ∈ l m → m = k := by
        intro m hm
        by_contra hmk
        exact List.count_eq_zero.mp (hother m hmk) hm
      rw [hk i hi, hk j hj]
    · exact absurd hi (List.count_eq_zero.mp (hnone i))

/-! ## A step -/

variable {rank : ι → Nat} {new : α → Prop}

/-- What one step does with the things. -/
inductive Move (line : ι → Prop) (rank : ι → Nat) (new : α → Prop) (l l' : ι → List α) : Prop
  | stays : (∀ i, l' i = l i) → Move line rank new l l'
  | comes {a : α} {i : ι} : new a → Joins line a i l l' → Move line rank new l l'
  | passes {a : α} {i j : ι} {m : ι → List α} :
      rank i < rank j → Leaves line a i l m → Joins line a j m l' → Move line rank new l l'
  /-- All things of one place go to one that is no line. -/
  | emptied {i j : ι} : rank i < rank j → ¬line j → l' i = [] → (l' j).Perm (l j ++ l i) →
      (∀ k, k ≠ i → k ≠ j → l' k = l k) → Move line rank new l l'

theorem Move.mono {new' : α → Prop} (hnew : ∀ a, new a → new' a) (h : Move line rank new l l') :
    Move line rank new' l l' := by
  cases h with
  | stays h => exact .stays h
  | comes ha h => exact .comes (hnew _ ha) h
  | passes hrank hleaves hjoins => exact .passes hrank hleaves hjoins
  | emptied hrank hline hi hj hothers => exact .emptied hrank hline hi hj hothers

/-- Every thing stays, is passed on, or is new. -/
theorem Move.counts [DecidableEq ι] [Inhabited ι] [DecidableEq α] (h : Move line rank new l l') (c : α) :
    Passed (fun k => (l k).count c) (fun k => (l' k).count c) ∨
      new c ∧ ∃ i, Added i (fun k => (l k).count c) fun k => (l' k).count c := by
  have hne {i j : ι} (hrank : rank i < rank j) : i ≠ j := by
    rintro rfl
    exact absurd hrank (Nat.lt_irrefl _)
  cases h with
  | stays h => exact .inl (.of_eq default fun k => by rw [h k])
  | @comes a i hnew hjoins =>
      by_cases hc : c = a
      · subst hc
        exact .inr ⟨hnew, i, hjoins.added⟩
      · exact .inl (.of_eq i fun k => hjoins.count hc k)
  | @passes a i j m hrank hleaves hjoins =>
      by_cases hc : c = a
      · subst hc
        exact .inl (hleaves.added.passed hjoins.added)
      · exact .inl (.of_eq i fun k => (hjoins.count hc k).trans (hleaves.count hc k))
  | emptied hrank hline hi hj hothers =>
      refine .inl (.emptied (hne hrank) (by simp [hi]) (by simp [hj.count_eq]) fun k hki hkj => ?_)
      rw [hothers k hki hkj]

/-- No thing goes, things move to places of higher rank, and in a line first in is first out. -/
structure Flows (line : ι → Prop) (rank : ι → Nat) (l l' : ι → List α) : Prop where
  stays : ∀ a i, a ∈ l i → ∃ j, a ∈ l' j
  up : ∀ a i, a ∈ l' i → a ∈ l i ∨ ∀ j, a ∈ l j → rank j < rank i
  fifo : ∀ i, line i →
    ∃ gone kept, ∃ new : Option α, l i = gone ++ kept ∧ l' i = kept ++ new.toList ∧ ∀ a ∈ new, a ∉ l i

theorem Move.flows (h : Move line rank new l l') (hsep : Separate l) (hnew : ∀ a, new a → ∀ i, a ∉ l i) :
    Flows line rank l l' := by
  cases h with
  | stays h =>
      exact ⟨fun a i ha => ⟨i, (h i).symm ▸ ha⟩, fun a i ha => .inl (h i ▸ ha), fun i _ => ⟨[], l i, none, by simp [h]⟩⟩
  | @comes a i hcomes hjoins =>
      refine ⟨fun b k hb => ⟨k, hjoins.mem.mpr (.inl hb)⟩, fun b k hb => ?_, fun k hk => ?_⟩
      · refine (hjoins.mem.mp hb).imp_right ?_
        rintro ⟨rfl, rfl⟩ j hj
        exact absurd hj (hnew b hcomes j)
      · by_cases hki : k = i
        · subst hki
          exact ⟨[], l k, some a, rfl, hjoins.last hk, by simpa using hnew a hcomes k⟩
        · exact ⟨[], l k, none, by simp [hjoins.others k hki]⟩
  | @passes a i j m hrank hleaves hjoins =>
      have ha : a ∈ l i := hleaves.mem.mpr (.inr ⟨rfl, rfl⟩)
      have hij : i ≠ j := fun h => absurd hrank (h ▸ Nat.lt_irrefl _)
      refine ⟨fun b k hb => ?_, fun b k hb => ?_, fun k hk => ?_⟩
      · rcases hleaves.mem.mp hb with hb | ⟨rfl, -⟩
        · exact ⟨k, hjoins.mem.mpr (.inl hb)⟩
        · exact ⟨j, hjoins.mem.mpr (.inr ⟨rfl, rfl⟩)⟩
      · refine (hjoins.mem.mp hb).imp (fun hb => hleaves.mem.mpr (.inl hb)) ?_
        rintro ⟨rfl, rfl⟩ p hp
        rwa [hsep.unique b p i hp ha]
      · by_cases hki : k = i
        · subst hki
          exact ⟨[a], m k, none, hleaves.first hk, by simp [hjoins.others k hij], by simp⟩
        · have hm := hleaves.others k hki
          by_cases hkj : k = j
          · subst hkj
            refine ⟨[], l k, some a, rfl, hm ▸ hjoins.last hk, ?_⟩
            simpa using fun hak => hij (hsep.unique a i k ha hak)
          · exact ⟨[], l k, none, by simp [hjoins.others k hkj, hm]⟩
  | @emptied i j hrank hline hi hj hothers =>
      have hij : i ≠ j := fun h => absurd hrank (h ▸ Nat.lt_irrefl _)
      have hmem : ∀ b, b ∈ l' j ↔ b ∈ l j ∨ b ∈ l i := fun b => by simp [hj.mem_iff]
      refine ⟨fun b k hb => ?_, fun b k hb => ?_, fun k hk => ?_⟩
      · by_cases hki : k = i
        · exact ⟨j, (hmem b).mpr (.inr (hki ▸ hb))⟩
        · by_cases hkj : k = j
          · exact ⟨j, (hmem b).mpr (.inl (hkj ▸ hb))⟩
          · exact ⟨k, (hothers k hki hkj).symm ▸ hb⟩
      · by_cases hki : k = i
        · rw [hki, hi] at hb
          exact absurd hb List.not_mem_nil
        · by_cases hkj : k = j
          · subst hkj
            refine ((hmem b).mp hb).imp_right fun hbi p hp => ?_
            rwa [hsep.unique b p i hp hbi]
          · exact .inl (hothers k hki hkj ▸ hb)
      · by_cases hki : k = i
        · subst hki
          exact ⟨l k, [], none, by simp [hi]⟩
        · have hkj : k ≠ j := fun h => hline (h ▸ hk)
          exact ⟨[], l k, none, by simp [hothers k hki hkj]⟩

/-! ## How far a thing has come -/

/-- It is somewhere, and nowhere below the rank. -/
structure Beyond (rank : ι → Nat) (r : Nat) (a : α) (l : ι → List α) : Prop where
  somewhere : ∃ i, a ∈ l i
  rank_le : ∀ i, a ∈ l i → r ≤ rank i

theorem Beyond.flows {r : Nat} (h : Beyond rank r a l) (hf : Flows line rank l l') : Beyond rank r a l' := by
  obtain ⟨j, hj⟩ := h.somewhere
  refine ⟨hf.stays a j hj, fun i hi => ?_⟩
  rcases hf.up a i hi with hold | hup
  · exact h.rank_le i hold
  · exact Nat.le_trans (h.rank_le j hj) (Nat.le_of_lt (hup j hj))

/-- What comes to a place has been below it. -/
theorem Beyond.old (h : Beyond rank (rank i) a l) (hf : Flows line rank l l') (ha : a ∈ l' i) : a ∈ l i := by
  obtain ⟨j, hj⟩ := h.somewhere
  rcases hf.up a i ha with hold | hup
  · exact hold
  · exact absurd (hup j hj) (Nat.not_lt.mpr (h.rank_le j hj))

theorem Flows.beyond (hf : Flows line rank l l') (hsep : Separate l) (ha : a ∈ l i) (hgone : a ∉ l' i) :
    Beyond rank (rank i + 1) a l' := by
  refine ⟨hf.stays a i ha, fun j hj => ?_⟩
  rcases hf.up a j hj with hold | hup
  · rw [hsep.unique a j i hold ha] at hj
    exact absurd hj hgone
  · exact hup i ha

/-! ## Two things in a line -/

theorem sublist_of_not_mem {gone kept : List α} (h : [b, c].Sublist (gone ++ kept)) (hb : b ∉ gone) :
    [b, c].Sublist kept := by
  induction gone with
  | nil => exact h
  | cons x gone ih =>
      rw [List.mem_cons, not_or] at hb
      cases h with
      | cons _ h => exact ih h hb.2
      | cons_cons _ h => exact absurd rfl hb.1

/-- While the first is in the line, the second is behind it. -/
theorem Flows.sublist (hf : Flows line rank l l') (hsep : Separate l) (hi : line i) (h : [b, c].Sublist (l i))
    (hb : b ∈ l' i) : [b, c].Sublist (l' i) := by
  obtain ⟨gone, kept, new, hold, hnew, hfresh⟩ := hf.fifo i hi
  have hmem : b ∈ l i := h.subset List.mem_cons_self
  have hkept : b ∈ kept := by
    rw [hnew, List.mem_append] at hb
    exact hb.resolve_right fun hb => hfresh b (Option.mem_toList.mp hb) hmem
  have hnodup := hsep.nodup i
  rw [hold] at h hnodup
  rw [hnew]
  exact (sublist_of_not_mem h fun hgone => List.disjoint_of_nodup_append hnodup hgone hkept).trans
    (List.sublist_append_left kept new.toList)

/-- What comes to a line comes last, and alone. -/
theorem Flows.arrives (hf : Flows line rank l l') (hi : line i) (hc : c ∈ l' i) (hnew : c ∉ l i) (hbc : b ≠ c)
    (hb : b ∈ l' i) : b ∈ l i ∧ [b, c].Sublist (l' i) := by
  obtain ⟨gone, kept, new, hold, hl', -⟩ := hf.fifo i hi
  rw [hold, List.mem_append, not_or] at hnew
  rw [hl', List.mem_append, Option.mem_toList] at hb hc
  have hlast : new = some c := hc.resolve_left hnew.2
  have hkept : b ∈ kept := hb.resolve_right fun hb => hbc (Option.mem_unique hb hlast)
  rw [hold, hl', hlast]
  exact ⟨List.mem_append_right gone hkept, (List.singleton_sublist.mpr hkept).append (.refl [c])⟩

/-- The first has come so far, and while it is in the line the second is behind it. -/
structure Ahead (rank : ι → Nat) (i : ι) (b c : α) (l : ι → List α) : Prop where
  beyond : Beyond rank (rank i) b l
  sublist : b ∈ l i → [b, c].Sublist (l i)

theorem Ahead.flows (h : Ahead rank i b c l) (hf : Flows line rank l l') (hsep : Separate l) (hi : line i) :
    Ahead rank i b c l' where
  beyond := h.beyond.flows hf
  sublist hb := hf.sublist hsep hi (h.sublist (h.beyond.old hf hb)) hb

/-- How far the two have come, from the line `i` to the line `j`. -/
inductive InOrder (rank : ι → Nat) (i j : ι) (b c : α) (l : ι → List α) : Prop
  | both : [b, c].Sublist (l i) → InOrder rank i j b c l
  | second : c ∈ l i → Beyond rank (rank j) b l → InOrder rank i j b c l
  | passed : Beyond rank (rank j) c l → (c ∈ l j → Ahead rank j b c l) → InOrder rank i j b c l

theorem InOrder.flows (h : InOrder rank i j b c l) (hf : Flows line rank l l') (hsep : Separate l) (hi : line i)
    (hj : line j) (hij : rank j = rank i + 1) (hbc : b ≠ c) : InOrder rank i j b c l' := by
  have hne : i ≠ j := by
    rintro rfl
    omega
  cases h with
  | both h =>
      by_cases hb : b ∈ l' i
      · exact .both (hf.sublist hsep hi h hb)
      · have hbi : b ∈ l i := h.subset List.mem_cons_self
        have hci : c ∈ l i := h.subset (by simp)
        have hbeyond := hij ▸ hf.beyond hsep hbi hb
        by_cases hc : c ∈ l' i
        · exact .second hc hbeyond
        · refine .passed (hij ▸ hf.beyond hsep hci hc) fun hcj => ⟨hbeyond, fun hbj => ?_⟩
          have hnew : c ∉ l j := fun hcj => hne (hsep.unique c i j hci hcj)
          exact (hf.arrives hj hcj hnew hbc hbj).2
  | second hci hb =>
      by_cases hc : c ∈ l' i
      · exact .second hc (hb.flows hf)
      · refine .passed (hij ▸ hf.beyond hsep hci hc) fun hcj => ⟨hb.flows hf, fun hbj => ?_⟩
        have hnew : c ∉ l j := fun hcj => hne (hsep.unique c i j hci hcj)
        exact (hf.arrives hj hcj hnew hbc hbj).2
  | passed hc h =>
      exact .passed (hc.flows hf) fun hcj => (h (hc.old hf hcj)).flows hf hsep hj

/-- In the later line the second is behind the first. -/
theorem InOrder.ahead (h : InOrder rank i j b c l) (hsep : Separate l) (hne : i ≠ j) (hc : c ∈ l j) :
    Ahead rank j b c l := by
  cases h with
  | both h => exact absurd (hsep.unique c i j (h.subset (by simp)) hc) hne
  | second hci => exact absurd (hsep.unique c i j hci hc) hne
  | passed _ h => exact h hc

end FreeRtosTsn.Lib
