import Mathlib.Algebra.BigOperators.Group.List.Basic
import Mathlib.Data.Nat.Bitwise

/-!
# Pacing by an eligible time

A regulator keeps the time from which the next job may start. A job that starts at `t` moves this time on by its
cost, after a clamp that forgets all but `D` of the time the regulator was idle. In any window the jobs cost at
most the window, the credit `D` and one job.
-/

namespace FreeRtosTsn.Lib

/-- A job: when it started, and what it cost. -/
structure Job where
  start : Nat
  cost : Nat
  deriving DecidableEq, Repr

def totalCost (jobs : List Job) : Nat := (jobs.map Job.cost).sum

@[simp] theorem totalCost_nil : totalCost [] = 0 := rfl

@[simp] theorem totalCost_append (as bs : List Job) : totalCost (as ++ bs) = totalCost as + totalCost bs := by
  simp [totalCost]

@[simp] theorem totalCost_singleton (t c : Nat) : totalCost [⟨t, c⟩] = c := by simp [totalCost]

/-- The jobs that started from `t` on. -/
def since (t : Nat) (jobs : List Job) : List Job := jobs.filter fun j => t ≤ j.start

/-- The jobs that started in the window from `t₁` to `t₂`. -/
def within (t₁ t₂ : Nat) (jobs : List Job) : List Job := jobs.filter fun j => t₁ ≤ j.start ∧ j.start ≤ t₂

/-- The runs of a regulator with credit `D`: the time of eligibility, the last start, and the jobs so far. -/
inductive Paced (D : Nat) : Nat → Nat → List Job → Prop
  | idle {eligible last : Nat} : Paced D eligible last []
  | run {eligible last t cost : Nat} {jobs : List Job} : Paced D eligible last jobs → last ≤ t → eligible ≤ t →
      Paced D (max eligible (t - D) + cost) t (jobs ++ [⟨t, cost⟩])

namespace Paced

variable {D eligible last : Nat} {jobs : List Job}

theorem start_le (h : Paced D eligible last jobs) : ∀ j ∈ jobs, j.start ≤ last := by
  induction h with
  | idle => simp
  | run _ hlast _ ih =>
      intro j hj
      rcases List.mem_append.mp hj with hj | hj
      · exact Nat.le_trans (ih j hj) hlast
      · exact Nat.le_of_eq (by rw [List.mem_singleton.mp hj])

/-- The jobs since `t₁` moved the time of eligibility on by their cost, but for the credit. -/
theorem since_le (h : Paced D eligible last jobs) {t₁ : Nat} (hne : since t₁ jobs ≠ []) :
    t₁ + totalCost (since t₁ jobs) ≤ eligible + D := by
  induction h with
  | idle => exact absurd rfl hne
  | @run eligible last t cost jobs h hlast hle ih =>
      by_cases ht : t₁ ≤ t
      · have hlog : since t₁ (jobs ++ [⟨t, cost⟩]) = since t₁ jobs ++ [⟨t, cost⟩] := by simp [since, ht]
        rw [hlog, totalCost_append, totalCost_singleton]
        by_cases hold : since t₁ jobs = []
        · rw [hold, totalCost_nil]
          omega
        · have hold := ih hold
          omega
      · -- No job started since `t₁`.
        refine absurd (List.filter_eq_nil_iff.mpr fun j hj => ?_) hne
        have hrun : Paced D _ t (jobs ++ [⟨t, cost⟩]) := h.run hlast hle
        have hstart := hrun.start_le j hj
        simp only [decide_eq_true_eq]
        omega

/-- The jobs of a window when one more starts in it. -/
theorem within_run (h : Paced D eligible last jobs) {t₁ t₂ t cost : Nat} (hlast : last ≤ t) (hw : t₁ ≤ t ∧ t ≤ t₂) :
    within t₁ t₂ (jobs ++ [⟨t, cost⟩]) = since t₁ jobs ++ [⟨t, cost⟩] := by
  rw [within, List.filter_append, since]
  congr 1
  · refine List.filter_congr fun j hj => ?_
    have hstart := h.start_le j hj
    simp only [decide_eq_decide]
    omega
  · simp [hw]

/-- The jobs of a window but for the last one cost at most its length and the credit. -/
theorem within_dropLast_le (h : Paced D eligible last jobs) (t₁ t₂ : Nat) :
    totalCost (within t₁ t₂ jobs).dropLast ≤ t₂ - t₁ + D := by
  induction h with
  | idle => exact Nat.zero_le _
  | @run eligible last t cost jobs h hlast hle ih =>
      by_cases hw : t₁ ≤ t ∧ t ≤ t₂
      · rw [h.within_run hlast hw, List.dropLast_concat]
        by_cases hnil : since t₁ jobs = []
        · rw [hnil, totalCost_nil]
          exact Nat.zero_le _
        · have hsince := h.since_le hnil
          omega
      · have hlog : within t₁ t₂ (jobs ++ [⟨t, cost⟩]) = within t₁ t₂ jobs := by
          simp [within, hw]
        rw [hlog]
        exact ih

/-- The jobs of a window cost at most its length, the credit and one job. -/
theorem within_le (h : Paced D eligible last jobs) {c : Nat} (hc : ∀ j ∈ jobs, j.cost ≤ c) (t₁ t₂ : Nat) :
    totalCost (within t₁ t₂ jobs) ≤ t₂ - t₁ + D + c := by
  have hall := h.within_dropLast_le t₁ t₂
  rcases List.eq_nil_or_concat (within t₁ t₂ jobs) with hnil | ⟨js, j, hjs⟩
  · rw [hnil, totalCost_nil]
    exact Nat.zero_le _
  · have hj : j ∈ jobs := List.mem_of_mem_filter (p := fun j => t₁ ≤ j.start ∧ j.start ≤ t₂) (by
      rw [← within, hjs]
      simp)
    rw [hjs, List.concat_eq_append, List.dropLast_concat] at hall
    rw [hjs, List.concat_eq_append, totalCost_append, totalCost_singleton]
    exact Nat.add_le_add hall (hc j hj)

end Paced

/-! ## Polls -/

/-- An answer of the regulator: the cost of the job that it started, or that it is not ready. -/
structure Poll where
  time : Nat
  cost : Option Nat
  deriving DecidableEq, Repr

def startedJobs (polls : List Poll) : List Job := polls.filterMap fun p => p.cost.map (Job.mk p.time)

@[simp] theorem startedJobs_nil : startedJobs [] = [] := rfl

@[simp] theorem startedJobs_started (polls : List Poll) (t c : Nat) :
    startedJobs (polls ++ [⟨t, some c⟩]) = startedJobs polls ++ [⟨t, c⟩] := by simp [startedJobs]

@[simp] theorem startedJobs_refused (polls : List Poll) (t : Nat) :
    startedJobs (polls ++ [⟨t, none⟩]) = startedJobs polls := by simp [startedJobs]

/-- The largest cost of a job that started until `t`. -/
def largestCost (t : Nat) (jobs : List Job) : Nat := ((jobs.filter fun j => j.start ≤ t).map Job.cost).foldr max 0

theorem cost_le_largest {t : Nat} {jobs : List Job} {j : Job} (hj : j ∈ jobs) (ht : j.start ≤ t) :
    j.cost ≤ largestCost t jobs := by
  induction jobs with
  | nil => cases hj
  | cons i jobs ih =>
      by_cases hi : i.start ≤ t
      · have hmax : largestCost t (i :: jobs) = max i.cost (largestCost t jobs) := by simp [largestCost, hi]
        rw [hmax]
        rcases List.mem_cons.mp hj with rfl | hj
        · exact Nat.le_max_left _ _
        · exact (ih hj).trans (Nat.le_max_right _ _)
      · have hsame : largestCost t (i :: jobs) = largestCost t jobs := by simp [largestCost, hi]
        rw [hsame]
        rcases List.mem_cons.mp hj with rfl | hj
        · exact absurd ht hi
        · exact ih hj

/-- The runs of a regulator that is created at `t₀`: the time of eligibility, that of the last poll, and the polls. -/
inductive Polled (D t₀ : Nat) : Nat → Nat → List Poll → Prop
  | create : Polled D t₀ t₀ t₀ []
  | start {eligible last t cost : Nat} {polls : List Poll} : Polled D t₀ eligible last polls → last ≤ t →
      eligible ≤ t → Polled D t₀ (max eligible (t - D) + cost) t (polls ++ [⟨t, some cost⟩])
  | refuse {eligible last t : Nat} {polls : List Poll} : Polled D t₀ eligible last polls → last ≤ t →
      t < eligible → Polled D t₀ eligible t (polls ++ [⟨t, none⟩])

/-- Every tick from `t₁` on until `t₂` and before `t` was polled until the regulator was not ready. -/
def PolledOut (t₁ t₂ t : Nat) (polls : List Poll) : Prop :=
  ∀ s, t₁ ≤ s → s ≤ t₂ → s < t → ⟨s, none⟩ ∈ polls

namespace Polled

variable {D t₀ eligible last : Nat} {polls : List Poll}

theorem paced (h : Polled D t₀ eligible last polls) : ∃ last' ≤ last, Paced D eligible last' (startedJobs polls) := by
  induction h with
  | create => exact ⟨0, Nat.zero_le _, .idle⟩
  | @start _ last t _ _ _ hlast hle ih =>
      obtain ⟨last', hlast', hp⟩ := ih
      rw [startedJobs_started]
      exact ⟨t, Nat.le_refl _, hp.run (hlast'.trans hlast) hle⟩
  | refuse _ hlast _ ih =>
      obtain ⟨last', hlast', hp⟩ := ih
      rw [startedJobs_refused]
      exact ⟨last', hlast'.trans hlast, hp⟩

theorem start_le (h : Polled D t₀ eligible last polls) : ∀ j ∈ startedJobs polls, j.start ≤ last := by
  obtain ⟨last', hle, hp⟩ := h.paced
  exact fun j hj => (hp.start_le j hj).trans hle

/-- The time of eligibility stays after every refusal. -/
theorem lt_eligible (h : Polled D t₀ eligible last polls) : ∀ t, ⟨t, none⟩ ∈ polls → t < eligible := by
  induction h with
  | create => intro t ht; cases ht
  | start h _ _ ih =>
      intro t ht
      have hold := ih t (by simpa using ht)
      omega
  | @refuse _ _ t' polls h _ hlt ih =>
      intro t ht
      rcases List.mem_append.mp ht with ht | ht
      · exact ih t ht
      · cases List.mem_singleton.mp ht
        exact hlt

theorem polledOut_of_append {t₁ t₂ t : Nat} {p : Poll} (hlast : last ≤ p.time)
    (h : PolledOut t₁ t₂ t (polls ++ [p])) (ht : last ≤ t) : PolledOut t₁ t₂ last polls := by
  intro s h₁ h₂ hs
  rcases List.mem_append.mp (h s h₁ h₂ (hs.trans_le ht)) with hmem | hmem
  · exact hmem
  · rw [← List.mem_singleton.mp hmem] at hlast
    exact absurd hs (Nat.not_lt.mpr hlast)

/-- While it is polled out from `t₁` on, the regulator is ahead of `t₁` by no more than its jobs and one more. -/
theorem eligible_le (h : Polled D t₀ eligible last polls) {t₁ t₂ c : Nat} (ht₀ : t₀ ≤ t₁)
    (hc : ∀ j ∈ startedJobs polls, j.start ≤ t₂ → j.cost ≤ c) (hout : PolledOut t₁ t₂ last polls) (hlast : last ≤ t₂) :
    eligible ≤ t₁ + c + totalCost (since t₁ (startedJobs polls)) := by
  induction h with
  | create => omega
  | @start eligible last t cost polls h hle hready ih =>
      rw [startedJobs_started] at hc ⊢
      have hcost : cost ≤ c := hc ⟨t, cost⟩ (by simp) hlast
      by_cases ht : t₁ ≤ t
      · have hsince : since t₁ (startedJobs polls ++ [⟨t, cost⟩]) = since t₁ (startedJobs polls) ++ [⟨t, cost⟩] := by
          simp [since, ht]
        rw [hsince, totalCost_append, totalCost_singleton]
        have hold := ih (fun j hj => hc j (List.mem_append_left _ hj)) (polledOut_of_append hle hout hle) (hle.trans hlast)
        -- After `t₁` the clamp is idle: the tick before was polled out.
        have hclamp : t - D ≤ max eligible t₁ := by
          by_cases heq : t = t₁
          · omega
          · have hbefore := hout (t - 1) (by omega) (by omega) (by omega)
            have hlt := h.lt_eligible (t - 1) (by simpa using hbefore)
            omega
        omega
      · omega
  | @refuse eligible last t polls h hle hlt ih =>
      rw [startedJobs_refused] at hc ⊢
      exact ih hc (polledOut_of_append hle hout hle) (hle.trans hlast)

theorem within_append_le (t₁ t₂ : Nat) (jobs js : List Job) :
    totalCost (within t₁ t₂ jobs) ≤ totalCost (within t₁ t₂ (jobs ++ js)) := by
  have happ : within t₁ t₂ (jobs ++ js) = within t₁ t₂ jobs ++ within t₁ t₂ js := List.filter_append _ _
  rw [happ, totalCost_append]
  exact Nat.le_add_right _ _

/-- In a window that is polled out the jobs cost its length but for one job. -/
theorem le_within (h : Polled D t₀ eligible last polls) {t₁ t₂ c : Nat} (ht₀ : t₀ ≤ t₁)
    (hc : ∀ j ∈ startedJobs polls, j.start ≤ t₂ → j.cost ≤ c) (hout : PolledOut t₁ t₂ last polls)
    (hlast : ⟨t₂, none⟩ ∈ polls) : t₂ < t₁ + c + totalCost (within t₁ t₂ (startedJobs polls)) := by
  induction h with
  | create => cases hlast
  | @start eligible last t cost polls h hle hready ih =>
      rw [startedJobs_started] at hc ⊢
      exact (ih (fun j hj => hc j (List.mem_append_left _ hj)) (polledOut_of_append hle hout hle)
        (by simpa using hlast)).trans_le (Nat.add_le_add_left (within_append_le ..) _)
  | @refuse eligible last t polls h hle hlt ih =>
      rw [startedJobs_refused] at hc ⊢
      have hout' := polledOut_of_append hle hout hle
      rcases List.mem_append.mp hlast with hmem | hmem
      · exact ih hc hout' hmem
      · cases List.mem_singleton.mp hmem
        have heligible := h.eligible_le ht₀ hc hout' hle
        -- All jobs so far started before `t₂`.
        have hall : within t₁ t₂ (startedJobs polls) = since t₁ (startedJobs polls) := by
          rw [within, since]
          refine List.filter_congr fun j hj => ?_
          have hstart := (h.start_le j hj).trans hle
          simp only [hstart, and_true]
        rw [hall]
        omega

end Polled

end FreeRtosTsn.Lib
