import Mathlib.Data.List.Basic

/-!
# Flows that are shared by their collectors

A flow passes on what is emitted to all collectors that it has at that time. It keeps a bounded buffer
for the slowest of them, and nothing for those that come later. An emission that does not wait is
refused when the buffer is full, and is lost when nobody collects.

* `SharedFlow.tryEmit`: an emission that does not wait;
* `SharedFlow.waiting_tryEmit`, `SharedFlow.waiting_take`: what waits for a collector after a step.
-/

namespace Foundations

universe u

variable {α : Type u} {capacity : ℕ}

/-- A flow without replay: what waits for each of its collectors, which is not more than the buffer
holds. -/
structure SharedFlow (α : Type u) (capacity : ℕ) where
  queues : List (List α)
  bounded : ∀ queue ∈ queues, queue.length ≤ capacity

namespace SharedFlow

/-- A flow that nobody collects. -/
def idle : SharedFlow α capacity := ⟨[], by simp⟩

variable (f : SharedFlow α capacity) (x : α) (i : ℕ)

/-- There is room for another value in the buffer. -/
def HasRoom : Prop := ∀ queue ∈ f.queues, queue.length < capacity

instance : Decidable f.HasRoom := inferInstanceAs (Decidable (∀ queue ∈ f.queues, _))

/-- A new collector, for which nothing waits. -/
def subscribe : SharedFlow α capacity where
  queues := f.queues ++ [[]]
  bounded := by
    intro queue hqueue
    rcases List.mem_append.1 hqueue with hold | hnew
    · exact f.bounded queue hold
    · obtain rfl := List.mem_singleton.1 hnew
      exact Nat.zero_le _

/-- Emit a value without waiting; the result says whether it was accepted. -/
def tryEmit : Bool × SharedFlow α capacity :=
  if h : f.HasRoom then
    (true,
      { queues := f.queues.map (· ++ [x])
        bounded := by
          intro queue hqueue
          obtain ⟨old, hold, rfl⟩ := List.mem_map.1 hqueue
          have hroom := h old hold
          rw [List.length_append, List.length_singleton]
          omega })
  else (false, f)

/-- What waits for a collector. -/
def waiting : List α := (f.queues[i]?).getD []

/-- The collector takes the value that has waited longest. -/
def take : Option (α × SharedFlow α capacity) :=
  match h : f.queues[i]? with
  | some (x :: queue) =>
    some (x,
      { queues := f.queues.set i queue
        bounded := by
          intro queue' hqueue'
          rcases List.mem_or_eq_of_mem_set hqueue' with hold | rfl
          · exact f.bounded queue' hold
          · have hbound := f.bounded _ (List.mem_of_getElem? h)
            rw [List.length_cons] at hbound
            omega })
  | _ => none

/-! ## What waits for a collector -/

variable {f x i}

theorem waiting_subscribe : f.subscribe.waiting i = f.waiting i := by
  rw [waiting, waiting, subscribe]
  rcases Nat.lt_trichotomy i f.queues.length with hlt | heq | hgt
  · rw [List.getElem?_append_left hlt]
  · rw [heq]
    simp
  · rw [List.getElem?_eq_none (Nat.le_of_lt hgt), List.getElem?_eq_none]
    rw [List.length_append, List.length_singleton]
    omega

/-- **A value that is accepted waits for every collector**, and any other one for none. -/
theorem waiting_tryEmit : (f.tryEmit x).2.waiting i =
    if f.HasRoom ∧ i < f.queues.length then f.waiting i ++ [x] else f.waiting i := by
  unfold tryEmit
  by_cases hroom : f.HasRoom
  · rw [dif_pos hroom]
    by_cases hi : i < f.queues.length
    · rw [if_pos ⟨hroom, hi⟩]
      simp [waiting, hi]
    · rw [if_neg fun h => hi h.2, waiting, waiting]
      simp [List.getElem?_eq_none (Nat.le_of_not_lt hi)]
  · rw [dif_neg hroom, if_neg fun h => hroom h.1]

/-- **What a collector takes has waited for it longest.** -/
theorem take_eq_some {g : SharedFlow α capacity} (h : f.take i = some (x, g)) :
    f.waiting i = x :: g.waiting i := by
  unfold take at h
  split at h
  · rename_i y queue hqueue
    obtain ⟨rfl, rfl⟩ := Prod.mk.inj (Option.some.inj h)
    obtain ⟨hlt, hget⟩ := List.getElem?_eq_some_iff.1 hqueue
    simp [waiting, hget, hlt]
  · cases h

/-- A collector takes nothing only if nothing waits for it. -/
theorem take_eq_none (h : f.take i = none) : f.waiting i = [] := by
  unfold take at h
  split at h
  · cases h
  · rename_i hnone
    rw [waiting]
    cases hqueue : f.queues[i]? with
    | none => rfl
    | some queue =>
      cases queue with
      | nil => rfl
      | cons y queue => exact absurd hqueue (hnone y queue)

end SharedFlow

end Foundations
