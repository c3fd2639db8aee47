import Mathlib.Data.List.Sort
import Mathlib.Logic.Function.Iterate
import Mathlib.Tactic.Common

/-!
# Queues that are worked off in batches

Each pass takes the first elements of a queue, as many as there are up to a limit, and removes those
that it can deal with. The others are stuck: they stay where they are, and are taken by the next pass
again. What stands ahead of an element is then a queue of its own, and the element is taken by the
first pass that finds fewer elements ahead of it than the limit.

* `filter_eq_pass`: a pass removes its elements by their keys;
* `exists_short_iff`: a pass finds few enough elements ahead exactly if few enough of them are stuck.
-/

namespace Foundations.Batch

variable {α : Type*} (limit : ℕ) (stuck : α → Bool)

/-- What a pass leaves of a queue. -/
def pass (queue : List α) : List α := (queue.take limit).filter stuck ++ queue.drop limit

variable {limit stuck} {queue : List α}

/-- What is stuck stays in the queue. -/
theorem countP_pass : (pass limit stuck queue).countP stuck = queue.countP stuck := by
  have hall : (queue.take limit).countP stuck + (queue.drop limit).countP stuck =
      queue.countP stuck := by
    rw [← List.countP_append, List.take_append_drop]
  rw [pass, List.countP_append, List.countP_filter, ← hall]
  simp

theorem countP_iterate_pass (k : ℕ) :
    ((pass limit stuck)^[k] queue).countP stuck = queue.countP stuck := by
  induction k with
  | zero => rfl
  | succ k ih => rw [Function.iterate_succ_apply', countP_pass, ih]

/-- A pass removes an element if it finds as many as it can take, and not all of them are stuck. -/
theorem length_pass_lt (hfull : limit ≤ queue.length) (hstuck : queue.countP stuck < limit) :
    (pass limit stuck queue).length < queue.length := by
  have htake : (queue.take limit).length = limit := by
    rw [List.length_take, min_eq_left hfull]
  have hfew : ((queue.take limit).filter stuck).length < limit := by
    rw [← List.countP_eq_length_filter]
    exact ((List.take_sublist limit queue).countP_le).trans_lt hstuck
  rw [pass, List.length_append, List.length_drop]
  omega

/-- **A pass removes its elements by their keys**, and no two elements have the same key. -/
theorem filter_eq_pass {β : Type*} [DecidableEq β] {key : α → β} {rest : List α}
    (hkeys : ((queue ++ rest).map key).Nodup) :
    (queue ++ rest).filter (fun x => (queue.take limit).all fun y =>
      stuck y || decide (key x ≠ key y)) = pass limit stuck queue ++ rest := by
  have hsplit : queue ++ rest = queue.take limit ++ (queue.drop limit ++ rest) := by
    rw [← List.append_assoc, List.take_append_drop]
  rw [hsplit, List.map_append] at hkeys
  -- an element that was taken has the key of no other element that was
  have htaken : ∀ x ∈ queue.take limit, ((queue.take limit).all fun y =>
      stuck y || decide (key x ≠ key y)) = stuck x := by
    intro x hx
    have hiff : (∀ y ∈ queue.take limit, stuck y = true ∨ key x ≠ key y) ↔ stuck x = true := by
      refine ⟨fun h => (h x hx).resolve_right (not_not_intro rfl), fun h y hy => ?_⟩
      by_cases hkey : key x = key y
      · exact .inl (List.inj_on_of_nodup_map hkeys.of_append_left hx hy hkey ▸ h)
      · exact .inr hkey
    rw [Bool.eq_iff_iff, ← hiff]
    simp
  have hleft : ∀ x ∈ queue.drop limit ++ rest, ((queue.take limit).all fun y =>
      stuck y || decide (key x ≠ key y)) = true := by
    intro x hx
    have hne : ∀ y ∈ queue.take limit, key x ≠ key y := fun y hy hkey =>
      List.disjoint_of_nodup_append hkeys (List.mem_map_of_mem hy) (hkey ▸ List.mem_map_of_mem hx)
    simp only [List.all_eq_true, Bool.or_eq_true, decide_eq_true_eq]
    exact fun y hy => .inr (hne y hy)
  rw [hsplit, List.filter_append, List.filter_congr htaken, List.filter_eq_self.2 hleft, pass,
    List.append_assoc]

/-- **Whether a pass finds few enough elements ahead.** -/
theorem exists_short_iff (queue : List α) :
    (∃ k, ((pass limit stuck)^[k] queue).length < limit) ↔ queue.countP stuck < limit := by
  constructor
  · rintro ⟨k, hk⟩
    rw [← countP_iterate_pass k]
    exact List.countP_le_length.trans_lt hk
  · intro hstuck
    induction hn : queue.length using Nat.strong_induction_on generalizing queue with
    | _ n ih =>
      rcases Nat.lt_or_ge queue.length limit with hshort | hfull
      · exact ⟨0, hshort⟩
      · have hlt := length_pass_lt hfull hstuck
        obtain ⟨k, hk⟩ := ih _ (hn ▸ hlt) _ (countP_pass.trans_lt hstuck) rfl
        exact ⟨k + 1, hk⟩

end Foundations.Batch
