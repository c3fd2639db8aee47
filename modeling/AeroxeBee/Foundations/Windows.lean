import Mathlib.Data.List.Infix
import Mathlib.Data.Int.Order.Basic
import Mathlib.Tactic.SplitIfs

/-!
# Logs with times

A log of entries with the times at which they were made. Some of its entries are *hits*, and some
are *stops*, which begin a new count. `WindowBound` says that in every stretch of the log that spans
no more than a period and has no stop in it there are at most so many hits. `recent` is the longest
such stretch that ends now; `WindowBound.concat` is the rule by which a log keeps to its bound: a hit
is only made when there is room among the recent ones.
-/

namespace Foundations

universe u

variable {X : Type u}

/-- The entries of a log since the last stop, none of them older than a time, the newest first. -/
def recent (stop : X → Bool) (since : ℤ) (log : List (ℤ × X)) : List (ℤ × X) :=
  log.reverse.takeWhile fun x => since ≤ x.1 && !stop x.2

/-- Of the entries that are made within a period and without a stop, at most so many are hits. -/
def WindowBound (period bound : ℤ) (stop hit : X → Bool) (log : List (ℤ × X)) : Prop :=
  ∀ seg, seg <:+: log → (∀ x ∈ seg, ∀ y ∈ seg, y.1 - x.1 ≤ period) →
    (∀ x ∈ seg, stop x.2 = false) → (seg.countP fun x => hit x.2 : ℤ) ≤ bound

variable {stop hit : X → Bool} {since since' t : ℤ} {log seg : List (ℤ × X)} {x : X}

/-- The recent entries after one more. -/
theorem recent_concat : recent stop since (log ++ [(t, x)]) =
    if (decide (since ≤ t) && !stop x) = true then (t, x) :: recent stop since log else [] := by
  simp [recent, List.takeWhile_cons]

theorem recent_sublist : (recent stop since log).Sublist log.reverse :=
  (List.takeWhile_prefix _).sublist

/-- A condition that is met less often stops earlier. -/
theorem takeWhile_sublist_takeWhile {α : Type u} {p q : α → Bool} (h : ∀ a, q a = true → p a = true)
    (l : List α) : (l.takeWhile q).Sublist (l.takeWhile p) := by
  induction l with
  | nil => simp
  | cons a l ih =>
    by_cases hq : q a = true
    · rw [List.takeWhile_cons_of_pos hq, List.takeWhile_cons_of_pos (h a hq)]
      exact ih.cons_cons a
    · rw [List.takeWhile_cons_of_neg hq]
      exact List.nil_sublist _

/-- As time passes, entries cease to be recent. -/
theorem recent_antitone (h : since ≤ since') :
    (recent stop since' log).Sublist (recent stop since log) := by
  refine takeWhile_sublist_takeWhile (fun x hx => ?_) _
  simp only [Bool.and_eq_true, decide_eq_true_eq] at hx ⊢
  exact ⟨h.trans hx.1, hx.2⟩

/-- A stretch that ends now and has only recent entries. -/
theorem reverse_sublist_recent (hseg : seg <:+ log) (hsince : ∀ x ∈ seg, since ≤ x.1)
    (hstop : ∀ x ∈ seg, stop x.2 = false) : seg.reverse.Sublist (recent stop since log) := by
  obtain ⟨before, rfl⟩ := hseg
  have hall : ∀ x ∈ seg.reverse, (decide (since ≤ x.1) && !stop x.2) = true := by
    intro x hx
    have hmem := List.mem_reverse.1 hx
    simp [hsince x hmem, hstop x hmem]
  rw [recent, List.reverse_append, List.takeWhile_append_of_pos hall]
  exact List.sublist_append_left _ _

namespace WindowBound

variable {period bound : ℤ}

theorem nil (h : 0 ≤ bound) : WindowBound period bound stop hit ([] : List (ℤ × X)) := by
  intro seg hseg _ _
  rw [List.infix_nil.1 hseg]
  exact h

/-- **A log keeps to its bound** if a hit is made only when there is room among the recent ones. -/
theorem concat (h : WindowBound period bound stop hit log)
    (hroom : hit x = true →
      ((recent stop (t - period) log).countP fun y => hit y.2 : ℤ) < bound) :
    WindowBound period bound stop hit (log ++ [(t, x)]) := by
  intro seg hseg hspan hstop
  rcases List.infix_concat_iff.1 hseg with hsuffix | hinfix
  · rcases List.suffix_concat_iff.1 hsuffix with rfl | ⟨before, rfl, hbefore⟩
    · exact h [] List.nil_infix (by simp) (by simp)
    · have hmem (y : ℤ × X) (hy : y ∈ before) : y ∈ before ++ [(t, x)] :=
        List.mem_append_left _ hy
      have hold := h before hbefore.isInfix
        (fun y hy z hz => hspan y (hmem y hy) z (hmem z hz)) fun y hy => hstop y (hmem y hy)
      rw [List.countP_append, List.countP_singleton]
      by_cases hhit : hit x = true
      · -- what is older than the new entry by no more than the period is recent
        have hsince (y : ℤ × X) (hy : y ∈ before) : t - period ≤ y.1 := by
          have hdiff := hspan y (hmem y hy) (t, x) (by simp)
          dsimp only at hdiff
          omega
        have hsub := reverse_sublist_recent hbefore hsince fun y hy => hstop y (hmem y hy)
        have hle := hsub.countP_le (p := fun y => hit y.2)
        rw [List.countP_reverse] at hle
        have hroom := hroom hhit
        rw [if_pos hhit]
        omega
      · rw [if_neg hhit]
        simpa using hold
  · exact h seg hinfix hspan hstop

end WindowBound

end Foundations
