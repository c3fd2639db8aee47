import Mathlib.Data.List.Induction
import Mathlib.Tactic.Common

/-!
# Registers with writes that may be lost

A log says in which order a register was written. A write that was answered has been made; a write that
was not answered may have been made or not.

* `holds_iff`: what the register can hold is what some write has left that no answered one followed;
* `Holds.of_answered`: a write that was answered is only undone by a later one.
-/

namespace Foundations.Register

variable {X V : Type*} (writes : X → Option V) (answered : X → Prop)

/-- What a register that has held a value can hold after a log. -/
inductive Holds (v₀ : V) : List X → V → Prop
  | start : Holds v₀ [] v₀
  | write {log : List X} {x : X} {v v' : V} (h : Holds v₀ log v) (hx : writes x = some v') :
      Holds v₀ (log ++ [x]) v'
  | skip {log : List X} {x : X} {v : V} (h : Holds v₀ log v) (hx : (writes x).isSome → ¬ answered x) :
      Holds v₀ (log ++ [x]) v

/-- None of these writes has been answered. -/
def Unanswered (log : List X) : Prop := ∀ x ∈ log, (writes x).isSome → ¬ answered x

variable {writes answered} {log more : List X} {v₀ v : V}

theorem unanswered_concat {x : X} : Unanswered writes answered (log ++ [x]) ↔
    Unanswered writes answered log ∧ ((writes x).isSome → ¬ answered x) := by
  simp [Unanswered, or_imp, forall_and]

/-- What the register holds after one more write. -/
theorem Holds.step {x : X} {v' : V} (h : Holds writes answered v₀ log v)
    (hx : writes x = some v' ∨ v' = v ∧ ((writes x).isSome → ¬ answered x)) :
    Holds writes answered v₀ (log ++ [x]) v' := by
  rcases hx with hwrite | ⟨rfl, hskip⟩
  · exact .write h hwrite
  · exact .skip h hskip

theorem Holds.append (h : Holds writes answered v₀ log v) (hmore : Unanswered writes answered more) :
    Holds writes answered v₀ (log ++ more) v := by
  induction more using List.reverseRecOn with
  | nil => rwa [List.append_nil]
  | append_singleton more x ih =>
    obtain ⟨hmore, hx⟩ := unanswered_concat.1 hmore
    rw [← List.append_assoc]
    exact .skip (ih hmore) hx

/-- Every log leaves something that the register can hold. -/
theorem exists_holds (v₀ : V) (log : List X) : ∃ v, Holds writes answered v₀ log v := by
  induction log using List.reverseRecOn with
  | nil => exact ⟨v₀, .start⟩
  | append_singleton log x ih =>
    obtain ⟨v, hv⟩ := ih
    cases hx : writes x with
    | none => exact ⟨v, .skip hv (by simp [hx])⟩
    | some v' => exact ⟨v', .write hv hx⟩

/-- **What a register can hold**: its first value, or that of a write, if no later write was answered. -/
theorem holds_iff : Holds writes answered v₀ log v ↔
    v = v₀ ∧ Unanswered writes answered log ∨ ∃ past x more, log = past ++ x :: more ∧
      writes x = some v ∧ Unanswered writes answered more := by
  constructor
  · intro h
    induction h with
    | start => exact .inl ⟨rfl, by simp [Unanswered]⟩
    | write _ hx _ => exact .inr ⟨_, _, [], rfl, hx, by simp [Unanswered]⟩
    | skip _ hx ih =>
      rcases ih with ⟨hv, hnone⟩ | ⟨past, y, more, rfl, hy, hnone⟩
      · exact .inl ⟨hv, unanswered_concat.2 ⟨hnone, hx⟩⟩
      · exact .inr ⟨past, y, more ++ [_], by simp, hy, unanswered_concat.2 ⟨hnone, hx⟩⟩
  · rintro (⟨rfl, hnone⟩ | ⟨past, x, more, rfl, hx, hnone⟩)
    · exact Holds.append .start hnone
    · obtain ⟨w, hw⟩ := @exists_holds X V writes answered v₀ past
      have hwrite : Holds writes answered v₀ (past ++ [x]) v := .write hw hx
      simpa using hwrite.append hnone

/-- **An answered write** is only undone by a later one. -/
theorem Holds.of_answered {past : List X} {x : X} {v' : V} (hx : writes x = some v') (hans : answered x)
    (h : Holds writes answered v₀ (past ++ x :: more) v) : v = v' ∨ ∃ y ∈ more, writes y = some v := by
  rcases holds_iff.1 h with ⟨-, hnone⟩ | ⟨past', y, more', heq, hy, hnone⟩
  · exact absurd hans (hnone x (by simp) (by simp [hx]))
  · rcases List.append_eq_append_iff.1 heq with ⟨l, rfl, hl⟩ | ⟨l, rfl, hl⟩
    · cases l with
      | nil =>
        obtain ⟨rfl, -⟩ := List.cons.inj hl
        exact .inl (Option.some.inj (hy.symm.trans hx))
      | cons z l =>
        obtain ⟨rfl, rfl⟩ := List.cons.inj hl
        exact .inr ⟨y, by simp, hy⟩
    · cases l with
      | nil =>
        obtain ⟨rfl, -⟩ := List.cons.inj hl
        exact .inl (Option.some.inj (hy.symm.trans hx))
      | cons z l =>
        obtain ⟨rfl, rfl⟩ := List.cons.inj hl
        exact absurd hans (hnone x (by simp) (by simp [hx]))

end Foundations.Register
