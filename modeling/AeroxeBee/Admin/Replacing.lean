import AeroxeBee.Admin.Rendering

/-!
# Replacing placeholders

`RenderTemplate` replaces placeholders by a loop of its own, which goes through the bytes of a text
with two indices and copies what is left at the end.

* `replaceAll_terminates`: what the loop returns, and that it returns, without an index out of range;
* `passes_eq`: so `RenderTemplate` returns what its model does.
-/

namespace AeroxeBee.Admin

open Foundations

namespace TemplateService

/-! ## The loop -/

/-- A slice of a text, unless it is out of range. -/
def slice (s : Text) (start stop : ℤ) : Option Text :=
  if 0 ≤ start ∧ start ≤ stop ∧ stop ≤ s.length then
    some ((s.drop start.toNat).take (stop - start).toNat)
  else none

/-- A byte of a text, unless it is out of range. -/
def byteAt (s : Text) (i : ℤ) : Option UInt8 := if 0 ≤ i then s[i.toNat]? else none

/-- The variables of the loop. -/
structure Loop where
  result : Text
  i : ℤ
  j : ℤ
deriving DecidableEq

/-- What has become of the function after some rounds. -/
inductive Outcome where
  | running (l : Loop)
  | panicked
  | returned (text : Text)
deriving DecidableEq

/-- The body of the loop. -/
def round (s old new : Text) (l : Loop) : Option Loop := do
  if (← slice s l.j (l.j + old.length)) = old then
    let j := l.j + old.length
    return ⟨l.result ++ new, j, j⟩
  else
    let c ← byteAt s l.j
    let j := l.j + 1
    return ⟨l.result ++ [c], j, j⟩

/-- The loop, for at most so many rounds, and what follows it. -/
def rounds (s old new : Text) : ℕ → Loop → Outcome
  | 0, l => .running l
  | fuel + 1, l =>
    if l.j ≤ (s.length : ℤ) - old.length then
      match round s old new l with
      | none => .panicked
      | some l => rounds s old new fuel l
    else
      match slice s l.i s.length with
      | none => .panicked
      | some rest => .returned (l.result ++ rest)

/-- Replace a word in a text, within so many rounds. -/
def replaceAll (fuel : ℕ) (s old new : Text) : Outcome := rounds s old new fuel ⟨[], 0, 0⟩

/-! ## What it returns -/

variable {s old new : Text}

/-- A slice from a position that the text reaches. -/
theorem slice_append {x y : Text} (n : ℕ) (hn : n ≤ y.length) :
    slice (x ++ y) x.length (x.length + n) = some (y.take n) := by
  have hrange : (0 : ℤ) ≤ x.length ∧ (x.length : ℤ) ≤ x.length + n ∧
      (x.length : ℤ) + n ≤ (x ++ y).length := by
    rw [List.length_append]
    omega
  rw [slice, if_pos hrange, Int.toNat_natCast, List.drop_left, add_sub_cancel_left,
    Int.toNat_natCast]

/-- **The invariant of the loop**: both indices are at the end of what has been gone through, and what
is to be returned is what has been found for that, and then what is left with its words replaced. -/
theorem rounds_eq (hold : old ≠ []) {x y result : Text} {fuel : ℕ} (hfuel : y.length < fuel) :
    rounds (x ++ y) old new fuel ⟨result, x.length, x.length⟩ =
      .returned (result ++ Foundations.replaceAll old new y) := by
  induction fuel generalizing x y result with
  | zero => exact absurd hfuel (Nat.not_lt_zero _)
  | succ fuel ih =>
    rw [rounds]
    split_ifs with hroom
    · have hlen : old.length ≤ y.length := by
        rw [List.length_append] at hroom
        push_cast at hroom
        omega
      have hpos := List.length_pos_iff.2 hold
      rw [round, slice_append _ hlen]
      by_cases hfound : y.take old.length = old
      · -- the word stands here, and the loop goes on behind it
        obtain ⟨rest, rfl⟩ : old <+: y := ⟨y.drop old.length, by
          nth_rewrite 1 [← hfound]
          exact List.take_append_drop _ _⟩
        have hrest := @ih (x ++ old) rest (result ++ new) (by
          rw [List.length_append] at hfuel
          omega)
        rw [List.append_assoc, List.append_assoc, List.length_append] at hrest
        simpa [hfound, replaceAll_append hold] using hrest
      · cases y with
        | nil => exact absurd (Nat.le_zero.1 hlen) hpos.ne'
        | cons c y =>
          have hnot : ¬ old <+: c :: y := by
            rintro ⟨b, hb⟩
            refine hfound ?_
            rw [← hb, List.take_left]
          have hbyte : byteAt (x ++ c :: y) x.length = some c := by
            simp [byteAt]
          have hrest := @ih (x ++ [c]) y (result ++ [c]) (Nat.lt_of_succ_lt_succ hfuel)
          rw [List.append_assoc, List.append_assoc] at hrest
          simpa [hfound, hbyte, replaceAll_cons_of_not hnot] using hrest
    · -- nothing fits any more, and what is left is copied
      have hshort : ¬ old <:+: y := by
        intro h
        have hle := h.length_le
        rw [List.length_append] at hroom
        push_cast at hroom
        omega
      have hrest := @slice_append x y y.length le_rfl
      rw [List.take_length, ← Nat.cast_add, ← List.length_append] at hrest
      rw [hrest, replaceAll_of_not_occurs hshort]

/-- **The loop returns the text with all leftmost occurrences replaced**, after no more rounds than
the text has bytes, and without an index out of range. -/
theorem replaceAll_terminates (s old new : Text) (hold : old ≠ []) (fuel : ℕ)
    (hfuel : s.length < fuel) :
    ∃ text, replaceAll fuel s old new = .returned text ∧ Replaced old new s text ∧
      ∀ text', Replaced old new s text' → text' = text := by
  have hreturned := @rounds_eq old new hold [] s [] fuel hfuel
  refine ⟨Foundations.replaceAll old new s, hreturned, replaced_replaceAll hold s, fun text' h => ?_⟩
  exact h.unique (replaced_replaceAll hold s)

/-- A word that overlaps itself at the end of the text. -/
theorem replaceAll_aba :
    ∃ text, replaceAll 6 (utf8 "ababa") (utf8 "aba") (utf8 "x") = .returned text ∧
      Replaced (utf8 "aba") (utf8 "x") (utf8 "ababa") text ∧
      ∀ text', Replaced (utf8 "aba") (utf8 "x") (utf8 "ababa") text' → text' = text :=
  replaceAll_terminates (utf8 "ababa") (utf8 "aba") (utf8 "x") (by decide) 6
    (by decide)

/-! ## The passes -/

/-- The passes of `RenderTemplate`, each with the loop for at most so many rounds. -/
def passes (fuel : ℕ) : List (Text × Text) → Text → Outcome
  | [], result => .returned result
  | (key, val) :: vars, result =>
    match replaceAll fuel result (placeholder key) val with
    | .returned result => passes fuel vars result
    | o => o

/-- **`RenderTemplate` returns** what it was taken to return. -/
theorem passes_eq (vars : List (Text × Text)) (body : Text) :
    ∃ enough, ∀ fuel, enough ≤ fuel →
      passes fuel vars body = .returned (renderTemplate body vars) := by
  induction vars generalizing body with
  | nil => exact ⟨0, fun _ _ => rfl⟩
  | cons x vars ih =>
    obtain ⟨key, val⟩ := x
    obtain ⟨enough, hrest⟩ := ih (Foundations.replaceAll (placeholder key) val body)
    refine ⟨max (body.length + 1) enough, fun fuel hfuel => ?_⟩
    have hpass : replaceAll fuel body (placeholder key) val =
        .returned (Foundations.replaceAll (placeholder key) val body) :=
      @rounds_eq (placeholder key) val (List.cons_ne_nil _ _) [] body [] fuel
        (lt_of_lt_of_le (Nat.lt_succ_self _) ((le_max_left _ _).trans hfuel))
    rw [passes, hpass]
    exact hrest fuel ((le_max_right _ _).trans hfuel)

end TemplateService

end AeroxeBee.Admin
