import Mathlib.Data.List.Infix
import Mathlib.Tactic.Common

/-!
# Patterns of texts

The patterns that SQL compares texts with: a percent sign stands for any text, an underscore for any
character, and a backslash takes the character after it as it is.

* `stands_contains_iff`: what a text between two percent signs stands for;
* `read_plain`: a text without these three characters stands for itself.
-/

namespace Foundations.Like

/-- A piece of a pattern. -/
inductive Piece where
  | any
  | one
  | lit (c : Char)

/-- The character that takes the next one as it is. -/
def escape : Char := Char.ofNat 92

/-- The pieces of a pattern, after a backslash or not. A backslash is not the last character. -/
def read : Bool → List Char → Option (List Piece)
  | false, [] => some []
  | true, [] => none
  | true, c :: cs => (read false cs).map (.lit c :: ·)
  | false, c :: cs =>
    if c = escape then read true cs
    else if c = '%' then (read false cs).map (.any :: ·)
    else if c = '_' then (read false cs).map (.one :: ·)
    else (read false cs).map (.lit c :: ·)

/-- A pattern stands for a text. -/
def stands : List Piece → List Char → Bool
  | [], text => text.isEmpty
  | .any :: p, text => text.tails.any (stands p)
  | .one :: p, _ :: text => stands p text
  | .lit c :: p, d :: text => c = d && stands p text
  | .one :: _, [] => false
  | .lit _ :: _, [] => false

section Stands

variable {p : List Piece} {text s : List Char}

theorem stands_any_iff : stands (.any :: p) text ↔ ∃ a b, text = a ++ b ∧ stands p b := by
  simp only [stands, List.any_eq_true, List.mem_tails]
  constructor
  · rintro ⟨b, ⟨a, rfl⟩, hb⟩
    exact ⟨a, b, rfl, hb⟩
  · rintro ⟨a, b, rfl, hb⟩
    exact ⟨b, ⟨a, rfl⟩, hb⟩

theorem stands_lits_iff : stands (s.map .lit ++ p) text ↔ ∃ b, text = s ++ b ∧ stands p b := by
  induction s generalizing text with
  | nil => simp
  | cons c s ih =>
    cases text with
    | nil => simp [stands]
    | cons d text =>
      simp only [List.map_cons, List.cons_append, stands, Bool.and_eq_true, decide_eq_true_eq, ih,
        List.cons.injEq]
      constructor
      · rintro ⟨rfl, b, rfl, hb⟩
        exact ⟨b, ⟨rfl, rfl⟩, hb⟩
      · rintro ⟨b, ⟨rfl, rfl⟩, hb⟩
        exact ⟨rfl, b, rfl, hb⟩

/-- **A text between two percent signs** stands for the texts that it occurs in. -/
theorem stands_contains_iff : stands (.any :: (s.map .lit ++ [.any])) text ↔ s <:+: text := by
  rw [stands_any_iff]
  simp only [stands_lits_iff, stands_any_iff]
  constructor
  · rintro ⟨a, _, rfl, _, rfl, b, c, rfl, -⟩
    exact ⟨a, b ++ c, by simp⟩
  · rintro ⟨a, b, rfl⟩
    exact ⟨a, s ++ b, by simp, b, rfl, b, [], by simp, rfl⟩

/-- A text without the characters that patterns are made of. -/
def Plain (s : List Char) : Prop := ∀ c ∈ s, c ≠ escape ∧ c ≠ '%' ∧ c ≠ '_'

/-- **A plain text is read as itself.** -/
theorem read_plain (hs : Plain s) (rest : List Char) :
    read false (s ++ rest) = (read false rest).map (s.map .lit ++ ·) := by
  induction s with
  | nil => simp
  | cons c s ih =>
    obtain ⟨⟨hescape, hany, hone⟩, hrest⟩ := List.forall_mem_cons.1 hs
    rw [List.cons_append, read, if_neg hescape, if_neg hany, if_neg hone, ih hrest, Option.map_map]
    rfl

/-- A plain text between two percent signs is read. -/
theorem read_contains (hs : Plain s) :
    read false ('%' :: (s ++ ['%'])) = some (.any :: (s.map .lit ++ [.any])) := by
  have hescape : '%' ≠ escape := by decide
  rw [read, if_neg hescape, if_pos rfl, read_plain hs, read, if_neg hescape, if_pos rfl]
  rfl

end Stands

/-- A pattern whose last character is a percent sign is read. -/
theorem read_append_percent (afterEscape : Bool) (s : List Char) :
    (read afterEscape (s ++ ['%'])).isSome := by
  induction s generalizing afterEscape with
  | nil => cases afterEscape <;> decide
  | cons c s ih =>
    cases afterEscape with
    | true =>
      rw [List.cons_append, read, Option.isSome_map]
      exact ih false
    | false =>
      rw [List.cons_append, read]
      split_ifs
      · exact ih true
      all_goals
        rw [Option.isSome_map]
        exact ih false

end Foundations.Like
