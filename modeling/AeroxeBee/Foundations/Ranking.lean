import Mathlib.Data.List.Sort
import Mathlib.Tactic.Common

/-!
# Places in a sorted list

The first elements of a list that is sorted by insertion, as a query with an order and a limit
returns them: an element is among the first ones if few others come before it, which are those that
are smaller and those that are as small and stand before it in the list.

Where it is not known in which order equal elements stand, the first ones are characterised by their
keys.

* `idxOf_insertionSort`: the place of an element;
* `mem_take_insertionSort_iff`: which elements are among the first ones;
* `isTop_take`: the first ones of any list that is sorted by a key;
* `filter_insertionSort`: the order of a part is that of the whole.
-/

namespace Foundations

section Top

variable {ι κ : Type*} [Preorder κ] {key : ι → κ} {all sorted : List ι} {a b : ι} {i j : ℕ}

/-- The best elements of a list by a key, in descending order. -/
structure IsTop (key : ι → κ) (limit : ℕ) (all chosen : List ι) : Prop where
  length : chosen.length = min limit all.length
  sorted : chosen.Pairwise fun a b => key b ≤ key a
  rest : ∃ rest, (chosen ++ rest).Perm all ∧ ∀ a ∈ chosen, ∀ b ∈ rest, key b ≤ key a

/-- **The first elements of a sorted list are the best ones.** -/
theorem isTop_take (hperm : sorted.Perm all) (hsorted : sorted.Pairwise fun a b => key b ≤ key a)
    (limit : ℕ) : IsTop key limit all (sorted.take limit) where
  length := by rw [List.length_take, hperm.length_eq]
  sorted := hsorted.sublist (List.take_sublist limit sorted)
  rest := by
    refine ⟨sorted.drop limit, ?_, fun a ha b hb => ?_⟩
    · rw [List.take_append_drop]
      exact hperm
    · rw [← List.take_append_drop limit sorted, List.pairwise_append] at hsorted
      exact hsorted.2.2 a ha b hb

/-- An element with a greater key comes first. -/
theorem index_lt_of_key_lt (hsorted : sorted.Pairwise fun a b => key b ≤ key a)
    (hi : sorted[i]? = some a) (hj : sorted[j]? = some b) (hlt : key b < key a) : i < j := by
  obtain ⟨hi', rfl⟩ := List.getElem?_eq_some_iff.1 hi
  obtain ⟨hj', rfl⟩ := List.getElem?_eq_some_iff.1 hj
  rcases Nat.lt_trichotomy i j with h | h | h
  · exact h
  · subst h
    exact absurd hlt (lt_irrefl _)
  · exact absurd (List.pairwise_iff_getElem.1 hsorted j i hj' hi' h) (not_le_of_gt hlt)

/-- An element with a greater key is among the best if the other one is. -/
theorem IsTop.mem_of_key_lt {limit : ℕ} {chosen : List ι} (h : IsTop key limit all chosen)
    (ha : a ∈ all) (hb : b ∈ chosen) (hlt : key b < key a) : a ∈ chosen := by
  obtain ⟨rest, hperm, hrest⟩ := h.rest
  rcases List.mem_append.1 (hperm.mem_iff.2 ha) with hchosen | hleft
  · exact hchosen
  · exact absurd (hrest b hb a hleft) (not_le_of_gt hlt)

end Top

section Part

variable {α : Type*} {r : α → α → Prop} [DecidableRel r] {a : α} {l : List α}

theorem orderedInsert_eq_cons (h : ∀ c ∈ l, r a c) : l.orderedInsert r a = a :: l := by
  cases l with
  | nil => rfl
  | cons b l => exact List.orderedInsert_cons_of_le r l (h b List.mem_cons_self)

theorem filter_orderedInsert [IsTrans α r] (p : α → Bool) (hsorted : l.Pairwise r) :
    (l.orderedInsert r a).filter p =
      if p a then (l.filter p).orderedInsert r a else l.filter p := by
  induction l with
  | nil => simp [List.filter_cons]
  | cons b l ih =>
    rw [List.pairwise_cons] at hsorted
    by_cases hab : r a b
    · -- the element comes before all others
      have hall : ∀ c ∈ (b :: l).filter p, r a c := by
        intro c hc
        rcases List.mem_cons.1 (List.mem_of_mem_filter hc) with rfl | hmem
        · exact hab
        · exact IsTrans.trans a b c hab (hsorted.1 c hmem)
      rw [List.orderedInsert_cons_of_le r l hab, List.filter_cons, orderedInsert_eq_cons hall]
    · rw [List.orderedInsert_of_not_le r l hab, List.filter_cons, List.filter_cons, ih hsorted.2]
      by_cases hb : p b
      · rw [if_pos hb, if_pos hb, List.orderedInsert_of_not_le r _ hab]
        split_ifs <;> rfl
      · rw [if_neg hb, if_neg hb]

/-- **A part of a list is sorted as it stands in the sorted list.** -/
theorem filter_insertionSort [IsTrans α r] [Std.Total r] (p : α → Bool) (l : List α) :
    (l.insertionSort r).filter p = (l.filter p).insertionSort r := by
  induction l with
  | nil => rfl
  | cons a l ih =>
    rw [List.insertionSort_cons, filter_orderedInsert p (List.pairwise_insertionSort r l), ih,
      List.filter_cons]
    split_ifs <;> rfl

end Part

variable {α : Type*} [DecidableEq α] {r : α → α → Prop} [DecidableRel r] [IsTrans α r]
  {a b : α} {l pre post : List α}

/-- Another element that is inserted comes before an element or behind it. -/
theorem idxOf_orderedInsert_of_ne (hsorted : l.Pairwise r) (ha : a ∈ l) (hne : b ≠ a) :
    (l.orderedInsert r b).idxOf a = l.idxOf a + if r b a then 1 else 0 := by
  induction l with
  | nil => cases ha
  | cons c l ih =>
    rw [List.pairwise_cons] at hsorted
    by_cases hbc : r b c
    · have hba : r b a := by
        rcases List.mem_cons.1 ha with rfl | hmem
        · exact hbc
        · exact IsTrans.trans b c a hbc (hsorted.1 a hmem)
      rw [List.orderedInsert_cons_of_le r l hbc, List.idxOf_cons_ne _ hne, if_pos hba]
    · rw [List.orderedInsert_of_not_le r l hbc]
      by_cases hca : c = a
      · subst hca
        rw [List.idxOf_cons_self, List.idxOf_cons_self, if_neg hbc]
      · have hmem : a ∈ l := (List.mem_cons.1 ha).resolve_left (Ne.symm hca)
        rw [List.idxOf_cons_ne _ hca, List.idxOf_cons_ne _ hca, ih hsorted.2 hmem]
        omega

/-- An element that is inserted comes behind those that are smaller. -/
theorem idxOf_orderedInsert_self (hsorted : l.Pairwise r) (ha : a ∉ l) :
    (l.orderedInsert r a).idxOf a = l.countP fun b => ¬ r a b := by
  induction l with
  | nil => simp
  | cons c l ih =>
    rw [List.pairwise_cons] at hsorted
    rw [List.mem_cons, not_or] at ha
    by_cases hac : r a c
    · have hnone : (c :: l).countP (fun b => ¬ r a b) = 0 := by
        rw [List.countP_eq_zero]
        intro b hb
        rcases List.mem_cons.1 hb with rfl | hmem
        · simpa using hac
        · simpa using IsTrans.trans a c b hac (hsorted.1 b hmem)
      rw [List.orderedInsert_cons_of_le r l hac, List.idxOf_cons_self, hnone]
    · rw [List.orderedInsert_of_not_le r l hac, List.idxOf_cons_ne _ (Ne.symm ha.1),
        ih hsorted.2 ha.2, List.countP_cons_of_pos (by simpa using hac)]

/-- **The place of an element** in the sorted list. -/
theorem idxOf_insertionSort [Std.Total r] (hpre : a ∉ pre) (hpost : a ∉ post) :
    ((pre ++ a :: post).insertionSort r).idxOf a =
      pre.countP (fun b => r b a) + post.countP fun b => ¬ r a b := by
  induction pre with
  | nil =>
    rw [List.nil_append, List.insertionSort_cons, idxOf_orderedInsert_self
      (List.pairwise_insertionSort r post) (by rwa [List.mem_insertionSort]),
      (List.perm_insertionSort r post).countP_eq, List.countP_nil, Nat.zero_add]
  | cons b pre ih =>
    rw [List.mem_cons, not_or] at hpre
    have hmem : a ∈ (pre ++ a :: post).insertionSort r := by
      rw [List.mem_insertionSort]
      simp
    rw [List.cons_append, List.insertionSort_cons, idxOf_orderedInsert_of_ne
      (List.pairwise_insertionSort r _) hmem (Ne.symm hpre.1), ih hpre.2, List.countP_cons]
    simp only [decide_eq_true_eq]
    omega

/-- **Which elements are among the first ones.** -/
theorem mem_take_insertionSort_iff [Std.Total r] (hpre : a ∉ pre) (hpost : a ∉ post) (n : ℕ) :
    a ∈ ((pre ++ a :: post).insertionSort r).take n ↔
      pre.countP (fun b => r b a) + post.countP (fun b => ¬ r a b) < n := by
  have hmem : a ∈ (pre ++ a :: post).insertionSort r := by
    rw [List.mem_insertionSort]
    simp
  rw [List.mem_take_iff_idxOf_lt hmem, idxOf_insertionSort hpre hpost]

end Foundations
