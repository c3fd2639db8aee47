import AeroxeBee.Foundations.Ranking

/-!
# Reading a list in pages

A list is read in pages of one size, each of them from the list in descending order of a key. Elements
with the same key may stand in another order whenever a page is read.

* `filter_eq_take`: a part of a sorted list that ends where a threshold is;
* `read_perm_iff`: every element is read once, in whatever order elements with the same key stand,
  exactly if no page ends between two of them.
-/

namespace Foundations.Paging

/-! ## Thresholds -/

section Threshold

variable {ι : Type*} {p : ι → Bool} {l : List ι}

/-- Where a list begins with an element that does not pass, none passes. -/
theorem countP_eq_zero_of_head {a : ι} (h : (a :: l).Pairwise fun a b => p b → p a)
    (ha : ¬ p a) : l.countP p = 0 :=
  List.countP_eq_zero.2 fun b hb hpass => ha ((List.pairwise_cons.1 h).1 b hb hpass)

/-- **The elements above a threshold** stand at the beginning of a sorted list. -/
theorem filter_eq_take (h : l.Pairwise fun a b => p b → p a) :
    l.filter p = l.take (l.countP p) := by
  induction l with
  | nil => rfl
  | cons a l ih =>
    have hrest := (List.pairwise_cons.1 h).2
    by_cases ha : p a
    · rw [List.filter_cons_of_pos ha, List.countP_cons_of_pos ha, List.take_succ_cons, ih hrest]
    · have hnone := countP_eq_zero_of_head h ha
      rw [List.filter_cons_of_neg ha, List.countP_cons_of_neg ha, hnone, List.take_zero, ih hrest,
        hnone, List.take_zero]

/-- The place of an element says whether it is above a threshold. -/
theorem getElem_iff_lt_countP (h : l.Pairwise fun a b => p b → p a) {i : ℕ} (hi : i < l.length) :
    p l[i] ↔ i < l.countP p := by
  induction l generalizing i with
  | nil => exact absurd hi (Nat.not_lt_zero i)
  | cons a l ih =>
    have hrest := (List.pairwise_cons.1 h).2
    by_cases ha : p a
    · rw [List.countP_cons_of_pos ha]
      cases i with
      | zero => exact iff_of_true ha (Nat.succ_pos _)
      | succ i =>
        rw [List.getElem_cons_succ, Nat.succ_lt_succ_iff]
        exact ih hrest (Nat.lt_of_succ_lt_succ hi)
    · have hnone := countP_eq_zero_of_head h ha
      rw [List.countP_cons_of_neg ha, hnone]
      refine iff_of_false ?_ (Nat.not_lt_zero i)
      cases i with
      | zero => exact ha
      | succ i =>
        rw [List.getElem_cons_succ, ih hrest (Nat.lt_of_succ_lt_succ hi), hnone]
        exact Nat.not_lt_zero i

end Threshold

/-! ## Orders -/

section Orders

variable {ι κ : Type*} [LinearOrder κ] {key : ι → κ} {all sorted sorted' : List ι} {i : ℕ}

/-- A list in descending order of a key; it is not said how elements with the same key stand. -/
structure IsOrdered (key : ι → κ) (all sorted : List ι) : Prop where
  perm : sorted.Perm all
  sorted : sorted.Pairwise fun a b => key b ≤ key a

/-- A place in the order is between two elements with the same key. -/
def Splits (key : ι → κ) (all : List ι) (i : ℕ) : Prop :=
  ∃ a ∈ all, (all.countP fun b => key a < key b) < i ∧ i < all.countP fun b => key a ≤ key b

instance (key : ι → κ) (all : List ι) (i : ℕ) : Decidable (Splits key all i) :=
  inferInstanceAs (Decidable (∃ a ∈ all, _ ∧ _))

theorem isOrdered_insertionSort (key : ι → κ) (all : List ι) :
    IsOrdered key all (all.insertionSort fun a b => key b ≤ key a) where
  perm := List.perm_insertionSort _ all
  sorted :=
    have : Std.Total fun a b : ι => key b ≤ key a := ⟨fun a b => le_total (key b) (key a)⟩
    have : IsTrans ι fun a b => key b ≤ key a := ⟨fun _ _ _ hab hbc => hbc.trans hab⟩
    List.pairwise_insertionSort _ all

namespace IsOrdered

theorem above (h : IsOrdered key all sorted) (c : κ) :
    sorted.Pairwise fun a b => decide (c < key b) → decide (c < key a) :=
  h.sorted.imp fun hle hlt => decide_eq_true ((of_decide_eq_true hlt).trans_le hle)

theorem notBelow (h : IsOrdered key all sorted) (c : κ) :
    sorted.Pairwise fun a b => decide (c ≤ key b) → decide (c ≤ key a) :=
  h.sorted.imp fun hle hge => decide_eq_true ((of_decide_eq_true hge).trans hle)

/-- Which places come before the elements with some key. -/
theorem lt_key_getElem_iff (h : IsOrdered key all sorted) (c : κ) (hi : i < sorted.length) :
    c < key sorted[i] ↔ i < all.countP fun b => c < key b := by
  rw [← h.perm.countP_eq, ← getElem_iff_lt_countP (h.above c) hi, decide_eq_true_iff]

/-- Which places come before the elements with a smaller key. -/
theorem le_key_getElem_iff (h : IsOrdered key all sorted) (c : κ) (hi : i < sorted.length) :
    c ≤ key sorted[i] ↔ i < all.countP fun b => c ≤ key b := by
  rw [← h.perm.countP_eq, ← getElem_iff_lt_countP (h.notBelow c) hi, decide_eq_true_iff]

/-- **A place that splits no elements** is a threshold. -/
theorem exists_countP_eq (h : IsOrdered key all sorted) (hi : i < sorted.length)
    (hclean : ¬ Splits key all (i + 1)) : ∃ c, (all.countP fun b => c ≤ key b) = i + 1 := by
  have hmem : sorted[i] ∈ all := h.perm.mem_iff.1 (List.getElem_mem hi)
  have hfew : ¬ i < all.countP fun b => key sorted[i] < key b := fun hlt =>
    lt_irrefl _ ((h.lt_key_getElem_iff _ hi).2 hlt)
  have hmany := (h.le_key_getElem_iff (key sorted[i]) hi).1 le_rfl
  have hend : ¬ i + 1 < all.countP fun b => key sorted[i] ≤ key b := fun hlt =>
    hclean ⟨sorted[i], hmem, by omega, hlt⟩
  exact ⟨key sorted[i], by omega⟩

/-- What stands before a threshold. -/
theorem take_perm (h : IsOrdered key all sorted) (h' : IsOrdered key all sorted')
    (hclean : ¬ Splits key all i) : (sorted.take i).Perm (sorted'.take i) := by
  have hperm := h.perm.trans h'.perm.symm
  cases i with
  | zero => rw [List.take_zero, List.take_zero]
  | succ i =>
    by_cases hi : i < sorted.length
    · obtain ⟨c, hc⟩ := h.exists_countP_eq hi hclean
      have htake {l : List ι} (hl : IsOrdered key all l) :
          l.take (i + 1) = l.filter fun b => c ≤ key b := by
        rw [filter_eq_take (hl.notBelow c), hl.perm.countP_eq, hc]
      rw [htake h, htake h']
      exact hperm.filter _
    · have hlen := hperm.length_eq
      rwa [List.take_of_length_le (by omega), List.take_of_length_le (by omega)]

/-- **Where a place splits elements**, two of them may change places. -/
theorem exists_swap (h : IsOrdered key all sorted) (hsplit : Splits key all i) :
    ∃ pre x y post, sorted = pre ++ x :: y :: post ∧ pre.length + 1 = i ∧
      IsOrdered key all (pre ++ y :: x :: post) := by
  obtain ⟨a, -, hlt, hgt⟩ := hsplit
  obtain ⟨i, rfl⟩ : ∃ j, i = j + 1 := ⟨i - 1, by omega⟩
  have hlen : i + 1 < sorted.length := by
    rw [h.perm.length_eq]
    exact hgt.trans_le List.countP_le_length
  -- both neighbours of the place have the key of the elements that it splits
  have hkey (j : ℕ) (hj : j < sorted.length) (hle : i ≤ j) (hle' : j ≤ i + 1) :
      key sorted[j] = key a := by
    have hnot : ¬ key a < key sorted[j] := fun h' => by
      have := (h.lt_key_getElem_iff (key a) hj).1 h'
      omega
    exact le_antisymm (not_lt.1 hnot) ((h.le_key_getElem_iff (key a) hj).2 (by omega))
  have hsame := (hkey i (by omega) le_rfl (by omega)).trans
    (hkey (i + 1) hlen (by omega) le_rfl).symm
  have hcut : sorted = sorted.take i ++ sorted[i] :: sorted[i + 1] :: sorted.drop (i + 2) := by
    rw [← List.drop_eq_getElem_cons hlen, ← List.drop_eq_getElem_cons, List.take_append_drop]
  generalize sorted[i] = x at hcut hsame
  generalize sorted[i + 1] = y at hcut hsame
  refine ⟨sorted.take i, x, y, sorted.drop (i + 2), hcut, ?_, ?_, ?_⟩
  · rw [List.length_take_of_le (by omega)]
  · refine List.Perm.trans ?_ h.perm
    nth_rewrite 3 [hcut]
    exact (List.Perm.swap x y _).append_left _
  · have hsorted := h.sorted
    rw [hcut, ← List.pairwise_map (f := key) (R := fun a b => b ≤ a)] at hsorted
    rw [← List.pairwise_map (f := key) (R := fun a b => b ≤ a)]
    simpa only [List.map_append, List.map_cons, hsame] using hsorted

end IsOrdered

end Orders

/-! ## Pages -/

section Pages

variable {ι : Type*} {size k m n : ℕ} {l : List ι}

/-- A page of a list. -/
def page (size k : ℕ) (l : List ι) : List ι := (l.drop (k * size)).take size

/-- The pages of a list, each of them read from the list as it stands when the page is read. -/
def read (size : ℕ) (orders : ℕ → List ι) (n : ℕ) : List ι :=
  (List.range n).flatMap fun k => page size k (orders k)

@[simp] theorem read_zero (size : ℕ) (orders : ℕ → List ι) : read size orders 0 = [] := rfl

theorem read_succ (size : ℕ) (orders : ℕ → List ι) (n : ℕ) :
    read size orders (n + 1) = read size orders n ++ page size n (orders n) := by
  rw [read, List.range_succ, List.flatMap_append, List.flatMap_singleton, ← read]

theorem read_add (size : ℕ) (orders : ℕ → List ι) (m n : ℕ) :
    read size orders (m + n) =
      read size orders m ++ (List.range n).flatMap fun k => page size (m + k) (orders (m + k)) := by
  rw [read, List.range_add, List.flatMap_append, List.flatMap_map, ← read]

theorem read_congr {orders orders' : ℕ → List ι} (h : ∀ k < n, orders k = orders' k) :
    read size orders n = read size orders' n :=
  List.flatMap_congr fun k hk => by rw [h k (List.mem_range.1 hk)]

theorem page_add (size m k : ℕ) (l : List ι) :
    page size (m + k) l = page size k (l.drop (m * size)) := by
  rw [page, page, List.drop_drop, Nat.add_mul]

theorem take_append_page (size k : ℕ) (l : List ι) :
    l.take (k * size) ++ page size k l = l.take ((k + 1) * size) := by
  rw [page, Nat.succ_mul, List.take_add]

/-- The first pages of a list are the beginning of the list. -/
theorem read_const (size : ℕ) (l : List ι) (n : ℕ) :
    read size (fun _ => l) n = l.take (n * size) := by
  induction n with
  | zero => rw [read_zero, Nat.zero_mul, List.take_zero]
  | succ n ih => rw [read_succ, ih, take_append_page]

end Pages

section Orders

variable {ι κ : Type*} [LinearOrder κ] {key : ι → κ} {all : List ι} {orders : ℕ → List ι}
  {size k n : ℕ}

/-- Pages that end at thresholds are parts of any one order. -/
theorem read_perm_take (horders : ∀ k, IsOrdered key all (orders k))
    (hclean : ∀ k, ¬ Splits key all (k * size)) {sorted : List ι}
    (h : IsOrdered key all sorted) (n : ℕ) :
    (read size orders n).Perm (sorted.take (n * size)) := by
  induction n with
  | zero => rw [read_zero, Nat.zero_mul, List.take_zero]
  | succ n ih =>
    have hbefore := ih.trans (h.take_perm (horders n) (hclean n))
    rw [read_succ]
    refine (hbefore.append_right _).trans ?_
    rw [take_append_page]
    exact (horders n).take_perm h (hclean (n + 1))

/-- **Pages that end at thresholds** are a list in pieces. -/
theorem read_perm (horders : ∀ k, IsOrdered key all (orders k))
    (hclean : ∀ k, ¬ Splits key all (k * size)) (hall : all.length ≤ n * size) :
    (read size orders n).Perm all := by
  have hsorted := horders 0
  have hread := read_perm_take horders hclean hsorted n
  rw [List.take_of_length_le (hsorted.perm.length_eq.trans_le hall)] at hread
  exact hread.trans hsorted.perm

/-- **A page that ends between elements with the same key** may be read so that one of them is read
twice. -/
theorem exists_read_not_perm (hnodup : all.Nodup) (hsplit : Splits key all (k * size))
    (hall : all.length ≤ n * size) :
    ∃ orders, (∀ k, IsOrdered key all (orders k)) ∧ ¬ (read size orders n).Perm all := by
  have hsorted := isOrdered_insertionSort key all
  obtain ⟨pre, x, y, post, hcut, hplace, hswap⟩ := hsorted.exists_swap hsplit
  rw [hcut] at hsorted
  have hlen := hsorted.perm.length_eq
  have hle : k ≤ n := by
    have hlt : k * size < n * size := by
      simp only [List.length_append, List.length_cons] at hlen
      omega
    exact (Nat.lt_of_mul_lt_mul_right hlt).le
  obtain ⟨m, rfl⟩ := Nat.exists_eq_add_of_le hle
  -- the pages before the place are read from one order, the others from the other one
  let orders (j : ℕ) : List ι := if j < k then pre ++ x :: y :: post else pre ++ y :: x :: post
  have hbefore : ∀ j < k, orders j = pre ++ x :: y :: post := fun j hj => if_pos hj
  have hafter (j : ℕ) : orders (k + j) = pre ++ y :: x :: post := if_neg (by omega)
  have hfirst : read size orders k = pre ++ [x] := by
    rw [read_congr hbefore, read_const, ← hplace, List.take_length_add_append,
      List.take_succ_cons, List.take_zero]
  have hdrop : (pre ++ y :: x :: post).drop (k * size) = x :: post := by
    rw [← hplace, List.drop_length_add_append, List.drop_succ_cons, List.drop_zero]
  have hsecond : ((List.range m).flatMap fun j => page size (k + j) (orders (k + j))) =
      x :: post := by
    refine (List.flatMap_congr fun j _ => ?_).trans
      ((read_const size (x :: post) m).trans (List.take_of_length_le ?_))
    · rw [hafter, page_add, hdrop]
    · rw [Nat.add_mul] at hall
      simp only [List.length_append, List.length_cons] at hlen ⊢
      omega
  refine ⟨orders, fun j => ?_, fun hperm => ?_⟩
  · dsimp only [orders]
    split_ifs
    exacts [hsorted, hswap]
  · rw [read_add, hfirst, hsecond, List.append_assoc, List.singleton_append] at hperm
    have htwice := (List.perm_append_left_iff pre).1 (hperm.trans hsorted.perm.symm)
    have hone : (x :: post).Perm (y :: post) := (List.perm_cons x).1 htwice
    have hmem : x ∈ y :: post := hone.subset List.mem_cons_self
    have hdistinct := (hsorted.perm.nodup_iff.2 hnodup).of_append_right
    exact (List.nodup_cons.1 hdistinct).1 hmem

/-- **Every element is read once**, whatever order elements with the same key stand in, exactly if
no page ends between two of them. -/
theorem read_perm_iff (hnodup : all.Nodup) (hsize : 0 < size) :
    (∀ orders : ℕ → List ι, (∀ k, IsOrdered key all (orders k)) →
      ∀ n, all.length ≤ n * size → (read size orders n).Perm all) ↔
      ∀ k, ¬ Splits key all (k * size) := by
  refine ⟨fun h k hsplit => ?_, fun hclean orders horders n hall => read_perm horders hclean hall⟩
  have hall : all.length ≤ all.length * size := Nat.le_mul_of_pos_right _ hsize
  obtain ⟨orders, horders, hnot⟩ := exists_read_not_perm hnodup hsplit hall
  exact hnot (h orders horders _ hall)

end Orders

end Foundations.Paging
