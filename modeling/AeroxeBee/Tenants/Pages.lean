import AeroxeBee.Foundations.Paging
import AeroxeBee.Tenants.Reads

/-!
# Lists in pages

The handlers that hold a whole list show a part of it. The parameters of the request say which part;
they are texts of digits, read into machine integers that wrap around.

* `slicePage_eq`: what a part of a list is, and when the program panics instead;
* `paginated_iff`: a request is answered from a valid part exactly if no number of it wraps around;
* `tiled_iff`: the pages of a list are the list in pieces exactly if the list and a page fit in a
  machine integer together.
-/

namespace AeroxeBee.Tenants

/-! ## Slices -/

/-- The panics of the arithmetic and of the slices. -/
inductive Panic where
  | sliceBounds
  | divideByZero
deriving DecidableEq

variable {α : Type*}

/-- A slice of a list. The list's capacity does not matter: no handler asks for more than its
length. -/
def slice (items : List α) (start stop : ℤ) : Except Panic (List α) :=
  if 0 ≤ start ∧ start ≤ stop ∧ stop ≤ items.length then
    .ok ((items.drop start.toNat).take (stop - start).toNat)
  else .error .sliceBounds

/-- The part of a list that is asked for. -/
def slicePage (items : List α) (pg : PaginationParams) : Except Panic (List α) :=
  let start := if (items.length : ℤ) < pg.offset then (items.length : ℤ) else pg.offset
  let stop := wrap (start + pg.pageSize)
  let stop := if (items.length : ℤ) < stop then (items.length : ℤ) else stop
  slice items start stop

/-- The number of all parts. -/
def PaginationParams.totalPages (p : PaginationParams) (total : ℤ) : Except Panic ℤ :=
  if p.pageSize = 0 then .error .divideByZero
  else
    let totalPages := wrap (total.tdiv p.pageSize)
    if 0 < total.tmod p.pageSize then .ok (wrap (totalPages + 1)) else .ok totalPages

/-- A page of a size, as a request asks for it. -/
def pageOf (page pageSize : ℤ) : PaginationParams :=
  ⟨page, pageSize, wrap (wrap (page - 1) * pageSize)⟩

/-- What is read of a request is a page. -/
theorem parsePagination_eq_pageOf (page pageSize : String) (defaultPageSize maxPageSize : ℤ) :
    let pg := parsePagination page pageSize defaultPageSize maxPageSize
    pg = pageOf pg.page pg.pageSize :=
  rfl

/-! ## Machine integers -/

/-- The machine integers. -/
def IsInt (n : ℤ) : Prop := -2 ^ 63 ≤ n ∧ n < 2 ^ 63

theorem wrap_of_isInt {n : ℤ} (h : IsInt n) : wrap n = n := by
  unfold IsInt at h
  unfold wrap
  rw [Int.bmod_eq_of_le] <;> omega

/-- A machine integer that is not negative is the remainder. -/
theorem wrap_nonneg_iff (n : ℤ) : 0 ≤ wrap n ↔ n % 2 ^ 64 < 2 ^ 63 := by
  unfold wrap
  rw [Int.bmod_def]
  split_ifs <;> omega

theorem wrap_of_emod_lt {n : ℤ} (h : n % 2 ^ 64 < 2 ^ 63) : wrap n = n % 2 ^ 64 := by
  unfold wrap
  rw [Int.bmod_def, if_pos (by omega)]
  rfl

theorem isInt_wrap (n : ℤ) : IsInt (wrap n) := by
  unfold wrap IsInt
  rw [Int.bmod_def]
  split_ifs <;> omega

/-! ## Slices and divisions that do not panic -/

/-- **What a part of a list is.** The end of the part may exceed what a machine integer holds. -/
theorem slicePage_eq {items : List α} (hlen : (items.length : ℤ) < 2 ^ 63) {pg : PaginationParams}
    (hoffset : 0 ≤ pg.offset) (hsize : 1 ≤ pg.pageSize) (hint : IsInt pg.pageSize) :
    slicePage items pg =
      if min pg.offset items.length + pg.pageSize < 2 ^ 63 then
        .ok ((items.drop pg.offset.toNat).take pg.pageSize.toNat)
      else .error .sliceBounds := by
  obtain ⟨page, size, offset⟩ := pg
  dsimp only at hoffset hsize hint ⊢
  unfold slicePage
  dsimp only
  set start := if (items.length : ℤ) < offset then (items.length : ℤ) else offset with hstart
  have hmin : min offset items.length = start := by
    rw [hstart]
    split_ifs <;> omega
  have hstart0 : 0 ≤ start ∧ start ≤ items.length := by omega
  rw [hmin]
  by_cases hfits : start + size < 2 ^ 63
  · rw [if_pos hfits, wrap_of_isInt ⟨by omega, hfits⟩]
    split_ifs with hlong
    · -- the part is cut off at the end of the list
      rw [slice, if_pos ⟨hstart0.1, hstart0.2, le_rfl⟩]
      congr 1
      rcases le_or_gt (items.length : ℤ) offset with hpast | hinside
      · rw [List.drop_eq_nil_of_le (by omega), List.drop_eq_nil_of_le (by omega)]
        simp
      · have hsame : start = offset := by omega
        rw [hsame, List.take_of_length_le (by rw [List.length_drop]; omega),
          List.take_of_length_le (by rw [List.length_drop]; omega)]
    · have hsame : start = offset := by omega
      rw [slice, if_pos (by omega), hsame]
      congr 2
      omega
  · have hwrap : wrap (start + size) < 0 := by
      rw [← not_le, wrap_nonneg_iff]
      unfold IsInt at hint
      omega
    rw [if_neg hfits, if_neg (by omega), slice, if_neg (by omega)]

/-- A size that a machine integer holds divides a total without a panic. -/
theorem totalPages_eq {pg : PaginationParams} (hsize : 1 ≤ pg.pageSize) {total : ℤ}
    (htotal : 0 ≤ total) (hint : total < 2 ^ 63) :
    pg.totalPages total = .ok ((total + pg.pageSize - 1) / pg.pageSize) := by
  set size := pg.pageSize with hs
  have hdiv := Int.mul_ediv_add_emod total size
  have hmod := Int.emod_nonneg total (show size ≠ 0 by omega)
  have hlt := Int.emod_lt_of_pos total (show 0 < size by omega)
  have hle : total / size ≤ total := Int.ediv_le_self size htotal
  have hnonneg : 0 ≤ total / size := Int.ediv_nonneg htotal (by omega)
  rw [PaginationParams.totalPages, ← hs, if_neg (by omega), Int.tdiv_eq_ediv_of_nonneg htotal,
    Int.tmod_eq_emod_of_nonneg htotal, wrap_of_isInt ⟨by omega, by omega⟩]
  dsimp only
  -- the total is a number of full pages, and a rest
  have hsplit : total + size - 1 = (total % size + size - 1) + size * (total / size) := by omega
  rw [hsplit, Int.add_mul_ediv_left _ _ (show size ≠ 0 by omega)]
  split_ifs with hrest
  · have htwo : total / size * 2 ≤ total / size * size :=
      mul_le_mul_of_nonneg_left (by omega) hnonneg
    have hone : (total % size + size - 1) / size = 1 := by
      have hshift : total % size + size - 1 = (total % size - 1) + size * 1 := by omega
      rw [hshift, Int.add_mul_ediv_left _ _ (by omega), Int.ediv_eq_zero_of_lt (by omega) (by omega)]
      rfl
    rw [wrap_of_isInt ⟨by omega, by rw [mul_comm size] at hdiv; omega⟩, hone, add_comm]
  · have hzero : (total % size + size - 1) / size = 0 := Int.ediv_eq_zero_of_lt (by omega) (by omega)
    rw [hzero, zero_add]

/-! ## Requests -/

/-- The largest size of a page: a handler that names none means 100. -/
def pageLimit (maxPageSize : ℤ) : ℤ := if maxPageSize ≤ 0 then 100 else maxPageSize

/-- A request for a part of a list, with the query of its address. -/
def paginate (query : String → String) (defaultPageSize maxPageSize : ℤ) (items : List α)
    (total : ℤ) : Except Panic (List α × ℤ) :=
  let pg := parsePagination (query "page") (query "pageSize") defaultPageSize maxPageSize
  match slicePage items pg, pg.totalPages total with
  | .ok data, .ok totalPages => .ok (data, totalPages)
  | .error e, _ => .error e
  | .ok _, .error e => .error e

/-- **A request is answered from a valid part of the list**, and nothing panics. -/
def Paginated (query : String → String) (defaultPageSize maxPageSize : ℤ) (items : List α)
    (total : ℤ) : Prop :=
  let pg := parsePagination (query "page") (query "pageSize") defaultPageSize maxPageSize
  (∃ answer, paginate query defaultPageSize maxPageSize items total = .ok answer) ∧
    1 ≤ pg.pageSize ∧ pg.pageSize ≤ pageLimit maxPageSize ∧ 0 ≤ pg.offset

/-- The number of a text of digits. -/
def decimal (s : String) : ℕ := s.toList.foldl (fun n c => n * 10 + (c.toNat - '0'.toNat)) 0

/-- The number that a text asks for, of those that 64 bits tell apart. -/
def asked (s : String) (defaultVal : ℤ) : ℤ :=
  if (s.toList.all fun c => '0' ≤ c && c ≤ '9') ∧ decimal s % 2 ^ 64 ≠ 0 then
    (decimal s % 2 ^ 64 : ℕ)
  else defaultVal

/-- The size of a page that a request asks for. -/
def askedSize (query : String → String) (defaultPageSize maxPageSize : ℤ) : ℤ :=
  min (pageLimit maxPageSize) (asked (query "pageSize") defaultPageSize)

/-- Where the page that a request asks for begins, of the positions that 64 bits tell apart. -/
def askedOffset (query : String → String) (defaultPageSize maxPageSize : ℤ) : ℤ :=
  (asked (query "page") 1 - 1) * askedSize query defaultPageSize maxPageSize % 2 ^ 64

/-- No number of a request wraps around: the size of a page, where the page begins, and where it
ends. -/
structure Fits (query : String → String) (defaultPageSize maxPageSize : ℤ) (items : List α) :
    Prop where
  size : asked (query "pageSize") defaultPageSize < 2 ^ 63
  offset : askedOffset query defaultPageSize maxPageSize < 2 ^ 63
  stop : min (askedOffset query defaultPageSize maxPageSize) items.length +
    askedSize query defaultPageSize maxPageSize < 2 ^ 63

theorem wrap_step (n m k : ℤ) : wrap (wrap n * m + k) = wrap (n * m + k) := by
  unfold wrap
  rw [← Int.bmod_add_bmod, Int.bmod_mul_bmod, Int.bmod_add_bmod]

/-- The digits are read into a machine integer. -/
theorem foldl_wrap (digits : List Char) (n : ℕ) :
    digits.foldl (fun val c => wrap (val * 10 + (c.toNat - '0'.toNat : ℕ))) (wrap n) =
      wrap (digits.foldl (fun n c => n * 10 + (c.toNat - '0'.toNat)) n : ℕ) := by
  induction digits generalizing n with
  | nil => rw [List.foldl_nil, List.foldl_nil]
  | cons c digits ih =>
    rw [List.foldl_cons, List.foldl_cons, wrap_step, ← ih, Nat.cast_add, Nat.cast_mul,
      Nat.cast_ofNat]

theorem wrap_natCast_mod (n : ℕ) : wrap (n % 2 ^ 64 : ℕ) = wrap n := by
  rw [wrap, wrap, Int.natCast_mod, Int.emod_bmod]

theorem parseIntOrDefault_eq (s : String) (defaultVal : ℤ) (h : IsInt defaultVal) :
    parseIntOrDefault s defaultVal = wrap (asked s defaultVal) := by
  have hread := foldl_wrap s.toList 0
  rw [Nat.cast_zero, wrap_of_isInt (by constructor <;> norm_num), ← decimal] at hread
  have hzero : wrap (decimal s) = 0 ↔ decimal s % 2 ^ 64 = 0 := by
    rw [← wrap_natCast_mod]
    unfold wrap
    rw [Int.bmod_def]
    split_ifs <;> omega
  unfold parseIntOrDefault asked
  simp only [hread, hzero]
  by_cases hdigits : (s.toList.all fun c => '0' ≤ c && c ≤ '9') = true
  · by_cases hn : decimal s % 2 ^ 64 = 0
    · rw [if_pos hdigits, if_pos hn, if_neg (fun hand => hand.2 hn), wrap_of_isInt h]
    · rw [if_pos hdigits, if_neg hn, if_pos ⟨hdigits, hn⟩, wrap_natCast_mod]
  · rw [if_neg hdigits, if_neg (fun hand => hdigits hand.1), wrap_of_isInt h]

theorem asked_pos (s : String) {defaultVal : ℤ} (h : 1 ≤ defaultVal) : 1 ≤ asked s defaultVal := by
  unfold asked
  split_ifs with hread
  · exact_mod_cast Nat.one_le_iff_ne_zero.2 hread.2
  · exact h

theorem asked_lt (s : String) {defaultVal : ℤ} (h : defaultVal < 2 ^ 63) :
    asked s defaultVal < 2 ^ 64 := by
  unfold asked
  split_ifs <;> omega

section Requests

variable {query : String → String} {defaultPageSize maxPageSize : ℤ}

/-- **What a request reads** of the texts in its query. -/
theorem parsePagination_eq (hdefault : 1 ≤ defaultPageSize) (hint : defaultPageSize < 2 ^ 63) :
    parsePagination (query "page") (query "pageSize") defaultPageSize maxPageSize =
      ⟨wrap (asked (query "page") 1),
        min (pageLimit maxPageSize) (wrap (asked (query "pageSize") defaultPageSize)),
        wrap ((asked (query "page") 1 - 1) *
          min (pageLimit maxPageSize) (wrap (asked (query "pageSize") defaultPageSize)))⟩ := by
  have hpage := parseIntOrDefault_eq (query "page") 1 ⟨by norm_num, by norm_num⟩
  have hsize := parseIntOrDefault_eq (query "pageSize") defaultPageSize
    ⟨by omega, hint⟩
  have hmin (a b : ℤ) : (if a < b then a else b) = min a b := by
    split_ifs <;> omega
  have hoffset (n m : ℤ) : wrap (wrap (wrap n - 1) * m) = wrap ((n - 1) * m) := by
    rw [wrap, wrap, wrap, wrap, Int.bmod_mul_bmod, ← Int.bmod_mul_bmod, Int.bmod_sub_bmod,
      Int.bmod_mul_bmod]
  simp only [parsePagination, hpage, hsize, hmin, hoffset]
  rfl

variable {items : List α} {total : ℤ}

/-- **A request is answered from a valid part of the list** exactly if none of its numbers wraps
around. -/
theorem paginated_iff (hdefault : 1 ≤ defaultPageSize) (hdefault' : defaultPageSize < 2 ^ 63)
    (hmax : maxPageSize < 2 ^ 63) (hlen : (items.length : ℤ) < 2 ^ 63) (htotal : 0 ≤ total)
    (htotal' : total < 2 ^ 63) :
    Paginated query defaultPageSize maxPageSize items total ↔
      Fits query defaultPageSize maxPageSize items := by
  have hlimit : 1 ≤ pageLimit maxPageSize ∧ pageLimit maxPageSize < 2 ^ 63 := by
    unfold pageLimit
    split_ifs <;> omega
  set size := asked (query "pageSize") defaultPageSize with hsize
  have hpos : 1 ≤ size := asked_pos _ hdefault
  have hlt : size < 2 ^ 64 := asked_lt _ hdefault'
  unfold Paginated paginate
  rw [parsePagination_eq hdefault hdefault', ← hsize]
  dsimp only
  by_cases hsmall : size < 2 ^ 63
  · -- the size of the page is read as it was asked for
    have hask : askedSize query defaultPageSize maxPageSize = min (pageLimit maxPageSize) size := rfl
    rw [wrap_of_isInt ⟨by omega, hsmall⟩, ← hask]
    set n := (asked (query "page") 1 - 1) * askedSize query defaultPageSize maxPageSize with hn
    have hoffset : askedOffset query defaultPageSize maxPageSize = n % 2 ^ 64 := rfl
    by_cases hbegin : n % 2 ^ 64 < 2 ^ 63
    · have hnonneg : 0 ≤ wrap n := (wrap_nonneg_iff n).2 hbegin
      rw [slicePage_eq hlen hnonneg (by dsimp only; omega) (by unfold IsInt; dsimp only; omega),
        totalPages_eq (by dsimp only; omega) htotal htotal']
      dsimp only
      rw [wrap_of_emod_lt hbegin, ← hoffset]
      split_ifs with hstop
      · refine iff_of_true ⟨⟨_, rfl⟩, by omega, by omega, by omega⟩ ⟨hsmall, by omega, hstop⟩
      · refine iff_of_false ?_ fun h => hstop h.stop
        rintro ⟨⟨answer, hanswer⟩, -⟩
        exact nomatch hanswer
    · refine iff_of_false (fun h => hbegin ((wrap_nonneg_iff n).1 h.2.2.2)) fun h => hbegin ?_
      rw [← hoffset]
      exact h.offset
  · refine iff_of_false (fun h => hsmall ?_) fun h => hsmall h.size
    have hwrap : 0 ≤ wrap size := by omega
    have hmod := (wrap_nonneg_iff size).1 hwrap
    omega

/-- A request that fits: the second page of two. -/
theorem paginated_second_page :
    Paginated (fun key => if key = "page" then "2" else "") 2 100 ["a", "b", "c"] 3 := by
  refine (paginated_iff (by decide) (by decide) (by decide) (by decide) (by decide)
    (by decide)).2 ⟨by decide, by decide, by decide⟩

/-- A size of 19 digits is read as a negative number, and the slice panics. -/
theorem not_paginated_large_size :
    let query := fun key => if key = "pageSize" then "9223372036854775808" else ""
    paginate query 20 100 ["a", "b", "c"] 3 = .error .sliceBounds ∧
      ¬ Paginated query 20 100 ["a", "b", "c"] 3 := by
  intro query
  have hpanic : paginate query 20 100 ["a", "b", "c"] 3 = .error .sliceBounds := by
    decide +kernel
  refine ⟨hpanic, ?_⟩
  rintro ⟨⟨answer, hanswer⟩, -⟩
  rw [hpanic] at hanswer
  exact nomatch hanswer

end Requests

/-! ## Pages that tile a list -/

/-- **The pages of a list tile it**: all have the size of a page but the last, which is not empty,
and what is asked for after the last is empty. -/
structure Tiling (items : List α) (pageSize totalPages : ℤ) (pages : List (List α)) : Prop where
  count : (pageOf 1 pageSize).totalPages items.length = .ok totalPages
  page : List.Forall₂ (fun (k : ℕ) page => slicePage items (pageOf (k + 1) pageSize) = .ok page)
    (List.range totalPages.toNat) pages
  flatten : pages.flatten = items
  full : ∀ page ∈ pages.dropLast, (page.length : ℤ) = pageSize
  last : ∀ page ∈ pages.getLast?, page ≠ [] ∧ (page.length : ℤ) ≤ pageSize
  later : ∀ page, totalPages < page → page < 2 ^ 63 → (page - 1) * pageSize < 2 ^ 63 →
    slicePage items (pageOf page pageSize) = .ok []

/-- The first pages of a list are the beginning of the list. -/
theorem flatten_pages (items : List α) (size n : ℕ) :
    ((List.range n).map fun k => (items.drop (k * size)).take size).flatten =
      items.take (n * size) := by
  rw [← List.flatMap_def]
  exact Foundations.Paging.read_const size items n

/-- A page that begins where a machine integer can say. -/
theorem slicePage_pageOf {items : List α} (hlen : items.length < 2 ^ 63) {k size : ℕ}
    (hsize : 1 ≤ size) (hint : size < 2 ^ 63) (hbegin : k * size < 2 ^ 63) :
    slicePage items (pageOf (k + 1) size) =
      if min (k * size) items.length + size < 2 ^ 63 then .ok ((items.drop (k * size)).take size)
      else .error .sliceBounds := by
  have hk : k ≤ k * size := Nat.le_mul_of_pos_right k hsize
  have hoffset : wrap (wrap ((k : ℤ) + 1 - 1) * size) = (k * size : ℕ) := by
    rw [add_sub_cancel_right, wrap_of_isInt (n := k) ⟨by omega, by omega⟩, ← Nat.cast_mul,
      wrap_of_isInt ⟨by omega, by omega⟩]
  rw [pageOf, hoffset, slicePage_eq (by omega) (by dsimp only; omega) (by dsimp only; omega)
    (by unfold IsInt; dsimp only; omega)]
  dsimp only
  rw [Int.toNat_natCast, Int.toNat_natCast]
  congr 1
  rw [eq_iff_iff]
  omega

/-- The number of the pages of a list. -/
def pageCount (length size : ℕ) : ℕ := (length + size - 1) / size

variable {length size : ℕ}

theorem le_pageCount_mul (hsize : 1 ≤ size) : length ≤ pageCount length size * size := by
  have hdiv := Nat.div_add_mod (length + size - 1) size
  have hlt := Nat.mod_lt (length + size - 1) hsize
  rw [pageCount, mul_comm]
  omega

theorem mul_lt_of_lt_pageCount (hsize : 1 ≤ size) {k : ℕ} (hk : k < pageCount length size) :
    k * size < length := by
  have hle : (k + 1) * size ≤ length + size - 1 := (Nat.le_div_iff_mul_le hsize).1 hk
  rw [Nat.succ_mul] at hle
  omega

theorem totalPages_pageOf {items : List α} (hlen : items.length < 2 ^ 63) (hsize : 1 ≤ size) :
    (pageOf 1 size).totalPages items.length = .ok (pageCount items.length size : ℕ) := by
  rw [totalPages_eq (by unfold pageOf; dsimp only; omega) (by omega) (by omega), pageOf, pageCount]
  congr 1
  push_cast [show 1 ≤ items.length + size by omega]
  rfl

section Tiles

variable {items : List α} (hlen : items.length < 2 ^ 63) (hsize : 1 ≤ size) (hint : size < 2 ^ 63)

include hlen hsize hint

/-- The pages up to the last, when a page and the list fit together. -/
theorem slicePage_of_lt (hfits : items.length + size < 2 ^ 63 ∨ size = 1) {k : ℕ}
    (hk : k < pageCount items.length size) :
    slicePage items (pageOf (k + 1) size) = .ok ((items.drop (k * size)).take size) := by
  have hbegin := mul_lt_of_lt_pageCount hsize hk
  rw [slicePage_pageOf hlen hsize hint (by omega), if_pos]
  rcases hfits with hfits | rfl <;> omega

/-- What follows the last page is empty. -/
theorem slicePage_of_le (hfits : items.length + size < 2 ^ 63 ∨ size = 1) {k : ℕ}
    (hk : pageCount items.length size ≤ k) (hpage : k + 1 < 2 ^ 63) (hbegin : k * size < 2 ^ 63) :
    slicePage items (pageOf (k + 1) size) = .ok [] := by
  have hpast : items.length ≤ k * size :=
    (le_pageCount_mul hsize).trans (Nat.mul_le_mul_right size hk)
  rw [slicePage_pageOf hlen hsize hint hbegin, if_pos, List.drop_eq_nil_of_le hpast, List.take_nil]
  rcases hfits with hfits | rfl <;> omega

theorem tiling_pages (hfits : items.length + size < 2 ^ 63 ∨ size = 1) :
    Tiling items size (pageCount items.length size : ℕ)
      ((List.range (pageCount items.length size)).map fun k =>
        (items.drop (k * size)).take size) := by
  have hlength (k : ℕ) : ((items.drop (k * size)).take size).length =
      min size (items.length - k * size) := by
    rw [List.length_take, List.length_drop]
  refine ⟨totalPages_pageOf hlen hsize, ?_, ?_, ?_, ?_, ?_⟩
  · rw [Int.toNat_natCast, List.forall₂_map_right_iff, List.forall₂_same]
    intro k hk
    exact slicePage_of_lt hlen hsize hint hfits (List.mem_range.1 hk)
  · rw [flatten_pages, List.take_of_length_le (le_pageCount_mul hsize)]
  · intro page hpage
    rw [← List.map_dropLast, List.mem_map] at hpage
    obtain ⟨k, hk, rfl⟩ := hpage
    -- the page after it begins inside of the list
    have hnext : k + 1 < pageCount items.length size := by
      generalize pageCount items.length size = n at hk
      cases n with
      | zero => exact absurd hk List.not_mem_nil
      | succ n =>
        rw [List.range_succ, List.dropLast_concat, List.mem_range] at hk
        omega
    have hend := mul_lt_of_lt_pageCount hsize hnext
    rw [Nat.succ_mul] at hend
    rw [hlength]
    omega
  · intro page hpage
    obtain ⟨k, hk, rfl⟩ := List.mem_map.1 (List.mem_of_getLast? hpage)
    have hbegin := mul_lt_of_lt_pageCount hsize (List.mem_range.1 hk)
    refine ⟨?_, ?_⟩
    · rw [← List.length_pos_iff, hlength]
      omega
    · rw [hlength]
      omega
  · intro page hlater hpage hbegin
    obtain ⟨k, rfl⟩ : ∃ k : ℕ, page = k + 1 := ⟨(page - 1).toNat, by omega⟩
    rw [add_sub_cancel_right] at hbegin
    exact slicePage_of_le hlen hsize hint hfits (by omega) (by omega) (by exact_mod_cast hbegin)

/-- **The pages of a list tile it** exactly if the list and a page fit in a machine integer
together, or a page has one element. -/
theorem tiled_iff :
    (∃ totalPages pages, Tiling items size totalPages pages) ↔
      items.length + size < 2 ^ 63 ∨ size = 1 := by
  constructor
  · rintro ⟨totalPages, pages, h⟩
    have hcount := h.count
    rw [totalPages_pageOf hlen hsize] at hcount
    obtain rfl := Except.ok.inj hcount
    by_contra hlarge
    rw [not_or, not_lt] at hlarge
    have hcover : items.length ≤ pageCount items.length size * size := le_pageCount_mul hsize
    set n := pageCount items.length size with hn
    rcases Nat.lt_or_ge (n * size) (2 ^ 63) with hlater | hlast
    · -- what follows the last page is asked for, and ends past what a machine integer holds
      have htwo : n * 2 ≤ n * size := Nat.mul_le_mul_left n (by omega)
      have hempty := h.later (n + 1) (by omega) (by omega)
        (by rw [add_sub_cancel_right]; exact_mod_cast hlater)
      rw [slicePage_pageOf hlen hsize hint hlater, if_neg (by omega)] at hempty
      exact nomatch hempty
    · -- the last page itself ends there
      have hpos : n ≠ 0 := fun hzero => by
        rw [hzero, zero_mul] at hlast
        exact absurd hlast (by decide)
      obtain ⟨m, hm⟩ := Nat.exists_eq_succ_of_ne_zero hpos
      have hbegin : m * size < items.length := mul_lt_of_lt_pageCount hsize (by omega)
      rw [hm, Nat.succ_mul] at hlast
      have hall := h.page
      have hrange : m < (List.range (n : ℤ).toNat).length := by
        rw [List.length_range]
        omega
      have hpage := hall.get hrange (hall.length_eq ▸ hrange)
      rw [List.get_eq_getElem, List.getElem_range] at hpage
      dsimp only at hpage
      rw [slicePage_pageOf hlen hsize hint (by omega), if_neg (by omega)] at hpage
      exact nomatch hpage
  · exact fun hfits => ⟨_, _, tiling_pages hlen hsize hint hfits⟩

end Tiles

/-- The pages of five elements, two by two. -/
theorem tiled_two_by_two : ∃ totalPages pages, Tiling [1, 2, 3, 4, 5] (2 : ℕ) totalPages pages :=
  (tiled_iff (by decide) (by decide) (by decide)).2 (.inl (by decide))

/-- Asked for a second page of the largest size, the program panics. -/
theorem not_tiled_largest_page :
    ¬ ∃ totalPages pages, Tiling ["a"] (2 ^ 63 - 1 : ℕ) totalPages pages := by
  rintro ⟨totalPages, pages, h⟩
  have hone : (pageOf 1 (2 ^ 63 - 1 : ℕ)).totalPages (["a"].length : ℤ) = .ok 1 := by
    decide
  obtain rfl := Except.ok.inj (h.count.symm.trans hone)
  have hpanic : slicePage ["a"] (pageOf 2 (2 ^ 63 - 1 : ℕ)) = .error .sliceBounds := by
    decide
  have hempty := h.later 2 (by norm_num) (by norm_num) (by norm_num)
  rw [hpanic] at hempty
  exact nomatch hempty

end AeroxeBee.Tenants
