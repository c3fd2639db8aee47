import Mathlib.Data.List.Induction
import Mathlib.Tactic.Common

/-!
# Tables into which rows are written by key

An upsert writes to the rows with its key, or adds a row with it if there is none. Writes of one key
overwrite each other, so that of many upserts the last of each key counts.

* `exists_of_last`: what is written last to a key is in the table;
* `foldl_upsert_eq_self_iff`: upserts leave a table as it is exactly if the last of each key writes
  what is there already.
-/

namespace Foundations

/-- How a table is written to: the keys of the rows and of the writes, the row that a write adds, and
what it leaves of a row that is there. -/
structure Writing (α β κ : Type*) where
  key : α → κ
  target : β → κ
  create : β → α
  overwrite : β → α → α
  key_create : ∀ b, key (create b) = target b
  key_overwrite : ∀ b a, key (overwrite b a) = key a
  overwrite_overwrite : ∀ b b' a, overwrite b' (overwrite b a) = overwrite b' a

namespace Writing

variable {α β κ : Type*} [DecidableEq κ] (W : Writing α β κ)

/-- The rows after a write. -/
def upsert (rows : List α) (b : β) : List α :=
  if rows.any (W.key · = W.target b) then
    rows.map fun a => if W.key a = W.target b then W.overwrite b a else a
  else rows ++ [W.create b]

/-- The last write to a key. -/
def last (writes : List β) (k : κ) : Option β := writes.reverse.find? (W.target · = k)

/-- What some writes leave of a row. -/
def written (writes : List β) (a : α) : α := ((W.last writes (W.key a)).map (W.overwrite · a)).getD a

variable {W} {rows : List α} {writes : List β} {a : α} {b : β} {k : κ}

theorem last_concat (writes : List β) (b : β) (k : κ) :
    W.last (writes ++ [b]) k = if W.target b = k then some b else W.last writes k := by
  rw [last, List.reverse_append, List.reverse_singleton, List.singleton_append, List.find?_cons]
  by_cases h : W.target b = k <;> simp [h, last]

theorem target_of_last (h : W.last writes k = some b) : W.target b = k := by
  simpa using List.find?_some h

/-! ## What is written -/

/-- A row that was written stays until its key is written to again. -/
theorem mem_upsert_of_ne (ha : a ∈ rows) (hne : W.key a ≠ W.target b) : a ∈ W.upsert rows b := by
  unfold upsert
  split_ifs
  · exact List.mem_map.2 ⟨a, ha, if_neg hne⟩
  · exact List.mem_append_left _ ha

/-- After a write there is a row with its key, as the write leaves one. -/
theorem exists_mem_upsert (rows : List α) (b : β) :
    ∃ a ∈ W.upsert rows b, W.key a = W.target b ∧ (a = W.create b ∨ ∃ a', a = W.overwrite b a') := by
  unfold upsert
  split_ifs with hany
  · rw [List.any_eq_true] at hany
    obtain ⟨a, ha, hkey⟩ := hany
    have hkey' : W.key a = W.target b := by simpa using hkey
    refine ⟨W.overwrite b a, List.mem_map.2 ⟨a, ha, if_pos hkey'⟩, ?_, .inr ⟨a, rfl⟩⟩
    rw [W.key_overwrite, hkey']
  · exact ⟨W.create b, List.mem_append_right _ (List.mem_singleton_self _), W.key_create b, .inl rfl⟩

/-- **What is written last to a key is in the table.** -/
theorem exists_of_last (rows : List α) (h : W.last writes k = some b) :
    ∃ a ∈ writes.foldl W.upsert rows,
      W.key a = k ∧ (a = W.create b ∨ ∃ a', a = W.overwrite b a') := by
  induction writes using List.reverseRecOn with
  | nil => cases h
  | append_singleton writes c ih =>
    rw [List.foldl_append, List.foldl_cons, List.foldl_nil]
    rw [last_concat] at h
    split_ifs at h with hkey
    · obtain rfl := Option.some.inj h
      obtain ⟨a, ha, hmine, hrow⟩ := exists_mem_upsert (W := W) (writes.foldl W.upsert rows) c
      exact ⟨a, ha, hmine.trans hkey, hrow⟩
    · obtain ⟨a, ha, hmine, hrow⟩ := ih h
      exact ⟨a, mem_upsert_of_ne ha (hmine ▸ Ne.symm hkey), hmine, hrow⟩

/-! ## Writes that change nothing -/

theorem key_written (writes : List β) (a : α) : W.key (W.written writes a) = W.key a := by
  unfold written
  cases W.last writes (W.key a) with
  | none => rfl
  | some b => exact W.key_overwrite b a

/-- Of the writes to a row the last counts. -/
theorem written_concat (writes : List β) (b : β) (a : α) :
    W.written (writes ++ [b]) a =
      if W.key a = W.target b then W.overwrite b (W.written writes a) else W.written writes a := by
  unfold written
  rw [last_concat]
  by_cases hkey : W.target b = W.key a
  · rw [if_pos hkey, if_pos hkey.symm]
    cases W.last writes (W.key a) with
    | none => rfl
    | some c => exact (W.overwrite_overwrite c b a).symm
  · rw [if_neg hkey, if_neg (Ne.symm hkey)]

/-- Writes to keys that are there change the rows one by one. -/
theorem foldl_upsert_of_keys (h : ∀ b ∈ writes, W.target b ∈ rows.map W.key) :
    writes.foldl W.upsert rows = rows.map (W.written writes) := by
  induction writes using List.reverseRecOn with
  | nil => exact (List.map_id rows).symm
  | append_singleton writes b ih =>
    rw [List.foldl_append, List.foldl_cons, List.foldl_nil,
      ih fun c hc => h c (List.mem_append_left _ hc)]
    have hthere : ((rows.map (W.written writes)).any (W.key · = W.target b)) = true := by
      obtain ⟨a, ha, hkey⟩ := List.mem_map.1 (h b (List.mem_append_right _ (List.mem_singleton_self b)))
      rw [List.any_map, List.any_eq_true]
      exact ⟨a, ha, by simp [key_written, hkey]⟩
    rw [upsert, if_pos hthere, List.map_map]
    refine List.map_congr_left fun a _ => ?_
    rw [Function.comp_apply, key_written, written_concat]

/-- A write adds a row exactly if its key is new. -/
theorem length_upsert (rows : List α) (b : β) :
    (W.upsert rows b).length = rows.length + if W.target b ∈ rows.map W.key then 0 else 1 := by
  have hiff : (rows.any (W.key · = W.target b)) = true ↔ W.target b ∈ rows.map W.key := by
    simp [List.mem_map]
  unfold upsert
  simp only [hiff]
  split_ifs <;> simp

theorem length_le_foldl_upsert (writes : List β) (rows : List α) :
    rows.length ≤ (writes.foldl W.upsert rows).length := by
  induction writes generalizing rows with
  | nil => exact Nat.le_refl _
  | cons b writes ih =>
    have hstep : rows.length ≤ (W.upsert rows b).length := by
      rw [length_upsert]
      omega
    exact Nat.le_trans hstep (ih _)

/-- A write to a key that is there keeps the keys. -/
theorem keys_upsert (h : W.target b ∈ rows.map W.key) :
    (W.upsert rows b).map W.key = rows.map W.key := by
  have hany : (rows.any (W.key · = W.target b)) = true := by
    simpa [List.mem_map] using h
  rw [upsert, if_pos hany, List.map_map]
  refine List.map_congr_left fun a _ => ?_
  rw [Function.comp_apply]
  split_ifs
  · exact W.key_overwrite b a
  · rfl

/-- Writes add no row only if their keys are there. -/
theorem mem_keys_of_length (h : (writes.foldl W.upsert rows).length = rows.length) :
    ∀ b ∈ writes, W.target b ∈ rows.map W.key := by
  induction writes generalizing rows with
  | nil => exact fun b hb => absurd hb List.not_mem_nil
  | cons b writes ih =>
    have hstep := length_upsert (W := W) rows b
    have hrest := length_le_foldl_upsert (W := W) writes (W.upsert rows b)
    rw [List.foldl_cons] at h
    have hkey : W.target b ∈ rows.map W.key := by
      by_contra hnew
      rw [if_neg hnew] at hstep
      omega
    rw [if_pos hkey, Nat.add_zero] at hstep
    intro c hc
    rcases List.mem_cons.1 hc with rfl | hc
    · exact hkey
    · rw [← keys_upsert hkey]
      exact ih (h.trans hstep.symm) c hc

/-- **Upserts leave a table as it is** exactly if their keys are there and the last write to each key
leaves its rows as they are. -/
theorem foldl_upsert_eq_self_iff :
    writes.foldl W.upsert rows = rows ↔
      (∀ b ∈ writes, W.target b ∈ rows.map W.key) ∧
        ∀ a ∈ rows, ∀ b, W.last writes (W.key a) = some b → W.overwrite b a = a := by
  have hwritten : rows.map (W.written writes) = rows ↔
      ∀ a ∈ rows, ∀ b, W.last writes (W.key a) = some b → W.overwrite b a = a := by
    conv_lhs => rhs; rw [← List.map_id rows]
    rw [List.map_inj_left]
    refine forall₂_congr fun a _ => ?_
    unfold written
    cases W.last writes (W.key a) with
    | none => simp
    | some b => simp
  constructor
  · intro h
    have hkeys := mem_keys_of_length (congrArg List.length h)
    rw [foldl_upsert_of_keys hkeys] at h
    exact ⟨hkeys, hwritten.1 h⟩
  · rintro ⟨hkeys, hlast⟩
    rw [foldl_upsert_of_keys hkeys, hwritten.2 hlast]

end Writing

end Foundations
