import Mathlib.Data.Int.Basic
import Mathlib.Data.List.Basic
import Mathlib.Order.Interval.Finset.Nat
import Mathlib.Logic.Function.Basic
import Mathlib.Order.Basic
import Mathlib.Tactic.SplitIfs

/-!
# Append-only streams with consumer groups

The stream of a Redis server, over an arbitrary type of entries. Entries are numbered from `0` in
the order in which they were added. Trimming removes the oldest ones, which keep their numbers.
A consumer group hands every entry to one of its consumers and remembers it as pending until it
is acknowledged.

* `Stream.add`, `Stream.read`, `Stream.ack`, `Stream.pendingRange`, `Stream.claim`: the commands
  `XADD`, `XREADGROUP` for new entries, `XACK`, `XPENDING`, `XCLAIM`;
* `Stream.read_cases`: what a read can do;
* `Stream.Served`: the entries handed out are a subsequence of those that were added;
* `Stream.keeps_waiting_iff`: when adding an entry cannot cost an entry that still waits.
-/

namespace Foundations

/-- An entry that was handed to a consumer and not acknowledged. -/
structure Pending where
  id : ℕ
  consumer : String
  deliveredAt : ℤ
  deliveries : ℕ
deriving DecidableEq

/-- A consumer group: the number after the last entry handed out, and the pending entries. -/
structure Group where
  next : ℕ
  pending : List Pending

/-- A stream with its consumer groups. -/
structure Stream (V : Type) where
  added : List V
  trimmed : ℕ
  groups : String → Group

namespace Stream

variable {V : Type}

/-- The stream that never had an entry. -/
def empty : Stream V := ⟨[], 0, fun _ => ⟨0, []⟩⟩

/-- Add an entry. Where a maximal length is given the server may remove any number of the oldest
entries beyond it: `trim` is the number it would like to remove. -/
def add (v : V) (maxLen : Option ℕ) (trim : ℕ) (s : Stream V) : ℕ × Stream V :=
  let excess := match maxLen with
    | some n => s.added.length + 1 - s.trimmed - n
    | none => 0
  (s.added.length, { s with added := s.added ++ [v], trimmed := s.trimmed + min trim excess })

/-- The number of the entry a group hands out next. -/
def cursor (group : String) (s : Stream V) : ℕ := max (s.groups group).next s.trimmed

/-- Hand the next entry to a consumer, if there is one. -/
def read (group consumer : String) (now : ℤ) (s : Stream V) : Option (ℕ × V) × Stream V :=
  let id := s.cursor group
  match s.added[id]? with
  | none => (none, s)
  | some v =>
    (some (id, v), { s with
      groups := Function.update s.groups group
        ⟨id + 1, (s.groups group).pending ++ [⟨id, consumer, now, 1⟩]⟩ })

/-- Take an entry off the pending list. -/
def ack (group : String) (id : ℕ) (s : Stream V) : Stream V :=
  let g := s.groups group
  { s with
    groups := Function.update s.groups group { g with pending := g.pending.filter (·.id ≠ id) } }

/-- The oldest pending entries with the time since their delivery. -/
def pendingRange (group : String) (count : ℕ) (now : ℤ) (s : Stream V) : List (ℕ × ℤ) :=
  ((s.groups group).pending.take count).map fun p => (p.id, now - p.deliveredAt)

/-- Make a consumer the owner of an entry that has been pending for `minIdle`. The entry itself is
returned, unless it has been trimmed. -/
def claim (group consumer : String) (minIdle now : ℤ) (id : ℕ) (s : Stream V) :
    Option (ℕ × V) × Stream V :=
  let g := s.groups group
  if g.pending.any fun p => p.id = id ∧ minIdle ≤ now - p.deliveredAt then
    ((if s.trimmed ≤ id then s.added[id]?.map (id, ·) else none), { s with
      groups := Function.update s.groups group { g with
        pending := g.pending.map fun p =>
          if p.id = id then ⟨id, consumer, now, p.deliveries + 1⟩ else p } })
  else (none, s)

/-- **What a read can do**: nothing, or hand out the entry at the cursor. -/
theorem read_cases (group consumer : String) (now : ℤ) (s : Stream V) :
    (s.added.length ≤ s.cursor group ∧ s.read group consumer now = (none, s)) ∨
      ∃ v, s.added[s.cursor group]? = some v ∧ s.read group consumer now =
        (some (s.cursor group, v), { s with
          groups := Function.update s.groups group ⟨s.cursor group + 1,
            (s.groups group).pending ++ [⟨s.cursor group, consumer, now, 1⟩]⟩ }) := by
  cases h : s.added[s.cursor group]? with
  | none => exact .inl ⟨List.getElem?_eq_none_iff.1 h, by simp [read, h]⟩
  | some v => exact .inr ⟨v, rfl, by simp [read, h]⟩

/-! ## What a group has handed out -/

/-- The entries `out`, with their numbers, are some of those the group has passed, in their
order; entries the group has not passed yet are still to come. -/
structure Served (group : String) (out : List (V × ℕ)) (s : Stream V) : Prop where
  sublist : out.Sublist (s.added.take (s.groups group).next).zipIdx
  next_le : (s.groups group).next ≤ s.added.length

variable {group : String} {out : List (V × ℕ)} {s : Stream V}

theorem served_empty : Served group [] (empty : Stream V) := ⟨by simp, by simp [empty]⟩

/-- Numbering a prefix numbers a prefix of the numbered list. -/
theorem zipIdx_sublist {l l' : List V} (h : l <+: l') : l.zipIdx.Sublist l'.zipIdx := by
  obtain ⟨t, rfl⟩ := h
  rw [List.zipIdx_append]
  exact List.sublist_append_left _ _

/-- The entries handed out are a subsequence of all that were ever added. -/
theorem Served.sublist_added (h : Served group out s) : out.Sublist s.added.zipIdx :=
  h.sublist.trans (zipIdx_sublist (List.take_prefix _ _))

theorem Served.add (h : Served group out s) (v : V) (maxLen : Option ℕ) (trim : ℕ) :
    Served group out (s.add v maxLen trim).2 where
  sublist := by
    have htake : (s.added ++ [v]).take (s.groups group).next = s.added.take (s.groups group).next :=
      List.take_append_of_le_length h.next_le
    simpa [Stream.add, htake] using h.sublist
  next_le := by
    have := h.next_le
    simp only [Stream.add, List.length_append, List.length_singleton]
    omega

/-- A read by the group continues the sequence by the entry it hands out. -/
theorem Served.read (h : Served group out s) (consumer : String) (now : ℤ) :
    Served group (out ++ ((s.read group consumer now).1.map Prod.swap).toList)
      (s.read group consumer now).2 := by
  rcases read_cases group consumer now s with ⟨-, hr⟩ | ⟨v, hv, hr⟩
  · simpa [hr] using h
  · obtain ⟨hlt, hget⟩ := List.getElem?_eq_some_iff.1 hv
    rw [hr]
    refine ⟨?_, by simpa using Nat.succ_le_of_lt hlt⟩
    have htake : (s.added.take (s.cursor group + 1)).zipIdx =
        (s.added.take (s.cursor group)).zipIdx ++ [(v, s.cursor group)] := by
      rw [List.take_succ_eq_append_getElem hlt, List.zipIdx_append, hget]
      simp [Nat.min_eq_left hlt.le]
    have hprefix : (s.added.take (s.groups group).next).zipIdx.Sublist
        (s.added.take (s.cursor group)).zipIdx :=
      zipIdx_sublist (List.take_prefix_take_left (le_max_left _ _))
    simpa [htake] using (h.sublist.trans hprefix).append_right [(v, s.cursor group)]

/-- Only the entries and the position of the group matter. -/
theorem Served.congr {s' : Stream V} (h : Served group out s) (hadded : s'.added = s.added)
    (hnext : (s'.groups group).next = (s.groups group).next) : Served group out s' := by
  refine ⟨?_, ?_⟩
  · rw [hadded, hnext]
    exact h.sublist
  · rw [hadded, hnext]
    exact h.next_le

/-- What was handed out without being seen can be left out of the sequence. -/
theorem Served.of_append {more : List (V × ℕ)} (h : Served group (out ++ more) s) :
    Served group out s :=
  ⟨(List.sublist_append_left _ _).trans h.sublist, h.next_le⟩

@[simp] theorem read_added (consumer : String) (now : ℤ) (s : Stream V) :
    (s.read group consumer now).2.added = s.added := by
  rcases read_cases group consumer now s with ⟨-, hr⟩ | ⟨v, -, hr⟩ <;> rw [hr]

theorem read_groups {other : String} (hne : other ≠ group) (consumer : String) (now : ℤ)
    (s : Stream V) : (s.read group consumer now).2.groups other = s.groups other := by
  rcases read_cases group consumer now s with ⟨-, hr⟩ | ⟨v, -, hr⟩ <;> rw [hr]
  exact Function.update_of_ne hne _ _

@[simp] theorem ack_added (id : ℕ) (s : Stream V) : (s.ack group id).added = s.added := rfl

@[simp] theorem ack_next (other : String) (id : ℕ) (s : Stream V) :
    ((s.ack group id).groups other).next = (s.groups other).next := by
  by_cases h : other = group
  · subst h
    simp [ack]
  · simp [ack, h]

@[simp] theorem claim_added (consumer : String) (minIdle now : ℤ) (id : ℕ) (s : Stream V) :
    (s.claim group consumer minIdle now id).2.added = s.added := by
  simp only [claim]
  split_ifs <;> rfl

@[simp] theorem claim_next (other consumer : String) (minIdle now : ℤ) (id : ℕ) (s : Stream V) :
    ((s.claim group consumer minIdle now id).2.groups other).next = (s.groups other).next := by
  by_cases h : other = group
  · subst h
    simp only [claim]
    split_ifs <;> simp
  · simp only [claim]
    split_ifs <;> simp [h]

/-! ## What is pending -/

/-- The numbers of the entries that are pending in a group. -/
def pendingIds (group : String) (s : Stream V) : List ℕ := (s.groups group).pending.map Pending.id

@[simp] theorem pendingIds_add (v : V) (maxLen : Option ℕ) (trim : ℕ) (s : Stream V) :
    (s.add v maxLen trim).2.pendingIds group = s.pendingIds group := rfl

/-- A read makes the entry it hands out pending, and no other. -/
theorem pendingIds_read (other consumer : String) (now : ℤ) (s : Stream V) :
    (s.read group consumer now).2.pendingIds other =
      s.pendingIds other ++
        if other = group then ((s.read group consumer now).1.map Prod.fst).toList else [] := by
  rcases read_cases group consumer now s with ⟨-, hr⟩ | ⟨v, -, hr⟩
  · by_cases h : other = group <;> simp [hr, h]
  · by_cases h : other = group
    · subst h
      simp [hr, pendingIds]
    · simp [hr, pendingIds, h]

theorem mem_pendingIds_ack {other : String} {id id' : ℕ} {s : Stream V} :
    id' ∈ (s.ack group id).pendingIds other ↔
      id' ∈ s.pendingIds other ∧ ¬ (other = group ∧ id' = id) := by
  by_cases h : other = group
  · subst h
    simp only [pendingIds, ack, Function.update_self, List.mem_map, List.mem_filter,
      decide_eq_true_eq, true_and]
    constructor
    · rintro ⟨p, ⟨hp, hne⟩, rfl⟩
      exact ⟨⟨p, hp, rfl⟩, hne⟩
    · rintro ⟨⟨p, hp, rfl⟩, hne⟩
      exact ⟨p, ⟨hp, hne⟩, rfl⟩
  · simp [pendingIds, ack, h]

@[simp] theorem pendingIds_claim (other consumer : String) (minIdle now : ℤ) (id : ℕ)
    (s : Stream V) :
    (s.claim group consumer minIdle now id).2.pendingIds other = s.pendingIds other := by
  by_cases h : other = group
  · subst h
    simp only [claim, pendingIds]
    split_ifs
    all_goals
      simp only [Function.update_self, List.map_map, List.map_inj_left, Function.comp_apply]
    all_goals
      intro p _
      split_ifs with hp
      · exact hp.symm
      · rfl
  · simp only [claim, pendingIds]
    split_ifs <;> simp [h]

/-! ## What is still to be done -/

/-- The entry with a number, unless it has been trimmed. -/
def entryAt? (s : Stream V) (id : ℕ) : Option V := if s.trimmed ≤ id then s.added[id]? else none

/-- The entry was handed out and has been acknowledged. -/
def Acked (group : String) (s : Stream V) (id : ℕ) : Prop :=
  id < (s.groups group).next ∧ id ∉ s.pendingIds group

instance (group : String) (s : Stream V) : DecidablePred (s.Acked group) :=
  fun _ => inferInstanceAs (Decidable (_ ∧ _))

/-- The entries of the stream that are not acknowledged. -/
def waiting (group : String) (s : Stream V) : Finset ℕ :=
  {id ∈ Finset.Ico s.trimmed s.added.length | ¬ s.Acked group id}

/-- There is room for one more entry: those that are then beyond the limit are acknowledged. -/
def Room (group : String) (limit : ℕ) (s : Stream V) : Prop :=
  ∀ id, s.trimmed ≤ id → id + limit ≤ s.added.length → s.Acked group id

theorem mem_waiting {id : ℕ} :
    id ∈ s.waiting group ↔ s.trimmed ≤ id ∧ id < s.added.length ∧ ¬ s.Acked group id := by
  simp [waiting, and_assoc]

/-- Where there is room, fewer entries wait than the limit. -/
theorem Room.card_waiting_lt {limit : ℕ} (hlimit : 0 < limit) (h : s.Room group limit) :
    (s.waiting group).card < limit := by
  have hsub : s.waiting group ⊆
      Finset.Ico (s.added.length + 1 - limit) s.added.length := by
    intro id hid
    obtain ⟨htrimmed, hlt, hnot⟩ := mem_waiting.1 hid
    have hbeyond : ¬ id + limit ≤ s.added.length := fun hle => hnot (h id htrimmed hle)
    rw [Finset.mem_Ico]
    omega
  have hcard := Finset.card_le_card hsub
  rw [Nat.card_Ico] at hcard
  omega

/-- **An entry that was not trimmed is kept.** -/
theorem entryAt?_add {v : V} {maxLen : Option ℕ} {trim id : ℕ} (hlt : id < s.added.length)
    (hkept : (s.add v maxLen trim).2.trimmed ≤ id) :
    (s.add v maxLen trim).2.entryAt? id = s.entryAt? id := by
  have htrimmed : s.trimmed ≤ id := le_trans (Nat.le_add_right _ _) hkept
  rw [entryAt?, entryAt?, if_pos hkept, if_pos htrimmed]
  exact List.getElem?_append_left hlt

/-- **Room is what it takes**: however much the server trims, nothing that waits is lost. -/
theorem keeps_waiting_iff {limit : ℕ} (hlimit : 0 < limit) (v : V) :
    (∀ trim, ∀ id ∈ s.waiting group, (s.add v (some limit) trim).2.entryAt? id = s.entryAt? id) ↔
      s.Room group limit := by
  constructor
  · intro hkeeps id htrimmed hle
    by_contra hnot
    have hlt : id < s.added.length := by omega
    have hkept := hkeeps (s.added.length + 1) id (mem_waiting.2 ⟨htrimmed, hlt, hnot⟩)
    -- the server trims all that it may, which reaches the entry
    have hgone : ¬ (s.add v (some limit) (s.added.length + 1)).2.trimmed ≤ id := by
      simp only [add]
      omega
    rw [entryAt?, if_neg hgone, entryAt?, if_pos htrimmed, List.getElem?_eq_getElem hlt] at hkept
    cases hkept
  · intro hroom trim id hid
    obtain ⟨htrimmed, hlt, hnot⟩ := mem_waiting.1 hid
    have hbeyond : ¬ id + limit ≤ s.added.length := fun hle => hnot (hroom id htrimmed hle)
    refine entryAt?_add hlt ?_
    simp only [add]
    omega

/-- Only entries that were acknowledged have been trimmed. -/
def Lossless (group : String) (s : Stream V) : Prop := ∀ id < s.trimmed, s.Acked group id

theorem Lossless.add (h : s.Lossless group) (v : V) {maxLen : Option ℕ} (trim : ℕ)
    (hroom : ∀ limit, maxLen = some limit → s.Room group limit) :
    (s.add v maxLen trim).2.Lossless group := by
  intro id hid
  change s.Acked group id
  by_cases hlt : id < s.trimmed
  · exact h id hlt
  · cases maxLen with
    | none =>
      simp only [Stream.add] at hid
      omega
    | some limit =>
      simp only [Stream.add] at hid
      exact hroom limit rfl id (by omega) (by omega)

theorem Lossless.ack (h : s.Lossless group) (other : String) (id : ℕ) :
    (s.ack other id).Lossless group := by
  intro id' hid'
  obtain ⟨hnext, hnot⟩ := h id' hid'
  refine ⟨by rwa [ack_next], fun hpending => hnot (mem_pendingIds_ack.1 hpending).1⟩

theorem Lossless.claim (h : s.Lossless group) (other consumer : String) (minIdle now : ℤ) (id : ℕ) :
    (s.claim other consumer minIdle now id).2.Lossless group := by
  intro id' hid'
  have htrimmed : (s.claim other consumer minIdle now id).2.trimmed = s.trimmed := by
    simp only [Stream.claim]
    split_ifs <;> rfl
  rw [htrimmed] at hid'
  unfold Acked
  rw [claim_next, pendingIds_claim]
  exact h id' hid'

/-- A group that has lost nothing reads on where it stopped. -/
theorem Lossless.cursor_eq (h : s.Lossless group) : s.cursor group = (s.groups group).next := by
  refine max_eq_left (le_of_not_gt fun hlt => ?_)
  have hacked := (h (s.groups group).next hlt).1
  omega

theorem Lossless.read (h : s.Lossless group) (other consumer : String) (now : ℤ) :
    (s.read other consumer now).2.Lossless group := by
  rcases read_cases other consumer now s with ⟨-, hr⟩ | ⟨v, -, hr⟩
  · rw [hr]
    exact h
  · intro id hid
    rw [hr] at hid ⊢
    obtain ⟨hnext, hnot⟩ := h id hid
    unfold Acked pendingIds
    by_cases hgroup : group = other
    · subst hgroup
      have hpending : id ∉ s.pendingIds group ++ [s.cursor group] := by
        rw [h.cursor_eq]
        simp only [List.mem_append, List.mem_singleton, not_or]
        exact ⟨hnot, by omega⟩
      simp only [Function.update_self, List.map_append, h.cursor_eq]
      refine ⟨by omega, ?_⟩
      rwa [h.cursor_eq] at hpending
    · simp only [Function.update_of_ne hgroup]
      exact ⟨hnext, hnot⟩

/-- Nothing is trimmed from a stream without a limit. -/
theorem keeps_of_unlimited {v : V} {trim id : ℕ} (hid : id ∈ s.waiting group) :
    (s.add v none trim).2.entryAt? id = s.entryAt? id := by
  obtain ⟨htrimmed, hlt, -⟩ := mem_waiting.1 hid
  refine entryAt?_add hlt ?_
  simp only [add]
  omega

end Stream

end Foundations
