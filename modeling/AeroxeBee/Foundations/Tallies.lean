import AeroxeBee.Foundations.Redis
import Mathlib.Data.Finset.Dedup
import Mathlib.Data.Finset.Card

/-!
# Tallies

Numbers and sets that are kept under keys which expire. A key that is not there stands for nothing
counted; one that is there is of use only as long as it lasts.

* `Counts.incr`, `Collects.sAdd`: what a command that counts makes of a tally, and its reply;
* `Tally.expire`: a new time to live that is long enough keeps a tally.
-/

namespace Foundations

/-! ## Numbers in keys -/

theorem toList_toString (n : ℤ) : (toString n).toList = Json.intLit n := by
  unfold Json.intLit
  cases n with
  | ofNat m =>
    have hnonneg : ¬ Int.ofNat m < 0 := (Int.natCast_nonneg m).not_gt
    rw [if_neg hnonneg]
    exact String.toList_ofList
  | negSucc m =>
    rw [if_pos (Int.negSucc_lt_zero m)]
    change ("-" ++ Nat.repr (m + 1)).toList = _
    rw [String.toList_append]
    exact congrArg ('-' :: ·) String.toList_ofList

/-- The text of an integer tells it. -/
theorem toString_injective : Function.Injective (toString : ℤ → String) := by
  intro n m h
  have hlist : Json.intLit n = Json.intLit m := by rw [← toList_toString, h, toList_toString]
  refine Option.some.inj ?_
  rw [← Json.parseInt_intLit n, hlist, Json.parseInt_intLit]

/-! ## Tallies -/

/-- The entry exists until a time at least. -/
def RedisEntry.Lasts (t : ℤ) (entry : RedisEntry) : Prop := ∀ u, entry.expires = some u → t ≤ u

/-- What is kept under a key until a time: a value that stands for the tally, or nothing for a tally
that is empty. -/
def Tally (t : ℤ) (vacant : Prop) (P : RedisValue → Prop) : Option RedisEntry → Prop
  | none => vacant
  | some entry => P entry.value ∧ entry.Lasts t

namespace Tally

variable {t now : ℤ} {vacant : Prop} {P : RedisValue → Prop}

/-- A tally that lasts is found. -/
theorem live {K : Keyspace} {key : String} (h : Tally t vacant P (K key)) (hnow : now ≤ t) :
    Tally t vacant P (K.live now key) := by
  unfold Keyspace.live
  cases hentry : K key with
  | none =>
    rw [hentry] at h
    exact h
  | some entry =>
    rw [hentry] at h
    have hfresh : Keyspace.fresh now entry = true := by
      unfold Keyspace.fresh
      cases hexpires : entry.expires with
      | none => rfl
      | some u => exact decide_eq_true (hnow.trans (h.2 u hexpires))
    rwa [Option.filter, if_pos hfresh]

/-- A new time to live. -/
theorem expire {entry : Option RedisEntry} (h : Tally t vacant P entry) (now : ℤ) (key : String)
    {ttl : ℤ} (hpos : 0 < ttl) (hlong : t ≤ now + ttl) :
    Tally t vacant P ((RedisCmd.expire key ttl).reply now entry).2 := by
  rw [RedisCmd.reply, if_neg hpos.not_ge]
  cases entry with
  | none => exact h
  | some entry =>
    refine ⟨h.1, fun u hu => ?_⟩
    obtain rfl := Option.some.inj hu
    exact hlong

end Tally

/-- A number that is kept under a key until a time. -/
def Counts (t : ℤ) (n : ℕ) : Option RedisEntry → Prop :=
  Tally t (n = 0) (· = .text (Json.intLit n))

/-- **Counting one more.** -/
theorem Counts.incr {t : ℤ} {n : ℕ} {entry : Option RedisEntry} (h : Counts t n entry) (now : ℤ)
    (key : String) :
    ((RedisCmd.incr key).reply now entry).1 = .ok (n + 1 : ℤ) ∧
      Counts t (n + 1) ((RedisCmd.incr key).reply now entry).2 := by
  cases entry with
  | none =>
    obtain rfl : n = 0 := h
    exact ⟨rfl, rfl, nofun⟩
  | some entry =>
    obtain ⟨value, expires⟩ := entry
    obtain ⟨hvalue, hlasts⟩ := h
    dsimp only at hvalue
    subst hvalue
    simp only [RedisCmd.reply, Json.parseInt_intLit, true_and]
    exact ⟨rfl, hlasts⟩

/-- A set that is kept under a key until a time. -/
def Collects (t : ℤ) (S : Finset String) : Option RedisEntry → Prop :=
  Tally t (S = ∅) fun value =>
    ∃ members : List String, value = .set members ∧ members.Nodup ∧ members.toFinset = S

/-- **Adding a member.** -/
theorem Collects.sAdd {t : ℤ} {S : Finset String} {entry : Option RedisEntry}
    (h : Collects t S entry) (now : ℤ) (key member : String) :
    ((RedisCmd.sAdd key member).reply now entry).1 = .ok () ∧
      Collects t (insert member S) ((RedisCmd.sAdd key member).reply now entry).2 := by
  cases entry with
  | none =>
    obtain rfl : S = ∅ := h
    exact ⟨rfl, ⟨[member], rfl, List.nodup_singleton _, rfl⟩, nofun⟩
  | some entry =>
    obtain ⟨value, expires⟩ := entry
    obtain ⟨⟨members, hvalue, hnodup, rfl⟩, hlasts⟩ := h
    dsimp only at hvalue
    subst hvalue
    refine ⟨rfl, ⟨members.insert member, rfl, hnodup.insert, ?_⟩, hlasts⟩
    ext x
    simp

/-- The size of the set. -/
theorem Collects.sCard {t : ℤ} {S : Finset String} {entry : Option RedisEntry}
    (h : Collects t S entry) (now : ℤ) (key : String) :
    ((RedisCmd.sCard key).reply now entry).1 = .ok S.card := by
  cases entry with
  | none =>
    obtain rfl : S = ∅ := h
    rfl
  | some entry =>
    obtain ⟨value, expires⟩ := entry
    obtain ⟨⟨members, hvalue, hnodup, rfl⟩, -⟩ := h
    dsimp only at hvalue
    subst hvalue
    rw [List.toFinset_card_of_nodup hnodup]
    rfl

end Foundations
