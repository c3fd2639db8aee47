import AeroxeBee.Worker.Queue

/-!
# What the commands do to the streams

`Moved` lists, once for all, what a command can do to a stream and which event it leaves in the
log of a run; `effect_moved` says that the list is complete. What the proofs about runs need of a
single command is derived from it: `Moved.added` for the entries of a stream and `Moved.served`
for those that a group has delivered.
-/

namespace AeroxeBee.Worker

open Foundations

/-! ## What an event tells -/

/-- Whether the server executed the command that received this reply. -/
def executed {α : Type} : Except RedisErr α → Bool
  | .ok _ => true
  | .error (.lost _) => true
  | .error _ => false

/-- The entry an event appended to a stream. -/
def appendedOn (name : String) : Event WorkerCmd → Option Fields
  | ⟨.xAdd name' values _, reply⟩ => if name' = name ∧ executed reply then some values else none
  | _ => none

/-- The entry an event delivered to a consumer of the group from a stream. -/
def deliveredFrom (group name : String) : Event WorkerCmd → Option (Fields × ℕ)
  | ⟨.xReadGroup group' _ name', .ok ((id, values) :: _)⟩ =>
    if group' = group ∧ name' = name then some (values, id) else none
  | _ => none

/-- The entry an event took off the pending list of a stream, with the group. -/
def ackedOn (name : String) : Event WorkerCmd → Option (String × ℕ)
  | ⟨.xAck name' group id, reply⟩ => if name' = name ∧ executed reply then some (group, id) else none
  | _ => none

/-! ## The moves of a stream -/

theorem setStream_streams (w : World) (name name' : String) (s : Stream Fields) :
    (w.setStream name s).streams name' = if name' = name then s else w.streams name' := by
  simp [World.setStream, Function.update_apply]

/-- **What a command can do to a stream**, and which event it leaves. -/
inductive Moved (name : String) :
    Event WorkerCmd → Stream Fields → Stream Fields → Prop
  | same {ev : Event WorkerCmd} {s : Stream Fields} (hadd : appendedOn name ev = none)
      (hread : ∀ group, deliveredFrom group name ev = none) (hack : ackedOn name ev = none) :
      Moved name ev s s
  | xAdd {s : Stream Fields} (values : Fields) (maxLen : ℤ) (limit : Option ℕ) (trim : ℕ)
      {reply : Except RedisErr ℕ} (h : executed reply = true) :
      Moved name ⟨.xAdd name values maxLen, reply⟩ s (s.add values limit trim).2
  | xReadGroup {s : Stream Fields} (group consumer : String) (now : ℤ) {id : ℕ} {values : Fields}
      {reply : Except RedisErr (List (ℕ × Fields))}
      (h : (s.read group consumer now).1 = some (id, values))
      (hreply : reply = .ok [(id, values)] ∨ ∃ text, reply = .error (.lost text)) :
      Moved name ⟨.xReadGroup group consumer name, reply⟩ s (s.read group consumer now).2
  | xAck {s : Stream Fields} (group : String) (id : ℕ) {reply : Except RedisErr Unit}
      (h : executed reply = true) :
      Moved name ⟨.xAck name group id, reply⟩ s (s.ack group id)
  | xClaim {s : Stream Fields} (group consumer : String) (minIdle now : ℤ) (id : ℕ)
      {reply : Except RedisErr (List (ℕ × Fields))} :
      Moved name ⟨.xClaim name group consumer minIdle id, reply⟩ s
        (s.claim group consumer minIdle now id).2

/-- Every command moves every stream in one of these ways. -/
theorem effect_moved {β : Type} (t : Tick) (w : World) (e : WorkerCmd β) (name : String) :
    Moved name ⟨e, (effect t w e).1⟩ (w.streams name) ((effect t w e).2.streams name) := by
  cases e with
  | now => exact .same rfl (fun _ => rfl) rfl
  | getCnt => exact .same rfl (fun _ => rfl) rfl
  | setCnt n => exact .same rfl (fun _ => rfl) rfl
  | handle lane msg => exact .same rfl (fun _ => rfl) rfl
  | stopRequested => exact .same rfl (fun _ => rfl) rfl
  | xAdd name' values maxLen =>
    by_cases hn : name' = name
    · subst hn
      cases hf : t.fault with
      | none =>
        simpa [effect, redis, Fault.apply, hf, setStream_streams] using .xAdd values maxLen _ _ rfl
      | refused text =>
        simpa [effect, redis, Fault.apply, hf] using .same (by simp [appendedOn, executed])
          (fun _ => rfl) rfl
      | lost text =>
        simpa [effect, redis, Fault.apply, hf, setStream_streams] using .xAdd values maxLen _ _ rfl
    · have hsame : (effect t w (.xAdd name' values maxLen)).2.streams name = w.streams name := by
        cases hf : t.fault <;>
          simp [effect, redis, Fault.apply, hf, setStream_streams, Ne.symm hn]
      rw [hsame]
      exact .same (by simp [appendedOn, hn]) (fun _ => rfl) rfl
  | xReadGroup group consumer name' =>
    by_cases hn : name' = name
    · subst hn
      cases hr : (w.streams name').read group consumer w.clock with
      | mk entry s =>
        cases entry with
        | none =>
          have hsame : (effect t w (.xReadGroup group consumer name')).2.streams name' =
              w.streams name' := by
            cases hf : t.fault <;> simp [effect, redis, Fault.apply, hf, hr]
          have hread : ∀ group', deliveredFrom group' name' ⟨.xReadGroup group consumer name',
              (effect t w (.xReadGroup group consumer name')).1⟩ = none := by
            cases hf : t.fault <;> simp [effect, redis, Fault.apply, hf, hr, deliveredFrom]
          rw [hsame]
          exact .same rfl hread rfl
        | some entry =>
          have hmove : ∀ reply, (reply = .ok [entry] ∨ ∃ text, reply = .error (.lost text)) →
              Moved name' ⟨.xReadGroup group consumer name', reply⟩ (w.streams name') s := by
            intro reply h
            have hfst : ((w.streams name').read group consumer w.clock).1 = some entry := by rw [hr]
            have := @Moved.xReadGroup name' _ group consumer w.clock _ _ reply hfst h
            rwa [hr] at this
          cases hf : t.fault with
          | none => simpa [effect, redis, Fault.apply, hf, hr, setStream_streams] using hmove _ (.inl rfl)
          | refused text =>
            simpa [effect, redis, Fault.apply, hf] using .same rfl (fun _ => rfl) rfl
          | lost text =>
            simpa [effect, redis, Fault.apply, hf, hr, setStream_streams] using
              hmove _ (.inr ⟨text, rfl⟩)
    · have hsame : (effect t w (.xReadGroup group consumer name')).2.streams name =
          w.streams name := by
        cases hr : (w.streams name').read group consumer w.clock with
        | mk entry s =>
          cases hf : t.fault <;> cases entry <;>
            simp [effect, redis, Fault.apply, hf, hr, setStream_streams, Ne.symm hn]
      have hread : ∀ group', deliveredFrom group' name ⟨.xReadGroup group consumer name',
          (effect t w (.xReadGroup group consumer name')).1⟩ = none := by
        intro group'
        rcases (effect t w (.xReadGroup group consumer name')).1 with e | (_ | ⟨⟨id, values⟩, _⟩) <;>
          simp [deliveredFrom, hn]
      rw [hsame]
      exact .same rfl hread rfl
  | xAck name' group id =>
    by_cases hn : name' = name
    · subst hn
      cases hf : t.fault with
      | none => simpa [effect, redis, Fault.apply, hf, setStream_streams] using .xAck group id rfl
      | refused text =>
        simpa [effect, redis, Fault.apply, hf] using .same rfl (fun _ => rfl)
          (by simp [ackedOn, executed])
      | lost text => simpa [effect, redis, Fault.apply, hf, setStream_streams] using .xAck group id rfl
    · have hsame : (effect t w (.xAck name' group id)).2.streams name = w.streams name := by
        cases hf : t.fault <;> simp [effect, redis, Fault.apply, hf, setStream_streams, Ne.symm hn]
      rw [hsame]
      exact .same rfl (fun _ => rfl) (by simp [ackedOn, hn])
  | xPendingExt name' group count =>
    have hsame : (effect t w (.xPendingExt name' group count)).2.streams name = w.streams name := by
      cases hf : t.fault <;> simp [effect, redis, Fault.apply, hf]
    rw [hsame]
    exact .same rfl (fun _ => rfl) rfl
  | xClaim name' group consumer minIdle id =>
    by_cases hn : name' = name
    · subst hn
      cases hf : t.fault with
      | none =>
        simpa [effect, redis, Fault.apply, hf, setStream_streams] using
          .xClaim group consumer minIdle w.clock id
      | refused text =>
        simpa [effect, redis, Fault.apply, hf] using .same rfl (fun _ => rfl) rfl
      | lost text =>
        simpa [effect, redis, Fault.apply, hf, setStream_streams] using
          .xClaim group consumer minIdle w.clock id
    · have hsame : (effect t w (.xClaim name' group consumer minIdle id)).2.streams name =
          w.streams name := by
        cases hf : t.fault <;> simp [effect, redis, Fault.apply, hf, setStream_streams, Ne.symm hn]
      rw [hsame]
      exact .same rfl (fun _ => rfl) rfl

theorem step_moved {β : Type} (w : World) (e : WorkerCmd β) (name : String) :
    Moved name ⟨e, (worker.step e w).1⟩ (w.streams name) ((worker.step e w).2.streams name) :=
  effect_moved _ _ e name

theorem Moved.added {name : String} {ev : Event WorkerCmd} {s s' : Stream Fields}
    (h : Moved name ev s s') : s'.added = s.added ++ (appendedOn name ev).toList := by
  cases h with
  | same hadd => simp [hadd]
  | xAdd values maxLen limit trim h => simp [appendedOn, h, Stream.add]
  | xReadGroup group consumer now => simp [appendedOn]
  | xAck group id => simp [appendedOn]
  | xClaim group consumer minIdle now id => simp [appendedOn]

theorem Moved.served {name group : String} {ev : Event WorkerCmd} {s s' : Stream Fields}
    {out : List (Fields × ℕ)} (h : Moved name ev s s') (hs : Stream.Served group out s) :
    Stream.Served group (out ++ (deliveredFrom group name ev).toList) s' := by
  cases h with
  | same _ hread => simpa [hread] using hs
  | xAdd values maxLen limit trim h => simpa [deliveredFrom] using hs.add values limit trim
  | xReadGroup group' consumer now h hreply =>
    by_cases hg : group' = group
    · subst hg
      have hserved := hs.read consumer now
      rw [h] at hserved
      rcases hreply with rfl | ⟨text, rfl⟩
      · simpa [deliveredFrom] using hserved
      · simpa [deliveredFrom] using hserved.of_append
    · have hs' := hs.congr (Stream.read_added consumer now s)
        (by rw [Stream.read_groups (Ne.symm hg)])
      rcases hreply with rfl | ⟨text, rfl⟩ <;> simpa [deliveredFrom, hg] using hs'
  | xAck group' id => simpa [deliveredFrom] using hs.congr (by simp) (by simp)
  | xClaim group' consumer minIdle now id =>
    simpa [deliveredFrom] using hs.congr (by simp) (by simp)

/-- A group never goes back. -/
theorem Moved.next_le {name : String} {ev : Event WorkerCmd} {s s' : Stream Fields}
    (h : Moved name ev s s') (group : String) :
    (s.groups group).next ≤ (s'.groups group).next := by
  cases h with
  | same => exact le_rfl
  | xAdd values maxLen limit trim => exact le_rfl
  | @xReadGroup _ group' consumer now id values _ h =>
    by_cases hg : group = group'
    · subst hg
      rcases Stream.read_cases group consumer now s with ⟨-, hr⟩ | ⟨v, -, hr⟩
      · rw [hr]
      · rw [hr]
        simp only [Function.update_self]
        exact (le_max_left _ _).trans (Nat.le_succ _)
    · rw [Stream.read_groups hg]
  | xAck group' id => simp
  | xClaim group' consumer minIdle now id => simp

/-- What a group delivers it has not delivered before. -/
theorem Moved.next_le_delivered {name group : String} {ev : Event WorkerCmd} {s s' : Stream Fields}
    {values : Fields} {id : ℕ} (h : Moved name ev s s')
    (hev : deliveredFrom group name ev = some (values, id)) : (s.groups group).next ≤ id := by
  cases h with
  | same _ hread => simp [hread] at hev
  | @xReadGroup _ group' consumer now id' values' _ h hreply =>
    rcases hreply with rfl | ⟨text, rfl⟩
    · simp only [deliveredFrom, and_true] at hev
      split_ifs at hev with hg
      cases hev
      subst hg
      rcases Stream.read_cases group' consumer now s with ⟨-, hr⟩ | ⟨v, -, hr⟩
      · simp [hr] at h
      · obtain ⟨rfl, -⟩ : Stream.cursor group' s = id ∧ v = values := by simpa [hr] using h
        exact le_max_left _ _
    · cases hev
  | xAdd => cases hev
  | xAck => cases hev
  | xClaim => cases hev

end AeroxeBee.Worker
