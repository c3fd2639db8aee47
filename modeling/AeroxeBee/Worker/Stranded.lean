import AeroxeBee.Foundations.Protocol
import AeroxeBee.Worker.Moves
import AeroxeBee.Worker.Pass

/-!
# Entries that were read and not acknowledged

Producers, consumers and calls of `claimStale` run concurrently. `NotStranded` says of a state
what is asked of the queue: every pending entry is in the hands of a consumer or can be handed to
a handler again, and an entry whose attempts are used up is in the dead-letter stream and no
longer pending.

* `not_retriable`: an entry that was read once is never handed to a handler again, so `NotStranded`
  fails as soon as a consumer has moved on from a handler that failed;
* `not_stranded`: it holds in every state of every run in which no handler fails, every `XACK` is
  executed and no reply of `XREADGROUP` is lost.
-/

namespace AeroxeBee.Worker

open Foundations

/-- The parties of a run. -/
inductive Actor where
  | producer (lane : PriorityLane) (msg : QueueMessage)
  | consumer (name : String) (rounds : ℕ)
  | claimer (name : String) (order : List PriorityLane)

/-- The program of a party. -/
def Actor.prog (cfg : QueueConfig) : Actor → WorkerProg Unit
  | .producer lane msg => do
    let _ ← enqueue cfg lane msg
    return
  | .consumer name rounds => start cfg name rounds
  | .claimer name order => claimStale cfg name order

/-- The parties in the middle of a run. -/
abbrev Workers := Pool WorkerCmd World Unit

/-! ## What a log tells -/

/-- An entry of a stream. -/
abbrev EntryRef := String × ℕ

/-- What the consumers have in hand, and the entries whose handling failed. A consumer has the
entry that it read last in hand until it begins the next round of its loop. -/
structure Ledger where
  held : ℕ → Option EntryRef
  failed : List EntryRef

/-- Take account of an event of thread `i`. -/
def Ledger.next (group : String) (L : Ledger) (i : ℕ) : Event WorkerCmd → Ledger
  | ⟨.xReadGroup group' _ name, .ok ((id, _) :: _)⟩ =>
    if group' = group then { L with held := Function.update L.held i (some (name, id)) } else L
  | ⟨.stopRequested, _⟩ => { L with held := Function.update L.held i none }
  | ⟨.handle _ _, .error _⟩ => { L with failed := L.failed ++ (L.held i).toList }
  | _ => L

/-- The ledger of a log, for the consumers of one group. -/
def ledger (group : String) (log : List (ℕ × Event WorkerCmd)) : Ledger :=
  log.foldl (fun L x => L.next group x.1 x.2) ⟨fun _ => none, []⟩

/-! ## What is asked of a state -/

variable (cfg : QueueConfig)

/-- The group has delivered the entry and the entry has not been acknowledged. -/
def IsPending (w : World) (e : EntryRef) : Prop :=
  e.2 ∈ (w.streams e.1).pendingIds cfg.consumerGroupName

/-- The state continues to one in which a handler is about to receive the entry, with as many
attempts counted as its handling has failed. New parties may join, and the environment is free. -/
def Retriable (P : Workers) (e : EntryRef) : Prop :=
  ∃ (actors : List Actor) (env : List Tick) (sched : List ℕ) (i : ℕ) (lane : PriorityLane)
    (msg : QueueMessage) (k : Except String Unit → WorkerProg Unit),
    let P' := Pool.run worker { P with
      threads := P.threads ++ actors.map (Actor.prog cfg)
      state := { P.state with env := env } } sched
    P'.threads[i]? = some (.act (.handle lane msg) k) ∧ (ledger cfg.consumerGroupName P'.log).held i = some e ∧
      msg.attempts.toInt = (ledger cfg.consumerGroupName P.log).failed.count e

/-- The dead-letter stream holds the message of the entry, with its attempts counted. -/
def DeadLettered (w : World) (e : EntryRef) : Prop :=
  ∃ values ∈ (w.streams cfg.deadLetterStream).added, ∃ msg dead : QueueMessage,
    (w.streams e.1).added[e.2]?.bind decode = some msg ∧ decode values = some dead ∧
      dead = { msg with attempts := dead.attempts }

/-- **No entry is stranded.** -/
structure NotStranded (P : Workers) : Prop where
  pending : ∀ lane id, IsPending cfg P.state (cfg.stream lane, id) →
    (∃ i, (ledger cfg.consumerGroupName P.log).held i = some (cfg.stream lane, id)) ∨
      Retriable cfg P (cfg.stream lane, id)
  exhausted : ∀ lane id, 0 < (ledger cfg.consumerGroupName P.log).failed.count (cfg.stream lane, id) →
    cfg.maxDeliveryAttempts ≤ (ledger cfg.consumerGroupName P.log).failed.count (cfg.stream lane, id) →
      DeadLettered cfg P.state (cfg.stream lane, id) ∧
        ¬ IsPending cfg P.state (cfg.stream lane, id)

/-! ## Runs in which nothing fails -/

/-- The step did not fail: no handler returned an error, an acknowledgement was executed, and the
reply of a read arrived. -/
def Succeeds : Event WorkerCmd → Bool
  | ⟨.handle _ _, .error _⟩ => false
  | ⟨.xAck _ _ _, reply⟩ => executed reply
  | ⟨.xReadGroup _ _ _, .error (.lost _)⟩ => false
  | _ => true

/-- The entry that a thread has to acknowledge before anything else is read. -/
def owing (group : String) (h : Option EntryRef) : Event WorkerCmd → Option EntryRef
  | ⟨.xReadGroup group' _ name, .ok ((id, _) :: _)⟩ =>
    if group' = group then some (name, id) else h
  | ⟨.stopRequested, _⟩ => none
  | ⟨.xAck name _ id, _⟩ => if h = some (name, id) then none else h
  | _ => h

/-- The commands that may be issued while an entry is owed, or none is. -/
def Settled (h : Option EntryRef) : {β : Type} → WorkerCmd β → Prop
  | _, .xReadGroup group _ _ => h = none ∧ group = cfg.consumerGroupName
  | _, .xAck _ group _ => group = cfg.consumerGroupName
  | _, .stopRequested => h = none
  | _, _ => True

/-- The protocol of runs in which nothing fails: a consumer reads, and begins a round, only when
it owes no acknowledgement. -/
def settling : Protocol WorkerCmd (Option EntryRef) where
  allows := Settled cfg
  expects ev := Succeeds ev = true
  next := owing cfg.consumerGroupName

/-! ## The programs keep to the protocol -/

variable {cfg}

theorem keeps_enqueue (lane : PriorityLane) (msg : QueueMessage) (h : Option EntryRef) :
    (enqueue cfg lane msg).Keeps (settling cfg) (fun _ _ => True) h := by
  unfold enqueue
  cases cfg.stream? lane with
  | none => trivial
  | some name =>
    cases msg.marshal with
    | none => trivial
    | some data =>
      refine ⟨trivial, fun now _ => ⟨trivial, fun reply _ => ?_⟩⟩
      cases reply <;> trivial

theorem keeps_claimIdle (name consumer : String) (pending : List (ℕ × ℤ)) (h : Option EntryRef) :
    (claimIdle cfg name consumer pending).Keeps (settling cfg) (fun _ _ => True) h := by
  induction pending generalizing h with
  | nil => trivial
  | cons p pending ih =>
    simp only [claimIdle, Prog.call_bind]
    refine ⟨trivial, fun now _ => ?_⟩
    by_cases hidle : cfg.idleRetryThreshold < now - p.2
    · simp only [if_pos hidle]
      exact ⟨trivial, fun _ _ => ih _⟩
    · simp only [if_neg hidle]
      exact ih _

theorem keeps_claimStale (consumer : String) (order : List PriorityLane) (h : Option EntryRef) :
    (claimStale cfg consumer order).Keeps (settling cfg) (fun _ _ => True) h := by
  induction order generalizing h with
  | nil => trivial
  | cons lane order ih =>
    simp only [claimStale, Prog.call_bind]
    refine ⟨trivial, fun reply _ => ?_⟩
    cases reply with
    | error e => exact ih _
    | ok pending => exact (keeps_claimIdle _ _ _ _).bind fun h' _ _ => ih h'

/-- What a consumer owes after a pass: the entry it was given. -/
def OwedAfter (cfg : QueueConfig) (h : Option EntryRef) :
    Except String (Option Delivery) → Prop
  | .ok (some d) => h = some (cfg.stream d.lane, d.id)
  | _ => h = none

theorem keeps_readLane (consumer : String) (lane : PriorityLane)
    {rest : WorkerProg (Except String (Option Delivery))}
    (hrest : rest.Keeps (settling cfg) (OwedAfter cfg) none) :
    (readLane cfg cfg.consumerGroupName consumer lane rest).Keeps (settling cfg) (OwedAfter cfg)
      none := by
  simp only [readLane, Prog.call_bind, Prog.pure_eq]
  refine ⟨⟨rfl, rfl⟩, fun reply hreply => ?_⟩
  rcases reply with (_ | text | text) | (_ | ⟨⟨id, values⟩, more⟩)
  · exact hrest
  · exact rfl
  · cases hreply
  · exact hrest
  · have howed : (settling cfg).next none
        ⟨.xReadGroup cfg.consumerGroupName consumer (cfg.stream lane),
          .ok ((id, values) :: more)⟩ = some (cfg.stream lane, id) := if_pos rfl
    rw [howed]
    cases hd : decode values with
    | none =>
      simp only [hd]
      refine ⟨rfl, fun acked _ => ?_⟩
      have hpaid : (settling cfg).next (some (cfg.stream lane, id))
          ⟨.xAck (cfg.stream lane) cfg.consumerGroupName id, acked⟩ = none := if_pos rfl
      rw [hpaid]
      exact hrest
    | some msg =>
      simp only [hd]
      exact rfl

theorem keeps_dequeue (consumer : String) (lanes : List PriorityLane) :
    (dequeue cfg cfg.consumerGroupName consumer lanes).Keeps (settling cfg) (OwedAfter cfg)
      none := by
  induction lanes with
  | nil => exact rfl
  | cons lane lanes ih =>
    have hread := keeps_readLane consumer lane ih
    by_cases hm : lane = .marketing
    · subst hm
      rw [dequeue_marketing]
      refine ⟨trivial, fun cnt _ => ?_⟩
      by_cases hcnt : cnt < cfg.antiStarvationRatio
      · simp only [if_pos hcnt]
        exact ⟨trivial, fun _ _ => ⟨trivial, fun _ _ => ih⟩⟩
      · simp only [if_neg hcnt]
        exact ⟨trivial, fun _ _ => hread⟩
    · rw [dequeue_other hm]
      by_cases ho : lane = .otp
      · rw [if_pos ho]
        exact hread
      · rw [if_neg ho]
        exact ⟨trivial, fun _ _ => hread⟩

/-- A consumer that owes the entry it was given settles it. -/
theorem keeps_process (d : Delivery) :
    (process cfg d).Keeps (settling cfg) (fun h _ => h = none)
      (some (cfg.stream d.lane, d.id)) := by
  simp only [process, acknowledge, Prog.call_bind, Prog.pure_eq]
  refine ⟨trivial, fun reply hreply => ?_⟩
  rcases reply with e | ⟨⟩
  · cases hreply
  · exact ⟨rfl, fun acked _ => if_pos rfl⟩

theorem keeps_start (consumer : String) (rounds : ℕ) :
    (start cfg consumer rounds).Keeps (settling cfg) (fun _ _ => True) none := by
  induction rounds with
  | zero => trivial
  | succ n ih =>
    simp only [start, Prog.call_bind, Prog.pure_eq]
    refine ⟨rfl, fun stop _ => ?_⟩
    cases stop with
    | true => trivial
    | false =>
      refine (keeps_dequeue consumer lanes).bind fun h r hr => ?_
      rcases r with e | (_ | d)
      · obtain rfl : h = none := hr
        exact ih
      · obtain rfl : h = none := hr
        exact ih
      · obtain rfl : h = some (cfg.stream d.lane, d.id) := hr
        refine (keeps_process d).bind fun h' _ hpaid => ?_
        obtain rfl : h' = none := hpaid
        exact ih

theorem Actor.keeps (a : Actor) :
    (a.prog cfg).Keeps (settling cfg) (fun _ _ => True) none := by
  cases a with
  | producer lane msg => exact (keeps_enqueue lane msg none).bind fun _ _ _ => trivial
  | consumer name rounds => exact keeps_start name rounds
  | claimer name order => exact keeps_claimStale name order none

/-! ## What is pending is in hand -/

/-- A step that did not fail makes an entry pending only by delivering it, and takes off the
pending list what it acknowledges. -/
theorem Moved.pending {name group : String} {ev : Event WorkerCmd} {s s' : Stream Fields}
    (h : Moved name ev s s') (hev : Succeeds ev = true) {id : ℕ}
    (hid : id ∈ s'.pendingIds group) :
    (id ∈ s.pendingIds group ∧ ackedOn name ev ≠ some (group, id)) ∨
      ∃ values, deliveredFrom group name ev = some (values, id) := by
  cases h with
  | same hadd hread hack => exact .inl ⟨hid, by simp [hack]⟩
  | xAdd values maxLen limit trim h => exact .inl ⟨by simpa using hid, by simp [ackedOn]⟩
  | @xReadGroup _ group' consumer now id' values reply h hreply =>
    rw [Stream.pendingIds_read, List.mem_append] at hid
    rcases hid with hid | hid
    · exact .inl ⟨hid, by simp [ackedOn]⟩
    · rcases hreply with rfl | ⟨text, rfl⟩
      · by_cases hg : group = group'
        · subst hg
          obtain rfl : id = id' := by simpa [h] using hid
          exact .inr ⟨values, by simp [deliveredFrom]⟩
        · simp [hg] at hid
      · cases hev
  | xAck group' id' h =>
    obtain ⟨hold, hne⟩ := Stream.mem_pendingIds_ack.1 hid
    refine .inl ⟨hold, ?_⟩
    simp only [ackedOn, true_and, h, if_true]
    rintro ⟨rfl, rfl⟩
    exact hne ⟨rfl, rfl⟩
  | xClaim group' consumer minIdle now id' => exact .inl ⟨by simpa using hid, by simp [ackedOn]⟩

theorem ledger_concat (group : String) (log : List (ℕ × Event WorkerCmd)) (i : ℕ) (ev : Event WorkerCmd) :
    ledger group (log ++ [(i, ev)]) = (ledger group log).next group i ev := by
  simp [ledger]

theorem next_held_of_ne {group : String} {L : Ledger} {i j : ℕ} (hji : j ≠ i)
    (ev : Event WorkerCmd) : (L.next group j ev).held i = L.held i := by
  obtain ⟨cmd, reply⟩ := ev
  cases cmd with
  | xReadGroup group' consumer name =>
    rcases reply with e | (_ | ⟨⟨id, values⟩, more⟩)
    · rfl
    · rfl
    · simp only [Ledger.next]
      split_ifs
      · exact Function.update_of_ne (Ne.symm hji) _ _
      · rfl
  | stopRequested => exact Function.update_of_ne (Ne.symm hji) _ _
  | handle lane msg => cases reply <;> rfl
  | _ => rfl

theorem next_held_of_owing {group : String} {L : Ledger} {i : ℕ} {h : Option EntryRef}
    {ev : Event WorkerCmd} {e : EntryRef} (hh : ∀ e, h = some e → L.held i = some e)
    (hev : owing group h ev = some e) : (L.next group i ev).held i = some e := by
  obtain ⟨cmd, reply⟩ := ev
  cases cmd with
  | xReadGroup group' consumer name =>
    rcases reply with e' | (_ | ⟨⟨id, values⟩, more⟩)
    · exact hh e hev
    · exact hh e hev
    · simp only [Ledger.next, owing] at hev ⊢
      split_ifs at hev ⊢
      · exact (Function.update_self ..).trans hev
      · exact hh e hev
  | stopRequested => cases hev
  | xAck name group id =>
    by_cases hown : h = some (name, id)
    · cases (if_pos hown).symm.trans hev
    · exact hh e ((if_neg hown).symm.trans hev)
  | handle lane msg => cases reply <;> exact hh e hev
  | _ => exact hh e hev

/-- What a thread owes it has in hand. -/
theorem held_of_owing (group : String) (log : List (ℕ × Event WorkerCmd)) (i : ℕ) {e : EntryRef}
    (h : (Pool.eventsOf i log).foldl (owing group) none = some e) :
    (ledger group log).held i = some e := by
  induction log using List.reverseRecOn generalizing e with
  | nil => cases h
  | append_singleton log x ih =>
    obtain ⟨j, ev⟩ := x
    rw [Pool.eventsOf_append, Pool.eventsOf_singleton] at h
    rw [ledger_concat]
    by_cases hji : j = i
    · subst hji
      rw [if_pos rfl, List.foldl_concat] at h
      exact next_held_of_owing (fun _ => ih) h
    · rw [if_neg hji, List.append_nil] at h
      exact (next_held_of_ne hji ev).trans (ih h)

theorem owing_of_delivered {group name : String} {ev : Event WorkerCmd} {values : Fields} {id : ℕ}
    (h : deliveredFrom group name ev = some (values, id)) (o : Option EntryRef) :
    owing group o ev = some (name, id) := by
  obtain ⟨cmd, reply⟩ := ev
  cases cmd with
  | xReadGroup group' consumer name' =>
    rcases reply with e | (_ | ⟨⟨id', values'⟩, more⟩)
    · cases h
    · cases h
    · simp only [deliveredFrom] at h
      split_ifs at h with hn
      cases h
      rw [← hn.2]
      exact if_pos hn.1
  | _ => cases h

/-- What a command that does not settle an entry leaves owed. -/
theorem owing_eq {e : EntryRef} {β : Type} {c : WorkerCmd β} {r : β}
    (hallow : Settled cfg (some e) c) (hev : Succeeds ⟨c, r⟩ = true)
    (hack : ackedOn e.1 ⟨c, r⟩ ≠ some (cfg.consumerGroupName, e.2)) :
    owing cfg.consumerGroupName (some e) ⟨c, r⟩ = some e := by
  cases c with
  | xReadGroup group consumer name => cases hallow.1
  | stopRequested => cases hallow
  | xAck name group id =>
    have hne : some e ≠ some (name, id) := by
      rintro ⟨rfl⟩
      obtain rfl : group = cfg.consumerGroupName := hallow
      have hex : executed r = true := hev
      exact hack (by simp [ackedOn, hex])
    exact if_neg hne
  | now => rfl
  | getCnt => rfl
  | setCnt n => rfl
  | xAdd name values maxLen => rfl
  | xPendingExt name group count => rfl
  | xClaim name group consumer minIdle id => rfl
  | handle lane msg => rfl

/-- **Where nothing fails, every pending entry is owed by a thread.** -/
theorem pending_owed (cfg : QueueConfig) (actors : List Actor) (cnt clock : ℤ) (env : List Tick)
    (sched : List ℕ) :
    let P := (Pool.start (actors.map (Actor.prog cfg)) (World.fresh cnt clock env)).run worker sched
    (∀ x ∈ P.log, Succeeds x.2 = true) → ∀ e, IsPending cfg P.state e →
      ∃ i, (Pool.eventsOf i P.log).foldl (owing cfg.consumerGroupName) none = some e := by
  refine Pool.run_labelled_inv (I := fun P : Workers => (∀ x ∈ P.log, Succeeds x.2 = true) →
    ∀ e, IsPending cfg P.state e → ∃ i, (Pool.eventsOf i P.log).foldl (owing cfg.consumerGroupName) none = some e)
    _ _ _ _ (fun _ e he => ?_) fun P i a β c k hi hf hP hlog e he => ?_
  · simp [IsPending, Pool.start, World.fresh, Stream.empty, Stream.pendingIds] at he
  · simp only [Pool.advance, List.forall_mem_append, List.forall_mem_singleton] at hlog
    have hkeeps := Prog.Keeps.of_follows hf a.keeps fun ev hev =>
      hlog.1 _ (Pool.mem_eventsOf.1 hev)
    rcases (step_moved P.state c e.1).pending hlog.2 he with ⟨hold, hack⟩ | ⟨values, hdel⟩
    · obtain ⟨j, hj⟩ := hP hlog.1 e hold
      refine ⟨j, ?_⟩
      by_cases hij : i = j
      · subst hij
        have hallow : Settled cfg (some e) c := hj ▸ hkeeps.1
        simp [Pool.advance, Pool.eventsOf_singleton, hj, owing_eq hallow hlog.2 hack]
      · simp [Pool.advance, Pool.eventsOf_singleton, hij, hj]
    · exact ⟨i, by simp [Pool.advance, Pool.eventsOf_singleton, owing_of_delivered hdel]⟩

theorem failed_eq_nil (group : String) (log : List (ℕ × Event WorkerCmd)) (h : ∀ x ∈ log, Succeeds x.2 = true) :
    (ledger group log).failed = [] := by
  induction log using List.reverseRecOn with
  | nil => rfl
  | append_singleton log x ih =>
    obtain ⟨j, cmd, reply⟩ := x
    simp only [List.forall_mem_append, List.forall_mem_singleton] at h
    rw [ledger_concat]
    cases cmd with
    | xReadGroup group' consumer name =>
      rcases reply with e | (_ | ⟨⟨id, values⟩, more⟩)
      · exact ih h.1
      · exact ih h.1
      · simp only [Ledger.next]
        split_ifs <;> exact ih h.1
    | handle lane msg =>
      cases reply with
      | error e => cases h.2
      | ok _ => exact ih h.1
    | _ => exact ih h.1

/-- **No entry is stranded in a run in which nothing fails.** -/
theorem not_stranded (cfg : QueueConfig) (actors : List Actor) (cnt clock : ℤ) (env : List Tick)
    (sched : List ℕ)
    (h : ∀ x ∈ ((Pool.start (actors.map (Actor.prog cfg)) (World.fresh cnt clock env)).run worker
      sched).log, Succeeds x.2 = true) :
    NotStranded cfg
      ((Pool.start (actors.map (Actor.prog cfg)) (World.fresh cnt clock env)).run worker sched) where
  pending lane id hid := by
    obtain ⟨i, hi⟩ := pending_owed cfg actors cnt clock env sched h _ hid
    exact .inl ⟨i, held_of_owing _ _ i hi⟩
  exhausted lane id hpos _ := by
    rw [failed_eq_nil _ _ h] at hpos
    simp at hpos

/-! ## Entries that are lost -/

theorem held_of_next {group : String} {L : Ledger} {i j : ℕ} {ev : Event WorkerCmd} {e : EntryRef}
    (h : (L.next group i ev).held j = some e) :
    L.held j = some e ∨ ∃ values, deliveredFrom group e.1 ev = some (values, e.2) := by
  by_cases hij : i = j
  · subst hij
    obtain ⟨cmd, reply⟩ := ev
    cases cmd with
    | xReadGroup group' consumer name =>
      rcases reply with e' | (_ | ⟨⟨id, values⟩, more⟩)
      · exact .inl h
      · exact .inl h
      · simp only [Ledger.next] at h
        split_ifs at h with hg
        · obtain rfl : (name, id) = e := by simpa using h
          exact .inr ⟨values, by simp [deliveredFrom, hg]⟩
        · exact .inl h
    | stopRequested => simp [Ledger.next] at h
    | handle lane msg => cases reply <;> exact .inl h
    | _ => exact .inl h
  · exact .inl ((next_held_of_ne hij ev).symm.trans h)

/-- **An entry that no consumer has in hand any more is never handed to a handler again**, whoever
joins and whatever they do: `dequeue` asks for new entries only, and `claimStale` gives what it
claims to nobody. -/
theorem not_retriable {P : Workers} {e : EntryRef}
    (hread : e.2 < ((P.state.streams e.1).groups cfg.consumerGroupName).next)
    (hfree : ∀ i, (ledger cfg.consumerGroupName P.log).held i ≠ some e) : ¬ Retriable cfg P e := by
  rintro ⟨actors, env, sched, i, lane, msg, k, -, hheld, -⟩
  have hinv := Pool.run_inv (M := worker) (P := { P with
      threads := P.threads ++ actors.map (Actor.prog cfg), state := { P.state with env := env } })
    (I := fun Q : Workers => e.2 < ((Q.state.streams e.1).groups cfg.consumerGroupName).next ∧
      ∀ i, (ledger cfg.consumerGroupName Q.log).held i ≠ some e) (fun Q j hQ => ?_)
    ⟨hread, hfree⟩ sched
  · exact hinv.2 i hheld
  rcases Pool.step_cases worker Q j with hs | ⟨β, c, k', -, hs⟩
  · rw [hs]
    exact hQ
  · have hmove := step_moved Q.state c e.1
    rw [hs]
    refine ⟨hQ.1.trans_le (hmove.next_le _), fun i hi => ?_⟩
    rw [ledger_concat] at hi
    rcases held_of_next hi with hold | ⟨values, hdel⟩
    · exact hQ.2 i hold
    · exact absurd (hmove.next_le_delivered hdel) (not_le.2 hQ.1)

/-- A thread that has not moved has nothing in hand. -/
theorem held_eq_none (group : String) {log : List (ℕ × Event WorkerCmd)} {i : ℕ}
    (h : ∀ x ∈ log, x.1 ≠ i) : (ledger group log).held i = none := by
  induction log using List.reverseRecOn with
  | nil => rfl
  | append_singleton log x ih =>
    obtain ⟨j, ev⟩ := x
    simp only [List.forall_mem_append, List.forall_mem_singleton] at h
    rw [ledger_concat, next_held_of_ne h.2]
    exact ih h.1

/-- A consumer whose handler fails once and which then begins its next round. -/
def failing : Workers :=
  (Pool.start
    ([.producer .otp { QueueMessage.zero with id := "m1" }, .consumer "worker-1" 2].map
      (Actor.prog .default))
    (World.fresh 0 0
      [.quiet, .quiet, .quiet, .quiet, { Tick.quiet with handled := .error "no device" }])).run
    worker [0, 0, 1, 1, 1, 1]

theorem failing_facts :
    IsPending .default failing.state ("otp_queue", 0) ∧
      ((failing.state.streams "otp_queue").groups "aeroxebee-workers").next = 1 ∧
      (ledger "aeroxebee-workers" failing.log).held 1 = none ∧
      (∀ x ∈ failing.log, x.1 = 0 ∨ x.1 = 1) ∧
      (ledger "aeroxebee-workers" failing.log).held 0 = none := by
  unfold IsPending
  decide +kernel

/-- After one failure of its handler the entry is stranded. -/
theorem failing_stranded : ¬ NotStranded .default failing := by
  obtain ⟨hpending, hnext, h₁, hlog, h₀⟩ := failing_facts
  generalize failing = P at hpending hnext h₁ hlog h₀ ⊢
  have hfree : ∀ i, (ledger "aeroxebee-workers" P.log).held i ≠ some ("otp_queue", 0) := by
    intro i hi
    have hnone : (ledger "aeroxebee-workers" P.log).held i = none := by
      by_cases hi₀ : i = 0
      · rw [hi₀, h₀]
      by_cases hi₁ : i = 1
      · rw [hi₁, h₁]
      exact held_eq_none _ fun x hx => by
        rcases hlog x hx with h | h
        · exact h ▸ Ne.symm hi₀
        · exact h ▸ Ne.symm hi₁
    rw [hnone] at hi
    cases hi
  have hread : 0 < ((P.state.streams "otp_queue").groups "aeroxebee-workers").next := by
    rw [hnext]
    exact Nat.one_pos
  intro h
  rcases h.pending .otp 0 hpending with ⟨i, hi⟩ | hretry
  · exact hfree i hi
  · exact @not_retriable .default P ("otp_queue", 0) hread hfree hretry

/-- A run in which a message is enqueued, delivered, handled and acknowledged. -/
theorem not_stranded_delivered : NotStranded .default
    ((Pool.start
      ([.producer .otp { QueueMessage.zero with id := "m1" }, .consumer "worker-1" 1].map
        (Actor.prog .default)) (World.fresh 0 0 [])).run worker [0, 0, 1, 1, 1, 1]) :=
  not_stranded .default _ 0 0 [] [0, 0, 1, 1, 1, 1] (by decide +kernel)

end AeroxeBee.Worker
