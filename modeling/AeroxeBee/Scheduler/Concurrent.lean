import AeroxeBee.Foundations.Protocol
import AeroxeBee.Scheduler.Release

/-!
# Several schedulers

Rounds of the scheduler that run at the same time, on one server or on several, over one database
and one queue. A release does not tell whether it released anything, so two rounds that have
selected the same message both put it on the queue.

* `keeps_processDue`: a round puts a message on the queue only after a release of the message;
* `Releasing.acquire`, `Releasing.deliver`, `Releasing.quiet`: what the steps of the rounds preserve;
* `enqueued_once`: no message is put on the queue twice in a run in which every scheduler that is
  about to release a message it has selected finds it still scheduled.
-/

namespace AeroxeBee.Scheduler

open Foundations Api

variable (svc : Services)

/-! ## What a round is doing -/

/-- Where a round is: between two messages, about to put a released message on the queue, or about
to release it again because that failed. -/
inductive Phase where
  | idle
  | holding (id : String)
  | reverting (id : String)
deriving DecidableEq

/-- The protocol of a round. -/
def releasing : Protocol ServerCmd Phase where
  allows s := fun e =>
    match s, e with
    | .idle, .now => True
    | .idle, .db (.scheduledMessages _ _) => True
    | .idle, .db (.releaseScheduled _) => True
    | .holding _, .queue .now => True
    | .holding id, .queue (.xAdd _ values _) =>
      ∃ msg, Worker.decode values = some msg ∧ msg.id = id
    | .holding id, .db (.releaseScheduled id') => id' = id
    | .reverting id, .db (.releaseScheduled id') => id' = id
    | _, _ => False
  expects _ := True
  next s ev :=
    match s, ev with
    | .idle, ⟨.db (.releaseScheduled id), .ok _⟩ => .holding id
    | .holding _, ⟨.db (.releaseScheduled _), _⟩ => .idle
    | .reverting _, ⟨.db (.releaseScheduled _), _⟩ => .idle
    | .holding _, ⟨.queue (.xAdd _ _ _), .ok _⟩ => .idle
    | .holding id, ⟨.queue (.xAdd _ _ _), .error _⟩ => .reverting id
    | s, _ => s

/-- The command was executed, whether or not its reply arrived. -/
def executed {β : Type} : Except RedisErr β → Bool
  | .ok _ => true
  | .error (.lost _) => true
  | .error _ => false

/-- The event puts a message with the id on the queue. -/
def adds (id : String) : Event ServerCmd → Bool
  | ⟨.queue (.xAdd _ values _), reply⟩ =>
    (Worker.decode values).any (fun msg => msg.id = id) && executed reply
  | _ => false

theorem adds_xAdd (id stream : String) (values : Worker.Fields) (maxLen : ℤ)
    (reply : Except RedisErr ℕ) :
    adds id ⟨.queue (.xAdd stream values maxLen), reply⟩ =
      ((Worker.decode values).any (fun msg => msg.id = id) && executed reply) :=
  rfl

/-- How often a message with the id has been put on the queue. -/
def timesAdded (id : String) (log : List (ℕ × Event ServerCmd)) : ℕ :=
  log.countP fun x => adds id x.2

/-- **No message is put on the queue twice.** -/
def EnqueuedOnce (log : List (ℕ × Event ServerCmd)) : Prop := ∀ id, timesAdded id log ≤ 1

/-- Where a round is after the events of a log. -/
def phaseOf (i : ℕ) (log : List (ℕ × Event ServerCmd)) : Phase :=
  (Pool.eventsOf i log).foldl releasing.next .idle

/-! ## Concurrent rounds -/

/-- Any number of rounds that are about to begin. -/
def schedulers (n : ℕ) (w : World) : Pool ServerCmd World Unit :=
  .start ((List.replicate n ()).map fun _ => processDue svc) w

/-- The message that a round is about to release. -/
def nextRelease : ServerProg Unit → Option String
  | .act (.db (.releaseScheduled id)) _ => some id
  | _ => none

/-- A scheduler that is about to release a message it has selected finds it still scheduled. -/
def StillThere (P : Pool ServerCmd World Unit) (i : ℕ) : Prop :=
  phaseOf i P.log = .idle → ∀ id ∈ P.threads[i]?.bind nextRelease,
    ∃ m ∈ P.state.db.message? id, m.status = "scheduled"

instance (P : Pool ServerCmd World Unit) (i : ℕ) : Decidable (StillThere P i) :=
  inferInstanceAs (Decidable (_ → _))

variable {svc}

/-! ## A round keeps to the protocol -/

theorem keeps_enqueue (lane : PriorityLane) (msg : QueueMessage) :
    (enqueue svc lane msg).Keeps releasing
      (fun s r => (s = .idle ∧ r.toOption.isSome = true) ∨
        (s = .holding msg.id ∨ s = .reverting msg.id) ∧ r.toOption.isSome = false)
      (.holding msg.id) := by
  unfold enqueue Worker.enqueue
  cases svc.cfg.queue.stream? lane with
  | none => exact .inr ⟨.inl rfl, rfl⟩
  | some stream =>
    cases hm : msg.marshal with
    | none => exact .inr ⟨.inl rfl, rfl⟩
    | some data =>
      refine ⟨trivial, fun now _ => ⟨⟨msg, ?_, rfl⟩, fun reply _ => ?_⟩⟩
      · simpa [Worker.decode] using QueueMessage.unmarshal_marshal hm
      · cases reply with
        | ok n => exact .inl ⟨rfl, rfl⟩
        | error e => exact .inr ⟨.inr rfl, rfl⟩

theorem keeps_releaseOne (now : ℤ) (m : Message) :
    (releaseOne svc now m).Keeps releasing (fun s _ => s = .idle) .idle := by
  unfold releaseOne
  split_ifs
  · rfl
  · cases plaintext svc m with
    | error e => rfl
    | ok text =>
      refine ⟨trivial, fun released _ => ?_⟩
      cases released with
      | error e => rfl
      | ok =>
        refine (keeps_enqueue _ (releasedMessage m text)).bind fun s enqueued hs => ?_
        cases enqueued with
        | ok n =>
          rcases hs with ⟨hs, -⟩ | ⟨-, hnone⟩
          · exact hs
          · cases hnone
        | error e =>
          rcases hs with ⟨-, hsome⟩ | ⟨rfl | rfl, -⟩
          · cases hsome
          · exact ⟨rfl, fun _ _ => rfl⟩
          · exact ⟨rfl, fun _ _ => rfl⟩

variable (svc) in
/-- **A round puts a message on the queue only after it has released it**, and releases it again
only if that failed. -/
theorem keeps_processDue : (processDue svc).Keeps releasing (fun s _ => s = .idle) .idle := by
  refine ⟨trivial, fun now _ => ⟨trivial, fun selected hselected => ?_⟩⟩
  clear hselected
  cases selected with
  | error e => rfl
  | ok rows =>
    change (releaseAll svc now rows).Keeps releasing (fun s _ => s = .idle) .idle
    induction rows with
    | nil => rfl
    | cons m rows ih =>
      refine (keeps_releaseOne now m).bind fun s _ hs => ?_
      subst hs
      exact ih

/-! ## What the steps preserve -/

theorem phaseOf_concat (i j : ℕ) (ev : Event ServerCmd) (log : List (ℕ × Event ServerCmd)) :
    phaseOf j (log ++ [(i, ev)]) =
      if i = j then releasing.next (phaseOf j log) ev else phaseOf j log := by
  unfold phaseOf
  rw [Pool.eventsOf_append, Pool.eventsOf_singleton]
  split_ifs
  · rw [List.foldl_append, List.foldl_cons, List.foldl_nil]
  · rw [List.append_nil]

theorem timesAdded_concat (i : ℕ) (id : String) (ev : Event ServerCmd)
    (log : List (ℕ × Event ServerCmd)) :
    timesAdded id (log ++ [(i, ev)]) = timesAdded id log + if adds id ev then 1 else 0 := by
  rw [timesAdded, List.countP_append, List.countP_singleton]
  rfl

/-- Every message that is scheduled in the second database is scheduled in the first. -/
def NoneScheduled (db db' : Database) : Prop :=
  ∀ m' ∈ db'.messages, m'.status = "scheduled" → ∃ m ∈ db.messages, m.id = m'.id ∧
    m.status = "scheduled"

/-- No message with the id is scheduled. -/
def Gone (id : String) (db : Database) : Prop :=
  ∀ m ∈ db.messages, m.id = id → m.status ≠ "scheduled"

theorem Gone.of_noneScheduled {id : String} {db db' : Database} (h : Gone id db)
    (hrows : NoneScheduled db db') : Gone id db' := by
  intro m' hm' hid hstatus
  obtain ⟨m, hm, hmid, hmstatus⟩ := hrows m' hm' hstatus
  exact h m hm (hmid.trans hid) hmstatus

theorem noneScheduled_refl (db : Database) : NoneScheduled db db :=
  fun m hm hstatus => ⟨m, hm, rfl, hstatus⟩

theorem releaseScheduled_rows (db : Database) (id : String) :
    NoneScheduled db (Query.run db (.releaseScheduled id)).2 ∧
      Gone id (Query.run db (.releaseScheduled id)).2 := by
  have hrow : ∀ m' ∈ (Query.run db (.releaseScheduled id)).2.messages, ∃ m ∈ db.messages,
      m.id = m'.id ∧ (m'.status = "scheduled" → m.status = "scheduled" ∧ m.id ≠ id) := by
    intro m' hm'
    obtain ⟨m, hm, rfl⟩ := List.mem_map.1 hm'
    refine ⟨m, hm, ?_⟩
    dsimp only
    by_cases hid : m.id = id
    · rw [if_pos hid]
      by_cases hstatus : m.status = "scheduled"
      · rw [if_pos hstatus]
        exact ⟨rfl, fun h => absurd h (by decide : ("pending" : String) ≠ "scheduled")⟩
      · rw [if_neg hstatus]
        exact ⟨rfl, fun h => absurd h hstatus⟩
    · rw [if_neg hid]
      exact ⟨rfl, fun h => ⟨h, hid⟩⟩
  refine ⟨fun m' hm' hstatus => ?_, fun m' hm' hid hstatus => ?_⟩
  · obtain ⟨m, hm, hmid, hm⟩ := hrow m' hm'
    exact ⟨m, ‹_›, hmid, (hm hstatus).1⟩
  · obtain ⟨m, -, hmid, hm⟩ := hrow m' hm'
    exact (hm hstatus).2 (hmid.trans hid)

/-- What holds while the rounds run: a message that a round has released, or that is on the queue,
is released only once and is no longer scheduled. -/
structure Releasing (log : List (ℕ × Event ServerCmd)) (w : World) : Prop where
  alone : Alone w
  once : EnqueuedOnce log
  unique : ∀ i j id, phaseOf i log = .holding id → phaseOf j log = .holding id → i = j
  fresh : ∀ i id, phaseOf i log = .holding id → timesAdded id log = 0
  gone : ∀ id, (∃ i, phaseOf i log = .holding id) ∨ timesAdded id log ≠ 0 → Gone id w.db

variable {log : List (ℕ × Event ServerCmd)} {w w' : World} {i : ℕ} {ev : Event ServerCmd}

/-- A step that neither begins a release nor adds anything. -/
theorem Releasing.quiet (h : Releasing log w) (hw' : Alone w') (hrows : NoneScheduled w.db w'.db)
    (hphase : ∀ id, releasing.next (phaseOf i log) ev = .holding id → phaseOf i log = .holding id)
    (hadds : ∀ id, adds id ev = false) : Releasing (log ++ [(i, ev)]) w' := by
  have hadded (id : String) : timesAdded id (log ++ [(i, ev)]) = timesAdded id log := by
    rw [timesAdded_concat, hadds]
    rfl
  have hholding {j : ℕ} {id : String} (hj : phaseOf j (log ++ [(i, ev)]) = .holding id) :
      phaseOf j log = .holding id := by
    rw [phaseOf_concat] at hj
    split_ifs at hj with hij
    · subst hij
      exact hphase id hj
    · exact hj
  refine ⟨hw', fun id => ?_, fun j j' id hj hj' => ?_, fun j id hj => ?_, fun id hid => ?_⟩
  · rw [hadded]
    exact h.once id
  · exact h.unique j j' id (hholding hj) (hholding hj')
  · rw [hadded]
    exact h.fresh j id (hholding hj)
  · rw [hadded] at hid
    refine (h.gone id (hid.imp_left ?_)).of_noneScheduled hrows
    rintro ⟨j, hj⟩
    exact ⟨j, hholding hj⟩

/-- A step that begins the release of a message that is still scheduled. -/
theorem Releasing.acquire {id : String} (h : Releasing log w) (hw' : Alone w')
    (hrows : NoneScheduled w.db w'.db) (hgone : Gone id w'.db)
    (hphase : releasing.next (phaseOf i log) ev = .holding id) (hadds : ∀ id, adds id ev = false)
    (hstill : ¬ Gone id w.db) : Releasing (log ++ [(i, ev)]) w' := by
  have hadded (id : String) : timesAdded id (log ++ [(i, ev)]) = timesAdded id log := by
    rw [timesAdded_concat, hadds]
    rfl
  have hnone : timesAdded id log = 0 := by
    by_contra hne
    exact hstill (h.gone id (.inr hne))
  have hfree (j : ℕ) : phaseOf j log ≠ .holding id := fun hj => hstill (h.gone id (.inl ⟨j, hj⟩))
  have hholding {j : ℕ} {id' : String} (hj : phaseOf j (log ++ [(i, ev)]) = .holding id') :
      (j = i ∧ id' = id) ∨ (id' ≠ id ∧ phaseOf j log = .holding id') := by
    rw [phaseOf_concat] at hj
    split_ifs at hj with hij
    · subst hij
      exact .inl ⟨rfl, Phase.holding.inj (hj.symm.trans hphase)⟩
    · refine .inr ⟨?_, hj⟩
      rintro rfl
      exact hfree j hj
  refine ⟨hw', fun id' => ?_, fun j j' id' hj hj' => ?_, fun j id' hj => ?_, fun id' hid => ?_⟩
  · rw [hadded]
    exact h.once id'
  · rcases hholding hj with ⟨rfl, rfl⟩ | ⟨hne, hj⟩
    · rcases hholding hj' with ⟨rfl, -⟩ | ⟨hne, -⟩
      · rfl
      · exact absurd rfl hne
    · rcases hholding hj' with ⟨-, rfl⟩ | ⟨-, hj'⟩
      · exact absurd rfl hne
      · exact h.unique j j' id' hj hj'
  · rw [hadded]
    rcases hholding hj with ⟨-, rfl⟩ | ⟨-, hj⟩
    · exact hnone
    · exact h.fresh j id' hj
  · by_cases heq : id' = id
    · exact heq ▸ hgone
    · rw [hadded] at hid
      refine (h.gone id' (hid.imp_left ?_)).of_noneScheduled hrows
      rintro ⟨j, hj⟩
      rcases hholding hj with ⟨-, rfl⟩ | ⟨-, hj⟩
      · exact absurd rfl heq
      · exact ⟨j, hj⟩

/-- A step that puts a released message on the queue. -/
theorem Releasing.deliver {id : String} (h : Releasing log w) (hw' : Alone w')
    (hrows : NoneScheduled w.db w'.db) (hi : phaseOf i log = .holding id)
    (hphase : ∀ id', releasing.next (phaseOf i log) ev ≠ .holding id')
    (hadds : ∀ id', id' ≠ id → adds id' ev = false) : Releasing (log ++ [(i, ev)]) w' := by
  have hadded {id' : String} (hne : id' ≠ id) :
      timesAdded id' (log ++ [(i, ev)]) = timesAdded id' log := by
    rw [timesAdded_concat, hadds id' hne]
    rfl
  have hholding {j : ℕ} {id' : String} (hj : phaseOf j (log ++ [(i, ev)]) = .holding id') :
      phaseOf j log = .holding id' ∧ id' ≠ id := by
    rw [phaseOf_concat] at hj
    split_ifs at hj with hij
    · subst hij
      exact absurd hj (hphase id')
    · refine ⟨hj, ?_⟩
      rintro rfl
      exact hij (h.unique i j id' hi hj)
  refine ⟨hw', fun id' => ?_, fun j j' id' hj hj' => ?_, fun j id' hj => ?_, fun id' hid => ?_⟩
  · by_cases heq : id' = id
    · subst heq
      rw [timesAdded_concat, h.fresh i id' hi]
      split_ifs <;> omega
    · rw [hadded heq]
      exact h.once id'
  · exact h.unique j j' id' (hholding hj).1 (hholding hj').1
  · rw [hadded (hholding hj).2]
    exact h.fresh j id' (hholding hj).1
  · by_cases heq : id' = id
    · subst heq
      exact (h.gone id' (.inl ⟨i, hi⟩)).of_noneScheduled hrows
    · rw [hadded heq] at hid
      refine (h.gone id' (hid.imp_left ?_)).of_noneScheduled hrows
      rintro ⟨j, hj⟩
      exact ⟨j, (hholding hj).1⟩

theorem releasing_start (n : ℕ) (hw : Alone w) :
    Releasing (schedulers svc n w).log (schedulers svc n w).state where
  alone := hw
  once _ := Nat.zero_le 1
  unique _ _ _ h := nomatch h
  fresh _ _ h := nomatch h
  gone _ h := by
    rcases h with ⟨_, h⟩ | h
    · cases h
    · exact absurd rfl h

/-- A command that reads leaves every message as scheduled as it was. -/
theorem noneScheduled_step (hw : Alone w) {β : Type} {e : ServerCmd β}
    (he : ((server svc.cfg).step e w).2.db = w.tick.db) :
    NoneScheduled w.db ((server svc.cfg).step e w).2.db := by
  rw [he, hw.tick_db]
  exact noneScheduled_refl w.db

variable (svc) in
/-- A release leaves no message scheduled that was not, and if it is executed then none with its
id. -/
theorem noneScheduled_release (hw : Alone w) (id : String) :
    NoneScheduled w.db ((server svc.cfg).step (.db (.releaseScheduled id)) w).2.db ∧
      (((server svc.cfg).step (.db (.releaseScheduled id)) w).1.toOption.isSome = true →
        Gone id ((server svc.cfg).step (.db (.releaseScheduled id)) w).2.db) := by
  have hrows := releaseScheduled_rows w.db id
  rcases hw.step_query svc.cfg (.releaseScheduled id) with
    ⟨-, -, hdb⟩ | ⟨e, -, hval, hdb⟩ | ⟨e, -, hval, hdb⟩
  · rw [hdb]
    exact ⟨hrows.1, fun _ => hrows.2⟩
  · rw [hdb, hval]
    exact ⟨noneScheduled_refl w.db, nofun⟩
  · rw [hdb]
    exact ⟨hrows.1, fun _ => hrows.2⟩

/-- A step after which the round is where it was, or between two messages, and that adds nothing. -/
theorem Releasing.stays (h : Releasing log w) (hw' : Alone w') (hrows : NoneScheduled w.db w'.db)
    (hphase : releasing.next (phaseOf i log) ev = phaseOf i log ∨
      releasing.next (phaseOf i log) ev = .idle)
    (hadds : ∀ id, adds id ev = false) : Releasing (log ++ [(i, ev)]) w' := by
  refine h.quiet hw' hrows (fun id hid => ?_) hadds
  rcases hphase with hsame | hidle
  · exact hsame.symm.trans hid
  · cases hidle.symm.trans hid

/-- **What a step of a round preserves**, if the message it is about to release is still
scheduled. -/
theorem Releasing.step (h : Releasing log w) {β : Type} (e : ServerCmd β) (k : β → ServerProg Unit)
    (hallows : releasing.allows (phaseOf i log) e)
    (hstill : phaseOf i log = .idle → ∀ id ∈ nextRelease (.act e k), ¬ Gone id w.db) :
    Releasing (log ++ [(i, ⟨e, ((server svc.cfg).step e w).1⟩)]) ((server svc.cfg).step e w).2 := by
  have hw' : Alone ((server svc.cfg).step e w).2 := h.alone.step e
  cases hphase : phaseOf i log with
  | idle =>
    rw [hphase] at hallows
    cases e with
    | now =>
      exact h.stays hw' (noneScheduled_step h.alone rfl) (.inl (by rw [hphase]; rfl)) fun _ => rfl
    | db q =>
      cases q with
      | scheduledMessages before limit =>
        refine h.stays hw' ?_ (.inl (by rw [hphase]; rfl)) fun _ => rfl
        rcases h.alone.step_query svc.cfg (.scheduledMessages before limit) with
          ⟨-, -, hdb⟩ | ⟨e, -, -, hdb⟩ | ⟨e, -, -, hdb⟩ <;>
        · rw [hdb]
          exact noneScheduled_refl w.db
      | releaseScheduled id =>
        obtain ⟨hrows, hgone⟩ := noneScheduled_release svc h.alone id
        cases hreply : ((server svc.cfg).step (.db (.releaseScheduled id)) w).1 with
        | ok =>
          rw [hreply] at hgone
          exact h.acquire hw' hrows (hgone rfl) (by rw [hphase]; rfl) (fun _ => rfl)
            (hstill hphase id rfl)
        | error e => exact h.stays hw' hrows (.inl (by rw [hphase]; rfl)) fun _ => rfl
      | _ => exact hallows.elim
    | _ => exact hallows.elim
  | holding id =>
    rw [hphase] at hallows
    cases e with
    | db q =>
      cases q with
      | releaseScheduled id' =>
        exact h.stays hw' (noneScheduled_release _ h.alone id').1 (.inr (by rw [hphase]; rfl))
          fun _ => rfl
      | _ => exact hallows.elim
    | queue e =>
      cases e with
      | now =>
        exact h.stays hw' (noneScheduled_step h.alone rfl) (.inl (by rw [hphase]; rfl)) fun _ => rfl
      | xAdd name values maxLen =>
        obtain ⟨msg, hdecode, rfl⟩ := hallows
        refine h.deliver hw' (noneScheduled_step h.alone rfl) hphase (fun id' => ?_)
          fun id' hne => ?_
        · rw [hphase]
          cases hreply : ((server svc.cfg).step (.queue (.xAdd name values maxLen)) w).1 with
          | ok n => nofun
          | error e => nofun
        · rw [adds_xAdd, hdecode]
          simp [Ne.symm hne]
      | _ => exact hallows.elim
    | _ => exact hallows.elim
  | reverting id =>
    rw [hphase] at hallows
    cases e with
    | db q =>
      cases q with
      | releaseScheduled id' =>
        exact h.stays hw' (noneScheduled_release _ h.alone id').1 (.inr (by rw [hphase]; rfl))
          fun _ => rfl
      | _ => exact hallows.elim
    | _ => exact hallows.elim

/-- **No message is put on the queue twice**, however the rounds interleave and whatever fails, in a
run in which every scheduler that is about to release a message it has selected finds it still
scheduled. -/
theorem enqueued_once (svc : Services) (n : ℕ) (w : World) (hw : Alone w) (sched : List ℕ)
    (h : Pool.EachStep (server svc.cfg) StillThere (schedulers svc n w) sched) :
    EnqueuedOnce ((schedulers svc n w).run (server svc.cfg) sched).log := by
  refine (Pool.run_labelled_inv_of (I := fun P => Releasing P.log P.state)
    (fun _ : Unit => processDue svc) (List.replicate n ()) w sched (releasing_start n hw) h ?_).once
  intro P i _ β e k _ hi hfollows hP hstill
  have hkeeps := Prog.Keeps.of_follows hfollows (keeps_processDue svc) fun _ _ => trivial
  refine hP.step e k hkeeps.1 fun hidle id hid hgone => ?_
  obtain ⟨m, hm, hstatus⟩ := hstill hidle id (by rw [hi]; exact hid)
  refine hgone m (List.mem_of_find?_eq_some hm) ?_ hstatus
  simpa using List.find?_some hm

/-! ## Two schedulers -/

/-- When the second round selects what the first has already released, there is one release. -/
theorem enqueued_once_inTurn :
    EnqueuedOnce ((schedulers plainServices 2 (oneDue [])).run (server plainServices.cfg)
      [0, 0, 0, 1, 1, 0, 0]).log :=
  enqueued_once plainServices 2 (oneDue []) (fun t ht => by cases ht) [0, 0, 0, 1, 1, 0, 0]
    (by decide)

/-- When both rounds select the message before either releases it, it is put on the queue twice. -/
theorem overlapping_not_once :
    ¬ EnqueuedOnce ((schedulers plainServices 2 (oneDue [])).run (server plainServices.cfg)
      [0, 0, 1, 1, 0, 0, 0, 1, 1, 1]).log := by
  intro h
  have htwice : timesAdded "message-1" ((schedulers plainServices 2 (oneDue [])).run
      (server plainServices.cfg) [0, 0, 1, 1, 0, 0, 0, 1, 1, 1]).log = 2 := by
    decide +kernel
  have honce := h "message-1"
  omega

end AeroxeBee.Scheduler
