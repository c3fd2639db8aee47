import AeroxeBee.Api.Duplicates
import AeroxeBee.Foundations.Sequence
import AeroxeBee.Worker.Safety

/-!
# Releasing the messages that are due

A round of the scheduler first releases a message in the database and then puts it on the queue. If
the second step fails, the message is released once more, which changes nothing. So a round can
leave a message released that is on no stream.

* `releaseOne_settled`: what becomes of one message, for every pattern of failures;
* `releaseOne_frame`: the other messages are left alone;
* `round_atomic_iff`: every due message is settled after a round exactly if every release goes
  through or changes nothing.
-/

namespace AeroxeBee.Scheduler

open Foundations Api

variable (svc : Services)

/-! ## Settled messages -/

/-- An entry of the stream holds a message with the id. -/
def Queued (w : World) (stream id : String) : Prop :=
  ∃ values ∈ (w.streams stream).added, ∃ msg, Worker.decode values = some msg ∧ msg.id = id

/-- The message is scheduled for the time it was scheduled for, and is on no stream. -/
def StillScheduled (m : Message) (w : World) : Prop :=
  (∃ m', w.db.message? m.id = some m' ∧ m'.status = "scheduled" ∧ m'.scheduledAt = m.scheduledAt) ∧
    ∀ stream, ¬ Queued w stream m.id

/-- The message is pending, and is on the stream of its lane. -/
def OnItsLane (m : Message) (w : World) : Prop :=
  (∃ m', w.db.message? m.id = some m' ∧ m'.status = "pending") ∧
    ∃ stream, svc.cfg.queue.stream? (scheduledLane m.messageType).1 = some stream ∧
      Queued w stream m.id

/-- The message is either still scheduled or on its lane. -/
def Settled (m : Message) (w : World) : Prop := StillScheduled m w ∨ OnItsLane svc m w

/-- The message is to be sent by the given time. -/
def Due (now : ℤ) (m : Message) : Prop :=
  m.status = "scheduled" ∧ m.scheduledAt.any (· ≤ now) = true

/-- **A round is atomic** if it leaves every due message settled. -/
def Atomic (w : World) : Prop :=
  ∀ m ∈ w.db.messages, Due w.tick.clock m →
    Settled svc m ((processDue svc).exec (server svc.cfg) w).state

/-! ## Releases that go through -/

/-- The message can be written into an entry for the stream of its lane. -/
def Writable (m : Message) (text : String) : Prop :=
  (svc.cfg.queue.stream? (scheduledLane m.messageType).1).isSome = true ∧
    (releasedMessage m text).marshal.isSome = true

/-- The release of a message, begun in a given world, changes nothing or goes through: the message
cannot be read, or the database refuses the release, or neither the release nor its reply is lost
and the message is put on the queue. -/
def GoesThrough (x : Message × World) : Prop :=
  match plaintext svc x.1 with
  | .error _ => True
  | .ok text => x.2.next.fault.isRefused = true ∨
      x.2.next.fault = .none ∧ Writable svc x.1 text ∧ (x.2.later 2).fault.isRefused = false

instance (m : Message) (text : String) : Decidable (Writable svc m text) :=
  inferInstanceAs (Decidable (_ ∧ _))

instance (x : Message × World) : Decidable (GoesThrough svc x) :=
  match h : plaintext svc x.1 with
  | .error _ => isTrue (by simp [GoesThrough, h])
  | .ok text => decidable_of_iff (x.2.next.fault.isRefused = true ∨
      x.2.next.fault = .none ∧ Writable svc x.1 text ∧ (x.2.later 2).fault.isRefused = false)
        (by simp [GoesThrough, h])

/-- The messages that a round selects, each with the world in which its release begins. -/
def releases (w : World) : List (Message × World) :=
  let selected := (server svc.cfg).step (.db (.scheduledMessages w.tick.clock 50))
    ((server svc.cfg).step .now w).2
  match selected.1 with
  | .error _ => []
  | .ok rows =>
    Prog.history (server svc.cfg) (releaseOne svc w.tick.clock) selected.2 rows

variable {svc} {w : World} {id : String}

/-! ## The commands of a release -/

/-- What releasing a message leaves of the rows. -/
theorem message?_releaseScheduled (db : Database) (id id' : String) :
    (Query.run db (.releaseScheduled id)).2.message? id' =
      if id' = id then (db.message? id').map fun m =>
        if m.status = "scheduled" then { m with status := "pending", scheduledAt := none } else m
      else db.message? id' := by
  simp only [Query.run]
  exact db.message?_updateMessage (fun m => by split_ifs <;> rfl) id'

/-- The entries of the streams after one is added: it is there unless the command is refused. -/
theorem added_xAdd (hw : Alone w) (name : String) (values : Worker.Fields) (maxLen : ℤ)
    (stream : String) :
    (((server svc.cfg).step (.queue (.xAdd name values maxLen)) w).2.streams stream).added =
      (w.streams stream).added ++
        if stream = name ∧ w.next.fault.isRefused = false then [values] else [] := by
  have hlanes : w.tick.worker.streams = w.streams := hw.tick_streams
  have hexecuted : ((w.tick.worker.setStream name ((w.tick.worker.streams name).add values
      (if 0 < maxLen then some maxLen.toNat else none) w.next.trim).2).streams stream).added =
        (w.streams stream).added ++ if stream = name then [values] else [] := by
    by_cases hname : stream = name
    · subst hname
      simp [hlanes, Worker.World.setStream, Stream.add]
    · simp [hlanes, Worker.World.setStream, hname]
  rw [step_streams]
  simp only [ServerCmd.lanes, Worker.effect, Worker.redis]
  cases w.next.fault with
  | none => simpa [Fault.apply, Fault.isRefused] using hexecuted
  | refused e => simp [Fault.apply, Fault.isRefused, hlanes]
  | lost e => simpa [Fault.apply, Fault.isRefused] using hexecuted

/-- Which messages are on a stream is decided by its entries. -/
theorem queued_append {w' : World} {stream : String} {values : List Worker.Fields}
    (h : (w'.streams stream).added = (w.streams stream).added ++ values) :
    Queued w' stream id ↔ Queued w stream id ∨
      ∃ v ∈ values, ∃ msg, Worker.decode v = some msg ∧ msg.id = id := by
  unfold Queued
  rw [h]
  constructor
  · rintro ⟨v, hv, hmsg⟩
    rcases List.mem_append.1 hv with hv | hv
    · exact .inl ⟨v, hv, hmsg⟩
    · exact .inr ⟨v, hv, hmsg⟩
  · rintro (⟨v, hv, hmsg⟩ | ⟨v, hv, hmsg⟩)
    · exact ⟨v, List.mem_append_left _ hv, hmsg⟩
    · exact ⟨v, List.mem_append_right _ hv, hmsg⟩

theorem queued_congr {w' : World} (h : w'.streams = w.streams) (stream : String) :
    Queued w' stream id ↔ Queued w stream id := by
  unfold Queued
  rw [h]

variable (svc) in
/-- **What putting a message on the queue does**: if it can be written and the command is not
refused, the message is on the stream of its lane. -/
theorem exec_enqueue (hw : Alone w) (lane : PriorityLane) (msg : QueueMessage) :
    let o := (enqueue svc lane msg).exec (server svc.cfg) w
    Alone o.state ∧ o.state.db = w.db ∧ ∀ stream id, Queued o.state stream id ↔
      Queued w stream id ∨ msg.id = id ∧ svc.cfg.queue.stream? lane = some stream ∧
        msg.marshal.isSome = true ∧ (w.later 1).fault.isRefused = false := by
  intro o
  have hnone (ho : o.state = w) (hnot : ∀ stream, ¬ (svc.cfg.queue.stream? lane = some stream ∧
      msg.marshal.isSome = true)) : Alone o.state ∧ o.state.db = w.db ∧ ∀ stream id,
        Queued o.state stream id ↔ Queued w stream id ∨ msg.id = id ∧
          svc.cfg.queue.stream? lane = some stream ∧
            msg.marshal.isSome = true ∧ (w.later 1).fault.isRefused = false := by
    rw [ho]
    refine ⟨hw, rfl, fun stream id => (or_iff_left ?_).symm⟩
    rintro ⟨-, hstream, hmarshal, -⟩
    exact hnot stream ⟨hstream, hmarshal⟩
  cases hs : svc.cfg.queue.stream? lane with
  | none =>
    have ho : o.state = w := by simp [o, enqueue, Worker.enqueue, hs, Prog.embed]
    simpa [hs] using hnone ho (by simp [hs])
  | some name =>
    cases hm : msg.marshal with
    | none =>
      have ho : o.state = w := by simp [o, enqueue, Worker.enqueue, hs, hm, Prog.embed]
      simpa [hs, hm] using hnone ho (by simp [hm])
    | some data =>
      let w₁ := ((server svc.cfg).step (.queue .now) w).2
      have hw₁ : Alone w₁ := hw.step _
      have hstreams₁ : w₁.streams = w.streams := (step_streams _ _ _).trans hw.tick_streams
      have hdb₁ : w₁.db = w.db := (step_db _ _ _).trans hw.tick_db
      have hfault : w₁.next.fault = (w.later 1).fault := congrArg (·.fault) (step_later _ w _ 0)
      let values := Worker.entryFields msg data ((server svc.cfg).step (.queue .now) w).1
      have hdecode : Worker.decode values = some msg := decode_entryFields hm _
      have ho : o.state =
          ((server svc.cfg).step (.queue (.xAdd name values svc.cfg.queue.maxQueueDepth)) w₁).2 := by
        simp only [o, enqueue_eq svc hs hm, Prog.exec_act]
        rfl
      rw [ho]
      refine ⟨hw₁.step _, ?_, fun stream id => ?_⟩
      · rw [step_db]
        exact hw₁.tick_db.trans hdb₁
      · rw [queued_append (added_xAdd hw₁ name values _ stream), queued_congr hstreams₁, hfault]
        by_cases hname : stream = name
        · subst hname
          cases (w.later 1).fault.isRefused <;> simp [hdecode]
        · simp [hname, Ne.symm hname]

/-! ## One message -/

variable (svc) in
/-- A statement leaves the streams alone. -/
theorem streams_query (hw : Alone w) {β : Type} (q : Query β) :
    ((server svc.cfg).step (.db q) w).2.streams = w.streams :=
  (step_streams _ _ _).trans hw.tick_streams

/-- The message after its release. -/
def releasedRow (m : Message) : Message := { m with status := "pending", scheduledAt := none }

/-- A release that is executed makes a scheduled message pending. -/
theorem message?_released {db : Database} {m : Message} (hrow : db.message? id = some m)
    (hstatus : m.status = "scheduled") :
    (Query.run db (.releaseScheduled id)).2.message? id = some (releasedRow m) := by
  rw [message?_releaseScheduled, if_pos rfl, hrow, Option.map_some, if_pos hstatus]
  rfl

variable (svc) in
/-- Releasing a message again changes nothing. -/
theorem message?_released_again (hw : Alone w) {m : Message}
    (hrow : w.db.message? id = some (releasedRow m)) :
    ((server svc.cfg).step (.db (.releaseScheduled id)) w).2.db.message? id =
      some (releasedRow m) := by
  have hrun : (Query.run w.db (.releaseScheduled id)).2.message? id = some (releasedRow m) := by
    rw [message?_releaseScheduled, if_pos rfl, hrow, Option.map_some, if_neg]
    exact (by decide : ("pending" : String) ≠ "scheduled")
  rcases hw.step_query svc.cfg (.releaseScheduled id) with
    ⟨-, -, hdb⟩ | ⟨e, -, -, hdb⟩ | ⟨e, -, -, hdb⟩
  · rw [hdb, hrun]
  · rw [hdb, hrow]
  · rw [hdb, hrun]

/-- **What a release does to its message**, for every pattern of failures: afterwards the message
is settled exactly if the release went through or changed nothing. -/
theorem releaseOne_settled (hw : Alone w) {m : Message} {now : ℤ}
    (hrow : w.db.message? m.id = some m) (hstatus : m.status = "scheduled")
    (hdue : m.scheduledAt.any (now < ·) = false) (hnot : ∀ stream, ¬ Queued w stream m.id) :
    Settled svc m ((releaseOne svc now m).exec (server svc.cfg) w).state ↔
      GoesThrough svc (m, w) := by
  have hstill : StillScheduled m w := ⟨⟨m, hrow, hstatus, rfl⟩, hnot⟩
  -- a message that was released is no longer scheduled
  have hpending {w' : World} (h : w'.db.message? m.id = some (releasedRow m)) :
      Settled svc m w' ↔ ∃ stream,
        svc.cfg.queue.stream? (scheduledLane m.messageType).1 = some stream ∧
          Queued w' stream m.id := by
    constructor
    · rintro (⟨⟨m', hm', hscheduled, -⟩, -⟩ | ⟨-, hstream⟩)
      · obtain rfl := Option.some.inj (h.symm.trans hm')
        exact absurd hscheduled (by decide : ("pending" : String) ≠ "scheduled")
      · exact hstream
    · exact fun hstream => .inr ⟨⟨_, h, rfl⟩, hstream⟩
  unfold releaseOne GoesThrough
  rw [hdue]
  cases htext : plaintext svc m with
  | error e => exact iff_of_true (.inl hstill) trivial
  | ok text =>
    have hstreams := streams_query svc hw (.releaseScheduled m.id)
    simp only [Bool.false_eq_true, if_false, Prog.call_bind, Prog.exec_act]
    rcases hw.step_query svc.cfg (.releaseScheduled m.id) with
      ⟨hfault, hval, hdb⟩ | ⟨e, hfault, hval, hdb⟩ | ⟨e, hfault, hval, hdb⟩
    · let v₁ := ((server svc.cfg).step (.db (.releaseScheduled m.id)) w).2
      have hw₁ : Alone v₁ := hw.step _
      have hrow₁ : v₁.db.message? m.id = some (releasedRow m) :=
        (congrArg (Database.message? · m.id) hdb).trans (message?_released hrow hstatus)
      obtain ⟨hw₂, hdb₂, hqueued₂⟩ := exec_enqueue svc hw₁ (scheduledLane m.messageType).1
        (releasedMessage m text)
      rw [hval]
      simp only [Query.run, Prog.exec_bind]
      generalize (enqueue svc (scheduledLane m.messageType).1 (releasedMessage m text)).exec
        (server svc.cfg) v₁ = o at hw₂ hdb₂ hqueued₂ ⊢
      have hrow₂ : o.state.db.message? m.id = some (releasedRow m) := hdb₂ ▸ hrow₁
      have hlater : (v₁.later 1).fault = (w.later 2).fault :=
        congrArg (·.fault) (step_later _ w (.db (.releaseScheduled m.id)) 1)
      -- whether the message is on the queue is decided by then
      have hon (stream : String) : Queued o.state stream m.id ↔
          svc.cfg.queue.stream? (scheduledLane m.messageType).1 = some stream ∧
            (releasedMessage m text).marshal.isSome = true ∧
              (w.later 2).fault.isRefused = false := by
        rw [hqueued₂, hlater, queued_congr hstreams]
        simp [hnot, releasedMessage]
      have hsettled {w' : World} (hrow' : w'.db.message? m.id = some (releasedRow m))
          (hstreams' : w'.streams = o.state.streams) : Settled svc m w' ↔
            Writable svc m text ∧ (w.later 2).fault.isRefused = false := by
        simp only [hpending hrow', queued_congr hstreams', hon, Writable, Option.isSome_iff_exists]
        constructor
        · rintro ⟨stream, hstream, -, hmarshal, hexecuted⟩
          exact ⟨⟨⟨stream, hstream⟩, hmarshal⟩, hexecuted⟩
        · rintro ⟨⟨⟨stream, hstream⟩, hmarshal⟩, hexecuted⟩
          exact ⟨stream, hstream, hstream, hmarshal, hexecuted⟩
      have hexecuted : Fault.none.isRefused = false := rfl
      simp only [hfault, hexecuted, Bool.false_eq_true, false_or, true_and]
      cases hreply : o.val with
      | ok n => simpa [hreply] using hsettled hrow₂ rfl
      | error e =>
        simpa [hreply] using hsettled (message?_released_again svc hw₂ hrow₂)
          (streams_query _ hw₂ _)
    · rw [hval, hfault]
      refine iff_of_true (.inl ⟨⟨m, ?_, hstatus, rfl⟩, fun stream => ?_⟩) (.inl rfl)
      · exact (congrArg (Database.message? · m.id) hdb).trans hrow
      · exact (queued_congr hstreams stream).not.2 (hnot stream)
    · rw [hval, hfault]
      refine iff_of_false ?_ (by simp [Fault.isRefused])
      have hrow' := (congrArg (Database.message? · m.id) hdb).trans (message?_released hrow hstatus)
      refine (hpending hrow').not.2 ?_
      rintro ⟨stream, -, hon⟩
      exact hnot stream ((queued_congr hstreams stream).1 hon)

/-! ## The other messages -/

/-- The command belongs to the release of a message with the id. -/
def ForMessage (id : String) : {β : Type} → ServerCmd β → Prop
  | _, .db (.releaseScheduled id') => id' = id
  | _, .queue .now => True
  | _, .queue (.xAdd _ values _) => ∃ msg, Worker.decode values = some msg ∧ msg.id = id
  | _, _ => False

theorem enqueue_for (lane : PriorityLane) (msg : QueueMessage) :
    (enqueue svc lane msg).Only (ForMessage msg.id) := by
  refine (@Worker.enqueue_only svc.cfg.queue "" lane msg).embed fun e he => ?_
  cases e with
  | now => trivial
  | xAdd name values maxLen => exact ⟨msg, he.2, rfl⟩
  | _ => exact he.elim

theorem releaseOne_for (now : ℤ) (m : Message) : (releaseOne svc now m).Only (ForMessage m.id) := by
  unfold releaseOne
  split_ifs
  · trivial
  · cases plaintext svc m with
    | error e => trivial
    | ok text =>
      refine ⟨rfl, fun released => ?_⟩
      cases released with
      | error e => trivial
      | ok =>
        refine (enqueue_for _ (releasedMessage m text)).bind fun enqueued => ?_
        cases enqueued with
        | ok n => trivial
        | error e => exact ⟨rfl, fun _ => trivial⟩

/-- Nothing has happened to a message since an earlier world. -/
structure Untouched (id : String) (before w : World) : Prop where
  alone : Alone w
  row : w.db.message? id = before.db.message? id
  queued : ∀ stream, Queued w stream id ↔ Queued before stream id

theorem Untouched.refl (hw : Alone w) : Untouched id w w := ⟨hw, rfl, fun _ => Iff.rfl⟩

theorem Untouched.step {id' : String} (hne : id ≠ id') {β : Type} {e : ServerCmd β}
    (he : ForMessage id' e) {before w : World} (h : Untouched id before w) :
    Untouched id before ((server svc.cfg).step e w).2 := by
  have hw := h.alone
  have hquiet (hdb : ((server svc.cfg).step e w).2.db = w.db)
      (hqueued : ∀ stream, Queued ((server svc.cfg).step e w).2 stream id ↔ Queued w stream id) :
      Untouched id before ((server svc.cfg).step e w).2 :=
    ⟨hw.step e, hdb ▸ h.row, fun stream => (hqueued stream).trans (h.queued stream)⟩
  cases e with
  | db q =>
    cases q with
    | releaseScheduled id₂ =>
      obtain rfl : id₂ = id' := he
      have hrow : (Query.run w.db (.releaseScheduled id₂)).2.message? id = w.db.message? id := by
        rw [message?_releaseScheduled, if_neg hne]
      refine ⟨hw.step _, ?_, fun stream => ?_⟩
      · rcases hw.step_query svc.cfg (.releaseScheduled id₂) with
          ⟨-, -, hdb⟩ | ⟨e, -, -, hdb⟩ | ⟨e, -, -, hdb⟩
        · rw [hdb, hrow, h.row]
        · rw [hdb, h.row]
        · rw [hdb, hrow, h.row]
      · exact (queued_congr (streams_query _ hw _) stream).trans (h.queued stream)
    | _ => exact he.elim
  | queue e =>
    cases e with
    | now =>
      exact hquiet ((step_db _ _ _).trans hw.tick_db)
        (queued_congr ((step_streams _ _ _).trans hw.tick_streams))
    | xAdd name values maxLen =>
      obtain ⟨msg, hdecode, hmsg⟩ := he
      refine hquiet ((step_db _ _ _).trans hw.tick_db) fun stream => ?_
      rw [queued_append (added_xAdd hw name values maxLen stream)]
      refine or_iff_left ?_
      rintro ⟨v, hv, msg', hdecode', hid⟩
      split_ifs at hv
      · obtain rfl := List.mem_singleton.1 hv
        obtain rfl := Option.some.inj (hdecode.symm.trans hdecode')
        exact hne (hid.symm.trans hmsg)
      · cases hv
    | _ => exact he.elim
  | _ => exact he.elim

/-- **The release of one message leaves the others alone.** -/
theorem releaseOne_frame {before : World} (now : ℤ) {m : Message} (hne : id ≠ m.id) :
    (releaseOne svc now m).Preserves (server svc.cfg) (Untouched id before) := by
  intro w h
  exact (releaseOne_for now m).exec_inv (fun e w he h => Untouched.step hne he h) h

theorem Untouched.onItsLane {before : World} {m : Message} (h : Untouched m.id before w) :
    OnItsLane svc m w ↔ OnItsLane svc m before := by
  simp only [OnItsLane, h.row, h.queued]

theorem Untouched.settled {before : World} {m : Message} (h : Untouched m.id before w) :
    Settled svc m w ↔ Settled svc m before := by
  simp only [Settled, StillScheduled, h.onItsLane, h.row, h.queued]

/-! ## A round -/

/-- What a round asks of a message that it has selected. -/
structure Selected (now : ℤ) (w : World) (m : Message) : Prop where
  row : w.db.message? m.id = some m
  scheduled : m.status = "scheduled"
  due : m.scheduledAt.any (now < ·) = false
  notQueued : ∀ stream, ¬ Queued w stream m.id

theorem Untouched.selected {before : World} {now : ℤ} {m : Message}
    (h : Untouched m.id before w) (hm : Selected now before m) : Selected now w m where
  row := h.row.trans hm.row
  scheduled := hm.scheduled
  due := hm.due
  notQueued stream hqueued := hm.notQueued stream ((h.queued stream).1 hqueued)

theorem exec_releaseAll (now : ℤ) (rows : List Message) (w : World) :
    ((releaseAll svc now rows).exec (server svc.cfg) w).state =
      Prog.after (server svc.cfg) (releaseOne svc now) w rows := by
  induction rows generalizing w with
  | nil => rfl
  | cons m rows ih =>
    rw [releaseAll, Prog.exec_bind]
    exact ih _

/-- **What a round does to the messages it has selected.** -/
theorem releaseAll_settled {now : ℤ} {rows : List Message} (hw : Alone w)
    (hids : (rows.map Message.id).Nodup) (hrows : ∀ m ∈ rows, Selected now w m) :
    (∀ m ∈ rows, Settled svc m (Prog.after (server svc.cfg) (releaseOne svc now) w rows)) ↔
      ∀ x ∈ Prog.history (server svc.cfg) (releaseOne svc now) w rows, GoesThrough svc x := by
  induction rows generalizing w with
  | nil => simp [Prog.history]
  | cons m rows ih =>
    rw [List.map_cons, List.nodup_cons] at hids
    have hne : ∀ m' ∈ rows, m'.id ≠ m.id := fun m' hm' h =>
      hids.1 (List.mem_map.2 ⟨m', hm', h⟩)
    have hm := hrows m List.mem_cons_self
    have hframe : ∀ m' ∈ rows, Untouched m'.id w
        ((releaseOne svc now m).exec (server svc.cfg) w).state := fun m' hm' =>
      releaseOne_frame now (hne m' hm') w (.refl hw)
    have hw₁ : Alone ((releaseOne svc now m).exec (server svc.cfg) w).state :=
      (releaseOne_for now m).exec_inv (I := Alone) (fun e w _ h => Alone.step h e) hw
    have hrest := ih hw₁ hids.2 fun m' hm' =>
      (hframe m' hm').selected (hrows m' (List.mem_cons_of_mem m hm'))
    have hlater : Untouched m.id ((releaseOne svc now m).exec (server svc.cfg) w).state
        (Prog.after (server svc.cfg) (releaseOne svc now)
          ((releaseOne svc now m).exec (server svc.cfg) w).state rows) :=
      Prog.after_inv (fun m' hm' => releaseOne_frame now (hne m' hm').symm) (.refl hw₁)
    have hfirst : Settled svc m (Prog.after (server svc.cfg) (releaseOne svc now) w (m :: rows)) ↔
        GoesThrough svc (m, w) :=
      hlater.settled.trans (releaseOne_settled hw hm.row hm.scheduled hm.due hm.notQueued)
    rw [Prog.history, List.forall_mem_cons, List.forall_mem_cons, hfirst, ← hrest]
    rfl

/-- The rows that a round may select. -/
theorem mem_scheduledMessages {db : Database} {before : ℤ} {limit : ℕ} {rows : List Message}
    (h : (Query.run db (.scheduledMessages before limit)).1 = .ok rows) :
    (∀ m ∈ rows, m ∈ db.messages ∧ Due before m) ∧
      ((db.messages.map Message.id).Nodup → (rows.map Message.id).Nodup) := by
  obtain rfl := Except.ok.inj h
  have hsub : ∀ l : List Message, (l.map Message.id).Nodup →
      ((l.take limit).map Message.id).Nodup := fun l hl =>
    hl.sublist ((List.take_sublist limit l).map Message.id)
  refine ⟨fun m hm => ?_, fun hids => hsub _ ?_⟩
  · have hdue := List.mem_filter.1 ((List.mem_insertionSort _).1 (List.mem_of_mem_take hm))
    simp only [Bool.and_eq_true, decide_eq_true_eq] at hdue
    exact hdue
  · rw [((List.perm_insertionSort _ _).map Message.id).nodup_iff]
    exact hids.sublist (List.filter_sublist.map Message.id)

/-- The state after a round: the selected messages have been released one after the other. -/
theorem exec_processDue (w : World) :
    ((processDue svc).exec (server svc.cfg) w).state =
      let selected := (server svc.cfg).step (.db (.scheduledMessages w.tick.clock 50))
        ((server svc.cfg).step .now w).2
      match selected.1 with
      | .error _ => selected.2
      | .ok rows => Prog.after (server svc.cfg) (releaseOne svc w.tick.clock) selected.2 rows := by
  have hnow : ((server svc.cfg).step .now w).1 = w.tick.clock := rfl
  unfold processDue
  simp only [Prog.call_bind, Prog.exec_act, hnow]
  cases ((server svc.cfg).step (.db (.scheduledMessages w.tick.clock 50))
    ((server svc.cfg).step .now w).2).1 with
  | error e => rfl
  | ok rows => exact exec_releaseAll _ rows _

/-- A message that is due and on no stream is what a round asks for. -/
theorem Due.selected {now : ℤ} {m : Message} (hdue : Due now m)
    (hids : (w.db.messages.map Message.id).Nodup) (hm : m ∈ w.db.messages)
    (hnot : ∀ stream, ¬ Queued w stream m.id) : Selected now w m where
  row := w.db.message?_of_mem hids hm
  scheduled := hdue.1
  due := by
    obtain ⟨-, hat⟩ := hdue
    cases ht : m.scheduledAt with
    | none => rfl
    | some t => simpa [ht] using hat
  notQueued := hnot

/-- A message that is due at the start of time. -/
def dueMessage : Message where
  id := "message-1"
  deviceID := none
  apiKeyID := "key-1"
  direction := "outbound"
  recipient := "+919999999999"
  sender := "AeroXe Bee"
  encryptedMessage := "hello"
  messageType := .transactional
  priorityLane := .transactional
  templateID := none
  status := "scheduled"
  deliveryStatus := .sent
  confidenceScore := 0
  errorReason := none
  scheduledAt := some 0
  createdAt := timestamp 0
  deliveredAt := none
  purgeAfter := 0
  idempotencyKey := "sched-message-1-+919999999999"
  routingStrategyUsed := .highestReliability

/-- A server on which one message is due. -/
def oneDue (env : List Tick) : World :=
  let w := Dispatch.onePhone env
  { w with db := { w.db with messages := [dueMessage] } }

end AeroxeBee.Scheduler
