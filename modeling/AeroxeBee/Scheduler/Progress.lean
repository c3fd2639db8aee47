import AeroxeBee.Foundations.Batches
import AeroxeBee.Foundations.Ranking
import AeroxeBee.Runs
import AeroxeBee.Scheduler.Release

/-!
# Messages that cannot be read

A round of the scheduler takes the fifty messages that are due first. Those that cannot be read it
skips, without moving them, so the next round takes them again. Fifty of them ahead of a message
keep it from being released for ever.

* `exec_round`: what a round does where nothing fails;
* `Waiting`: the messages ahead of one are a queue that the rounds work off in batches;
* `released_iff`: whether a message is released by some round.
-/

namespace AeroxeBee.Scheduler

open Foundations Api

variable (svc : Services)

/-! ## The messages in line -/

/-- When a scheduled message is due. -/
def dueAt (m : Message) : ℤ := m.scheduledAt.getD 0

/-- The scheduled messages, those that are due first ahead. -/
def inLine (db : Database) : List Message :=
  (db.messages.filter fun m => m.status = "scheduled" && m.scheduledAt.isSome).insertionSort
    fun a b => dueAt a ≤ dueAt b

/-- The scheduled messages ahead of one. -/
def ahead (db : Database) (m : Message) : List Message := (inLine db).takeWhile fun b => b ≠ m

/-- The text of the message cannot be read. -/
def unreadable (m : Message) : Bool := !(plaintext svc m).toBool

/-- The messages that a round selects. -/
def batch (w : World) : List Message :=
  ((inLine w.db).filter fun m => dueAt m ≤ w.tick.clock).take 50

/-- The world after some rounds. -/
def rounds (k : ℕ) (w : World) : World :=
  (fun w => ((processDue svc).exec (server svc.cfg) w).state)^[k] w

section Line

variable {db : Database} {m : Message} {now : ℤ}

instance : Std.Total fun a b : Message => dueAt a ≤ dueAt b :=
  ⟨fun a b => le_total (dueAt a) (dueAt b)⟩

instance : IsTrans Message fun a b => dueAt a ≤ dueAt b :=
  ⟨fun _ _ _ => le_trans⟩

theorem mem_inLine : m ∈ inLine db ↔
    m ∈ db.messages ∧ m.status = "scheduled" ∧ m.scheduledAt.isSome = true := by
  simp [inLine]

/-- **What is selected** are the first of the messages in line that are due. -/
theorem scheduledMessages_eq (db : Database) (now : ℤ) (limit : ℕ) :
    (Query.run db (.scheduledMessages now limit)).1 =
      .ok (((inLine db).filter fun m => dueAt m ≤ now).take limit) := by
  have hfilter : (db.messages.filter fun m =>
      m.status = "scheduled" && m.scheduledAt.any (· ≤ now)) =
        (db.messages.filter fun m => m.status = "scheduled" && m.scheduledAt.isSome).filter
          fun m => dueAt m ≤ now := by
    rw [List.filter_filter]
    refine List.filter_congr fun m _ => ?_
    cases hm : m.scheduledAt <;> simp [dueAt, hm, Bool.and_comm]
  have hsort : ((db.messages.filter fun m =>
      m.status = "scheduled" && m.scheduledAt.any (· ≤ now)).insertionSort
        fun a b => Query.dueBefore a b) =
          (db.messages.filter fun m =>
            m.status = "scheduled" && m.scheduledAt.any (· ≤ now)).insertionSort
              fun a b => dueAt a ≤ dueAt b := by
    have hmap := List.map_insertionSort (r := fun a b : Message => Query.dueBefore a b = true)
      (s := fun a b => dueAt a ≤ dueAt b) id
        (l := db.messages.filter fun m => m.status = "scheduled" && m.scheduledAt.any (· ≤ now))
        fun a ha b hb => ?_
    · simpa using hmap
    · have hsome {c : Message} (hc : c ∈ db.messages.filter fun m =>
          m.status = "scheduled" && m.scheduledAt.any (· ≤ now)) :
          ∃ t, c.scheduledAt = some t := by
        have hdue := (List.mem_filter.1 hc).2
        cases ht : c.scheduledAt with
        | none => simp [ht] at hdue
        | some t => exact ⟨t, rfl⟩
      obtain ⟨s, hs⟩ := hsome ha
      obtain ⟨t, ht⟩ := hsome hb
      simp [Query.dueBefore, dueAt, hs, ht]
  rw [inLine, filter_insertionSort, ← hfilter, ← hsort]
  rfl

/-- A release takes the message out of the line. -/
theorem inLine_release (db : Database) (id : String) :
    inLine (Query.run db (.releaseScheduled id)).2 = (inLine db).filter (·.id ≠ id) := by
  let waits (m : Message) : Bool := m.status = "scheduled" && m.scheduledAt.isSome
  let change (m : Message) : Message := if m.id = id then
    if m.status = "scheduled" then { m with status := "pending", scheduledAt := none } else m
  else m
  have hwaits (m : Message) : waits (change m) = (waits m && decide (m.id ≠ id)) := by
    by_cases hid : m.id = id
    · by_cases hstatus : m.status = "scheduled" <;> simp [waits, change, hid, hstatus]
    · simp [waits, change, hid]
  have hsame : ∀ m ∈ db.messages.filter (waits ∘ change), change m = m := by
    intro m hm
    have hid := (List.mem_filter.1 hm).2
    rw [Function.comp_apply, hwaits, Bool.and_eq_true, decide_eq_true_eq] at hid
    exact if_neg hid.2
  have hrows : (db.messages.map change).filter waits =
      (db.messages.filter waits).filter (·.id ≠ id) := by
    rw [List.filter_map, List.map_congr_left hsame, List.map_id', List.filter_filter]
    exact List.filter_congr fun m _ => by rw [Function.comp_apply, hwaits, Bool.and_comm]
  exact (congrArg (List.insertionSort fun a b => dueAt a ≤ dueAt b) hrows).trans
    (filter_insertionSort _ _).symm

end Line

/-! ## A round where nothing fails -/

section Round

variable {svc} {w : World} {m : Message} {now : ℤ} {text : String}

/-- **A message that can be read** is released, is put on the queue if it can be, and is released
once more if it cannot. -/
theorem exec_releaseOne (hw : Calm w) (hdue : m.scheduledAt.any (now < ·) = false)
    (htext : plaintext svc m = .ok text) : ∃ v : World, Calm v ∧
      v.db = (Query.run w.db (.releaseScheduled m.id)).2 ∧
      (∀ stream id, Queued v stream id ↔ Queued w stream id ∨ m.id = id ∧
        svc.cfg.queue.stream? (scheduledLane m.messageType).1 = some stream ∧
          (releasedMessage m text).marshal.isSome = true) ∧
      (((releaseOne svc now m).exec (server svc.cfg) w).state = v ∨
        ((releaseOne svc now m).exec (server svc.cfg) w).state =
          ((server svc.cfg).step (.db (.releaseScheduled m.id)) v).2) := by
  let w₁ := ((server svc.cfg).step (.db (.releaseScheduled m.id)) w).2
  have hw₁ : Calm w₁ := hw.step _
  obtain ⟨hreply, hdb₁⟩ := hw.step_query svc.cfg (.releaseScheduled m.id)
  obtain ⟨-, hdb, hqueued⟩ := exec_enqueue svc hw₁.alone (scheduledLane m.messageType).1
    (releasedMessage m text)
  refine ⟨_, hw₁.exec (enqueue svc (scheduledLane m.messageType).1 (releasedMessage m text)),
    hdb.trans hdb₁, fun stream id => ?_, ?_⟩
  · rw [hqueued, queued_congr (streams_query svc hw.alone _), hw₁.fault_later 1]
    simp [Fault.isRefused, releasedMessage]
  · unfold releaseOne
    simp only [hdue, Bool.false_eq_true, if_false, htext, Prog.call_bind, Prog.exec_act, hreply,
      Query.run, Prog.exec_bind]
    cases ((enqueue svc (scheduledLane m.messageType).1 (releasedMessage m text)).exec
      (server svc.cfg) w₁).val with
    | ok n => exact .inl rfl
    | error e => exact .inr rfl

/-- The release of a message takes it out of the line if it can be read. -/
theorem inLine_releaseOne (hw : Calm w) (hdue : m.scheduledAt.any (now < ·) = false) :
    inLine ((releaseOne svc now m).exec (server svc.cfg) w).state.db =
      (inLine w.db).filter fun x => unreadable svc m || decide (x.id ≠ m.id) := by
  cases htext : plaintext svc m with
  | error e =>
    have hstuck : unreadable svc m = true := by simp [unreadable, htext, Except.toBool]
    simp [releaseOne, hdue, htext, hstuck]
  | ok text =>
    have hread : unreadable svc m = false := by simp [unreadable, htext, Except.toBool]
    obtain ⟨v, hv, hdb, -, hstate | hstate⟩ := exec_releaseOne hw hdue htext
    · simp [hstate, hdb, inLine_release, hread]
    · rw [hstate, (hv.step_query svc.cfg _).2, inLine_release, hdb, inLine_release]
      simp [List.filter_filter, hread]

/-- A message that can be read and written comes onto its lane. -/
theorem releaseOne_onItsLane (hw : Calm w) (hrow : w.db.message? m.id = some m)
    (hstatus : m.status = "scheduled") (hdue : m.scheduledAt.any (now < ·) = false)
    (htext : plaintext svc m = .ok text) (hwritable : Writable svc m text) :
    OnItsLane svc m ((releaseOne svc now m).exec (server svc.cfg) w).state := by
  obtain ⟨v, hv, hdb, hqueued, hstate⟩ := exec_releaseOne hw hdue htext
  obtain ⟨hlane, hmarshal⟩ := hwritable
  obtain ⟨stream, hstream⟩ := Option.isSome_iff_exists.1 hlane
  have hrow' : v.db.message? m.id = some (releasedRow m) :=
    (congrArg (Database.message? · m.id) hdb).trans (message?_released hrow hstatus)
  have hon : Queued v stream m.id := (hqueued stream m.id).2 (.inr ⟨rfl, hstream, hmarshal⟩)
  rcases hstate with hstate | hstate <;> rw [hstate]
  · exact ⟨⟨_, hrow', rfl⟩, stream, hstream, hon⟩
  · exact ⟨⟨_, message?_released_again svc hv.alone hrow', rfl⟩, stream, hstream,
      (queued_congr (streams_query svc hv.alone _) stream).2 hon⟩

/-- The releases of several messages take those out of the line that can be read. -/
theorem inLine_after {rows : List Message} (hw : Calm w)
    (hdue : ∀ m ∈ rows, m.scheduledAt.any (now < ·) = false) :
    inLine (Prog.after (server svc.cfg) (releaseOne svc now) w rows).db =
      (inLine w.db).filter fun x => rows.all fun m => unreadable svc m || decide (x.id ≠ m.id) := by
  induction rows generalizing w with
  | nil => simp [Prog.after]
  | cons m rows ih =>
    obtain ⟨hm, hrows⟩ := List.forall_mem_cons.1 hdue
    rw [Prog.after, ih (hw.exec _) hrows, inLine_releaseOne hw hm, List.filter_filter]
    refine List.filter_congr fun x _ => ?_
    rw [List.all_cons, Bool.and_comm]

/-- One of several messages comes onto its lane if it can be read and written. -/
theorem after_onItsLane {rows : List Message} (hw : Calm w) (hids : (rows.map Message.id).Nodup)
    (hdue : ∀ m ∈ rows, m.scheduledAt.any (now < ·) = false) (hm : m ∈ rows)
    (hrow : w.db.message? m.id = some m) (hstatus : m.status = "scheduled")
    (htext : plaintext svc m = .ok text) (hwritable : Writable svc m text) :
    OnItsLane svc m (Prog.after (server svc.cfg) (releaseOne svc now) w rows) := by
  induction rows generalizing w with
  | nil => cases hm
  | cons m' rows ih =>
    rw [List.map_cons, List.nodup_cons] at hids
    obtain ⟨hm', hrows⟩ := List.forall_mem_cons.1 hdue
    rcases List.mem_cons.1 hm with rfl | hm
    · -- the messages after it leave it alone
      have hother : ∀ x ∈ rows, m.id ≠ x.id := fun x hx hid =>
        hids.1 (hid ▸ List.mem_map_of_mem hx)
      have hlater : Untouched m.id ((releaseOne svc now m).exec (server svc.cfg) w).state
          (Prog.after (server svc.cfg) (releaseOne svc now)
            ((releaseOne svc now m).exec (server svc.cfg) w).state rows) :=
        Prog.after_inv (fun x hx => releaseOne_frame now (hother x hx)) (.refl (hw.exec _).alone)
      exact hlater.onItsLane.2 (releaseOne_onItsLane hw hrow hstatus hm' htext hwritable)
    · have hne : m.id ≠ m'.id := fun hid => hids.1 (hid ▸ List.mem_map_of_mem hm)
      have hframe : Untouched m.id w ((releaseOne svc now m').exec (server svc.cfg) w).state :=
        releaseOne_frame now hne w (.refl hw.alone)
      exact ih (hw.exec _) hids.2 hrows hm (hframe.row.trans hrow)

variable (svc) in
/-- **A round where nothing fails** releases its batch. -/
theorem exec_round (hw : Calm w) : ∃ v : World, Calm v ∧ v.db = w.db ∧
    ((processDue svc).exec (server svc.cfg) w).state =
      Prog.after (server svc.cfg) (releaseOne svc w.tick.clock) v (batch w) := by
  let w₁ := ((server svc.cfg).step .now w).2
  have hw₁ : Calm w₁ := hw.step _
  have hdb₁ : w₁.db = w.db := (step_db _ _ _).trans hw.alone.tick_db
  obtain ⟨hreply, hdb⟩ := hw₁.step_query svc.cfg (.scheduledMessages w.tick.clock 50)
  rw [hdb₁, scheduledMessages_eq] at hreply
  refine ⟨_, hw₁.step (.db (.scheduledMessages w.tick.clock 50)), hdb.trans hdb₁, ?_⟩
  rw [exec_processDue]
  simp only [w₁, hreply]
  rfl

variable (svc) in
/-- The next round begins no earlier than this one. -/
theorem clock_round (w : World) :
    w.tick.clock ≤ ((processDue svc).exec (server svc.cfg) w).state.tick.clock := by
  have hle : w.tick.clock ≤ ((processDue svc).exec (server svc.cfg) w).state.clock := by
    unfold processDue
    rw [Prog.call_bind, Prog.exec_act]
    refine (Prog.only_of_forall (P := fun _ => True) (fun _ => trivial) _).exec_inv
      (I := fun v : World => w.tick.clock ≤ v.clock) (fun e v _ hv => ?_) (le_refl _)
    rw [step_clock]
    omega
  exact hle.trans (Int.le_add_of_nonneg_right (Int.natCast_nonneg _))

end Round

/-! ## The messages ahead -/

/-- The message waits, with others ahead of it. -/
structure Waiting (m : Message) (A : List Message) (w : World) : Prop where
  calm : Calm w
  row : w.db.message? m.id = some m
  due : dueAt m ≤ w.tick.clock
  ids : ((inLine w.db).map Message.id).Nodup
  line : ∃ B, inLine w.db = A ++ m :: B

namespace Waiting

variable {svc} {m : Message} {A : List Message} {w : World}

theorem status (h : Waiting m A w) : m.status = "scheduled" := by
  obtain ⟨B, hline⟩ := h.line
  have hm : m ∈ inLine w.db := hline ▸ List.mem_append_right A List.mem_cons_self
  exact (mem_inLine.1 hm).2.1

/-- What is ahead of the message is due. -/
theorem batch_eq (h : Waiting m A w) : ∃ B, batch w = (A ++ m :: B).take 50 := by
  obtain ⟨B, hline⟩ := h.line
  have hsorted : (A ++ m :: B).Pairwise fun a b => dueAt a ≤ dueAt b :=
    hline ▸ List.pairwise_insertionSort _ _
  have hahead : ∀ a ∈ A, dueAt a ≤ w.tick.clock := fun a ha =>
    ((List.pairwise_append.1 hsorted).2.2 a ha m List.mem_cons_self).trans h.due
  refine ⟨B.filter fun x => dueAt x ≤ w.tick.clock, ?_⟩
  rw [batch, hline, List.filter_append, List.filter_cons_of_pos (by simpa using h.due),
    List.filter_eq_self.2 (by simpa using hahead)]

/-- The batch holds messages that are in line and due. -/
theorem of_mem_batch (h : Waiting m A w) :
    (∀ x ∈ batch w, x.scheduledAt.any (w.tick.clock < ·) = false) ∧
      ((batch w).map Message.id).Nodup := by
  have hsub : (batch w).Sublist (inLine w.db) := (List.take_sublist _ _).trans List.filter_sublist
  refine ⟨fun x hx => ?_, h.ids.sublist (hsub.map _)⟩
  have hdue : dueAt x ≤ w.tick.clock := by
    simpa using (List.mem_filter.1 (List.mem_of_mem_take hx)).2
  obtain ⟨t, ht⟩ := Option.isSome_iff_exists.1 (mem_inLine.1 (hsub.subset hx)).2.2
  simpa [dueAt, ht] using hdue

/-- **With fewer than fifty messages ahead** the message is released by the round. -/
theorem released (h : Waiting m A w) (hshort : A.length < 50) {text : String}
    (htext : plaintext svc m = .ok text) (hwritable : Writable svc m text) :
    OnItsLane svc m ((processDue svc).exec (server svc.cfg) w).state := by
  obtain ⟨v, hv, hdb, hstate⟩ := exec_round svc h.calm
  obtain ⟨B, hbatch⟩ := h.batch_eq
  obtain ⟨hdue, hids⟩ := h.of_mem_batch
  have hm : m ∈ batch w := by
    rw [hbatch, List.take_append, List.take_of_length_le hshort.le]
    refine List.mem_append_right A ?_
    obtain ⟨n, hn⟩ : ∃ n, 50 - A.length = n + 1 := ⟨49 - A.length, by omega⟩
    rw [hn, List.take_succ_cons]
    exact List.mem_cons_self
  rw [hstate]
  exact after_onItsLane hv hids hdue hm (hdb ▸ h.row) h.status htext hwritable

/-- **With at least fifty messages ahead** the message waits for the next round, and those that the
round has released are no longer ahead of it. -/
theorem passed (h : Waiting m A w) (hfull : 50 ≤ A.length) :
    Waiting m (Batch.pass 50 (unreadable svc) A)
      ((processDue svc).exec (server svc.cfg) w).state := by
  obtain ⟨v, hv, hdb, hstate⟩ := exec_round svc h.calm
  obtain ⟨_, hbatch⟩ := h.batch_eq
  obtain ⟨B, hline⟩ := h.line
  obtain ⟨hdue, -⟩ := h.of_mem_batch
  rw [List.take_append_of_le_length hfull] at hbatch
  have hids := h.ids
  rw [hline] at hids
  have hline' : inLine ((processDue svc).exec (server svc.cfg) w).state.db =
      Batch.pass 50 (unreadable svc) A ++ m :: B := by
    rw [hstate, inLine_after hv hdue, hdb, hline, hbatch, Batch.filter_eq_pass hids]
  have hother : ∀ x ∈ batch w, m.id ≠ x.id := by
    intro x hx hid
    rw [List.map_append] at hids
    have hmem : x ∈ A := List.mem_of_mem_take (hbatch ▸ hx)
    exact List.disjoint_of_nodup_append hids (List.mem_map_of_mem hmem)
      (hid ▸ List.mem_map_of_mem List.mem_cons_self)
  have hframe : Untouched m.id v ((processDue svc).exec (server svc.cfg) w).state := by
    rw [hstate]
    exact Prog.after_inv (fun x hx => releaseOne_frame _ (hother x hx)) (.refl hv.alone)
  refine ⟨h.calm.exec _, hframe.row.trans (hdb ▸ h.row), h.due.trans (clock_round svc w), ?_,
    B, hline'⟩
  have hpart : (Batch.pass 50 (unreadable svc) A ++ m :: B).Sublist (A ++ m :: B) := by
    rw [← Batch.filter_eq_pass hids]
    exact List.filter_sublist
  rw [hline']
  exact hids.sublist (hpart.map Message.id)

/-- As long as there are at least fifty messages ahead, the message waits. -/
theorem rounds (h : Waiting m A w) (k : ℕ)
    (hfull : ∀ j < k, 50 ≤ ((Batch.pass 50 (unreadable svc))^[j] A).length) :
    Waiting m ((Batch.pass 50 (unreadable svc))^[k] A) (rounds svc k w) := by
  induction k with
  | zero => exact h
  | succ k ih =>
    rw [Function.iterate_succ_apply', Scheduler.rounds, Function.iterate_succ_apply']
    exact (ih fun j hj => hfull j (by omega)).passed (hfull k (by omega))

/-- **Whether a message that waits is ever released.** -/
theorem ever_iff (h : Waiting m A w) {text : String} (htext : plaintext svc m = .ok text)
    (hwritable : Writable svc m text) :
    (∃ k, OnItsLane svc m (Scheduler.rounds svc k w)) ↔ A.countP (unreadable svc) < 50 := by
  rw [← Batch.exists_short_iff]
  constructor
  · rintro ⟨k, ⟨m', hrow, hpending⟩, -⟩
    by_contra hfull
    simp only [not_exists, not_lt] at hfull
    -- it is still waiting, so it is not pending
    have hk := h.rounds k fun j _ => hfull j
    obtain rfl := Option.some.inj (hk.row.symm.trans hrow)
    exact absurd (hk.status.symm.trans hpending) (by decide)
  · intro hshort
    refine ⟨Nat.find hshort + 1, ?_⟩
    have hk := h.rounds (Nat.find hshort) fun j hj => not_lt.1 (Nat.find_min hshort hj)
    rw [Scheduler.rounds, Function.iterate_succ_apply']
    exact hk.released (Nat.find_spec hshort) htext hwritable

/-- A message that is due waits for those ahead of it. -/
theorem of_due (hw : Calm w) (hids : (w.db.messages.map Message.id).Nodup)
    (hm : m ∈ w.db.messages) (hdue : Due w.tick.clock m) : Waiting m (ahead w.db m) w := by
  obtain ⟨hstatus, hat⟩ := hdue
  obtain ⟨t, ht, hle⟩ := (Option.any_eq_true _ _).1 hat
  have hline : m ∈ inLine w.db := mem_inLine.2 ⟨hm, hstatus, ht ▸ rfl⟩
  have hpart : (inLine w.db).Perm (w.db.messages.filter fun m =>
      m.status = "scheduled" && m.scheduledAt.isSome) := List.perm_insertionSort _ _
  obtain ⟨A, B, heq, hfirst⟩ := List.eq_append_cons_of_mem hline
  have hahead : ahead w.db m = A := by
    rw [ahead, heq, List.takeWhile_append_of_pos fun a ha => ?_,
      List.takeWhile_cons_of_neg (by simp), List.append_nil]
    exact decide_eq_true fun hsame => hfirst (hsame ▸ ha)
  refine ⟨hw, w.db.message?_of_mem hids hm, ?_, ?_, B, hahead ▸ heq⟩
  · simpa [dueAt, ht] using hle
  · rw [(hpart.map Message.id).nodup_iff]
    exact hids.sublist (List.filter_sublist.map Message.id)

end Waiting

/-- **A message that is due, can be read and can be written is released by some round exactly if
fewer than fifty of the messages ahead of it cannot be read.** Nothing fails meanwhile, and nothing
else runs. -/
theorem released_iff (svc : Services) (w : World) (hw : Calm w)
    (hids : (w.db.messages.map Message.id).Nodup) (m : Message) (hm : m ∈ w.db.messages)
    (hdue : Due w.tick.clock m) (text : String) (htext : plaintext svc m = .ok text)
    (hwritable : Writable svc m text) :
    (∃ k, OnItsLane svc m (rounds svc k w)) ↔
      (ahead w.db m).countP (unreadable svc) < 50 :=
  (Waiting.of_due hw hids hm hdue).ever_iff htext hwritable

/-! ## Fifty messages that cannot be read -/

/-- A cipher that reads only what it has marked. -/
def authenticating : Cipher where
  encrypt _ plaintext := String.ofList ('#' :: plaintext.toList)
  decrypt encoded :=
    match encoded.toList with
    | '#' :: plaintext => .ok (String.ofList plaintext)
    | _ => .error "cipher: message authentication failed"
  decrypt_encrypt _ plaintext := by simp
  encrypt_ne_empty := marked_ne_empty

/-- Services with that cipher. -/
def authenticServices : Services := { plainServices with cipher := some authenticating }

/-- A message that can be read, due one second after the start of time. -/
def readable : Message :=
  { dueMessage with encryptedMessage := "#hello", scheduledAt := some 1000000000 }

/-- A server on which the message is due after some others that cannot be read. -/
def poisoned (n : ℕ) : World :=
  let w := Dispatch.onePhone []
  { w with
    db := { w.db with
      messages := readable :: (List.range n).map fun i =>
        { dueMessage with id := "poison-" ++ toString i } }
    clock := 1000000000 }

/-- Behind one message that cannot be read the message is released. -/
theorem released_behind_one : ∃ k, OnItsLane authenticServices readable
    (rounds authenticServices k (poisoned 1)) :=
  (released_iff authenticServices (poisoned 1) (fun t ht => by cases ht) (by decide)
    readable List.mem_cons_self ⟨rfl, rfl⟩ "hello" rfl (by decide)).2 (by decide)

/-- **Behind fifty messages that cannot be read the message is never released.** -/
theorem poisoned_never_released : Calm (poisoned 50) ∧
    ((poisoned 50).db.messages.map Message.id).Nodup ∧ readable ∈ (poisoned 50).db.messages ∧
    Due (poisoned 50).tick.clock readable ∧ plaintext authenticServices readable = .ok "hello" ∧
    Writable authenticServices readable "hello" ∧
    (∀ x ∈ (poisoned 50).db.messages, x ≠ readable → unreadable authenticServices x = true) ∧
    ¬ ∃ k, OnItsLane authenticServices readable (rounds authenticServices k (poisoned 50)) := by
  have hcalm : Calm (poisoned 50) := fun t ht => by cases ht
  have hids : ((poisoned 50).db.messages.map Message.id).Nodup := by decide
  have hwritable : Writable authenticServices readable "hello" := by decide
  have hmany : 50 ≤ (ahead (poisoned 50).db readable).countP (unreadable authenticServices) := by
    decide
  have hwaiting : Waiting readable (ahead (poisoned 50).db readable) (poisoned 50) :=
    .of_due hcalm hids List.mem_cons_self ⟨rfl, rfl⟩
  refine ⟨hcalm, hids, List.mem_cons_self, ⟨rfl, rfl⟩, rfl, hwritable, by decide, ?_⟩
  rw [hwaiting.ever_iff rfl hwritable]
  exact not_lt.2 hmany

end AeroxeBee.Scheduler
