import AeroxeBee.Worker.Moves

/-!
# Back-pressure

What becomes of the messages that wait in a lane when more messages arrive than are handled. The
depth of a lane is bounded by trimming its stream: `enqueue` never refuses a message because the
lane is full, and what the server trims may not have been handled yet.

* `enqueue_keepsWork_iff`: an enqueue keeps the work that waits, however the server trims, exactly
  if everything beyond the depth has been acknowledged;
* `run_keepsWork`: in a run whose enqueues all find room nothing that waits is ever lost.
-/

namespace AeroxeBee.Worker

open Foundations

variable (cfg : QueueConfig)

/-! ## What is asked of an enqueue -/

/-- As many messages wait as the lane may hold. A depth that is not positive is no bound. -/
def Full (s : Stream Fields) : Prop :=
  0 < cfg.maxQueueDepth ∧ cfg.maxQueueDepth ≤ (s.waiting cfg.consumerGroupName).card

/-- **An enqueue does not destroy accepted work.** If it succeeds, every entry of the lane that is
not acknowledged is still there; and if the lane is full, it does not succeed. -/
structure KeepsWork (lane : PriorityLane) (msg : QueueMessage) (w : World) : Prop where
  kept : (∃ id, ((enqueue cfg lane msg).exec worker w).val = .ok id) →
    ∀ id ∈ (w.streams (cfg.stream lane)).waiting cfg.consumerGroupName,
      (((enqueue cfg lane msg).exec worker w).state.streams (cfg.stream lane)).entryAt? id =
        (w.streams (cfg.stream lane)).entryAt? id
  refused : Full cfg (w.streams (cfg.stream lane)) →
    ∃ e, ((enqueue cfg lane msg).exec worker w).val = .error e

/-- The message can be appended: the lane has a stream, and the message can be written. -/
def Appendable (lane : PriorityLane) (msg : QueueMessage) : Prop :=
  (cfg.stream? lane).isSome ∧ msg.marshal.isSome

/-- Everything beyond the depth of the lane has been acknowledged. -/
def HasRoom (s : Stream Fields) : Prop :=
  0 < cfg.maxQueueDepth → s.Room cfg.consumerGroupName cfg.maxQueueDepth.toNat

/-! ## One enqueue -/

variable {cfg} {lane : PriorityLane} {msg : QueueMessage}

/-- The bound that the server is given. -/
def depth (cfg : QueueConfig) : Option ℕ :=
  if 0 < cfg.maxQueueDepth then some cfg.maxQueueDepth.toNat else none

/-- The fields of the entry of a message. -/
def entryFields (msg : QueueMessage) (data : List Char) (now : ℤ) : Fields :=
  [("payload", data), ("created_at", Json.intLit (now / 1000000000)),
    ("max_age", Json.intLit (msg.maxAge.toInt.tdiv 1000000))]

/-- **What an enqueue comes to**: an entry on the stream of the lane, or an error. -/
theorem exec_enqueue_cases {name : String} {data : List Char} (hname : cfg.stream? lane = some name)
    (hdata : msg.marshal = some data) (w : World) :
    let o := (enqueue cfg lane msg).exec worker w
    let t := w.env.tail.headD .quiet
    let values := entryFields msg data (w.clock + (w.env.headD .quiet).elapsed)
    (t.fault = .none ∧ o.val = .ok ((w.streams name).add values (depth cfg) t.trim).1 ∧
        o.state.streams name = ((w.streams name).add values (depth cfg) t.trim).2) ∨
      t.fault ≠ .none ∧ ∃ e, o.val = .error e := by
  intro o t values
  let r := worker.step (.xAdd name values cfg.maxQueueDepth) w.tick
  have hr : r = t.fault.apply .refused .lost
      (fun w => (.ok ((w.streams name).add values (depth cfg) t.trim).1,
        w.setStream name ((w.streams name).add values (depth cfg) t.trim).2)) w.tick.tick := rfl
  have hrun : o.val = r.1.mapError (fun e => "xadd to " ++ name ++ ": " ++ e.text) ∧
      o.state = r.2 := by
    simp only [o, enqueue, hname, hdata, Prog.call_bind, Prog.exec_act]
    generalize hstep : worker.step (.xAdd name _ cfg.maxQueueDepth) _ = r'
    obtain rfl : r = r' := hstep
    cases r.1 <;> exact ⟨rfl, rfl⟩
  obtain ⟨hval, hstate⟩ := hrun
  cases hfault : t.fault with
  | none =>
    left
    rw [hfault] at hr
    refine ⟨rfl, ?_, ?_⟩
    · rw [hval, hr]
      rfl
    · rw [hstate, hr, Fault.apply, setStream_streams, if_pos rfl]
      rfl
  | refused e | lost e =>
    right
    rw [hfault] at hr
    refine ⟨by simp, ?_⟩
    rw [hval, hr]
    exact ⟨_, rfl⟩

/-- A message that cannot be appended is refused. -/
theorem error_of_not_appendable (h : ¬ Appendable cfg lane msg) (w : World) :
    ∃ e, ((enqueue cfg lane msg).exec worker w).val = .error e := by
  unfold enqueue
  cases hname : cfg.stream? lane with
  | none => exact ⟨_, rfl⟩
  | some name =>
    cases hdata : msg.marshal with
    | none => exact ⟨_, rfl⟩
    | some data => exact absurd ⟨by simp [hname], by simp [hdata]⟩ h

theorem stream_of_stream? {name : String} (hname : cfg.stream? lane = some name) :
    cfg.stream lane = name := by
  rw [QueueConfig.stream, hname, Option.getD_some]

/-- An enqueue that fails destroys nothing. -/
theorem KeepsWork.of_error {w : World} (h : ∃ e, ((enqueue cfg lane msg).exec worker w).val = .error e) :
    KeepsWork cfg lane msg w := by
  refine ⟨?_, fun _ => h⟩
  rintro ⟨id, hid⟩
  obtain ⟨e, he⟩ := h
  cases hid.symm.trans he

/-- Where there is room the lane is not full. -/
theorem HasRoom.not_full {s : Stream Fields} (h : HasRoom cfg s) : ¬ Full cfg s := by
  rintro ⟨hpos, hle⟩
  have hcard := (h hpos).card_waiting_lt (by omega)
  omega

/-- An enqueue that finds room keeps what waits. -/
theorem keepsWork_of_room {w : World} (h : HasRoom cfg (w.streams (cfg.stream lane))) :
    KeepsWork cfg lane msg w := by
  by_cases happend : Appendable cfg lane msg
  · obtain ⟨name, hname⟩ := Option.isSome_iff_exists.1 happend.1
    obtain ⟨data, hdata⟩ := Option.isSome_iff_exists.1 happend.2
    rcases exec_enqueue_cases hname hdata w with ⟨-, hval, hstate⟩ | ⟨-, he⟩
    · refine ⟨fun _ id hid => ?_, fun hfull => absurd hfull h.not_full⟩
      rw [stream_of_stream? hname] at h hid ⊢
      rw [hstate]
      unfold depth
      split_ifs with hpos
      · exact (Stream.keeps_waiting_iff (by omega) _).2 (h hpos) _ id hid
      · exact Stream.keeps_of_unlimited hid
    · exact .of_error he
  · exact .of_error (error_of_not_appendable happend w)

/-- **An enqueue keeps the work that waits**, however Redis answers and trims, exactly if it
appends nothing or finds room: everything beyond the depth has been acknowledged. -/
theorem enqueue_keepsWork_iff (cfg : QueueConfig) (lane : PriorityLane) (msg : QueueMessage)
    (w : World) :
    (∀ env, KeepsWork cfg lane msg { w with env := env }) ↔
      (Appendable cfg lane msg → HasRoom cfg (w.streams (cfg.stream lane))) := by
  constructor
  · intro hkeeps happend hpos
    obtain ⟨name, hname⟩ := Option.isSome_iff_exists.1 happend.1
    obtain ⟨data, hdata⟩ := Option.isSome_iff_exists.1 happend.2
    have hdepth : depth cfg = some cfg.maxQueueDepth.toNat := if_pos hpos
    refine (Stream.keeps_waiting_iff (by omega) (entryFields msg data (w.clock + 0))).1 ?_
    intro trim id hid
    -- a server that answers and trims that much
    let env : List Tick := [.quiet, { Tick.quiet with trim := trim }]
    rcases exec_enqueue_cases hname hdata { w with env := env } with ⟨-, hval, hstate⟩ | ⟨hne, -⟩
    · have hkept := (hkeeps env).kept ⟨_, hval⟩ id hid
      rw [stream_of_stream? hname] at hkept ⊢
      rw [hstate, hdepth] at hkept
      exact hkept
    · exact absurd rfl hne
  · intro hroom env
    by_cases happend : Appendable cfg lane msg
    · exact keepsWork_of_room (hroom happend)
    · exact .of_error (error_of_not_appendable happend _)

/-! ## A run -/

section Run

variable {α : Type} (cfg)

/-- If the thread is about to append an entry to a bounded stream, there is room for it. -/
def FindsRoom (P : Pool WorkerCmd World α) (i : ℕ) : Prop :=
  ∀ name values maxLen k, P.threads[i]? = some (.act (.xAdd name values maxLen) k) → 0 < maxLen →
    (P.state.streams name).Room cfg.consumerGroupName maxLen.toNat

variable {cfg} {group : String}

/-- An entry that finds room costs nothing that waits. -/
theorem lossless_xAdd {w : World} {t : Tick} {name' : String} {values : Fields} {maxLen : ℤ}
    (hroom : 0 < maxLen → (w.streams name').Room group maxLen.toNat) {name : String}
    (h : (w.streams name).Lossless group) :
    ((effect t w (.xAdd name' values maxLen)).2.streams name).Lossless group := by
  have hadd : ((w.setStream name' ((w.streams name').add values
      (if 0 < maxLen then some maxLen.toNat else none) t.trim).2).streams name).Lossless group := by
    rw [setStream_streams]
    by_cases hname : name = name'
    · subst hname
      rw [if_pos rfl]
      refine h.add values t.trim fun limit hlimit => ?_
      split_ifs at hlimit with hpos
      obtain rfl := Option.some.inj hlimit
      exact hroom hpos
    · rw [if_neg hname]
      exact h
  cases hfault : t.fault with
  | refused e => simpa [effect, redis, Fault.apply, hfault] using h
  | none | lost e => simpa [effect, redis, Fault.apply, hfault] using hadd

/-- A command that appends nothing costs nothing. -/
theorem lossless_moved {name : String} {ev : Event WorkerCmd} {s s' : Stream Fields}
    (h : Moved name ev s s') (hadd : appendedOn name ev = none) (hs : s.Lossless group) :
    s'.Lossless group := by
  cases h with
  | same => exact hs
  | xAdd values maxLen limit trim h => simp [appendedOn, h] at hadd
  | xReadGroup group' consumer now => exact hs.read group' consumer now
  | xAck group' id => exact hs.ack group' id
  | xClaim group' consumer minIdle now id => exact hs.claim group' consumer minIdle now id

/-- **Nothing that waits is lost in a run whose entries all find room**, whatever the other
threads do. -/
theorem run_keepsWork {P : Pool WorkerCmd World α} {sched : List ℕ}
    (h : ∀ name, (P.state.streams name).Lossless cfg.consumerGroupName)
    (hroom : Pool.EachStep worker (FindsRoom cfg) P sched) (name : String) :
    ((P.run worker sched).state.streams name).Lossless cfg.consumerGroupName := by
  refine Pool.run_inv_of (I := fun P => ∀ name, (P.state.streams name).Lossless
    cfg.consumerGroupName) (fun P i hP hG name => ?_) h hroom name
  rcases P.step_cases worker i with hstay | ⟨_, e, k, hthread, hstep⟩
  · rw [hstay]
    exact hP name
  · rw [hstep]
    cases e with
    | xAdd name' values maxLen =>
      exact lossless_xAdd (w := P.state.tick) (hG name' values maxLen k hthread) (hP name)
    | _ => exact lossless_moved (step_moved P.state _ name) rfl (hP name)

end Run

/-! ## A lane that is overfull -/

/-- A message for the first lane. -/
def notice : QueueMessage :=
  { QueueMessage.zero with
    id := "message-1"
    recipient := "+919999999999"
    message := "hello"
    messageType := .otp
    priority := .otp }

/-- A stream from which nothing has been read. -/
def unread (n : ℕ) : Stream Fields := ⟨List.replicate n [], 0, fun _ => ⟨0, []⟩⟩

theorem unread_waiting (n : ℕ) (group : String) : 0 ∈ (unread (n + 1)).waiting group := by
  refine Stream.mem_waiting.2 ⟨le_rfl, ?_, fun hacked => absurd hacked.1 (Nat.not_lt_zero _)⟩
  rw [unread, List.length_replicate]
  exact Nat.succ_pos n

theorem unread_entry (n : ℕ) : (unread (n + 1)).entryAt? 0 = some [] := by
  simp [unread, Stream.entryAt?, List.replicate_succ]

/-- The first entry is gone once there are more entries than the limit, and the server trims. -/
theorem unread_add (n limit trim : ℕ) (values : Fields) (hlimit : limit ≤ n) (htrim : 0 < trim) :
    ((unread n).add values (some limit) trim).2.entryAt? 0 = none := by
  refine if_neg ?_
  simp only [Stream.add, unread, List.length_replicate]
  omega

/-- A lane in which more messages wait than the lane may hold, and a server that is about to trim a
hundred of them. -/
def overfull : World :=
  { World.fresh 0 0 [.quiet, { Tick.quiet with trim := 100 }] with streams := fun _ => unread 10100 }

/-- The message is accepted, and the oldest one is lost. -/
theorem overfull_not_keepsWork : ¬ KeepsWork .default .otp notice overfull := by
  obtain ⟨data, hdata⟩ : ∃ data, notice.marshal = some data :=
    Option.isSome_iff_exists.1 (by decide)
  have hname : QueueConfig.default.stream? .otp = some "otp_queue" := rfl
  intro h
  rcases exec_enqueue_cases hname hdata overfull with ⟨-, hval, hstate⟩ | ⟨hne, -⟩
  · have hkept := h.kept ⟨_, hval⟩ 0 (unread_waiting 10099 _)
    have hgone := unread_add 10100 10000 100 (entryFields notice data 0) (by decide) (by decide)
    rw [stream_of_stream? hname, hstate] at hkept
    cases (hgone.symm.trans hkept).trans (unread_entry 10099)
  · exact hne rfl

end AeroxeBee.Worker
