import AeroxeBee.Api.Duplicates
import AeroxeBee.Worker.Backpressure

/-!
# Rows and queue entries

The endpoints first store the row of a message, then count the message and put it on the queue.
Nothing takes the row back when a later step fails: a message that could not be put on the queue
stays pending in the database, and has been counted, although the request was answered with an
error.

* `Posted`, `post`: the steps that the endpoints share, and what can come of them;
* `posted`: what they leave in the table and on the stream, for every pattern of failures;
* `agree_iff_untroubled`: rows and queue agree after a request exactly if, once a row is stored, no
  step fails.
-/

namespace AeroxeBee.Api

open Foundations Dispatch

variable (svc : Services)

/-! ## What is asked of a request -/

/-- An entry that has been appended to a stream since, and not been trimmed, holds a message with
the id. -/
def AddedEntry (before now : Stream Worker.Fields) (id : String) : Prop :=
  ∃ n values msg, before.added.length ≤ n ∧ now.entryAt? n = some values ∧
    Worker.decode values = some msg ∧ msg.id = id

/-- The stream of a lane. -/
abbrev laneStream (w : World) (lane : PriorityLane) : Stream Worker.Fields :=
  w.streams (svc.cfg.queue.stream lane)

/-- **Rows and queue agree after a request** that began in the given world: every row it left
pending has an entry on the stream of its lane, and if it was answered with a server error it left
no row, no count and no entry. -/
structure RowsAgree (w : World) (o : Outcome ServerCmd World Response) : Prop where
  queued : ∀ row ∈ o.state.db.messages, row ∉ w.db.messages → row.status = "pending" →
    AddedEntry (laneStream svc w row.priorityLane) (laneStream svc o.state row.priorityLane) row.id
  clean : ∀ status text, o.val = .error status text → 500 ≤ status →
    o.state.db.messages = w.db.messages ∧ o.state.db.usageCounters = w.db.usageCounters ∧
      ∀ name, (o.state.streams name).added = (w.streams name).added

/-! ## Requests that run into no trouble -/

/-- The statement stores the row: it is not refused, and the row does not clash with the tables. -/
def Inserts (row : Message) (w : World) : Prop :=
  w.next.fault.isRefused = false ∧ ∃ db, w.tick.db.insertMessage row = .ok db

/-- Once a row is stored, nothing goes wrong. The statement that stores it is answered, and its
message can be written into an entry; the entry is appended, and no entry of the request is trimmed.
Where the answer to the request depends on it (`answered`), the server also learns that the entry
was appended. -/
def Untroubled (answered : Prop) (w₀ : World) : {β : Type} → ServerCmd β → World → Prop
  | _, .db (.createMessage row), w =>
    Inserts row w → w.next.fault = .none ∧ row.createdAt.write.isSome = true
  | _, .queue (.xAdd name values maxLen), w =>
    w.next.fault.isRefused = false ∧ (answered → w.next.fault = .none) ∧
      (((server svc.cfg).step (.queue (.xAdd name values maxLen)) w).2.streams name).trimmed ≤
        (w₀.streams name).added.length
  | _, _, _ => True

/-! ## The steps that the endpoints share -/

/-- What came of a message: its row was not stored, or it was not put on the queue, or it was. -/
inductive Posted where
  | rejected
  | failed
  | queued
deriving DecidableEq

/-- Put a message on the queue. -/
def put (lane : PriorityLane) (msg : QueueMessage) : ServerProg Posted := do
  match ← enqueue svc lane msg with
  | .error _ => return .failed
  | .ok _ => return .queued

/-- Store a row, do something else, and put a message on the queue. -/
def post (row : Message) (between : ServerProg Unit) (lane : PriorityLane) (msg : QueueMessage) :
    ServerProg Posted := do
  match ← Prog.call (.db (.createMessage row)) with
  | .error _ => return .rejected
  | .ok () => do
    between
    put svc lane msg

/-- What is done between the row and the queue entry by `send` and `bulkSend`. -/
def counted (accountID : String) : ServerProg Unit := do
  let _ ← incrementUsage accountID
  return ()

/-- What is done between the row and the queue entry by `memberSend`. -/
def countedAndUsed (accountID deviceID : String) : ServerProg Unit := do
  let _ ← incrementUsage accountID
  let usedAt ← Prog.call .now
  let _ ← Prog.call (.db (.recordSent deviceID usedAt))
  return ()

/-- The end of a request for one message, from the quota on. -/
def postFresh (caller : Caller) (between : ServerProg Unit) (key : Option String) (startTime : ℤ)
    (d : Draft) : ServerProg Response :=
  orReturn (requireQuota caller.accountID) fun _ => do
    let msgID ← Prog.call .uuid
    let now ← Prog.call .now
    orReturn (encrypt svc d.message) fun encrypted => do
      match ← post svc (d.row svc caller msgID.text encrypted now) between
        (laneOf d.messageType).1 (d.queueMessage caller msgID.text now) with
      | .rejected => return .error 500 "failed to create message"
      | .failed => return .error 500 "failed to enqueue message"
      | .queued => do
        let done ← Prog.call .now
        return .queued msgID.text (laneOf d.messageType).1 key now ((done - startTime) / 1000000)

variable {svc}

theorem post_bind {α : Type} (row : Message) (between : ServerProg Unit) (lane : PriorityLane)
    (msg : QueueMessage) (f : Posted → ServerProg α) :
    post svc row between lane msg >>= f =
      Prog.call (.db (.createMessage row)) >>= fun created =>
        match created with
        | .error _ => f .rejected
        | .ok () => between >>= fun _ => enqueue svc lane msg >>= fun enqueued =>
          match enqueued with
          | .error _ => f .failed
          | .ok _ => f .queued := by
  unfold post put
  rw [bind_assoc]
  refine congrArg (Prog.call _ >>= ·) (funext fun created => ?_)
  rcases created with e | ⟨⟩
  · rfl
  · dsimp only
    rw [bind_assoc]
    refine congrArg (between >>= ·) (funext fun _ => ?_)
    rw [bind_assoc]
    refine congrArg (enqueue svc lane msg >>= ·) (funext fun enqueued => ?_)
    cases enqueued <;> rfl

theorem storeAndEnqueue_eq (d : Draft) (caller : Caller) (msgID encrypted : String) (now : ℤ) :
    storeAndEnqueue svc d caller msgID encrypted now =
      post svc (d.row svc caller msgID encrypted now) (counted caller.accountID)
          (laneOf d.messageType).1 (d.queueMessage caller msgID now) >>= fun posted =>
        match posted with
        | .rejected => return .error (.error 500 "failed to create message")
        | .failed => return .error (.error 500 "failed to enqueue message")
        | .queued => return .ok () := by
  rw [post_bind]
  rfl

theorem bulkOne_eq (d : Draft) (caller : Caller) (encrypted : String) (now : ℤ)
    (recipient : String) :
    bulkOne svc d caller encrypted now recipient =
      Prog.call .uuid >>= fun msgID =>
        let d := { d with
          recipient := recipient
          idempotencyKey := "bulk-" ++ msgID.text ++ "-" ++ recipient }
        post svc (d.row svc caller msgID.text encrypted now) (counted caller.accountID)
            (laneOf d.messageType).1 (d.queueMessage caller msgID.text now) >>= fun posted =>
          match posted with
          | .rejected => return ⟨recipient, "", "failed", "create failed"⟩
          | .failed => return ⟨recipient, msgID.text, "queued", "enqueue failed, stored for retry"⟩
          | .queued => return ⟨recipient, msgID.text, "queued", ""⟩ := by
  unfold bulkOne
  refine congrArg (Prog.call _ >>= ·) (funext fun msgID => ?_)
  dsimp only
  rw [post_bind]
  rfl

theorem sendFresh_eq (caller : Caller) (startTime : ℤ) (d : Draft) :
    sendFresh svc caller startTime d =
      postFresh svc caller (counted caller.accountID) (some d.idempotencyKey) startTime d := by
  unfold sendFresh postFresh
  refine congrArg (orReturn _) (funext fun _ => ?_)
  refine congrArg (Prog.call _ >>= ·) (funext fun msgID => ?_)
  refine congrArg (Prog.call _ >>= ·) (funext fun now => ?_)
  refine congrArg (orReturn _) (funext fun encrypted => ?_)
  rw [storeAndEnqueue_eq, orReturn, bind_assoc]
  refine congrArg (post _ _ _ _ _ >>= ·) (funext fun posted => ?_)
  cases posted <;> rfl

theorem memberFresh_eq (accountID : String) (startTime : ℤ) (d : Draft) :
    memberFresh svc accountID startTime d =
      postFresh svc ⟨accountID, ""⟩ (countedAndUsed accountID d.deviceID) none startTime d := by
  unfold postFresh
  simp only [post_bind]
  rfl

/-! ## What a request has done so far -/

/-- The command leaves the messages and the streams alone. -/
def Aside : {β : Type} → ServerCmd β → Prop
  | _, .now | _, .uuid | _, .nonce | _, .redis _ => True
  | _, .db (.deviceByID _) | _, .db (.usageCounter _ _) | _, .db (.subscription _) => True
  | _, .db (.incrementUsage _ _) | _, .db (.recordSent _ _) => True
  | _, _ => False

theorem Checks.aside {keys : Prop} {β : Type} {e : ServerCmd β} (h : Checks keys e) : Aside e := by
  cases e with
  | now | uuid | nonce | redis => trivial
  | db q =>
    cases q with
    | deviceByID _ | usageCounter _ _ | subscription _ => trivial
    | _ => exact h.elim
  | _ => exact h.elim

theorem counted_aside (accountID : String) : (counted accountID).Only Aside :=
  ⟨trivial, fun _ => ⟨trivial, fun _ => trivial⟩⟩

theorem countedAndUsed_aside (accountID deviceID : String) :
    (countedAndUsed accountID deviceID).Only Aside :=
  ⟨trivial, fun _ => ⟨trivial, fun _ => ⟨trivial, fun _ => ⟨trivial, fun _ => trivial⟩⟩⟩⟩

section Step

variable {w : World} {β : Type} {e : ServerCmd β}

theorem Aside.step_messages (h : Aside e) (hw : Alone w) :
    ((server svc.cfg).step e w).2.db.messages = w.db.messages := by
  rw [← hw.tick_db, step_db]
  cases e with
  | db q =>
    rcases Fault.apply_snd w.next.fault id id (fun db => q.run db) w.tick.db with hdb | hdb
    · rw [ServerCmd.tables, hdb]
    · rw [ServerCmd.tables, hdb]
      cases q with
      | deviceByID _ | usageCounter _ _ | subscription _ | recordSent _ _ => rfl
      | incrementUsage accountID date => exact Database.countUsage_messages _ accountID date
      | _ => exact h.elim
  | _ => rfl

theorem Aside.step_streams (h : Aside e) (hw : Alone w) :
    ((server svc.cfg).step e w).2.streams = w.streams := by
  rw [AeroxeBee.step_streams, ← hw.tick_streams]
  cases e with
  | queue e => exact h.elim
  | _ => rfl

theorem Aside.untroubled (h : Aside e) (answered : Prop) (w₀ : World) :
    Untroubled svc answered w₀ e w := by
  cases e with
  | db q =>
    cases q with
    | createMessage row => exact h.elim
    | _ => trivial
  | queue e => exact h.elim
  | _ => trivial

theorem insertMessage_ok {db db' : Database} {row : Message} (h : db.insertMessage row = .ok db') :
    (∀ old ∈ db.messages, old.id ≠ row.id) ∧ db'.messages = db.messages ++ [row] := by
  unfold Database.insertMessage at h
  split_ifs at h with hid hkey
  obtain rfl := Except.ok.inj h
  refine ⟨fun old hold heq => hid ?_, rfl⟩
  exact List.any_eq_true.2 ⟨old, hold, decide_eq_true heq⟩

variable (svc) in
/-- What is done aside leaves the streams alone and runs into no trouble. -/
theorem exec_of_aside {α : Type} {p : ServerProg α} (hp : p.Only Aside) (hw : Alone w) :
    (p.exec (server svc.cfg) w).state.streams = w.streams ∧ ∀ answered w₀,
      p.EachStep (server svc.cfg) (Untroubled svc answered w₀) w := by
  constructor
  · exact (hp.exec_inv (I := fun v => Alone v ∧ v.streams = w.streams)
      (fun _ _ he hv => ⟨hv.1.step _, (he.step_streams hv.1).trans hv.2⟩) ⟨hw, rfl⟩).2
  · intro answered w₀
    exact hp.eachStep (I := fun _ => True) (fun _ _ he _ => he.untroubled answered w₀)
      (fun _ _ _ => trivial) trivial

variable (svc) in
/-- **What storing a row comes to.** -/
theorem create_cases (hw : Alone w) (row : Message) :
    let r := (server svc.cfg).step (.db (.createMessage row)) w
    (¬ Inserts row w ∧ r.2.db = w.db ∧ ∃ e, r.1 = .error e) ∨
      Inserts row w ∧ (∀ old ∈ w.db.messages, old.id ≠ row.id) ∧
        r.2.db.messages = w.db.messages ++ [row] ∧
          (w.next.fault = .none ∧ r.1 = .ok () ∨ w.next.fault ≠ .none ∧ ∃ e, r.1 = .error e) := by
  intro r
  unfold Inserts
  rw [hw.tick_db]
  cases hinsert : w.db.insertMessage row with
  | error e =>
    have hrun : Query.run w.db (.createMessage row) = (.error e, w.db) := by
      simp only [Query.run, hinsert]
    have hnot : ¬ ∃ db, (.error e : Except String Database) = .ok db := by
      rintro ⟨db, hdb⟩
      cases hdb
    refine .inl ⟨fun h => hnot h.2, ?_⟩
    rcases hw.step_query svc.cfg (.createMessage row) with
      ⟨-, hval, hdb⟩ | ⟨e', -, hval, hdb⟩ | ⟨e', -, hval, hdb⟩
    · exact ⟨hdb.trans (by rw [hrun]), e, hval.trans (by rw [hrun])⟩
    · exact ⟨hdb, e', hval⟩
    · exact ⟨hdb.trans (by rw [hrun]), e', hval⟩
  | ok db =>
    have hrun : Query.run w.db (.createMessage row) = (.ok (), db) := by
      simp only [Query.run, hinsert]
    obtain ⟨hfresh, hmessages⟩ := insertMessage_ok hinsert
    rcases hw.step_query svc.cfg (.createMessage row) with
      ⟨hfault, hval, hdb⟩ | ⟨e', hfault, hval, hdb⟩ | ⟨e', hfault, hval, hdb⟩
    · refine .inr ⟨⟨by rw [hfault]; rfl, db, rfl⟩, hfresh, ?_, .inl ⟨hfault, ?_⟩⟩
      · rw [hdb, hrun, hmessages]
      · rw [hval, hrun]
    · refine .inl ⟨fun h => ?_, hdb, e', hval⟩
      rw [hfault] at h
      cases h.1
    · refine .inr ⟨⟨by rw [hfault]; rfl, db, rfl⟩, hfresh, ?_, .inr ⟨?_, e', hval⟩⟩
      · rw [hdb, hrun, hmessages]
      · rw [hfault]
        simp

variable (svc) in
/-- **What appending an entry comes to.** -/
theorem xAdd_cases (hw : Alone w) (name : String) (values : Worker.Fields) (maxLen : ℤ) :
    let r := (server svc.cfg).step (.queue (.xAdd name values maxLen)) w
    (w.next.fault.isRefused = true ∧ (∃ e, r.1 = .error e) ∧ r.2.streams = w.streams) ∨
      w.next.fault.isRefused = false ∧
        (r.2.streams name).added = (w.streams name).added ++ [values] ∧
        (w.streams name).trimmed ≤ (r.2.streams name).trimmed ∧
          (w.next.fault = .none ∧ (∃ id, r.1 = .ok id) ∨
            w.next.fault ≠ .none ∧ ∃ e, r.1 = .error e) := by
  intro r
  have hworker : w.tick.worker = ⟨w.streams, w.tick.antiStarvationCnt, w.tick.clock, []⟩ :=
    congrArg (Worker.World.mk · _ _ _) hw.tick_streams
  let s := ((w.streams name).add values (if 0 < maxLen then some maxLen.toNat else none)
    w.next.trim).2
  -- an answer that was lost leaves the entry as one that arrived does
  have happended (h : r.2.streams = Function.update w.streams name s) :
      (r.2.streams name).added = (w.streams name).added ++ [values] ∧
        (w.streams name).trimmed ≤ (r.2.streams name).trimmed := by
    rw [h, Function.update_self]
    exact ⟨rfl, Nat.le_add_right _ _⟩
  have hr : (r.1, r.2.streams) = ((Worker.effect w.next.toTick w.tick.worker
      (.xAdd name values maxLen)).1, (Worker.effect w.next.toTick w.tick.worker
        (.xAdd name values maxLen)).2.streams) := rfl
  rw [hworker] at hr
  simp only [Worker.effect, Worker.redis] at hr
  cases hfault : w.next.fault with
  | none =>
    rw [hfault, Fault.apply, Prod.mk.injEq] at hr
    obtain ⟨hadded, htrimmed⟩ := happended hr.2
    exact .inr ⟨rfl, hadded, htrimmed, .inl ⟨rfl, _, hr.1⟩⟩
  | refused e =>
    rw [hfault, Fault.apply, Prod.mk.injEq] at hr
    exact .inl ⟨rfl, ⟨_, hr.1⟩, hr.2⟩
  | lost e =>
    rw [hfault, Fault.apply, Prod.mk.injEq] at hr
    obtain ⟨hadded, htrimmed⟩ := happended hr.2
    exact .inr ⟨rfl, hadded, htrimmed, .inr ⟨by simp, _, hr.1⟩⟩

end Step

variable (svc) in
/-- **What a request has done so far**: the rows it stored, and the messages it appended to the
stream of a lane. It appends a message only for a row it stored. -/
structure Ledger (lane : PriorityLane) (w₀ : World) (rows : List Message)
    (msgs : List QueueMessage) (w : World) : Prop where
  alone : Alone w
  messages : w.db.messages = w₀.db.messages ++ rows
  fresh : ∀ row ∈ rows, ∀ old ∈ w₀.db.messages, old.id ≠ row.id
  nodup : (rows.map Message.id).Nodup
  pending : ∀ row ∈ rows, row.status = "pending" ∧ row.priorityLane = lane
  entries : ∃ values, (laneStream svc w lane).added = (laneStream svc w₀ lane).added ++ values ∧
    values.map Worker.decode = msgs.map some
  sublist : (msgs.map QueueMessage.id).Sublist (rows.map Message.id)

variable (svc) in
/-- Every row has its entry, and none of the entries was trimmed. -/
def Balanced (lane : PriorityLane) (w₀ : World) (rows : List Message) (msgs : List QueueMessage)
    (w : World) : Prop :=
  rows.map Message.id = msgs.map QueueMessage.id ∧
    (msgs ≠ [] → (laneStream svc w lane).trimmed ≤ (laneStream svc w₀ lane).added.length)

namespace Ledger

variable {lane : PriorityLane} {w₀ w : World} {rows : List Message} {msgs : List QueueMessage}

theorem start (hw : Alone w) (hmessages : w.db.messages = w₀.db.messages)
    (hstreams : w.streams = w₀.streams) : Ledger svc lane w₀ [] [] w where
  alone := hw
  messages := by rw [hmessages, List.append_nil]
  fresh _ hrow := absurd hrow List.not_mem_nil
  nodup := List.nodup_nil
  pending _ hrow := absurd hrow List.not_mem_nil
  entries := ⟨[], by rw [laneStream, hstreams, List.append_nil], rfl⟩
  sublist := List.Sublist.refl _

/-- A world in which the messages and the streams are the same. -/
theorem congr (h : Ledger svc lane w₀ rows msgs w) {w' : World} (hw : Alone w')
    (hmessages : w'.db.messages = w.db.messages) (hstreams : w'.streams = w.streams) :
    Ledger svc lane w₀ rows msgs w' where
  alone := hw
  messages := hmessages.trans h.messages
  fresh := h.fresh
  nodup := h.nodup
  pending := h.pending
  entries := by
    rw [laneStream, hstreams]
    exact h.entries
  sublist := h.sublist

/-- A row is stored. -/
theorem store (h : Ledger svc lane w₀ rows msgs w) {w' : World} {row : Message} (hw : Alone w')
    (hfresh : ∀ old ∈ w.db.messages, old.id ≠ row.id)
    (hmessages : w'.db.messages = w.db.messages ++ [row]) (hstreams : w'.streams = w.streams)
    (hpending : row.status = "pending") (hlane : row.priorityLane = lane) :
    Ledger svc lane w₀ (rows ++ [row]) msgs w' where
  alone := hw
  messages := by rw [hmessages, h.messages, List.append_assoc]
  fresh := by
    intro r hr old hold
    rcases List.mem_append.1 hr with hr | hr
    · exact h.fresh r hr old hold
    · obtain rfl := List.mem_singleton.1 hr
      exact hfresh old (h.messages ▸ List.mem_append_left _ hold)
  nodup := by
    rw [List.map_append, List.nodup_append]
    refine ⟨h.nodup, List.nodup_singleton _, ?_⟩
    intro a ha b hb
    obtain ⟨old, hold, rfl⟩ := List.mem_map.1 ha
    obtain rfl := List.mem_singleton.1 hb
    exact hfresh old (h.messages ▸ List.mem_append_right _ hold)
  pending := by
    intro r hr
    rcases List.mem_append.1 hr with hr | hr
    · exact h.pending r hr
    · obtain rfl := List.mem_singleton.1 hr
      exact ⟨hpending, hlane⟩
  entries := by
    rw [laneStream, hstreams]
    exact h.entries
  sublist := by
    rw [List.map_append]
    exact h.sublist.trans (List.sublist_append_left _ _)

/-- The message of the row that was stored last is appended. -/
theorem append {row : Message} (h : Ledger svc lane w₀ (rows ++ [row]) msgs w) {w' : World}
    (hsublist : (msgs.map QueueMessage.id).Sublist (rows.map Message.id)) (hw : Alone w')
    (hmessages : w'.db.messages = w.db.messages) {values : Worker.Fields} {msg : QueueMessage}
    (hadded : (laneStream svc w' lane).added = (laneStream svc w lane).added ++ [values])
    (hdecode : Worker.decode values = some msg) (hid : msg.id = row.id) :
    Ledger svc lane w₀ (rows ++ [row]) (msgs ++ [msg]) w' where
  alone := hw
  messages := hmessages.trans h.messages
  fresh := h.fresh
  nodup := h.nodup
  pending := h.pending
  entries := by
    obtain ⟨before, hbefore, hmsgs⟩ := h.entries
    refine ⟨before ++ [values], by rw [hadded, hbefore, List.append_assoc], ?_⟩
    rw [List.map_append, List.map_append, hmsgs, List.map_singleton, List.map_singleton, hdecode]
  sublist := by
    rw [List.map_append, List.map_append, List.map_singleton, List.map_singleton, hid]
    exact hsublist.append_right _

/-- The number of an entry, given by the position of its message. -/
theorem entryAt?_eq (h : Ledger svc lane w₀ rows msgs w) {i : ℕ} {msg : QueueMessage} :
    msgs[i]? = some msg ↔ ∃ values,
      (laneStream svc w lane).added[(laneStream svc w₀ lane).added.length + i]? = some values ∧
        Worker.decode values = some msg := by
  obtain ⟨values, hadded, hdecode⟩ := h.entries
  have hmap : (values.map Worker.decode)[i]? = (msgs.map some)[i]? := by rw [hdecode]
  rw [List.getElem?_map, List.getElem?_map] at hmap
  rw [hadded, List.getElem?_append_right (Nat.le_add_right _ _), Nat.add_sub_cancel_left]
  cases hv : values[i]? with
  | none =>
    rw [hv, Option.map_none] at hmap
    simp [Option.map_eq_none_iff.1 hmap.symm]
  | some v =>
    rw [hv, Option.map_some] at hmap
    obtain ⟨msg', hmsg', hv'⟩ := Option.map_eq_some_iff.1 hmap.symm
    simp [hmsg', ← hv']

/-- A row has an entry exactly if its message was appended and has not been trimmed. -/
theorem addedEntry_iff (h : Ledger svc lane w₀ rows msgs w) (id : String) :
    AddedEntry (laneStream svc w₀ lane) (laneStream svc w lane) id ↔
      ∃ i msg, msgs[i]? = some msg ∧ msg.id = id ∧
        (laneStream svc w lane).trimmed ≤ (laneStream svc w₀ lane).added.length + i := by
  constructor
  · rintro ⟨n, values, msg, hn, hentry, hdecode, hid⟩
    obtain ⟨i, rfl⟩ := Nat.exists_eq_add_of_le hn
    unfold Stream.entryAt? at hentry
    split_ifs at hentry with htrimmed
    exact ⟨i, msg, h.entryAt?_eq.2 ⟨values, hentry, hdecode⟩, hid, htrimmed⟩
  · rintro ⟨i, msg, hmsg, hid, htrimmed⟩
    obtain ⟨values, hentry, hdecode⟩ := h.entryAt?_eq.1 hmsg
    refine ⟨_, values, msg, Nat.le_add_right _ i, ?_, hdecode, hid⟩
    rw [Stream.entryAt?, if_pos htrimmed, hentry]

/-- **Every row left pending has an entry exactly if the ledger is balanced.** -/
theorem queued_iff (h : Ledger svc lane w₀ rows msgs w) :
    (∀ row ∈ w.db.messages, row ∉ w₀.db.messages → row.status = "pending" →
      AddedEntry (laneStream svc w₀ row.priorityLane) (laneStream svc w row.priorityLane) row.id) ↔
        Balanced svc lane w₀ rows msgs w := by
  have hrows : (∀ row ∈ w.db.messages, row ∉ w₀.db.messages → row.status = "pending" →
      AddedEntry (laneStream svc w₀ row.priorityLane) (laneStream svc w row.priorityLane) row.id) ↔
        ∀ row ∈ rows, AddedEntry (laneStream svc w₀ lane) (laneStream svc w lane) row.id := by
    constructor
    · intro hall row hrow
      obtain ⟨hpending, rfl⟩ := h.pending row hrow
      refine hall row (h.messages ▸ List.mem_append_right _ hrow) (fun hold => ?_) hpending
      exact h.fresh row hrow row hold rfl
    · intro hall row hrow hnew _
      have hmem : row ∈ rows := by
        rw [h.messages] at hrow
        exact (List.mem_append.1 hrow).resolve_left hnew
      obtain ⟨-, hlane⟩ := h.pending row hmem
      rw [hlane]
      exact hall row hmem
  rw [hrows]
  have hnodup : (msgs.map QueueMessage.id).Nodup := h.nodup.sublist h.sublist
  constructor
  · intro hall
    have hids : rows.map Message.id = msgs.map QueueMessage.id := by
      refine (h.sublist.eq_of_length_le (h.nodup.subperm fun id hid => ?_).length_le).symm
      obtain ⟨row, hrow, rfl⟩ := List.mem_map.1 hid
      obtain ⟨i, msg, hmsg, hid, -⟩ := (h.addedEntry_iff _).1 (hall row hrow)
      exact hid ▸ List.mem_map_of_mem (List.mem_of_getElem? hmsg)
    refine ⟨hids, fun hne => ?_⟩
    -- the first row has the first entry, which is trimmed first
    obtain ⟨first, rest, rfl⟩ := List.exists_cons_of_ne_nil hne
    obtain ⟨row, hrow, hfirst⟩ := List.mem_map.1 (hids ▸ List.mem_cons_self :
      first.id ∈ rows.map Message.id)
    obtain ⟨i, msg, hmsg, hid, htrimmed⟩ := (h.addedEntry_iff _).1 (hall row hrow)
    have hi : ((first :: rest).map QueueMessage.id)[i]? = some first.id := by
      rw [List.getElem?_map, hmsg, Option.map_some, hid, hfirst]
    have hzero : ((first :: rest).map QueueMessage.id)[0]? = some first.id := rfl
    obtain ⟨hlt, -⟩ := List.getElem?_eq_some_iff.1 hi
    obtain rfl : i = 0 := (List.getElem?_inj hlt hnodup).1 (hi.trans hzero.symm)
    exact htrimmed
  · rintro ⟨hids, htrimmed⟩ row hrow
    obtain ⟨msg, hmsg, hid⟩ := List.mem_map.1 (hids ▸ List.mem_map_of_mem hrow :
      row.id ∈ msgs.map QueueMessage.id)
    obtain ⟨i, hi⟩ := List.mem_iff_getElem?.1 hmsg
    have hle := htrimmed (List.ne_nil_of_mem hmsg)
    exact (h.addedEntry_iff _).2 ⟨i, msg, hi, hid, hle.trans (Nat.le_add_right _ _)⟩

/-- Commands that leave the messages and the streams alone leave the ledger alone. -/
theorem exec_aside {α : Type} {p : ServerProg α} (hp : p.Only Aside)
    (h : Ledger svc lane w₀ rows msgs w) :
    Ledger svc lane w₀ rows msgs (p.exec (server svc.cfg) w).state :=
  hp.exec_inv (fun _ _ he hw => hw.congr (hw.alone.step _) (he.step_messages hw.alone)
    (he.step_streams hw.alone)) h

end Ledger

/-! ## What comes of a message -/

section Posting

variable (svc)

/-- Every type of message has a lane with a stream. -/
theorem stream?_laneOf (messageType : MessageType) :
    svc.cfg.queue.stream? (laneOf messageType).1 =
      some (svc.cfg.queue.stream (laneOf messageType).1) := by
  unfold laneOf
  split_ifs <;> rfl

/-- What can come of a message: its row was not stored; or the row was stored and the message is on
no stream; or the row was stored and the message appended, which the server may not have learnt. -/
inductive Posting (answered : Prop) (lane : PriorityLane) (w₀ : World) (rows : List Message)
    (msgs : List QueueMessage) (row : Message) (msg : QueueMessage) (p : ServerProg Posted)
    (w : World) : Prop
  | rejected (hval : (p.exec (server svc.cfg) w).val = .rejected)
      (hdb : (p.exec (server svc.cfg) w).state.db = w.db)
      (hstreams : (p.exec (server svc.cfg) w).state.streams = w.streams)
      (hsteps : p.EachStep (server svc.cfg) (Untroubled svc answered w₀) w)
  | stranded (hval : (p.exec (server svc.cfg) w).val ≠ .queued)
      (hledger : Ledger svc lane w₀ (rows ++ [row]) msgs (p.exec (server svc.cfg) w).state)
      (hsteps : ¬ p.EachStep (server svc.cfg) (Untroubled svc answered w₀) w)
  | appended (hval : (p.exec (server svc.cfg) w).val ≠ .rejected)
      (hledger : Ledger svc lane w₀ (rows ++ [row]) (msgs ++ [msg])
        (p.exec (server svc.cfg) w).state)
      (htrimmed : (laneStream svc w lane).trimmed ≤
        (laneStream svc (p.exec (server svc.cfg) w).state lane).trimmed)
      (hsteps : p.EachStep (server svc.cfg) (Untroubled svc answered w₀) w ↔
        (laneStream svc (p.exec (server svc.cfg) w).state lane).trimmed ≤
          (laneStream svc w₀ lane).added.length ∧
        (answered → (p.exec (server svc.cfg) w).val = .queued))

variable {svc}

/-- **What the enqueue of a message that can be written does**: it looks at the clock and appends an
entry. -/
theorem exec_put {lane : PriorityLane} {name : String} {msg : QueueMessage} {data : List Char}
    (hname : svc.cfg.queue.stream? lane = some name) (hdata : msg.marshal = some data) (w : World) :
    let o := (put svc lane msg).exec (server svc.cfg) w
    let now := (server svc.cfg).step (.queue .now) w
    let append : ServerCmd (Except RedisErr ℕ) :=
      .queue (.xAdd name (Worker.entryFields msg data now.1) svc.cfg.queue.maxQueueDepth)
    o.state = ((server svc.cfg).step append now.2).2 ∧
      (o.val = match ((server svc.cfg).step append now.2).1 with
        | .error _ => .failed
        | .ok _ => .queued) ∧
      ∀ G : ∀ {β : Type}, ServerCmd β → World → Prop,
        (put svc lane msg).EachStep (server svc.cfg) G w ↔ G (.queue .now) w ∧ G append now.2 := by
  intro o now append
  have hput : put svc lane msg = .act (.queue .now) fun t =>
      .act (.queue (.xAdd name (Worker.entryFields msg data t) svc.cfg.queue.maxQueueDepth))
        fun added => .ret (match added with | .error _ => .failed | .ok _ => .queued) := by
    simp only [put, enqueue_eq svc hname hdata, Prog.act_bind, Prog.ret_bind]
    refine congrArg (Prog.act _) (funext fun t => congrArg (Prog.act _) (funext fun added => ?_))
    cases added <;> rfl
  simp only [o, hput, Prog.exec_act]
  exact ⟨rfl, rfl, fun G => and_congr_right fun _ => and_iff_left trivial⟩

/-- **What an enqueue comes to.** -/
theorem put_cases (answered : Prop) (w₀ : World) {w : World} (hw : Alone w) {lane : PriorityLane}
    (hname : svc.cfg.queue.stream? lane = some (svc.cfg.queue.stream lane)) (msg : QueueMessage) :
    let o := (put svc lane msg).exec (server svc.cfg) w
    let steps := (put svc lane msg).EachStep (server svc.cfg) (Untroubled svc answered w₀) w
    Alone o.state ∧ o.state.db = w.db ∧
      ((o.val = .failed ∧ o.state.streams = w.streams ∧ (msg.marshal.isSome = true → ¬ steps)) ∨
        o.val ≠ .rejected ∧ msg.marshal.isSome = true ∧
          (∃ values, Worker.decode values = some msg ∧
            (laneStream svc o.state lane).added = (laneStream svc w lane).added ++ [values]) ∧
          (laneStream svc w lane).trimmed ≤ (laneStream svc o.state lane).trimmed ∧
          (steps ↔ (laneStream svc o.state lane).trimmed ≤ (laneStream svc w₀ lane).added.length ∧
            (answered → o.val = .queued))) := by
  intro o steps
  cases hdata : msg.marshal with
  | none =>
    have ho : o = ⟨.failed, w, []⟩ := by
      simp only [o, put, enqueue_eq_error svc hname hdata]
      rfl
    rw [ho]
    exact ⟨hw, rfl, .inl ⟨rfl, rfl, nofun⟩⟩
  | some data =>
    obtain ⟨hstate, hval, hsteps⟩ := exec_put hname hdata w
    let w₁ := ((server svc.cfg).step (.queue .now) w).2
    have hw₁ : Alone w₁ := hw.step _
    have hstreams₁ : w₁.streams = w.streams := (step_streams _ _ _).trans hw.tick_streams
    have hdb₁ : w₁.db = w.db := (step_db _ _ _).trans hw.tick_db
    let values := Worker.entryFields msg data ((server svc.cfg).step (.queue .now) w).1
    let r : Except RedisErr ℕ × World := (server svc.cfg).step
      (.queue (.xAdd (svc.cfg.queue.stream lane) values svc.cfg.queue.maxQueueDepth)) w₁
    have hsteps : steps ↔ Untroubled svc answered w₀
        (.queue (.xAdd (svc.cfg.queue.stream lane) values svc.cfg.queue.maxQueueDepth)) w₁ :=
      (hsteps _).trans (and_iff_right trivial)
    have hdb : r.2.db = w.db := (step_db _ _ _).trans (hw₁.tick_db.trans hdb₁)
    rw [hstate, hval, hsteps]
    refine ⟨hw₁.step _, hdb, ?_⟩
    have hcases := xAdd_cases svc hw₁ (svc.cfg.queue.stream lane) values
      svc.cfg.queue.maxQueueDepth
    rcases hcases with ⟨hrefused, ⟨e, hreply⟩, hstreams⟩ | ⟨hexecuted, hadded, htrimmed, hreply⟩
    · left
      refine ⟨by rw [show r.1 = _ from hreply], hstreams.trans hstreams₁, fun _ h => ?_⟩
      cases hrefused.symm.trans h.1
    · right
      rw [hstreams₁] at hadded htrimmed
      refine ⟨?_, rfl, ⟨values, decode_entryFields hdata _, hadded⟩, htrimmed, ?_⟩
      · cases r.1 <;> exact nofun
      · rcases hreply with ⟨hfault, id, hreply⟩ | ⟨hfault, e, hreply⟩
        · rw [show r.1 = _ from hreply]
          constructor
          · exact fun h => ⟨h.2.2, fun _ => rfl⟩
          · exact fun h => ⟨hexecuted, fun _ => hfault, h.1⟩
        · rw [show r.1 = _ from hreply]
          constructor
          · exact fun h => ⟨h.2.2, fun hanswered => absurd (h.2.1 hanswered) hfault⟩
          · exact fun h => ⟨hexecuted, fun hanswered => (nomatch h.2 hanswered), h.1⟩

section Post

variable {lane : PriorityLane} {row : Message} {msg : QueueMessage} {between : ServerProg Unit}
  {w : World}

/-- The run for a message whose row was not stored. -/
theorem exec_post_error {e : String}
    (hreply : ((server svc.cfg).step (.db (.createMessage row)) w).1 = .error e) :
    (post svc row between lane msg).exec (server svc.cfg) w =
      ⟨.rejected, ((server svc.cfg).step (.db (.createMessage row)) w).2,
        [⟨.db (.createMessage row), .error e⟩]⟩ := by
  unfold post
  rw [Prog.call_bind, Prog.exec_act, hreply]
  rfl

/-- The run for a message whose row was stored. -/
theorem exec_post_ok (hreply : ((server svc.cfg).step (.db (.createMessage row)) w).1 = .ok ()) :
    let o := (post svc row between lane msg).exec (server svc.cfg) w
    let w₁ := ((server svc.cfg).step (.db (.createMessage row)) w).2
    let w₂ := (between.exec (server svc.cfg) w₁).state
    o.val = ((put svc lane msg).exec (server svc.cfg) w₂).val ∧
      o.state = ((put svc lane msg).exec (server svc.cfg) w₂).state ∧
      ∀ G : ∀ {β : Type}, ServerCmd β → World → Prop,
        (post svc row between lane msg).EachStep (server svc.cfg) G w ↔
          G (.db (.createMessage row)) w ∧ between.EachStep (server svc.cfg) G w₁ ∧
            (put svc lane msg).EachStep (server svc.cfg) G w₂ := by
  refine ⟨?_, ?_, fun G => ?_⟩
  · unfold post
    rw [Prog.call_bind, Prog.exec_act, hreply]
    simp only [Prog.exec_bind]
  · unfold post
    rw [Prog.call_bind, Prog.exec_act, hreply]
    simp only [Prog.exec_bind]
  · unfold post
    rw [Prog.call_bind, Prog.EachStep, hreply, Prog.eachStep_bind]

end Post

/-- **What becomes of a message**, for every pattern of failures. -/
theorem posted (answered : Prop) {lane : PriorityLane} {w₀ w : World} {rows : List Message}
    {msgs : List QueueMessage} (hw : Ledger svc lane w₀ rows msgs w) {row : Message}
    {msg : QueueMessage} {between : ServerProg Unit} (hbetween : between.Only Aside)
    (hname : svc.cfg.queue.stream? lane = some (svc.cfg.queue.stream lane)) (hid : msg.id = row.id)
    (hcreatedAt : msg.createdAt = row.createdAt) (hpending : row.status = "pending")
    (hlane : row.priorityLane = lane) :
    Posting svc answered lane w₀ rows msgs row msg (post svc row between lane msg) w := by
  let w₁ := ((server svc.cfg).step (.db (.createMessage row)) w).2
  have hw₁ : Alone w₁ := hw.alone.step _
  have hstreams₁ : w₁.streams = w.streams := (step_streams _ _ _).trans hw.alone.tick_streams
  rcases create_cases svc hw.alone row with
    ⟨hnot, hdb, e, hreply⟩ | ⟨hinserts, hfresh, hmessages, ⟨hfault, hreply⟩ | ⟨hfault, e, hreply⟩⟩
  · have hval : (post svc row between lane msg).exec (server svc.cfg) w =
        ⟨.rejected, w₁, [⟨.db (.createMessage row), .error e⟩]⟩ := exec_post_error hreply
    refine .rejected (by rw [hval]) (by rw [hval]; exact hdb) (by rw [hval]; exact hstreams₁) ?_
    refine ⟨fun h => absurd h hnot, ?_⟩
    rw [hreply]
    trivial
  · have hledger₁ : Ledger svc lane w₀ (rows ++ [row]) msgs w₁ :=
      hw.store hw₁ hfresh hmessages hstreams₁ hpending hlane
    let w₂ := (between.exec (server svc.cfg) w₁).state
    have hledger₂ : Ledger svc lane w₀ (rows ++ [row]) msgs w₂ := hledger₁.exec_aside hbetween
    obtain ⟨hstreams₂, haside⟩ := exec_of_aside svc hbetween hw₁
    obtain ⟨hval, hstate, hpost⟩ := @exec_post_ok svc lane row msg between w hreply
    have hsteps : (post svc row between lane msg).EachStep (server svc.cfg)
        (Untroubled svc answered w₀) w ↔ row.createdAt.write.isSome = true ∧
          (put svc lane msg).EachStep (server svc.cfg) (Untroubled svc answered w₀) w₂ := by
      rw [hpost]
      constructor
      · exact fun h => ⟨(h.1 hinserts).2, h.2.2⟩
      · exact fun h => ⟨fun _ => ⟨hfault, h.1⟩, haside answered w₀, h.2⟩
    have hmarshal : msg.marshal.isSome = row.createdAt.write.isSome := by
      rw [QueueMessage.marshal, hcreatedAt, Option.isSome_map]
    obtain ⟨hw₃, hdb, ⟨hfailed, hstreams, hnot⟩ | ⟨hne, hdata, ⟨values, hdecode, hadded⟩, hle, hiff⟩⟩
      := put_cases answered w₀ hledger₂.alone hname msg
    · refine .stranded (by rw [hval, hfailed]; exact nofun) ?_ fun h => ?_
      · rw [hstate]
        exact hledger₂.congr hw₃ (congrArg Database.messages hdb) hstreams
      · obtain ⟨hwritten, hput⟩ := hsteps.1 h
        exact hnot (hmarshal.trans hwritten) hput
    · refine .appended (by rw [hval]; exact hne) ?_ ?_ ?_
      · rw [hstate]
        exact hledger₂.append hw.sublist hw₃ (congrArg Database.messages hdb) hadded hdecode hid
      · rw [hstate]
        refine le_trans (le_of_eq ?_) hle
        rw [laneStream, laneStream, hstreams₂, hstreams₁]
      · rw [hsteps, hiff, hval, hstate]
        exact and_iff_right (hmarshal.symm.trans hdata)
  · have hval : (post svc row between lane msg).exec (server svc.cfg) w =
        ⟨.rejected, w₁, [⟨.db (.createMessage row), .error e⟩]⟩ := exec_post_error hreply
    refine .stranded (by rw [hval]; exact nofun) ?_ fun h => hfault (h.1 hinserts).1
    rw [hval]
    exact hw.store hw₁ hfresh hmessages hstreams₁ hpending hlane

end Posting

/-! ## Messages to several recipients -/

section Books

variable (svc) (lane : PriorityLane) (w₀ : World)

/-- The program keeps the ledger, and balances it exactly if it was balanced and the program runs
into no trouble. -/
def Books {α : Type} (p : ServerProg α) : Prop :=
  ∀ rows msgs w, Ledger svc lane w₀ rows msgs w → ∃ rows' msgs',
    Ledger svc lane w₀ rows' msgs' (p.exec (server svc.cfg) w).state ∧
      (Balanced svc lane w₀ rows' msgs' (p.exec (server svc.cfg) w).state ↔
        Balanced svc lane w₀ rows msgs w ∧
          p.EachStep (server svc.cfg) (Untroubled svc False w₀) w)

variable {svc lane w₀} {α γ : Type}

theorem Books.bind {p : ServerProg α} {f : α → ServerProg γ} (hp : Books svc lane w₀ p)
    (hf : ∀ a, Books svc lane w₀ (f a)) : Books svc lane w₀ (p >>= f) := by
  intro rows msgs w hw
  obtain ⟨rows₁, msgs₁, hledger₁, hiff₁⟩ := hp rows msgs w hw
  obtain ⟨rows₂, msgs₂, hledger₂, hiff₂⟩ := hf _ rows₁ msgs₁ _ hledger₁
  rw [Prog.exec_bind, Prog.eachStep_bind]
  refine ⟨rows₂, msgs₂, hledger₂, ?_⟩
  rw [hiff₂, hiff₁, and_assoc]

theorem balanced_congr {rows : List Message} {msgs : List QueueMessage} {w w' : World}
    (h : w'.streams = w.streams) :
    Balanced svc lane w₀ rows msgs w' ↔ Balanced svc lane w₀ rows msgs w := by
  unfold Balanced laneStream
  rw [h]

theorem books_of_aside {p : ServerProg α} (hp : p.Only Aside) : Books svc lane w₀ p := by
  intro rows msgs w hw
  obtain ⟨hstreams, hsteps⟩ := exec_of_aside svc hp hw.alone
  exact ⟨rows, msgs, hw.exec_aside hp,
    (balanced_congr hstreams).trans (and_iff_left (hsteps False w₀)).symm⟩

/-- **One message more.** -/
theorem books_post {row : Message} {msg : QueueMessage} {between : ServerProg Unit}
    (hbetween : between.Only Aside)
    (hname : svc.cfg.queue.stream? lane = some (svc.cfg.queue.stream lane)) (hid : msg.id = row.id)
    (hcreatedAt : msg.createdAt = row.createdAt) (hpending : row.status = "pending")
    (hlane : row.priorityLane = lane) : Books svc lane w₀ (post svc row between lane msg) := by
  intro rows msgs w hw
  cases posted False hw hbetween hname hid hcreatedAt hpending hlane with
  | rejected hval hdb hstreams hsteps =>
    have hw' : Alone ((post svc row between lane msg).exec (server svc.cfg) w).state :=
      hw.alone.exec _
    exact ⟨rows, msgs, hw.congr hw' (congrArg Database.messages hdb) hstreams,
      (balanced_congr hstreams).trans (and_iff_left hsteps).symm⟩
  | stranded hval hledger hsteps =>
    refine ⟨_, _, hledger, iff_of_false ?_ fun h => hsteps h.2⟩
    rintro ⟨hids, -⟩
    have hlength := congrArg List.length hids
    have hle := hw.sublist.length_le
    simp only [List.length_map, List.length_append, List.length_singleton] at hlength hle
    omega
  | appended hval hledger htrimmed hsteps =>
    refine ⟨_, _, hledger, ?_⟩
    rw [hsteps]
    unfold Balanced
    rw [List.map_append, List.map_append, List.map_singleton, List.map_singleton, hid,
      List.append_left_inj]
    constructor
    · rintro ⟨hids, hle⟩
      have hle := hle (List.append_ne_nil_of_right_ne_nil _ (List.cons_ne_nil _ _))
      exact ⟨⟨hids, fun _ => htrimmed.trans hle⟩, hle, nofun⟩
    · rintro ⟨⟨hids, -⟩, hle, -⟩
      exact ⟨hids, fun _ => hle⟩

theorem books_bulkOne (d : Draft) (caller : Caller) (encrypted : String) (now : ℤ)
    (recipient : String) :
    Books svc (laneOf d.messageType).1 w₀ (bulkOne svc d caller encrypted now recipient) := by
  rw [bulkOne_eq]
  refine Books.bind (books_of_aside ⟨trivial, fun _ => trivial⟩) fun msgID => ?_
  refine (books_post (counted_aside _) (stream?_laneOf svc d.messageType) rfl rfl rfl rfl).bind
    fun posted => ?_
  cases posted <;> exact books_of_aside trivial

theorem books_bulkLoop (d : Draft) (caller : Caller) (encrypted : String) (now : ℤ)
    (recipients : List String) :
    Books svc (laneOf d.messageType).1 w₀ (bulkLoop svc d caller encrypted now recipients) := by
  induction recipients with
  | nil => exact books_of_aside trivial
  | cons recipient recipients ih =>
    exact (books_bulkOne d caller encrypted now recipient).bind fun _ =>
      ih.bind fun _ => books_of_aside trivial

end Books

/-! ## Requests -/

section Requests

/-- The tables and the streams are as they were. -/
structure Unchanged (w₀ w : World) : Prop where
  alone : Alone w
  db : w.db = w₀.db
  streams : w.streams = w₀.streams

variable {w₀ w : World}

theorem Checks.step_db {keys : Prop} {β : Type} {e : ServerCmd β} (h : Checks keys e) (hw : Alone w) :
    ((server svc.cfg).step e w).2.db = w.db := by
  rw [← hw.tick_db, AeroxeBee.step_db]
  cases e with
  | db q =>
    rcases Fault.apply_snd w.next.fault id id (fun db => q.run db) w.tick.db with hdb | hdb
    · rw [ServerCmd.tables, hdb]
    · rw [ServerCmd.tables, hdb]
      cases q with
      | deviceByID _ | usageCounter _ _ | subscription _ => rfl
      | _ => exact h.elim
  | _ => rfl

theorem Unchanged.exec (h : Unchanged w₀ w) {α : Type} {p : ServerProg α}
    (hp : p.Only (Checks True)) : Unchanged w₀ (p.exec (server svc.cfg) w).state :=
  hp.exec_inv (fun _ _ he hw => ⟨hw.alone.step _, (he.step_db hw.alone).trans hw.db,
    (he.aside.step_streams hw.alone).trans hw.streams⟩) h

variable (svc) in
/-- Where nothing has changed, rows and queue agree. -/
theorem Unchanged.rowsAgree {o : Outcome ServerCmd World Response} (h : Unchanged w₀ o.state) :
    RowsAgree svc w₀ o where
  queued := by
    intro row hrow hnew
    rw [h.db] at hrow
    exact absurd hrow hnew
  clean _ _ _ _ := by
    rw [h.db, h.streams]
    exact ⟨rfl, rfl, fun _ => rfl⟩

/-- The commands do not matter, only the answer and what is left. -/
theorem rowsAgree_congr {o o' : Outcome ServerCmd World Response} (hval : o.val = o'.val)
    (hstate : o.state = o'.state) : RowsAgree svc w₀ o ↔ RowsAgree svc w₀ o' := by
  constructor
  · rintro ⟨hqueued, hclean⟩
    rw [hval, hstate] at hclean
    rw [hstate] at hqueued
    exact ⟨hqueued, hclean⟩
  · rintro ⟨hqueued, hclean⟩
    rw [← hval, ← hstate] at hclean
    rw [← hstate] at hqueued
    exact ⟨hqueued, hclean⟩

variable (svc) in
/-- The program, begun in a world that is as it was, leaves rows and queue in agreement exactly if
it runs into no trouble. -/
def Settles (answered : Prop) (w₀ : World) (p : ServerProg Response) : Prop :=
  ∀ w, Unchanged w₀ w → (RowsAgree svc w₀ (p.exec (server svc.cfg) w) ↔
    p.EachStep (server svc.cfg) (Untroubled svc answered w₀) w)

variable {answered : Prop}

theorem settles_ret (r : Response) : Settles svc answered w₀ (.ret r) :=
  fun _ hw => iff_of_true (Unchanged.rowsAgree svc hw) trivial

theorem Settles.bind {α : Type} {p : ServerProg α} {f : α → ServerProg Response}
    (hp : p.Only (Checks True)) (hf : ∀ a, Settles svc answered w₀ (f a)) :
    Settles svc answered w₀ (p >>= f) := by
  intro w hw
  obtain ⟨-, hsteps⟩ := exec_of_aside svc (hp.mono fun _ => Checks.aside) hw.alone
  rw [Prog.eachStep_bind, and_iff_right (hsteps answered w₀)]
  refine (rowsAgree_congr ?_ ?_).trans (hf _ _ (hw.exec hp))
  · rw [Prog.exec_bind]
  · rw [Prog.exec_bind]

theorem Settles.orReturn {α : Type} {p : ServerProg (Except Response α)}
    {rest : α → ServerProg Response} (hp : p.Only (Checks True))
    (hrest : ∀ a, Settles svc answered w₀ (rest a)) :
    Settles svc answered w₀ (Api.orReturn p rest) := by
  refine Settles.bind hp fun r => ?_
  cases r with
  | error r => exact settles_ret r
  | ok a => exact hrest a

/-- The response is no error. -/
def Accepts (r : Response) : Prop := ∀ status text, r ≠ .error status text

/-- An answer that is no error tells of an agreement if the rows have their entries. -/
theorem rowsAgree_of_accepts {o : Outcome ServerCmd World Response} (haccepts : Accepts o.val)
    {lane : PriorityLane} {rows : List Message} {msgs : List QueueMessage}
    (h : Ledger svc lane w₀ rows msgs o.state) :
    RowsAgree svc w₀ o ↔ Balanced svc lane w₀ rows msgs o.state := by
  rw [← h.queued_iff]
  constructor
  · exact fun hagree => hagree.queued
  · exact fun hqueued => ⟨hqueued, fun status text hval => absurd hval (haccepts status text)⟩

/-- An answer that is an error tells of no agreement if a row was stored. -/
theorem not_rowsAgree {o : Outcome ServerCmd World Response} {text : String}
    (hval : o.val = .error 500 text) {lane : PriorityLane} {rows : List Message} {row : Message}
    {msgs : List QueueMessage} (h : Ledger svc lane w₀ (rows ++ [row]) msgs o.state) :
    ¬ RowsAgree svc w₀ o := by
  intro hagree
  have hlength := congrArg List.length (h.messages.symm.trans (hagree.clean _ _ hval le_rfl).1)
  simp only [List.length_append, List.length_singleton] at hlength
  omega

/-- **A message whose request is answered with an error unless it was put on the queue.** -/
theorem settles_post {k : Posted → ServerProg Response} {row : Message} {msg : QueueMessage}
    {between : ServerProg Unit} {lane : PriorityLane} (hbetween : between.Only Aside)
    (hname : svc.cfg.queue.stream? lane = some (svc.cfg.queue.stream lane)) (hid : msg.id = row.id)
    (hcreatedAt : msg.createdAt = row.createdAt) (hpending : row.status = "pending")
    (hlane : row.priorityLane = lane)
    (hfails : ∀ posted, posted ≠ .queued → ∃ text, k posted = .ret (.error 500 text))
    (hqueued : (k .queued).Only Aside) (haccepts : (k .queued).Returns Accepts) :
    Settles svc True w₀ (post svc row between lane msg >>= k) := by
  intro w hw
  let o := (post svc row between lane msg).exec (server svc.cfg) w
  have hagree : RowsAgree svc w₀ ((post svc row between lane msg >>= k).exec (server svc.cfg) w) ↔
      RowsAgree svc w₀ ((k o.val).exec (server svc.cfg) o.state) := by
    refine rowsAgree_congr ?_ ?_
    · rw [Prog.exec_bind]
    · rw [Prog.exec_bind]
  rw [hagree, Prog.eachStep_bind]
  have hstart : Ledger svc lane w₀ [] [] w :=
    .start hw.alone (congrArg Database.messages hw.db) hw.streams
  cases posted True hstart hbetween hname hid hcreatedAt hpending hlane with
  | rejected hval hdb hstreams hsteps =>
    obtain ⟨text, hk⟩ := hfails o.val (by rw [show o.val = _ from hval]; exact nofun)
    rw [hk]
    have hunchanged : Unchanged w₀ o.state :=
      ⟨hw.alone.exec _, hdb.trans hw.db, hstreams.trans hw.streams⟩
    exact iff_of_true (Unchanged.rowsAgree svc hunchanged) ⟨hsteps, trivial⟩
  | stranded hval hledger hsteps =>
    obtain ⟨text, hk⟩ := hfails o.val hval
    rw [hk]
    exact iff_of_false (not_rowsAgree rfl hledger) fun h => hsteps h.1
  | appended hval hledger htrimmed hsteps =>
    by_cases hqueue : o.val = .queued
    · rw [hqueue, hsteps, show ((post svc row between lane msg).exec (server svc.cfg) w).val = _
        from hqueue]
      obtain ⟨hstreams, hlast⟩ := exec_of_aside svc hqueued hledger.alone
      rw [rowsAgree_of_accepts (haccepts.exec _ _) (hledger.exec_aside hqueued),
        balanced_congr hstreams]
      unfold Balanced
      rw [List.map_append, List.map_append, List.map_singleton, List.map_singleton, hid]
      constructor
      · exact fun h => ⟨⟨h.2 (List.cons_ne_nil _ _), fun _ => rfl⟩, hlast True w₀⟩
      · exact fun h => ⟨rfl, fun _ => h.1.1⟩
    · obtain ⟨text, hk⟩ := hfails o.val hqueue
      rw [hk]
      refine iff_of_false (not_rowsAgree rfl hledger) fun h => ?_
      exact hqueue ((hsteps.1 h.1).2 trivial)

theorem postFresh_settles (caller : Caller) {between : ServerProg Unit}
    (hbetween : between.Only Aside) (key : Option String) (startTime : ℤ) (d : Draft) :
    Settles svc True w₀ (postFresh svc caller between key startTime d) := by
  unfold postFresh
  refine Settles.orReturn (requireQuota_checks _) fun _ => ?_
  refine Settles.bind ⟨trivial, fun _ => trivial⟩ fun msgID => ?_
  refine Settles.bind ⟨trivial, fun _ => trivial⟩ fun now => ?_
  refine Settles.orReturn (encrypt_checks _) fun encrypted => ?_
  refine settles_post hbetween (stream?_laneOf svc _) rfl rfl rfl rfl ?_ ?_ ?_
  · intro posted hposted
    cases posted with
    | rejected => exact ⟨_, rfl⟩
    | failed => exact ⟨_, rfl⟩
    | queued => exact absurd rfl hposted
  · exact ⟨trivial, fun _ => trivial⟩
  · exact fun _ _ _ => nofun

theorem send_settles (caller : Caller) (body : Option SendSMSRequest) :
    Settles svc True w₀ (send svc caller body) := by
  unfold send
  refine Settles.bind ⟨trivial, fun _ => trivial⟩ fun startTime => ?_
  cases SendSMSRequest.validate svc body with
  | error r => exact settles_ret r
  | ok d =>
    refine Settles.orReturn (checkOptionalDevice_checks _ _) fun _ => ?_
    refine Settles.orReturn (checkDuplicate_checks _) fun _ => ?_
    rw [sendFresh_eq]
    exact postFresh_settles caller (counted_aside _) _ startTime d

theorem memberSend_settles (accountID : String) (body : Option SendSMSRequest) :
    Settles svc True w₀ (memberSend svc accountID body) := by
  unfold memberSend
  refine Settles.bind ⟨trivial, fun _ => trivial⟩ fun startTime => ?_
  cases SendSMSRequest.validateMember svc body with
  | error r => exact settles_ret r
  | ok d =>
    refine Settles.orReturn (checkDevice_checks _ _ _) fun device => ?_
    cases deviceSender svc device with
    | error r => exact settles_ret r
    | ok sender =>
      refine Settles.bind ⟨trivial, fun _ => trivial⟩ fun key => ?_
      refine Settles.orReturn (checkDuplicate_checks _) fun _ => ?_
      rw [memberFresh_eq]
      exact postFresh_settles _ (countedAndUsed_aside _ _) _ startTime _

/-- A request for several recipients is answered as a success whatever became of its messages. -/
theorem bulkSend_settles (caller : Caller) (body : Option BulkSendRequest) :
    Settles svc False w₀ (bulkSend svc caller body) := by
  unfold bulkSend
  cases BulkSendRequest.validate svc body with
  | error r => exact settles_ret r
  | ok checked =>
    obtain ⟨recipients, d⟩ := checked
    refine Settles.orReturn (checkOptionalDevice_checks _ _) fun _ => ?_
    refine Settles.orReturn (requireQuota_checks _) fun _ => ?_
    refine Settles.bind ⟨trivial, fun _ => trivial⟩ fun now => ?_
    refine Settles.orReturn (encrypt_checks _) fun encrypted => ?_
    intro w hw
    have hstart : Ledger svc (laneOf d.messageType).1 w₀ [] [] w :=
      .start hw.alone (congrArg Database.messages hw.db) hw.streams
    have hbalanced : Balanced svc (laneOf d.messageType).1 w₀ [] [] w :=
      ⟨rfl, fun h => absurd rfl h⟩
    obtain ⟨rows, msgs, hledger, hiff⟩ :=
      books_bulkLoop d caller encrypted now recipients [] [] w hstart
    rw [Prog.eachStep_bind, Prog.exec_bind]
    refine (rowsAgree_of_accepts ?_ hledger).trans ?_
    · exact fun _ _ => nofun
    · exact (hiff.trans (and_iff_right hbalanced)).trans (and_iff_left trivial).symm

/-- The answer to the request depends on whether its message was put on the queue. -/
def Request.AnswersEnqueue : Request → Prop
  | bulkSend _ => False
  | _ => True

instance : DecidablePred Request.AnswersEnqueue
  | .bulkSend _ => .isFalse id
  | .send _ | .scheduleSend _ | .memberSend _ => .isTrue trivial

/-- **Rows and queue agree after a request**, wherever one of its steps fails, exactly if it runs
into no trouble: once a row is stored nothing fails. -/
theorem agree_iff_untroubled (svc : Services) (caller : Caller) (r : Request)
    (hr : ∀ body, r ≠ .scheduleSend body) {w : World} (hw : Alone w) :
    RowsAgree svc w ((r.handle svc caller).exec (server svc.cfg) w) ↔
      (r.handle svc caller).EachStep (server svc.cfg) (Untroubled svc r.AnswersEnqueue w) w := by
  cases r with
  | send body => exact send_settles caller body w ⟨hw, rfl, rfl⟩
  | bulkSend body => exact bulkSend_settles caller body w ⟨hw, rfl, rfl⟩
  | scheduleSend body => exact absurd rfl (hr body)
  | memberSend body => exact memberSend_settles caller.accountID body w ⟨hw, rfl, rfl⟩

end Requests

/-! ## A queue that is down -/

section Decidable

variable (svc) (answered : Prop) [Decidable answered] (w₀ : World)

instance (row : Message) (w : World) : Decidable (Inserts row w) :=
  decidable_of_iff (w.next.fault.isRefused = false ∧
    (w.tick.db.insertMessage row).toOption.isSome = true) (by
      unfold Inserts
      cases w.tick.db.insertMessage row <;> simp [Except.toOption])

/-- Whether a command runs into no trouble. -/
def untroubled : {β : Type} → ServerCmd β → World → Bool
  | _, .db (.createMessage row), w =>
    decide (Inserts row w → w.next.fault = .none ∧ row.createdAt.write.isSome = true)
  | _, .queue (.xAdd name values maxLen), w =>
    decide (w.next.fault.isRefused = false ∧ (answered → w.next.fault = .none) ∧
      (((server svc.cfg).step (.queue (.xAdd name values maxLen)) w).2.streams name).trimmed ≤
        (w₀.streams name).added.length)
  | _, _, _ => true

instance decidableUntroubled {β : Type} (e : ServerCmd β) (w : World) :
    Decidable (Untroubled svc answered w₀ e w) :=
  decidable_of_iff (untroubled svc answered w₀ e w = true) (by
    cases e with
    | db q =>
      cases q with
      | createMessage row => exact decide_eq_true_iff
      | _ => exact iff_of_true rfl trivial
    | queue e =>
      cases e with
      | xAdd name values maxLen => exact decide_eq_true_iff
      | _ => exact iff_of_true rfl trivial
    | _ => exact iff_of_true rfl trivial)

end Decidable

/-- A server whose queue refuses the first message. -/
def queueDown : World :=
  onePhone (List.replicate 12 .quiet ++ [{ Tick.quiet with fault := .refused "connection refused" }])

/-- The run of a request to `send`. -/
def ordered (w : World) : Outcome ServerCmd World Response :=
  ((Request.send order.body).handle plainServices order.caller).exec (server plainServices.cfg) w

/-- The request is answered with an error, but its row is left pending and has been counted. -/
theorem queueDown_disagrees : ¬ RowsAgree plainServices queueDown (ordered queueDown) := by
  have hval : (ordered queueDown).val = .error 500 "failed to enqueue message" := by
    decide
  have hrows : (ordered queueDown).state.db.messages.length = 1 := by
    decide
  intro h
  have hnone : (ordered queueDown).state.db.messages = [] := (h.clean _ _ hval le_rfl).1
  rw [hnone] at hrows
  cases hrows

/-- Where nothing fails, the row has its entry. -/
theorem rows_agree_quiet : RowsAgree plainServices (onePhone []) (ordered (onePhone [])) :=
  (agree_iff_untroubled plainServices order.caller (.send order.body) (fun _ => nofun)
    (fun _ ht => absurd ht List.not_mem_nil)).2 (by decide)

end AeroxeBee.Api
