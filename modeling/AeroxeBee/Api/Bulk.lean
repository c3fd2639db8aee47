import AeroxeBee.Api.Postings

/-!
# Messages to several recipients

`bulkSend` goes through its recipients one by one and notes for each of them what became of its
message. A message whose row was stored is noted as queued even if it could not be put on the queue,
and what is counted as sent is the number of notes, those of failures included. So the answer tells
the truth exactly if nothing fails at all.

* `Listed`: what a part of the loop leaves, and how two parts compose;
* `bulkSend_truthful_iff`: when the answer is truthful.
-/

namespace AeroxeBee.Api

open Foundations Dispatch

variable (svc : Services)

/-! ## What is asked of the answer -/

/-- An entry that has been appended to a stream since holds a message with the id. -/
def AddedSince (before now : Stream Worker.Fields) (id : String) : Prop :=
  ∃ values ∈ now.added.drop before.added.length, ∃ msg,
    Worker.decode values = some msg ∧ msg.id = id

/-- **A truthful answer** to a request for several recipients: it has a result for each of them in
their order, a message is noted as queued exactly if it was put on the queue, as many are counted as
sent, and no two of them are the same. -/
structure Truthful (lane : PriorityLane) (w w' : World) (recipients : List String) (sent : ℕ)
    (results : List BulkResult) : Prop where
  order : results.map BulkResult.recipient = recipients
  queued : ∀ r ∈ results, r.status = "queued" ↔
    AddedSince (laneStream svc w lane) (laneStream svc w' lane) r.messageID
  sent : sent = results.countP fun r => r.status = "queued"
  own : results.Pairwise fun a b =>
    a.status = "queued" → b.status = "queued" → a.messageID ≠ b.messageID

/-- Every message is stored and put on the queue: the statement that stores its row is executed and
answered, its creation time can be written into an entry, and the entry is appended. -/
def Served : {β : Type} → ServerCmd β → World → Prop
  | _, .db (.createMessage row), w =>
    Inserts row w ∧ w.next.fault = .none ∧ row.createdAt.write.isSome = true
  | _, .queue (.xAdd _ _ _), w => w.next.fault.isRefused = false
  | _, _, _ => True

variable {svc}

theorem Aside.served {β : Type} {e : ServerCmd β} (h : Aside e) (w : World) : Served e w := by
  cases e with
  | db q =>
    cases q with
    | createMessage row => exact h.elim
    | _ => trivial
  | queue e => exact h.elim
  | _ => trivial

theorem served_of_aside {α : Type} {p : ServerProg α} (hp : p.Only Aside) (w : World) :
    p.EachStep (server svc.cfg) Served w :=
  hp.eachStep (I := fun _ => True) (fun _ w he _ => he.served w) (fun _ _ _ => trivial) trivial

/-! ## One message -/

section Post

variable {lane : PriorityLane} {row : Message} {msg : QueueMessage} {between : ServerProg Unit}
  {w : World}

/-- An enqueue of a message that can be written is served exactly if it changes the stream. -/
theorem put_steps_iff {data : List Char} (hw : Alone w)
    (hname : svc.cfg.queue.stream? lane = some (svc.cfg.queue.stream lane))
    (hdata : msg.marshal = some data) :
    (put svc lane msg).EachStep (server svc.cfg) Served w ↔
      (laneStream svc ((put svc lane msg).exec (server svc.cfg) w).state lane).added ≠
        (laneStream svc w lane).added := by
  obtain ⟨hstate, -, hiff⟩ := exec_put hname hdata w
  have hstreams : ((server svc.cfg).step (.queue .now) w).2.streams = w.streams :=
    (step_streams _ _ _).trans hw.tick_streams
  rw [hiff Served, hstate, laneStream, laneStream]
  refine (and_iff_right trivial).trans ?_
  rcases xAdd_cases svc (hw.step (.queue .now)) (svc.cfg.queue.stream lane)
    (Worker.entryFields msg data ((server svc.cfg).step (.queue .now) w).1)
    svc.cfg.queue.maxQueueDepth with ⟨hrefused, -, hsame⟩ | ⟨hexecuted, hadded, -⟩
  · rw [hsame, hstreams]
    exact iff_of_false (fun h => Bool.noConfusion (hrefused.symm.trans h)) fun h => h rfl
  · rw [hadded, hstreams]
    exact iff_of_true hexecuted (by simp)

variable (msg) in
/-- **Whether a message is put on the queue.** -/
theorem put_served (hw : Alone w)
    (hname : svc.cfg.queue.stream? lane = some (svc.cfg.queue.stream lane)) :
    let o := (put svc lane msg).exec (server svc.cfg) w
    let steps := (put svc lane msg).EachStep (server svc.cfg) Served w
    o.val ≠ .rejected ∧ o.state.db = w.db ∧
      ((o.state.streams = w.streams ∧ ¬ (msg.createdAt.write.isSome = true ∧ steps)) ∨
        (∃ values, Worker.decode values = some msg ∧
          (laneStream svc o.state lane).added = (laneStream svc w lane).added ++ [values]) ∧
        msg.createdAt.write.isSome = true ∧ steps) := by
  intro o steps
  have hmarshal : msg.marshal.isSome = msg.createdAt.write.isSome := by
    rw [QueueMessage.marshal, Option.isSome_map]
  obtain ⟨-, hdb, hcases⟩ := put_cases False w hw hname msg
  rcases hcases with ⟨hfailed, hstreams, -⟩ | ⟨hval, hwritten, ⟨values, hdecode, hadded⟩, -⟩
  · refine ⟨by rw [show o.val = _ from hfailed]; simp, hdb, .inl ⟨hstreams, ?_⟩⟩
    rintro ⟨hwritten, hsteps⟩
    obtain ⟨data, hdata⟩ := Option.isSome_iff_exists.1 (hmarshal.trans hwritten)
    refine (put_steps_iff hw hname hdata).1 hsteps ?_
    rw [laneStream, hstreams]
  · obtain ⟨data, hdata⟩ := Option.isSome_iff_exists.1 hwritten
    refine ⟨hval, hdb, .inr ⟨⟨values, hdecode, hadded⟩, hmarshal.symm.trans hwritten, ?_⟩⟩
    exact (put_steps_iff hw hname hdata).2 (by rw [hadded]; simp)

/-- What can come of a message and its row. -/
inductive Posts (svc : Services) (lane : PriorityLane) (row : Message) (msg : QueueMessage)
    (w : World) (o : Outcome ServerCmd World Posted) (steps : Prop) : Prop
  | rejected (hval : o.val = .rejected) (hstreams : o.state.streams = w.streams)
      (hmessages : w.db.messages ⊆ o.state.db.messages) (hsteps : ¬ steps)
  | stranded (hval : o.val ≠ .rejected) (hfresh : ∀ old ∈ w.db.messages, old.id ≠ row.id)
      (hmessages : o.state.db.messages = w.db.messages ++ [row])
      (hstreams : o.state.streams = w.streams) (hsteps : ¬ steps)
  | appended (hval : o.val ≠ .rejected) (hfresh : ∀ old ∈ w.db.messages, old.id ≠ row.id)
      (hmessages : o.state.db.messages = w.db.messages ++ [row]) (values : Worker.Fields)
      (hdecode : Worker.decode values = some msg)
      (hadded : (laneStream svc o.state lane).added = (laneStream svc w lane).added ++ [values])
      (hsteps : steps)

/-- **What becomes of a message**, for every pattern of failures. -/
theorem post_served (hw : Alone w) (hbetween : between.Only Aside)
    (hname : svc.cfg.queue.stream? lane = some (svc.cfg.queue.stream lane))
    (hcreatedAt : msg.createdAt = row.createdAt) :
    Posts svc lane row msg w ((post svc row between lane msg).exec (server svc.cfg) w)
      ((post svc row between lane msg).EachStep (server svc.cfg) Served w) := by
  let w₁ := ((server svc.cfg).step (.db (.createMessage row)) w).2
  have hw₁ : Alone w₁ := hw.step _
  have hstreams₁ : w₁.streams = w.streams := (step_streams _ _ _).trans hw.tick_streams
  rcases create_cases svc hw row with
    ⟨hnot, hdb, e, hreply⟩ | ⟨hinserts, hfresh, hmessages, ⟨hfault, hreply⟩ | ⟨hfault, e, hreply⟩⟩
  · have hrun : (post svc row between lane msg).exec (server svc.cfg) w =
        ⟨.rejected, w₁, [⟨.db (.createMessage row), .error e⟩]⟩ := exec_post_error hreply
    rw [hrun]
    exact .rejected rfl hstreams₁ (fun old hold => by rw [hdb]; exact hold) fun h => hnot h.1.1
  · let w₂ := (between.exec (server svc.cfg) w₁).state
    have haside : Alone w₂ ∧ w₂.db.messages = w₁.db.messages ∧ w₂.streams = w₁.streams :=
      hbetween.exec_inv (I := fun v => Alone v ∧ v.db.messages = w₁.db.messages ∧
        v.streams = w₁.streams) (fun _ _ he hv => ⟨hv.1.step _, (he.step_messages hv.1).trans hv.2.1,
          (he.step_streams hv.1).trans hv.2.2⟩) ⟨hw₁, rfl, rfl⟩
    obtain ⟨hval, hstate, hpost⟩ := @exec_post_ok svc lane row msg between w hreply
    have hsteps : (post svc row between lane msg).EachStep (server svc.cfg) Served w ↔
        msg.createdAt.write.isSome = true ∧
          (put svc lane msg).EachStep (server svc.cfg) Served w₂ := by
      rw [hpost, hcreatedAt]
      constructor
      · exact fun h => ⟨h.1.2.2, h.2.2⟩
      · exact fun h => ⟨⟨hinserts, hfault, h.1⟩, served_of_aside hbetween w₁, h.2⟩
    obtain ⟨hne, hdb, hput⟩ := put_served msg haside.1 hname
    have hrows : ((post svc row between lane msg).exec (server svc.cfg) w).state.db.messages =
        w.db.messages ++ [row] := by
      rw [hstate, hdb, haside.2.1, hmessages]
    rcases hput with ⟨hsame, hnot⟩ | ⟨⟨values, hdecode, hadded⟩, hall⟩
    · refine .stranded (by rw [hval]; exact hne) hfresh hrows ?_ fun h => hnot (hsteps.1 h)
      rw [hstate, hsame, haside.2.2, hstreams₁]
    · refine .appended (by rw [hval]; exact hne) hfresh hrows values hdecode ?_ (hsteps.2 hall)
      rw [hstate, hadded, laneStream, laneStream, haside.2.2, hstreams₁]
  · have hrun : (post svc row between lane msg).exec (server svc.cfg) w =
        ⟨.rejected, w₁, [⟨.db (.createMessage row), .error e⟩]⟩ := exec_post_error hreply
    rw [hrun]
    refine .rejected rfl hstreams₁ (fun old hold => ?_) fun h => hfault h.1.2.1
    rw [hmessages]
    exact List.mem_append_left _ hold

end Post

/-! ## The loop -/

/-- A result is that of a message the row of which was stored between two states of the table, or
that of a failure. -/
inductive Result (before now : List Message) (r : BulkResult) : Prop
  | queued (hstatus : r.status = "queued") (hid : r.messageID ≠ "")
      (hfresh : ∀ old ∈ before, old.id ≠ r.messageID) (hrow : ∃ row ∈ now, row.id = r.messageID)
  | failed (hstatus : r.status = "failed") (hid : r.messageID = "")

/-- **What a part of the loop leaves**: a result for each of its recipients, and on the stream entries
for some of those that are noted as queued, for all of them exactly if they were served. -/
structure Listed (svc : Services) (lane : PriorityLane) (w w' : World) (recipients : List String)
    (results : List BulkResult) (served : Prop) : Prop where
  alone : Alone w'
  kept : w.db.messages ⊆ w'.db.messages
  order : results.map BulkResult.recipient = recipients
  known : ∀ r ∈ results, Result w.db.messages w'.db.messages r
  own : results.Pairwise fun a b =>
    a.status = "queued" → b.status = "queued" → a.messageID ≠ b.messageID
  entries : ∃ new, (laneStream svc w' lane).added = (laneStream svc w lane).added ++ new ∧
    ∀ values ∈ new, ∀ msg, Worker.decode values = some msg →
      ∃ r ∈ results, r.status = "queued" ∧ r.messageID = msg.id
  served_iff : served ↔ ∀ r ∈ results,
    AddedSince (laneStream svc w lane) (laneStream svc w' lane) r.messageID

namespace Listed

variable {lane : PriorityLane} {w w₁ w₂ : World} {recipients₁ recipients₂ : List String}
  {results results₁ results₂ : List BulkResult} {served served₁ served₂ : Prop}

theorem addedSince_iff {before now : Stream Worker.Fields} {new : List Worker.Fields} {id : String}
    (h : now.added = before.added ++ new) :
    AddedSince before now id ↔ ∃ values ∈ new, ∃ msg, Worker.decode values = some msg ∧ msg.id = id := by
  rw [AddedSince, h, List.drop_left]

/-- A message that was put on the queue is noted as queued. -/
theorem exists_queued (h : Listed svc lane w w₁ recipients₁ results served) {id : String}
    (hadded : AddedSince (laneStream svc w lane) (laneStream svc w₁ lane) id) :
    ∃ r ∈ results, r.status = "queued" ∧ r.messageID = id := by
  obtain ⟨new, hnew, hqueued⟩ := h.entries
  obtain ⟨values, hvalues, msg, hmsg, rfl⟩ := (addedSince_iff hnew).1 hadded
  exact hqueued values hvalues msg hmsg

/-- A result that is noted as queued is that of a stored row. -/
theorem queued (h : Listed svc lane w w₁ recipients₁ results served) {r : BulkResult}
    (hr : r ∈ results) (hstatus : r.status = "queued") :
    r.messageID ≠ "" ∧ (∀ old ∈ w.db.messages, old.id ≠ r.messageID) ∧
      ∃ row ∈ w₁.db.messages, row.id = r.messageID := by
  cases h.known r hr with
  | queued _ hid hfresh hrow => exact ⟨hid, hfresh, hrow⟩
  | failed hfailed _ =>
    rw [hstatus] at hfailed
    exact absurd hfailed (by decide)

/-- No message of a later part has the id of a result of an earlier one. -/
theorem apart (h₁ : Listed svc lane w w₁ recipients₁ results₁ served₁)
    (h₂ : Listed svc lane w₁ w₂ recipients₂ results₂ served₂) {a b : BulkResult}
    (ha : a ∈ results₁) (hb : b ∈ results₂) (hstatus : a.status = "queued" ∨ b.status = "queued") :
    a.messageID ≠ b.messageID := by
  cases h₁.known a ha with
  | queued hqueued hid hfresh hrow =>
    obtain ⟨row, hrow, hrowID⟩ := hrow
    cases h₂.known b hb with
    | queued _ _ hfresh' _ => exact hrowID ▸ hfresh' row hrow
    | failed _ hid' => exact hid' ▸ hid
  | failed hfailed hid =>
    cases h₂.known b hb with
    | queued _ hid' _ _ => exact fun heq => hid' (heq.symm.trans hid)
    | failed hfailed' _ =>
      rw [hfailed, hfailed'] at hstatus
      exact absurd hstatus (by decide)

/-- **Two parts of the loop.** -/
theorem append (h₁ : Listed svc lane w w₁ recipients₁ results₁ served₁)
    (h₂ : Listed svc lane w₁ w₂ recipients₂ results₂ served₂) :
    Listed svc lane w w₂ (recipients₁ ++ recipients₂) (results₁ ++ results₂)
      (served₁ ∧ served₂) := by
  obtain ⟨new₁, hnew₁, hentries₁⟩ := h₁.entries
  obtain ⟨new₂, hnew₂, hentries₂⟩ := h₂.entries
  have hnew : (laneStream svc w₂ lane).added = (laneStream svc w lane).added ++ (new₁ ++ new₂) := by
    rw [hnew₂, hnew₁, List.append_assoc]
  refine ⟨h₂.alone, fun _ hold => h₂.kept (h₁.kept hold), ?_, ?_, ?_, ⟨_, hnew, ?_⟩, ?_⟩
  · rw [List.map_append, h₁.order, h₂.order]
  · intro r hr
    rcases List.mem_append.1 hr with hr | hr
    · cases h₁.known r hr with
      | queued hstatus hid hfresh hrow =>
        obtain ⟨row, hrow, hrowID⟩ := hrow
        exact .queued hstatus hid hfresh ⟨row, h₂.kept hrow, hrowID⟩
      | failed hstatus hid => exact .failed hstatus hid
    · cases h₂.known r hr with
      | queued hstatus hid hfresh hrow =>
        exact .queued hstatus hid (fun old hold => hfresh old (h₁.kept hold)) hrow
      | failed hstatus hid => exact .failed hstatus hid
  · exact List.pairwise_append.2 ⟨h₁.own, h₂.own, fun a ha b hb hstatus _ =>
      h₁.apart h₂ ha hb (.inl hstatus)⟩
  · intro values hvalues msg hmsg
    rcases List.mem_append.1 hvalues with hvalues | hvalues
    · obtain ⟨r, hr, hqueued⟩ := hentries₁ values hvalues msg hmsg
      exact ⟨r, List.mem_append_left _ hr, hqueued⟩
    · obtain ⟨r, hr, hqueued⟩ := hentries₂ values hvalues msg hmsg
      exact ⟨r, List.mem_append_right _ hr, hqueued⟩
  · -- an entry of one part is not one for a result of the other
    rw [h₁.served_iff, h₂.served_iff, List.forall_mem_append]
    refine and_congr (forall₂_congr fun r hr => ?_) (forall₂_congr fun r hr => ?_)
    · rw [addedSince_iff hnew₁, addedSince_iff hnew]
      constructor
      · rintro ⟨values, hvalues, hmsg⟩
        exact ⟨values, List.mem_append_left _ hvalues, hmsg⟩
      · rintro ⟨values, hvalues, msg, hmsg, hid⟩
        rcases List.mem_append.1 hvalues with hvalues | hvalues
        · exact ⟨values, hvalues, msg, hmsg, hid⟩
        · obtain ⟨r', hr', hstatus, hid'⟩ := hentries₂ values hvalues msg hmsg
          exact absurd (hid.symm.trans hid'.symm) (h₁.apart h₂ hr hr' (.inr hstatus))
    · rw [addedSince_iff hnew₂, addedSince_iff hnew]
      constructor
      · rintro ⟨values, hvalues, hmsg⟩
        exact ⟨values, List.mem_append_right _ hvalues, hmsg⟩
      · rintro ⟨values, hvalues, msg, hmsg, hid⟩
        rcases List.mem_append.1 hvalues with hvalues | hvalues
        · obtain ⟨r', hr', hstatus, hid'⟩ := hentries₁ values hvalues msg hmsg
          exact absurd (hid'.trans hid) (h₁.apart h₂ hr' hr (.inl hstatus))
        · exact ⟨values, hvalues, msg, hmsg, hid⟩

/-- **The answer is truthful exactly if all were served.** -/
theorem truthful_iff (h : Listed svc lane w w₁ recipients₁ results served) :
    Truthful svc lane w w₁ recipients₁ results.length results ↔ served := by
  rw [h.served_iff]
  constructor
  · intro htruthful r hr
    have hall := List.countP_eq_length.1 htruthful.sent.symm r hr
    exact (htruthful.queued r hr).1 (of_decide_eq_true hall)
  · intro hadded
    have hqueued : ∀ r ∈ results, r.status = "queued" := by
      intro r hr
      cases h.known r hr with
      | queued hstatus _ _ _ => exact hstatus
      | failed _ hid =>
        obtain ⟨r', hr', hstatus, hid'⟩ := h.exists_queued (hadded r hr)
        exact absurd (hid'.trans hid) (h.queued hr' hstatus).1
    refine ⟨h.order, fun r hr => iff_of_true (hqueued r hr) (hadded r hr), ?_, h.own⟩
    exact (List.countP_eq_length.2 fun r hr => decide_eq_true (hqueued r hr)).symm

end Listed

section Loop

variable {w : World} (d : Draft) (caller : Caller) (encrypted : String) (now : ℤ)

/-- The draft for one recipient. -/
def Draft.member (d : Draft) (recipient msgID : String) : Draft :=
  { d with
    recipient := recipient
    idempotencyKey := "bulk-" ++ msgID ++ "-" ++ recipient }

variable (svc) in
/-- The part of `bulkOne` that stores the row and puts the message on the queue. -/
def postMember (recipient msgID : String) : ServerProg Posted :=
  post svc ((d.member recipient msgID).row svc caller msgID encrypted now) (counted caller.accountID)
    (laneOf d.messageType).1 ((d.member recipient msgID).queueMessage caller msgID now)

/-- What is noted for a recipient. -/
def noted (recipient msgID : String) : Posted → BulkResult
  | .rejected => ⟨recipient, "", "failed", "create failed"⟩
  | .failed => ⟨recipient, msgID, "queued", "enqueue failed, stored for retry"⟩
  | .queued => ⟨recipient, msgID, "queued", ""⟩

theorem bulkOne_eq_postMember (recipient : String) :
    bulkOne svc d caller encrypted now recipient =
      Prog.call .uuid >>= fun msgID =>
        postMember svc d caller encrypted now recipient msgID.text >>= fun posted =>
          return noted recipient msgID.text posted := by
  rw [bulkOne_eq]
  refine congrArg (Prog.call _ >>= ·) (funext fun msgID => ?_)
  refine congrArg (postMember svc d caller encrypted now recipient msgID.text >>= ·)
    (funext fun posted => ?_)
  cases posted <;> rfl

theorem noted_of_ne (recipient msgID : String) {posted : Posted} (h : posted ≠ .rejected) :
    (noted recipient msgID posted).status = "queued" ∧
      (noted recipient msgID posted).messageID = msgID := by
  cases posted with
  | rejected => exact absurd rfl h
  | failed => exact ⟨rfl, rfl⟩
  | queued => exact ⟨rfl, rfl⟩

theorem recipient_noted (recipient msgID : String) (posted : Posted) :
    (noted recipient msgID posted).recipient = recipient := by
  cases posted <;> rfl

theorem bulkOne_listed (hw : Alone w) (recipient : String) :
    Listed svc (laneOf d.messageType).1 w
      ((bulkOne svc d caller encrypted now recipient).exec (server svc.cfg) w).state [recipient]
      [((bulkOne svc d caller encrypted now recipient).exec (server svc.cfg) w).val]
      ((bulkOne svc d caller encrypted now recipient).EachStep (server svc.cfg) Served w) := by
  let u : UUID × World := (server svc.cfg).step .uuid w
  have hu : Alone u.2 := hw.step _
  have hdb : u.2.db = w.db := (step_db _ _ _).trans hw.tick_db
  have hstreams : u.2.streams = w.streams := (step_streams _ _ _).trans hw.tick_streams
  let q := postMember svc d caller encrypted now recipient u.1.text
  have hrun : ((bulkOne svc d caller encrypted now recipient).exec (server svc.cfg) w).val =
      noted recipient u.1.text (q.exec (server svc.cfg) u.2).val ∧
      ((bulkOne svc d caller encrypted now recipient).exec (server svc.cfg) w).state =
        (q.exec (server svc.cfg) u.2).state := by
    rw [bulkOne_eq_postMember, Prog.call_bind, Prog.exec_act]
    simp only [Prog.exec_bind]
    exact ⟨rfl, rfl⟩
  have hsteps : (bulkOne svc d caller encrypted now recipient).EachStep (server svc.cfg) Served w ↔
      q.EachStep (server svc.cfg) Served u.2 := by
    rw [bulkOne_eq_postMember, Prog.call_bind, Prog.EachStep, Prog.eachStep_bind]
    exact (and_iff_right trivial).trans (and_iff_left trivial)
  have hposts : Posts svc (laneOf d.messageType).1 _ _ u.2 (q.exec (server svc.cfg) u.2)
      (q.EachStep (server svc.cfg) Served u.2) :=
    post_served hu (counted_aside caller.accountID) (stream?_laneOf svc d.messageType) rfl
  have halone : Alone (q.exec (server svc.cfg) u.2).state := hu.exec q
  rw [hrun.1, hrun.2, hsteps]
  generalize q.exec (server svc.cfg) u.2 = o at hposts halone ⊢
  generalize q.EachStep (server svc.cfg) Served u.2 = steps at hposts ⊢
  have horder : [noted recipient u.1.text o.val].map BulkResult.recipient = [recipient] :=
    congrArg (fun r => [r]) (recipient_noted recipient u.1.text o.val)
  have hqueued (hval : o.val ≠ .rejected) (hfresh : ∀ old ∈ u.2.db.messages, old.id ≠ u.1.text)
      {row : Message} (hid : row.id = u.1.text)
      (hmessages : o.state.db.messages = u.2.db.messages ++ [row]) :
      ∀ r ∈ [noted recipient u.1.text o.val], Result w.db.messages o.state.db.messages r := by
    intro r hr
    obtain ⟨hstatus, hnoted⟩ := noted_of_ne recipient u.1.text hval
    rw [List.mem_singleton.1 hr]
    refine .queued hstatus (by rw [hnoted]; exact u.1.ne_empty) ?_ ⟨row, ?_, hid.trans hnoted.symm⟩
    · rw [hnoted, ← hdb]
      exact hfresh
    · rw [hmessages]
      exact List.mem_append_right _ (List.mem_singleton_self _)
  have hnothing (hsame : o.state.streams = u.2.streams) :
      (laneStream svc o.state (laneOf d.messageType).1).added =
        (laneStream svc w (laneOf d.messageType).1).added ++ [] := by
    rw [laneStream, hsame, hstreams, List.append_nil]
  have hnot_added (hsame : o.state.streams = u.2.streams) :
      ¬ ∀ r ∈ [noted recipient u.1.text o.val],
        AddedSince (laneStream svc w (laneOf d.messageType).1)
          (laneStream svc o.state (laneOf d.messageType).1) r.messageID := by
    intro h
    obtain ⟨values, hvalues, -⟩ :=
      (Listed.addedSince_iff (hnothing hsame)).1 (h _ (List.mem_singleton_self _))
    cases hvalues
  have hpairwise := List.pairwise_singleton (fun a b : BulkResult => a.status = "queued" →
    b.status = "queued" → a.messageID ≠ b.messageID) (noted recipient u.1.text o.val)
  cases hposts with
  | rejected hval hsame hmessages hnot =>
    refine ⟨halone, hdb ▸ hmessages, horder, fun r hr => ?_, hpairwise,
      ⟨[], hnothing hsame, fun _ hmem => absurd hmem List.not_mem_nil⟩, iff_of_false hnot (hnot_added hsame)⟩
    rw [List.mem_singleton.1 hr, hval]
    exact .failed rfl rfl
  | stranded hval hfresh hmessages hsame hnot =>
    refine ⟨halone, ?_, horder, hqueued hval hfresh rfl hmessages, hpairwise,
      ⟨[], hnothing hsame, fun _ hmem => absurd hmem List.not_mem_nil⟩, iff_of_false hnot (hnot_added hsame)⟩
    rw [hmessages, hdb]
    exact List.subset_append_left _ _
  | appended hval hfresh hmessages values hdecode hadded hall =>
    obtain ⟨hstatus, hnoted⟩ := noted_of_ne recipient u.1.text hval
    have hnew : (laneStream svc o.state (laneOf d.messageType).1).added =
        (laneStream svc w (laneOf d.messageType).1).added ++ [values] := by
      rw [hadded, laneStream, laneStream, hstreams]
    refine ⟨halone, ?_, horder, hqueued hval hfresh rfl hmessages, hpairwise,
      ⟨[values], hnew, ?_⟩, iff_of_true hall ?_⟩
    · rw [hmessages, hdb]
      exact List.subset_append_left _ _
    · intro values' hvalues' msg hmsg
      rw [List.mem_singleton.1 hvalues', hdecode] at hmsg
      obtain rfl := Option.some.inj hmsg
      exact ⟨_, List.mem_singleton_self _, hstatus, hnoted⟩
    · intro r hr
      rw [List.mem_singleton.1 hr, hnoted]
      exact (Listed.addedSince_iff hnew).2 ⟨values, List.mem_singleton_self _, _, hdecode, rfl⟩

/-- **What the loop leaves.** -/
theorem bulkLoop_listed (hw : Alone w) (recipients : List String) :
    Listed svc (laneOf d.messageType).1 w
      ((bulkLoop svc d caller encrypted now recipients).exec (server svc.cfg) w).state recipients
      ((bulkLoop svc d caller encrypted now recipients).exec (server svc.cfg) w).val
      ((bulkLoop svc d caller encrypted now recipients).EachStep (server svc.cfg) Served w) := by
  induction recipients generalizing w with
  | nil =>
    have hnew : (laneStream svc w (laneOf d.messageType).1).added =
        (laneStream svc w (laneOf d.messageType).1).added ++ [] := (List.append_nil _).symm
    exact ⟨hw, List.Subset.refl _, rfl, nofun, List.Pairwise.nil, ⟨[], hnew, nofun⟩,
      iff_of_true trivial nofun⟩
  | cons recipient recipients ih =>
    have hone := @bulkOne_listed svc w d caller encrypted now hw recipient
    let o₁ := (bulkOne svc d caller encrypted now recipient).exec (server svc.cfg) w
    let rest := bulkLoop svc d caller encrypted now recipients
    have hval : ((bulkLoop svc d caller encrypted now (recipient :: recipients)).exec
        (server svc.cfg) w).val = [o₁.val] ++ (rest.exec (server svc.cfg) o₁.state).val := by
      rw [bulkLoop]
      simp only [Prog.exec_bind]
      rfl
    have hstate : ((bulkLoop svc d caller encrypted now (recipient :: recipients)).exec
        (server svc.cfg) w).state = (rest.exec (server svc.cfg) o₁.state).state := by
      rw [bulkLoop]
      simp only [Prog.exec_bind]
      rfl
    have hsteps : (bulkLoop svc d caller encrypted now (recipient :: recipients)).EachStep
        (server svc.cfg) Served w = ((bulkOne svc d caller encrypted now recipient).EachStep
          (server svc.cfg) Served w ∧ rest.EachStep (server svc.cfg) Served o₁.state) := by
      rw [bulkLoop, Prog.eachStep_bind, Prog.eachStep_bind]
      exact propext (and_congr_right fun _ => and_iff_left trivial)
    rw [hval, hstate, hsteps]
    exact hone.append (ih hone.alone)

end Loop

/-! ## The endpoint -/

section Endpoint

variable {w₀ : World}

variable (svc) in
/-- What is asked of an answer, the world before and after the request being given. -/
def TruthfulAnswer (lane : PriorityLane) (recipients : List String) (w₀ w : World) (r : Response) :
    Prop :=
  ∀ total sent results createdAt, r = .bulk total sent results createdAt →
    Truthful svc lane w₀ w recipients sent results

variable {lane : PriorityLane} {recipients : List String}

/-- An answer with results is truthful if they are. -/
theorem truthfulAnswer_bulk {w w' : World} (hw : w.streams = w₀.streams) {total sent : ℕ}
    {results : List BulkResult} {createdAt : ℤ} :
    TruthfulAnswer svc lane recipients w₀ w' (.bulk total sent results createdAt) ↔
      Truthful svc lane w w' recipients sent results := by
  have hlane : laneStream svc w lane = laneStream svc w₀ lane := by
    rw [laneStream, hw]
  constructor
  · intro h
    obtain ⟨horder, hqueued, hsent, hown⟩ := h _ _ _ _ rfl
    exact ⟨horder, by rw [hlane]; exact hqueued, hsent, hown⟩
  · rintro ⟨horder, hqueued, hsent, hown⟩ _ _ _ _ hr
    cases hr
    exact ⟨horder, by rw [← hlane]; exact hqueued, hsent, hown⟩

/-- The program, begun in a world that is as it was, answers truthfully exactly if every message is
served. -/
def Reports (svc : Services) (lane : PriorityLane) (recipients : List String) (w₀ : World)
    (p : ServerProg Response) : Prop :=
  ∀ w, Unchanged w₀ w → (TruthfulAnswer svc lane recipients w₀
    (p.exec (server svc.cfg) w).state (p.exec (server svc.cfg) w).val ↔
      p.EachStep (server svc.cfg) Served w)

theorem reports_error (status : ℕ) (text : String) :
    Reports svc lane recipients w₀ (.ret (.error status text)) :=
  fun _ _ => iff_of_true (fun _ _ _ _ => nofun) trivial

theorem Reports.bind {α : Type} {Q : α → Prop} {p : ServerProg α} {f : α → ServerProg Response}
    (hp : p.Only (Checks True)) (hret : p.Returns Q)
    (hf : ∀ a, Q a → Reports svc lane recipients w₀ (f a)) :
    Reports svc lane recipients w₀ (p >>= f) := by
  intro w hw
  have hsteps : p.EachStep (server svc.cfg) Served w :=
    served_of_aside (hp.mono fun _ => Checks.aside) w
  rw [Prog.eachStep_bind, and_iff_right hsteps, Prog.exec_bind]
  exact hf _ (hret.exec _ _) _ (hw.exec hp)

theorem Reports.orReturn {α : Type} {p : ServerProg (Except Response α)}
    {rest : α → ServerProg Response} (hp : p.Only (Checks True)) (hret : p.Returns Errs)
    (hrest : ∀ a, Reports svc lane recipients w₀ (rest a)) :
    Reports svc lane recipients w₀ (Api.orReturn p rest) := by
  refine Reports.bind hp hret fun r hr => ?_
  cases r with
  | error r =>
    obtain ⟨status, text, rfl⟩ := hr r rfl
    exact reports_error status text
  | ok a => exact hrest a

/-- The whole request reports what its steps were. -/
theorem bulkSend_reports (caller : Caller) (body : BulkSendRequest) :
    Reports svc (laneOf (typeOr body.messageType)).1 body.recipients w₀ (bulkSend svc caller (some body)) := by
  have herrs := @errs_validateBulk svc (some body)
  unfold bulkSend
  cases hvalid : BulkSendRequest.validate svc (some body) with
  | error r =>
    obtain ⟨status, text, rfl⟩ := herrs r hvalid
    exact reports_error status text
  | ok checked =>
    obtain ⟨recipients, d⟩ := checked
    obtain ⟨req, hreq, rfl, htype, -⟩ := validateBulk_ok hvalid
    obtain rfl := Option.some.inj hreq
    rw [← htype]
    refine Reports.orReturn (checkOptionalDevice_checks _ _) (checkOptionalDevice_errs _ _) fun _ => ?_
    refine Reports.orReturn (requireQuota_checks _) (requireQuota_errs _) fun _ => ?_
    refine Reports.bind (Q := fun _ => True) ⟨trivial, fun _ => trivial⟩ (fun _ => trivial)
      fun now _ => ?_
    refine Reports.orReturn (encrypt_checks _) (encrypt_errs _) fun encrypted => ?_
    intro w' hw'
    have hlisted := @bulkLoop_listed svc w' d caller encrypted now hw'.alone body.recipients
    rw [Prog.eachStep_bind, Prog.exec_bind]
    refine (truthfulAnswer_bulk hw'.streams).trans (hlisted.truthful_iff.trans ?_)
    exact (and_iff_left trivial).symm

/-- **When the answer to a request for several recipients is truthful**, for every pattern of
failures: if every message is served, and only then. -/
theorem bulkSend_truthful_iff (caller : Caller) (body : BulkSendRequest) {w : World} (hw : Alone w) :
    TruthfulAnswer svc (laneOf (typeOr body.messageType)).1 body.recipients w
        ((bulkSend svc caller (some body)).exec (server svc.cfg) w).state
        ((bulkSend svc caller (some body)).exec (server svc.cfg) w).val ↔
      (bulkSend svc caller (some body)).EachStep (server svc.cfg) Served w :=
  bulkSend_reports caller body w ⟨hw, rfl, rfl⟩

end Endpoint

/-! ## A queue that is down -/

/-- Whether a message is served. -/
def served : {β : Type} → ServerCmd β → World → Bool
  | _, .db (.createMessage row), w =>
    decide (Inserts row w ∧ w.next.fault = .none ∧ row.createdAt.write.isSome = true)
  | _, .queue (.xAdd _ _ _), w => decide (w.next.fault.isRefused = false)
  | _, _, _ => true

instance decidableServed {β : Type} (e : ServerCmd β) (w : World) : Decidable (Served e w) :=
  decidable_of_iff (served e w = true) (by
    cases e with
    | db q =>
      cases q with
      | createMessage row => exact decide_eq_true_iff
      | _ => exact iff_of_true rfl trivial
    | queue e =>
      cases e with
      | xAdd name values maxLen => exact decide_eq_true_iff
      | _ => exact iff_of_true rfl trivial
    | _ => exact iff_of_true rfl trivial)

/-- A request that names the same recipient twice. -/
def twice : BulkSendRequest where
  recipients := ["+919999999999", "+919999999999"]
  sender := ""
  message := "hello"
  messageType := .transactional
  templateID := ""
  deviceID := ""
  routingStrategy := ⟨""⟩

/-- A server with an identifier of its own for each of two messages. -/
def bothQueued : World :=
  onePhone (List.replicate 9 .quiet ++
    [{ Tick.quiet with uuid := ⟨"11111111-1111-4111-8111-111111111111", by decide⟩ }])

/-- A server whose queue refuses the second message. -/
def halfDown : World :=
  onePhone (List.replicate 9 .quiet ++
    [{ Tick.quiet with uuid := ⟨"11111111-1111-4111-8111-111111111111", by decide⟩ }] ++
      List.replicate 4 .quiet ++ [{ Tick.quiet with fault := .refused "connection refused" }])

/-- The run of the request. -/
def sentTwice (w : World) : Outcome ServerCmd World Response :=
  (bulkSend plainServices order.caller (some twice)).exec (server plainServices.cfg) w

/-- What is asked of the answer to the request. -/
def TwiceTruthful (w : World) : Prop :=
  TruthfulAnswer plainServices (laneOf (typeOr twice.messageType)).1 twice.recipients w
    (sentTwice w).state (sentTwice w).val

theorem alone_bothQueued : Alone bothQueued := by
  intro t ht
  rcases List.mem_append.1 ht with hquiet | hlast
  · rw [List.eq_of_mem_replicate hquiet]
    rfl
  · rw [List.mem_singleton.1 hlast]
    rfl

theorem alone_halfDown : Alone halfDown := by
  intro t ht
  rcases List.mem_append.1 ht with hbefore | hlast
  · rcases List.mem_append.1 hbefore with hfirst | hquiet
    · exact alone_bothQueued t hfirst
    · rw [List.eq_of_mem_replicate hquiet]
      rfl
  · rw [List.mem_singleton.1 hlast]
    rfl

/-- Where nothing fails the answer is truthful. -/
theorem bothQueued_truthful : TwiceTruthful bothQueued :=
  (bulkSend_truthful_iff order.caller twice alone_bothQueued).2 (by decide)

/-- A message is noted as queued of which the queue knows nothing. -/
theorem halfDown_untruthful : ¬ TwiceTruthful halfDown := by
  intro h
  have hserved := (bulkSend_reports order.caller twice halfDown ⟨alone_halfDown, rfl, rfl⟩).1 h
  exact absurd hserved (by decide)

end AeroxeBee.Api
