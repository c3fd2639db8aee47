import AeroxeBee.Api.Plans
import AeroxeBee.Api.Postings
import AeroxeBee.Foundations.Protocol

/-!
# The course of a request

How far a request to a message endpoint has come: what its quota check found, which rows it stored,
and when it counted them. Every handler checks the quota before it stores its first row, stores at
most as many rows as messages are asked for, and counts a row before it stores the next; only a
message that is sent later is never counted by its request.

* `Course`, `course`: the protocol that the requests of an account keep to;
* `Request.handle_course`: every handler keeps to it, and its answer tells how many rows it stored.
-/

namespace AeroxeBee.Api

open Foundations Dispatch

/-! ## How many messages were accepted -/

/-- The day of a point in time. -/
def dayOf (t : ℤ) : ℤ := t / 86400000000000

/-- The number of messages that a response accepts. -/
def Response.accepted : Response → ℕ
  | .queued _ _ _ _ _ | .scheduled _ _ _ => 1
  | .bulk _ _ results _ => results.countP fun r => r.status = "queued"
  | _ => 0

/-- The time that a response gives for its messages. -/
def Response.createdAt : Response → ℤ
  | .queued _ _ _ createdAt _ | .scheduled _ _ createdAt | .bulk _ _ _ createdAt => createdAt
  | _ => 0

/-- The number of messages that a request asks for. -/
def Request.size : Request → ℕ
  | .bulkSend (some body) => body.recipients.length
  | _ => 1

/-! ## The protocol of a request -/

/-- How far a request has come: the last time it read, what it found about the quota, the rows it
stored, the days on which it counted a message, and whether a message could not be put on the
queue. -/
structure Course where
  now : Option ℤ
  usage : Option (Option UsageCounter)
  sub : Option (Option Subscription)
  rows : List Message
  dates : List ℤ
  failed : Bool

namespace Course

/-- A request that has not done anything. -/
def start : Course := ⟨none, none, none, [], [], false⟩

/-- What a request makes of an event. -/
def next (s : Course) : Event ServerCmd → Course
  | ⟨.now, t⟩ => { s with now := some t }
  | ⟨.db (.usageCounter _ _), .ok usage⟩ => { s with usage := some usage, sub := none }
  | ⟨.db (.subscription _), .ok sub⟩ => { s with sub := some sub }
  | ⟨.db (.subscription _), .error _⟩ => { s with sub := some none }
  | ⟨.db (.createMessage row), .ok ()⟩ =>
    { s with rows := s.rows ++ [row], failed := s.failed || row.createdAt.write.isNone }
  | ⟨.db (.incrementUsage _ date), _⟩ => { s with dates := s.dates ++ [date] }
  | ⟨.queue (.xAdd _ _ _), .error _⟩ => { s with failed := true }
  | _ => s

/-- The quota check was passed. Without a counter or a subscription it is. -/
def Passed (s : Course) : Prop :=
  match s.usage, s.sub with
  | some none, _ => True
  | some (some _), some none => True
  | some (some usage), some (some sub) => usage.count < withBuffer sub
  | _, _ => False

/-- What a request of an account for `n` messages may do next. -/
def Allows (accountID : String) (n : ℕ) (s : Course) : {β : Type} → ServerCmd β → Prop
  | _, .now | _, .uuid | _, .nonce | _, .redis _ | _, .queue .now | _, .queue (.xAdd _ _ _) => True
  | _, .db (.deviceByID _) | _, .db (.recordSent _ _) => True
  | _, .db (.usageCounter owner date) =>
    owner = accountID ∧ s.now.map dayOf = some date ∧ s.rows = []
  | _, .db (.subscription owner) =>
    owner = accountID ∧ s.rows = [] ∧ ∃ usage, s.usage = some (some usage)
  | _, .db (.createMessage _) =>
    s.Passed ∧ s.rows.length < n ∧ s.rows.length = s.dates.length
  | _, .db (.incrementUsage owner date) =>
    owner = accountID ∧ s.now.map dayOf = some date ∧ s.rows.length = s.dates.length + 1
  | _, _ => False

/-- How a request ends. -/
structure Ends (r : Request) (s : Course) (response : Response) : Prop where
  /-- Every row was counted, unless it is for later. -/
  counted : (∀ row ∈ s.rows, row.status ≠ "scheduled") → s.rows.length = s.dates.length
  accepted_le : response.accepted ≤ s.rows.length
  accepted_eq : (r.AnswersEnqueue → s.failed = false) → response.accepted = s.rows.length
  createdAt : response.accepted ≠ 0 → ∀ row ∈ s.rows, row.createdAt.nanos = response.createdAt

end Course

/-- The protocol that the requests of an account for `n` messages keep to. -/
def course (accountID : String) (n : ℕ) : Protocol ServerCmd Course where
  allows s := Course.Allows accountID n s
  expects _ := True
  next := Course.next

/-- How far a request among others has come. -/
abbrev courseOf {α : Type} (P : Pool ServerCmd World α) (i : ℕ) : Course :=
  P.phase Course.next .start i

/-! ## The tables of the quota -/

/-- The command leaves the counters and the subscriptions alone. -/
def LeavesQuota : {β : Type} → ServerCmd β → Prop
  | _, .db (.incrementUsage _ _) | _, .db (.updateSubscription _) | _, .db (.deleteAccount _) => False
  | _, _ => True

/-- The statement leaves them alone. -/
theorem LeavesQuota.run {β : Type} {q : Query β} (h : LeavesQuota (.db q)) (db : Database) :
    (q.run db).2.usageCounters = db.usageCounters ∧
      (q.run db).2.subscriptions = db.subscriptions := by
  cases q with
  | incrementUsage | updateSubscription | deleteAccount => exact h.elim
  | createMessage msg =>
    simp only [Query.run, Database.insertMessage]
    split_ifs <;> exact ⟨rfl, rfl⟩
  | _ => exact ⟨rfl, rfl⟩

theorem LeavesQuota.step {cfg : Config} {w : World} {β : Type} {e : ServerCmd β} (h : LeavesQuota e)
    (hw : Alone w) : ((server cfg).step e w).2.db.usageCounters = w.db.usageCounters ∧
      ((server cfg).step e w).2.db.subscriptions = w.db.subscriptions := by
  rw [step_db, ← hw.tick_db]
  cases e with
  | db q =>
    rcases Fault.apply_snd w.next.fault id id (fun db => q.run db) w.tick.db with hdb | hdb
    · rw [ServerCmd.tables, hdb]
      exact ⟨rfl, rfl⟩
    · rw [ServerCmd.tables, hdb]
      exact h.run w.tick.db
  | _ => exact ⟨rfl, rfl⟩

/-! ## The checks -/

section Checks

variable {svc : Services} {accountID : String} {n : ℕ} {s : Course}

/-- The plain checks make no difference. -/
theorem keeps_of_plain {α : Type} {p : ServerProg α} (hp : p.Only (Plain True)) :
    p.Keeps (course accountID n) (fun s' _ => s' = s) s := by
  refine Prog.Keeps.of_only hp (fun e he => ?_) fun e b he => ?_
  · cases e with
    | uuid | nonce | redis => trivial
    | db q =>
      cases q with
      | deviceByID _ => trivial
      | _ => exact he.elim
    | _ => exact he.elim
  · cases e with
    | uuid | nonce | redis => rfl
    | db q =>
      cases q with
      | deviceByID _ => rfl
      | _ => exact he.elim
    | _ => exact he.elim

/-- The request has stored and counted nothing, and nothing has failed. -/
structure Course.Fresh (s : Course) : Prop where
  rows : s.rows = []
  dates : s.dates = []
  failed : s.failed = false

/-- **The quota check** is what a request learns about its quota. -/
theorem requireQuota_course (hs : s.Fresh) :
    (requireQuota accountID).Keeps (course accountID n)
      (fun s' r => s'.Fresh ∧ (r = .ok () → s'.Passed)) s := by
  obtain ⟨hrows, hdates, hfailed⟩ := hs
  refine ⟨trivial, fun now _ => ⟨⟨rfl, rfl, hrows⟩, fun usage _ => ?_⟩⟩
  rcases usage with e | (_ | usage)
  · exact ⟨⟨hrows, hdates, hfailed⟩, fun hr => (by cases hr)⟩
  · exact ⟨⟨hrows, hdates, hfailed⟩, fun _ => trivial⟩
  · refine ⟨⟨rfl, hrows, usage, rfl⟩, fun sub _ => ?_⟩
    rcases sub with e | (_ | sub)
    · exact ⟨⟨hrows, hdates, hfailed⟩, fun _ => trivial⟩
    · exact ⟨⟨hrows, hdates, hfailed⟩, fun _ => trivial⟩
    · dsimp only [Prog.bind]
      by_cases hlt : usage.count < truncate (sub.quotaDaily * (1 + sub.overageBufferPct / 100))
      · rw [decide_eq_true hlt]
        exact ⟨⟨hrows, hdates, hfailed⟩, fun _ => hlt⟩
      · rw [decide_eq_false hlt]
        exact ⟨⟨hrows, hdates, hfailed⟩, fun hr => (by cases hr)⟩

end Checks

/-! ## One message -/

section Message

variable {svc : Services} {accountID : String} {n : ℕ} {s s' : Course}

/-- Since then one row was stored and counted. -/
structure Course.Adds (s : Course) (row : Message) (s' : Course) : Prop where
  rows : s'.rows = s.rows ++ [row]
  dates : s'.dates.length = s.dates.length + 1
  passed : s.Passed → s'.Passed

/-- What came of a message, as its request sees it. -/
def Course.After (s : Course) (row : Message) (s' : Course) : Posted → Prop
  | .rejected => s' = s
  | .failed => s.Adds row s' ∧ s'.failed = true
  | .queued => s.Adds row s' ∧ s'.failed = s.failed

/-- The request may store another row. -/
structure Course.Ready (n : ℕ) (s : Course) : Prop where
  passed : s.Passed
  lt : s.rows.length < n
  counted : s.rows.length = s.dates.length

/-- A program that counts the row that was stored last. -/
def Counts (accountID : String) (between : ServerProg Unit) : Prop :=
  ∀ n s, s.rows.length = s.dates.length + 1 → between.Keeps (course accountID n)
    (fun s' _ => s'.rows = s.rows ∧ s'.dates.length = s.dates.length + 1 ∧
      s'.failed = s.failed ∧ s'.usage = s.usage ∧ s'.sub = s.sub) s

theorem counted_counts (accountID : String) : Counts accountID (counted accountID) := by
  intro n s hs
  refine ⟨trivial, fun now _ => ⟨⟨rfl, rfl, hs⟩, fun _ _ => ?_⟩⟩
  exact ⟨rfl, List.length_append, rfl, rfl, rfl⟩

theorem countedAndUsed_counts (accountID deviceID : String) :
    Counts accountID (countedAndUsed accountID deviceID) := by
  intro n s hs
  refine ⟨trivial, fun now _ => ⟨⟨rfl, rfl, hs⟩, fun _ _ => ⟨trivial, fun usedAt _ => ?_⟩⟩⟩
  exact ⟨trivial, fun _ _ => ⟨rfl, List.length_append, rfl, rfl, rfl⟩⟩

theorem put_course {lane : PriorityLane} {msg : QueueMessage}
    (hname : svc.cfg.queue.stream? lane = some (svc.cfg.queue.stream lane))
    (hfailed : msg.marshal = none → s.failed = true) :
    (put svc lane msg).Keeps (course accountID n)
      (fun s' posted => posted = .failed ∧ s' = { s with failed := true } ∨
        posted = .queued ∧ s' = s ∧ msg.marshal.isSome = true) s := by
  unfold put
  cases hdata : msg.marshal with
  | none =>
    rw [enqueue_eq_error svc hname hdata]
    have hsame : s = { s with failed := true } := by
      obtain ⟨now, usage, sub, rows, dates, failed⟩ := s
      obtain rfl : failed = true := hfailed hdata
      rfl
    exact .inl ⟨rfl, hsame⟩
  | some data =>
    rw [enqueue_eq svc hname hdata]
    refine ⟨trivial, fun now _ => ⟨trivial, fun added _ => ?_⟩⟩
    cases added with
    | error e => exact .inl ⟨rfl, rfl⟩
    | ok id => exact .inr ⟨rfl, rfl, rfl⟩

/-- **Posting a message** stores one row at most, and counts it. -/
theorem post_course {row : Message} {msg : QueueMessage} {between : ServerProg Unit}
    {lane : PriorityLane} (hbetween : Counts accountID between)
    (hname : svc.cfg.queue.stream? lane = some (svc.cfg.queue.stream lane))
    (hcreatedAt : msg.createdAt = row.createdAt) (hs : s.Ready n) :
    (post svc row between lane msg).Keeps (course accountID n)
      (fun s' posted => s.After row s' posted) s := by
  refine ⟨⟨hs.passed, hs.lt, hs.counted⟩, fun created _ => ?_⟩
  rcases created with e | ⟨⟩
  · exact rfl
  · let s₁ : Course :=
      { s with rows := s.rows ++ [row], failed := s.failed || row.createdAt.write.isNone }
    have hrows : s₁.rows.length = s₁.dates.length + 1 := by
      simp [s₁, hs.counted]
    refine (hbetween n s₁ hrows).bind fun s₂ _ hs₂ => ?_
    obtain ⟨hrows₂, hdates₂, hfailed₂, husage₂, hsub₂⟩ := hs₂
    have hpassed : s.Passed → s₂.Passed := by
      unfold Course.Passed
      rw [husage₂, hsub₂]
      exact id
    have hmarshal : msg.marshal.isSome = row.createdAt.write.isSome := by
      rw [QueueMessage.marshal, hcreatedAt, Option.isSome_map]
    refine (put_course hname fun hnone => ?_).mono fun s₃ posted h => ?_
    · rw [hnone] at hmarshal
      rw [hfailed₂]
      simp [s₁, ← Option.not_isSome, ← hmarshal]
    · rcases h with ⟨rfl, rfl⟩ | ⟨rfl, rfl, hwritten⟩
      · exact ⟨⟨hrows₂, hdates₂, hpassed⟩, rfl⟩
      · refine ⟨⟨hrows₂, hdates₂, hpassed⟩, ?_⟩
        rw [hfailed₂]
        simp [s₁, ← Option.not_isSome, ← hmarshal, hwritten]

end Message

/-! ## Requests -/

section Requests

variable {svc : Services} {accountID : String} {n : ℕ} {s : Course} {r : Request}

/-- A request that has stored nothing ends with an error. -/
theorem Course.Fresh.ends (hs : s.Fresh) {response : Response} (h : response.accepted = 0) :
    s.Ends r response where
  counted _ := by
    rw [hs.rows, hs.dates]
    rfl
  accepted_le := h ▸ Nat.zero_le _
  accepted_eq _ := by
    rw [hs.rows, h]
    rfl
  createdAt hne := absurd h hne

/-- If the value ends a request, it does so with an answer that accepts nothing. -/
def Turns {α : Type} (v : Except Response α) : Prop :=
  ∀ response, v = .error response → response.accepted = 0

theorem Errs.turns {α : Type} {v : Except Response α} (h : Errs v) : Turns v := by
  intro response hv
  obtain ⟨status, text, rfl⟩ := h response hv
  rfl

theorem checkDuplicate_turns (key : String) : (checkDuplicate svc key).Returns Turns := by
  refine (Prog.Returns.of_forall (fun _ => trivial) (checkAndSet svc key "")).bind fun v _ => ?_
  rcases v with e | (_ | messageID)
  · exact (errs_error _ _).turns
  · exact nofun
  · rintro _ ⟨⟩
    rfl

theorem keeps_orReturn {α : Type} {p : ServerProg (Except Response α)}
    {rest : α → ServerProg Response} {Q : Course → Except Response α → Prop}
    (hp : p.Keeps (course accountID n) Q s)
    (herror : ∀ s' e, Q s' (.error e) → s'.Ends r e)
    (hok : ∀ s' a, Q s' (.ok a) → (rest a).Keeps (course accountID n) (Course.Ends r) s') :
    (orReturn p rest).Keeps (course accountID n) (Course.Ends r) s := by
  refine hp.bind fun s' v h => ?_
  cases v with
  | error e => exact herror s' e h
  | ok a => exact hok s' a h

/-- A plain check comes first. -/
theorem keeps_check {α : Type} {p : ServerProg (Except Response α)}
    {rest : α → ServerProg Response} (hp : p.Only (Plain True)) (hturns : p.Returns Turns)
    (hs : s.Fresh) (hrest : ∀ a, (rest a).Keeps (course accountID n) (Course.Ends r) s) :
    (orReturn p rest).Keeps (course accountID n) (Course.Ends r) s := by
  refine keeps_orReturn ((keeps_of_plain hp).and_returns hturns) (fun s' e h => ?_) fun s' a h => ?_
  · obtain ⟨rfl, hreturns⟩ := h
    exact hs.ends (hreturns e rfl)
  · obtain ⟨rfl, -⟩ := h
    exact hrest a

/-- The quota check comes first. -/
theorem keeps_requireQuota {rest : Unit → ServerProg Response} (hs : s.Fresh)
    (hrest : ∀ s', s'.Fresh → s'.Passed →
      (rest ()).Keeps (course accountID n) (Course.Ends r) s') :
    (orReturn (requireQuota accountID) rest).Keeps (course accountID n) (Course.Ends r) s := by
  refine keeps_orReturn ((requireQuota_course hs).and_returns (requireQuota_errs accountID))
    (fun s' e h => ?_) fun s' a h => ?_
  · obtain ⟨⟨hfresh, -⟩, herrs⟩ := h
    exact hfresh.ends (herrs.turns e rfl)
  · obtain ⟨⟨hfresh, hpassed⟩, -⟩ := h
    exact hrest s' hfresh (hpassed rfl)

/-- The time is read. -/
theorem keeps_now {rest : ℤ → ServerProg Response} (hs : s.Fresh) (hpassed : s.Passed)
    (hrest : ∀ now s', s'.Fresh → s'.Passed →
      (rest now).Keeps (course accountID n) (Course.Ends r) s') :
    (Prog.call .now >>= rest).Keeps (course accountID n) (Course.Ends r) s :=
  ⟨trivial, fun now _ => hrest now _ ⟨hs.rows, hs.dates, hs.failed⟩ hpassed⟩

/-- A request that is passed may store its first row. -/
theorem Course.Fresh.ready (hs : s.Fresh) (hpassed : s.Passed) (hn : 0 < n) : s.Ready n where
  passed := hpassed
  lt := by
    rw [hs.rows]
    exact hn
  counted := by
    rw [hs.rows, hs.dates]
    rfl

/-- **The end of a request for one message.** -/
theorem post_ends {row : Message} {msg : QueueMessage} {between : ServerProg Unit}
    {lane : PriorityLane} {k : Posted → ServerProg Response} (hbetween : Counts accountID between)
    (hname : svc.cfg.queue.stream? lane = some (svc.cfg.queue.stream lane))
    (hcreatedAt : msg.createdAt = row.createdAt) (hs : s.Fresh) (hpassed : s.Passed) (hn : 0 < n)
    (hr : r.AnswersEnqueue)
    (hfails : ∀ posted, posted ≠ .queued → ∃ text, k posted = .ret (.error 500 text))
    (hqueued : ∃ f : ℤ → Response, k .queued = .act .now (fun done => .ret (f done)) ∧
      ∀ done, (f done).accepted = 1 ∧ (f done).createdAt = row.createdAt.nanos) :
    (post svc row between lane msg >>= k).Keeps (course accountID n) (Course.Ends r) s := by
  refine (post_course hbetween hname hcreatedAt (hs.ready hpassed hn)).bind fun s' posted h => ?_
  cases posted with
  | rejected =>
    obtain rfl : s' = s := h
    obtain ⟨text, hk⟩ := hfails .rejected nofun
    rw [hk]
    exact hs.ends rfl
  | failed =>
    obtain ⟨⟨hrows, hdates, -⟩, hfailed⟩ := h
    obtain ⟨text, hk⟩ := hfails .failed nofun
    rw [hk]
    refine ⟨fun _ => ?_, Nat.zero_le _, fun hclean => ?_, fun hne => absurd rfl hne⟩
    · rw [hrows, hdates, hs.rows, hs.dates]
      rfl
    · cases hfailed.symm.trans (hclean hr)
  | queued =>
    obtain ⟨⟨hrows, hdates, -⟩, hfailed⟩ := h
    obtain ⟨f, hk, hf⟩ := hqueued
    rw [hk]
    refine ⟨trivial, fun done _ => ?_⟩
    obtain ⟨haccepted, hcreated⟩ := hf done
    have hone : s'.rows = [row] := by rw [hrows, hs.rows, List.nil_append]
    refine ⟨fun _ => ?_, ?_, fun _ => ?_, fun _ row' hrow' => ?_⟩
    · change s'.rows.length = s'.dates.length
      rw [hone, hdates, hs.dates]
      rfl
    · change _ ≤ s'.rows.length
      rw [haccepted, hone]
      rfl
    · change _ = s'.rows.length
      rw [haccepted, hone]
      rfl
    · obtain rfl := List.mem_singleton.1 (hone ▸ hrow' : row' ∈ [row])
      exact hcreated.symm

theorem postFresh_course (caller : Caller) {between : ServerProg Unit}
    (hbetween : Counts caller.accountID between) (key : Option String) (startTime : ℤ) (d : Draft)
    (hs : s.Fresh) (hr : r.AnswersEnqueue) :
    (postFresh svc caller between key startTime d).Keeps (course caller.accountID 1)
      (Course.Ends r) s := by
  unfold postFresh
  refine keeps_requireQuota hs fun s₁ hs₁ hpassed₁ => ⟨trivial, fun msgID _ => ?_⟩
  refine keeps_now hs₁ hpassed₁ fun now s₂ hs₂ hpassed₂ => ?_
  refine keeps_check (encrypt_plain _) ((encrypt_errs _).mono fun _ => Errs.turns) hs₂
    fun encrypted => ?_
  refine post_ends hbetween (stream?_laneOf svc _) rfl hs₂ hpassed₂ one_pos hr ?_ ?_
  · intro posted hposted
    cases posted with
    | rejected => exact ⟨_, rfl⟩
    | failed => exact ⟨_, rfl⟩
    | queued => exact absurd rfl hposted
  · exact ⟨_, rfl, fun _ => ⟨rfl, rfl⟩⟩

theorem send_course (caller : Caller) (body : Option SendSMSRequest) (hs : s.Fresh)
    (hr : r.AnswersEnqueue) :
    (send svc caller body).Keeps (course caller.accountID 1) (Course.Ends r) s := by
  have herrs := @errs_validate svc body
  refine ⟨trivial, fun startTime _ => ?_⟩
  have hs₁ : (course caller.accountID 1).next s ⟨.now, startTime⟩ |>.Fresh :=
    ⟨hs.rows, hs.dates, hs.failed⟩
  dsimp only
  cases hbody : SendSMSRequest.validate svc body with
  | error e => exact hs₁.ends (herrs.turns e hbody)
  | ok d =>
    refine keeps_check (checkOptionalDevice_plain _ _)
      ((checkOptionalDevice_errs _ _).mono fun _ => Errs.turns) hs₁ fun _ => ?_
    refine keeps_check (checkDuplicate_plain _) (checkDuplicate_turns _) hs₁ fun _ => ?_
    rw [sendFresh_eq]
    exact postFresh_course caller (counted_counts _) _ startTime d hs₁ hr

theorem memberSend_course (body : Option SendSMSRequest) (hs : s.Fresh) (hr : r.AnswersEnqueue) :
    (memberSend svc accountID body).Keeps (course accountID 1) (Course.Ends r) s := by
  have herrs := @errs_validateMember svc body
  refine ⟨trivial, fun startTime _ => ?_⟩
  have hs₁ : (course accountID 1).next s ⟨.now, startTime⟩ |>.Fresh :=
    ⟨hs.rows, hs.dates, hs.failed⟩
  dsimp only
  cases hbody : SendSMSRequest.validateMember svc body with
  | error e => exact hs₁.ends (herrs.turns e hbody)
  | ok d =>
    refine keeps_check (checkDevice_plain _ _ _)
      ((checkDevice_errs _ _ _).mono fun _ => Errs.turns) hs₁ fun device => ?_
    have hsender : Errs (deviceSender svc device) := errs_senderOr _
    cases hdevice : deviceSender svc device with
    | error e => exact hs₁.ends (hsender.turns e hdevice)
    | ok sender =>
      refine ⟨trivial, fun key _ => ?_⟩
      refine keeps_check (checkDuplicate_plain _) (checkDuplicate_turns _) hs₁ fun _ => ?_
      rw [memberFresh_eq]
      exact postFresh_course ⟨accountID, ""⟩ (countedAndUsed_counts _ _) _ startTime _ hs₁ hr

/-- What a request for several recipients has stored when it comes to the next one. -/
structure Course.Midway (n left : ℕ) (now : ℤ) (s : Course) : Prop where
  passed : s.Passed
  le : s.rows.length + left ≤ n
  counted : s.rows.length = s.dates.length
  createdAt : ∀ row ∈ s.rows, row.createdAt.nanos = now

theorem bulkOne_course {left : ℕ} (d : Draft) (caller : Caller) (encrypted : String) (now : ℤ)
    (recipient : String) (hs : s.Midway n (left + 1) now) :
    (bulkOne svc d caller encrypted now recipient).Keeps (course caller.accountID n)
      (fun s' result => s'.Midway n left now ∧
        s'.rows.length = s.rows.length + if result.status = "queued" then 1 else 0) s := by
  rw [bulkOne_eq]
  refine ⟨trivial, fun msgID _ => ?_⟩
  have hready : s.Ready n := ⟨hs.passed, by have := hs.le; omega, hs.counted⟩
  refine (post_course (counted_counts _) (stream?_laneOf svc d.messageType) rfl hready).bind
    fun s' posted h => ?_
  have hle := hs.le
  have hadds {row : Message} (hcreated : row.createdAt.nanos = now) (hadds : s.Adds row s') :
      s'.Midway n left now ∧ s'.rows.length = s.rows.length + 1 := by
    have hlength : s'.rows.length = s.rows.length + 1 := by
      rw [hadds.rows, List.length_append, List.length_singleton]
    refine ⟨⟨hadds.passed hs.passed, by omega, ?_, ?_⟩, hlength⟩
    · rw [hlength, hadds.dates, hs.counted]
    · intro row' hrow'
      rw [hadds.rows] at hrow'
      rcases List.mem_append.1 hrow' with hold | hnew
      · exact hs.createdAt row' hold
      · obtain rfl := List.mem_singleton.1 hnew
        exact hcreated
  cases posted with
  | rejected =>
    obtain rfl : s' = s := h
    exact ⟨⟨hs.passed, by omega, hs.counted, hs.createdAt⟩, rfl⟩
  | failed => exact hadds rfl h.1
  | queued => exact hadds rfl h.1

theorem bulkLoop_course (d : Draft) (caller : Caller) (encrypted : String) (now : ℤ)
    (recipients : List String) (hs : s.Midway n recipients.length now) :
    (bulkLoop svc d caller encrypted now recipients).Keeps (course caller.accountID n)
      (fun s' results => s'.Midway n 0 now ∧ s'.rows.length =
        s.rows.length + results.countP fun result => result.status = "queued") s := by
  induction recipients generalizing s with
  | nil => exact ⟨hs, rfl⟩
  | cons recipient recipients ih =>
    refine (bulkOne_course d caller encrypted now recipient hs).bind fun s₁ result h => ?_
    obtain ⟨hs₁, hlength₁⟩ := h
    refine (ih hs₁).bind fun s₂ results h => ?_
    obtain ⟨hs₂, hlength₂⟩ := h
    refine ⟨hs₂, ?_⟩
    rw [hlength₂, hlength₁, List.countP_cons]
    simp only [decide_eq_true_eq]
    omega

theorem bulkSend_course (caller : Caller) (body : Option BulkSendRequest) (hs : s.Fresh)
    (hbody : ∀ req, body = some req → req.recipients.length ≤ n) :
    (bulkSend svc caller body).Keeps (course caller.accountID n)
      (Course.Ends (.bulkSend body)) s := by
  have herrs := @errs_validateBulk svc body
  unfold bulkSend
  cases hvalid : BulkSendRequest.validate svc body with
  | error e => exact hs.ends (herrs.turns e hvalid)
  | ok checked =>
    obtain ⟨recipients, d⟩ := checked
    have hlength : recipients.length ≤ n := by
      obtain ⟨req, rfl, rfl, -⟩ := validateBulk_ok hvalid
      exact hbody req rfl
    refine keeps_check (checkOptionalDevice_plain _ _)
      ((checkOptionalDevice_errs _ _).mono fun _ => Errs.turns) hs fun _ => ?_
    refine keeps_requireQuota hs fun s₁ hs₁ hpassed₁ => ?_
    refine keeps_now hs₁ hpassed₁ fun now s₂ hs₂ hpassed₂ => ?_
    refine keeps_check (encrypt_plain _) ((encrypt_errs _).mono fun _ => Errs.turns) hs₂
      fun encrypted => ?_
    have hstart : s₂.Midway n recipients.length now := by
      refine ⟨hpassed₂, ?_, ?_, ?_⟩
      · rw [hs₂.rows]
        simpa using hlength
      · rw [hs₂.rows, hs₂.dates]
        rfl
      · rw [hs₂.rows]
        exact fun _ hrow => absurd hrow List.not_mem_nil
    refine (bulkLoop_course d caller encrypted now recipients hstart).bind fun s₃ results h => ?_
    obtain ⟨hs₃, hcount⟩ := h
    have haccepted : results.countP (fun result => result.status = "queued") = s₃.rows.length := by
      rw [hcount, hs₂.rows, List.length_nil, Nat.zero_add]
    exact ⟨fun _ => hs₃.counted, haccepted.le, fun _ => haccepted, fun _ => hs₃.createdAt⟩

theorem scheduleSend_course (caller : Caller) (body : Option ScheduleSendRequest) (hs : s.Fresh) :
    (scheduleSend svc caller body).Keeps (course caller.accountID 1) (Course.Ends r) s := by
  refine ⟨trivial, fun checkedAt _ => ⟨trivial, fun checkedLater _ => ?_⟩⟩
  have hs₁ : Course.Fresh ((course caller.accountID 1).next
      ((course caller.accountID 1).next s ⟨.now, checkedAt⟩) ⟨.now, checkedLater⟩) :=
    ⟨hs.rows, hs.dates, hs.failed⟩
  have herrs := @errs_validateSchedule svc checkedAt checkedLater body
  dsimp only [Prog.bind]
  cases hvalid : ScheduleSendRequest.validate svc checkedAt checkedLater body with
  | error e => exact hs₁.ends (herrs.turns e hvalid)
  | ok checked =>
    obtain ⟨scheduledAt, d⟩ := checked
    refine keeps_check (checkOptionalDevice_plain _ _)
      ((checkOptionalDevice_errs _ _).mono fun _ => Errs.turns) hs₁ fun _ => ?_
    refine keeps_requireQuota hs₁ fun s₂ hs₂ hpassed₂ => ?_
    refine keeps_now hs₂ hpassed₂ fun now s₃ hs₃ hpassed₃ => ⟨trivial, fun msgID _ => ?_⟩
    refine keeps_check (encrypt_plain _) ((encrypt_errs _).mono fun _ => Errs.turns) hs₃
      fun encrypted => ?_
    have hready := hs₃.ready hpassed₃ one_pos
    refine ⟨⟨hready.passed, hready.lt, hready.counted⟩, fun created _ => ?_⟩
    rcases created with e | ⟨⟩
    · exact hs₃.ends rfl
    · have hrows : s₃.rows ++ [d.scheduledRow svc caller msgID.text encrypted now scheduledAt] =
          [d.scheduledRow svc caller msgID.text encrypted now scheduledAt] := by
        rw [hs₃.rows, List.nil_append]
      refine ⟨fun hnone => ?_, ?_, fun _ => ?_, fun _ row hrow => ?_⟩
      · exact absurd rfl (hnone _ (hrows ▸ List.mem_singleton_self _))
      · exact (congrArg List.length hrows).ge
      · exact (congrArg List.length hrows).symm
      · have hmem : row ∈ [d.scheduledRow svc caller msgID.text encrypted now scheduledAt] := by
          rw [← hrows]
          exact hrow
        obtain rfl := List.mem_singleton.1 hmem
        rfl

variable (svc) in
/-- **Every handler keeps to the protocol of its account**, and its answer tells what it stored. -/
theorem Request.handle_course (caller : Caller) (r : Request) :
    (r.handle svc caller).Keeps (course caller.accountID r.size) (Course.Ends r) .start := by
  have hs : Course.start.Fresh := ⟨rfl, rfl, rfl⟩
  cases r with
  | send body => exact send_course caller body hs trivial
  | bulkSend body =>
    refine bulkSend_course caller body hs ?_
    rintro req rfl
    exact le_rfl
  | scheduleSend body => exact scheduleSend_course caller body hs
  | memberSend body => exact memberSend_course body hs trivial

end Requests

end AeroxeBee.Api
