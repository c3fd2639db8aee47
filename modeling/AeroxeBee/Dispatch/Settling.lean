import AeroxeBee.Dispatch.Acknowledged
import AeroxeBee.Dispatch.Webhooks

/-!
# Webhooks that are told until they answer

A webhook should be tried until its server answers or has failed often enough, and a row should say
which of the two it was. The dispatcher keeps count and says when the next attempt is due, but the
routine calls it once.

* `dispatchWebhooks_once`: what is done about one of the webhooks;
* `length_attemptsAt_le`: no webhook is tried twice;
* `settled_iff_succeeds`: when all that should be done about a webhook has been done.
-/

namespace AeroxeBee.Dispatch.Webhooks

open Foundations

/-! ## Deliveries that come to an end -/

/-- The server has answered with a status below 300. -/
def Accepted (reply : Except String HttpResponse) : Prop :=
  ∃ resp, reply = .ok resp ∧ resp.statusCode < 300

instance (reply : Except String HttpResponse) : Decidable (Accepted reply) :=
  match reply with
  | .error _ => .isFalse nofun
  | .ok resp =>
    decidable_of_iff (resp.statusCode < 300)
      ⟨fun h => ⟨resp, rfl, h⟩, fun ⟨_, hresp, h⟩ => Except.ok.inj hresp ▸ h⟩

/-- The attempts at a delivery need no further one: the last has been answered, or there have been
enough. -/
def Verdict (maxAttempts : ℤ) (attempts : List Attempt) : Prop :=
  (∃ a ∈ attempts.getLast?, Accepted a.reply) ∨ maxAttempts ≤ attempts.length

/-- The status tells whether the last attempt was answered, or has been the last that failed. -/
def Tells (reply : Except String HttpResponse) (status : Bytes) : Prop :=
  (Accepted reply → status = bytes "delivered") ∧ (¬ Accepted reply → status = bytes "dead_letter")

/-- The attempts at a delivery. -/
def State.attemptsAt (s : State) (key : String) : List Attempt :=
  s.attempts.filter (·.key = key)

/-- The rows of a delivery. -/
def State.rowsOf (s : State) (webhookID messageID : String) : List WebhookDelivery :=
  s.webhookDeliveries.filter fun d => d.webhookID = webhookID ∧ d.messageID = messageID

/-- **A delivery is settled**: it has been attempted, with a context that was alive and never before
it was due, until it was answered or enough attempts have failed, and the last row tells which. -/
structure Settled (maxAttempts : ℤ) (webhookID messageID : String) (s : State) : Prop where
  attempted : s.attemptsAt (deliveryKey webhookID messageID) ≠ []
  verdict : Verdict maxAttempts (s.attemptsAt (deliveryKey webhookID messageID))
  undecided : ∀ n < (s.attemptsAt (deliveryKey webhookID messageID)).length, 0 < n →
    ¬ Verdict maxAttempts ((s.attemptsAt (deliveryKey webhookID messageID)).take n)
  due : ∀ a ∈ s.attemptsAt (deliveryKey webhookID messageID), ∀ t ∈ a.due, t ≤ a.time
  alive : ∀ a ∈ s.attemptsAt (deliveryKey webhookID messageID), a.alive = true
  noted : ∃ a ∈ (s.attemptsAt (deliveryKey webhookID messageID)).getLast?,
    ∃ d ∈ (s.rowsOf webhookID messageID).getLast?, Tells a.reply d.lastStatus

/-- Nothing has been done yet about a delivery. -/
structure Fresh (webhookID messageID : String) (s : State) : Prop where
  unknown : s.deliveries (deliveryKey webhookID messageID) = none
  unattempted : s.attemptsAt (deliveryKey webhookID messageID) = []
  unnoted : s.rowsOf webhookID messageID = []

/-- A command for a delivery succeeds: the database executes its statements, with all columns in
place, and the server answers with a status below 300, unless one attempt is enough; and the context
is alive when they do. -/
def Succeeds (maxAttempts : ℤ) (webhookID messageID : String) :
    {β : Type} → WebhookCmd β → State → Prop
  | _, .activeWebhooks _ _, s => s.tick.2.alive = true ∧ s.tick.1.refused = none
  | _, .post key _, s => key = deliveryKey webhookID messageID →
      s.tick.2.alive = true ∧ (Accepted s.tick.1.reply ∨ maxAttempts ≤ 1)
  | _, .createDelivery d, s => d.webhookID = webhookID ∧ d.messageID = messageID →
      s.tick.2.alive = true ∧ s.tick.1.refused = none ∧ insertColumns ⊆ s.columns
  | _, _, _ => True

instance (maxAttempts : ℤ) (webhookID messageID : String) {β : Type} (e : WebhookCmd β)
    (s : State) : Decidable (Succeeds maxAttempts webhookID messageID e s) :=
  match e with
  | .activeWebhooks _ _ => inferInstanceAs (Decidable (_ ∧ _))
  | .post _ _ | .createDelivery _ => inferInstanceAs (Decidable (_ → _))
  | .now | .find _ | .put _ _ => .isTrue trivial

/-! ## What the steps leave alone -/

section Steps

variable {webhookID messageID : String}

theorem Fresh.tick {s : State} (h : Fresh webhookID messageID s) :
    Fresh webhookID messageID s.tick.2 := by
  obtain ⟨t, env, htick⟩ := s.tick_eq
  rw [htick]
  exact ⟨h.unknown, h.unattempted, h.unnoted⟩

/-- No attempt has been made and nothing has been noted of a delivery, while some time may have
passed. -/
structure Same (webhookID messageID : String) (s s' : State) : Prop where
  attempts : s'.attemptsAt (deliveryKey webhookID messageID) =
    s.attemptsAt (deliveryKey webhookID messageID)
  rows : s'.rowsOf webhookID messageID = s.rowsOf webhookID messageID
  columns : s'.columns = s.columns
  clock : s.clock ≤ s'.clock

theorem Same.refl (s : State) : Same webhookID messageID s s := ⟨rfl, rfl, rfl, le_rfl⟩

theorem Same.trans {s s' s'' : State} (h : Same webhookID messageID s s')
    (h' : Same webhookID messageID s' s'') : Same webhookID messageID s s'' :=
  ⟨h'.attempts.trans h.attempts, h'.rows.trans h.rows, h'.columns.trans h.columns,
    h.clock.trans h'.clock⟩

theorem same_tick (s : State) : Same webhookID messageID s s.tick.2 := by
  obtain ⟨t, env, h⟩ := s.tick_eq
  rw [h]
  exact ⟨rfl, rfl, rfl, by simp⟩

/-- A delivery is settled or not according to its attempts and its rows. -/
theorem Same.settled {maxAttempts : ℤ} {s s' : State} (h : Same webhookID messageID s s') :
    Settled maxAttempts webhookID messageID s' ↔ Settled maxAttempts webhookID messageID s := by
  constructor
  · rintro ⟨h₁, h₂, h₃, h₄, h₅, h₆⟩
    rw [h.attempts] at h₁ h₂ h₃ h₄ h₅ h₆
    rw [h.rows] at h₆
    exact ⟨h₁, h₂, h₃, h₄, h₅, h₆⟩
  · rintro ⟨h₁, h₂, h₃, h₄, h₅, h₆⟩
    rw [← h.attempts] at h₁ h₂ h₃ h₄ h₅ h₆
    rw [← h.rows] at h₆
    exact ⟨h₁, h₂, h₃, h₄, h₅, h₆⟩

/-- A command has nothing to do with a delivery. -/
def Aside (webhookID messageID : String) : {β : Type} → WebhookCmd β → Prop
  | _, .now | _, .find _ => True
  | _, .put key _ | _, .post key _ => key ≠ deliveryKey webhookID messageID
  | _, .createDelivery d => ¬ (d.webhookID = webhookID ∧ d.messageID = messageID)
  | _, .activeWebhooks _ _ => False

variable {α β : Type} {e : WebhookCmd β}

theorem Aside.succeeds {maxAttempts : ℤ} (he : Aside webhookID messageID e) (s : State) :
    Succeeds maxAttempts webhookID messageID e s := by
  cases e with
  | now | find _ | put _ _ => trivial
  | post key req => exact fun hkey => absurd hkey he
  | createDelivery d => exact fun hd => absurd hd he
  | activeWebhooks _ _ => exact he.elim

/-- A row of another delivery. -/
theorem same_insertDelivery {d : WebhookDelivery}
    (hd : ¬ (d.webhookID = webhookID ∧ d.messageID = messageID)) (s : State) :
    Same webhookID messageID s (s.insertDelivery d).2 := by
  unfold State.insertDelivery
  split
  · exact .refl s
  · refine ⟨rfl, ?_, rfl, le_rfl⟩
    rw [State.rowsOf, List.filter_append, List.filter_singleton, decide_eq_false hd]
    exact List.append_nil _

/-- **A command that has nothing to do with a delivery leaves it alone.** -/
theorem Aside.same (he : Aside webhookID messageID e) (s : State) :
    Same webhookID messageID s (perform e s).2 ∧
      (perform e s).2.deliveries (deliveryKey webhookID messageID) =
        s.deliveries (deliveryKey webhookID messageID) := by
  cases e with
  | now => exact ⟨same_tick s, by simp [perform]⟩
  | find _ => exact ⟨.refl s, rfl⟩
  | put key state => exact ⟨⟨rfl, rfl, rfl, le_rfl⟩, Function.update_of_ne (Ne.symm he) _ _⟩
  | post key req =>
    have hkey : key ≠ deliveryKey webhookID messageID := he
    refine ⟨(same_tick s).trans ⟨?_, rfl, rfl, le_rfl⟩, by simp [perform]⟩
    simp [perform, State.attemptsAt, List.filter_append, hkey]
  | createDelivery d =>
    refine query_inv (I := fun s' => Same webhookID messageID s s' ∧ s'.deliveries _ = _)
      ⟨same_tick s, by simp⟩ ⟨(same_tick s).trans (same_insertDelivery he _), ?_⟩
    unfold State.insertDelivery
    split <;> simp
  | activeWebhooks _ _ => exact he.elim

/-- **So does a program of such commands.** -/
theorem same_exec {p : WebhookProg α} (hp : p.Only (Aside webhookID messageID)) (s : State) :
    Same webhookID messageID s (p.exec outside s).state ∧
      (p.exec outside s).state.deliveries (deliveryKey webhookID messageID) =
        s.deliveries (deliveryKey webhookID messageID) := by
  refine hp.exec_inv (I := fun s' => Same webhookID messageID s s' ∧
    s'.deliveries (deliveryKey webhookID messageID) =
      s.deliveries (deliveryKey webhookID messageID)) (fun e s' he hs => ?_) ⟨.refl s, rfl⟩
  obtain ⟨hsame, hknown⟩ := he.same s'
  exact ⟨hs.1.trans hsame, hknown.trans hs.2⟩

theorem succeeds_exec {maxAttempts : ℤ} {p : WebhookProg α}
    (hp : p.Only (Aside webhookID messageID)) (s : State) :
    p.EachStep outside (Succeeds maxAttempts webhookID messageID) s :=
  hp.eachStep (I := fun _ => True) (fun _ s he _ => he.succeeds s) (fun _ _ _ => trivial) trivial

end Steps

/-! ## One delivery -/

section Delivery

variable {svc : Services} {webhook : Webhook} {payload : Payload} {webhookID : String} {s : State}
  {maxAttempts : ℤ}

theorem truncateString_of_le {b : Bytes} {maxLen : ℕ} (h : b.length ≤ maxLen) :
    truncateString b maxLen = b := if_pos h

/-- What is told is short enough for a row. -/
theorem Tells.truncate {reply : Except String HttpResponse} {status : Bytes}
    (h : Tells reply status) : Tells reply (truncateString status 200) := by
  refine ⟨fun haccepted => ?_, fun hnot => ?_⟩
  · rw [h.1 haccepted]
    exact truncateString_of_le (by decide)
  · rw [h.2 hnot]
    exact truncateString_of_le (by decide)

theorem deliveryKey_ne {messageID : String} (h : webhook.id ≠ webhookID) :
    deliveryKey webhook.id messageID ≠ deliveryKey webhookID messageID := by
  intro hkey
  unfold deliveryKey at hkey
  exact h ((String.append_left_inj _).1 ((String.append_left_inj _).1 hkey))

theorem recordAttempt_aside {messageID : String} (state : DeliveryState) (result : DispatchResult) :
    (recordAttempt svc state result).Only (Aside webhookID messageID) := by
  refine ⟨trivial, fun lastAttempt => ?_⟩
  dsimp only
  split
  · split_ifs
    · exact ⟨trivial, fun now => trivial⟩
    · trivial
  · trivial

/-- What is said of an attempt after which there is none. -/
theorem recordAttempt_status (state : DeliveryState) (result : DispatchResult) (s : State) :
    (result.err = none → ((recordAttempt svc state result).exec outside s).val.lastStatus =
        bytes "delivered") ∧
      (result.err ≠ none → svc.cfg.maxAttempts ≤ state.attempts + 1 →
        ((recordAttempt svc state result).exec outside s).val.lastStatus =
          bytes "dead_letter") := by
  cases herr : result.err with
  | none =>
    refine ⟨fun _ => ?_, fun h => absurd rfl h⟩
    simp only [recordAttempt, Prog.call_bind, Prog.exec_act, herr]
    rfl
  | some err =>
    refine ⟨nofun, fun _ hmax => ?_⟩
    have hnot : ¬ ((state.attempts + 1 : ℕ) : ℤ) < svc.cfg.maxAttempts := by
      push_cast
      omega
    simp only [recordAttempt, Prog.call_bind, Prog.exec_act, herr, if_neg hnot]
    rfl

/-- A new delivery is due at once. -/
theorem loadDelivery_spec (h : s.deliveries (deliveryKey webhook.id payload.messageID) = none) :
    let r := (loadDelivery webhook payload).exec outside s
    Same webhook.id payload.messageID s r.state ∧
      r.state.deliveries (deliveryKey webhook.id payload.messageID) = some r.val ∧
      r.val.attempts = 0 ∧ r.val.nextRetry ≤ r.state.clock := by
  have hfind : (outside.step (.find (deliveryKey webhook.id payload.messageID)) s) = (none, s) :=
    Prod.ext h rfl
  simp only [loadDelivery, Prog.call_bind, Prog.exec_act, hfind]
  refine ⟨(same_tick s).trans ⟨rfl, rfl, rfl, le_rfl⟩, ?_, rfl, le_rfl⟩
  exact Function.update_self _ _ _

theorem loadDelivery_succeeds (s : State) : (loadDelivery webhook payload).EachStep outside
    (Succeeds maxAttempts webhookID payload.messageID) s := by
  simp only [loadDelivery, Prog.call_bind]
  refine ⟨trivial, ?_⟩
  dsimp only
  split
  · trivial
  · exact ⟨trivial, trivial, trivial⟩

/-- An attempt has been made at a delivery, no earlier than at the beginning. -/
structure Made (webhookID messageID : String) (s : State) (a : Attempt) (s' : State) : Prop where
  attempts : s'.attemptsAt (deliveryKey webhookID messageID) =
    s.attemptsAt (deliveryKey webhookID messageID) ++ [a]
  due : a.due = (s.deliveries (deliveryKey webhookID messageID)).map DeliveryState.nextRetry
  time : s.clock ≤ a.time
  rows : s'.rowsOf webhookID messageID = s.rowsOf webhookID messageID

/-- The attempt was made with a context that was alive, and needs no further one. -/
def Attempt.Final (maxAttempts : ℤ) (a : Attempt) : Prop :=
  a.alive = true ∧ (Accepted a.reply ∨ maxAttempts ≤ 1)

/-- A request is an attempt. -/
theorem post_spec {messageID : String} (req : HttpRequest) (s : State) :
    ∃ a : Attempt, Made webhookID messageID s a
        (perform (.post (deliveryKey webhookID messageID) req) s).2 ∧
      a.reply = (perform (.post (deliveryKey webhookID messageID) req) s).1 ∧
      (Succeeds maxAttempts webhookID messageID (.post (deliveryKey webhookID messageID) req) s ↔
        a.Final maxAttempts) := by
  have hsame : Same webhookID messageID s s.tick.2 := same_tick s
  refine ⟨⟨deliveryKey webhookID messageID,
    (s.tick.2.deliveries (deliveryKey webhookID messageID)).map DeliveryState.nextRetry,
    s.tick.2.clock, s.tick.2.alive, (perform (.post (deliveryKey webhookID messageID) req) s).1⟩,
    ⟨?_, by rw [State.tick_deliveries], hsame.clock, hsame.rows⟩, rfl, ?_⟩
  · rw [← hsame.attempts, perform, State.attemptsAt, List.filter_append]
    simp [State.attemptsAt]
  · constructor
    · intro h
      obtain ⟨halive, hreply⟩ := h rfl
      refine ⟨halive, ?_⟩
      simpa only [perform, halive, if_true] using hreply
    · rintro ⟨halive, hreply⟩ -
      have halive' : s.tick.2.alive = true := halive
      refine ⟨halive', ?_⟩
      simpa only [perform, halive', if_true] using hreply

/-- There is something to send, and somewhere to send it. -/
def Sendable (svc : Services) (webhook : Webhook) (payload : Payload) : Prop :=
  (∃ body, svc.marshal payload = .ok body) ∧ svc.urlError webhook.url = none

/-- Otherwise no attempt is made. -/
theorem dispatch_aside {messageID : String} (h : ¬ Sendable svc webhook payload) :
    (dispatch svc webhook payload).Only (Aside webhookID messageID) := by
  unfold dispatch
  cases hmarshal : svc.marshal payload with
  | error _ => trivial
  | ok body =>
    cases hurl : svc.urlError webhook.url with
    | some e => trivial
    | none => exact absurd ⟨⟨body, hmarshal⟩, hurl⟩ h

theorem resultOf_err (reply : Except String HttpResponse) :
    (resultOf reply).err = none ↔ Accepted reply := by
  cases reply with
  | error e => exact ⟨nofun, nofun⟩
  | ok resp => simp [resultOf, Accepted]

/-- **An attempt that reaches for the server of the webhook.** -/
theorem dispatch_spec (h : Sendable svc webhook payload) (s : State) :
    ∃ a : Attempt, Made webhook.id payload.messageID s a
        ((dispatch svc webhook payload).exec outside s).state ∧
      (((dispatch svc webhook payload).exec outside s).val.err = none ↔ Accepted a.reply) ∧
      ((dispatch svc webhook payload).EachStep outside
        (Succeeds maxAttempts webhook.id payload.messageID) s ↔ a.Final maxAttempts) := by
  obtain ⟨⟨body, hmarshal⟩, hurl⟩ := h
  have hsame : Same webhook.id payload.messageID s s.tick.2 := same_tick s
  obtain ⟨a, hmade, hreply, hfinal⟩ := @post_spec webhook.id maxAttempts payload.messageID
    (request svc webhook body s.tick.2.clock) s.tick.2
  simp only [dispatch, hmarshal, hurl, Prog.call_bind]
  refine ⟨a, ⟨hmade.attempts.trans (by rw [hsame.attempts]), ?_, hsame.clock.trans hmade.time,
    hmade.rows.trans hsame.rows⟩, ?_, ?_⟩
  · rw [hmade.due, State.tick_deliveries]
  · rw [hreply]
    exact resultOf_err _
  · rw [← hfinal]
    exact ⟨fun h => h.2.1, fun h => ⟨trivial, h, trivial⟩⟩

/-- There has been one attempt at a delivery, and no row says what came of it. -/
structure Unreported (webhookID messageID : String) (a : Attempt) (s : State) : Prop where
  attempts : s.attemptsAt (deliveryKey webhookID messageID) = [a]
  due : ∀ t ∈ a.due, t ≤ a.time
  rows : s.rowsOf webhookID messageID = []

/-- **The first attempt at a delivery**, and what is known of it afterwards. -/
theorem dispatchWithRetry_spec (h : Sendable svc webhook payload)
    (hs : Fresh webhook.id payload.messageID s) :
    let r := (dispatchWithRetry svc webhook payload).exec outside s
    ∃ a : Attempt, Unreported webhook.id payload.messageID a r.state ∧
      (Accepted a.reply ∨ svc.cfg.maxAttempts ≤ 1 → Tells a.reply r.val.lastStatus) ∧
      ((dispatchWithRetry svc webhook payload).EachStep outside
        (Succeeds svc.cfg.maxAttempts webhook.id payload.messageID) s ↔
          a.Final svc.cfg.maxAttempts) := by
  intro r
  obtain ⟨hsame, hknown, hattempts, hdue⟩ := loadDelivery_spec hs.unknown
  generalize hload : (loadDelivery webhook payload).exec outside s = load
    at hsame hknown hattempts hdue
  obtain ⟨a, hmade, herr, hfinal⟩ := @dispatch_spec svc webhook payload svc.cfg.maxAttempts h
    load.state
  generalize hdispatch : (dispatch svc webhook payload).exec outside load.state = made at hmade herr
  have haside := @recordAttempt_aside svc webhook.id payload.messageID load.val made.val
  obtain ⟨hrecord, -⟩ := same_exec haside made.state
  obtain ⟨hdelivered, hdead⟩ := @recordAttempt_status svc load.val made.val made.state
  generalize hrecorded : (recordAttempt svc load.val made.val).exec outside made.state = last
    at hrecord hdelivered hdead
  have hr : Unreported webhook.id payload.messageID a last.state →
      Unreported webhook.id payload.messageID a r.state ∧ r.val = last.val := by
    intro hunreported
    simp only [r, dispatchWithRetry, Prog.exec_bind, hload, hdispatch, hrecorded]
    exact ⟨⟨hunreported.attempts, hunreported.due, hunreported.rows⟩, rfl⟩
  have hunreported : Unreported webhook.id payload.messageID a last.state := by
    refine ⟨?_, fun t ht => ?_, ?_⟩
    · rw [hrecord.attempts, hmade.attempts, hsame.attempts, hs.unattempted, List.nil_append]
    · rw [hmade.due, hknown] at ht
      obtain rfl := Option.some.inj ht
      exact hdue.trans hmade.time
    · rw [hrecord.rows, hmade.rows, hsame.rows, hs.unnoted]
  refine ⟨a, (hr hunreported).1, ?_, ?_⟩
  · intro hfinal
    rw [(hr hunreported).2]
    refine ⟨fun haccepted => hdelivered (herr.2 haccepted), fun hnot => ?_⟩
    refine hdead (fun hnone => hnot (herr.1 hnone)) ?_
    rw [hattempts]
    simpa using hfinal.resolve_left hnot
  · rw [← hfinal, dispatchWithRetry]
    simp only [Prog.eachStep_bind, hload, hdispatch]
    refine ⟨fun h => h.2.1, fun h => ⟨loadDelivery_succeeds s, h, succeeds_exec haside _, ?_⟩⟩
    exact ⟨⟨trivial, trivial⟩, trivial⟩

/-- A row is inserted if the statement succeeds. -/
theorem createDelivery_spec {messageID : String} {d : WebhookDelivery}
    (hd : d.webhookID = webhookID ∧ d.messageID = messageID) (s : State) :
    (perform (.createDelivery d) s).2.attemptsAt (deliveryKey webhookID messageID) =
        s.attemptsAt (deliveryKey webhookID messageID) ∧
      (Succeeds maxAttempts webhookID messageID (.createDelivery d) s →
        (perform (.createDelivery d) s).2.rowsOf webhookID messageID =
          s.rowsOf webhookID messageID ++ [d]) ∧
      (¬ Succeeds maxAttempts webhookID messageID (.createDelivery d) s →
        (perform (.createDelivery d) s).2.rowsOf webhookID messageID =
          s.rowsOf webhookID messageID) := by
  have hsame : Same webhookID messageID s s.tick.2 := same_tick s
  have hcolumns : insertColumns.find? (· ∉ s.tick.2.columns) = none ↔
      insertColumns ⊆ s.columns := by
    rw [hsame.columns, List.find?_eq_none]
    simp [List.subset_def]
  refine ⟨query_inv (I := fun s' => s'.attemptsAt _ = s.attemptsAt _) hsame.attempts ?_, ?_, ?_⟩
  · unfold State.insertDelivery
    split
    · exact hsame.attempts
    · exact hsame.attempts
  · intro h
    obtain ⟨halive, hrefused, hsub⟩ := h hd
    rw [perform, query_of_executed halive hrefused]
    simp only [State.insertDelivery, hcolumns.2 hsub]
    rw [State.rowsOf, List.filter_append, List.filter_singleton, decide_eq_true hd]
    exact congrArg (· ++ [d]) hsame.rows
  · intro h
    by_cases hexecuted : s.tick.2.alive = true ∧ s.tick.1.refused = none
    · rw [perform, query_of_executed hexecuted.1 hexecuted.2]
      unfold State.insertDelivery
      split
      · exact hsame.rows
      · exact absurd (fun _ => ⟨hexecuted.1, hexecuted.2, hcolumns.1 ‹_›⟩) h
    · obtain ⟨e, he⟩ := @query_of_failed _ (·.insertDelivery d) s hexecuted
      rw [perform, he]
      exact hsame.rows

/-- A delivery with one attempt is settled if this was the final one and a row says so. -/
theorem settled_of_one {messageID : String} {a : Attempt}
    (ha : s.attemptsAt (deliveryKey webhookID messageID) = [a]) (hdue : ∀ t ∈ a.due, t ≤ a.time) :
    Settled maxAttempts webhookID messageID s ↔ a.Final maxAttempts ∧
      ∃ d ∈ (s.rowsOf webhookID messageID).getLast?, Tells a.reply d.lastStatus := by
  constructor
  · rintro ⟨-, hverdict, -, -, halive, hnoted⟩
    rw [ha] at hverdict halive hnoted
    refine ⟨⟨halive a List.mem_cons_self, ?_⟩, ?_⟩
    · simpa [Verdict] using hverdict
    · simpa using hnoted
  · rintro ⟨⟨halive, hverdict⟩, hnoted⟩
    refine ⟨?_, ?_, ?_, ?_, ?_, ?_⟩
    · rw [ha]
      exact List.cons_ne_nil _ _
    · rw [ha]
      simpa [Verdict] using hverdict
    · rw [ha]
      intro n hn hpos
      rw [List.length_singleton] at hn
      omega
    · rw [ha]
      simpa using hdue
    · rw [ha]
      simpa using halive
    · rw [ha]
      simpa using hnoted

theorem not_settled {messageID : String}
    (h : s.attemptsAt (deliveryKey webhookID messageID) = []) :
    ¬ Settled maxAttempts webhookID messageID s := fun hsettled => hsettled.attempted h

/-- If nothing can be sent, no attempt is made at the delivery. -/
theorem deliverOne_unattempted (h : ¬ Sendable svc webhook payload)
    (hs : Fresh webhook.id payload.messageID s) :
    ((deliverOne svc payload webhook).exec outside s).state.attemptsAt
      (deliveryKey webhook.id payload.messageID) = [] := by
  obtain ⟨hsame, -⟩ := loadDelivery_spec hs.unknown
  simp only [deliverOne, dispatchWithRetry, Prog.exec_bind]
  generalize (loadDelivery webhook payload).exec outside s = load at hsame
  have hdispatch := (same_exec (@dispatch_aside svc webhook payload webhook.id payload.messageID h)
    load.state).1
  generalize (dispatch svc webhook payload).exec outside load.state = made at hdispatch
  have haside := @recordAttempt_aside svc webhook.id payload.messageID load.val made.val
  have hrecord := (same_exec haside made.state).1
  generalize (recordAttempt svc load.val made.val).exec outside made.state = noted at hrecord
  refine (@createDelivery_spec webhook.id 0 payload.messageID _ ⟨rfl, rfl⟩ _).1.trans ?_
  refine ((same_tick _).attempts).trans ?_
  refine (hrecord.attempts).trans (hdispatch.attempts.trans (hsame.attempts.trans hs.unattempted))

/-- One attempt is made at most. -/
theorem deliverOne_attempts (hs : Fresh webhook.id payload.messageID s) :
    (((deliverOne svc payload webhook).exec outside s).state.attemptsAt
      (deliveryKey webhook.id payload.messageID)).length ≤ 1 := by
  by_cases hsend : Sendable svc webhook payload
  · obtain ⟨a, hunreported, -⟩ := dispatchWithRetry_spec hsend hs
    rw [deliverOne, Prog.exec_bind]
    generalize (dispatchWithRetry svc webhook payload).exec outside s = r at hunreported
    have hnow : Same webhook.id payload.messageID r.state r.state.tick.2 := same_tick _
    have hcreated := (@createDelivery_spec webhook.id 0 payload.messageID
      (deliveryRow payload webhook r.val r.state.tick.2.clock) ⟨rfl, rfl⟩ r.state.tick.2).1
    exact (congrArg List.length (hcreated.trans (hnow.attempts.trans hunreported.attempts))).le
  · rw [deliverOne_unattempted hsend hs]
    exact Nat.zero_le _

/-- **When a delivery is settled.** -/
theorem deliverOne_iff (hs : Fresh webhook.id payload.messageID s) :
    Settled svc.cfg.maxAttempts webhook.id payload.messageID
        ((deliverOne svc payload webhook).exec outside s).state ↔
      Sendable svc webhook payload ∧ (deliverOne svc payload webhook).EachStep outside
        (Succeeds svc.cfg.maxAttempts webhook.id payload.messageID) s := by
  by_cases hsend : Sendable svc webhook payload
  swap
  · exact iff_of_false (not_settled (deliverOne_unattempted hsend hs)) fun h => hsend h.1
  obtain ⟨a, hunreported, htells, hfinal⟩ := dispatchWithRetry_spec hsend hs
  rw [and_iff_right hsend, deliverOne, Prog.eachStep_bind, hfinal, Prog.exec_bind]
  generalize (dispatchWithRetry svc webhook payload).exec outside s = r at hunreported htells
  have hnow : Same webhook.id payload.messageID r.state r.state.tick.2 := same_tick _
  obtain ⟨hattempts, hinserted, hrefused⟩ := @createDelivery_spec webhook.id svc.cfg.maxAttempts
    payload.messageID (deliveryRow payload webhook r.val r.state.tick.2.clock) ⟨rfl, rfl⟩
    r.state.tick.2
  simp only [Prog.call_bind, Prog.exec_act]
  refine (settled_of_one (hattempts.trans (hnow.attempts.trans hunreported.attempts))
    hunreported.due).trans ?_
  refine and_congr_right fun hlast => ?_
  by_cases hinsert : Succeeds svc.cfg.maxAttempts webhook.id payload.messageID
      (.createDelivery (deliveryRow payload webhook r.val r.state.tick.2.clock)) r.state.tick.2
  · refine iff_of_true ⟨deliveryRow payload webhook r.val r.state.tick.2.clock, ?_,
      (htells hlast.2).truncate⟩ ⟨trivial, hinsert, trivial⟩
    have hrow := hinserted hinsert
    rw [hnow.rows, hunreported.rows] at hrow
    exact congrArg List.getLast? hrow
  · refine iff_of_false ?_ fun h => hinsert h.2.1
    rintro ⟨d, hd, -⟩
    have hnone := hrefused hinsert
    rw [hnow.rows, hunreported.rows] at hnone
    have hlast := (congrArg List.getLast? hnone).symm.trans hd
    cases hlast

/-! ## All deliveries -/

theorem deliverOne_aside (h : webhook.id ≠ webhookID) :
    (deliverOne svc payload webhook).Only (Aside webhookID payload.messageID) := by
  have hkey : deliveryKey webhook.id payload.messageID ≠ deliveryKey webhookID payload.messageID :=
    deliveryKey_ne h
  have hload : (loadDelivery webhook payload).Only (Aside webhookID payload.messageID) := by
    refine ⟨trivial, fun known => ?_⟩
    cases known with
    | some state => trivial
    | none => exact ⟨trivial, fun now => ⟨hkey, fun _ => trivial⟩⟩
  have hdispatch : (dispatch svc webhook payload).Only (Aside webhookID payload.messageID) := by
    unfold dispatch
    cases svc.marshal payload with
    | error e => trivial
    | ok body =>
      cases svc.urlError webhook.url with
      | some e => trivial
      | none => exact ⟨trivial, fun now => ⟨hkey, fun reply => trivial⟩⟩
  have hretry : (dispatchWithRetry svc webhook payload).Only
      (Aside webhookID payload.messageID) :=
    hload.bind fun state => hdispatch.bind fun result =>
      (recordAttempt_aside state result).bind fun state => ⟨hkey, fun _ => trivial⟩
  exact hretry.bind fun state => ⟨trivial, fun now => ⟨fun hrow => h hrow.1, fun _ => trivial⟩⟩

theorem deliverAll_aside {webhooks : List Webhook} (h : ∀ x ∈ webhooks, x.id ≠ webhookID) :
    (deliverAll svc payload webhooks).Only (Aside webhookID payload.messageID) := by
  induction webhooks with
  | nil => trivial
  | cons x webhooks ih =>
    obtain ⟨hx, hwebhooks⟩ := List.forall_mem_cons.1 h
    exact (deliverOne_aside hx).bind fun _ => ih hwebhooks

/-- **Each of some webhooks is told once**, and the others make no difference to it. -/
theorem deliverAll_once {webhooks : List Webhook} (hids : (webhooks.map Webhook.id).Nodup)
    (hwebhook : webhook ∈ webhooks) (hs : Fresh webhook.id payload.messageID s) :
    ∃ s₁, Fresh webhook.id payload.messageID s₁ ∧
      Same webhook.id payload.messageID ((deliverOne svc payload webhook).exec outside s₁).state
        ((deliverAll svc payload webhooks).exec outside s).state ∧
      ((deliverAll svc payload webhooks).EachStep outside
          (Succeeds maxAttempts webhook.id payload.messageID) s ↔
        (deliverOne svc payload webhook).EachStep outside
          (Succeeds maxAttempts webhook.id payload.messageID) s₁) := by
  induction webhooks generalizing s with
  | nil => cases hwebhook
  | cons x webhooks ih =>
    rw [List.map_cons, List.nodup_cons] at hids
    rw [deliverAll, Prog.exec_bind, Prog.eachStep_bind]
    rcases List.mem_cons.1 hwebhook with rfl | hlater
    · -- it comes first, and the others are others
      have hothers : ∀ x ∈ webhooks, x.id ≠ webhook.id := fun x hx hid =>
        hids.1 (List.mem_map.2 ⟨x, hx, hid⟩)
      have haside := @deliverAll_aside svc payload webhook.id webhooks hothers
      exact ⟨s, hs, (same_exec haside _).1, and_iff_left (succeeds_exec haside _)⟩
    · have hne : x.id ≠ webhook.id := fun hid => hids.1 (List.mem_map.2 ⟨webhook, hlater, hid.symm⟩)
      have haside := @deliverOne_aside svc x payload webhook.id hne
      obtain ⟨hsame, hknown⟩ := same_exec haside s
      obtain ⟨s₁, hs₁, hrest, hsteps⟩ := ih hids.2 hlater ⟨hknown.trans hs.unknown,
        hsame.attempts.trans hs.unattempted, hsame.rows.trans hs.unnoted⟩
      exact ⟨s₁, hs₁, hrest, (and_iff_right (succeeds_exec haside s)).trans hsteps⟩

end Delivery

section Dispatched

variable {svc : Services} {msg : QueueMessage} {result : DeliveryConf.ConfidenceResult} {s : State}
  {webhook : Webhook} {maxAttempts : ℤ}

/-- Without the webhooks nothing is done. -/
theorem dispatchWebhooks_unread (hread : ¬ (s.tick.2.alive = true ∧ s.tick.1.refused = none)) :
    ((dispatchWebhooks svc msg result).exec outside s).state = s.tick.2 := by
  obtain ⟨e, he⟩ := @query_of_failed _ (·.readWebhooks msg.accountID "message.delivered") s hread
  have hreply : outside.step (.activeWebhooks msg.accountID "message.delivered") s =
      (.error e, s.tick.2) := he
  simp only [dispatchWebhooks, Prog.call_bind, Prog.exec_act, hreply]
  rfl

/-- **Each webhook of the account that is told of deliveries is told once**, if the webhooks can be
read. -/
theorem dispatchWebhooks_once (hids : (s.webhooks.map Webhook.id).Nodup)
    (hwebhook : webhook ∈ s.webhooks)
    (hears : webhook.hears msg.accountID "message.delivered" = true)
    (hs : Fresh webhook.id msg.id s) (hread : s.tick.2.alive = true ∧ s.tick.1.refused = none) :
    ∃ payload : Payload, payload.messageID = msg.id ∧ ∃ s₁, Fresh webhook.id msg.id s₁ ∧
      Same webhook.id msg.id ((deliverOne svc payload webhook).exec outside s₁).state
        ((dispatchWebhooks svc msg result).exec outside s).state ∧
      ((dispatchWebhooks svc msg result).EachStep outside
          (Succeeds maxAttempts webhook.id msg.id) s ↔
        (deliverOne svc payload webhook).EachStep outside
          (Succeeds maxAttempts webhook.id msg.id) s₁) := by
  have hreply : outside.step (.activeWebhooks msg.accountID "message.delivered") s =
      (.ok (s.webhooks.filter (·.hears msg.accountID "message.delivered")), s.tick.2) := by
    change query s (·.readWebhooks msg.accountID "message.delivered") = _
    rw [query_of_executed hread.1 hread.2, State.readWebhooks, State.tick_webhooks]
  have hmem : webhook ∈ s.webhooks.filter (·.hears msg.accountID "message.delivered") :=
    List.mem_filter.2 ⟨hwebhook, hears⟩
  have hsome : s.webhooks.filter (·.hears msg.accountID "message.delivered") ≠ [] :=
    List.ne_nil_of_mem hmem
  have hnodup : ((s.webhooks.filter (·.hears msg.accountID "message.delivered")).map
      Webhook.id).Nodup := hids.sublist (List.filter_sublist.map Webhook.id)
  obtain ⟨s₁, hs₁, hsame, hsteps⟩ := @deliverAll_once svc webhook
    { deliveredPayload msg result with timestamp := s.tick.2.tick.2.clock } s.tick.2.tick.2
    maxAttempts _ hnodup hmem hs.tick.tick
  refine ⟨{ deliveredPayload msg result with timestamp := s.tick.2.tick.2.clock }, rfl, s₁, hs₁,
    ?_, ?_⟩
  · simp only [dispatchWebhooks, Prog.call_bind, Prog.exec_act, hreply, if_neg hsome]
    exact hsame
  · simp only [dispatchWebhooks, Prog.call_bind, Prog.EachStep, hreply, if_neg hsome]
    exact ⟨fun h => hsteps.1 h.2.2, fun h => ⟨hread, trivial, hsteps.2 h⟩⟩

/-- **No webhook is tried twice**, whatever comes of it. -/
theorem length_attemptsAt_le (hids : (s.webhooks.map Webhook.id).Nodup)
    (hwebhook : webhook ∈ s.webhooks)
    (hears : webhook.hears msg.accountID "message.delivered" = true)
    (hs : Fresh webhook.id msg.id s) :
    (((dispatchWebhooks svc msg result).exec outside s).state.attemptsAt
      (deliveryKey webhook.id msg.id)).length ≤ 1 := by
  by_cases hread : s.tick.2.alive = true ∧ s.tick.1.refused = none
  · obtain ⟨payload, hid, s₁, hs₁, hsame, -⟩ := @dispatchWebhooks_once svc msg result s webhook 0
      hids hwebhook hears hs hread
    rw [hsame.attempts]
    rw [← hid] at hs₁ ⊢
    exact deliverOne_attempts hs₁
  · rw [dispatchWebhooks_unread hread, hs.tick.unattempted]
    exact Nat.zero_le _

/-- **A delivery is settled exactly if** the URL is one and every step of the delivery succeeds: the
webhooks are read, the first request is answered with a status below 300, unless one attempt is
enough, and the row is inserted, all with a context that is still alive. -/
theorem settled_iff_succeeds (hmarshal : ∀ payload, ∃ body, svc.marshal payload = .ok body)
    (hids : (s.webhooks.map Webhook.id).Nodup) (hwebhook : webhook ∈ s.webhooks)
    (hears : webhook.hears msg.accountID "message.delivered" = true)
    (hs : Fresh webhook.id msg.id s) :
    Settled svc.cfg.maxAttempts webhook.id msg.id
        ((dispatchWebhooks svc msg result).exec outside s).state ↔
      svc.urlError webhook.url = none ∧ (dispatchWebhooks svc msg result).EachStep outside
        (Succeeds svc.cfg.maxAttempts webhook.id msg.id) s := by
  by_cases hread : s.tick.2.alive = true ∧ s.tick.1.refused = none
  · obtain ⟨payload, hid, s₁, hs₁, hsame, hsteps⟩ := @dispatchWebhooks_once svc msg result s webhook
      svc.cfg.maxAttempts hids hwebhook hears hs hread
    rw [hsame.settled, hsteps]
    rw [← hid] at hs₁ ⊢
    exact (deliverOne_iff hs₁).trans (and_congr_left' (and_iff_right (hmarshal payload)))
  · rw [dispatchWebhooks_unread hread]
    exact iff_of_false (not_settled hs.tick.unattempted) fun h => hread h.2.1

/-! ## A webhook that is told once -/

/-- A dispatcher with the values that stand in for missing ones. The texts are those of the only
message. -/
def onePayload : Services where
  cfg := ⟨5, 60000000000, 1800000000000⟩
  marshal _ := .ok (bytes ("\x7b\"event\":\"message.delivered\",\"message_id\":\"message-1\"," ++
    "\"recipient\":\"+919999999999\",\"sender\":\"AeroXe Bee\"," ++
    "\"message_type\":\"transactional\",\"delivery_status\":\"PROBABLE_DELIVERED\"," ++
    "\"confidence_score\":1,\"timestamp\":\"1970-01-01T00:00:00Z\"\x7d"))
  signPayload _ _ := "7d11068b6467956b6a503be6f074f11cdf09aedfaca999d42e1ae7ef7ddd4cea"
  urlError _ := none

/-- The webhook of a shop. -/
def shop : Webhook where
  id := "webhook-1"
  accountID := "account-1"
  url := "https://shop.example/delivered"
  events := ["message.delivered"]
  secret := "secret"
  active := true

/-- A dispatcher that has only this webhook to tell. -/
def oneWebhook (env : List Tick) : State where
  clock := 0
  deadline := 30000000000
  cancelled := false
  webhooks := [shop]
  columns := "id" :: insertColumns
  webhookDeliveries := []
  deliveries _ := none
  attempts := []
  env := env

/-- How sure the server is of the message. -/
def sure : DeliveryConf.ConfidenceResult := ⟨1, .probableDelivered, ⟨1, 0, 0⟩⟩

/-- A tick at which the server of the webhook would answer with a status. -/
def answering (statusCode : ℤ) : Tick := { Tick.quiet with reply := .ok ⟨statusCode, []⟩ }

/-- The webhook answers at once, while the worker is still busy. -/
theorem settled_atOnce : Settled 5 shop.id greeting.id
    ((dispatchWebhooks onePayload greeting sure).exec outside
      (oneWebhook (List.replicate 8 (answering 200)))).state :=
  (@settled_iff_succeeds onePayload greeting sure (oneWebhook (List.replicate 8 (answering 200)))
    shop (fun _ => ⟨_, rfl⟩) (by decide) List.mem_cons_self (by decide) ⟨rfl, rfl, rfl⟩).2
    ⟨rfl, by decide⟩

/-- The server of the webhook fails once, or the worker is done before the request is made. No
further attempt is made. -/
theorem unsettled_afterOne :
    (¬ Settled 5 shop.id greeting.id ((dispatchWebhooks onePayload greeting sure).exec outside
      (oneWebhook (List.replicate 5 (answering 500) ++ List.replicate 4 (answering 200)))).state) ∧
    ¬ Settled 5 shop.id greeting.id ((dispatchWebhooks onePayload greeting sure).exec outside
      (oneWebhook (List.replicate 3 (answering 200) ++
        List.replicate 5 { answering 200 with cancelled := true }))).state := by
  constructor
  · intro h
    have hlast : ¬ ∃ a ∈ (((dispatchWebhooks onePayload greeting sure).exec outside
        (oneWebhook (List.replicate 5 (answering 500) ++
          List.replicate 4 (answering 200)))).state.attemptsAt
            (deliveryKey shop.id greeting.id)).getLast?, Accepted a.reply := by
      decide
    have hfew : ¬ (5 : ℤ) ≤ (((dispatchWebhooks onePayload greeting sure).exec outside
        (oneWebhook (List.replicate 5 (answering 500) ++
          List.replicate 4 (answering 200)))).state.attemptsAt
            (deliveryKey shop.id greeting.id)).length := by
      decide
    exact h.verdict.elim hlast hfew
  · intro h
    have halive : ¬ ∀ a ∈ ((dispatchWebhooks onePayload greeting sure).exec outside
        (oneWebhook (List.replicate 3 (answering 200) ++
          List.replicate 5 { answering 200 with cancelled := true }))).state.attemptsAt
            (deliveryKey shop.id greeting.id), a.alive = true := by
      decide
    exact halive h.alive

end Dispatched

end AeroxeBee.Dispatch.Webhooks
