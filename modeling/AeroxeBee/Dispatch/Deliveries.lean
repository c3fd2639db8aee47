import AeroxeBee.Dispatch.Sticky
import AeroxeBee.Foundations.History

/-!
# Commands that reach a device

A command to send a message can reach the device although the broker does not confirm it in time.
The loop of `processMessage` takes that for a failure and goes on with the next device, and a
message whose handler failed is tried again.

* `processMessage_keeps`: the rule for protocols that only look at what is published;
* `deliveries_onePhone`: one device is reached if no command was lost when another device is tried,
  and a message is tried again only after the attempt before has failed.
-/

namespace AeroxeBee.Dispatch

open Foundations

/-! ## What has been delivered -/

/-- A command to send the message. -/
def isSend (msgID : String) (payload : SMSCommand) : Bool :=
  payload.action = "send_sms" && payload.id = msgID

/-- It is noted on which topics the command to send a message was delivered, and whether the broker
confirmed it. -/
def noteDelivery (msgID : String) (_ : ℕ) {β : Type} (e : ServerCmd β) (w : World)
    (delivered : List (String × Bool)) : List (String × Bool) :=
  match e with
  | .publish topic payload =>
    if isSend msgID payload then
      match w.next.fault with
      | .none => delivered ++ [(topic, true)]
      | .refused _ => delivered
      | .lost _ => delivered ++ [(topic, false)]
    else delivered
  | _ => delivered

/-- **At most one device has received the command.** -/
def OnePhone (delivered : List (String × Bool)) : Prop :=
  ∀ x ∈ delivered, ∀ y ∈ delivered, ∀ device device' : String,
    x.1 = commandTopic device → y.1 = commandTopic device' → device = device'

/-- The event publishes a command to send the message, whatever the broker says. -/
def publishesSend (msgID : String) : Event ServerCmd → Bool
  | ⟨.publish _ payload, _⟩ => isSend msgID payload
  | _ => false

/-- An attempt has ended with an error. -/
def hasFailed (P : Dispatchers) (j : ℕ) : Bool :=
  match P.threads[j]? with
  | some (.ret (.error _)) => true
  | _ => false

/-- A command is published only if no command to another device was delivered without the broker
confirming it, and if every other attempt that has published the message has ended with an error. -/
def TriedAfterFailure (msgID : String) (P : Dispatchers) (delivered : List (String × Bool)) (i : ℕ)
    {β : Type} (e : ServerCmd β) : Prop :=
  match e with
  | .publish topic payload =>
    isSend msgID payload = true →
      (∀ x ∈ delivered, x.2 = false → x.1 = topic) ∧
        ∀ x ∈ P.log, x.1 ≠ i → publishesSend msgID x.2 = true → hasFailed P x.1 = true
  | _ => True

instance (msgID : String) (P : Dispatchers) (delivered : List (String × Bool)) (i : ℕ) {β : Type}
    (e : ServerCmd β) : Decidable (TriedAfterFailure msgID P delivered i e) := by
  unfold TriedAfterFailure
  split <;> infer_instance

/-! ## Protocols about what is published -/

/-- A protocol that only looks at what is published. -/
structure Publishing {S : Type} (R : Protocol ServerCmd S) : Prop where
  allows : ∀ (s : S) {β : Type} (e : ServerCmd β), Silent e → R.allows s e
  next : ∀ (s : S) {β : Type} (e : ServerCmd β) (b : β), Silent e → R.next s ⟨e, b⟩ = s

section Rule

variable {S : Type} {R : Protocol ServerCmd S} {cfg : Config} {scan : ContentScan}
  {msg : QueueMessage} {trying sent : S → Prop} {s : S}

theorem Publishing.silent (hR : Publishing R) {α : Type} {p : ServerProg α} (hp : p.Only Silent) :
    p.Keeps R (fun s' _ => s' = s) s :=
  Prog.Keeps.of_only hp (hR.allows s) (hR.next s)

theorem Publishing.idle (hR : Publishing R) {α : Type} {p : ServerProg α} (hp : p.Only Idle) :
    p.Keeps R (fun s' _ => s' = s) s :=
  hR.silent (hp.mono fun _ => Idle.silent)

/-- Until an attempt has ended it has published nothing with success. -/
def Attempted (trying sent : S → Prop) (s : S) (r : Except String Unit) : Prop :=
  match r with
  | .error _ => trying s
  | .ok () => trying s ∨ sent s

/-- What the protocol has to say of the one command that an attempt publishes. -/
structure Tells (R : Protocol ServerCmd S) (msg : QueueMessage) (trying sent : S → Prop) : Prop where
  allows : ∀ (s : S) (device : Device) (payload : SMSCommand), trying s →
    payload.action = "send_sms" → payload.id = msg.id →
      R.allows s (.publish (commandTopic device.id) payload)
  refused : ∀ (s : S) (topic : String) (payload : SMSCommand) (text : String), trying s →
    trying (R.next s ⟨.publish topic payload, .error text⟩)
  confirmed : ∀ (s : S) (topic : String) (payload : SMSCommand), trying s →
    sent (R.next s ⟨.publish topic payload, .ok ()⟩)

theorem trySend_keeps (hR : Publishing R) (htells : Tells R msg trying sent) (device : Device)
    (hs : trying s) :
    (trySend cfg msg device).Keeps R
      (fun s r => (r ≠ .ok () → trying s) ∧ (r = .ok () → sent s)) s := by
  refine trySend_keeps_of (J := sent) (K := trying) (fun s hs => ?_) (fun s hs => ?_)
    (fun s hs => ?_) (fun s hs => ?_) hs
  · refine ⟨hR.allows s _ trivial, fun connected _ => ?_⟩
    rwa [hR.next s .isConnected connected trivial]
  · refine ⟨hR.allows s _ trivial, fun now _ => ?_⟩
    rw [hR.next s .now now trivial]
    refine ⟨htells.allows s device _ hs rfl rfl, fun reply _ => ?_⟩
    rcases reply with text | ⟨⟩
    · exact ⟨fun _ => htells.refused s _ _ text hs, nofun⟩
    · exact ⟨fun h => absurd rfl h, fun _ => htells.confirmed s _ _ hs⟩
  · exact (hR.idle (recordFailed_idle device)).mono fun _ _ hsame => hsame ▸ hs
  · exact (hR.silent ((recordSent_quiet device).mono fun _ => Quiet.silent)).mono
      fun _ _ hsame => hsame ▸ hs

/-- An attempt with one device has published with success exactly if it says so. -/
theorem attempt_keeps (hR : Publishing R) (htells : Tells R msg trying sent) (device : Device)
    (hs : trying s) :
    (attempt cfg msg device).Keeps R
      (fun s a => (a ≠ .sent → trying s) ∧ (a = .sent → sent s)) s := by
  refine attempt_keeps_of (fun s hs => ?_) (fun s hs => ?_) hs
  · refine ⟨hR.allows s _ trivial, fun isOpen _ => ?_⟩
    rwa [hR.next s (.isOpen .device device.id) isOpen trivial]
  · refine attemptClosed_keeps_of (J := trying) (K := trying) (fun s hs => ?_) (fun s hs => ?_)
      (fun s hs => trySend_keeps hR htells device hs) hs
    · exact (hR.idle (checkRates_idle device)).mono fun _ _ hsame => hsame ▸ ⟨hs, fun _ => hs⟩
    · have hhealth : (checkHealth device).Only Silent := checkHealth_only trivial fun _ _ => trivial
      exact (hR.silent hhealth).mono fun _ _ hsame => hsame ▸ ⟨hs, fun _ => hs⟩

/-- **The rule for protocols that only look at what is published.** Nothing is published any more
once a command was published with success, and then the handler reports no error. -/
theorem processMessage_keeps (hR : Publishing R) (htells : Tells R msg trying sent) (hs : trying s) :
    (processMessage cfg scan msg).Keeps R (Attempted trying sent) s := by
  refine processMessage_keeps_of (I := trying) ?_ (fun d s hs => ?_) fun s r hs => ?_
  · exact (hR.idle candidates_idle).mono fun s' _ hs' => hs' ▸ hs
  · exact (attempt_keeps hR htells d hs).mono fun s' a ha => ⟨ha.1, fun hsent => .inr (ha.2 hsent)⟩
  · cases r with
    | error text => exact hs
    | ok => exact .inl hs

end Rule

/-! ## Runs -/

/-- The protocol of an attempt. It is noted whether the broker has confirmed a command for the message,
and nothing is published after that. -/
def confirming (msgID : String) : Protocol ServerCmd Bool where
  allows s _ e :=
    match e with
    | .publish _ _ => s = false
    | _ => True
  expects _ := True
  next s ev := s || sends msgID ev

theorem confirming_publishing (msgID : String) : Publishing (confirming msgID) where
  allows s β e he := by
    cases e with
    | publish topic payload => exact he.elim
    | _ => trivial
  next s β e b he := by
    cases e with
    | publish topic payload => exact he.elim
    | _ => exact Bool.or_false s

theorem confirming_tells (msgID : String) (msg : QueueMessage) :
    Tells (confirming msgID) msg (fun s => s = false) fun _ => True where
  allows _ _ _ hs _ _ := hs
  refused s topic payload text hs := by
    rw [hs]
    rfl
  confirmed _ _ _ _ := trivial

/-- An attempt that fails has had no command confirmed. -/
def EndsUnconfirmed (s : Bool) (r : Except String Unit) : Prop := r.isOk = false → s = false

theorem attempts_phased (cfg : Config) (scan : ContentScan) (msgID : String) :
    Pool.Phased (processMessage cfg scan) (fun _ => confirming msgID) (fun _ => EndsUnconfirmed)
      (confirming msgID).next false where
  next_eq _ := rfl
  expects _ _ := trivial
  keeps msg := by
    refine (processMessage_keeps (confirming_publishing msgID) (confirming_tells msgID msg)
      rfl).mono fun s r hr hfailed => ?_
    cases r with
    | error text => exact hr
    | ok => cases hfailed

/-- What holds as long as messages are tried again only after a failure. -/
structure OneTopic (msgID : String) (P : Dispatchers) (delivered : List (String × Bool)) : Prop where
  same : ∀ x ∈ delivered, ∀ y ∈ delivered, x.1 = y.1
  /-- What was confirmed is known to the attempt that published it. -/
  known : ∀ x ∈ delivered, x.2 = true →
    ∃ j, P.phase (confirming msgID).next false j = true

section Runs

variable {cfg : Config} {scan : ContentScan} {calls : List QueueMessage} {msgID : String}
  {P : Dispatchers} {delivered : List (String × Bool)} {i : ℕ}

/-- An attempt that was confirmed has published the message. -/
theorem exists_published {j : ℕ} (h : P.phase (confirming msgID).next false j = true) :
    ∃ ev, (j, ev) ∈ P.log ∧ publishesSend msgID ev = true := by
  have hany : (Pool.eventsOf j P.log).any (sends msgID) = true :=
    (foldl_note (sends msgID) (Pool.eventsOf j P.log) false).symm.trans h
  obtain ⟨ev, hmem, hsends⟩ := List.any_eq_true.1 hany
  refine ⟨ev, Pool.mem_eventsOf.1 hmem, ?_⟩
  obtain ⟨cmd, reply⟩ := ev
  cases cmd with
  | publish topic payload =>
    rcases reply with text | ⟨⟩
    · cases hsends
    · exact hsends
  | _ => cases hsends

/-- Before a command is published that meets the condition, nothing was delivered but to the same
device. -/
theorem OneTopic.eq_topic (hI : OneTopic msgID P delivered) {topic : String} {payload : SMSCommand}
    (hkeeping : Pool.Keeping (fun _ => confirming msgID) (fun _ => EndsUnconfirmed)
      (confirming msgID).next false calls P)
    (hunconfirmed : P.phase (confirming msgID).next false i = false)
    (hsend : isSend msgID payload = true)
    (hG : TriedAfterFailure msgID P delivered i (.publish topic payload)) :
    ∀ x ∈ delivered, x.1 = topic ∧ x.2 = false := by
  obtain ⟨hlost, hfailed⟩ := hG hsend
  intro x hx
  cases hconfirmed : x.2 with
  | false => exact ⟨hlost x hx hconfirmed, rfl⟩
  | true =>
    -- another attempt would know, and an attempt that knows does not fail
    obtain ⟨j, hj⟩ := hI.known x hx hconfirmed
    have hji : j ≠ i := by
      rintro rfl
      rw [hj] at hunconfirmed
      cases hunconfirmed
    obtain ⟨ev, hmem, hpublishes⟩ := exists_published hj
    have hover := hfailed (j, ev) hmem hji hpublishes
    unfold hasFailed at hover
    split at hover
    · next text hthread =>
      obtain ⟨msg, -, hends⟩ := hkeeping j _ hthread
      rw [hends rfl] at hj
      cases hj
    · cases hover

/-- **A command that meets the condition keeps the invariant.** -/
theorem OneTopic.advance {β : Type} {e : ServerCmd β} {k : β → ServerProg (Except String Unit)}
    (hI : OneTopic msgID P delivered) (hi : P.threads[i]? = some (.act e k))
    (hkeeping : Pool.Keeping (fun _ => confirming msgID) (fun _ => EndsUnconfirmed)
      (confirming msgID).next false calls P)
    (hG : TriedAfterFailure msgID P delivered i e) :
    OneTopic msgID (P.advance (server cfg) i e k) (noteDelivery msgID i e P.state delivered) := by
  -- what an attempt knows it does not forget
  have hknown : ∀ j, P.phase (confirming msgID).next false j = true →
      (P.advance (server cfg) i e k).phase (confirming msgID).next false j = true := by
    intro j hj
    rw [Pool.phase_advance]
    by_cases hji : j = i
    · subst hji
      rw [Function.update_self, hj]
      rfl
    · rw [Function.update_of_ne hji, hj]
  obtain ⟨msg, -, hallows, -⟩ := hkeeping i _ hi
  by_cases hadds : noteDelivery msgID i e P.state delivered = delivered
  · rw [hadds]
    refine ⟨hI.same, fun x hx hconfirmed => ?_⟩
    obtain ⟨j, hj⟩ := hI.known x hx hconfirmed
    exact ⟨j, hknown j hj⟩
  · cases e with
    | publish topic payload =>
      have hsend : isSend msgID payload = true := by
        by_contra hnot
        exact hadds (if_neg hnot)
      have htopic := hI.eq_topic hkeeping hallows hsend hG
      have hsame : ∀ b, ∀ x ∈ delivered ++ [(topic, b)], x.1 = topic := by
        intro b x hx
        rcases List.mem_append.1 hx with hx | hx
        · exact (htopic x hx).1
        · rw [List.mem_singleton.1 hx]
      cases hfault : P.state.next.fault with
      | refused text => exact absurd (by simp [noteDelivery, hsend, hfault]) hadds
      | lost text =>
        have hnote : noteDelivery msgID i (.publish topic payload) P.state delivered =
            delivered ++ [(topic, false)] := by
          simp [noteDelivery, hsend, hfault]
        rw [hnote]
        refine ⟨fun x hx y hy => (hsame _ x hx).trans (hsame _ y hy).symm, fun x hx htrue => ?_⟩
        rcases List.mem_append.1 hx with hx | hx
        · rw [(htopic x hx).2] at htrue
          cases htrue
        · rw [List.mem_singleton.1 hx] at htrue
          cases htrue
      | none =>
        have hnote : noteDelivery msgID i (.publish topic payload) P.state delivered =
            delivered ++ [(topic, true)] := by
          simp [noteDelivery, hsend, hfault]
        have hreply : ((server cfg).step (.publish topic payload) P.state).1 = .ok () := by
          simp [server, serve, hfault]
        rw [hnote]
        refine ⟨fun x hx y hy => (hsame _ x hx).trans (hsame _ y hy).symm, fun _ _ _ => ⟨i, ?_⟩⟩
        rw [Pool.phase_advance, Function.update_self, hreply]
        have hsends : sends msgID ⟨.publish topic payload, .ok ()⟩ = true := hsend
        show (_ || sends msgID ⟨.publish topic payload, .ok ()⟩) = true
        rw [hsends, Bool.or_true]
    | _ => exact absurd rfl hadds

end Runs

/-- **At most one device receives the message**, over the loop and over all attempts, if no command
was lost when another device is tried, and an attempt publishes only after the others that have
published have failed. -/
theorem deliveries_onePhone (cfg : Config) (scan : ContentScan) (calls : List QueueMessage)
    (msgID : String) (w : World) (sched : List ℕ)
    (h : Pool.EachNoted (server cfg) (noteDelivery msgID) (TriedAfterFailure msgID)
      (dispatchers cfg scan calls w) [] sched) :
    OnePhone (Pool.noted (server cfg) (noteDelivery msgID) (dispatchers cfg scan calls w) []
      sched) := by
  have hI : OneTopic msgID ((dispatchers cfg scan calls w).run (server cfg) sched)
      (Pool.noted (server cfg) (noteDelivery msgID) (dispatchers cfg scan calls w) [] sched) :=
    Pool.run_noted_inv (attempts_phased cfg scan msgID) (I := OneTopic msgID) ⟨nofun, nofun⟩ h
      fun P delivered i msg β e k _ hi hkeeping hP hG => hP.advance hi hkeeping hG
  intro x hx y hy device device' hdevice hdevice'
  refine commandTopic_injective ?_
  rw [← hdevice, ← hdevice', hI.same x hx y hy]

/-! ## Two devices -/

/-- Another device of the same account. -/
def secondPhone : Device :=
  { phone with
    id := "device-2"
    physicalDeviceID := "phone-2"
    phoneNumber := "+922222222222" }

/-- Two attempts at a message, on a server with two devices. -/
def twoAttempts (env : List Tick) : Dispatchers :=
  dispatchers .default noViolations [greeting, greeting]
    { onePhone env with db := { (onePhone env).db with devices := [phone, secondPhone] } }

/-- The schedule that runs them one after the other. -/
def bothAttempts : List ℕ := List.replicate 40 0 ++ List.replicate 40 1

/-- The broker refuses both commands of the first attempt, and the second one begins after five
minutes. -/
def refusedTwice : List Tick :=
  List.replicate 25 .quiet ++ brokerDown :: List.replicate 11 .quiet ++
    brokerDown :: List.replicate 2 .quiet ++ [late 301]

/-- Then one device receives the message. -/
theorem deliveries_onePhone_refused :
    OnePhone (Pool.noted (server .default) (noteDelivery "message-1") (twoAttempts refusedTwice) []
      bothAttempts) :=
  deliveries_onePhone .default noViolations [greeting, greeting] "message-1" _ bothAttempts
    (by decide +kernel)

/-- The command to the first device is delivered, but the broker does not confirm it in time. -/
def unconfirmed : List Tick :=
  List.replicate 25 .quiet ++ [{ Tick.quiet with fault := .lost "timeout" }]

/-- Then both devices receive the message, in a single attempt that reports no error. -/
theorem unconfirmed_twice :
    ((twoAttempts unconfirmed).run (server .default) (List.replicate 60 0)).done =
      [(0, .ok ())] ∧
    ¬ OnePhone (Pool.noted (server .default) (noteDelivery "message-1") (twoAttempts unconfirmed) []
      (List.replicate 60 0)) := by
  refine ⟨by decide +kernel, fun h => ?_⟩
  have hdelivered : Pool.noted (server .default) (noteDelivery "message-1")
      (twoAttempts unconfirmed) [] (List.replicate 60 0) =
      [(commandTopic "device-1", false), (commandTopic "device-2", true)] := by
    decide +kernel
  rw [hdelivered] at h
  have hsame := h _ List.mem_cons_self _ (List.mem_cons_of_mem _ List.mem_cons_self) _ _ rfl rfl
  revert hsame
  decide

end AeroxeBee.Dispatch
