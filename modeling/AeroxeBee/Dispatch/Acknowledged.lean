import AeroxeBee.Foundations.Protocol
import AeroxeBee.Dispatch.Quiet

/-!
# Messages that are acknowledged

A consumer acknowledges a message for which `processMessage` reports no error. Every way in which
a device is passed over leaves an error behind, except an open circuit breaker. So a message is
acknowledged although no device was told to send it exactly when devices were chosen and the
breakers of all of them turn the message away, each at the moment it is checked.

* `sendLoop_sent_iff`: the loop over any list of devices, in any state;
* `processMessage_sent_iff`: the whole handler.
-/

namespace AeroxeBee.Dispatch

open Foundations

variable (cfg : Config) (scan : ContentScan) (msg : QueueMessage)

/-- The event is a command to send the message that reached the broker. -/
def sends (msgID : String) : Event ServerCmd → Bool
  | ⟨.publish _ payload, .ok ()⟩ => payload.action = "send_sms" && payload.id = msgID
  | _ => false

/-- A device was told to send the message. -/
def Sent (msgID : String) (evs : List (Event ServerCmd)) : Prop := evs.any (sends msgID) = true

/-- **What is asked of the handler**: if it reports no error, some device was told to send the
message. -/
def AckedOnlyIfSent (o : Outcome ServerCmd World (Except String Unit)) : Prop :=
  o.val = .ok () → Sent msg.id o.trace

/-- The breakers of all these devices turn calls away, each at the moment the loop comes to it. -/
def AllBlock : List ScoredDevice → World → Prop
  | [], _ => True
  | d :: ds, w =>
    w.tick.breakers.Blocks w.tick.clock .device d.device.id ∧
      AllBlock ds ((server cfg).step (.isOpen .device d.device.id) w).2

/-- Devices are chosen for the message, and the breakers of all of them turn it away. -/
def AllTurnedAway (w : World) : Prop :=
  ∃ scored, ((candidates scan msg).exec (server cfg) w).val = .ok scored ∧
    AllBlock cfg scored ((candidates scan msg).exec (server cfg) w).state

/-! ## Rules for one device -/

section Rules

variable {cfg msg} {S : Type} {R : Protocol ServerCmd S} {I J K Q : S → Prop} {device : Device}
  {s : S}

/-- The rule for the check of a SIM card: it leads on only if the card was judged not to be blocked,
and then its status may be stored. -/
theorem checkHealth_keeps_of
    (hjudge : R.allows s (.evaluateDevice device.id device.simHealthStatus))
    (hpassed : ∀ judged, judged.1 ≠ .blocked →
      K (R.next s ⟨.evaluateDevice device.id device.simHealthStatus, judged⟩))
    (hstore : ∀ s status slope, K s → status ≠ .blocked →
      R.allows s (.db (.updateHealthStatus device.id status slope)) ∧
        ∀ reply, K (R.next s ⟨.db (.updateHealthStatus device.id status slope), reply⟩)) :
    (checkHealth device).Keeps R (fun s' r => r = .ok () → K s') s := by
  refine ⟨hjudge, fun judged _ => ?_⟩
  obtain ⟨status, slope⟩ := judged
  change Prog.Keeps _ _ (ite _ _ _) _
  split_ifs with hblocked
  · exact nofun
  · obtain ⟨hallowed, hstored⟩ := hstore _ status slope (hpassed (status, slope) hblocked) hblocked
    exact ⟨hallowed, fun reply _ _ => hstored reply⟩
  · exact fun _ => hpassed (status, slope) hblocked

/-- The rule for sending: until the command is published the protocol stays where it was, and if it
is not published then this is counted as a failure. -/
theorem trySend_keeps_of
    (hconnected : ∀ s, K s → (Prog.call .isConnected : ServerProg Bool).Keeps R (fun s' _ => K s') s)
    (hcommand : ∀ s, K s → (sendSMSCommand device.id msg.id msg.accountID msg.recipient msg.message
      (priorityOf msg.priority)).Keeps R
        (fun s' r => (r ≠ .ok () → K s') ∧ (r = .ok () → J s')) s)
    (hfailed : ∀ s, K s → (recordFailed device).Keeps R (fun s' _ => I s') s)
    (hrecorded : ∀ s, J s → (recordSent cfg msg device).Keeps R (fun s' _ => Q s') s) (hs : K s) :
    (trySend cfg msg device).Keeps R
      (fun s' r => (r ≠ .ok () → I s') ∧ (r = .ok () → Q s')) s := by
  refine (hconnected s hs).bind fun s₁ connected hs₁ => ?_
  cases connected with
  | false => exact (hfailed s₁ hs₁).bind fun s₂ _ hs₂ => ⟨fun _ => hs₂, nofun⟩
  | true =>
    refine (hcommand s₁ hs₁).bind fun s₂ reply hs₂ => ?_
    rcases reply with e | ⟨⟩
    · exact (hfailed s₂ (hs₂.1 nofun)).bind fun s₃ _ hs₃ => ⟨fun _ => hs₃, nofun⟩
    · exact (hrecorded s₂ (hs₂.2 rfl)).bind fun s₃ _ hs₃ => ⟨fun h => absurd rfl h, fun _ => hs₃⟩

/-- The rule for an attempt that the breaker lets through: the checks lead on to the sending, or
leave the protocol as the next attempt needs it. -/
theorem attemptClosed_keeps_of
    (hrates : ∀ s, I s → (checkRates cfg device).Keeps R
      (fun s' r => I s' ∧ (r = .ok () → J s')) s)
    (hhealth : ∀ s, J s → (checkHealth device).Keeps R (fun s' r => I s' ∧ (r = .ok () → K s')) s)
    (hsend : ∀ s, K s → (trySend cfg msg device).Keeps R
      (fun s' r => (r ≠ .ok () → I s') ∧ (r = .ok () → Q s')) s) (hs : I s) :
    (attemptClosed cfg msg device).Keeps R
      (fun s' a => a ≠ .skipped ∧ (a ≠ .sent → I s') ∧ (a = .sent → Q s')) s := by
  refine (hrates s hs).bind fun s₁ rates hs₁ => ?_
  rcases rates with e | ⟨⟩
  · exact ⟨nofun, fun _ => hs₁.1, nofun⟩
  · refine (hhealth s₁ (hs₁.2 rfl)).bind fun s₂ health hs₂ => ?_
    rcases health with e | ⟨⟩
    · exact ⟨nofun, fun _ => hs₂.1, nofun⟩
    · refine (hsend s₂ (hs₂.2 rfl)).bind fun s₃ r hs₃ => ?_
      rcases r with e | ⟨⟩
      · exact ⟨nofun, fun _ => hs₃.1 nofun, nofun⟩
      · exact ⟨nofun, fun h => absurd rfl h, fun _ => hs₃.2 rfl⟩

/-- The rule for an attempt. -/
theorem attempt_keeps_of
    (hopen : ∀ s, I s → (Prog.call (.isOpen .device device.id) : ServerProg Bool).Keeps R
      (fun s' _ => I s') s)
    (hclosed : ∀ s, I s → (attemptClosed cfg msg device).Keeps R
      (fun s' a => a ≠ .skipped ∧ (a ≠ .sent → I s') ∧ (a = .sent → Q s')) s) (hs : I s) :
    (attempt cfg msg device).Keeps R (fun s' a => (a ≠ .sent → I s') ∧ (a = .sent → Q s')) s := by
  refine (hopen s hs).bind fun s₁ isOpen hs₁ => ?_
  cases isOpen with
  | true => exact ⟨fun _ => hs₁, nofun⟩
  | false => exact (hclosed s₁ hs₁).mono fun _ _ h => h.2

end Rules

/-! ## Sending -/

section Sending

variable {cfg scan msg}

theorem sent_append {evs₁ evs₂ : List (Event ServerCmd)} :
    Sent msg.id (evs₁ ++ evs₂) ↔ Sent msg.id evs₁ ∨ Sent msg.id evs₂ := by
  simp [Sent]

theorem Quiet.not_sends {β : Type} {e : ServerCmd β} (h : Quiet e) (b : β) (msgID : String) :
    sends msgID ⟨e, b⟩ = false := by
  cases e with
  | publish topic payload => exact h.elim
  | _ => rfl

/-- The protocol that allows everything and notes whether the message was sent. -/
def noting (msgID : String) : Protocol ServerCmd Bool where
  allows _ := fun _ => True
  expects _ := True
  next s ev := s || sends msgID ev

theorem noting_foldl (evs : List (Event ServerCmd)) (s : Bool) :
    evs.foldl (noting msg.id).next s = (s || evs.any (sends msg.id)) :=
  foldl_note (sends msg.id) evs s

theorem Quiet.keeps_noting {α : Type} {p : ServerProg α} (hp : p.Only Quiet) (s : Bool) :
    p.Keeps (noting msg.id) (fun s' _ => s' = s) s :=
  Prog.Keeps.of_only hp (fun _ _ => trivial) fun e b he => by
    simp [noting, he.not_sends b msg.id]

end Sending

theorem not_sent_of_quiet {α : Type} {p : ServerProg α} (hp : p.Only Quiet) (w : World) :
    ¬ Sent msg.id (p.exec (server cfg) w).trace := by
  have h := (@Quiet.keeps_noting msg _ _ hp false).exec (server cfg) w fun _ _ => trivial
  rw [noting_foldl, Bool.false_or] at h
  rw [Sent, h]
  exact Bool.false_ne_true

/-! ## One device -/

theorem keeps_trySend (device : Device) (s : Bool) :
    (trySend cfg msg device).Keeps (noting msg.id)
      (fun s' r => (r ≠ .ok () → True) ∧ (r = .ok () → s' = true)) s := by
  refine trySend_keeps_of (I := fun _ => True) (J := fun s => s = true) (K := fun _ => True)
    (fun s _ => ⟨trivial, fun _ _ => trivial⟩) (fun s _ => ?_) (fun s _ => ?_) (fun s hs => ?_) trivial
  · refine ⟨trivial, fun now _ => ⟨trivial, fun reply _ => ⟨fun _ => trivial, fun hreply => ?_⟩⟩⟩
    subst hreply
    simp [noting, sends]
  · exact (Quiet.keeps_noting (quiet_of_idle (recordFailed_idle device)) s).mono fun _ _ _ => trivial
  · exact (Quiet.keeps_noting (recordSent_quiet device) s).mono fun s' _ hs' => hs'.trans hs

/-- An attempt that the breaker lets through sends the message or leaves an error behind. -/
theorem keeps_attemptClosed (device : Device) (s : Bool) :
    (attemptClosed cfg msg device).Keeps (noting msg.id)
      (fun s' a => a ≠ .skipped ∧ (a ≠ .sent → True) ∧ (a = .sent → s' = true)) s := by
  refine attemptClosed_keeps_of (I := fun _ => True) (J := fun _ => True) (K := fun _ => True)
    (fun s _ => ?_) (fun s _ => ?_) (fun s _ => keeps_trySend cfg msg device s) trivial
  · exact (Quiet.keeps_noting (quiet_of_idle (checkRates_idle device)) s).mono
      fun _ _ _ => ⟨trivial, fun _ => trivial⟩
  · exact Prog.keeps_of_only_forall (Prog.only_of_forall (fun _ => trivial) _)
      (fun _ _ _ _ => trivial) fun _ _ => ⟨trivial, fun _ => trivial⟩

theorem exec_attemptClosed (device : Device) (w : World) :
    let o := (attemptClosed cfg msg device).exec (server cfg) w
    o.val ≠ .skipped ∧ (o.val = .sent → Sent msg.id o.trace) := by
  have h := (keeps_attemptClosed cfg msg device false).exec (server cfg) w
    fun _ _ => trivial
  rw [noting_foldl, Bool.false_or] at h
  exact ⟨h.1, h.2.2⟩

theorem exec_attempt (device : Device) (w : World) :
    (attempt cfg msg device).exec (server cfg) w =
      let r := (server cfg).step (.isOpen .device device.id) w
      if r.1 then ⟨.skipped, r.2, [⟨.isOpen .device device.id, true⟩]⟩
      else
        let o := (attemptClosed cfg msg device).exec (server cfg) r.2
        ⟨o.val, o.state, ⟨.isOpen .device device.id, false⟩ :: o.trace⟩ := by
  simp only [attempt, Prog.call_bind, Prog.exec_act]
  cases ((server cfg).step (.isOpen .device device.id) w).1 <;> rfl

/-! ## The loop -/

/-- The next round of the loop, after an attempt. -/
def continueLoop (cfg : Config) (msg : QueueMessage) (lastErr : Option String)
    (rest : List ScoredDevice) : Attempt → ServerProg (Except String Unit)
  | .skipped => sendLoop cfg msg lastErr rest
  | .failed e => sendLoop cfg msg (some e) rest
  | .sent => return .ok ()

theorem sendLoop_cons (lastErr : Option String) (d : ScoredDevice) (rest : List ScoredDevice) :
    sendLoop cfg msg lastErr (d :: rest) =
      attempt cfg msg d.device >>= continueLoop cfg msg lastErr rest := by
  rw [sendLoop]
  congr 1

section Keeps

variable {cfg scan msg} {S : Type} {R : Protocol ServerCmd S} {I : S → Prop}
  {Q : S → Except String Unit → Prop} {scored : List ScoredDevice} {s : S}

/-- The rule for the loop: an attempt that has not sent the message leaves the protocol as the next
one needs it. -/
theorem sendLoop_keeps_of (lastErr : Option String)
    (hattempt : ∀ d ∈ scored, ∀ s, I s → (attempt cfg msg d.device).Keeps R
      (fun s' a => (a ≠ .sent → I s') ∧ (a = .sent → Q s' (.ok ()))) s)
    (hend : ∀ s r, I s → Q s r) (hs : I s) : (sendLoop cfg msg lastErr scored).Keeps R Q s := by
  induction scored generalizing lastErr s with
  | nil =>
    cases lastErr with
    | none => exact hend s _ hs
    | some e => exact hend s _ hs
  | cons d rest ih =>
    have hrest := fun d' hd' => hattempt d' (List.mem_cons_of_mem d hd')
    rw [sendLoop_cons]
    refine (hattempt d List.mem_cons_self s hs).bind fun s' a ha => ?_
    cases a with
    | skipped => exact ih lastErr hrest (ha.1 nofun)
    | failed e => exact ih (some e) hrest (ha.1 nofun)
    | sent => exact ha.2 rfl

/-- The rule for the handler, if the attempts need nothing of the devices that are chosen. -/
theorem processMessage_keeps_of (hcandidates : (candidates scan msg).Keeps R (fun s' _ => I s') s)
    (hattempt : ∀ (d : Device) (s : S), I s → (attempt cfg msg d).Keeps R
      (fun s' a => (a ≠ .sent → I s') ∧ (a = .sent → Q s' (.ok ()))) s)
    (hend : ∀ s r, I s → Q s r) : (processMessage cfg scan msg).Keeps R Q s := by
  refine hcandidates.bind fun s' r hs' => ?_
  cases r with
  | error e => exact hend s' _ hs'
  | ok scored => exact sendLoop_keeps_of none (fun d _ => hattempt d.device) hend hs'

end Keeps

/-- **The loop sends the message if it reports no error**, unless no error was left before and
the breakers of all devices turn the message away. -/
theorem sendLoop_sent_iff (scored : List ScoredDevice) (lastErr : Option String) (w : World) :
    AckedOnlyIfSent msg ((sendLoop cfg msg lastErr scored).exec (server cfg) w) ↔
      ¬ (lastErr = none ∧ AllBlock cfg scored w) := by
  induction scored generalizing lastErr w with
  | nil =>
    cases lastErr with
    | none => simp [sendLoop, AckedOnlyIfSent, AllBlock, Sent]
    | some e => simp [sendLoop, AckedOnlyIfSent]
  | cons d rest ih =>
    have hblocks : ((server cfg).step (.isOpen .device d.device.id) w).1 = true ↔
        w.tick.breakers.Blocks w.tick.clock .device d.device.id := StateManager.isOpen_iff
    rw [AckedOnlyIfSent, sendLoop_cons, Prog.exec_bind, exec_attempt]
    by_cases hopen : ((server cfg).step (.isOpen .device d.device.id) w).1 = true
    · have hskip : ∀ evs, Sent msg.id ([⟨.isOpen .device d.device.id, true⟩] ++ evs) ↔
          Sent msg.id evs := fun evs => by simp [Sent, sends]
      simp only [hopen, if_true, continueLoop, hskip, AllBlock, hblocks.1 hopen, true_and]
      exact ih lastErr _
    · have hnot : ¬ AllBlock cfg (d :: rest) w := fun h => hopen (hblocks.2 h.1)
      simp only [hopen, hnot, and_false, not_false_eq_true, iff_true, Bool.false_eq_true, if_false]
      obtain ⟨hne, hsent⟩ := exec_attemptClosed cfg msg d.device
        ((server cfg).step (.isOpen .device d.device.id) w).2
      generalize (attemptClosed cfg msg d.device).exec (server cfg)
        ((server cfg).step (.isOpen .device d.device.id) w).2 = o at hne hsent ⊢
      obtain ⟨a, w', evs⟩ := o
      cases a with
      | skipped => exact absurd rfl hne
      | failed e =>
        intro hok
        have hrest := (ih (some e) w').2 (by simp) hok
        exact sent_append.2 (.inr hrest)
      | sent =>
        intro _
        have hevs : Sent msg.id (⟨.isOpen .device d.device.id, false⟩ :: evs) := by
          simpa [Sent, sends] using hsent rfl
        exact sent_append.2 (.inl hevs)

/-! ## The handler -/

/-- **When the handler reports success only for a message that was sent**: whatever the devices,
breakers, counters and delivery outcomes are and whatever the broker answers, the one exception is
that the breakers of all chosen devices turn the message away. -/
theorem processMessage_sent_iff (w : World) :
    AckedOnlyIfSent msg ((processMessage cfg scan msg).exec (server cfg) w) ↔
      ¬ AllTurnedAway cfg scan msg w := by
  have hquiet := not_sent_of_quiet cfg msg (quiet_of_idle (@candidates_idle scan msg)) w
  rw [AckedOnlyIfSent, AllTurnedAway, processMessage, Prog.exec_bind]
  generalize (candidates scan msg).exec (server cfg) w = o at hquiet ⊢
  obtain ⟨r, w', evs⟩ := o
  cases r with
  | error e => simp
  | ok scored =>
    have hloop := sendLoop_sent_iff cfg msg scored none w'
    simp only [AckedOnlyIfSent, true_and] at hloop
    simp only [sent_append, hquiet, false_or, hloop, Except.ok.injEq, exists_eq_left']

/-! ## A message that is lost -/

/-- An online device with a healthy SIM card. -/
def phone : Device where
  id := "device-1"
  physicalDeviceID := "phone-1"
  accountID := "account-1"
  simSlot := 1
  carrier := "Airtel"
  phoneNumber := "+911111111111"
  name := ""
  status := .online
  simHealthStatus := .healthy
  healthTrendSlope := 0
  lastSeen := none
  lastPongAt := none
  messagesSentCount := 0
  lastUsedAt := none
  reliabilityScore := 1 / 2
  reputationScore := 1 / 2
  successRate24h := 1
  uptimeRatio24h := 1
  avgLatencyMs := 0
  countryCode := "IN"
  region := "APAC"
  maxPerMinute := 10
  maxPerHour := 100
  circuitBreakerState := .closed

/-- A message of the account of the device. -/
def greeting : QueueMessage :=
  { QueueMessage.zero with
    id := "message-1"
    accountID := "account-1"
    recipient := "+919999999999"
    sender := "AeroXe Bee"
    message := "hello"
    messageType := .transactional
    priority := .transactional
    routingStrategy := .highestReliability }

/-- A server with one device and an environment. -/
def onePhone (env : List Tick) : World where
  db := ⟨[phone], [], [⟨"key-1", "account-1", "hash-1", none, none⟩], [], [], [], [], [], [], [], .empty⟩
  redis _ := none
  streams _ := Stream.empty
  antiStarvationCnt := 0
  breakers _ := none
  history _ := []
  flags := []
  clock := 0
  env := env

/-- The server after a delivery of its only device has failed. -/
def afterFailure : World := ((server .default).step (.recordFailure .device "device-1") (onePhone [])).2

/-- The handler reports success for a message that no device was told to send. -/
theorem afterFailure_acked : ¬ AckedOnlyIfSent greeting
    ((processMessage .default (fun _ _ _ => (false, [])) greeting).exec (server .default)
      afterFailure) := by
  have hval : ((processMessage .default (fun _ _ _ => (false, [])) greeting).exec
      (server .default) afterFailure).val = .ok () := by
    decide +kernel
  have hnot : ((processMessage .default (fun _ _ _ => (false, [])) greeting).exec
      (server .default) afterFailure).trace.any (sends greeting.id) = false := by
    decide +kernel
  intro h
  exact absurd (h hval) (by simp [Sent, hnot])

end AeroxeBee.Dispatch
