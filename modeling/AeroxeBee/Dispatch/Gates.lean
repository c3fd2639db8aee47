import AeroxeBee.Foundations.Heeding
import AeroxeBee.Dispatch.Acknowledged

/-!
# Nothing is published before every gate was passed

A command for a device leaves the server at one place, deep inside the loop over the chosen devices.
This module collects what has been found out by the time it leaves: about the message, about the choice
of the device, and about the device itself.

* `processMessage_heeds`: the handler keeps to the rule whatever the services answer;
* `published_cleared`: in every run of any routines in which the message is processed, over any
  services, each command the handler publishes was cleared by what the handler had been told before.
-/

namespace AeroxeBee.Dispatch

open Foundations

variable (cfg : Config) (scan : ContentScan) (msg : QueueMessage)

/-! ## The rule -/

/-- What the fraud detection examines of a message. -/
def examined : DetectionInput := ⟨msg.accountID, msg.recipient, msg.sender, msg.message⟩

/-- The handler has been told that the message may be sent. The counters and the blacklist are read
from a store that may fail, and a failed check flags nothing. -/
structure MessageCleared (evs : List (Event ServerCmd)) : Prop where
  account : (⟨.isOpen .account msg.accountID, false⟩ : Event ServerCmd) ∈ evs
  volume : ∃ result, Prog.Performed evs (Fraud.checkOTPSpam (examined msg)) result ∧
    ∀ r, result = .ok r → r.flagged = false
  recipient : ∃ reply, (⟨.redis (.sIsMember "blacklist:recipients" msg.recipient), reply⟩ :
    Event ServerCmd) ∈ evs ∧ reply ≠ .ok true
  content : (Fraud.checkSensitiveContent scan (examined msg)).flagged = false

/-- The handler has been told that the device may send the message. -/
structure DeviceChosen (evs : List (Event ServerCmd)) (device : Device) : Prop where
  eligible : ∃ devices, (⟨.db (.eligibleDevices (eligibility msg)), .ok devices⟩ : Event ServerCmd) ∈
    evs ∧ device ∈ devices
  admitted : (routingOptions msg).admits device = true

/-- The handler has been told that the device is fit to send now. -/
structure DeviceCleared (evs : List (Event ServerCmd)) (device : Device) : Prop where
  breaker : (⟨.isOpen .device device.id, false⟩ : Event ServerCmd) ∈ evs
  carrier : Prog.Performed evs (RateControl.checkGlobalThrottle "carrier" device.carrier) (.ok true)
  rate : Prog.Performed evs (RateControl.checkDeviceRate cfg.rateLimit device.id) (.ok true)
  card : ∃ status slope, (⟨.evaluateDevice device.id device.simHealthStatus, (status, slope)⟩ :
    Event ServerCmd) ∈ evs ∧ status ≠ .blocked
  connected : (⟨.isConnected, true⟩ : Event ServerCmd) ∈ evs

/-- No command has reached the broker. -/
def Unsent (evs : List (Event ServerCmd)) : Prop :=
  ∀ topic payload, (⟨.publish topic payload, .ok ()⟩ : Event ServerCmd) ∉ evs

/-- The command for a message, at a time in nanoseconds. -/
def commandOf (now : ℤ) : SMSCommand where
  action := "send_sms"
  id := msg.id
  accountID := msg.accountID
  recipient := msg.recipient
  message := msg.message
  priority := priorityOf msg.priority
  timestamp := now / 1000000000

/-- What may be published: the command for the message, to one device that was chosen and cleared, as
long as no command has reached the broker. Any other command to the services is allowed. -/
def Cleared (evs : List (Event ServerCmd)) : {β : Type} → ServerCmd β → Prop
  | _, .publish topic payload =>
    MessageCleared scan msg evs ∧ Unsent evs ∧
      ∃ device now, DeviceChosen msg evs device ∧ DeviceCleared cfg evs device ∧
        topic = commandTopic device.id ∧ payload = commandOf msg now ∧
        (⟨.now, now⟩ : Event ServerCmd) ∈ evs
  | _, _ => True

variable {cfg scan msg} {evs : List (Event ServerCmd)} {device : Device}

/-! ## What stays found out -/

theorem MessageCleared.append (h : MessageCleared scan msg evs) (more : List (Event ServerCmd)) :
    MessageCleared scan msg (evs ++ more) where
  account := List.mem_append_left more h.account
  volume := h.volume.imp fun _ hr => ⟨hr.1.append more, hr.2⟩
  recipient := h.recipient.imp fun _ hr => ⟨List.mem_append_left more hr.1, hr.2⟩
  content := h.content

theorem DeviceChosen.append (h : DeviceChosen msg evs device) (more : List (Event ServerCmd)) :
    DeviceChosen msg (evs ++ more) device where
  eligible := h.eligible.imp fun _ hd => ⟨List.mem_append_left more hd.1, hd.2⟩
  admitted := h.admitted

theorem Unsent.append {more : List (Event ServerCmd)} (h : Unsent evs) (hmore : Unsent more) :
    Unsent (evs ++ more) := fun topic payload hmem =>
  (List.mem_append.1 hmem).elim (h topic payload) (hmore topic payload)

theorem unsent_nil : Unsent [] := fun _ _ h => by cases h

theorem unsent_of_event {β : Type} {e : ServerCmd β} (he : Silent e) (b : β) : Unsent [⟨e, b⟩] := by
  intro topic payload hmem
  have hcmd : Silent (Event.cmd ⟨e, b⟩) := he
  rw [← List.mem_singleton.1 hmem] at hcmd
  exact hcmd

/-- A routine that publishes nothing sends nothing. -/
theorem unsent_of_silent {α : Type} {p q : ServerProg α} (hp : p.Only Silent) (hf : p.Follows evs q) :
    Unsent evs :=
  fun _ _ hmem => hf.forall_mem hp _ hmem

theorem Silent.cleared {β : Type} {e : ServerCmd β} (h : Silent e) : Cleared cfg scan msg evs e := by
  cases e with
  | publish topic payload => exact h.elim
  | _ => trivial

/-- A routine that publishes nothing heeds the rule; afterwards it has been performed. -/
theorem heeds_of_silent {α : Type} {p : ServerProg α} (hp : p.Only Silent) (hunsent : Unsent evs) :
    p.Heeds (Cleared cfg scan msg)
      (fun evs' a => ∃ during, evs' = evs ++ during ∧ p.Follows during (.ret a) ∧ Unsent evs') evs := by
  refine (Prog.Heeds.performs hp fun _ _ _ h => h.cleared).mono ?_
  rintro evs' a ⟨during, rfl, hf⟩
  exact ⟨during, rfl, hf, hunsent.append (unsent_of_silent hp hf)⟩

/-! ## The choice of the devices -/

theorem flagged_eq_none {result : Except String DetectionResult} :
    Fraud.flagged result = none ↔ ∀ r, result = .ok r → r.flagged = false := by
  cases result with
  | error e => simp [Fraud.flagged, Except.toOption]
  | ok r => simp [Fraud.flagged, Except.toOption]

theorem flagged_of_some {result : Except String DetectionResult} {r : DetectionResult}
    (h : Fraud.flagged result = some r) : r.flagged = true :=
  (Option.filter_eq_some_iff.1 h).2

/-- A recipient for whom nothing is flagged was not found on the blacklist. -/
theorem checkRecipientBlacklist_follows {recipient : String} {result : Except String DetectionResult}
    (h : (Fraud.checkRecipientBlacklist recipient).Follows evs (.ret result))
    (hclean : Fraud.flagged result = none) :
    ∃ reply, (⟨.redis (.sIsMember "blacklist:recipients" recipient), reply⟩ : Event ServerCmd) ∈ evs ∧
      reply ≠ .ok true := by
  obtain ⟨reply, rest, rfl, hk⟩ := Prog.follows_act.1 h
  refine ⟨reply, List.mem_cons_self, ?_⟩
  rintro rfl
  cases (Prog.follows_ret.1 hk).2
  simp [flagged_eq_none] at hclean

/-- What a message has gone through that the fraud detection does not flag. -/
theorem analyze_follows {result : DetectionResult}
    (h : (Fraud.analyze scan (examined msg)).Follows evs (.ret result)) (hclean : result.flagged = false)
    {before : List (Event ServerCmd)}
    (hopen : (⟨.isOpen .account msg.accountID, false⟩ : Event ServerCmd) ∈ before) :
    MessageCleared scan msg (before ++ evs) := by
  obtain ⟨otp, evs₁, evs₂, rfl, hotp, h⟩ := h.of_bind
  cases hotpClean : Fraud.flagged otp with
  | some r =>
    rw [hotpClean] at h
    cases (Prog.follows_ret.1 h).2
    simp [flagged_of_some hotpClean] at hclean
  | none =>
    rw [hotpClean] at h
    obtain ⟨blacklist, evs₃, evs₄, rfl, hblacklist, h⟩ := h.of_bind
    cases hblacklistClean : Fraud.flagged blacklist with
    | some r =>
      rw [hblacklistClean] at h
      cases (Prog.follows_ret.1 h).2
      simp [flagged_of_some hblacklistClean] at hclean
    | none =>
      rw [hblacklistClean] at h
      obtain ⟨velocity, evs₅, evs₆, rfl, hvelocity, h⟩ := h.of_bind
      cases hvelocityClean : Fraud.flagged velocity with
      | some r =>
        rw [hvelocityClean] at h
        cases (Prog.follows_ret.1 h).2
        simp [flagged_of_some hvelocityClean] at hclean
      | none =>
        rw [hvelocityClean] at h
        obtain ⟨-, hresult⟩ := Prog.follows_ret.1 h
        cases hresult
        obtain ⟨reply, hreply, hnot⟩ := checkRecipientBlacklist_follows hblacklist hblacklistClean
        have hperformed := (@Prog.performed_of_follows _ _ before _ _ _ hotp).append
          (evs₃ ++ (evs₅ ++ evs₆))
        rw [List.append_assoc] at hperformed
        exact
          { account := List.mem_append_left _ hopen
            volume := ⟨otp, hperformed, flagged_eq_none.1 hotpClean⟩
            recipient := ⟨reply, List.mem_append_right before
              (List.mem_append_right evs₁ (List.mem_append_left _ hreply)), hnot⟩
            content := hclean }

/-- Devices are chosen for a message only once it was cleared, and each of them may send it. -/
theorem candidates_follows {scored : List ScoredDevice}
    (h : (candidates scan msg).Follows evs (.ret (.ok scored))) :
    MessageCleared scan msg evs ∧ ∀ s ∈ scored, DeviceChosen msg evs s.device := by
  obtain ⟨accountOpen, rest, rfl, hk⟩ := Prog.follows_act.1 h
  cases accountOpen with
  | true =>
    cases (Prog.follows_ret.1 hk).2
  | false =>
    change Prog.Follows (Fraud.analyze scan (examined msg) >>= _) _ _ at hk
    obtain ⟨result, evs₁, evs₂, rfl, hanalyze, hk⟩ := Prog.Follows.of_bind hk
    change Prog.Follows (ite _ _ _) _ _ at hk
    by_cases hflagged : result.flagged = true
    · rw [if_pos hflagged] at hk
      obtain ⟨_, _, rfl, hflag⟩ := Prog.follows_act.1 hk
      obtain ⟨_, _, rfl, hnow⟩ := Prog.follows_act.1 hflag
      obtain ⟨_, _, rfl, hstored⟩ := Prog.follows_act.1 hnow
      cases (Prog.follows_ret.1 hstored).2
    · rw [if_neg hflagged] at hk
      have hcleared := (analyze_follows hanalyze (Bool.eq_false_iff.2 hflagged)
        (List.mem_singleton_self _)).append evs₂
      obtain ⟨reply, evs₃, evs₄, rfl, heligible, hk⟩ := Prog.Follows.of_bind hk
      rcases reply with e | (_ | ⟨d, ds⟩)
      · cases (Prog.follows_ret.1 hk).2
      · cases (Prog.follows_ret.1 hk).2
      · obtain ⟨costMap, evs₅, evs₆, rfl, -, hk⟩ := Prog.Follows.of_bind hk
        cases costMap with
        | error e => cases (Prog.follows_ret.1 hk).2
        | ok costMap =>
          obtain ⟨chosen, evs₇, evs₈, rfl, hchosen, hk⟩ := Prog.Follows.of_bind hk
          change Prog.Follows (ite _ _ _) _ _ at hk
          by_cases hempty : chosen.length = 0
          · rw [if_pos hempty] at hk
            cases (Prog.follows_ret.1 hk).2
          · rw [if_neg hempty] at hk
            cases (Prog.follows_ret.1 hk).2
            refine ⟨by simpa using hcleared, fun s hs => ?_⟩
            obtain ⟨hmem, hadmitted⟩ := Selector.mem_filterAndScore hchosen hs
            refine ⟨⟨d :: ds, ?_, hmem⟩, hadmitted⟩
            obtain ⟨reply, more, rfl, hreply⟩ := Prog.follows_act.1 heligible
            cases reply with
            | error e => cases (Prog.follows_ret.1 hreply).2
            | ok devices =>
              cases (Prog.follows_ret.1 hreply).2
              simp

/-! ## One device -/

theorem checkRates_follows (h : (checkRates cfg device).Follows evs (.ret (.ok ()))) :
    Prog.Performed evs (RateControl.checkGlobalThrottle "carrier" device.carrier) (.ok true) ∧
      Prog.Performed evs (RateControl.checkDeviceRate cfg.rateLimit device.id) (.ok true) := by
  obtain ⟨carrierOK, evs₁, evs₂, rfl, hcarrier, hk⟩ := Prog.Follows.of_bind h
  rcases carrierOK with e | (_ | _)
  · cases (Prog.follows_ret.1 hk).2
  · cases (Prog.follows_ret.1 hk).2
  · obtain ⟨deviceOK, evs₃, evs₄, rfl, hdevice, hret⟩ := Prog.Follows.of_bind hk
    rcases deviceOK with e | (_ | _)
    · cases (Prog.follows_ret.1 hret).2
    · cases (Prog.follows_ret.1 hret).2
    · exact ⟨⟨[], evs₁, _, rfl, hcarrier⟩, ⟨evs₁, evs₃, evs₄, by rw [List.append_assoc], hdevice⟩⟩

theorem checkHealth_follows (h : (checkHealth device).Follows evs (.ret (.ok ()))) :
    ∃ status slope, (⟨.evaluateDevice device.id device.simHealthStatus, (status, slope)⟩ :
      Event ServerCmd) ∈ evs ∧ status ≠ .blocked := by
  obtain ⟨⟨status, slope⟩, rest, rfl, hk⟩ := Prog.follows_act.1 h
  refine ⟨status, slope, List.mem_cons_self, ?_⟩
  rintro rfl
  cases (Prog.follows_ret.1 hk).2

/-- The message was cleared and the device passed the gates, up to the connection to the broker. -/
structure Ready (cfg : Config) (scan : ContentScan) (msg : QueueMessage) (evs : List (Event ServerCmd))
    (device : Device) : Prop where
  message : MessageCleared scan msg evs
  unsent : Unsent evs
  chosen : DeviceChosen msg evs device
  breaker : (⟨.isOpen .device device.id, false⟩ : Event ServerCmd) ∈ evs
  rates : Prog.Performed evs (checkRates cfg device) (.ok ())
  health : Prog.Performed evs (checkHealth device) (.ok ())

theorem Ready.cleared (h : Ready cfg scan msg evs device) (now : ℤ) :
    Cleared cfg scan msg (evs ++ [⟨.isConnected, true⟩] ++ [⟨.now, now⟩])
      (.publish (commandTopic device.id) (commandOf msg now)) := by
  rw [List.append_assoc]
  refine ⟨h.message.append _, h.unsent.append ?_, device, now, h.chosen.append _, ?_, rfl, rfl,
    List.mem_append_right evs (by simp)⟩
  · exact (unsent_of_event (e := .isConnected) trivial true).append
      (unsent_of_event (e := .now) trivial now)
  · have hrates := h.rates
    have hhealth := h.health
    obtain ⟨before, during, after, hevs, hf⟩ := hrates
    obtain ⟨before', during', after', hevs', hf'⟩ := hhealth
    obtain ⟨status, slope, hmem, hstatus⟩ := checkHealth_follows hf'
    exact
      { breaker := List.mem_append_left _ h.breaker
        carrier := hevs ▸ ((checkRates_follows hf).1.surround before after).append _
        rate := hevs ▸ ((checkRates_follows hf).2.surround before after).append _
        card := ⟨status, slope, List.mem_append_left _ (hevs' ▸ by simp [hmem]), hstatus⟩
        connected := List.mem_append_right evs (by simp) }

/-- What a routine leaves behind: the events before it, and no command that has reached the broker
unless the routine says so. -/
def Leaves {α : Type} (evs : List (Event ServerCmd)) (sent : α → Prop)
    (evs' : List (Event ServerCmd)) (a : α) : Prop :=
  evs <+: evs' ∧ (¬ sent a → Unsent evs')

theorem trySend_heeds (h : Ready cfg scan msg evs device) :
    (trySend cfg msg device).Heeds (Cleared cfg scan msg) (Leaves evs (· = .ok ())) evs := by
  have hfailed {evs'} (hunsent : Unsent (evs ++ evs')) (text : String) :
      (recordFailed device >>= fun _ => pure (.error text) : ServerProg (Except String Unit)).Heeds
        (Cleared cfg scan msg) (Leaves evs (· = .ok ())) (evs ++ evs') := by
    refine (heeds_of_silent ((recordFailed_idle device).mono fun _ => Idle.silent) hunsent).bind ?_
    rintro _ ⟨⟩ ⟨during, rfl, -, hunsent'⟩
    exact ⟨by simp only [List.append_assoc, List.prefix_append], fun _ => hunsent'⟩
  have hconnected (connected : Bool) := h.unsent.append (unsent_of_event (e := .isConnected) trivial
    connected)
  refine ⟨trivial, fun connected => ?_⟩
  cases connected with
  | false => exact hfailed (hconnected false) _
  | true =>
    refine ⟨trivial, fun now => ⟨h.cleared now, fun reply => ?_⟩⟩
    have hbefore := (hconnected true).append (unsent_of_event (e := .now) trivial now)
    rcases reply with e | ⟨⟩
    · have hrefused : Unsent [⟨.publish (commandTopic device.id) (commandOf msg now), .error e⟩] :=
        fun _ _ hmem => by cases List.mem_singleton.1 hmem
      have hunsent := hbefore.append hrefused
      simp only [List.append_assoc] at hunsent ⊢
      exact hfailed hunsent _
    · refine (Prog.Heeds.performs ((recordSent_quiet device).mono fun _ => Quiet.silent)
        fun _ _ _ he => he.cleared).bind ?_
      rintro _ ⟨⟩ ⟨during, rfl, -⟩
      exact ⟨by simp only [List.append_assoc, List.prefix_append], fun hnot => absurd rfl hnot⟩

/-- The attempt with one device of those that were chosen. -/
theorem attempt_heeds (hmessage : MessageCleared scan msg evs) (hunsent : Unsent evs)
    (hchosen : DeviceChosen msg evs device) :
    (attempt cfg msg device).Heeds (Cleared cfg scan msg) (Leaves evs (· = .sent)) evs := by
  refine ⟨trivial, fun isOpen => ?_⟩
  have hopen := hunsent.append (unsent_of_event (e := .isOpen .device device.id) trivial isOpen)
  cases isOpen with
  | true => exact ⟨List.prefix_append _ _, fun _ => hopen⟩
  | false =>
    refine (heeds_of_silent ((checkRates_idle device).mono fun _ => Idle.silent) hopen).bind ?_
    rintro _ rates ⟨during, rfl, hrates, hunsent₁⟩
    rcases rates with e | ⟨⟩
    · exact ⟨by simp only [List.append_assoc, List.prefix_append], fun _ => hunsent₁⟩
    have hsilent : (checkHealth device).Only Silent := checkHealth_only trivial fun _ _ => trivial
    refine (heeds_of_silent hsilent hunsent₁).bind ?_
    rintro _ health ⟨during', rfl, hhealth, hunsent₂⟩
    rcases health with e | ⟨⟩
    · exact ⟨by simp only [List.append_assoc, List.prefix_append], fun _ => hunsent₂⟩
    have hready : Ready cfg scan msg
        (evs ++ [⟨.isOpen .device device.id, false⟩] ++ during ++ during') device :=
      { message := ((hmessage.append _).append _).append _
        unsent := hunsent₂
        chosen := ((hchosen.append _).append _).append _
        breaker := by simp
        rates := (Prog.performed_of_follows hrates).append _
        health := Prog.performed_of_follows hhealth }
    refine (trySend_heeds hready).bind ?_
    rintro _ reply ⟨⟨more, rfl⟩, hunsent₃⟩
    rcases reply with e | ⟨⟩
    · exact ⟨by simp only [List.append_assoc, List.prefix_append], fun _ => hunsent₃ (by simp)⟩
    · exact ⟨by simp only [List.append_assoc, List.prefix_append], fun hnot => absurd rfl hnot⟩

/-! ## The message -/

/-- The loop over the chosen devices, in any order of theirs. -/
theorem sendLoop_heeds {scored : List ScoredDevice} (hmessage : MessageCleared scan msg evs)
    (hunsent : Unsent evs) (hchosen : ∀ s ∈ scored, DeviceChosen msg evs s.device)
    (lastErr : Option String) :
    (sendLoop cfg msg lastErr scored).Heeds (Cleared cfg scan msg) (fun _ _ => True) evs := by
  induction scored generalizing evs lastErr with
  | nil => cases lastErr <;> trivial
  | cons s rest ih =>
    rw [sendLoop_cons]
    refine (attempt_heeds hmessage hunsent (hchosen s List.mem_cons_self)).bind ?_
    rintro _ a ⟨⟨more, rfl⟩, hunsent'⟩
    have hrest (hnot : a ≠ .sent) (lastErr : Option String) :=
      ih (hmessage.append more) (hunsent' hnot)
        (fun s' hs' => (hchosen s' (List.mem_cons_of_mem s hs')).append more) lastErr
    cases a with
    | skipped => exact hrest (by simp) lastErr
    | failed e => exact hrest (by simp) (some e)
    | sent => trivial

/-- **The handler publishes nothing that was not cleared**, whatever the services answer. -/
theorem processMessage_heeds :
    (processMessage cfg scan msg).Heeds (Cleared cfg scan msg) (fun _ _ => True) [] := by
  refine (heeds_of_silent (candidates_idle.mono fun _ => Idle.silent) unsent_nil).bind ?_
  rintro _ result ⟨during, rfl, hf, hunsent⟩
  cases result with
  | error e => trivial
  | ok scored =>
    obtain ⟨hmessage, hchosen⟩ := candidates_follows hf
    exact sendLoop_heeds hmessage hunsent hchosen none

variable {σ : Type} (M : Sem ServerCmd σ)

variable (cfg scan msg) in
/-- **Each command for a device is cleared by what the handler was told before it**: in every run of
any routines over any services, if thread `i` processes the message then a command it publishes is the
one for this message, goes to a device that the store offered, that passed the routing gates, the
breaker, the throttles and the check of its card, and is published while the broker is connected and
no earlier command has reached it. -/
theorem published_cleared {routines : List (ServerProg (Except String Unit))} {i : ℕ}
    (hi : routines[i]? = some (processMessage cfg scan msg)) (s : σ) (sched : List ℕ) :
    Justified (fun earlier ev => Cleared cfg scan msg earlier ev.cmd)
      (Pool.eventsOf i ((Pool.start routines s).run M sched).log) := by
  have hlt : i < ((Pool.start (routines.map id) s).run M sched).threads.length := by
    rw [Pool.length_run, Pool.start, List.length_map]
    exact (List.getElem?_eq_some_iff.1 hi).1
  obtain ⟨c, hc, hf⟩ := Pool.follows id routines s sched (List.getElem?_eq_getElem hlt)
  rw [hi] at hc
  cases hc
  have hcleared := processMessage_heeds.justified hf
  rwa [List.map_id] at hcleared

/-- A message that is processed twice at once is sent by both handlers, each after its own checks. -/
theorem greeting_cleared :
    let P := (Pool.start (List.replicate 2 (processMessage .default (fun _ _ _ => (false, [])) greeting))
      (onePhone [])).run (server .default) (List.replicate 40 [0, 1]).flatten
    Sent "message-1" (Pool.eventsOf 1 P.log) ∧
      Justified (fun earlier ev =>
        Cleared .default (fun _ _ _ => (false, [])) greeting earlier ev.cmd) (Pool.eventsOf 1 P.log) :=
  ⟨by unfold Sent; decide +kernel, published_cleared .default _ greeting (server .default) rfl _ _⟩

end AeroxeBee.Dispatch
