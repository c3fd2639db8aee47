import AeroxeBee.Status.Honest

/-!
# What a failure that a phone reports does to the judgement of its device

The health of a SIM card is judged by the outcomes of its deliveries, and the breaker of a device
counts its failures. Both are told of a delivery when the command has been published, before the
phone has sent anything: what the phone reports later is written to the rows of the message and of
the device, and to nothing else.

* `feeds_iff`: no report of a failure is taken account of in the judgement of its device;
* `wellJudged_run`: as long as every command can be published, no device is judged badly, whatever
  the phones report.
-/

namespace AeroxeBee.Status

open Foundations Dispatch Api

/-! ## Reports of failures -/

/-- The report of a failure that a routine handles. -/
def Routine.failure : Routine → Option StatusUpdateRequest
  | http body => body.filter (·.status = "FAILED")
  | mqtt payload => payload.filter (·.status = "FAILED")
  | _ => none

/-- An event that marks a message as failed. -/
def marksFailed (id : String) : Event ServerCmd → Bool
  | ⟨.db (.markFailed id' _), _⟩ => id' = id
  | _ => false

/-- An event by which a device has been told to send a message. -/
def tellsDevice (deviceID id : String) : Event ServerCmd → Bool
  | ⟨.publish topic payload, .ok ()⟩ => topic = commandTopic deviceID && payload.id = id
  | _ => false

/-- An event that adds a failed delivery of a device to those that its SIM card is judged by. -/
def samplesFailure (deviceID : String) : Event ServerCmd → Bool
  | ⟨.recordDelivery deviceID' success, _⟩ => deviceID' = deviceID && !success
  | _ => false

/-- An event that counts a failure for the breaker of a device. -/
def countsFailure (deviceID : String) : Event ServerCmd → Bool
  | ⟨.recordFailure .device deviceID', _⟩ => deviceID' = deviceID
  | _ => false

/-- A thread has handled the report of a failure of a message that a device was told to send, and
has not turned it away. -/
def Reported (routines : List Routine) (P : Pool ServerCmd World Unit) (i : ℕ) (deviceID : String) :
    Prop :=
  ∃ req, routines[i]?.bind Routine.failure = some req ∧ P.threads[i]? = some (.ret ()) ∧
    (∃ ev ∈ Pool.eventsOf i P.log, marksFailed req.messageID ev = true) ∧
    ∃ x ∈ P.log, tellsDevice deviceID req.messageID x.2 = true

/-- **Reported failures feed the judgement**: the thread that has handled one has added a failed
delivery of the device, and has counted a failure for its breaker. -/
def Feeds (routines : List Routine) (P : Pool ServerCmd World Unit) : Prop :=
  ∀ i deviceID, Reported routines P i deviceID →
    (∃ ev ∈ Pool.eventsOf i P.log, samplesFailure deviceID ev = true) ∧
      ∃ ev ∈ Pool.eventsOf i P.log, countsFailure deviceID ev = true

/-- A report of a failure is handled with statements only. -/
theorem Routine.asks (svc : Services) (scan : ContentScan) {r : Routine} {req : StatusUpdateRequest}
    (hr : r.failure = some req) : (r.prog svc scan).Only Asks := by
  cases r with
  | http body => exact ignore_only (handleStatusUpdate_asks body)
  | mqtt payload => exact mqttStatus_asks payload
  | _ => cases hr

/-- **When reported failures feed the judgement**: only in runs without a report of a failure of a
message that a device was told to send. -/
theorem feeds_iff (svc : Services) (scan : ContentScan) (routines : List Routine) (w : World)
    (sched : List ℕ) :
    Feeds routines ((serving svc scan routines w).run (server svc.cfg) sched) ↔
      ∀ i deviceID,
        ¬Reported routines ((serving svc scan routines w).run (server svc.cfg) sched) i deviceID := by
  constructor
  · intro h i deviceID hreported
    obtain ⟨⟨⟨e, b⟩, hev, hsample⟩, -⟩ := h i deviceID hreported
    obtain ⟨req, hreq, hdone, -⟩ := hreported
    obtain ⟨r, hr, hf⟩ := Pool.follows (Routine.prog svc scan) routines w sched hdone
    rw [hr, Option.bind_some] at hreq
    have hasks := hf.forall_mem (Routine.asks svc scan hreq) _ hev
    cases e with
    | recordDelivery _ _ => exact hasks.elim
    | _ => cases hsample
  · exact fun h i deviceID hreported => absurd hreported (h i deviceID)

/-! ## Devices that are judged well -/

/-- Nothing is known against any device: every delivery has succeeded, and every breaker is closed. -/
structure WellJudged (s : Shared) : Prop where
  samples : ∀ deviceID, ∀ sample ∈ s.history deviceID, sample.success = true
  closed : ∀ key cs, s.breakers key = some cs → cs.state = .closed

/-- A command that does not report a failure to the engine or to a breaker. -/
def unfailing : {β : Type} → ServerCmd β → Bool
  | _, .recordFailure _ _ => false
  | _, .recordDelivery _ success => success
  | _, _ => true

section WellJudged

variable {cfg : Config} {w : World}

/-- A card whose deliveries have all succeeded keeps its status. -/
theorem evaluateDevice_of_success {health : SIMHealthConfig} (hb : health.blockedThreshold ≤ 1)
    (hd : health.degradedThreshold ≤ 1) {samples : List DeliverySample}
    (hsamples : ∀ sample ∈ samples, sample.success = true) (now : ℤ) (status : SIMHealthStatus) :
    (SimHealth.evaluateDevice health now samples status).1 = status := by
  have hrate : SimHealth.calculateRate
      (SimHealth.filterByDuration now samples health.windowDuration) = 1 := by
    unfold SimHealth.calculateRate
    split_ifs with hempty
    · rfl
    · have hall : (SimHealth.filterByDuration now samples health.windowDuration).filter
          (fun s => s.success) = SimHealth.filterByDuration now samples health.windowDuration :=
        List.filter_eq_self.2 fun s hs => hsamples s (List.mem_of_mem_filter hs)
      rw [hall]
      exact div_self (Nat.cast_ne_zero.2 hempty)
  simp only [SimHealth.evaluateDevice, hrate]
  rw [if_neg (not_lt.2 hb), if_neg (not_lt.2 hd)]

/-- A device that nothing is known against is neither blocked nor turned away. -/
theorem WellJudged.judged {s : Shared} (h : WellJudged s) (hb : cfg.simHealth.blockedThreshold ≤ 1)
    (hd : cfg.simHealth.degradedThreshold ≤ 1) (now : ℤ) (deviceID : String)
    (status : SIMHealthStatus) :
    (SimHealth.evaluateDevice cfg.simHealth now (s.history deviceID) status).1 = status ∧
      (s.breakers.isOpen now .device deviceID).1 = false := by
  refine ⟨evaluateDevice_of_success hb hd (h.samples deviceID) now status, ?_⟩
  refine Bool.eq_false_iff.2 fun hopen => ?_
  obtain ⟨cs, hcs, hopened, -⟩ := StateManager.isOpen_iff.1 hopen
  cases (h.closed _ cs hcs).symm.trans hopened

/-- The breaker that another is stored beside. -/
theorem closed_putState {sm : StateManager} {scope : CircuitBreakerScope} {scopeValue : String}
    {cs : CircuitState} (h : ∀ key cs, sm key = some cs → cs.state = .closed)
    (hcs : cs.state = .closed) (key : String) (cs' : CircuitState)
    (hkey : sm.putState scope scopeValue cs key = some cs') : cs'.state = .closed := by
  by_cases heq : key = StateManager.keyCB scope scopeValue
  · subst heq
    rw [StateManager.putState, Function.update_self] at hkey
    rwa [← Option.some.inj hkey]
  · rw [StateManager.putState_of_ne heq] at hkey
    exact h key cs' hkey

theorem closed_getOrCreateState {sm : StateManager} (h : ∀ key cs, sm key = some cs → cs.state = .closed)
    (scope : CircuitBreakerScope) (scopeValue : String) :
    (sm.getOrCreateState scope scopeValue).state = .closed := by
  unfold StateManager.getOrCreateState
  cases hcs : sm (StateManager.keyCB scope scopeValue) with
  | none => rfl
  | some cs => exact h _ cs hcs

/-- **What a command that reports no failure leaves**: nothing against any device. -/
theorem WellJudged.step (h : WellJudged w.toShared) (hw : Alone w) {β : Type} {e : ServerCmd β}
    (he : unfailing e = true) : WellJudged ((server cfg).step e w).2.toShared := by
  have htick : WellJudged w.tick.toShared := by rwa [hw.tick]
  cases e with
  | recordFailure _ _ => cases he
  | recordDelivery deviceID success =>
    refine ⟨fun deviceID' sample hsample => ?_, htick.closed⟩
    change sample ∈ SimHealth.recordDelivery _ _ _ _ deviceID' at hsample
    by_cases heq : deviceID' = deviceID
    · subst heq
      rw [SimHealth.recordDelivery, Function.update_self] at hsample
      rcases List.mem_append.1 hsample with hold | hnew
      · exact htick.samples deviceID' sample hold
      · rw [List.mem_singleton.1 hnew]
        exact he
    · rw [SimHealth.recordDelivery, Function.update_of_ne heq] at hsample
      exact htick.samples deviceID' sample hsample
  | recordSuccess scope scopeValue =>
    refine ⟨htick.samples, ?_⟩
    change ∀ key cs, StateManager.recordSuccess _ w.tick.breakers scope scopeValue key = some cs → _
    have hclosed := closed_getOrCreateState htick.closed scope scopeValue
    simp only [StateManager.recordSuccess, hclosed]
    rw [if_neg (by decide), if_neg (by decide)]
    exact closed_putState htick.closed rfl
  | isOpen scope scopeValue =>
    refine ⟨htick.samples, ?_⟩
    change ∀ key cs, (StateManager.isOpen w.tick.breakers _ scope scopeValue).2 key = some cs → _
    have hclosed := closed_getOrCreateState htick.closed scope scopeValue
    simp only [StateManager.isOpen, StateManager.getState, hclosed]
    rw [if_neg (by simp)]
    exact closed_putState htick.closed hclosed
  | reset scope scopeValue =>
    refine ⟨htick.samples, fun key cs hkey => ?_⟩
    change w.tick.breakers.reset scope scopeValue key = some cs at hkey
    by_cases heq : key = StateManager.keyCB scope scopeValue
    · subst heq
      rw [StateManager.reset, Function.update_self] at hkey
      cases hkey
    · rw [StateManager.reset, Function.update_of_ne heq] at hkey
      exact htick.closed key cs hkey
  | publish topic payload =>
    cases hfault : w.next.fault <;> simpa [server, serve, hfault] using htick
  | _ => exact ⟨htick.samples, htick.closed⟩

end WellJudged

/-- **Devices are judged well whatever the phones report**: in a run in which no command reports a
failure, that is, as long as every command can be published, nothing is known against any device. -/
theorem wellJudged_run (svc : Services) (scan : ContentScan) (routines : List Routine) (w : World)
    (hw : Alone w) (hwell : WellJudged w.toShared) (sched : List ℕ)
    (h : Pool.EachStep (server svc.cfg) (Pool.Meets fun _ _ {β} (e : ServerCmd β) => unfailing e = true)
      (serving svc scan routines w) sched) :
    WellJudged ((serving svc scan routines w).run (server svc.cfg) sched).state.toShared := by
  refine (Pool.run_labelled_inv_of (I := fun P => Alone P.state ∧ WellJudged P.state.toShared)
    (Routine.prog svc scan) routines w sched ⟨hw, hwell⟩ h fun P i r β e k _ hi _ hP hmeets => ?_).2
  exact ⟨hP.1.step e, hP.2.step hP.1 (Pool.meets_of_act hmeets hi)⟩

/-! ## A phone without service -/

/-- A message is dispatched, and the phone reports that it could not be sent. -/
def withoutService : List Routine := [.dispatch greeting, .mqtt (some failedReport)]

/-- The run in which the report arrives after the dispatch. -/
def reportedRun : Pool ServerCmd World Unit :=
  (serving plainServices (fun _ _ _ => (false, [])) withoutService (oneMessage waitingMessage)).run
    (server plainServices.cfg) (List.replicate 40 0 ++ List.replicate 3 1)

/-- The report is recorded, but what the device is judged by is a delivery that succeeded. -/
theorem failure_not_fed :
    (reportedRun.state.db.messages.map Message.status) = ["failed"] ∧
      reportedRun.state.history "device-1" = [⟨0, true⟩] ∧
        (reportedRun.state.breakers.isOpen 0 .device "device-1").1 = false ∧
          ¬Feeds withoutService reportedRun := by
  refine ⟨by decide +kernel, by decide +kernel, by decide +kernel, fun h => ?_⟩
  have hreturned : reportedRun.threads[1]?.bind Pool.returned = some () := by decide +kernel
  have hdone : reportedRun.threads[1]? = some (.ret ()) := by
    revert hreturned
    rcases reportedRun.threads[1]? with _ | (_ | _) <;> simp [Pool.returned]
  have hmarked : (Pool.eventsOf 1 reportedRun.log).any (marksFailed "message-1") = true := by
    decide +kernel
  have htold : reportedRun.log.any (fun x => tellsDevice "device-1" "message-1" x.2) = true := by
    decide +kernel
  have hnone : (Pool.eventsOf 1 reportedRun.log).any (samplesFailure "device-1") = false := by
    decide +kernel
  obtain ⟨⟨ev, hev, hsample⟩, -⟩ := h 1 "device-1"
    ⟨failedReport, rfl, hdone, List.any_eq_true.1 hmarked, List.any_eq_true.1 htold⟩
  exact absurd hsample (List.any_eq_false.1 hnone ev hev)

end AeroxeBee.Status
