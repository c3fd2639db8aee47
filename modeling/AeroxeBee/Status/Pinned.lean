import AeroxeBee.Api.Listing
import AeroxeBee.Api.Usage
import AeroxeBee.Dispatch.Deliveries
import AeroxeBee.Status.Honest

/-!
# Messages for one device

A request can name the device that is to send its message. The name is checked and stored in the row
of the message, but the message on the queue does not carry it. So the dispatch sends the command to
any device of the account that it finds fit, and then makes that the device of the message.

* `Query.device_of_mem_run`: where the device of a message comes from;
* `Routine.keeps_fitting`: only a dispatch tells a device to send a message or moves a row, and only
  to the device whose SIM card it has judged last;
* `goesOnlyTo_run`: the message of a request goes only to the device that the request names, in any
  run in which a dispatch of the message finds the SIM card of each other device blocked.
-/

namespace AeroxeBee

open Foundations

/-! ## Where the device of a message comes from -/

namespace Query

/-- The statement gives the message its device. -/
def Assigns {β : Type} (q : Query β) (m : Message) : Prop :=
  match q with
  | createMessage row => m = row
  | updateDeviceID id deviceID => m.id = id ∧ m.deviceID = some deviceID
  | _ => False

variable {db : Database} {m : Message}

/-- A change of one message that leaves its id and its device alone. -/
theorem device_of_mem_updateMessage {id : String} {f : Message → Message}
    (hid : ∀ m, (f m).id = m.id) (hdevice : ∀ m, (f m).deviceID = m.deviceID)
    (h : m ∈ (db.updateMessage id f).messages) :
    ∃ row ∈ db.messages, row.id = m.id ∧ (m.deviceID = row.deviceID ∨ m.deviceID = none) := by
  obtain ⟨row, hrow, rfl⟩ := List.mem_map.1 h
  refine ⟨row, hrow, ?_⟩
  split_ifs
  · exact ⟨(hid row).symm, .inl (hdevice row)⟩
  · exact ⟨rfl, .inl rfl⟩

theorem orphan_cases (ids : List String) (reference : Option String) :
    Registry.orphan ids reference = reference ∨ Registry.orphan ids reference = none := by
  cases reference with
  | none => exact .inl rfl
  | some id =>
    by_cases h : id ∈ ids
    · exact .inr (by simp [Registry.orphan, h])
    · exact .inl (by simp [Registry.orphan, h])

/-- **Where the device of a message comes from**: the statement has stored the row or moved it, or the
message had the device before. -/
theorem device_of_mem_run {β : Type} {q : Query β} (h : m ∈ (q.run db).2.messages) :
    q.Assigns m ∨
      ∃ row ∈ db.messages, row.id = m.id ∧ (m.deviceID = row.deviceID ∨ m.deviceID = none) := by
  cases q with
  | createMessage row =>
    simp only [run, Database.insertMessage] at h
    split_ifs at h
    · exact .inr ⟨m, h, rfl, .inl rfl⟩
    · exact .inr ⟨m, h, rfl, .inl rfl⟩
    · rcases List.mem_append.1 h with h | h
      · exact .inr ⟨m, h, rfl, .inl rfl⟩
      · exact .inl (List.mem_singleton.1 h)
  | updateDeviceID id deviceID =>
    obtain ⟨row, hrow, rfl⟩ := List.mem_map.1 h
    split_ifs with hid
    · exact .inl ⟨hid, rfl⟩
    · exact .inr ⟨row, hrow, rfl, .inl rfl⟩
  | updateDeliveryStatus id status confidence now =>
    refine .inr (device_of_mem_updateMessage ?_ ?_ h)
    · exact fun _ => rfl
    · exact fun _ => rfl
  | markFailed id reason =>
    refine .inr (device_of_mem_updateMessage ?_ ?_ h)
    · exact fun _ => rfl
    · exact fun _ => rfl
  | retryMessage id =>
    refine .inr (device_of_mem_updateMessage ?_ ?_ h)
    · exact fun _ => rfl
    · exact fun _ => rfl
  | releaseScheduled id =>
    refine .inr (device_of_mem_updateMessage (fun row => ?_) (fun row => ?_) h)
    · split_ifs <;> rfl
    · split_ifs <;> rfl
  | deleteOld now => exact .inr ⟨m, List.mem_of_mem_filter h, rfl, .inl rfl⟩
  | deleteTemplates ids =>
    obtain ⟨row, hrow, rfl⟩ := List.mem_map.1 h
    exact .inr ⟨row, hrow, rfl, .inl rfl⟩
  | deleteAccount id =>
    simp only [run] at h
    split_ifs at h
    · obtain ⟨row, hrow, rfl⟩ := List.mem_map.1 h
      exact .inr ⟨row, List.mem_of_mem_filter hrow, rfl, orphan_cases _ _⟩
    · exact .inr ⟨m, h, rfl, .inl rfl⟩
  | incrementUsage accountID date =>
    rw [show (run db (.incrementUsage accountID date)).2.messages = db.messages from
      db.countUsage_messages accountID date] at h
    exact .inr ⟨m, h, rfl, .inl rfl⟩
  | _ => exact .inr ⟨m, h, rfl, .inl rfl⟩

end Query

end AeroxeBee

namespace AeroxeBee.Status

open Foundations Dispatch Api

/-! ## Messages that go only to one device -/

/-- The topic on which an event publishes a command to send the message. -/
def topicOf (id : String) : Event ServerCmd → Option String
  | ⟨.publish topic payload, _⟩ => if isSend id payload then some topic else none
  | _ => none

/-- A message with the id has this device or none. -/
def HasOnly (id device : String) (db : Database) : Prop :=
  ∀ m ∈ db.messages, m.id = id → ∀ d, m.deviceID = some d → d = device

/-- **The message goes only to the device**: only this device has been told to send it, and its row
has no other device. -/
structure GoesOnlyTo (id device : String) (P : Pool ServerCmd World Unit) : Prop where
  commands : ∀ x ∈ P.log, ∀ topic, topicOf id x.2 = some topic → topic = commandTopic device
  row : HasOnly id device P.state.db

/-- Nothing else that runs on the server stores a message under the id or moves it to a device. -/
def Unmoved (id : String) (w : World) : Prop :=
  ∀ t ∈ w.env, ∀ s : Shared, ∀ m ∈ (t.others s).db.messages, m.id = id →
    ∃ row ∈ s.db.messages, row.id = id ∧ (m.deviceID = row.deviceID ∨ m.deviceID = none)

/-- **The command leads the message to no other device.** No other routine stores a message under the
id, and a dispatch of the message that judges the SIM card of another device finds it blocked. -/
def leadsOnlyTo (cfg : Config) (routines : List Routine) (i : ℕ) (id device : String) (j : ℕ)
    (w : World) : {β : Type} → ServerCmd β → Bool
  | _, .db (.createMessage row) => row.id ≠ id || j = i
  | _, .evaluateDevice d current =>
    routines[j]?.bind Routine.dispatched ≠ some id || d = device ||
      (SimHealth.evaluateDevice cfg.simHealth w.tick.clock (w.tick.history d) current).1 = .blocked
  | _, _ => true

/-- The next command of a thread leads the message to no other device. -/
def LeadsOnlyTo (cfg : Config) (routines : List Routine) (i : ℕ) (id device : String) :
    Pool ServerCmd World Unit → ℕ → Prop :=
  Pool.Meets fun P j {_} e => leadsOnlyTo cfg routines i id device j P.state e = true

instance (cfg : Config) (routines : List Routine) (i : ℕ) (id device : String)
    (P : Pool ServerCmd World Unit) (j : ℕ) :
    Decidable (LeadsOnlyTo cfg routines i id device P j) :=
  inferInstanceAs (Decidable (Pool.Meets _ _ _))

/-! ## What the routines do -/

/-- The protocol of a routine. A dispatch tells a device to send its message, and moves the row to a
device, only if it has judged the SIM card of the device last and not found it blocked; and the
requests store messages for the devices that they name. Nothing else does any of this. -/
def fitting (r : Routine) : Protocol ServerCmd (Option String) where
  allows s := fun e =>
    match e with
    | .publish topic payload =>
      r.dispatched = some payload.id ∧ ∃ d, s = some d ∧ topic = commandTopic d
    | .db (.updateDeviceID id d) => r.dispatched = some id ∧ s = some d
    | .db (.createMessage row) =>
      ∃ caller req, r = .request caller req ∧ row.deviceID = optional req.deviceID
    | _ => True
  expects _ := True
  next := clearing.next

/-- The command leads no message anywhere. -/
def Unled : {β : Type} → ServerCmd β → Prop
  | _, .publish _ _ => False
  | _, .db (.updateDeviceID _ _) => False
  | _, .db (.createMessage _) => False
  | _, .evaluateDevice _ _ => False
  | _, _ => True

section Routines

variable {svc : Services} {scan : ContentScan} {msg : QueueMessage} {r : Routine} {s : Option String}

theorem Unled.allowed {β : Type} {e : ServerCmd β} (h : Unled e) : (fitting r).allows s e := by
  cases e with
  | publish topic payload => exact h.elim
  | db q =>
    cases q with
    | updateDeviceID _ _ | createMessage _ => exact h.elim
    | _ => trivial
  | _ => trivial

theorem Unled.next_eq {β : Type} {e : ServerCmd β} (h : Unled e) (b : β) :
    (fitting r).next s ⟨e, b⟩ = s := by
  cases e with
  | evaluateDevice _ _ => exact h.elim
  | _ => rfl

/-- A program that leads no message anywhere keeps to the protocol. -/
theorem Unled.keeps {α : Type} {p : ServerProg α} (hp : p.Only Unled) :
    p.Keeps (fitting r) (fun s' _ => s' = s) s :=
  Prog.Keeps.of_only hp (fun _ he => he.allowed) fun _ b he => he.next_eq b

theorem Idle.unled {β : Type} {e : ServerCmd β} (h : Idle e) : Unled e := by
  cases e with
  | db q =>
    cases q with
    | eligibleDevices _ | deviceCostProfile _ | incrementUsage _ _ => trivial
    | _ => exact h.elim
  | evaluateDevice _ _ | publish _ _ => exact h.elim
  | _ => trivial

theorem Idle.keeps_fitting {α : Type} {p : ServerProg α} (hp : p.Only Idle) :
    p.Keeps (fitting r) (fun s' _ => s' = s) s :=
  Unled.keeps (hp.mono fun _ => Idle.unled)

/-- A health check that lets a device pass has judged its card last. -/
theorem checkHealth_fitting (device : Device) :
    (checkHealth device).Keeps (fitting r) (fun s' h => h = .ok () → s' = some device.id) s :=
  checkHealth_keeps_of (K := fun s => s = some device.id) trivial (fun _ hpassed => if_neg hpassed)
    fun _ _ _ hs _ => ⟨trivial, fun _ => hs⟩

/-- The row is moved to the device that has been told to send the message. -/
theorem recordSent_fitting (device : Device) :
    (recordSent svc.cfg msg device).Keeps (fitting (.dispatch msg)) (fun _ _ => True)
      (some device.id) := by
  refine ⟨trivial, fun _ _ => ⟨trivial, fun _ _ => ⟨trivial, fun _ _ => ⟨⟨rfl, rfl⟩, fun _ _ => ?_⟩⟩⟩⟩
  refine (Idle.keeps_fitting (incrementDeviceCounters_idle _)).bind fun _ _ _ => ?_
  refine (Idle.keeps_fitting (incrementGlobalThrottle_idle _ _)).bind fun _ _ _ => ?_
  refine ⟨trivial, fun _ _ => ⟨trivial, fun _ _ => ?_⟩⟩
  refine (Idle.keeps_fitting (incrementUsage_idle _)).bind fun _ _ _ => ?_
  exact ⟨trivial, fun _ _ => ⟨trivial, fun _ _ => trivial⟩⟩

theorem trySend_fitting (device : Device) (hs : s = some device.id) :
    (trySend svc.cfg msg device).Keeps (fitting (.dispatch msg))
      (fun _ r => (r ≠ .ok () → True) ∧ (r = .ok () → True)) s := by
  refine trySend_keeps_of (I := fun _ => True) (J := fun s => s = some device.id)
    (K := fun s => s = some device.id) (Q := fun _ => True) (fun s hs => ⟨trivial, fun _ _ => hs⟩)
    (fun s hs => ?_) (fun s _ => ?_) (fun s hs => hs ▸ recordSent_fitting device) hs
  · subst hs
    exact ⟨trivial, fun now _ => ⟨⟨rfl, device.id, rfl, rfl⟩, fun reply _ =>
      ⟨fun _ => rfl, fun _ => rfl⟩⟩⟩
  · exact (Idle.keeps_fitting (recordFailed_idle device)).mono fun _ _ _ => trivial

theorem attempt_fitting (device : Device) :
    (attempt svc.cfg msg device).Keeps (fitting (.dispatch msg))
      (fun _ a => (a ≠ .sent → True) ∧ (a = .sent → True)) s := by
  refine attempt_keeps_of (I := fun _ => True) (Q := fun _ => True)
    (fun s _ => ⟨trivial, fun _ _ => trivial⟩) (fun s _ => ?_) trivial
  refine attemptClosed_keeps_of (J := fun _ => True) (K := fun s => s = some device.id)
    (fun s _ => ?_) (fun s _ => ?_) (fun s hs => trySend_fitting device hs) trivial
  · exact (Idle.keeps_fitting (checkRates_idle device)).mono fun _ _ _ => ⟨trivial, fun _ => trivial⟩
  · exact (checkHealth_fitting device).mono fun _ _ hpassed => ⟨trivial, hpassed⟩

theorem processMessage_fitting :
    (processMessage svc.cfg scan msg).Keeps (fitting (.dispatch msg)) (fun _ _ => True) s := by
  refine processMessage_keeps_of (I := fun _ => True) ?_ (fun d s _ => ?_) fun _ _ _ => trivial
  · exact (Idle.keeps_fitting candidates_idle).mono fun _ _ _ => trivial
  · exact attempt_fitting d

theorem Asks.unled {β : Type} {e : ServerCmd β} (h : Asks e) : Unled e := by
  cases e with
  | db q =>
    cases q with
    | updateDeviceID _ _ | createMessage _ => exact h.elim
    | _ => trivial
  | publish _ _ | evaluateDevice _ _ => exact h.elim
  | _ => trivial

theorem unled_of_releasing {phase : Scheduler.Phase} {β : Type} {e : ServerCmd β}
    (h : Scheduler.releasing.allows phase e) : Unled e := by
  cases e with
  | db q =>
    cases q with
    | updateDeviceID _ _ | createMessage _ => cases phase <;> exact h.elim
    | _ => trivial
  | publish _ _ | evaluateDevice _ _ => cases phase <;> exact h.elim
  | _ => trivial

/-- A request stores messages for the device that it names. -/
theorem fitting_of_creates {caller : Caller} {req : Request} {β : Type} {e : ServerCmd β}
    (h : Creates caller req e) : (fitting (.request caller req)).allows s e := by
  cases e with
  | db q =>
    cases q with
    | createMessage row => exact ⟨caller, req, rfl, h.deviceID⟩
    | updateDeviceID _ _ => exact h.elim
    | _ => trivial
  | publish _ _ => exact h.elim
  | _ => trivial

theorem Revives.unled {β : Type} {e : ServerCmd β} (h : Revives e) : Unled e := by
  cases e with
  | db q =>
    cases q with
    | updateDeviceID _ _ | createMessage _ => exact h.elim
    | _ => trivial
  | publish _ _ | evaluateDevice _ _ => exact h.elim
  | _ => trivial

variable (svc scan) in
/-- **The routines keep to their protocols.** -/
theorem Routine.keeps_fitting (r : Routine) :
    (r.prog svc scan).Keeps (fitting r) (fun _ _ => True) s := by
  have hunled {α : Type} {p : ServerProg α} (hp : p.Only Unled) :
      p.Keeps (fitting r) (fun _ _ => True) s :=
    (Unled.keeps hp).mono fun _ _ _ => trivial
  cases r with
  | request caller req =>
    have hkeeps : (req.handle svc caller).Keeps (Api.creating caller req) (Api.Covers req) [] :=
      Api.Request.handle_creating _ caller req
    have hcreates : (req.handle svc caller).Only (Creates caller req) :=
      hkeeps.only (fun _ _ _ he => he) fun _ => trivial
    refine Prog.keeps_of_only_forall (ignore_only hcreates) (fun s β e he => ?_) fun _ _ => trivial
    exact fitting_of_creates he
  | dispatch msg => exact processMessage_fitting.bind fun _ _ _ => trivial
  | http body =>
    exact hunled (ignore_only ((handleStatusUpdate_asks body).mono fun _ => Asks.unled))
  | mqtt payload => exact hunled ((mqttStatus_asks payload).mono fun _ => Asks.unled)
  | round =>
    refine hunled ((Scheduler.keeps_processDue svc).only (fun _ _ _ he => ?_) fun _ => trivial)
    exact unled_of_releasing he
  | retry id => exact hunled (ignore_only ((retryDeadLetter_revives id).mono fun _ => Revives.unled))
  | cleanup =>
    exact hunled (ignore_only (p := deleteOld) ⟨trivial, fun _ => ⟨trivial, fun _ => trivial⟩⟩)

end Routines

/-! ## What the steps preserve -/

/-- What holds while the message goes only to the device: no dispatch of it has judged another device
last and not found it blocked. -/
structure Led (routines : List Routine) (id device : String) (P : Pool ServerCmd World Unit) :
    Prop where
  goes : GoesOnlyTo id device P
  unmoved : Unmoved id P.state
  judged : ∀ j r, routines[j]? = some r → r.dispatched = some id →
    ∀ d, P.phase clearing.next none j = some d → d = device

theorem Unmoved.tick {id device : String} {w : World} (h : Unmoved id w)
    (hdevice : HasOnly id device w.db) : HasOnly id device w.tick.db := by
  unfold World.tick World.next
  cases henv : w.env with
  | nil => exact hdevice
  | cons t ts =>
    intro m hm hid d hd
    obtain ⟨row, hrow, hrowid, hsame⟩ := h t (henv ▸ List.mem_cons_self) w.toShared m hm hid
    rcases hsame with hsame | hnone
    · exact hdevice row hrow hrowid d (hsame ▸ hd)
    · rw [hnone] at hd
      cases hd

/-- What a statement leaves of a message whose device it does not change. -/
theorem HasOnly.run {id device : String} {db : Database} (h : HasOnly id device db) {β : Type}
    {q : Query β} (hq : ∀ m, q.Assigns m → m.id = id → ∀ d, m.deviceID = some d → d = device) :
    HasOnly id device (q.run db).2 := by
  intro m hm hid d hd
  rcases Query.device_of_mem_run hm with hassigns | ⟨row, hrow, hrowid, hsame⟩
  · exact hq m hassigns hid d hd
  · rcases hsame with hsame | hnone
    · exact h row hrow (hrowid.trans hid) d (hsame ▸ hd)
    · rw [hnone] at hd
      cases hd

section Step

variable {cfg : Config} {routines : List Routine} {i j : ℕ} {id device : String} {r : Routine}
  {P : Pool ServerCmd World Unit} {β : Type} {e : ServerCmd β} {k : β → ServerProg Unit}
  {caller : Caller} {req : Request}

/-- **What a step of a routine preserves**, if it leads the message to no other device. -/
theorem Led.step (h : Led routines id device P) (hi : routines[i]? = some (.request caller req))
    (hdevice : Api.optional req.deviceID = some device) (hj : routines[j]? = some r)
    (hallows : (fitting r).allows (P.phase clearing.next none j) e)
    (hleads : leadsOnlyTo cfg routines i id device j P.state e = true) :
    Led routines id device (P.advance (server cfg) j e k) := by
  refine ⟨⟨?_, ?_⟩, ?_, ?_⟩
  · intro x hx topic htopic
    rcases List.mem_append.1 hx with hx | hx
    · exact h.goes.commands x hx topic htopic
    · obtain rfl := List.mem_singleton.1 hx
      cases e with
      | publish topic' payload =>
        obtain ⟨hdispatched, d, hd, rfl⟩ := hallows
        simp only [topicOf] at htopic
        split_ifs at htopic with hsend
        obtain rfl := Option.some.inj htopic
        have hid : payload.id = id := by
          rw [isSend, Bool.and_eq_true, decide_eq_true_eq, decide_eq_true_eq] at hsend
          exact hsend.2
        rw [h.judged j r hj (hid ▸ hdispatched) d hd]
      | _ => cases htopic
  · have htick := h.unmoved.tick h.goes.row
    change HasOnly id device ((server cfg).step e P.state).2.db
    cases e with
    | db q =>
      rw [step_statement]
      split_ifs
      · exact htick
      · refine htick.run fun m hassigns hid d hd => ?_
        cases q with
        | createMessage row =>
          obtain rfl : m = row := hassigns
          obtain ⟨caller', req', rfl, hrow⟩ := hallows
          have hthread : j = i := by simpa [leadsOnlyTo, hid] using hleads
          subst hthread
          cases hi.symm.trans hj
          rw [hrow, hdevice] at hd
          exact (Option.some.inj hd).symm
        | updateDeviceID id' d' =>
          obtain ⟨hid', hd'⟩ := hassigns
          obtain ⟨hdispatched, hphase⟩ := hallows
          obtain rfl : d' = d := Option.some.inj (hd'.symm.trans hd)
          exact h.judged j r hj (hdispatched.trans (congrArg some (hid'.symm.trans hid))) d' hphase
        | _ => exact hassigns.elim
    | _ =>
      rw [step_db]
      exact htick
  · intro t ht
    change t ∈ ((server cfg).step e P.state).2.env at ht
    rw [step_env] at ht
    exact h.unmoved t (List.mem_of_mem_tail ht)
  · intro j' r' hj' hdispatched d hd
    rw [Pool.phase_advance] at hd
    by_cases hsame : j' = j
    · subst hsame
      rw [Function.update_self] at hd
      cases e with
      | evaluateDevice d' current =>
        generalize hjudged : ((server cfg).step (.evaluateDevice d' current) P.state).1 = judged at hd
        obtain ⟨status, slope⟩ := judged
        change (if status = .blocked then none else some d') = some d at hd
        split_ifs at hd with hblocked
        obtain rfl := Option.some.inj hd
        have hdispatches : routines[j']?.bind Routine.dispatched = some id := by
          rw [hj', Option.bind_some, hdispatched]
        by_contra hother
        have hstatus : (SimHealth.evaluateDevice cfg.simHealth P.state.tick.clock
            (P.state.tick.history d') current).1 = .blocked := by
          simpa [leadsOnlyTo, hdispatches, hother] using hleads
        exact hblocked ((congrArg Prod.fst hjudged).symm.trans hstatus)
      | _ => exact h.judged j' r' hj' hdispatched d hd
    · rw [Function.update_of_ne hsame] at hd
      exact h.judged j' r' hj' hdispatched d hd

end Step

/-- **The message of a request goes only to the device that the request names**, in every state of
every run of any number of routines, however they interleave and whatever fails, if each step of the
run leads the message to no other device. -/
theorem goesOnlyTo_run (svc : Services) (scan : ContentScan) (routines : List Routine) (w : World)
    {i : ℕ} {caller : Caller} {req : Request} (hi : routines[i]? = some (.request caller req))
    (hdevice : req.deviceID ≠ "") (id : String) (hnew : ∀ m ∈ w.db.messages, m.id ≠ id)
    (hunmoved : Unmoved id w) (sched : List ℕ)
    (h : Pool.EachStep (server svc.cfg) (LeadsOnlyTo svc.cfg routines i id req.deviceID)
      (serving svc scan routines w) sched) :
    GoesOnlyTo id req.deviceID ((serving svc scan routines w).run (server svc.cfg) sched) := by
  have hphased : Pool.Phased (Routine.prog svc scan) fitting (fun _ _ _ => True) clearing.next
      none := ⟨fun _ => rfl, fun _ _ => trivial, fun r => r.keeps_fitting svc scan⟩
  refine (Pool.run_phases_inv hphased (I := Led routines id req.deviceID) ?_ h
    fun P j r β e k hj hact hallows _ hP hleads => ?_).goes
  · refine ⟨⟨fun _ hx => absurd hx List.not_mem_nil, fun m hm hid => absurd hid (hnew m hm)⟩,
      hunmoved, fun _ _ _ _ d hd => ?_⟩
    cases hd
  · exact hP.step hi (by simp [Api.optional, hdevice]) hj hallows (Pool.meets_of_act hleads hact)

/-- The request to `send`, for a device. -/
def addressed (deviceID : String) : Request :=
  .send (order.body.map fun req => { req with deviceID := deviceID })

/-- The request, and the dispatch of its message. -/
def addressedAndDispatched (deviceID : String) : List Routine :=
  [.request order.caller (addressed deviceID), .dispatch orderQueued]

/-- A message for the only device goes to this device. -/
theorem goesOnlyTo_run_onePhone :
    GoesOnlyTo orderQueued.id "device-1" ((serving plainServices noViolations
      (addressedAndDispatched "device-1") (onePhone [])).run (server plainServices.cfg)
        requestFirst) :=
  goesOnlyTo_run plainServices noViolations (addressedAndDispatched "device-1") (onePhone [])
    (show (addressedAndDispatched "device-1")[0]? =
      some (.request order.caller (addressed "device-1")) from rfl) (by decide) orderQueued.id
    (fun _ hm => absurd hm List.not_mem_nil) (fun _ ht => absurd ht List.not_mem_nil) requestFirst
    (by decide +kernel)

/-- A server with two devices of the same account. -/
def twoDevices : World :=
  { onePhone [] with db := { (onePhone []).db with devices := [phone, secondPhone] } }

/-- The request for the second of them, and the dispatch of its message. -/
def forSecond : Pool ServerCmd World Unit :=
  (serving plainServices noViolations (addressedAndDispatched "device-2") twoDevices).run
    (server plainServices.cfg) requestFirst

/-- A message for the second device is accepted and stored for it, and goes to the first one. -/
theorem sent_elsewhere :
    (((addressed "device-2").handle plainServices order.caller).exec (server plainServices.cfg)
        twoDevices).val = .queued orderQueued.id .transactional (some "order-17") 0 0 ∧
    (((addressed "device-2").handle plainServices order.caller).exec (server plainServices.cfg)
        twoDevices).state.db.messages.map Message.deviceID = [some "device-2"] ∧
    forSecond.log.filterMap (fun x => topicOf orderQueued.id x.2) = [commandTopic "device-1"] ∧
    ¬ GoesOnlyTo orderQueued.id "device-2" forSecond := by
  refine ⟨by decide +kernel, by decide +kernel, by decide +kernel, fun h => ?_⟩
  have hrows : forSecond.state.db.messages.map (fun m => (m.id, m.deviceID)) =
      [(orderQueued.id, some "device-1")] := by
    decide +kernel
  obtain ⟨m, hm, hrow⟩ : ∃ m ∈ forSecond.state.db.messages,
      (m.id, m.deviceID) = (orderQueued.id, some "device-1") :=
    List.mem_map.1 (hrows ▸ List.mem_singleton_self _)
  obtain ⟨hid, hdevice⟩ := Prod.mk.inj hrow
  exact absurd (h.row m hm hid "device-1" hdevice) (by decide)

end AeroxeBee.Status
