import AeroxeBee.Dispatch.Acknowledged

/-!
# The reports of the devices

A device reports what became of a message over one of two channels: the endpoint
`POST /devices/status`, and the MQTT topic `devices/+/status`. The endpoint ignores the report if
the delivery status of the message is one of the four that are defined, and the status a message
is stored with is one of them; the topic never looks at the message. The endpoint takes a device
that could not send a message off line; the topic does not.

* `exec_mqttStatus`, `exec_handleStatusUpdate`: what each channel leaves of the rows;
* `channels_agree_iff`: when the two channels leave the same.
-/

namespace AeroxeBee.Status

open Foundations

/-! ## The two channels -/

/-- The report of a device. -/
structure StatusUpdateRequest where
  messageID : String
  deviceID : String
  status : String
  deliveryStatus : String
  confidenceScore : ℚ
  error : Option String
deriving DecidableEq

/-- Store how far the delivery of a message has come. -/
def updateDeliveryStatus (id : String) (status : DeliveryStatus) (confidence : ℚ) :
    ServerProg (Except String Unit) := do
  let now ← Prog.call .now
  Prog.call (.db (.updateDeliveryStatus id status confidence now))

/-- Note that a device has been heard of. -/
def updatePong (id : String) : ServerProg (Except String Unit) := do
  let now ← Prog.call .now
  Prog.call (.db (.updatePong id now))

/-- Store whether a device is connected. -/
def updateStatus (id : String) (status : DeviceStatus) : ServerProg (Except String Unit) := do
  let now ← Prog.call .now
  Prog.call (.db (.updateStatus id status now))

/-- Do something about the device of a report, if the report names one. -/
def forDevice (deviceID : String) (p : String → ServerProg (Except String Unit)) :
    ServerProg Unit :=
  if deviceID ≠ "" then do
    let _ ← p deviceID
    return ()
  else return ()

/-- Why a message failed. -/
def StatusUpdateRequest.reason (req : StatusUpdateRequest) : String :=
  req.error.getD "device reported failure"

/-- The delivery status is one of the four that are defined, which the endpoint takes for
terminal. -/
def isTerminal (status : DeliveryStatus) : Bool :=
  status = .sent || status = .carrierAccepted || status = .probableDelivered || status = .failed

/-- A report over HTTP about a message that is not yet settled. -/
def recordReport (req : StatusUpdateRequest) : ServerProg Unit :=
  if req.status = "SENT" ∨ req.status = "DELIVERED" then do
    let _ ← updateDeliveryStatus req.messageID ⟨req.deliveryStatus⟩ req.confidenceScore
    forDevice req.deviceID updatePong
  else if req.status = "FAILED" then do
    let _ ← Prog.call (.db (.markFailed req.messageID req.reason))
    forDevice req.deviceID fun id => updateStatus id .offline
  else return ()

/-- A report over HTTP, once its message has been looked up. -/
def reportOn (req : StatusUpdateRequest) :
    Except String (Option Message) → ServerProg (Except HttpError Unit)
  | .ok (some existing) =>
    if isTerminal existing.deliveryStatus then return .ok ()
    else do
      recordReport req
      return .ok ()
  | _ => do
    recordReport req
    return .ok ()

/-- A report over HTTP. -/
def handleStatusUpdate : Option StatusUpdateRequest → ServerProg (Except HttpError Unit)
  | none => return .error ⟨400, "invalid request body"⟩
  | some req =>
    if req.messageID = "" then return .error ⟨400, "message_id is required"⟩
    else do
      let existing ← Prog.call (.db (.messageByID req.messageID))
      reportOn req existing

/-- A report over MQTT, from the payload on. -/
def mqttStatus : Option StatusUpdateRequest → ServerProg Unit
  | none => return ()
  | some report =>
    if report.status = "SENT" ∨ report.status = "DELIVERED" then do
      let _ ← updateDeliveryStatus report.messageID ⟨report.deliveryStatus⟩ 1
      forDevice report.deviceID updatePong
    else if report.status = "FAILED" then do
      let _ ← Prog.call (.db (.markFailed report.messageID report.reason))
      forDevice report.deviceID updatePong
    else return ()

/-! ## What a report leaves -/

/-- What is recorded of a message: its status, its delivery status and the reason of an error. -/
structure Recorded where
  status : String
  deliveryStatus : DeliveryStatus
  errorReason : Option String
deriving DecidableEq

/-- What is recorded of a message. -/
def recorded (m : Message) : Recorded := ⟨m.status, m.deliveryStatus, m.errorReason⟩

/-- What is recorded of the message with an id. -/
def recordOf (db : Database) (id : String) : Option Recorded := (db.message? id).map recorded

/-- The status of the device with an id. -/
def statusOf (db : Database) (id : String) : Option DeviceStatus :=
  (db.device? id).map Device.status

/-- What the row of a message says about its delivery, apart from the time. -/
structure Outcome extends Recorded where
  confidenceScore : ℚ
  delivered : Bool
deriving DecidableEq

/-- What the row of a message says about its delivery. -/
def outcome (m : Message) : Outcome :=
  ⟨recorded m, m.confidenceScore, m.deliveredAt.isSome⟩

/-- What the database says about the delivery of the message with an id. -/
def outcomeOf (db : Database) (id : String) : Option Outcome := (db.message? id).map outcome

/-- What is written about the delivery of a message. -/
inductive Verdict where
  | delivered (status : DeliveryStatus) (confidence : ℚ)
  | failed (reason : String)
deriving DecidableEq

/-- What a verdict makes of the row of its message. -/
def Verdict.apply : Verdict → Outcome → Outcome
  | delivered status confidence, o => ⟨⟨"delivered", status, o.errorReason⟩, confidence, true⟩
  | failed reason, o => ⟨⟨"failed", .failed, some reason⟩, o.confidenceScore, o.delivered⟩

/-- What a report says about its message, if a delivery is given the confidence. -/
def StatusUpdateRequest.verdict (req : StatusUpdateRequest) (confidence : ℚ) : Verdict :=
  if req.status = "FAILED" then .failed req.reason else .delivered ⟨req.deliveryStatus⟩ confidence

/-- What a report makes of what is recorded of its message, if it is taken account of. -/
def StatusUpdateRequest.effect (req : StatusUpdateRequest) (r : Recorded) : Recorded :=
  if req.status = "FAILED" then ⟨"failed", .failed, some req.reason⟩
  else ⟨"delivered", ⟨req.deliveryStatus⟩, r.errorReason⟩

/-- A report of one of the three kinds. -/
def StatusUpdateRequest.Known (req : StatusUpdateRequest) : Prop :=
  req.status = "SENT" ∨ req.status = "DELIVERED" ∨ req.status = "FAILED"

/-- The endpoint ignores the report. -/
def ignored (db : Database) (req : StatusUpdateRequest) : Bool :=
  req.messageID = "" || (db.message? req.messageID).any fun m => isTerminal m.deliveryStatus

/-- The message with the id is recorded as failed. -/
def RecordedFailed (db : Database) (id : String) : Prop :=
  ∃ r, recordOf db id = some r ∧ r.status = "failed" ∧ r.deliveryStatus = .failed

/-- **The two channels agree** on a report: they leave the same recorded of every message and the
same status of every device, and a failure of a message that has not been reported on before is
recorded by both. -/
def ChannelsAgree (cfg : Config) (reported : Message → Prop) (req : StatusUpdateRequest)
    (w : World) : Prop :=
  let http := ((handleStatusUpdate (some req)).exec (server cfg) w).state.db
  let mqtt := ((mqttStatus (some req)).exec (server cfg) w).state.db
  (∀ id, recordOf http id = recordOf mqtt id) ∧ (∀ id, statusOf http id = statusOf mqtt id) ∧
    (req.status = "FAILED" → ∀ m, w.db.message? req.messageID = some m → ¬ reported m →
      RecordedFailed http req.messageID ∧ RecordedFailed mqtt req.messageID)

/-- The report makes no difference to its device, which is on line already or unknown. -/
def KeepsDevice (db : Database) (req : StatusUpdateRequest) : Prop :=
  req.deviceID = "" ∨ ∀ status ∈ statusOf db req.deviceID, status = .online

/-- The difference between the channels does not show: a report that the endpoint ignores says
nothing new, and a failure that it does not ignore comes from a device that is not known. -/
def Harmless (db : Database) (req : StatusUpdateRequest) : Prop :=
  if ignored db req = true then
    (∀ r ∈ recordOf db req.messageID, req.effect r = r) ∧ KeepsDevice db req
  else req.status = "FAILED" → req.deviceID = "" ∨ statusOf db req.deviceID = none

instance (db : Database) (req : StatusUpdateRequest) : Decidable (KeepsDevice db req) :=
  inferInstanceAs (Decidable (_ ∨ _))

instance (db : Database) (req : StatusUpdateRequest) : Decidable (Harmless db req) := by
  unfold Harmless
  infer_instance

/-! ## Rows -/

section Rows

variable (db : Database) (id : String)

theorem recordOf_eq : recordOf db id = (outcomeOf db id).map Outcome.toRecorded := by
  rw [outcomeOf, Option.map_map]
  rfl

/-- A change of one message that amounts to a verdict. -/
theorem outcomeOf_updateMessage {f : Message → Message} {v : Verdict}
    (hid : ∀ m, (f m).id = m.id) (hf : ∀ m, outcome (f m) = v.apply (outcome m)) (id' : String) :
    outcomeOf (db.updateMessage id f) id' =
      if id' = id then (outcomeOf db id').map v.apply else outcomeOf db id' := by
  unfold outcomeOf
  rw [db.message?_updateMessage hid]
  split_ifs
  · rw [Option.map_map, Option.map_map]
    congr 1
    funext m
    exact hf m
  · rfl

/-- A change of one message that its outcome does not show. -/
theorem outcomeOf_updateMessage_same {f : Message → Message} (hid : ∀ m, (f m).id = m.id)
    (hf : ∀ m, outcome (f m) = outcome m) (id' : String) :
    outcomeOf (db.updateMessage id f) id' = outcomeOf db id' := by
  unfold outcomeOf
  rw [db.message?_updateMessage hid]
  split_ifs
  · rw [Option.map_map]
    congr 1
    funext m
    exact hf m
  · rfl

theorem statusOf_updateDevice {f : Device → Device} {status : DeviceStatus}
    (hid : ∀ d, (f d).id = d.id) (hf : ∀ d, (f d).status = status) (id' : String) :
    statusOf (db.updateDevice id f) id' =
      if id' = id then (statusOf db id').map fun _ => status else statusOf db id' := by
  unfold statusOf
  rw [db.device?_updateDevice hid]
  split_ifs
  · rw [Option.map_map, Option.map_map]
    congr 1
    funext d
    exact hf d
  · rfl

@[simp] theorem outcomeOf_updateDevice (f : Device → Device) (id' : String) :
    outcomeOf (db.updateDevice id f) id' = outcomeOf db id' := rfl

@[simp] theorem statusOf_updateMessage (f : Message → Message) (id' : String) :
    statusOf (db.updateMessage id f) id' = statusOf db id' := rfl

end Rows

/-! ## Routines on a calm server -/

section Yields

variable {cfg : Config} {α β : Type} {R S : Database → Database → Prop}

/-- On a calm server the routine relates the database before it to the one after it. -/
def Yields (cfg : Config) (p : ServerProg α) (R : Database → Database → Prop) : Prop :=
  ∀ w, Calm w → Calm (p.exec (server cfg) w).state ∧ R w.db (p.exec (server cfg) w).state.db

theorem Yields.ret (a : α) (hR : ∀ db, R db db) : Yields cfg (.ret a) R :=
  fun w hw => ⟨hw, hR w.db⟩

theorem Yields.bind {p : ServerProg α} {f : α → ServerProg β} {T : Database → Database → Prop}
    (hp : Yields cfg p R) (hf : ∀ a, Yields cfg (f a) S)
    (hT : ∀ db₁ db₂ db₃, R db₁ db₂ → S db₂ db₃ → T db₁ db₃) : Yields cfg (p >>= f) T := by
  intro w hw
  obtain ⟨hw₁, hR⟩ := hp w hw
  obtain ⟨hw₂, hS⟩ := hf _ _ hw₁
  rw [Prog.exec_bind]
  exact ⟨hw₂, hT _ _ _ hR hS⟩

theorem Yields.query (q : Query β) (hR : ∀ db, R db (q.run db).2) :
    Yields cfg (Prog.call (.db q)) R := by
  intro w hw
  rw [Prog.exec_call]
  refine ⟨hw.step _, ?_⟩
  rw [(hw.step_query _ q).2]
  exact hR w.db

/-- A statement that is given the time. -/
theorem Yields.stamped {q : ℤ → Query β} (hR : ∀ db now, R db ((q now).run db).2) :
    Yields cfg (Prog.call .now >>= fun now => Prog.call (.db (q now))) R := by
  intro w hw
  have hw₁ : Calm ((server cfg).step .now w).2 := hw.step _
  have hdb₁ : ((server cfg).step .now w).2.db = w.db := (step_db _ _ _).trans hw.alone.tick_db
  rw [Prog.exec_bind, Prog.exec_call, Prog.exec_call]
  refine ⟨hw₁.step _, ?_⟩
  rw [(hw₁.step_query _ _).2, hdb₁]
  exact hR w.db _

end Yields

/-! ## What the channels leave -/

/-- A verdict on one message, and nothing else that concerns messages or the status of devices. -/
def Decides (id : String) (v : Verdict) (db db' : Database) : Prop :=
  (∀ id', outcomeOf db' id' = if id' = id then (outcomeOf db id').map v.apply else outcomeOf db id') ∧
    ∀ id', statusOf db' id' = statusOf db id'

/-- A status for one device, and nothing else that concerns messages or the status of devices. -/
def Touches (id : String) (status : DeviceStatus) (db db' : Database) : Prop :=
  (∀ id', outcomeOf db' id' = outcomeOf db id') ∧
    ∀ id', statusOf db' id' =
      if id' = id then (statusOf db id').map fun _ => status else statusOf db id'

/-- The report has its effect on its message, and its device is given the status. -/
structure Reports (req : StatusUpdateRequest) (confidence : ℚ) (status : DeviceStatus)
    (db db' : Database) : Prop where
  message : ∀ id, outcomeOf db' id =
    if id = req.messageID then (outcomeOf db id).map (req.verdict confidence).apply
    else outcomeOf db id
  device : ∀ id, statusOf db' id =
    if id = req.deviceID ∧ req.deviceID ≠ "" then (statusOf db id).map fun _ => status
    else statusOf db id

variable {cfg : Config} {req : StatusUpdateRequest} {confidence : ℚ}

/-- A write to the message and then one to its device. -/
theorem yields_report {p : ServerProg (Except String Unit)}
    {touch : String → ServerProg (Except String Unit)} {status : DeviceStatus}
    (hp : Yields cfg p (Decides req.messageID (req.verdict confidence)))
    (htouch : ∀ deviceID, Yields cfg (touch deviceID) (Touches deviceID status)) :
    Yields cfg (p >>= fun _ => forDevice req.deviceID touch) (Reports req confidence status) := by
  unfold forDevice
  split_ifs with hdevice
  · refine hp.bind (S := Touches req.deviceID status) (fun _ => ?_) ?_
    · exact (htouch req.deviceID).bind (fun _ => Yields.ret () fun db => rfl)
        fun db₁ db₂ db₃ h (h' : db₂ = db₃) => h' ▸ h
    · rintro db₁ db₂ db₃ ⟨hmessage, hdevices⟩ ⟨hmessage', hdevices'⟩
      refine ⟨fun id => (hmessage' id).trans (hmessage id), fun id => ?_⟩
      rw [hdevices', hdevices]
      simp only [ne_eq, hdevice, not_false_eq_true, and_true]
  · refine hp.bind (fun _ => Yields.ret () fun db => rfl) fun db₁ db₂ db₃ h (h' : db₂ = db₃) => ?_
    subst h'
    refine ⟨h.1, fun id => ?_⟩
    rw [h.2, if_neg fun hid => hdevice hid.2]

theorem yields_updateDeliveryStatus (id : String) (status : DeliveryStatus) (confidence : ℚ) :
    Yields cfg (updateDeliveryStatus id status confidence)
      (Decides id (.delivered status confidence)) := by
  refine Yields.stamped fun db now => ⟨fun id' => ?_, fun id' => rfl⟩
  refine outcomeOf_updateMessage db id ?_ (fun m => ?_) id'
  · exact fun _ => rfl
  · rfl

theorem yields_markFailed (id reason : String) :
    Yields cfg (Prog.call (.db (.markFailed id reason))) (Decides id (.failed reason)) := by
  refine Yields.query _ fun db => ⟨fun id' => ?_, fun id' => rfl⟩
  refine outcomeOf_updateMessage db id ?_ (fun m => ?_) id'
  · exact fun _ => rfl
  · rfl

theorem yields_updatePong (deviceID : String) :
    Yields cfg (updatePong deviceID) (Touches deviceID .online) :=
  Yields.stamped fun db _ => ⟨fun _ => rfl, fun id =>
    statusOf_updateDevice db deviceID (by exact fun _ => rfl) (by exact fun _ => rfl) id⟩

theorem yields_updateStatus (deviceID : String) (status : DeviceStatus) :
    Yields cfg (updateStatus deviceID status) (Touches deviceID status) :=
  Yields.stamped fun db _ => ⟨fun _ => rfl, fun id =>
    statusOf_updateDevice db deviceID (by exact fun _ => rfl) (by exact fun _ => rfl) id⟩

theorem StatusUpdateRequest.Known.cases (h : req.Known) :
    ((req.status = "SENT" ∨ req.status = "DELIVERED") ∧ req.status ≠ "FAILED") ∨
      ¬ (req.status = "SENT" ∨ req.status = "DELIVERED") ∧ req.status = "FAILED" := by
  rcases h with h | h | h <;> simp [h]

theorem verdict_delivered (h : req.status ≠ "FAILED") :
    req.verdict confidence = .delivered ⟨req.deliveryStatus⟩ confidence :=
  if_neg h

theorem verdict_failed (h : req.status = "FAILED") :
    req.verdict confidence = .failed req.reason :=
  if_pos h

variable (cfg) in
/-- **A report over MQTT** has its effect, and its device is on line. -/
theorem yields_mqttStatus (hreq : req.Known) :
    Yields cfg (mqttStatus (some req)) (Reports req 1 .online) := by
  rcases hreq.cases with ⟨hsent, hfailed⟩ | ⟨hsent, hfailed⟩
  · rw [mqttStatus, if_pos hsent]
    refine yields_report ?_ yields_updatePong
    rw [verdict_delivered hfailed]
    exact yields_updateDeliveryStatus _ _ _
  · rw [mqttStatus, if_neg hsent, if_pos hfailed]
    refine yields_report ?_ yields_updatePong
    rw [verdict_failed hfailed]
    exact yields_markFailed _ _

/-- The status that the endpoint gives the device of a report. -/
def endpointStatus (req : StatusUpdateRequest) : DeviceStatus :=
  if req.status = "FAILED" then .offline else .online

variable (cfg) in
theorem yields_recordReport (hreq : req.Known) :
    Yields cfg (recordReport req) (Reports req req.confidenceScore (endpointStatus req)) := by
  unfold endpointStatus
  rcases hreq.cases with ⟨hsent, hfailed⟩ | ⟨hsent, hfailed⟩
  · rw [recordReport, if_pos hsent, if_neg hfailed]
    refine yields_report ?_ yields_updatePong
    rw [verdict_delivered hfailed]
    exact yields_updateDeliveryStatus _ _ _
  · rw [recordReport, if_neg hsent, if_pos hfailed, if_pos hfailed]
    refine yields_report ?_ fun id => yields_updateStatus id .offline
    rw [verdict_failed hfailed]
    exact yields_markFailed _ _

variable (cfg) in
/-- **A report over HTTP** changes nothing if it is ignored, and otherwise has its effect. -/
theorem exec_handleStatusUpdate {w : World} (hw : Calm w) (hreq : req.Known) :
    let o := (handleStatusUpdate (some req)).exec (server cfg) w
    Calm o.state ∧ if ignored w.db req = true then o.state.db = w.db
      else Reports req req.confidenceScore (endpointStatus req) w.db o.state.db := by
  intro o
  let w₁ := ((server cfg).step (.db (.messageByID req.messageID)) w).2
  have hw₁ : Calm w₁ := hw.step _
  obtain ⟨hval, hdb₁⟩ : _ ∧ w₁.db = w.db := hw.step_query cfg (.messageByID req.messageID)
  obtain ⟨hw₂, hrecord⟩ := yields_recordReport cfg hreq w₁ hw₁
  rw [hdb₁] at hrecord
  by_cases hid : req.messageID = ""
  · have hnothing : handleStatusUpdate (some req) = .ret (.error ⟨400, "message_id is required"⟩) :=
      if_pos hid
    simpa [o, hnothing, ignored, hid] using hw
  · have ho : o.state = ((reportOn req (.ok (w.db.message? req.messageID))).exec
        (server cfg) w₁).state := by
      have hreply : ((server cfg).step (.db (.messageByID req.messageID)) w).1 =
        .ok (w.db.message? req.messageID) := hval
      rw [← hreply]
      simp only [o, handleStatusUpdate, if_neg hid]
      rfl
    rw [ho]
    unfold ignored
    cases w.db.message? req.messageID with
    | none => simpa [reportOn, hid, Prog.exec_bind] using ⟨hw₂, hrecord⟩
    | some m =>
      by_cases hterminal : isTerminal m.deliveryStatus = true
      · simpa [reportOn, hid, hterminal] using ⟨hw₁, hdb₁⟩
      · simpa [reportOn, hid, hterminal, Prog.exec_bind] using ⟨hw₂, hrecord⟩

/-! ## When the channels agree -/

theorem effect_failed (hfailed : req.status = "FAILED") (r : Recorded) :
    (req.effect r).status = "failed" ∧ (req.effect r).deliveryStatus = .failed := by
  rw [StatusUpdateRequest.effect, if_pos hfailed]
  exact ⟨rfl, rfl⟩

/-- What a report that has its effect leaves recorded. -/
theorem Reports.record {status : DeviceStatus} {db db' : Database}
    (h : Reports req confidence status db db') (id : String) : recordOf db' id =
      if id = req.messageID then (recordOf db id).map req.effect else recordOf db id := by
  rw [recordOf_eq, recordOf_eq, h.message]
  split_ifs
  · rw [Option.map_map, Option.map_map]
    congr 1
    funext o
    unfold StatusUpdateRequest.verdict StatusUpdateRequest.effect
    rw [Function.comp_apply, Function.comp_apply]
    split_ifs <;> rfl
  · rfl

/-- A failure that has its effect is recorded. -/
theorem Reports.recordedFailed {status : DeviceStatus} {db db' : Database} {m : Message}
    (h : Reports req confidence status db db') (hfailed : req.status = "FAILED")
    (hm : db.message? req.messageID = some m) : RecordedFailed db' req.messageID := by
  refine ⟨req.effect (recorded m), ?_, effect_failed hfailed _⟩
  rw [h.record, if_pos rfl, recordOf, hm]
  rfl

/-- A failure that MQTT records is recorded by both channels if they record the same. -/
theorem failed_on_both {http mqtt db : Database} {m : Message}
    (hmqtt : Reports req confidence .online db mqtt) (hsame : ∀ id, recordOf http id = recordOf mqtt id)
    (hfailed : req.status = "FAILED") (hm : db.message? req.messageID = some m) :
    RecordedFailed http req.messageID ∧ RecordedFailed mqtt req.messageID := by
  have hrecorded := hmqtt.recordedFailed hfailed hm
  refine ⟨?_, hrecorded⟩
  unfold RecordedFailed
  rw [hsame]
  exact hrecorded

/-- A report that the endpoint ignores. -/
theorem agree_ignored {mqtt db : Database} (h : Reports req confidence .online db mqtt) :
    ((∀ id, recordOf db id = recordOf mqtt id) ∧ ∀ id, statusOf db id = statusOf mqtt id) ↔
      (∀ r ∈ recordOf db req.messageID, req.effect r = r) ∧ KeepsDevice db req := by
  constructor
  · rintro ⟨hrecord, hstatus⟩
    refine ⟨fun r hr => ?_, ?_⟩
    · have hmap := hrecord req.messageID
      rw [h.record, if_pos rfl, Option.mem_def.1 hr, Option.map_some] at hmap
      exact (Option.some.inj hmap).symm
    · by_cases hdevice : req.deviceID = ""
      · exact .inl hdevice
      · refine .inr fun status hs => ?_
        have hmap := hstatus req.deviceID
        rw [h.device, if_pos ⟨rfl, hdevice⟩, Option.mem_def.1 hs, Option.map_some] at hmap
        exact Option.some.inj hmap
  · rintro ⟨hrecord, hdevice⟩
    refine ⟨fun id => ?_, fun id => ?_⟩
    · rw [h.record]
      split_ifs with hid
      · subst hid
        cases hr : recordOf db req.messageID with
        | none => rfl
        | some r => rw [Option.map_some, hrecord r hr]
      · rfl
    · rw [h.device]
      split_ifs with hid
      · obtain ⟨rfl, hne⟩ := hid
        cases hs : statusOf db req.deviceID with
        | none => rfl
        | some status => rw [Option.map_some, (hdevice.resolve_left hne) status hs]
      · rfl

/-- A report that the endpoint takes account of. -/
theorem agree_recorded {http mqtt db : Database} {confidence' : ℚ}
    (h : Reports req confidence (endpointStatus req) db http)
    (h' : Reports req confidence' .online db mqtt) :
    ((∀ id, recordOf http id = recordOf mqtt id) ∧ ∀ id, statusOf http id = statusOf mqtt id) ↔
      (req.status = "FAILED" → req.deviceID = "" ∨ statusOf db req.deviceID = none) := by
  have hrecord (id : String) : recordOf http id = recordOf mqtt id := by rw [h.record, h'.record]
  have hstatus : (∀ id, statusOf http id = statusOf mqtt id) ↔ (req.deviceID ≠ "" →
      (statusOf db req.deviceID).map (fun _ => endpointStatus req) =
        (statusOf db req.deviceID).map fun _ => .online) := by
    constructor
    · intro hsame hne
      have hmap := hsame req.deviceID
      rwa [h.device, h'.device, if_pos ⟨rfl, hne⟩, if_pos ⟨rfl, hne⟩] at hmap
    · intro hmap id
      rw [h.device, h'.device]
      split_ifs with hid
      · obtain ⟨rfl, hne⟩ := hid
        exact hmap hne
      · rfl
  rw [hstatus, and_iff_right hrecord]
  unfold endpointStatus
  by_cases hfailed : req.status = "FAILED"
  · cases statusOf db req.deviceID <;> simp [hfailed, or_iff_not_imp_left]
  · simp [hfailed]

/-- **When the two channels agree**: exactly if the difference between them does not show. -/
theorem channels_agree_iff (cfg : Config) (reported : Message → Prop) (req : StatusUpdateRequest)
    (w : World) (hw : Calm w) (hreq : req.Known) :
    ChannelsAgree cfg reported req w ↔ Harmless w.db req := by
  have hmqtt := (yields_mqttStatus cfg hreq w hw).2
  have hhttp := (exec_handleStatusUpdate cfg hw hreq).2
  unfold ChannelsAgree Harmless
  dsimp only at hhttp ⊢
  rw [← and_assoc, and_iff_left_of_imp fun h hfailed m hm _ => failed_on_both hmqtt h.1 hfailed hm]
  split_ifs at hhttp ⊢ with hignored
  · rw [hhttp]
    exact agree_ignored hmqtt
  · exact agree_recorded hhttp hmqtt

/-! ## A failure that only one channel records -/

/-- A message that waits to be dispatched. -/
def waitingMessage : Message where
  id := "message-1"
  deviceID := none
  apiKeyID := "key-1"
  direction := "outbound"
  recipient := "+919999999999"
  sender := "AeroXe Bee"
  encryptedMessage := "hello"
  messageType := .transactional
  priorityLane := .transactional
  templateID := none
  status := "pending"
  deliveryStatus := .sent
  confidenceScore := 0
  errorReason := none
  scheduledAt := none
  createdAt := ⟨0, 0, Timestamp.utc_lt⟩
  deliveredAt := none
  purgeAfter := 0
  idempotencyKey := "order-17"
  routingStrategyUsed := .highestReliability

/-- A server with one device and one message. -/
def oneMessage (m : Message) : World :=
  let w := Dispatch.onePhone []
  { w with db := { w.db with messages := [m] } }

/-- The device could not send the message. -/
def failedReport : StatusUpdateRequest where
  messageID := "message-1"
  deviceID := "device-1"
  status := "FAILED"
  deliveryStatus := "FAILED"
  confidenceScore := 0
  error := some "No service"

/-- The carrier has delivered the message, in the words of the device. -/
def deliveredReport : StatusUpdateRequest where
  messageID := "message-1"
  deviceID := "device-1"
  status := "DELIVERED"
  deliveryStatus := "DELIVERED"
  confidenceScore := 1
  error := none

/-- The endpoint ignores the first report about a message, and MQTT records it. -/
theorem failure_not_agreed :
    ¬ ChannelsAgree .default (fun _ => False) failedReport (oneMessage waitingMessage) := by
  rintro ⟨hrecord, -, -⟩
  exact absurd (hrecord "message-1") (by decide)

/-- A report about a message whose delivery status is none of the four has the same effect over
both channels. -/
theorem channels_agree_delivered : ChannelsAgree .default (fun _ => False) deliveredReport
    (oneMessage { waitingMessage with deliveryStatus := ⟨"DELIVERED"⟩ }) :=
  (channels_agree_iff .default (fun _ => False) deliveredReport _ (fun t ht => by cases ht)
    (.inr (.inl rfl))).2 (by decide)

end AeroxeBee.Status
