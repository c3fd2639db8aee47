import AeroxeBee.Dispatch.Quiet
import AeroxeBee.Foundations.Protocol
import AeroxeBee.Status.Reports

/-!
# The order of the reports

The worker writes the outcome of a message when it has handed the message to a device, and the
device reports on it over either channel. Of these only a report over HTTP looks at the row before
it writes to it, so that in general the last writer decides.

* `Arrivals.step`: what a step of any of the writers preserves, if they are uniform;
* `order_free_iff`: the outcome is kept once it is final, and does not depend on the order, exactly
  if all writers that do not look agree, and all writers agree with an outcome that the endpoint
  does not take for terminal.
-/

namespace AeroxeBee.Status

open Foundations Dispatch

/-! ## What arrives -/

/-- What arrives for a message: the worker has handed it to a device, or the device reports. -/
inductive Arrival where
  | dispatched (msg : QueueMessage) (device : Device)
  | mqtt (report : StatusUpdateRequest)
  | http (req : StatusUpdateRequest)

/-- The confidence of the worker in a message that it has handed to a device. -/
def confidenceIn (cfg : Config) (device : Device) : DeliveryConf.ConfidenceResult :=
  DeliveryConf.calculateFromDevice cfg.delivery device
    (device.lastPongAt.isSome && decide (0 < device.successRate24h)) (returnsReceipts device.carrier)

namespace Arrival

/-- The routine that deals with an arrival. -/
def routine (cfg : Config) : Arrival → ServerProg Unit
  | dispatched msg device => recordSent cfg msg device
  | mqtt report => mqttStatus (some report)
  | http req => do
    let _ ← handleStatusUpdate (some req)
    return ()

/-- The arrival is about the message, and is of one of the known kinds. -/
def Concerns (id : String) : Arrival → Prop
  | dispatched msg _ => msg.id = id
  | mqtt req | http req => req.messageID = id ∧ req.Known

/-- The routine looks at the row before it writes to it. -/
def looks : Arrival → Bool
  | http _ => true
  | _ => false

/-- What the routine writes, if it writes. -/
def verdict (cfg : Config) : Arrival → Verdict
  | dispatched _ device => .delivered (confidenceIn cfg device).deliveryStatus
      (confidenceIn cfg device).score
  | mqtt report => report.verdict 1
  | http req => req.verdict req.confidenceScore

/-- The device confirms that the message has been delivered. -/
def confirms : Arrival → Bool
  | dispatched _ _ => false
  | mqtt req | http req => req.status = "DELIVERED"

end Arrival

/-- The command writes the outcome of the message. -/
def writes (id : String) : {β : Type} → ServerCmd β → Bool
  | _, .db (.updateDeliveryStatus id' _ _ _) => id' = id
  | _, .db (.markFailed id' _) => id' = id
  | _, _ => false

/-- The event looks the message up and finds it open. -/
def finds (id : String) : Event ServerCmd → Bool
  | ⟨.db (.messageByID id'), .ok (some m)⟩ => id' = id && !isTerminal m.deliveryStatus
  | ⟨.db (.messageByID id'), _⟩ => id' = id
  | _ => false

/-- The writers, none of which has begun. -/
def arriving (cfg : Config) (arrivals : List Arrival) (w : World) : Pool ServerCmd World Unit :=
  .start (arrivals.map (Arrival.routine cfg)) w

/-- The outcome of the message is final: it has failed, or the device has confirmed its delivery. -/
def Final (id : String) (arrivals : List Arrival) (P : Pool ServerCmd World Unit) : Prop :=
  (∃ o, outcomeOf P.state.db id = some o ∧ o.deliveryStatus = .failed) ∨
    ∃ i a ev, arrivals[i]? = some a ∧ a.confirms = true ∧ (i, ev) ∈ P.log ∧ writes id ev.cmd = true

/-- **A final outcome is never overwritten, and the order of the arrivals makes no difference.** -/
structure OrderFree (cfg : Config) (id : String) (arrivals : List Arrival) (w : World) : Prop where
  kept : ∀ sched more, Final id arrivals ((arriving cfg arrivals w).run (server cfg) sched) →
    outcomeOf ((arriving cfg arrivals w).run (server cfg) (sched ++ more)).state.db id =
      outcomeOf ((arriving cfg arrivals w).run (server cfg) sched).state.db id
  same : ∀ sched sched', ((arriving cfg arrivals w).run (server cfg) sched).Complete →
    ((arriving cfg arrivals w).run (server cfg) sched').Complete →
      outcomeOf ((arriving cfg arrivals w).run (server cfg) sched).state.db id =
        outcomeOf ((arriving cfg arrivals w).run (server cfg) sched').state.db id

/-- The delivery status that a verdict stores. -/
def Verdict.deliveryStatus : Verdict → DeliveryStatus
  | delivered status _ => status
  | failed _ => .failed

/-- The arrivals that do not look write the same, and if the endpoint does not take it for terminal
then all arrivals write it. -/
def Uniform (cfg : Config) (arrivals : List Arrival) : Prop :=
  ∀ a ∈ arrivals, a.looks = false → ∀ b ∈ arrivals,
    b.looks = false ∨ isTerminal (a.verdict cfg).deliveryStatus = false →
      a.verdict cfg = b.verdict cfg

instance (cfg : Config) (arrivals : List Arrival) : Decidable (Uniform cfg arrivals) :=
  inferInstanceAs (Decidable (∀ a ∈ arrivals, _))

/-! ## What the writers do -/

/-- What a writer with a verdict on a message asks for. -/
def Reporting (id : String) (v : Verdict) : {β : Type} → ServerCmd β → Prop
  | _, .db (.updateDeliveryStatus id' status confidence _) =>
    id' = id ∧ v = .delivered status confidence
  | _, .db (.markFailed id' reason) => id' = id ∧ v = .failed reason
  | _, .db (.messageByID _) | _, .db (.updateDeviceID _ _) | _, .db (.recordSent _ _) => True
  | _, .db (.updatePong _ _) | _, .db (.updateStatus _ _ _) | _, .db (.incrementUsage _ _) => True
  | _, .db (.eligibleDevices _) | _, .db (.deviceCostProfile _) => True
  | _, .db _ => False
  | _, _ => True

variable {cfg : Config} {id : String} {v : Verdict} {req : StatusUpdateRequest} {a : Arrival}

theorem reporting_of_idle {α : Type} {p : ServerProg α} (hp : p.Only Idle) :
    p.Only (Reporting id v) := by
  refine hp.mono fun e he => ?_
  cases e with
  | db q =>
    cases q with
    | eligibleDevices _ | deviceCostProfile _ | incrementUsage _ _ => trivial
    | _ => exact he.elim
  | _ => trivial

theorem forDevice_reporting {deviceID : String} {p : String → ServerProg (Except String Unit)}
    (hp : (p deviceID).Only (Reporting id v)) : (forDevice deviceID p).Only (Reporting id v) := by
  unfold forDevice
  split_ifs
  · exact hp.bind fun _ => trivial
  · trivial

theorem recordSent_reporting (msg : QueueMessage) (device : Device) :
    (recordSent cfg msg device).Only
      (Reporting msg.id ((Arrival.dispatched msg device).verdict cfg)) :=
  recordSent_only reporting_of_idle trivial trivial (fun _ => ⟨rfl, rfl⟩) trivial (fun _ => trivial)
    trivial fun _ => trivial

theorem mqttStatus_reporting (hreq : req.Known) :
    (mqttStatus (some req)).Only (Reporting req.messageID (req.verdict 1)) := by
  rcases hreq.cases with ⟨hsent, hfailed⟩ | ⟨hsent, hfailed⟩
  · rw [mqttStatus, if_pos hsent, verdict_delivered hfailed]
    exact ⟨trivial, fun _ => ⟨⟨rfl, rfl⟩, fun _ => forDevice_reporting
      ⟨trivial, fun _ => ⟨trivial, fun _ => trivial⟩⟩⟩⟩
  · rw [mqttStatus, if_neg hsent, if_pos hfailed, verdict_failed hfailed]
    exact ⟨⟨rfl, rfl⟩, fun _ => forDevice_reporting
      ⟨trivial, fun _ => ⟨trivial, fun _ => trivial⟩⟩⟩

theorem recordReport_reporting (hreq : req.Known) :
    (recordReport req).Only (Reporting req.messageID (req.verdict req.confidenceScore)) := by
  rcases hreq.cases with ⟨hsent, hfailed⟩ | ⟨hsent, hfailed⟩
  · rw [recordReport, if_pos hsent, verdict_delivered hfailed]
    exact ⟨trivial, fun _ => ⟨⟨rfl, rfl⟩, fun _ => forDevice_reporting
      ⟨trivial, fun _ => ⟨trivial, fun _ => trivial⟩⟩⟩⟩
  · rw [recordReport, if_neg hsent, if_pos hfailed, verdict_failed hfailed]
    exact ⟨⟨rfl, rfl⟩, fun _ => forDevice_reporting (p := fun id => updateStatus id .offline)
      ⟨trivial, fun _ => ⟨trivial, fun _ => trivial⟩⟩⟩

/-- What a report over HTTP issues. -/
theorem handleStatusUpdate_only {A : ∀ {β : Type}, ServerCmd β → Prop}
    (hlookup : A (.db (.messageByID req.messageID))) (hreport : (recordReport req).Only A) :
    (handleStatusUpdate (some req)).Only A := by
  have hrecord : (do recordReport req; return .ok () : ServerProg (Except HttpError Unit)).Only A :=
    hreport.bind fun _ => trivial
  change Prog.Only _ (ite _ _ _)
  split_ifs
  · trivial
  · refine ⟨hlookup, fun existing => ?_⟩
    rcases existing with e | (_ | m)
    · exact hrecord
    · exact hrecord
    · change Prog.Only _ (ite _ _ _)
      split_ifs
      · trivial
      · exact hrecord

theorem handleStatusUpdate_reporting (hreq : req.Known) :
    (handleStatusUpdate (some req)).Only
      (Reporting req.messageID (req.verdict req.confidenceScore)) :=
  handleStatusUpdate_only trivial (recordReport_reporting hreq)

variable (cfg) in
/-- **A writer** writes only its own verdict on its own message. -/
theorem routine_reporting (ha : a.Concerns id) :
    (a.routine cfg).Only (Reporting id (a.verdict cfg)) := by
  cases a with
  | dispatched msg device =>
    obtain rfl : msg.id = id := ha
    exact recordSent_reporting msg device
  | mqtt report =>
    obtain ⟨rfl, hreq⟩ := ha
    exact mqttStatus_reporting hreq
  | http req =>
    obtain ⟨rfl, hreq⟩ := ha
    exact (handleStatusUpdate_reporting hreq).bind fun _ => trivial

/-- The state that notes whether a report over HTTP has found its message open. -/
def looking (id : String) : Protocol ServerCmd Bool where
  allows found := fun e => writes id e = true → found = true
  expects _ := True
  next found ev := found || finds id ev

/-- The state that notes whether the outcome of the message has been written. -/
def writing (id : String) : Protocol ServerCmd Bool where
  allows _ := fun _ => True
  expects _ := True
  next written ev := written || writes id ev.cmd

theorem keeps_writing_of_note {α : Type} (p : ServerProg α) :
    p.Keeps (writing id) (fun s _ => s = true) true := by
  induction p with
  | ret a => rfl
  | act e k ih => exact ⟨trivial, fun b _ => ih b⟩

theorem keeps_looking_of_note {α : Type} (p : ServerProg α) :
    p.Keeps (looking id) (fun _ _ => True) true := by
  induction p with
  | ret a => trivial
  | act e k ih => exact ⟨fun _ => rfl, fun b _ => ih b⟩

variable (cfg) in
/-- A writer that does not look writes. -/
theorem keeps_writing (ha : a.Concerns id) (hlooks : a.looks = false) :
    (a.routine cfg).Keeps (writing id) (fun s _ => s = true) false := by
  have hnote {β : Type} {e : ServerCmd β} (he : writes id e = true) {k : β → ServerProg Unit} :
      (Prog.act e k).Keeps (writing id) (fun s _ => s = true) false := by
    refine ⟨trivial, fun b _ => ?_⟩
    have hnext : (writing id).next false ⟨e, b⟩ = true := he
    rw [hnext]
    exact keeps_writing_of_note _
  cases a with
  | dispatched msg device =>
    have hid : msg.id = id := ha
    exact ⟨trivial, fun _ _ => ⟨trivial, fun _ _ => hnote (by exact decide_eq_true hid)⟩⟩
  | mqtt report =>
    obtain ⟨hid, hreq⟩ := ha
    change (mqttStatus (some report)).Keeps _ _ _
    rcases hreq.cases with ⟨hsent, -⟩ | ⟨hsent, hfailed⟩
    · rw [mqttStatus, if_pos hsent]
      exact ⟨trivial, fun _ _ => hnote (by exact decide_eq_true hid)⟩
    · rw [mqttStatus, if_neg hsent, if_pos hfailed]
      exact hnote (by exact decide_eq_true hid)
  | http req => cases hlooks

variable (cfg) in
/-- A report over HTTP writes only after it has found its message open. -/
theorem keeps_looking : (Arrival.http req).routine cfg |>.Keeps (looking req.messageID)
    (fun _ _ => True) false := by
  refine Prog.Keeps.bind (Q := fun _ _ => True) ?_ fun _ _ _ => trivial
  change Prog.Keeps _ _ (ite _ _ _) _
  split_ifs
  · trivial
  · refine ⟨fun h => (by cases h), fun existing _ => ?_⟩
    have hopen (h : (looking req.messageID).next false
        ⟨.db (.messageByID req.messageID), existing⟩ = true) (p : ServerProg (Except HttpError Unit)) :
        p.Keeps (looking req.messageID) (fun _ _ => True)
          ((looking req.messageID).next false ⟨.db (.messageByID req.messageID), existing⟩) := by
      rw [h]
      exact keeps_looking_of_note p
    rcases existing with e | (_ | m)
    · exact hopen (decide_eq_true rfl) _
    · exact hopen (decide_eq_true rfl) _
    · by_cases hterminal : isTerminal m.deliveryStatus = true
      · have hnothing : reportOn req (.ok (some m)) = .ret (.ok ()) := if_pos hterminal
        change (reportOn req (.ok (some m))).Keeps _ _ _
        rw [hnothing]
        trivial
      · have hfinds : finds req.messageID ⟨.db (.messageByID req.messageID), .ok (some m)⟩ =
            (decide (req.messageID = req.messageID) && !isTerminal m.deliveryStatus) := rfl
        exact hopen (hfinds.trans (by simp [hterminal])) _

/-! ## What the steps preserve -/

variable {w : World} {o : Outcome} {arrivals : List Arrival}

variable (cfg) in
/-- **What a command of a writer does to the outcome of its message.** -/
theorem step_outcome (hw : Calm w) {β : Type} {e : ServerCmd β} (he : Reporting id v e) :
    outcomeOf ((server cfg).step e w).2.db id =
      if writes id e = true then (outcomeOf w.db id).map v.apply else outcomeOf w.db id := by
  cases e with
  | db q =>
    rw [(hw.step_query _ q).2]
    cases q with
    | updateDeliveryStatus id' status confidence now =>
      obtain ⟨rfl, rfl⟩ := he
      rw [if_pos (by exact decide_eq_true rfl)]
      refine (outcomeOf_updateMessage w.db id' ?_ ?_ id').trans (if_pos rfl)
      · exact fun _ => rfl
      · exact fun _ => rfl
    | markFailed id' reason =>
      obtain ⟨rfl, rfl⟩ := he
      rw [if_pos (by exact decide_eq_true rfl)]
      refine (outcomeOf_updateMessage w.db id' ?_ ?_ id').trans (if_pos rfl)
      · exact fun _ => rfl
      · exact fun _ => rfl
    | updateDeviceID id' deviceID =>
      rw [if_neg (by exact Bool.false_ne_true)]
      refine outcomeOf_updateMessage_same w.db id' ?_ ?_ id
      · exact fun _ => rfl
      · exact fun _ => rfl
    | incrementUsage accountID date =>
      rw [if_neg (by exact Bool.false_ne_true)]
      unfold outcomeOf Database.message?
      rw [show (Query.run w.db (.incrementUsage accountID date)).2.messages = w.db.messages from
        w.db.countUsage_messages accountID date]
    | messageByID _ | recordSent _ _ | updatePong _ _ | updateStatus _ _ _ => rfl
    | eligibleDevices _ | deviceCostProfile _ => rfl
    | _ => exact he.elim
  | _ =>
    rw [step_db]
    exact congrArg (outcomeOf · id) hw.alone.tick_db

/-- A message that is found open has no terminal outcome. -/
theorem open_of_finds (hw : Calm w) (ho : outcomeOf w.db id = some o) {β : Type} (e : ServerCmd β)
    (hfinds : finds id ⟨e, ((server cfg).step e w).1⟩ = true) :
    isTerminal o.deliveryStatus = false := by
  cases e with
  | db q =>
    cases q with
    | messageByID id' =>
      obtain ⟨m, hm, rfl⟩ := Option.map_eq_some_iff.1 ho
      have hreply : ((server cfg).step (.db (.messageByID id')) w).1 = .ok (w.db.message? id') :=
        (hw.step_query _ (.messageByID id')).1
      rw [hreply] at hfinds
      have hid : id' = id := by
        cases hm' : w.db.message? id' with
        | none =>
          rw [hm'] at hfinds
          exact of_decide_eq_true hfinds
        | some m' =>
          rw [hm'] at hfinds
          exact of_decide_eq_true (Bool.and_eq_true_iff.1 hfinds).1
      subst hid
      rw [hm] at hfinds
      have hopen : (!isTerminal m.deliveryStatus) = true := (Bool.and_eq_true_iff.1 hfinds).2
      change isTerminal m.deliveryStatus = false
      simpa using hopen
    | _ => cases hfinds
  | _ => cases hfinds

/-- What holds while the writers run, if they are uniform: as long as nothing has been written the
outcome is the one from the start, and then it is that of a writer that does not look. -/
structure Arrived (cfg : Config) (id : String) (arrivals : List Arrival) (o : Outcome)
    (P : Pool ServerCmd World Unit) : Prop where
  calm : Calm P.state
  found : (∃ a ∈ arrivals, a.looks = false ∧
    isTerminal (a.verdict cfg).deliveryStatus = false) ∨ ∀ x ∈ P.log, finds id x.2 = false
  outcome : (outcomeOf P.state.db id = some o ∧ ∀ x ∈ P.log, writes id x.2.cmd = false) ∨
    (∃ a ∈ arrivals, a.looks = false ∧ outcomeOf P.state.db id = some ((a.verdict cfg).apply o)) ∧
      ∃ x ∈ P.log, writes id x.2.cmd = true

theorem Verdict.apply_apply (v : Verdict) (o : Outcome) : v.apply (v.apply o) = v.apply o := by
  cases v <;> rfl

@[simp] theorem Verdict.apply_deliveryStatus (v : Verdict) (o : Outcome) :
    (v.apply o).deliveryStatus = v.deliveryStatus := by
  cases v <;> rfl

/-- Two verdicts that leave the same are the same. -/
theorem Verdict.eq_of_apply {v v' : Verdict} {o o' : Outcome} (h : v.apply o = v'.apply o') :
    v = v' := by
  cases v <;> cases v' <;> simp_all [Verdict.apply]

/-- **What a step of a writer preserves**, if the writers are uniform. -/
theorem Arrived.step {P : Pool ServerCmd World Unit} (hU : Uniform cfg arrivals)
    (ho : isTerminal o.deliveryStatus = true) (h : Arrived cfg id arrivals o P) {i : ℕ}
    (ha : a ∈ arrivals) (hid : a.Concerns id) {β : Type} {e : ServerCmd β}
    {k : β → ServerProg Unit}
    (hf : (a.routine cfg).Follows (Pool.eventsOf i P.log) (.act e k)) :
    Arrived cfg id arrivals o (P.advance (server cfg) i e k) := by
  have he : Reporting id (a.verdict cfg) e := (hf.only (routine_reporting _ hid)).1
  have hstep := step_outcome cfg h.calm he
  -- a writer that looks writes only if the others leave the message open, and then agrees with them
  have hverdict (hwrites : writes id e = true) :
      ∃ b ∈ arrivals, b.looks = false ∧ a.verdict cfg = b.verdict cfg := by
    cases hlooks : a.looks with
    | false => exact ⟨a, ha, hlooks, rfl⟩
    | true =>
      obtain ⟨b, hb, hblooks, hopen⟩ : ∃ b ∈ arrivals, b.looks = false ∧
          isTerminal (b.verdict cfg).deliveryStatus = false := by
        refine h.found.resolve_right fun hnone => ?_
        cases a with
        | http req =>
          obtain ⟨rfl, -⟩ := hid
          have hkeeps := Prog.Keeps.of_follows hf (keeps_looking cfg) fun _ _ => trivial
          have hnoted := hkeeps.1 hwrites
          rw [show (looking req.messageID).next = fun s ev => s || finds req.messageID ev from rfl,
            foldl_note, Bool.false_or, List.any_eq_true] at hnoted
          obtain ⟨ev, hev, hfinds⟩ := hnoted
          exact Bool.false_ne_true ((hnone _ (Pool.mem_eventsOf.1 hev)).symm.trans hfinds)
        | dispatched msg device => cases hlooks
        | mqtt report => cases hlooks
      exact ⟨b, hb, hblooks, (hU b hb hblooks a ha (.inr hopen)).symm⟩
  refine ⟨h.calm.step e, ?_, ?_⟩
  · rcases h.found with hopen | hnone
    · exact .inl hopen
    · by_cases hfinds : finds id ⟨e, ((server cfg).step e P.state).1⟩ = true
      · rcases h.outcome with ⟨hsame, -⟩ | ⟨⟨b, hb, hblooks, hb'⟩, -⟩
        · exact absurd (open_of_finds h.calm hsame e hfinds) (by simp [ho])
        · refine .inl ⟨b, hb, hblooks, ?_⟩
          simpa using open_of_finds h.calm hb' e hfinds
      · refine .inr fun x hx => ?_
        rcases List.mem_append.1 hx with hx | hx
        · exact hnone x hx
        · rw [List.mem_singleton.1 hx]
          exact Bool.eq_false_iff.2 hfinds
  · by_cases hwrites : writes id e = true
    · rw [if_pos hwrites] at hstep
      obtain ⟨b, hb, hblooks, hv⟩ := hverdict hwrites
      refine .inr ⟨⟨b, hb, hblooks, ?_⟩, (i, ⟨e, _⟩), List.mem_append_right _ List.mem_cons_self,
        hwrites⟩
      refine hstep.trans ?_
      rw [hv]
      rcases h.outcome with ⟨hsame, -⟩ | ⟨⟨c, hc, hclooks, hc'⟩, -⟩
      · rw [hsame]
        rfl
      · rw [hc', hU c hc hclooks b hb (.inl hblooks), Option.map_some, Verdict.apply_apply]
    · rw [if_neg hwrites] at hstep
      rcases h.outcome with ⟨hsame, hnone⟩ | ⟨⟨b, hb, hblooks, hb'⟩, x, hx, hwritten⟩
      · refine .inl ⟨hstep.trans hsame, fun x hx => ?_⟩
        rcases List.mem_append.1 hx with hx | hx
        · exact hnone x hx
        · rw [List.mem_singleton.1 hx]
          exact Bool.eq_false_iff.2 hwrites
      · exact .inr ⟨⟨b, hb, hblooks, hstep.trans hb'⟩, x, List.mem_append_left _ hx, hwritten⟩

/-! ## Writers that run one after the other -/

variable (cfg) in
/-- What a routine does to the outcome of the message it writes to. -/
theorem exec_outcome {α : Type} {p : ServerProg α} (hp : p.Only (Reporting id v)) (hw : Calm w) :
    let r := p.exec (server cfg) w
    Calm r.state ∧ outcomeOf r.state.db id =
      if r.trace.any (fun ev => writes id ev.cmd) = true then (outcomeOf w.db id).map v.apply
      else outcomeOf w.db id := by
  induction p generalizing w with
  | ret a => exact ⟨hw, rfl⟩
  | act e k ih =>
    have hstep := step_outcome cfg hw hp.1
    obtain ⟨hcalm, hrest⟩ := ih _ (hp.2 _) (hw.step e)
    refine ⟨hcalm, hrest.trans ?_⟩
    rw [Prog.exec_act, List.any_cons, hstep]
    cases writes id e with
    | false => rfl
    | true =>
      rw [Bool.true_or, if_pos rfl, Option.map_map]
      rw [show v.apply ∘ v.apply = v.apply from funext v.apply_apply, ite_self]

variable (cfg) in
/-- **What an arrival leaves** if it does not look, or finds its message open: its own verdict. -/
theorem exec_routine (hid : id ≠ "") (ha : a.Concerns id) (hw : Calm w)
    (ho : outcomeOf w.db id = some o)
    (hopen : a.looks = false ∨ isTerminal o.deliveryStatus = false) :
    outcomeOf ((a.routine cfg).exec (server cfg) w).state.db id =
      some ((a.verdict cfg).apply o) := by
  cases hlooks : a.looks with
  | false =>
    have hwritten := (keeps_writing cfg ha hlooks).exec (server cfg) w fun _ _ => trivial
    rw [show (writing id).next = fun s ev => s || writes id ev.cmd from rfl,
      foldl_note (fun ev => writes id ev.cmd), Bool.false_or] at hwritten
    rw [(exec_outcome _ (routine_reporting _ ha) hw).2, if_pos hwritten, ho]
    rfl
  | true =>
    cases a with
    | http req =>
      obtain ⟨rfl, hreq⟩ := ha
      obtain ⟨m, hm, rfl⟩ := Option.map_eq_some_iff.1 ho
      have hterminal : isTerminal m.deliveryStatus = false :=
        hopen.resolve_left (by rw [hlooks]; exact Bool.noConfusion)
      have hnot : ignored w.db req ≠ true := by simp [ignored, hm, hid, hterminal]
      have hreports := (exec_handleStatusUpdate cfg hw hreq).2
      rw [if_neg hnot] at hreports
      change outcomeOf (Prog.exec (server cfg) (handleStatusUpdate (some req) >>= _) w).state.db _ = _
      rw [Prog.exec_bind]
      refine (hreports.message req.messageID).trans ?_
      rw [if_pos rfl, ho]
      rfl
    | dispatched msg device => cases hlooks
    | mqtt report => cases hlooks

variable (cfg) in
/-- Writers that run one after the other leave the message there. -/
theorem afterThreads_row (harrivals : ∀ a ∈ arrivals, a.Concerns id) (order : List ℕ) {w' : World}
    (hw : Calm w') (ho : outcomeOf w'.db id = some o) :
    Calm ((arriving cfg arrivals w).afterThreads (server cfg) order w') ∧
      ∃ o', outcomeOf ((arriving cfg arrivals w).afterThreads (server cfg) order w').db id =
        some o' := by
  induction order generalizing w' o with
  | nil => exact ⟨hw, o, ho⟩
  | cons i order ih =>
    cases ha : arrivals[i]? with
    | none =>
      have hnone : (arriving cfg arrivals w).threads[i]? = none := by simp [arriving, Pool.start, ha]
      rw [Pool.afterThreads, hnone]
      exact ih hw ho
    | some a =>
      have hsome : (arriving cfg arrivals w).threads[i]? = some (a.routine cfg) := by
        simp [arriving, Pool.start, ha]
      obtain ⟨hcalm, hrest⟩ := exec_outcome cfg
        (routine_reporting cfg (harrivals a (List.mem_of_getElem? ha))) hw
      rw [Pool.afterThreads, hsome]
      rw [ho] at hrest
      split_ifs at hrest
      · exact ih hcalm hrest
      · exact ih hcalm hrest

variable (cfg) in
/-- Two arrivals can be the last ones, in either order. -/
theorem exists_last (harrivals : ∀ a ∈ arrivals, a.Concerns id) (hw : Calm w)
    (ho : outcomeOf w.db id = some o) {i j : ℕ} {b : Arrival} (hij : i ≠ j)
    (ha : arrivals[i]? = some a) (hb : arrivals[j]? = some b) :
    ∃ sched w' o', ((arriving cfg arrivals w).run (server cfg) sched).Complete ∧ Calm w' ∧
      outcomeOf w'.db id = some o' ∧
        ((arriving cfg arrivals w).run (server cfg) sched).state =
          ((b.routine cfg).exec (server cfg) ((a.routine cfg).exec (server cfg) w').state).state := by
  let before := (List.range arrivals.length).filter fun n => n ≠ i ∧ n ≠ j
  have hnodup : (before ++ [i] ++ [j]).Nodup := by
    have hbefore : before.Nodup := List.nodup_range.filter _
    rw [List.append_assoc, List.nodup_append]
    refine ⟨hbefore, by simpa using hij, fun n hn m hm => ?_⟩
    have hne := of_decide_eq_true (List.mem_filter.1 hn).2
    rcases List.mem_cons.1 hm with rfl | hm
    · exact hne.1
    · rw [List.mem_singleton.1 hm]
      exact hne.2
  obtain ⟨sched, hstate, hthreads⟩ := Pool.run_inOrder (M := server cfg)
    (P := arriving cfg arrivals w) hnodup
  obtain ⟨hcalm, o', ho'⟩ := afterThreads_row cfg (w := w) harrivals before hw ho
  refine ⟨sched, _, o', fun n p hn => ?_, hcalm, ho', ?_⟩
  · have hlt : n < arrivals.length := by
      have hlength := (List.getElem?_eq_some_iff.1 hn).1
      rwa [Pool.length_run, arriving, Pool.start, List.length_map] at hlength
    have hmem : n ∈ before ++ [i] ++ [j] := by
      by_cases hni : n = i
      · simp [hni]
      · by_cases hnj : n = j
        · simp [hnj]
        · exact List.mem_append_left _ (List.mem_append_left _
            (List.mem_filter.2 ⟨List.mem_range.2 hlt, decide_eq_true ⟨hni, hnj⟩⟩))
    have hreturned := hthreads n p hn
    rwa [if_pos hmem] at hreturned
  · have hi : (arriving cfg arrivals w).threads[i]? = some (a.routine cfg) := by
      simp [arriving, Pool.start, ha]
    have hj : (arriving cfg arrivals w).threads[j]? = some (b.routine cfg) := by
      simp [arriving, Pool.start, hb]
    rw [hstate, Pool.afterThreads_concat, Pool.afterThreads_concat, hi, hj]
    rfl

/-- If the order makes no difference, an arrival that does not look agrees with the ones that do not
look either or find the message open after it. -/
theorem OrderFree.verdicts (h : OrderFree cfg id arrivals w) (hid : id ≠ "")
    (harrivals : ∀ a ∈ arrivals, a.Concerns id) (hw : Calm w) (ho : outcomeOf w.db id = some o) :
    Uniform cfg arrivals := by
  intro a ha hlooks b hb hopen
  obtain ⟨i, hi⟩ := List.mem_iff_getElem?.1 ha
  obtain ⟨j, hj⟩ := List.mem_iff_getElem?.1 hb
  by_cases hij : i = j
  · subst hij
    rw [Option.some.inj (hi.symm.trans hj)]
  · obtain ⟨sched, w₁, o₁, hcomplete, hw₁, ho₁, hend⟩ :=
      exists_last cfg harrivals hw ho (Ne.symm hij) hj hi
    obtain ⟨sched', w₂, o₂, hcomplete', hw₂, ho₂, hend'⟩ :=
      exists_last cfg harrivals hw ho hij hi hj
    have hsame := h.same sched sched' hcomplete hcomplete'
    -- with the arrival last the outcome is its verdict
    obtain ⟨hw₁', hrow⟩ := exec_outcome cfg
      (routine_reporting cfg (harrivals b hb)) hw₁
    obtain ⟨o₁', ho₁'⟩ : ∃ o', outcomeOf ((b.routine cfg).exec (server cfg) w₁).state.db id =
        some o' := by
      rw [ho₁] at hrow
      split_ifs at hrow
      · exact ⟨_, hrow⟩
      · exact ⟨_, hrow⟩
    have hlast := exec_routine cfg hid (harrivals a ha) hw₁' ho₁' (.inl hlooks)
    -- with the other one last it is the verdict of that one
    have hfirst := exec_routine cfg hid (harrivals a ha) hw₂ ho₂ (.inl hlooks)
    have hw₂' := (exec_outcome cfg
      (routine_reporting cfg (harrivals a ha)) hw₂).1
    have hlast' := exec_routine cfg hid (harrivals b hb) hw₂' hfirst (by
      rwa [Verdict.apply_deliveryStatus])
    rw [hend, hend', hlast, hlast'] at hsame
    exact Verdict.eq_of_apply (Option.some.inj hsame)

/-! ## When the order makes no difference -/

variable (cfg) in
/-- The invariant holds in every run of uniform writers. -/
theorem arrived_run (hU : Uniform cfg arrivals) (harrivals : ∀ a ∈ arrivals, a.Concerns id)
    (hw : Calm w) (hrow : outcomeOf w.db id = some o) (ho : isTerminal o.deliveryStatus = true)
    (sched : List ℕ) :
    Arrived cfg id arrivals o ((arriving cfg arrivals w).run (server cfg) sched) := by
  refine Pool.run_labelled_inv (I := Arrived cfg id arrivals o) (Arrival.routine cfg) arrivals w
    sched ?_ fun P i a β e k ha hf hP => ?_
  · exact ⟨hw, .inr fun x hx => absurd hx List.not_mem_nil,
      .inl ⟨hrow, fun x hx => absurd hx List.not_mem_nil⟩⟩
  · have hmem := List.mem_of_getElem? ha
    exact hP.step hU ho hmem (harrivals a hmem) hf

/-- When all routines have ended, every arrival that does not look has been written. -/
theorem written_of_complete (harrivals : ∀ a ∈ arrivals, a.Concerns id) {sched : List ℕ}
    (h : ((arriving cfg arrivals w).run (server cfg) sched).Complete) (ha : a ∈ arrivals)
    (hlooks : a.looks = false) :
    ∃ x ∈ ((arriving cfg arrivals w).run (server cfg) sched).log, writes id x.2.cmd = true := by
  obtain ⟨i, hi⟩ := List.mem_iff_getElem?.1 ha
  have hlt : i < ((arriving cfg arrivals w).run (server cfg) sched).threads.length := by
    rw [Pool.length_run, arriving, Pool.start, List.length_map]
    exact (List.getElem?_eq_some_iff.1 hi).1
  obtain ⟨p, hp⟩ : ∃ p, ((arriving cfg arrivals w).run (server cfg) sched).threads[i]? = some p :=
    ⟨_, List.getElem?_eq_getElem hlt⟩
  obtain ⟨r, rfl⟩ := h i p hp
  obtain ⟨c, hc, hf⟩ := Pool.follows (Arrival.routine cfg) arrivals w sched hp
  obtain rfl := Option.some.inj (hi.symm.trans hc)
  have hkeeps := Prog.Keeps.of_follows hf (keeps_writing cfg (harrivals a ha) hlooks)
    fun _ _ => trivial
  have hnoted : (Pool.eventsOf i ((arriving cfg arrivals w).run (server cfg) sched).log).foldl
      (fun s ev => s || writes id ev.cmd) false = true := hkeeps
  rw [foldl_note (fun ev => writes id ev.cmd), Bool.false_or, List.any_eq_true] at hnoted
  obtain ⟨ev, hev, hwrites⟩ := hnoted
  exact ⟨(i, ev), Pool.mem_eventsOf.1 hev, hwrites⟩

/-- **When a final outcome is kept and the order makes no difference**: exactly if the arrivals that
do not look at the row write the same, and all arrivals write it if the endpoint does not take it
for terminal. -/
theorem order_free_iff (cfg : Config) (id : String) (arrivals : List Arrival) (w : World)
    (m : Message) (hw : Calm w) (hid : id ≠ "") (hrow : w.db.message? id = some m)
    (hsent : m.deliveryStatus = .sent) (harrivals : ∀ a ∈ arrivals, a.Concerns id) :
    OrderFree cfg id arrivals w ↔ Uniform cfg arrivals := by
  have houtcome : outcomeOf w.db id = some (outcome m) := by rw [outcomeOf, hrow]; rfl
  refine ⟨fun h => h.verdicts hid harrivals hw houtcome, fun hU => ?_⟩
  have hterminal : isTerminal (outcome m).deliveryStatus = true := by
    change isTerminal m.deliveryStatus = true
    rw [hsent]
    rfl
  have hrun := arrived_run cfg hU harrivals hw houtcome hterminal
  refine ⟨fun sched more hfinal => ?_, fun sched sched' hcomplete hcomplete' => ?_⟩
  · -- what is final has been written, and what has been written is written again at most
    have hwritten : ¬ (outcomeOf ((arriving cfg arrivals w).run (server cfg) sched).state.db id =
        some (outcome m) ∧ ∀ x ∈ ((arriving cfg arrivals w).run (server cfg) sched).log,
          writes id x.2.cmd = false) := by
      rintro ⟨hsame, hnone⟩
      rcases hfinal with ⟨o, ho, hfailed⟩ | ⟨i, a, ev, -, -, hmem, hwrites⟩
      · obtain rfl := Option.some.inj (hsame.symm.trans ho)
        exact absurd (hsent.symm.trans hfailed) (by decide)
      · exact Bool.false_ne_true ((hnone _ hmem).symm.trans hwrites)
    obtain ⟨⟨a, ha, hlooks, hout⟩, x, hx, hxwrites⟩ := (hrun sched).outcome.resolve_left hwritten
    rcases (hrun (sched ++ more)).outcome with ⟨-, hnone⟩ | ⟨⟨b, hb, hlooks', hout'⟩, -⟩
    · rw [Pool.run_append] at hnone
      exact absurd ((hnone x (Pool.mem_log_run hx more)).symm.trans hxwrites) Bool.false_ne_true
    · rw [hout, hout', hU a ha hlooks b hb (.inl hlooks')]
  · by_cases hblind : ∃ a ∈ arrivals, a.looks = false
    · have hout {sched : List ℕ}
          (h : ((arriving cfg arrivals w).run (server cfg) sched).Complete) :
          ∃ a ∈ arrivals, a.looks = false ∧ outcomeOf ((arriving cfg arrivals w).run (server cfg)
            sched).state.db id = some ((a.verdict cfg).apply (outcome m)) := by
        obtain ⟨a, ha, hlooks⟩ := hblind
        obtain ⟨x, hx, hxwrites⟩ := written_of_complete harrivals h ha hlooks
        refine ((hrun sched).outcome.resolve_left ?_).1
        rintro ⟨-, hnone⟩
        exact Bool.false_ne_true ((hnone x hx).symm.trans hxwrites)
      obtain ⟨a, ha, hlooks, hout₁⟩ := hout hcomplete
      obtain ⟨b, hb, hlooks', hout₂⟩ := hout hcomplete'
      rw [hout₁, hout₂, hU a ha hlooks b hb (.inl hlooks')]
    · have hout (sched : List ℕ) : outcomeOf ((arriving cfg arrivals w).run (server cfg)
          sched).state.db id = some (outcome m) := by
        refine ((hrun sched).outcome.resolve_right ?_).1
        rintro ⟨⟨a, ha, hlooks, -⟩, -⟩
        exact hblind ⟨a, ha, hlooks⟩
      rw [hout, hout]

/-! ## A failure that is overwritten -/

/-- The carrier has failed the message, and the worker writes its own estimate. -/
def failedThenSent : List Arrival :=
  [.mqtt failedReport, .dispatched Dispatch.greeting Dispatch.phone]

/-- If the report of a failure arrives before the worker has written its estimate, the failure is
overwritten. -/
theorem failure_overwritten :
    ¬ OrderFree .default "message-1" failedThenSent (oneMessage waitingMessage) := by
  intro h
  have hkept := h.kept [0] [1, 1, 1] (.inl ⟨⟨⟨"failed", .failed, some "No service"⟩, 0, false⟩,
    by decide, rfl⟩)
  exact absurd hkept (by decide)

/-- Reports of the same failure can arrive in any order. -/
theorem order_free_failures : OrderFree .default "message-1"
    [.mqtt failedReport, .http failedReport, .mqtt failedReport] (oneMessage waitingMessage) := by
  refine (order_free_iff .default "message-1" _ _ waitingMessage (fun t ht => by cases ht)
    (by decide) rfl rfl ?_).2 (by decide)
  intro a ha
  have hknown : failedReport.Known := .inr (.inr rfl)
  simp only [List.mem_cons, List.not_mem_nil, or_false] at ha
  rcases ha with rfl | rfl | rfl <;> exact ⟨rfl, hknown⟩

end AeroxeBee.Status
