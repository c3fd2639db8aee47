import AeroxeBee.Api.Usage
import AeroxeBee.Dispatch.Sticky
import AeroxeBee.Scheduler.Direct
import AeroxeBee.Status.Honest

/-!
# Devices of the account that submitted a message

A message on the queue carries the account it is dispatched for. The requests write the account of
their caller there; a round of the scheduler leaves it empty. The filter for eligible devices takes
an empty account for no filter at all, so that a message that was scheduled goes to the devices of
any account.

* `Routine.keeps_choosing`: a dispatch tells only devices that it has found for its message, and the
  routines put only messages of their account on the queue, or messages without one;
* `staysWithin_run`: a message goes only to devices of the account that submitted it, in any run in
  which a dispatch of a message without an account finds only such devices eligible.
-/

namespace AeroxeBee.Tenants

open Foundations Dispatch Api Status
open Scheduler (puts)

/-! ## Who submitted a message -/

/-- The account submitted the message: one of its requests has put the message on the queue, or a round
of the scheduler has and one of its requests had stored the row. -/
def Submits (routines : List Routine) (msg : QueueMessage) (account : String)
    (P : Pool ServerCmd World Unit) : Prop :=
  ∃ x ∈ P.log, puts msg x.2 = true ∧
    ((∃ caller req, routines[x.1]? = some (.request caller req) ∧ caller.accountID = account) ∨
      (routines[x.1]? = some .round ∧ ∃ y ∈ P.log, stores msg.id y.2 = true ∧
        ∃ caller req, routines[y.1]? = some (.request caller req) ∧ caller.accountID = account))

/-- The topic on which an event publishes a command. -/
def publishedOn : Event ServerCmd → Option String
  | ⟨.publish topic _, _⟩ => some topic
  | _ => none

/-- The devices that an event has found, with the filter that was asked for. -/
def found : Event ServerCmd → List (DeviceFilterOptions × Device)
  | ⟨.db (.eligibleDevices opts), .ok ds⟩ => ds.map (opts, ·)
  | _ => []

/-- The devices that a thread has found so far, with the filters. -/
def foundBy (i : ℕ) (P : Pool ServerCmd World Unit) : List (DeviceFilterOptions × Device) :=
  (Pool.eventsOf i P.log).flatMap found

/-- **The message goes only to devices of the account**: a dispatch of the message that tells a device to
send it has found the device for the message, as one of the account. -/
def StaysWithin (routines : List Routine) (msg : QueueMessage) (account : String)
    (P : Pool ServerCmd World Unit) : Prop :=
  ∀ x ∈ P.log, ∀ topic, publishedOn x.2 = some topic → routines[x.1]? = some (.dispatch msg) →
    (∃ d, (eligibility msg, d) ∈ foundBy x.1 P ∧ topic = commandTopic d.id) ∧
      ∀ d, (eligibility msg, d) ∈ foundBy x.1 P → d.accountID = account

/-! ## What the routines do -/

/-- The account that a routine writes on the messages it puts on the queue, if it puts any there that it
has not read. -/
def Writes (r : Routine) (msg : QueueMessage) : Prop :=
  match r with
  | .request caller _ => msg.accountID = caller.accountID
  | .round => msg.accountID = ""
  | _ => True

/-- The protocol of a routine: a dispatch tells only devices that it has found for its message, and the
messages that a routine puts on the queue are those of its account. -/
def choosing (r : Routine) : Protocol ServerCmd (List (DeviceFilterOptions × Device)) where
  allows s := fun e =>
    match e with
    | .publish topic _ =>
      ∃ msg d, r = .dispatch msg ∧ (eligibility msg, d) ∈ s ∧ topic = commandTopic d.id
    | .queue (.xAdd _ values _) => ∀ msg, Worker.decode values = some msg → Writes r msg
    | _ => True
  expects _ := True
  next s ev := s ++ found ev

section Routines

variable {svc : Services} {scan : ContentScan} {msg : QueueMessage} {r : Routine}
  {s s₀ : List (DeviceFilterOptions × Device)}

theorem foldl_choosing (evs : List (Event ServerCmd)) (s : List (DeviceFilterOptions × Device)) :
    evs.foldl (choosing r).next s = s ++ evs.flatMap found := by
  induction evs generalizing s with
  | nil => simp
  | cons ev evs ih =>
    rw [List.foldl_cons, ih]
    simp [choosing]

/-- A part of a dispatch that publishes nothing forgets no device. -/
theorem Silent.keeps_choosing {α : Type} {p : ServerProg α} (hp : p.Only Silent) (hs : s₀ ⊆ s) :
    p.Keeps (choosing (.dispatch msg)) (fun s' _ => s₀ ⊆ s') s := by
  refine Prog.keeps_of_only_inv (I := fun s' => s₀ ⊆ s') hp (fun s β e he => ?_)
    (fun s β e b _ hs' => List.subset_append_of_subset_left _ hs') hs
  cases e with
  | publish topic payload => exact he.elim
  | queue e =>
    cases e with
    | xAdd stream values cap => exact fun _ _ => trivial
    | _ => trivial
  | _ => trivial

theorem Idle.keeps_choosing {α : Type} {p : ServerProg α} (hp : p.Only Idle) (hs : s₀ ⊆ s) :
    p.Keeps (choosing (.dispatch msg)) (fun s' _ => s₀ ⊆ s') s :=
  Silent.keeps_choosing (hp.mono fun _ => Idle.silent) hs

/-- Some devices have been found for the message. -/
def AllFound (msg : QueueMessage) (s : List (DeviceFilterOptions × Device))
    (scored : List ScoredDevice) : Prop :=
  ∀ d ∈ scored, (eligibility msg, d.device) ∈ s

theorem filterAndScore_returns (devices : List Device) (opts : Selector.DeviceOptions)
    (costMap : List (String × ℚ)) : (Selector.filterAndScore devices opts costMap).Returns
      fun scored => ∀ d ∈ scored, d.device ∈ devices :=
  Prog.returns_of_follows fun _ _ h _ hd => (Selector.mem_filterAndScore h hd).1

/-- The devices that a dispatch tries have been found for its message. -/
theorem candidates_choosing :
    (candidates scan msg).Keeps (choosing (.dispatch msg))
      (fun s' r => ∀ scored, r = .ok scored → AllFound msg s' scored) s := by
  refine ⟨trivial, fun accountOpen _ => ?_⟩
  cases accountOpen with
  | true => exact nofun
  | false =>
    refine (Idle.keeps_choosing (analyze_idle _) (List.Subset.refl _)).bind fun s₁ result _ => ?_
    change Prog.Keeps _ _ (ite _ _ _) _
    split_ifs
    · exact ⟨trivial, fun _ _ => ⟨trivial, fun _ _ => ⟨trivial, fun _ _ => nofun⟩⟩⟩
    · refine ⟨trivial, fun reply _ => ?_⟩
      rcases reply with e | (_ | ⟨d, ds⟩)
      · exact nofun
      · exact nofun
      · refine (Idle.keeps_choosing (getCostMap_idle _) (List.Subset.refl _)).bind
          fun s₂ costMap hs₂ => ?_
        cases costMap with
        | error e => exact nofun
        | ok costMap =>
          refine ((Idle.keeps_choosing (filterAndScore_idle _ _ _) hs₂).and_returns
            (filterAndScore_returns _ _ _)).bind fun s₃ scored hs₃ => ?_
          obtain ⟨hs₃, hscored⟩ := hs₃
          change Prog.Keeps _ _ (ite _ _ _) _
          split_ifs
          · exact nofun
          · rintro _ ⟨⟩ d' hd'
            refine hs₃ (List.mem_append_right _ ?_)
            exact List.mem_map_of_mem (hscored d' hd')

/-- Whatever happens, no device is forgotten. -/
theorem grows (hs : s₀ ⊆ s) (ev : Event ServerCmd) : s₀ ⊆ (choosing r).next s ev :=
  List.subset_append_of_subset_left _ hs

theorem trySend_choosing (device : Device) (hfound : (eligibility msg, device) ∈ s₀)
    (hs : s₀ ⊆ s) :
    (trySend svc.cfg msg device).Keeps (choosing (.dispatch msg))
      (fun s' r => (r ≠ .ok () → s₀ ⊆ s') ∧ (r = .ok () → s₀ ⊆ s')) s := by
  refine trySend_keeps_of (J := fun s => s₀ ⊆ s) (K := fun s => s₀ ⊆ s)
    (fun s hs => ⟨trivial, fun _ _ => grows hs _⟩) (fun s hs => ?_)
    (fun s hs => Idle.keeps_choosing (recordFailed_idle device) hs) (fun s hs => ?_) hs
  · refine ⟨trivial, fun now _ => ⟨⟨msg, device, rfl, grows hs _ hfound, rfl⟩, fun reply _ => ?_⟩⟩
    exact ⟨fun _ => grows (grows hs _) _, fun _ => grows (grows hs _) _⟩
  · exact Silent.keeps_choosing ((recordSent_quiet device).mono fun _ => Quiet.silent) hs

theorem attempt_choosing (device : Device) (hfound : (eligibility msg, device) ∈ s₀)
    (hs : s₀ ⊆ s) :
    (attempt svc.cfg msg device).Keeps (choosing (.dispatch msg))
      (fun s' a => (a ≠ .sent → s₀ ⊆ s') ∧ (a = .sent → s₀ ⊆ s')) s := by
  refine attempt_keeps_of (fun s hs => ⟨trivial, fun _ _ => grows hs _⟩) (fun s hs => ?_) hs
  refine attemptClosed_keeps_of (J := fun s => s₀ ⊆ s) (K := fun s => s₀ ⊆ s) (fun s hs => ?_)
    (fun s hs => ?_) (fun s hs => trySend_choosing device hfound hs) hs
  · exact (Idle.keeps_choosing (checkRates_idle device) hs).mono fun _ _ hs' => ⟨hs', fun _ => hs'⟩
  · have hhealth : (checkHealth device).Only Silent := checkHealth_only trivial fun _ _ => trivial
    exact (Silent.keeps_choosing hhealth hs).mono fun _ _ hs' => ⟨hs', fun _ => hs'⟩

theorem sendLoop_choosing (scored : List ScoredDevice) (lastErr : Option String)
    (hfound : AllFound msg s₀ scored) :
    (sendLoop svc.cfg msg lastErr scored).Keeps (choosing (.dispatch msg)) (fun _ _ => True) s₀ := by
  refine sendLoop_keeps_of (I := fun s => s₀ ⊆ s) lastErr (fun d hd s hs => ?_)
    (fun _ _ _ => trivial) (List.Subset.refl s₀)
  exact (attempt_choosing d.device (hfound d hd) hs).mono fun s' a hs' =>
    ⟨hs'.1, fun _ => trivial⟩

/-- **A dispatch tells only devices that it has found for its message.** -/
theorem processMessage_choosing :
    (processMessage svc.cfg scan msg).Keeps (choosing (.dispatch msg)) (fun _ _ => True) s := by
  refine candidates_choosing.bind fun s' r hr => ?_
  cases r with
  | error e => trivial
  | ok scored => exact sendLoop_choosing scored none (hr scored rfl)

/-- The command tells no device anything and puts nothing on the queue. -/
def Aloof : {β : Type} → ServerCmd β → Prop
  | _, .publish _ _ => False
  | _, .queue (.xAdd _ _ _) => False
  | _, _ => True

theorem Aloof.allowed {β : Type} {e : ServerCmd β} (h : Aloof e) : (choosing r).allows s e := by
  cases e with
  | publish topic payload => exact h.elim
  | queue e =>
    cases e with
    | xAdd stream values cap => exact h.elim
    | _ => trivial
  | _ => trivial

theorem Asks.aloof {β : Type} {e : ServerCmd β} (h : Asks e) : Aloof e := by
  cases e with
  | publish _ _ | queue _ => exact h.elim
  | _ => trivial

theorem choosing_of_own {keys : Prop} {caller : Caller} {req : Request} {β : Type} {e : ServerCmd β}
    (h : Own keys caller.accountID e) : (choosing (.request caller req)).allows s e := by
  cases e with
  | publish _ _ => exact h.elim
  | queue e =>
    cases e with
    | xAdd stream values cap =>
      obtain ⟨msg, howner, hdecode⟩ := h
      intro msg' hdecode'
      obtain rfl := Option.some.inj (hdecode.symm.trans hdecode')
      exact howner
    | _ => trivial
  | _ => trivial

theorem Revives.aloof {β : Type} {e : ServerCmd β} (h : Revives e) : Aloof e := by
  cases e with
  | publish _ _ | queue _ => exact h.elim
  | _ => trivial

/-- A round puts messages without an account on the queue. -/
theorem processDue_carrying :
    (processDue svc).Only (Scheduler.Carrying (fun msg => msg.accountID = "") fun _ => True) := by
  refine ⟨trivial, fun now => ⟨trivial, fun selected => ?_⟩⟩
  cases selected with
  | error e => trivial
  | ok rows =>
    refine (Scheduler.releaseAll_carrying now rows).mono fun e he => ?_
    cases e with
    | queue e =>
      cases e with
      | xAdd stream values cap =>
        obtain ⟨msg, hdecode, row, -, text, -, rfl⟩ := he
        exact ⟨_, hdecode, rfl⟩
      | _ => trivial
    | db q =>
      cases q with
      | createMessage row => trivial
      | _ => trivial
    | _ => trivial

theorem choosing_of_releasing {phase : Scheduler.Phase} {β : Type} {e : ServerCmd β}
    (h : Scheduler.releasing.allows phase e)
    (hcarrying : Scheduler.Carrying (fun msg => msg.accountID = "") (fun _ => True) e) :
    (choosing .round).allows s e := by
  cases e with
  | publish _ _ => cases phase <;> exact h.elim
  | queue e =>
    cases e with
    | xAdd stream values cap =>
      obtain ⟨msg, hdecode, haccount⟩ := hcarrying
      intro msg' hdecode'
      obtain rfl := Option.some.inj (hdecode.symm.trans hdecode')
      exact haccount
    | _ => trivial
  | _ => trivial

variable (svc scan) in
/-- **The routines keep to their protocols.** -/
theorem Routine.keeps_choosing (r : Routine) :
    (r.prog svc scan).Keeps (choosing r) (fun _ _ => True) s := by
  have haloof {α : Type} {p : ServerProg α} (hp : p.Only Aloof) :
      p.Keeps (choosing r) (fun _ _ => True) s :=
    Prog.keeps_of_only_forall hp (fun _ _ _ he => he.allowed) fun _ _ => trivial
  cases r with
  | request caller req =>
    exact Prog.keeps_of_only_forall (ignore_only (Request.handle_own svc caller req))
      (fun _ _ _ he => choosing_of_own he) fun _ _ => trivial
  | dispatch msg => exact processMessage_choosing.bind fun _ _ _ => trivial
  | http body =>
    exact haloof (ignore_only ((handleStatusUpdate_asks body).mono fun _ => Asks.aloof))
  | mqtt payload => exact haloof ((mqttStatus_asks payload).mono fun _ => Asks.aloof)
  | round =>
    have hround : (processDue svc).Only fun e => ∃ phase, Scheduler.releasing.allows phase e :=
      (Scheduler.keeps_processDue svc).only (fun phase _ _ he => ⟨phase, he⟩) fun _ => trivial
    refine Prog.keeps_of_only_forall (hround.and processDue_carrying) (fun _ _ _ he => ?_)
      fun _ _ => trivial
    obtain ⟨⟨phase, hphase⟩, hcarrying⟩ := he
    exact choosing_of_releasing hphase hcarrying
  | retry id =>
    exact haloof (ignore_only ((retryDeadLetter_revives id).mono fun _ => Revives.aloof))
  | cleanup =>
    exact haloof (ignore_only (p := deleteOld) ⟨trivial, fun _ => ⟨trivial, fun _ => trivial⟩⟩)

end Routines

/-! ## Runs -/

/-- The message that a routine dispatches. -/
def Routine.message : Routine → Option QueueMessage
  | .dispatch msg => some msg
  | _ => none

/-- **A message without an account finds only devices of the account.** -/
def FindsOwn (routines : List Routine) (msg : QueueMessage) (account : String)
    (P : Pool ServerCmd World Unit) (i : ℕ) {β : Type} (e : ServerCmd β) : Prop :=
  match e with
  | .db (.eligibleDevices opts) =>
    routines[i]?.bind Routine.message = some msg → msg.accountID = "" →
      ∀ d ∈ P.state.tick.db.devices, opts.admits d = true → d.accountID = account
  | _ => True

/-- What holds while the routines run: the devices found for the message are those of its account, or, if
it has none, of the account that submitted it. -/
structure Within (routines : List Routine) (msg : QueueMessage) (account : String)
    (P : Pool ServerCmd World Unit) : Prop where
  carried : ∀ x ∈ P.log, ∀ r, routines[x.1]? = some r → puts msg x.2 = true → Writes r msg
  found : ∀ i, routines[i]? = some (.dispatch msg) → ∀ d, (eligibility msg, d) ∈ foundBy i P →
    d.accountID = if msg.accountID = "" then account else msg.accountID
  told : ∀ x ∈ P.log, ∀ topic, publishedOn x.2 = some topic → routines[x.1]? = some (.dispatch msg) →
    ∃ d, (eligibility msg, d) ∈ foundBy x.1 P ∧ topic = commandTopic d.id

section Step

variable {cfg : Config} {routines : List Routine} {msg : QueueMessage} {account : String} {i : ℕ}
  {r : Routine} {P : Pool ServerCmd World Unit} {β : Type} {e : ServerCmd β}
  {k : β → ServerProg Unit}

theorem phase_eq_foundBy (r : Routine) (i : ℕ) (P : Pool ServerCmd World Unit) :
    P.phase (choosing r).next [] i = foundBy i P := by
  rw [Pool.phase, foldl_choosing, List.nil_append]
  rfl

theorem foundBy_advance (j : ℕ) :
    foundBy j (P.advance (server cfg) i e k) =
      foundBy j P ++ if i = j then found ⟨e, ((server cfg).step e P.state).1⟩ else [] := by
  simp only [foundBy, Pool.advance, Pool.eventsOf_append, List.flatMap_append,
    Pool.eventsOf_singleton]
  split_ifs <;> simp

/-- An eligible device of a message is one of its account, if it has one. -/
theorem account_of_admits {d : Device} (h : (eligibility msg).admits d = true)
    (hmsg : msg.accountID ≠ "") : d.accountID = msg.accountID := by
  simp only [DeviceFilterOptions.admits, Bool.and_eq_true, Bool.or_eq_true, decide_eq_true_eq] at h
  exact h.1.1.1.1.1.1.resolve_left hmsg

/-- What a step of a dispatch finds for its message. -/
theorem account_of_found (hi : routines[i]? = some (.dispatch msg))
    (hfinds : FindsOwn routines msg account P i e) {d : Device}
    (hd : (eligibility msg, d) ∈ found ⟨e, ((server cfg).step e P.state).1⟩) :
    d.accountID = if msg.accountID = "" then account else msg.accountID := by
  cases e with
  | db q =>
    cases q with
    | eligibleDevices opts =>
      generalize hreply : ((server cfg).step (.db (.eligibleDevices opts)) P.state).1 = reply at hd
      cases reply with
      | error text => cases hd
      | ok ds =>
        obtain ⟨d', hd', hpair⟩ := List.mem_map.1 hd
        obtain ⟨rfl, rfl⟩ := Prod.mk.inj hpair
        have hrun := run_of_ok hreply
        obtain ⟨hrow, hadmits⟩ := Query.mem_eligibleDevices hrun hd'
        split_ifs with hempty
        · exact hfinds (by rw [hi]; rfl) hempty d' hrow hadmits
        · exact account_of_admits hadmits hempty
    | _ => cases hd
  | _ => cases hd

/-- **What a step of a routine preserves**, if a message without an account finds only devices of the
account. -/
theorem Within.step (h : Within routines msg account P) (hi : routines[i]? = some r)
    (hallows : (choosing r).allows (foundBy i P) e) (hfinds : FindsOwn routines msg account P i e) :
    Within routines msg account (P.advance (server cfg) i e k) := by
  refine ⟨fun x hx r' hr' hputs => ?_, fun j hj d hd => ?_, fun x hx topic htopic hr' => ?_⟩
  · rcases List.mem_append.1 hx with hx | hx
    · exact h.carried x hx r' hr' hputs
    · obtain rfl := List.mem_singleton.1 hx
      obtain rfl := Option.some.inj (hi.symm.trans hr')
      cases e with
      | queue e =>
        cases e with
        | xAdd stream values cap => exact hallows msg (of_decide_eq_true hputs)
        | _ => cases hputs
      | _ => cases hputs
  · rw [foundBy_advance] at hd
    rcases List.mem_append.1 hd with hold | hnew
    · exact h.found j hj d hold
    · split_ifs at hnew with hij
      · subst hij
        exact account_of_found hj hfinds hnew
      · cases hnew
  · rcases List.mem_append.1 hx with hx | hx
    · obtain ⟨d, hd, htopic⟩ := h.told x hx topic htopic hr'
      refine ⟨d, ?_, htopic⟩
      rw [foundBy_advance]
      exact List.mem_append_left _ hd
    · obtain rfl := List.mem_singleton.1 hx
      obtain rfl := Option.some.inj (hi.symm.trans hr')
      cases e with
      | publish topic' payload =>
        obtain rfl := Option.some.inj htopic
        obtain ⟨msg', d, hdispatch, hd, rfl⟩ := hallows
        cases hdispatch
        refine ⟨d, ?_, rfl⟩
        rw [foundBy_advance]
        exact List.mem_append_left _ hd
      | _ => cases htopic

end Step

/-- **A message goes only to devices of the account that submitted it**, in every state of every run of
any number of routines, however they interleave and whatever fails, if at each step of the run a
message without an account finds only devices of that account. -/
theorem staysWithin_run (svc : Services) (scan : ContentScan) (routines : List Routine) (w : World)
    (msg : QueueMessage) (account : String) (sched : List ℕ)
    (hsubmits : Submits routines msg account
      ((serving svc scan routines w).run (server svc.cfg) sched))
    (h : Pool.EachStep (server svc.cfg) (Pool.Meets (FindsOwn routines msg account))
      (serving svc scan routines w) sched) :
    StaysWithin routines msg account
      ((serving svc scan routines w).run (server svc.cfg) sched) := by
  have hphased : Pool.Phased (Routine.prog svc scan) choosing (fun _ _ _ => True)
      (choosing .round).next [] :=
    ⟨fun _ => rfl, fun _ _ => trivial, fun r => Routine.keeps_choosing svc scan r⟩
  have hwithin := Pool.run_phases_inv hphased (I := Within routines msg account) ?_ h
    fun P i r β e k hi hact hallows _ hP hG => ?_
  · obtain ⟨x, hx, hputs, hpath⟩ := hsubmits
    have haccount : (if msg.accountID = "" then account else msg.accountID) = account := by
      split_ifs with hempty
      · rfl
      · rcases hpath with ⟨caller, req, hr, rfl⟩ | ⟨hr, -⟩
        · exact hwithin.carried x hx _ hr hputs
        · exact absurd (hwithin.carried x hx _ hr hputs) hempty
    intro y hy topic htopic hr
    refine ⟨hwithin.told y hy topic htopic hr, fun d hd => ?_⟩
    rw [hwithin.found y.1 hr d hd, haccount]
  · exact ⟨fun _ hx => absurd hx List.not_mem_nil, fun _ _ _ hd => absurd hd List.not_mem_nil,
      fun _ hx => absurd hx List.not_mem_nil⟩
  · rw [phase_eq_foundBy] at hallows
    exact hP.step hi hallows (Pool.meets_of_act hG hact)

/-! ## A scheduled message -/

instance decidableFindsOwn (routines : List Routine) (msg : QueueMessage) (account : String)
    (P : Pool ServerCmd World Unit) (i : ℕ) :
    {β : Type} → (e : ServerCmd β) → Decidable (FindsOwn routines msg account P i e)
  | _, .db q => by
    cases q with
    | eligibleDevices opts => exact inferInstanceAs (Decidable (_ → _ → _))
    | _ => exact .isTrue trivial
  | _, .now | _, .uuid | _, .rand | _, .nonce | _, .redis _ | _, .queue _ | _, .isOpen _ _
  | _, .recordFailure _ _ | _, .recordSuccess _ _ | _, .reset _ _ | _, .evaluateDevice _ _
  | _, .recordDelivery _ _ | _, .addFraudFlag _ | _, .isConnected | _, .publish _ _
  | _, .dispatchWebhooks _ _ => .isTrue trivial

/-- The message as a round puts it on the queue. -/
def released : QueueMessage := releasedMessage Scheduler.reminderRow "hello"

/-- A request to schedule the message, a round that releases it a second later, and its dispatch. -/
def reminderRoutines : List Routine :=
  [.request order.caller (.scheduleSend (some Scheduler.reminder)), .round, .dispatch released]

/-- The routines one after the other, on a server with one device of an account. -/
def reminded (owner : String) : Pool ServerCmd World Unit :=
  let w := onePhone (List.replicate 8 .quiet ++ [late 1])
  (serving Scheduler.sealedServices noViolations reminderRoutines
    { w with db := { w.db with devices := [{ phone with accountID := owner }] } }).run
      (server Scheduler.sealedServices.cfg)
      (List.replicate 20 0 ++ List.replicate 20 1 ++ List.replicate 60 2)

theorem submits_of_any {routines : List Routine} {msg : QueueMessage} {caller : Caller}
    {req : Request} {P : Pool ServerCmd World Unit} {i j : ℕ} (hi : routines[i]? = some .round)
    (hj : routines[j]? = some (.request caller req))
    (hputs : (Pool.eventsOf i P.log).any (puts msg) = true)
    (hstores : (Pool.eventsOf j P.log).any (stores msg.id) = true) :
    Submits routines msg caller.accountID P := by
  obtain ⟨ev, hev, hputs⟩ := List.any_eq_true.1 hputs
  obtain ⟨ev', hev', hstores⟩ := List.any_eq_true.1 hstores
  exact ⟨(i, ev), Pool.mem_eventsOf.1 hev, hputs,
    .inr ⟨hi, (j, ev'), Pool.mem_eventsOf.1 hev', hstores, caller, req, hj, rfl⟩⟩

theorem submits_reminded (owner : String) (h : owner = "account-1" ∨ owner = "account-2") :
    Submits reminderRoutines released "account-1" (reminded owner) := by
  have hround : reminderRoutines[1]? = some .round := rfl
  have hrequest : reminderRoutines[0]? =
      some (.request order.caller (.scheduleSend (some Scheduler.reminder))) := rfl
  have hputs : (Pool.eventsOf 1 (reminded owner).log).any (puts released) = true := by
    rcases h with rfl | rfl <;> decide +kernel
  have hstores : (Pool.eventsOf 0 (reminded owner).log).any (stores released.id) = true := by
    rcases h with rfl | rfl <;> decide +kernel
  exact submits_of_any hround hrequest hputs hstores

/-- A scheduled message stays within its account if there are no devices of other accounts. -/
theorem staysWithin_run_reminded :
    StaysWithin reminderRoutines released "account-1" (reminded "account-1") :=
  staysWithin_run Scheduler.sealedServices noViolations reminderRoutines _ released "account-1" _
    (submits_reminded "account-1" (.inl rfl)) (by decide +kernel)

/-- A scheduled message of one account goes to the only device, which belongs to another one. -/
theorem reminded_elsewhere :
    Submits reminderRoutines released "account-1" (reminded "account-2") ∧
      (reminded "account-2").log.filterMap (fun x => publishedOn x.2) =
        [commandTopic "device-1"] ∧
      ¬ StaysWithin reminderRoutines released "account-1" (reminded "account-2") := by
  have htopics : (reminded "account-2").log.filterMap
      (fun x => (publishedOn x.2).map (x.1, ·)) = [(2, commandTopic "device-1")] := by
    decide +kernel
  refine ⟨submits_reminded "account-2" (.inr rfl), by decide +kernel, fun h => ?_⟩
  obtain ⟨x, hx, htopic⟩ : ∃ x ∈ (reminded "account-2").log,
      (publishedOn x.2).map (x.1, ·) = some (2, commandTopic "device-1") :=
    List.mem_filterMap.1 (htopics ▸ List.mem_singleton_self _)
  obtain ⟨topic, htopic, hpair⟩ := Option.map_eq_some_iff.1 htopic
  obtain ⟨hthread, -⟩ := Prod.mk.inj hpair
  obtain ⟨⟨d, hd, -⟩, hown⟩ := h x hx topic htopic (by rw [hthread]; rfl)
  have hforeign : ∀ p ∈ foundBy 2 (reminded "account-2"), p.2.accountID ≠ "account-1" := by
    decide +kernel
  rw [hthread] at hd hown
  exact hforeign _ hd (hown d hd)

end AeroxeBee.Tenants
