import AeroxeBee.Android.Routines
import Mathlib.Algebra.Order.BigOperators.Group.Finset
import Mathlib.Data.Int.ConditionallyCompleteOrder
import Mathlib.Tactic.NormNum

/-!
# The limit of a slot

The engine asks the rate limiter whether a slot may be used, and tells it afterwards that a message
was sent. In between it waits, and others ask.

* `countBounded_advance`: what a step leaves of the count of a window;
* `run_withinLimits`: no more messages are handed over in a window than its limit, in runs in which a
  check passes only if there is room for those that have passed and are not counted yet.
-/

namespace AeroxeBee.Android

open Foundations Pool SMSEngine Finset

/-! ## Windows -/

/-- A window of the rate limiter: when it began, what was counted in it, and its limit. A check leaves
it as it is or begins it anew, and passes only if there is room in it. -/
structure Window where
  start : SlotState → ℤ
  sent : SlotState → ℕ
  max : ℕ
  fresh : ∀ now, sent ⟨0, now, 0, now⟩ = 0
  current : ∀ (limiter : RateLimiter) (simSlot now : ℤ),
    (start (limiter.current simSlot now) = start (limiter.slotState simSlot now) ∧
      sent (limiter.current simSlot now) = sent (limiter.slotState simSlot now)) ∨
    (start (limiter.slotState simSlot now) < start (limiter.current simSlot now) ∧
      sent (limiter.current simSlot now) = 0)
  room : ∀ (limiter : RateLimiter) (simSlot now : ℤ), (limiter.canSend simSlot now).1 = true →
    sent (limiter.current simSlot now) < max
  counts : ∀ state : SlotState,
    let state' := { state with
      sentThisMinute := state.sentThisMinute + 1, sentThisHour := state.sentThisHour + 1 }
    start state' = start state ∧ sent state' = sent state + 1

namespace Window

/-- The minute of a slot. -/
def minute : Window where
  start := SlotState.minuteStart
  sent := SlotState.sentThisMinute
  max := 10
  fresh _ := rfl
  current limiter simSlot now := by
    unfold RateLimiter.current
    dsimp only
    split_ifs with hminute hhour hhour
    · exact .inr ⟨by dsimp only; omega, rfl⟩
    · exact .inr ⟨by dsimp only; omega, rfl⟩
    · exact .inl ⟨rfl, rfl⟩
    · exact .inl ⟨rfl, rfl⟩
  room limiter simSlot now h := of_decide_eq_true (Bool.and_eq_true_iff.1 h).1
  counts _ := ⟨rfl, rfl⟩

/-- The hour of a slot. -/
def hour : Window where
  start := SlotState.hourStart
  sent := SlotState.sentThisHour
  max := 100
  fresh _ := rfl
  current limiter simSlot now := by
    unfold RateLimiter.current
    dsimp only
    split_ifs with hminute hhour hhour
    · exact .inr ⟨by dsimp only at hhour ⊢; omega, rfl⟩
    · exact .inl ⟨rfl, rfl⟩
    · exact .inr ⟨by dsimp only; omega, rfl⟩
    · exact .inl ⟨rfl, rfl⟩
  room limiter simSlot now h := of_decide_eq_true (Bool.and_eq_true_iff.1 h).2
  counts _ := ⟨rfl, rfl⟩

variable (W : Window) (w : Phone) (simSlot : ℤ)

/-- When the window of a slot began, if the slot was used. -/
def begun : WithBot ℤ := (w.limiter simSlot).map W.start

/-- What was counted in the window of a slot. -/
def counted : ℕ := (w.limiter simSlot).elim 0 W.sent

end Window

/-! ## Calls of the engine -/

/-- How far a call of the engine has come: whether the check of a slot has passed, and whether the
message is handed over and not counted yet. -/
inductive Passing where
  | idle
  | checked (simSlot : ℤ)
  | handedOver (simSlot : ℤ)
deriving DecidableEq

namespace Passing

/-- What a call makes of an event. -/
def next (s : Passing) : Event PhoneCmd → Passing
  | ⟨.canSend simSlot, allowed⟩ => if allowed then .checked simSlot else .idle
  | ⟨.getSmsManager _, found⟩ => if found then s else .idle
  | ⟨.divideMessage _, parts⟩ => if parts ≤ MAX_PARTS then s else .idle
  | ⟨.sendTextMessage task _, .ok _⟩ => .handedOver task.simSlot
  | ⟨.sendTextMessage _ _, .error _⟩ => .idle
  | ⟨.recordSend _, _⟩ => .idle
  | _ => s

/-- What a call may do next. -/
def Allows (s : Passing) : {β : Type} → PhoneCmd β → Prop
  | _, .canSend _ => s = .idle
  | _, .getSmsManager simSlot => s = .checked simSlot
  | _, .divideMessage _ => ∃ simSlot, s = .checked simSlot
  | _, .sendTextMessage task _ => s = .checked task.simSlot
  | _, .recordSend simSlot => s = .handedOver simSlot
  | _, _ => True

/-- The call holds a place on a slot. -/
def on (s : Passing) (simSlot : ℤ) : ℤ := if s = .checked simSlot ∨ s = .handedOver simSlot then 1 else 0

/-- The call has used its place and is not counted yet. -/
def uncounted (s : Passing) (simSlot : ℤ) : ℤ := if s = .handedOver simSlot then 1 else 0

end Passing

/-- The protocol of the calls of a routine, one after the other. -/
def passing : Protocol PhoneCmd Passing where
  allows := Passing.Allows
  expects _ := True
  next := Passing.next

section Keeps

variable {deviceId : String}

theorem handOver_passing (task : SMSTask) (parts : ℕ) :
    (handOver task parts).Keeps passing (fun s _ => s = .idle) (.checked task.simSlot) := by
  refine ⟨rfl, fun reply _ => ?_⟩
  cases reply with
  | ok _ => exact ⟨rfl, fun _ _ => ⟨trivial, fun _ _ => rfl⟩⟩
  | error message => exact ⟨trivial, fun _ _ => rfl⟩

theorem send_passing (task : SMSTask) : (send task).Keeps passing (fun s _ => s = .idle) .idle := by
  refine ⟨trivial, fun permission _ => ?_⟩
  cases permission with
  | false => rfl
  | true =>
    refine ⟨rfl, fun allowed _ => ?_⟩
    cases allowed with
    | false => rfl
    | true =>
      refine ⟨rfl, fun found _ => ?_⟩
      cases found with
      | false => rfl
      | true =>
        refine ⟨⟨task.simSlot, rfl⟩, fun parts _ => ?_⟩
        change Prog.Keeps _ _ (if MAX_PARTS < parts then _ else _)
          (if parts ≤ MAX_PARTS then Passing.checked task.simSlot else .idle)
        by_cases hlong : MAX_PARTS < parts
        · rw [if_pos hlong, if_neg (not_le.2 hlong)]
          rfl
        · rw [if_neg hlong, if_pos (not_lt.1 hlong)]
          exact (handOver_passing task parts).bind fun _ _ hs => hs

theorem passing_allows_aside (s : Passing) {β : Type} (e : PhoneCmd β) (he : e.Aside) :
    passing.allows s e := by
  cases e
  case now => trivial
  case getSimSlot => trivial
  case isConnected => trivial
  case publish topic payload => trivial
  all_goals exact he.elim

theorem passing_next_aside {s : Passing} {β : Type} (e : PhoneCmd β) (b : β) (he : e.Aside) :
    passing.next s ⟨e, b⟩ = s := by
  cases e
  case now => rfl
  case getSimSlot => rfl
  case isConnected => rfl
  case publish topic payload => rfl
  all_goals exact he.elim

/-- A report is not a call of the engine. -/
theorem reports_passing {s : Passing} {α : Type} {p : PhoneProg α} (hp : p.Only PhoneCmd.Aside) :
    p.Keeps passing (fun s' _ => s' = s) s :=
  Prog.Keeps.of_only hp (passing_allows_aside s) passing_next_aside

theorem retryAll_passing (deviceId : String) (tasks : List SMSTask) :
    (MqttService.retryAll deviceId tasks).Keeps passing (fun _ _ => True) .idle := by
  induction tasks with
  | nil => trivial
  | cons task tasks ih =>
    refine (send_passing task).bind fun s result hs => ?_
    subst hs
    cases result with
    | none => trivial
    | some result =>
      refine (reports_passing (reportRetry_aside deviceId task result)).bind fun s _ hs => ?_
      subst hs
      exact ih

theorem iteration_passing (deviceId : String) :
    (SMSSendingService.iteration deviceId).Keeps passing (fun s _ => s = .idle) .idle := by
  refine ⟨trivial, fun task? _ => ?_⟩
  cases task? with
  | none => rfl
  | some task =>
    refine (send_passing task).bind fun s result hs => ?_
    subst hs
    cases result with
    | none => rfl
    | some result =>
      change Prog.Keeps _ _ (SMSSendingService.reportPending _ _ _ >>= _) _
      refine (reports_passing (reportPending_aside deviceId task result)).bind fun s _ hs => ?_
      exact hs

theorem pendingLoop_passing (deviceId : String) (fuel : ℕ) :
    (SMSSendingService.pendingLoop deviceId fuel).Keeps passing (fun _ _ => True) .idle := by
  induction fuel with
  | zero => trivial
  | succ fuel ih =>
    refine (iteration_passing deviceId).bind fun s ended hs => ?_
    subst hs
    cases ended with
    | none => exact ih
    | some ended => trivial

/-- Every routine makes its calls one after the other. -/
theorem routine_passing (deviceId : String) (r : Routine) :
    (r.prog deviceId).Keeps passing (fun _ _ => True) .idle := by
  cases r with
  | message payload =>
    refine processMqttMessage_keeps passing_allows_aside passing_next_aside
      fun cmd hcmd simSlot now => ?_
    exact (send_passing (cmd.task simSlot now)).mono fun _ _ _ => trivial
  | retryPass => exact ⟨trivial, fun tasks _ => retryAll_passing deviceId tasks⟩
  | pendingTasks fuel =>
    refine ⟨trivial, fun id? _ => ?_⟩
    exact (pendingLoop_passing (id?.getD "") fuel).bind fun _ _ _ => trivial
  | broadcast b =>
    refine Prog.keeps_of_only_forall (onReceive_only b) (fun s _ e he => ?_) fun _ _ => trivial
    cases e
    case canSend simSlot => exact he.elim
    case getSmsManager simSlot => exact he.elim
    case divideMessage message => exact he.elim
    case sendTextMessage task parts => exact he.elim
    case recordSend simSlot => exact he.elim
    all_goals trivial

theorem routines_passing (deviceId : String) :
    Phased (Routine.prog deviceId) (fun _ => passing) (fun _ _ _ => True) Passing.next .idle where
  next_eq _ := rfl
  expects _ _ := trivial
  keeps := routine_passing deviceId

end Keeps

/-! ## The messages of a slot -/

/-- A message is handed over on a slot. -/
def handsOver (simSlot : ℤ) : Event PhoneCmd → Bool
  | ⟨.sendTextMessage task _, .ok _⟩ => task.simSlot = simSlot
  | _ => false

/-- How many messages were handed over on a slot. -/
def handedOn (simSlot : ℤ) (log : List (ℕ × Event PhoneCmd)) : ℕ :=
  log.countP fun x => handsOver simSlot x.2

theorem handedOn_concat (simSlot : ℤ) (log : List (ℕ × Event PhoneCmd)) (x : ℕ × Event PhoneCmd) :
    handedOn simSlot (log ++ [x]) = handedOn simSlot log + if handsOver simSlot x.2 then 1 else 0 := by
  rw [handedOn, handedOn, List.countP_append, List.countP_singleton]

/-- How many calls hold a place on a slot. -/
def placesHeld (calls : List Routine) (P : Pool PhoneCmd Phone Unit) (simSlot : ℤ) : ℤ :=
  ∑ j ∈ range calls.length, (P.phase Passing.next .idle j).on simSlot

/-- How many calls have used a place on a slot and are not counted yet. -/
def placesUsed (calls : List Routine) (P : Pool PhoneCmd Phone Unit) (simSlot : ℤ) : ℤ :=
  ∑ j ∈ range calls.length, (P.phase Passing.next .idle j).uncounted simSlot

/-- There is room in a window of a slot for the calls that hold a place and one more. -/
def HasRoom (W : Window) (calls : List Routine) (P : Pool PhoneCmd Phone Unit) (simSlot : ℤ) : Prop :=
  W.sent (P.state.limiter.current simSlot P.state.tick.clock) + placesHeld calls P simSlot < W.max

/-- A check passes only if there is room in the window. -/
def FindsRoomIn (W : Window) (calls : List Routine) (P : Pool PhoneCmd Phone Unit) :
    {β : Type} → PhoneCmd β → Prop
  | _, .canSend simSlot =>
    (P.state.limiter.canSend simSlot P.state.tick.clock).1 = true → HasRoom W calls P simSlot
  | _, _ => True

/-- A check passes only if there is room in the minute and in the hour. -/
def FindsRoom (calls : List Routine) (P : Pool PhoneCmd Phone Unit) (_ : ℕ) {β : Type}
    (e : PhoneCmd β) : Prop :=
  FindsRoomIn .minute calls P e ∧ FindsRoomIn .hour calls P e

instance (W : Window) (calls : List Routine) (P : Pool PhoneCmd Phone Unit) (simSlot : ℤ) :
    Decidable (HasRoom W calls P simSlot) := inferInstanceAs (Decidable (_ < _))

instance decidableFindsRoomIn (W : Window) (calls : List Routine) (P : Pool PhoneCmd Phone Unit)
    {β : Type} (e : PhoneCmd β) : Decidable (FindsRoomIn W calls P e) :=
  match e with
  | .canSend simSlot => inferInstanceAs (Decidable (_ → HasRoom W calls P simSlot))
  | .now | .getDeviceId | .getSimSlot | .hasSmsPermission | .getSmsManager .. | .divideMessage ..
  | .sendTextMessage .. | .recordSend .. | .markSent .. | .markDelivered .. | .markFailed ..
  | .getNextPending | .getRetryableTasks | .updateRemoteStatus .. | .isConnected | .publish .. =>
    isTrue trivial

instance (calls : List Routine) (P : Pool PhoneCmd Phone Unit) (i : ℕ) {β : Type} (e : PhoneCmd β) :
    Decidable (FindsRoom calls P i e) := inferInstanceAs (Decidable (_ ∧ _))

/-- A check is made only when no call holds a place on the slot. -/
def Alone (calls : List Routine) (P : Pool PhoneCmd Phone Unit) (_ : ℕ) :
    {β : Type} → PhoneCmd β → Prop
  | _, .canSend simSlot => placesHeld calls P simSlot = 0
  | _, _ => True

/-- Alone a call finds room where the limiter lets it pass. -/
theorem Alone.findsRoomIn (W : Window) {calls : List Routine} {P : Pool PhoneCmd Phone Unit} {i : ℕ}
    {β : Type} {e : PhoneCmd β} (h : Alone calls P i e) : FindsRoomIn W calls P e := by
  cases e
  case canSend simSlot =>
    intro hpass
    have hroom := W.room _ _ _ hpass
    have hnone : placesHeld calls P simSlot = 0 := h
    rw [HasRoom, hnone]
    omega
  all_goals trivial

section Places

variable {calls : List Routine} {P : Pool PhoneCmd Phone Unit} {i : ℕ} {β : Type} {e : PhoneCmd β}
  {k : β → PhoneProg Unit} {simSlot : ℤ}

theorem sum_phase_advance (f : Passing → ℤ) (hi : i < calls.length) :
    ∑ j ∈ range calls.length, f ((P.advance phone i e k).phase Passing.next .idle j) =
      ∑ j ∈ range calls.length, f (P.phase Passing.next .idle j) +
        f ((P.phase Passing.next .idle i).next ⟨e, (phone.step e P.state).1⟩) -
          f (P.phase Passing.next .idle i) := by
  have hphase : (P.advance phone i e k).phase Passing.next .idle =
      Function.update (P.phase Passing.next .idle) i
        ((P.phase Passing.next .idle i).next ⟨e, (phone.step e P.state).1⟩) := phase_advance
  rw [sum_of_eq_off hi (f := fun j => f (P.phase Passing.next .idle j)) fun j hj => ?_]
  · rw [hphase, Function.update_self]
  · rw [hphase, Function.update_of_ne hj]

theorem placesUsed_le_placesHeld (calls : List Routine) (P : Pool PhoneCmd Phone Unit) (simSlot : ℤ) :
    placesUsed calls P simSlot ≤ placesHeld calls P simSlot := by
  refine sum_le_sum fun j _ => ?_
  unfold Passing.uncounted Passing.on
  split_ifs with hused hheld
  · exact le_rfl
  · exact absurd (.inr hused) hheld
  · decide
  · exact le_rfl

theorem placesUsed_nonneg (calls : List Routine) (P : Pool PhoneCmd Phone Unit) (simSlot : ℤ) :
    0 ≤ placesUsed calls P simSlot := by
  refine sum_nonneg fun j _ => ?_
  unfold Passing.uncounted
  split_ifs <;> decide

end Places

/-! ## What a step leaves of a count -/

/-- **The count of a window** in the part of a run that begins with some pool: there is room for the
calls that hold a place, and as long as the window has not begun anew, at most as many messages were
handed over as are counted or are still to be counted. -/
structure CountBounded (W : Window) (calls : List Routine) (simSlot : ℤ) (P₀ P : Pool PhoneCmd Phone Unit) :
    Prop where
  room : W.counted P.state simSlot + placesHeld calls P simSlot ≤ W.max
  later : W.begun P₀.state simSlot ≤ W.begun P.state simSlot
  handed : W.begun P.state simSlot = W.begun P₀.state simSlot →
    (handedOn simSlot P.log : ℤ) ≤
      handedOn simSlot P₀.log + W.counted P.state simSlot + placesUsed calls P simSlot

section Step

variable {W : Window} {calls : List Routine} {P₀ P : Pool PhoneCmd Phone Unit} {i : ℕ} {β : Type}
  {e : PhoneCmd β} {k : β → PhoneProg Unit} {simSlot : ℤ}

/-- **What a step leaves of the count**, said in terms of the slot and of the place of the call. -/
theorem CountBounded.step (h : CountBounded W calls simSlot P₀ P) (hi : i < calls.length) {s s' : Passing}
    (hs : P.phase Passing.next .idle i = s) (hs' : s.next ⟨e, (phone.step e P.state).1⟩ = s')
    (hroom : W.counted (phone.step e P.state).2 simSlot + placesHeld calls P simSlot +
      s'.on simSlot - s.on simSlot ≤ W.max)
    (hlater : W.begun P.state simSlot ≤ W.begun (phone.step e P.state).2 simSlot)
    (hhanded : W.begun (phone.step e P.state).2 simSlot = W.begun P.state simSlot →
      ((if handsOver simSlot ⟨e, (phone.step e P.state).1⟩ then 1 else 0 : ℕ) : ℤ) +
          W.counted P.state simSlot + s.uncounted simSlot ≤
        W.counted (phone.step e P.state).2 simSlot + s'.uncounted simSlot) :
    CountBounded W calls simSlot P₀ (P.advance phone i e k) := by
  have hheld := sum_phase_advance (P := P) (e := e) (k := k) (fun s => s.on simSlot) hi
  have hused := sum_phase_advance (P := P) (e := e) (k := k) (fun s => s.uncounted simSlot) hi
  rw [hs, hs'] at hheld hused
  refine ⟨?_, h.later.trans hlater, fun hsame => ?_⟩
  · change W.counted (phone.step e P.state).2 simSlot + placesHeld calls _ simSlot ≤ _
    rw [placesHeld, hheld, ← placesHeld]
    omega
  · have hbefore : W.begun P.state simSlot = W.begun P₀.state simSlot :=
      le_antisymm (hlater.trans_eq hsame) h.later
    have hcount := h.handed hbefore
    have hnow := hhanded (hsame.trans hbefore.symm)
    change ((handedOn simSlot (P.log ++ [(i, ⟨e, (phone.step e P.state).1⟩)]) : ℕ) : ℤ) ≤
      _ + W.counted (phone.step e P.state).2 simSlot + placesUsed calls _ simSlot
    rw [handedOn_concat, placesUsed, hused, ← placesUsed]
    push_cast at hnow ⊢
    omega

/-- A step that leaves the slot as it is. -/
theorem CountBounded.aside (h : CountBounded W calls simSlot P₀ P) (hi : i < calls.length) {s s' : Passing}
    (hs : P.phase Passing.next .idle i = s) (hs' : s.next ⟨e, (phone.step e P.state).1⟩ = s')
    (hlimiter : (phone.step e P.state).2.limiter simSlot = P.state.limiter simSlot)
    (hon : s'.on simSlot ≤ s.on simSlot)
    (hhanded : ((if handsOver simSlot ⟨e, (phone.step e P.state).1⟩ then 1 else 0 : ℕ) : ℤ) +
      s.uncounted simSlot ≤ s'.uncounted simSlot) :
    CountBounded W calls simSlot P₀ (P.advance phone i e k) := by
  have hcounted : W.counted (phone.step e P.state).2 simSlot = W.counted P.state simSlot := by
    rw [Window.counted, hlimiter, ← Window.counted]
  have hbegun : W.begun (phone.step e P.state).2 simSlot = W.begun P.state simSlot := by
    rw [Window.begun, hlimiter, ← Window.begun]
  have hroom := h.room
  refine h.step hi hs hs' ?_ hbegun.ge fun _ => ?_
  · rw [hcounted]
    omega
  · rw [hcounted]
    omega

/-- The state of a slot that is used. -/
theorem slotState_cases (W : Window) (w : Phone) (simSlot now : ℤ) :
    (W.begun w simSlot = ⊥ ∨ W.begun w simSlot = W.start (w.limiter.slotState simSlot now)) ∧
      W.counted w simSlot = W.sent (w.limiter.slotState simSlot now) := by
  unfold Window.begun Window.counted RateLimiter.slotState
  cases w.limiter simSlot with
  | none => exact ⟨.inl rfl, (W.fresh now).symm⟩
  | some state => exact ⟨.inr rfl, rfl⟩

/-- **A check** leaves the window as it is or begins it anew. -/
theorem canSend_cases (W : Window) (w : Phone) (simSlot : ℤ) :
    let w' := (phone.step (.canSend simSlot) w).2
    W.counted w' simSlot = W.sent (w.limiter.current simSlot w.tick.clock) ∧
      W.counted w' simSlot ≤ W.counted w simSlot ∧ W.begun w simSlot ≤ W.begun w' simSlot ∧
        (W.begun w' simSlot = W.begun w simSlot → W.counted w' simSlot = W.counted w simSlot) := by
  intro w'
  have hstate : w'.limiter simSlot = some (w.limiter.current simSlot w.tick.clock) :=
    Function.update_self _ _ _
  have hcounted' : W.counted w' simSlot = W.sent (w.limiter.current simSlot w.tick.clock) := by
    rw [Window.counted, hstate, Option.elim_some]
  have hbegun' : W.begun w' simSlot = W.start (w.limiter.current simSlot w.tick.clock) := by
    rw [Window.begun, hstate]
    rfl
  obtain ⟨hbegun, hcounted⟩ := slotState_cases W w simSlot w.tick.clock
  refine ⟨hcounted', ?_⟩
  rw [hcounted', hbegun', hcounted]
  rcases W.current w.limiter simSlot w.tick.clock with ⟨hstart, hsent⟩ | ⟨hstart, hsent⟩
  · refine ⟨hsent.le, ?_, fun _ => hsent⟩
    rw [hstart]
    rcases hbegun with hbegun | hbegun
    · exact hbegun ▸ bot_le
    · exact hbegun.le
  · refine ⟨hsent ▸ Nat.zero_le _, ?_, fun hsame => ?_⟩
    · rcases hbegun with hbegun | hbegun
      · exact hbegun ▸ bot_le
      · exact hbegun ▸ WithBot.coe_le_coe.2 hstart.le
    · rcases hbegun with hbegun | hbegun
      · rw [hbegun] at hsame
        exact absurd hsame WithBot.coe_ne_bot
      · rw [hbegun] at hsame
        exact absurd (WithBot.coe_inj.1 hsame) hstart.ne'

/-- **A message is counted.** -/
theorem recordSend_cases (W : Window) (w : Phone) (simSlot : ℤ) :
    let w' := (phone.step (.recordSend simSlot) w).2
    W.counted w' simSlot = W.counted w simSlot + 1 ∧ W.begun w simSlot ≤ W.begun w' simSlot := by
  intro w'
  obtain ⟨hbegun, hcounted⟩ := slotState_cases W w simSlot w.tick.clock
  obtain ⟨hstart, hsent⟩ := W.counts (w.limiter.slotState simSlot w.tick.clock)
  have hstate : w'.limiter simSlot =
      some { w.limiter.slotState simSlot w.tick.clock with
        sentThisMinute := (w.limiter.slotState simSlot w.tick.clock).sentThisMinute + 1
        sentThisHour := (w.limiter.slotState simSlot w.tick.clock).sentThisHour + 1 } :=
    Function.update_self _ _ _
  constructor
  · rw [Window.counted, hstate, hcounted]
    exact hsent
  · have hbegun' : W.begun w' simSlot = W.start (w.limiter.slotState simSlot w.tick.clock) := by
      rw [Window.begun, hstate, ← hstart]
      rfl
    rw [hbegun']
    rcases hbegun with hbegun | hbegun
    · exact hbegun ▸ bot_le
    · exact hbegun.le

@[simp] theorem on_idle (simSlot : ℤ) : Passing.idle.on simSlot = 0 := rfl

@[simp] theorem uncounted_idle (simSlot : ℤ) : Passing.idle.uncounted simSlot = 0 := rfl

@[simp] theorem uncounted_checked (simSlot simSlot' : ℤ) :
    (Passing.checked simSlot').uncounted simSlot = 0 := rfl

theorem on_nonneg (s : Passing) (simSlot : ℤ) : 0 ≤ s.on simSlot := by
  unfold Passing.on
  split_ifs <;> decide

@[simp] theorem on_checked (simSlot simSlot' : ℤ) :
    (Passing.checked simSlot').on simSlot = if simSlot' = simSlot then 1 else 0 := by
  simp [Passing.on]

@[simp] theorem on_handedOver (simSlot simSlot' : ℤ) :
    (Passing.handedOver simSlot').on simSlot = if simSlot' = simSlot then 1 else 0 := by
  simp [Passing.on]

@[simp] theorem uncounted_handedOver (simSlot simSlot' : ℤ) :
    (Passing.handedOver simSlot').uncounted simSlot = if simSlot' = simSlot then 1 else 0 := by
  simp [Passing.uncounted]

/-- What a check that passes or does not makes of a call. -/
theorem next_canSend (simSlot' : ℤ) (allowed : Bool) :
    Passing.idle.next ⟨.canSend simSlot', allowed⟩ = if allowed then .checked simSlot' else .idle :=
  rfl

theorem uncounted_next_canSend (simSlot simSlot' : ℤ) (allowed : Bool) :
    (Passing.idle.next ⟨.canSend simSlot', allowed⟩).uncounted simSlot = 0 := by
  rw [next_canSend]
  cases allowed <;> rfl

/-- A check that passes takes a place. -/
theorem CountBounded.canSend (h : CountBounded W calls simSlot P₀ P) (hi : i < calls.length) {simSlot' : ℤ}
    {k : Bool → PhoneProg Unit} (hs : P.phase Passing.next .idle i = .idle)
    (hroom : (P.state.limiter.canSend simSlot' P.state.tick.clock).1 = true →
      HasRoom W calls P simSlot') :
    CountBounded W calls simSlot P₀ (P.advance phone i (.canSend simSlot') k) := by
  have hreply : (phone.step (.canSend simSlot') P.state).1 =
      (P.state.limiter.canSend simSlot' P.state.tick.clock).1 := rfl
  have hnone : handsOver simSlot ⟨.canSend simSlot', (phone.step (.canSend simSlot') P.state).1⟩ =
    false := rfl
  by_cases hslot : simSlot' = simSlot
  · subst hslot
    obtain ⟨hcounted, hle, hlater, hsame⟩ := canSend_cases W P.state simSlot'
    have hbound := h.room
    refine h.step hi hs rfl ?_ hlater fun hbegun => ?_
    · rw [next_canSend, hreply, on_idle]
      cases hpass : (P.state.limiter.canSend simSlot' P.state.tick.clock).1 with
      | false =>
        rw [if_neg Bool.false_ne_true, on_idle]
        omega
      | true =>
        have hfound := hroom hpass
        rw [HasRoom] at hfound
        rw [if_pos rfl, on_checked, if_pos rfl, hcounted]
        omega
    · rw [hnone, hsame hbegun, uncounted_next_canSend, uncounted_idle]
      simp
  · refine h.aside hi hs rfl (Function.update_of_ne (Ne.symm hslot) _ _) ?_ ?_
    · rw [next_canSend]
      split_ifs
      · rw [on_checked, if_neg hslot, on_idle]
      · exact le_rfl
    · rw [hnone, uncounted_next_canSend, uncounted_idle]
      simp

/-- A message that is counted gives its place back. -/
theorem CountBounded.recordSend (h : CountBounded W calls simSlot P₀ P) (hi : i < calls.length) {simSlot' : ℤ}
    {k : Unit → PhoneProg Unit} (hs : P.phase Passing.next .idle i = .handedOver simSlot') :
    CountBounded W calls simSlot P₀ (P.advance phone i (.recordSend simSlot') k) := by
  have hnext : (Passing.handedOver simSlot').next ⟨.recordSend simSlot', ()⟩ = .idle := rfl
  have hnone : handsOver simSlot ⟨.recordSend simSlot', ()⟩ = false := rfl
  by_cases hslot : simSlot' = simSlot
  · subst hslot
    obtain ⟨hcounted, hlater⟩ := recordSend_cases W P.state simSlot'
    have hbound := h.room
    refine h.step hi hs hnext ?_ hlater fun _ => ?_
    · rw [hcounted, on_idle, on_handedOver, if_pos rfl]
      push_cast
      omega
    · rw [hcounted, uncounted_idle, uncounted_handedOver, if_pos rfl]
      change ((if handsOver simSlot' ⟨.recordSend simSlot', ()⟩ then 1 else 0 : ℕ) : ℤ) + _ + _ ≤ _
      rw [hnone]
      push_cast
      omega
  · refine h.aside hi hs hnext (Function.update_of_ne (Ne.symm hslot) _ _) ?_ ?_
    · rw [on_idle]
      exact on_nonneg _ _
    · rw [uncounted_idle, uncounted_handedOver, if_neg hslot]
      exact le_rfl

/-- A message that is handed over uses the place of its call; if it cannot be handed over the place is
given back. -/
theorem CountBounded.sendTextMessage (h : CountBounded W calls simSlot P₀ P) (hi : i < calls.length)
    {task : SMSTask} {parts : ℕ} {k : Except (Option String) Unit → PhoneProg Unit}
    (hs : P.phase Passing.next .idle i = .checked task.simSlot) :
    CountBounded W calls simSlot P₀ (P.advance phone i (.sendTextMessage task parts) k) := by
  refine h.aside hi hs rfl rfl ?_ ?_
  · cases (phone.step (.sendTextMessage task parts) P.state).1 with
    | ok _ =>
      change (Passing.handedOver task.simSlot).on simSlot ≤ _
      rw [on_handedOver, on_checked]
    | error message =>
      change Passing.idle.on simSlot ≤ _
      rw [on_idle]
      exact on_nonneg _ _
  · cases (phone.step (.sendTextMessage task parts) P.state).1 with
    | ok _ =>
      change ((if decide (task.simSlot = simSlot) then 1 else 0 : ℕ) : ℤ) + _ ≤
        (Passing.handedOver task.simSlot).uncounted simSlot
      rw [uncounted_checked, uncounted_handedOver]
      by_cases hslot : task.simSlot = simSlot
      · simp [hslot]
      · simp [hslot]
    | error message => exact (zero_add _).le

/-- A call that is given up gives its place back. -/
theorem CountBounded.giveUp (h : CountBounded W calls simSlot P₀ P) (hi : i < calls.length) {simSlot' : ℤ}
    (hs : P.phase Passing.next .idle i = .checked simSlot')
    (hlimiter : (phone.step e P.state).2.limiter = P.state.limiter)
    (hnone : handsOver simSlot ⟨e, (phone.step e P.state).1⟩ = false) {p : Prop} [Decidable p]
    (hnext : (Passing.checked simSlot').next ⟨e, (phone.step e P.state).1⟩ =
      if p then .checked simSlot' else .idle) :
    CountBounded W calls simSlot P₀ (P.advance phone i e k) := by
  refine h.aside hi hs hnext (congrFun hlimiter simSlot) ?_ ?_
  · split_ifs
    · exact le_rfl
    · rw [on_idle]
      exact on_nonneg _ _
  · rw [hnone, uncounted_checked, if_neg Bool.false_ne_true]
    split_ifs
    · simp
    · simp

/-- **A step of a call leaves the count bounded.** -/
theorem countBounded_advance (h : CountBounded W calls simSlot P₀ P) (hi : i < calls.length)
    (hallows : (P.phase Passing.next .idle i).Allows e)
    (hroom : FindsRoomIn W calls P e) : CountBounded W calls simSlot P₀ (P.advance phone i e k) := by
  generalize hs : P.phase Passing.next .idle i = s at hallows
  cases e
  case canSend simSlot' =>
    obtain rfl : s = .idle := hallows
    exact h.canSend hi hs hroom
  case getSmsManager simSlot' =>
    obtain rfl : s = .checked simSlot' := hallows
    exact h.giveUp hi hs rfl rfl rfl
  case divideMessage message =>
    obtain ⟨simSlot', rfl⟩ : ∃ simSlot', s = .checked simSlot' := hallows
    exact h.giveUp hi hs rfl rfl rfl
  case sendTextMessage task parts =>
    obtain rfl : s = .checked task.simSlot := hallows
    exact h.sendTextMessage hi hs
  case recordSend simSlot' =>
    obtain rfl : s = .handedOver simSlot' := hallows
    exact h.recordSend hi hs
  all_goals exact h.aside hi hs rfl rfl le_rfl (zero_add _).le

end Step

/-! ## Runs -/

section Runs

variable {W : Window} {calls : List Routine} {deviceId : String} {w : Phone} {simSlot : ℤ}

theorem countBounded_run {P₀ P : Pool PhoneCmd Phone Unit} {sched : List ℕ}
    (htracks : Tracks (Routine.prog deviceId) calls P) (h : CountBounded W calls simSlot P₀ P)
    (hroom : EachStep phone (Meets fun P _ => FindsRoomIn W calls P) P sched) :
    CountBounded W calls simSlot P₀ (P.run phone sched) := by
  refine run_phases_inv_of_tracks (routines_passing deviceId) htracks h hroom
    fun P i r β e k hr hi hallows _ hP hG => ?_
  have hlt : i < calls.length := (List.getElem?_eq_some_iff.1 hr).1
  exact countBounded_advance hP hlt hallows (meets_of_act hG hi)

/-- The counts of a limiter that was not used. -/
theorem countBounded_start (hfresh : w.limiter = fun _ => none) :
    CountBounded W calls simSlot (start (calls.map (Routine.prog deviceId)) w)
      (start (calls.map (Routine.prog deviceId)) w) := by
  have hcounted : W.counted w simSlot = 0 := by
    rw [Window.counted, hfresh]
    rfl
  have hheld : placesHeld calls (start (calls.map (Routine.prog deviceId)) w) simSlot = 0 :=
    sum_eq_zero fun j _ => rfl
  have hused := placesUsed_nonneg calls (start (calls.map (Routine.prog deviceId)) w) simSlot
  refine ⟨?_, le_rfl, fun _ => ?_⟩
  · change (W.counted w simSlot : ℤ) + _ ≤ _
    rw [hcounted, hheld]
    simp
  · change _ ≤ _ + (W.counted w simSlot : ℤ) + _
    omega

/-- The part of a run between two resets of a window of a slot: when the window began is the same at
both ends. The clock does not run backwards, so a reset changes it for good. -/
def SameWindow (W : Window) (simSlot : ℤ) (P P' : Pool PhoneCmd Phone Unit) : Prop :=
  W.begun P'.state simSlot = W.begun P.state simSlot

/-- No more messages are handed over on a slot between two resets of a window than its limit. -/
def WithinLimit (W : Window) (simSlot : ℤ) (P P' : Pool PhoneCmd Phone Unit) : Prop :=
  SameWindow W simSlot P P' → handedOn simSlot P'.log ≤ handedOn simSlot P.log + W.max

theorem run_withinLimit (hfresh : w.limiter = fun _ => none) {before between : List ℕ}
    (hroom : EachStep phone (Meets fun P _ => FindsRoomIn W calls P)
      (start (calls.map (Routine.prog deviceId)) w) (before ++ between)) :
    let P := (start (calls.map (Routine.prog deviceId)) w).run phone before
    WithinLimit W simSlot P (P.run phone between) := by
  intro P hsame
  obtain ⟨hbefore, hbetween⟩ := eachStep_append.1 hroom
  have htracks : Tracks (Routine.prog deviceId) calls P :=
    run_inv (fun _ j hP => hP.step j) (tracks_start (Routine.prog deviceId) calls w) before
  have hstart : CountBounded W calls simSlot (start (calls.map (Routine.prog deviceId)) w)
      (start (calls.map (Routine.prog deviceId)) w) := countBounded_start hfresh
  have hP := countBounded_run (tracks_start (Routine.prog deviceId) calls w) hstart hbefore
  have hused := placesUsed_nonneg calls P simSlot
  have hbegin : CountBounded W calls simSlot P P := ⟨hP.room, le_rfl, fun _ => by omega⟩
  have hend := countBounded_run htracks hbegin hbetween
  have hhanded := hend.handed hsame
  have hroom' := hend.room
  have hle := placesUsed_le_placesHeld calls (P.run phone between) simSlot
  omega

/-- Calls that do not overlap keep to the limits. -/
theorem run_withinLimit_of_alone (hfresh : w.limiter = fun _ => none) {before between : List ℕ}
    (halone : EachStep phone (Meets (Alone calls))
      (start (calls.map (Routine.prog deviceId)) w) (before ++ between)) :
    let P := (start (calls.map (Routine.prog deviceId)) w).run phone before
    WithinLimit W simSlot P (P.run phone between) :=
  run_withinLimit hfresh (halone.mono fun _ _ h => meets_mono (fun h => h.findsRoomIn W) h)

end Runs

/-- **No more than ten messages are handed over on a slot in a minute and no more than a hundred in an
hour**, in runs in which a check passes only if there is room for the calls that hold a place. -/
theorem run_withinLimits (deviceId : String) (calls : List Routine) (w : Phone)
    (before between : List ℕ) (simSlot : ℤ) (hfresh : w.limiter = fun _ => none)
    (hroom : EachStep phone (Meets (FindsRoom calls))
      (start (calls.map (Routine.prog deviceId)) w) (before ++ between)) :
    let P := (start (calls.map (Routine.prog deviceId)) w).run phone before
    WithinLimit .minute simSlot P (P.run phone between) ∧
      WithinLimit .hour simSlot P (P.run phone between) := by
  have hminute : EachStep phone (Meets fun P _ => FindsRoomIn .minute calls P)
      (start (calls.map (Routine.prog deviceId)) w) (before ++ between) :=
    hroom.mono fun _ _ h => meets_mono (fun h => h.1) h
  have hhour : EachStep phone (Meets fun P _ => FindsRoomIn .hour calls P)
      (start (calls.map (Routine.prog deviceId)) w) (before ++ between) :=
    hroom.mono fun _ _ h => meets_mono (fun h => h.2) h
  exact ⟨run_withinLimit hfresh hminute, run_withinLimit hfresh hhour⟩

/-! ## Eleven commands -/

instance (W : Window) (simSlot : ℤ) (P P' : Pool PhoneCmd Phone Unit) :
    Decidable (WithinLimit W simSlot P P') :=
  inferInstanceAs (Decidable (W.begun P'.state simSlot = W.begun P.state simSlot → _ ≤ _))

/-- Eleven commands for a phone that was not used. -/
def elevenCommands : Pool PhoneCmd Phone Unit :=
  start ((List.replicate 11 (.message (.sendSms helloCommand))).map (Routine.prog "device-1")) noTasks

/-- The first of them is checked. -/
def firstCheck : List ℕ := List.replicate 3 0

/-- The others come after it, one after the other. -/
def successively : List ℕ := List.replicate 7 0 ++ (List.range 10).flatMap fun j => List.replicate 10 (j + 1)

/-- One after the other, ten of them are sent. -/
theorem elevenCommands_successively :
    let P := elevenCommands.run phone firstCheck
    handedOn 0 (P.run phone successively).log = 10 ∧ WithinLimit .minute 0 P (P.run phone successively) := by
  have hroom : EachStep phone (Meets (FindsRoom (List.replicate 11 (.message (.sendSms helloCommand)))))
      elevenCommands (firstCheck ++ successively) := by
    decide +kernel
  exact ⟨by decide +kernel,
    (run_withinLimits "device-1" (List.replicate 11 (.message (.sendSms helloCommand))) noTasks
      firstCheck successively 0 rfl hroom).1⟩

/-- All of them are checked before one of them is sent. -/
def allChecked : List ℕ := (List.replicate 3 (List.range 11)).flatten

/-- **All eleven are sent** in one minute. -/
theorem elevenCommands_notWithinLimit :
    let P := elevenCommands.run phone allChecked
    ¬ WithinLimit .minute 0 P (P.run phone allChecked) := by
  decide +kernel

end AeroxeBee.Android
