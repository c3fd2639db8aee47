import AeroxeBee.Dispatch.Acknowledged

/-!
# Blocked SIM cards

Any number of runs of `processMessage` proceed at the same time. A card that is judged blocked is
passed over in the run that judges it, but the judgement is not stored: the status is written only
after the check that ends the attempt. So a later run judges the card anew by the deliveries in
its window, and publishes to the device as soon as the bad ones have left the window.

* `not_stores_blocked`: no run ever stores the status of a blocked card;
* `judged_before_published`: a run publishes to a device only after it judged its card not to be
  blocked;
* `blocked_sticky`: once a card was judged blocked, no run that begins later publishes to its
  device, provided that each later judgement still finds a window that counts as a block.
-/

namespace AeroxeBee.Dispatch

open Foundations

variable (cfg : Config) (scan : ContentScan) (device : String)

/-! ## What a log tells -/

/-- The event judges the SIM card of the device to be blocked. -/
def judgesBlocked : Event ServerCmd → Bool
  | ⟨.evaluateDevice id _, (status, _)⟩ => id = device && status = .blocked
  | _ => false

/-- The event judges the SIM card of the device not to be blocked. -/
def clears : Event ServerCmd → Bool
  | ⟨.evaluateDevice id _, (status, _)⟩ => id = device && status ≠ .blocked
  | _ => false

/-- The event publishes a command to the device. -/
def publishesTo : Event ServerCmd → Bool
  | ⟨.publish topic _, _⟩ => topic = commandTopic device
  | _ => false

/-- Run `i` has not begun, or began after the card of the device was judged blocked by another
run; there was such a judgement. -/
def beginsAfterBlock (i : ℕ) : List (ℕ × Event ServerCmd) → Bool
  | [] => false
  | (j, ev) :: log =>
    if j = i then false
    else if judgesBlocked device ev then true
    else beginsAfterBlock i log

/-- **A block is sticky**: whoever publishes to the device had begun before the card was judged
blocked. -/
def Sticky (log : List (ℕ × Event ServerCmd)) : Prop :=
  Justified (fun before x => publishesTo device x.2 = true →
    beginsAfterBlock device x.1 before = false) log

/-- Runs of the handler in the middle of their work. -/
abbrev Dispatchers := Pool ServerCmd World (Except String Unit)

/-- The device whose SIM card is judged by the next command of a routine. -/
def judging {α : Type} : ServerProg α → Option String
  | .act (.evaluateDevice id _) _ => some id
  | _ => none

/-- A run that began after the card was judged blocked, and that judges it next, finds a window
that still counts as a block. -/
def StillBlocked (P : Dispatchers) (i : ℕ) : Prop :=
  P.threads[i]?.bind judging = some device → beginsAfterBlock device i P.log = true →
    SimHealth.WindowBlocked cfg.simHealth P.state.tick.clock (P.state.tick.history device)

instance (P : Dispatchers) (i : ℕ) : Decidable (StillBlocked cfg device P i) :=
  inferInstanceAs (Decidable (_ → _))

variable {cfg scan device} {msg : QueueMessage}

theorem beginsAfterBlock_append {i : ℕ} {ev : Event ServerCmd}
    (before after : List (ℕ × Event ServerCmd)) :
    beginsAfterBlock device i (before ++ (i, ev) :: after) = beginsAfterBlock device i before := by
  induction before with
  | nil => simp [beginsAfterBlock]
  | cons x before ih => simp only [List.cons_append, beginsAfterBlock, ih]

theorem commandTopic_injective {id id' : String} (h : commandTopic id = commandTopic id') :
    id = id' := by
  have hchars := congrArg String.toList h
  simp only [commandTopic, String.toList_append, List.append_cancel_left_eq,
    List.append_cancel_right_eq] at hchars
  exact String.toList_inj.1 hchars

/-! ## What a run does to a device -/

/-- The protocol of a run: it publishes only to the device whose card it judged last, and only if
the card was not judged blocked. -/
def clearing : Protocol ServerCmd (Option String) where
  allows s := fun e =>
    match e with
    | .publish topic _ => ∃ id, s = some id ∧ topic = commandTopic id
    | .db (.updateHealthStatus _ status _) => status ≠ .blocked
    | _ => True
  expects _ := True
  next s ev :=
    match ev with
    | ⟨.evaluateDevice id _, (status, _)⟩ => if status = .blocked then none else some id
    | _ => s

theorem Quiet.keeps_clearing {α : Type} {p : ServerProg α} (hp : p.Only Quiet)
    (s : Option String) : p.Keeps clearing (fun s' _ => s' = s) s := by
  refine Prog.Keeps.of_only hp (fun e he => ?_) fun e b he => ?_
  · cases e with
    | publish topic payload => exact he.elim
    | db q =>
      cases q with
      | updateHealthStatus id status slope => exact he.elim
      | _ => trivial
    | _ => trivial
  · cases e with
    | evaluateDevice id status => exact he.elim
    | _ => rfl

/-- The health check that lets a device pass has judged its card not to be blocked. -/
theorem keeps_checkHealth (d : Device) (s : Option String) :
    (checkHealth d).Keeps clearing (fun s' r => r = .ok () → s' = some d.id) s :=
  checkHealth_keeps_of (K := fun s => s = some d.id) trivial (fun _ hpassed => if_neg hpassed)
    fun _ _ _ hs hpassed => ⟨hpassed, fun _ => hs⟩

theorem keeps_clearing_trySend (d : Device) {s : Option String} (hs : s = some d.id) :
    (trySend cfg msg d).Keeps clearing
      (fun _ r => (r ≠ .ok () → True) ∧ (r = .ok () → True)) s := by
  refine trySend_keeps_of (I := fun _ => True) (J := fun _ => True) (K := fun s => s = some d.id)
    (Q := fun _ => True) (fun s hs => ⟨trivial, fun _ _ => hs⟩) (fun s hs => ?_) (fun s _ => ?_)
    (fun s _ => ?_) hs
  · subst hs
    exact ⟨trivial, fun now _ => ⟨⟨d.id, rfl, rfl⟩, fun reply _ => ⟨fun _ => rfl, fun _ => trivial⟩⟩⟩
  · exact (Quiet.keeps_clearing (quiet_of_idle (recordFailed_idle d)) s).mono fun _ _ _ => trivial
  · exact (Quiet.keeps_clearing (recordSent_quiet d) s).mono fun _ _ _ => trivial

theorem keeps_clearing_attempt (d : Device) (s : Option String) :
    (attempt cfg msg d).Keeps clearing
      (fun _ a => (a ≠ .sent → True) ∧ (a = .sent → True)) s := by
  refine attempt_keeps_of (I := fun _ => True) (Q := fun _ => True)
    (fun s _ => ⟨trivial, fun _ _ => trivial⟩) (fun s _ => ?_) trivial
  refine attemptClosed_keeps_of (J := fun _ => True) (K := fun s => s = some d.id) (fun s _ => ?_)
    (fun s _ => ?_) (fun s hs => keeps_clearing_trySend d hs) trivial
  · exact (Quiet.keeps_clearing (quiet_of_idle (checkRates_idle d)) s).mono
      fun _ _ _ => ⟨trivial, fun _ => trivial⟩
  · exact (keeps_checkHealth d s).mono fun _ _ hpassed => ⟨trivial, hpassed⟩

theorem keeps_clearing_processMessage (s : Option String) :
    (processMessage cfg scan msg).Keeps clearing (fun _ _ => True) s := by
  refine processMessage_keeps_of (I := fun _ => True) ?_ (fun d s _ => ?_) fun _ _ _ => trivial
  · exact (Quiet.keeps_clearing (quiet_of_idle candidates_idle) s).mono fun _ _ _ => trivial
  · exact keeps_clearing_attempt d s

/-- The protocol has a device in its state only if its card was judged not to be blocked. -/
theorem foldl_clearing {evs : List (Event ServerCmd)} {s : Option String}
    (h : evs.foldl clearing.next s = some device) :
    s = some device ∨ ∃ ev ∈ evs, clears device ev = true := by
  induction evs generalizing s with
  | nil => exact .inl h
  | cons ev evs ih =>
    rw [List.foldl_cons] at h
    rcases ih h with hs | ⟨ev', hmem, hclears⟩
    · obtain ⟨cmd, reply⟩ := ev
      cases cmd with
      | evaluateDevice id current =>
        obtain ⟨status, slope⟩ := reply
        change ite _ _ _ = _ at hs
        split_ifs at hs with hblocked
        obtain rfl := Option.some.inj hs
        exact .inr ⟨_, List.mem_cons_self, by simp [clears, hblocked]⟩
      | _ => exact .inl hs
    · exact .inr ⟨ev', List.mem_cons_of_mem _ hmem, hclears⟩

/-! ## Runs -/

section Runs

variable (cfg scan) (calls : List QueueMessage) (w : World) (sched : List ℕ)

/-- The runs of the handler for some messages, none of which has begun. -/
def dispatchers : Dispatchers := .start (calls.map (processMessage cfg scan)) w

/-- What a run of the handler has left to do keeps to the protocol. -/
theorem keeps_of_follows {p : ServerProg (Except String Unit)} {evs : List (Event ServerCmd)}
    (h : (processMessage cfg scan msg).Follows evs p) :
    p.Keeps clearing (fun _ _ => True) (evs.foldl clearing.next none) :=
  Prog.Keeps.of_follows h (keeps_clearing_processMessage none) fun _ _ => trivial

/-- **The status of a blocked card is never stored.** -/
theorem not_stores_blocked {i : ℕ} {id : String} {status : SIMHealthStatus} {slope : ℚ}
    {reply : Except String Unit}
    (h : (i, (⟨.db (.updateHealthStatus id status slope), reply⟩ : Event ServerCmd)) ∈
      ((dispatchers cfg scan calls w).run (server cfg) sched).log) : status ≠ .blocked := by
  revert h
  refine Pool.run_labelled_inv (processMessage cfg scan) calls w sched
    (I := fun P => (i, (⟨.db (.updateHealthStatus id status slope), reply⟩ : Event ServerCmd)) ∈
      P.log → status ≠ .blocked) nofun fun P j msg β e k _ hf hP h => ?_
  rcases List.mem_append.1 h with hold | hnew
  · exact hP hold
  · have hkeeps := (keeps_of_follows cfg scan hf).1
    cases List.mem_singleton.1 hnew
    exact hkeeps

/-- **A run publishes to a device only after it judged its card not to be blocked.** -/
theorem judged_before_published :
    Justified (fun before x => publishesTo device x.2 = true →
        ∃ ev, (x.1, ev) ∈ before ∧ clears device ev = true)
      ((dispatchers cfg scan calls w).run (server cfg) sched).log := by
  refine Pool.run_labelled_inv (processMessage cfg scan) calls w sched
    (I := fun P => Justified _ P.log) (justified_nil _)
    fun P i msg β e k _ hf hP => hP.concat fun hpub => ?_
  have hkeeps := (keeps_of_follows cfg scan hf).1
  cases e with
  | publish topic payload =>
    obtain ⟨id, hid, rfl⟩ := hkeeps
    obtain rfl := commandTopic_injective (of_decide_eq_true hpub)
    rcases foldl_clearing hid with h | ⟨ev, hev, hclears⟩
    · cases h
    · exact ⟨ev, Pool.mem_eventsOf.1 hev, hclears⟩
  | _ => cases hpub

/-- Runs that began after a block judge the card to be blocked as well. -/
theorem not_cleared_after_block
    (h : Pool.EachStep (server cfg) (StillBlocked cfg device) (dispatchers cfg scan calls w) sched) :
    Justified (fun before x => clears device x.2 = true →
        beginsAfterBlock device x.1 before = false)
      ((dispatchers cfg scan calls w).run (server cfg) sched).log := by
  refine Pool.run_inv_of (I := fun P => Justified _ P.log) (fun P i hP hstill => ?_)
    (justified_nil _) h
  rcases Pool.step_cases (server cfg) P i with hs | ⟨β, e, k, hi, hs⟩
  · rw [hs]
    exact hP
  · rw [hs]
    refine hP.concat fun hclears => Bool.eq_false_iff.2 fun hafter => ?_
    cases e with
    | evaluateDevice id status =>
      obtain ⟨hid, hne⟩ : id = device ∧ _ ≠ SIMHealthStatus.blocked := by
        simpa [clears] using hclears
      subst hid
      exact hne (SimHealth.evaluateDevice_blocked_iff.2 (.inl (hstill (by rw [hi]; rfl) hafter)))
    | _ => cases hclears

/-- **Once a card was judged blocked, later runs leave its device alone**, whatever the messages,
the order of the steps and the environment are, as long as every judgement by a later run finds
that the deliveries in the window still count as a block. -/
theorem blocked_sticky
    (h : Pool.EachStep (server cfg) (StillBlocked cfg device) (dispatchers cfg scan calls w) sched) :
    Sticky device ((dispatchers cfg scan calls w).run (server cfg) sched).log := by
  intro n x hn hpub
  obtain ⟨ev, hmem, hclears⟩ := judged_before_published cfg scan calls w sched n x hn hpub
  obtain ⟨before, after, hsplit⟩ := List.append_of_mem hmem
  have hle : before.length < n := by
    have hlen := congrArg List.length hsplit
    rw [List.length_take, List.length_append, List.length_cons] at hlen
    omega
  have hget := congrArg (·[before.length]?) hsplit
  have htake := congrArg (List.take before.length) hsplit
  simp only [List.getElem?_take_of_lt hle, List.getElem?_append_right,
    le_refl, Nat.sub_self, List.getElem?_cons_zero] at hget
  rw [List.take_take, Nat.min_eq_left hle.le, List.take_left] at htake
  have hbefore := not_cleared_after_block cfg scan calls w sched h _ _ hget hclears
  rw [htake] at hbefore
  rw [hsplit, beginsAfterBlock_append]
  exact hbefore

end Runs

/-! ## A card that is used again -/

/-- A tick that takes some seconds. -/
def late (seconds : ℕ) : Tick := { Tick.quiet with elapsed := seconds * 1000000000 }

/-- A tick at which the broker refuses the command. -/
def brokerDown : Tick := { Tick.quiet with fault := .refused "not connected" }

/-- A content filter that objects to nothing. -/
def noViolations : ContentScan := fun _ _ _ => (false, [])

/-- Three runs over one device. Run one after the other, the first cannot publish, the second
begins once the breaker of the device is in trial, and the third begins `pause` seconds later. -/
def threeRuns (pause : ℕ) : Dispatchers :=
  dispatchers .default noViolations [greeting, greeting, greeting]
    (onePhone (List.replicate 23 .quiet ++ brokerDown :: List.replicate 2 .quiet ++
      late 121 :: List.replicate 19 .quiet ++ [late pause]))

/-- The schedule that runs them one after the other. -/
def inTurn : List ℕ := List.replicate 26 0 ++ List.replicate 20 1 ++ List.replicate 30 2

/-- The second run finds the card blocked. Once five minutes have passed the third run publishes
to the device. -/
theorem threeRuns_not_sticky :
    ¬ Sticky "device-1" ((threeRuns 300).run (server .default) inTurn).log := by
  have hpub : (((threeRuns 300).run (server .default) inTurn).log.map fun x =>
      (x.1, publishesTo "device-1" x.2))[68]? = some (2, true) := by
    decide +kernel
  have hafter : beginsAfterBlock "device-1" 2
      (((threeRuns 300).run (server .default) inTurn).log.take 68) = true := by
    decide +kernel
  generalize ((threeRuns 300).run (server .default) inTurn).log = log at hpub hafter ⊢
  intro h
  rw [List.getElem?_map, Option.map_eq_some_iff] at hpub
  obtain ⟨⟨i, ev⟩, hx, heq⟩ := hpub
  obtain ⟨rfl, hev⟩ := Prod.mk.inj heq
  exact absurd hafter (Bool.eq_false_iff.1 (h 68 _ hx hev))

/-- A third run that begins after ten seconds leaves the device alone. -/
theorem blocked_sticky_threeRuns :
    Sticky "device-1" ((threeRuns 10).run (server .default) inTurn).log := by
  have h : Pool.EachStep (server .default) (StillBlocked .default "device-1") (threeRuns 10)
      inTurn := by
    decide +kernel
  exact blocked_sticky .default noViolations _ _ inTurn h

end AeroxeBee.Dispatch
