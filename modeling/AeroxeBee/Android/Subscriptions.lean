import AeroxeBee.Android.Connection

/-!
# Subscriptions after a reconnect

When a connection is up, the manager subscribes to the topics that it remembers. A connect that finds
the current client connected closes it first and forgets the topics. So it goes when a connection
completes late, or when two reconnects overlap: the new client subscribes to nothing.

* `Remembering`: what the manager remembers, and what the loops over the topics have left to do;
* `Remembering.advance`: what a step preserves;
* `run_resubscribed`: the topics are subscribed to again in all runs in which none is forgotten.
-/

namespace AeroxeBee.Android

open Foundations Pool

/-! ## What is passed to subscribe -/

/-- The topics that were passed to `subscribe`. -/
def passed (log : List (ℕ × Event MqttCmd)) : List String :=
  log.filterMap fun x =>
    match x.2 with
    | ⟨.addTopic topic, _⟩ => some topic
    | _ => none

/-- Take account of an event for the topics that were passed since they were forgotten. -/
def noteTopic (topics : List String) : Event MqttCmd → List String
  | ⟨.addTopic topic, _⟩ => topics ++ [topic]
  | ⟨.clearTopics, _⟩ => []
  | _ => topics

/-- The topics that were passed to `subscribe` since they were forgotten for the last time. -/
def passedSince (log : List (ℕ × Event MqttCmd)) : List String :=
  log.foldl (fun topics x => noteTopic topics x.2) []

/-- The loop of a routine over the topics. -/
def loopOf (P : Pool MqttCmd MqttManager Unit) : ℕ → Option (List String) := P.phase loopNext none

/-- **A resubscription is complete**: where a step ends the loop of a routine, or finds that there is
nothing to subscribe to, all topics that were passed to `subscribe` since the start are those of the
current client. -/
def Resubscribed (P P' : Pool MqttCmd MqttManager Unit) : Prop :=
  ∀ j, loopOf P' j = some [] → loopOf P j ≠ some [] →
    ∀ topic ∈ passed P'.log, topic ∈ P'.state.subscriptions

/-- No other routine is in its loop over the topics. -/
def NoOtherLoop (n : ℕ) (P : Pool MqttCmd MqttManager Unit) (i : ℕ) : Prop :=
  ∀ j < n, j ≠ i → (loopOf P j).getD [] = []

instance (n : ℕ) (P : Pool MqttCmd MqttManager Unit) (i : ℕ) : Decidable (NoOtherLoop n P i) :=
  inferInstanceAs (Decidable (∀ j < n, j ≠ i → (loopOf P j).getD [] = []))

/-- No topic is forgotten: where the topics are subscribed to again, all of them were passed since they
were forgotten for the last time, and the client is connected; meanwhile no topic is added, the topics
are not forgotten, and no client is made. -/
def Unforgotten (n : ℕ) (P : Pool MqttCmd MqttManager Unit) (i : ℕ) : {β : Type} → MqttCmd β → Prop
  | _, .topicsEmpty => P.state.subscribedTopics = [] → passed P.log = []
  | _, .getTopics => ∀ topic ∈ passed P.log, topic ∈ passedSince P.log
  | _, .subscribeClient _ => (loopOf P i).isSome → P.state.tick.clientConnected = true
  | _, .addTopic _ | _, .clearTopics | _, .createClient => NoOtherLoop n P i
  | _, _ => True

instance (n : ℕ) (P : Pool MqttCmd MqttManager Unit) (i : ℕ) {β : Type} (e : MqttCmd β) :
    Decidable (Unforgotten n P i e) := by
  cases e
  case topicsEmpty => exact inferInstanceAs (Decidable (_ = _ → _ = _))
  case getTopics => exact inferInstanceAs (Decidable (∀ topic ∈ passed P.log, _))
  case subscribeClient topic => exact inferInstanceAs (Decidable (_ → _ = _))
  case addTopic topic => exact inferInstanceAs (Decidable (NoOtherLoop n P i))
  case clearTopics => exact inferInstanceAs (Decidable (NoOtherLoop n P i))
  case createClient => exact inferInstanceAs (Decidable (NoOtherLoop n P i))
  all_goals exact isTrue trivial

/-! ## Steps -/

section Steps

variable {n : ℕ} {calls : List MqttRoutine} {m : MqttManager} {sched : List ℕ}
  {P : Pool MqttCmd MqttManager Unit} {i : ℕ} {β : Type} {e : MqttCmd β} {k : β → MqttProg Unit}

/-- **What the manager remembers**: the topics that were passed since they were forgotten; and what a
loop has not left to do is done. -/
structure Remembering (n : ℕ) (P : Pool MqttCmd MqttManager Unit) : Prop where
  topics : ∀ topic ∈ passedSince P.log, topic ∈ P.state.subscribedTopics
  loops : ∀ j < n, ∀ rest, loopOf P j = some rest → rest ≠ [] →
    ∀ topic ∈ passed P.log, topic ∈ rest ∨ topic ∈ P.state.subscriptions

theorem remembering_start (n : ℕ) (ps : List (MqttProg Unit)) (m : MqttManager) :
    Remembering n (start ps m) where
  topics _ htopic := by cases htopic
  loops _ _ _ hloop := by cases hloop

theorem loopOf_advance : loopOf (P.advance mqtt i e k) = Function.update (loopOf P) i
    (loopNext (loopOf P i) ⟨e, (mqtt.step e P.state).1⟩) := phase_advance

theorem passed_advance : passed (P.advance mqtt i e k).log = passed P.log ++
    passed [(i, ⟨e, (mqtt.step e P.state).1⟩)] := by
  simp [passed, Pool.advance]

theorem passedSince_advance : passedSince (P.advance mqtt i e k).log =
    noteTopic (passedSince P.log) ⟨e, (mqtt.step e P.state).1⟩ := by
  simp [passedSince, Pool.advance]

/-- A command that neither begins nor ends a loop, and leaves the topics and the subscriptions. -/
theorem Remembering.advance_idle (h : Remembering n P)
    (hloop : loopNext (loopOf P i) ⟨e, (mqtt.step e P.state).1⟩ = loopOf P i)
    (hpassed : passed [(i, ⟨e, (mqtt.step e P.state).1⟩)] = [])
    (hnote : noteTopic (passedSince P.log) ⟨e, (mqtt.step e P.state).1⟩ = passedSince P.log)
    (htopics : (mqtt.step e P.state).2.subscribedTopics = P.state.subscribedTopics)
    (hsubs : P.state.subscriptions ⊆ (mqtt.step e P.state).2.subscriptions) :
    Remembering n (P.advance mqtt i e k) ∧ Resubscribed P (P.advance mqtt i e k) := by
  have hloops : loopOf (P.advance mqtt i e k) = loopOf P := by
    rw [loopOf_advance, hloop, Function.update_eq_self]
  refine ⟨⟨fun topic htopic => ?_, fun j hj rest hrest hne topic htopic => ?_⟩,
    fun j hdone hnot => ?_⟩
  · rw [passedSince_advance, hnote] at htopic
    change topic ∈ (mqtt.step e P.state).2.subscribedTopics
    rw [htopics]
    exact h.topics topic htopic
  · rw [hloops] at hrest
    rw [passed_advance, hpassed, List.append_nil] at htopic
    rcases h.loops j hj rest hrest hne topic htopic with hleft | hsub
    · exact .inl hleft
    · exact .inr (hsubs hsub)
  · rw [hloops] at hdone
    exact absurd hdone hnot

/-- A command by which a loop goes on, and after which the topics that are not left in it are those of
the client. -/
theorem Remembering.advance_loop (h : Remembering n P) {rest : List String}
    (hloop : loopNext (loopOf P i) ⟨e, (mqtt.step e P.state).1⟩ = some rest)
    (hpassed : passed [(i, ⟨e, (mqtt.step e P.state).1⟩)] = [])
    (hnote : noteTopic (passedSince P.log) ⟨e, (mqtt.step e P.state).1⟩ = passedSince P.log)
    (htopics : (mqtt.step e P.state).2.subscribedTopics = P.state.subscribedTopics)
    (hsubs : P.state.subscriptions ⊆ (mqtt.step e P.state).2.subscriptions)
    (hleft : ∀ topic ∈ passed P.log,
      topic ∈ rest ∨ topic ∈ (mqtt.step e P.state).2.subscriptions) :
    Remembering n (P.advance mqtt i e k) ∧ Resubscribed P (P.advance mqtt i e k) := by
  refine ⟨⟨fun topic htopic => ?_, fun j hj rest' hrest hne topic htopic => ?_⟩,
    fun j hdone hnot topic htopic => ?_⟩
  · rw [passedSince_advance, hnote] at htopic
    change topic ∈ (mqtt.step e P.state).2.subscribedTopics
    rw [htopics]
    exact h.topics topic htopic
  · rw [passed_advance, hpassed, List.append_nil] at htopic
    rw [loopOf_advance, hloop] at hrest
    by_cases hji : j = i
    · rw [hji, Function.update_self] at hrest
      obtain rfl : rest = rest' := Option.some.inj hrest
      exact hleft topic htopic
    · rw [Function.update_of_ne hji] at hrest
      rcases h.loops j hj rest' hrest hne topic htopic with hrest | hsub
      · exact .inl hrest
      · exact .inr (hsubs hsub)
  · rw [passed_advance, hpassed, List.append_nil] at htopic
    rw [loopOf_advance, hloop] at hdone
    by_cases hji : j = i
    · rw [hji, Function.update_self] at hdone
      obtain rfl : rest = [] := Option.some.inj hdone
      exact (hleft topic htopic).resolve_left List.not_mem_nil
    · rw [Function.update_of_ne hji] at hdone
      exact absurd hdone hnot

/-- A command outside the loops over the topics. -/
theorem remembering_outside (hown : loopOf P i = none)
    (hothers : NoOtherLoop n P i)
    (hloop : loopNext (loopOf P i) ⟨e, (mqtt.step e P.state).1⟩ = loopOf P i)
    (htopics : ∀ topic ∈ noteTopic (passedSince P.log) ⟨e, (mqtt.step e P.state).1⟩,
      topic ∈ (mqtt.step e P.state).2.subscribedTopics) :
    Remembering n (P.advance mqtt i e k) ∧ Resubscribed P (P.advance mqtt i e k) := by
  have hloops : loopOf (P.advance mqtt i e k) = loopOf P := by
    rw [loopOf_advance, hloop, Function.update_eq_self]
  refine ⟨⟨fun topic htopic => ?_, fun j hj rest hrest hne => ?_⟩, fun j hdone hnot => ?_⟩
  · rw [passedSince_advance] at htopic
    exact htopics topic htopic
  · rw [hloops] at hrest
    by_cases hji : j = i
    · rw [hji, hown] at hrest
      cases hrest
    · have hnone := hothers j hj hji
      rw [hrest] at hnone
      exact absurd hnone hne
  · rw [hloops] at hdone
    exact absurd hdone hnot

/-- **A step keeps what the manager remembers**, and ends a loop over the topics only when all of them
are subscribed to. -/
theorem Remembering.advance (h : Remembering n P) (hi : i < n) (hallows : Loops (loopOf P i) e)
    (hunforgotten : Unforgotten n P i e) :
    Remembering n (P.advance mqtt i e k) ∧ Resubscribed P (P.advance mqtt i e k) := by
  obtain ⟨hsubs, htopics⟩ := P.state.tick_spec
  have hsame : P.state.subscriptions ⊆ P.state.tick.subscriptions := by
    rw [hsubs]
    exact List.Subset.refl _
  cases e
  case addTopic topic =>
    refine remembering_outside hallows hunforgotten rfl fun topic' htopic' => ?_
    have hadded : (mqtt.step (.addTopic topic) P.state).2.subscribedTopics =
        if topic ∈ P.state.subscribedTopics then P.state.subscribedTopics
        else P.state.subscribedTopics ++ [topic] := by
      rw [← htopics]
      rfl
    rw [hadded]
    rcases List.mem_append.1 htopic' with hold | hnew
    · have hmem := h.topics topic' hold
      split_ifs
      · exact hmem
      · exact List.mem_append_left _ hmem
    · obtain rfl := List.mem_singleton.1 hnew
      split_ifs with hmem
      · exact hmem
      · exact List.mem_append_right _ (List.mem_singleton_self _)
  case clearTopics =>
    exact remembering_outside hallows hunforgotten rfl fun topic htopic => absurd htopic List.not_mem_nil
  case createClient =>
    refine remembering_outside hallows hunforgotten rfl fun topic htopic => ?_
    have hkept : (mqtt.step .createClient P.state).2.subscribedTopics = P.state.subscribedTopics := by
      rw [← htopics]
      change (P.state.tick.serve P.state.next .createClient).2.subscribedTopics = _
      simp only [MqttManager.serve]
      split_ifs <;> rfl
    rw [hkept]
    exact h.topics topic htopic
  case topicsEmpty =>
    cases hempty : P.state.tick.subscribedTopics.isEmpty with
    | true =>
      have hnothing : P.state.subscribedTopics = [] := by
        rw [← htopics]
        exact List.isEmpty_iff.1 hempty
      have hloop : loopNext (loopOf P i) ⟨.topicsEmpty, (mqtt.step .topicsEmpty P.state).1⟩ =
          some [] := if_pos hempty
      refine h.advance_loop hloop rfl rfl htopics hsame fun topic htopic => ?_
      rw [hunforgotten hnothing] at htopic
      exact absurd htopic List.not_mem_nil
    | false =>
      have hloop : loopNext (loopOf P i) ⟨.topicsEmpty, (mqtt.step .topicsEmpty P.state).1⟩ =
          loopOf P i := by
        refine if_neg fun htrue => ?_
        rw [show (mqtt.step .topicsEmpty P.state).1 = _ from hempty] at htrue
        cases htrue
      exact h.advance_idle hloop rfl rfl htopics hsame
  case getTopics =>
    refine h.advance_loop rfl rfl rfl htopics hsame fun topic htopic => .inl ?_
    change topic ∈ P.state.tick.subscribedTopics
    rw [htopics]
    exact h.topics topic (hunforgotten topic htopic)
  case subscribeClient topic =>
    have hgrows : P.state.subscriptions ⊆
        (mqtt.step (.subscribeClient topic) P.state).2.subscriptions :=
      List.Subset.trans hsame (MqttManager.subset_subscribeClient P.state.next topic)
    have hkept : (mqtt.step (.subscribeClient topic) P.state).2.subscribedTopics =
        P.state.subscribedTopics := by
      rw [← htopics]
      change (P.state.tick.serve P.state.next (.subscribeClient topic)).2.subscribedTopics = _
      simp only [MqttManager.serve]
      split_ifs
      · cases P.state.tick.client <;> rfl
      · rfl
    rcases hallows with hnone | ⟨rest, hrest⟩
    · refine h.advance_idle ?_ rfl rfl hkept hgrows
      rw [hnone]
      rfl
    · refine h.advance_loop (by rw [hrest]; rfl) rfl rfl hkept hgrows fun topic' htopic' => ?_
      rcases h.loops i hi _ hrest (List.cons_ne_nil _ _) topic' htopic' with hleft | hsub
      · rcases List.mem_cons.1 hleft with rfl | hleft
        · right
          have hconnected := hunforgotten (by rw [hrest]; rfl)
          have hadded := MqttManager.subscriptions_subscribeClient P.state.next topic' hconnected
          change topic' ∈ (P.state.tick.serve P.state.next (.subscribeClient topic')).2.subscriptions
          rw [hadded]
          exact List.mem_append_right _ (List.mem_singleton_self _)
        · exact .inl hleft
      · exact .inr (hgrows hsub)
  case closeClient =>
    have hkept : (mqtt.step .closeClient P.state).2.subscriptions = P.state.tick.subscriptions ∧
        (mqtt.step .closeClient P.state).2.subscribedTopics = P.state.tick.subscribedTopics := by
      change (P.state.tick.client.elim P.state.tick fun c =>
          P.state.tick.setConnection c false).subscriptions = _ ∧
        (P.state.tick.client.elim P.state.tick fun c =>
          P.state.tick.setConnection c false).subscribedTopics = _
      cases P.state.tick.client with
      | none => exact ⟨rfl, rfl⟩
      | some c => exact ⟨MqttManager.subscriptions_setConnection c false, rfl⟩
    refine h.advance_idle rfl rfl rfl (hkept.2.trans htopics) ?_
    rw [hkept.1]
    exact hsame
  case waitForCompletion c =>
    have hkept : (mqtt.step (.waitForCompletion c) P.state).2.subscriptions =
          P.state.tick.subscriptions ∧
        (mqtt.step (.waitForCompletion c) P.state).2.subscribedTopics =
          P.state.tick.subscribedTopics := by
      change (P.state.tick.serve P.state.next (.waitForCompletion c)).2.subscriptions = _ ∧
        (P.state.tick.serve P.state.next (.waitForCompletion c)).2.subscribedTopics = _
      simp only [MqttManager.serve]
      split_ifs
      · exact ⟨MqttManager.subscriptions_setConnection c true, rfl⟩
      · exact ⟨rfl, rfl⟩
    refine h.advance_idle rfl rfl rfl (hkept.2.trans htopics) ?_
    rw [hkept.1]
    exact hsame
  all_goals exact h.advance_idle rfl rfl rfl htopics hsame

/-- **The topics are subscribed to again after each successful connect**, in runs in which none is
forgotten. -/
theorem run_resubscribed
    (hunforgotten : EachStep mqtt (Meets (Unforgotten calls.length))
      (start (calls.map MqttRoutine.prog) m) sched) :
    EachStep mqtt (fun P i => Resubscribed P (P.step mqtt i))
      (start (calls.map MqttRoutine.prog) m) sched := by
  refine eachStep_phases (M := mqtt) mqttRoutines_loops (I := Remembering calls.length)
    (fun P j hdone hnot => absurd hdone hnot) (remembering_start _ _ m) hunforgotten
    fun P i r β e k hr hi hallows hP hG => ?_
  have hlt : i < calls.length := (List.getElem?_eq_some_iff.1 hr).1
  exact hP.advance hlt hallows (meets_of_act hG hi)

end Steps

/-! ## A connection that completes late -/

/-- What the application connects with. -/
def brokerParams : ConnectParams := ⟨"tcp://broker", "aeroxebee_android_device-1", none, none⟩

/-- The application connects and subscribes, and the connection is lost later. -/
def lostOnce : List MqttRoutine :=
  [.connect 1 brokerParams, .subscribe "devices/device-1/commands", .connectionLost 1]

/-- The network: the connection is lost before the callback runs. -/
def lossy : List NetTick :=
  List.replicate 9 NetTick.quiet ++ [{ NetTick.quiet with changes := [(0, false)] }]

/-- The routines run one after the other. -/
def oneAfterTheOther : List ℕ := List.replicate 7 0 ++ List.replicate 2 1 ++ List.replicate 12 2

/-- After a lost connection the topics are subscribed to again. -/
theorem run_resubscribed_lostOnce :
    EachStep mqtt (fun P i => Resubscribed P (P.step mqtt i))
      (start (lostOnce.map MqttRoutine.prog) (.start lossy)) oneAfterTheOther :=
  run_resubscribed (by decide)

/-- The application connects and subscribes to the topic of its commands. -/
def connecting : List MqttRoutine :=
  [.connect 1 brokerParams, .subscribe "devices/device-1/commands"]

/-- The network: the first attempt is not connected in time, but is before the second one begins. -/
def late : List NetTick :=
  List.replicate 4 NetTick.quiet ++ [{ NetTick.quiet with completed := false }] ++
    List.replicate 5 NetTick.quiet ++ [{ NetTick.quiet with changes := [(0, true)] }]

/-- The application before it finds that there is no topic to subscribe to again. -/
def connected : Pool MqttCmd MqttManager Unit :=
  (start (connecting.map MqttRoutine.prog) (.start late)).run mqtt
    (List.replicate 5 0 ++ List.replicate 2 1 ++ List.replicate 11 0)

/-- After a connection that completes late the topics are forgotten. -/
theorem topic_forgotten :
    ¬ EachStep mqtt (fun P i => Resubscribed P (P.step mqtt i))
      (start (connecting.map MqttRoutine.prog) (.start late))
      (List.replicate 5 0 ++ List.replicate 2 1 ++ List.replicate 11 0 ++ [0]) := by
  intro heach
  have hlast : Resubscribed connected (connected.step mqtt 0) := heach.last
  have hdone : loopOf (connected.step mqtt 0) 0 = some [] := by decide
  have hbefore : loopOf connected 0 ≠ some [] := by decide
  have hpassed : "devices/device-1/commands" ∈ passed (connected.step mqtt 0).log := by
    decide
  have hsub := hlast 0 hdone hbefore "devices/device-1/commands" hpassed
  have hnone : (connected.step mqtt 0).state.subscriptions = [] := by decide
  rw [hnone] at hsub
  exact absurd hsub List.not_mem_nil

end AeroxeBee.Android
