import AeroxeBee.Foundations.Protocol

/-!
# The connection to the broker

The manager of the connection makes a new client of the broker for every attempt to connect. It
remembers the topics that were subscribed to, and subscribes to them again when a connection is up.
Delays are left to the order in which the routines move; the parameters that are needed to connect are
taken together.

* `connect`, `subscribe`, `connectionLost`: the routines of the manager;
* `Resubscribing`: what they do to the topics, one after the other.
-/

namespace AeroxeBee.Android

open Foundations

/-! ## The manager -/

/-- A client of the broker: whether it is connected, and what it has subscribed to. -/
structure MqttAsyncClient where
  connected : Bool
  subscriptions : List String
deriving DecidableEq

/-- What is needed to connect. -/
structure ConnectParams where
  brokerUrl : String
  clientId : String
  username : Option String
  password : Option String
deriving DecidableEq

/-- What the network contributes to a command: connections that come up or are lost, and whether a
client can be made, begins to connect and is connected in time. -/
structure NetTick where
  changes : List (ℕ × Bool)
  created : Bool
  accepted : Bool
  completed : Bool

/-- A moment at which everything goes well. -/
def NetTick.quiet : NetTick := ⟨[], true, true, true⟩

/-- The manager, with all clients that it has made and what the network will contribute. -/
structure MqttManager where
  clients : List MqttAsyncClient
  client : Option ℕ
  isConnected : Bool
  subscribedTopics : List String
  lastParams : Option ConnectParams
  env : List NetTick

namespace MqttManager

/-- The manager of an application that starts. -/
def start (env : List NetTick) : MqttManager := ⟨[], none, false, [], none, env⟩

variable (m : MqttManager)

/-- Change a client. -/
def modify (c : ℕ) (f : MqttAsyncClient → MqttAsyncClient) : MqttManager :=
  { m with clients := m.clients.modify c f }

/-- A connection comes up or is lost. -/
def setConnection (c : ℕ) (connected : Bool) : MqttManager :=
  m.modify c fun client => { client with connected := connected }

/-- The current client is connected. -/
def clientConnected : Bool := m.client.any fun c => m.clients[c]?.any (·.connected)

/-- What the current client has subscribed to. -/
def subscriptions : List String :=
  (m.client.bind fun c => m.clients[c]?).elim [] (·.subscriptions)

/-- What the network contributes to the next command. -/
def next : NetTick := m.env.headD .quiet

/-- The manager when the next command begins. -/
def tick : MqttManager :=
  m.next.changes.foldl (fun m change => m.setConnection change.1 change.2)
    { m with env := m.env.tail }

end MqttManager

/-! ## Commands -/

/-- What the routines do to the manager and its client. -/
inductive MqttCmd : Type → Type
  | setParams (params : ConnectParams) : MqttCmd Unit
  | getParams : MqttCmd (Option ConnectParams)
  | clientConnected : MqttCmd Bool
  | closeClient : MqttCmd Unit
  | createClient : MqttCmd Bool
  | connectClient : MqttCmd (Option ℕ)
  | waitForCompletion (c : ℕ) : MqttCmd Bool
  | subscribeClient (topic : String) : MqttCmd Bool
  | setConnected (connected : Bool) : MqttCmd Unit
  | getConnected : MqttCmd Bool
  | addTopic (topic : String) : MqttCmd Unit
  | clearTopics : MqttCmd Unit
  | topicsEmpty : MqttCmd Bool
  | getTopics : MqttCmd (List String)

/-- A routine of the manager. -/
abbrev MqttProg (α : Type) := Prog MqttCmd α

/-- What a command does. A client that is not connected cannot subscribe. -/
def MqttManager.serve (t : NetTick) (m : MqttManager) : {β : Type} → MqttCmd β → β × MqttManager
  | _, .setParams params => ((), { m with lastParams := some params })
  | _, .getParams => (m.lastParams, m)
  | _, .clientConnected => (m.clientConnected, m)
  | _, .closeClient => ((), m.client.elim m fun c => m.setConnection c false)
  | _, .createClient =>
    if t.created then
      (true, { m with clients := m.clients ++ [⟨false, []⟩], client := some m.clients.length })
    else (false, m)
  | _, .connectClient => (if t.accepted then m.client else none, m)
  | _, .waitForCompletion c => if t.completed then (true, m.setConnection c true) else (false, m)
  | _, .subscribeClient topic =>
    if m.clientConnected then
      (true, m.client.elim m fun c => m.modify c fun client =>
        { client with subscriptions := client.subscriptions ++ [topic] })
    else (false, m)
  | _, .setConnected connected => ((), { m with isConnected := connected })
  | _, .getConnected => (m.isConnected, m)
  | _, .addTopic topic =>
    ((), { m with
      subscribedTopics :=
        if topic ∈ m.subscribedTopics then m.subscribedTopics else m.subscribedTopics ++ [topic] })
  | _, .clearTopics => ((), { m with subscribedTopics := [] })
  | _, .topicsEmpty => (m.subscribedTopics.isEmpty, m)
  | _, .getTopics => (m.subscribedTopics, m)

/-- The meaning of the commands. -/
def mqtt : Sem MqttCmd MqttManager where
  step e m := m.tick.serve m.next e

/-! ## The routines -/

namespace MqttManager

/-- Close the connection and forget the topics. -/
def disconnect : MqttProg Unit := do
  let _ ← Prog.call .closeClient
  let _ ← Prog.call (.setConnected false)
  Prog.call .clearTopics

/-- Subscribe to some topics. -/
def subscribeEach : List String → MqttProg Unit
  | [] => .ret ()
  | topic :: topics => do
    let _ ← Prog.call (.subscribeClient topic)
    subscribeEach topics

/-- Subscribe to the remembered topics, if there are any. -/
def resubscribeAll : MqttProg Unit := do
  match ← Prog.call .topicsEmpty with
  | true => return ()
  | false =>
    let topics ← Prog.call .getTopics
    subscribeEach topics

/-- Connect with a new client; what is done after a failure is given. -/
def attempt (scheduleReconnect : MqttProg Unit) : MqttProg Unit := do
  match ← Prog.call .createClient with
  | false => scheduleReconnect
  | true =>
    match ← Prog.call .connectClient with
    | none => scheduleReconnect
    | some connectToken =>
      match ← Prog.call (.waitForCompletion connectToken) with
      | false => scheduleReconnect
      | true =>
        let _ ← Prog.call (.setConnected true)
        resubscribeAll

/-- Connect; what is done after a failure is given. -/
def connectWith (scheduleReconnect : MqttProg Unit) (params : ConnectParams) : MqttProg Unit := do
  let _ ← Prog.call (.setParams params)
  match ← Prog.call .clientConnected with
  | false => attempt scheduleReconnect
  | true =>
    let _ ← disconnect
    attempt scheduleReconnect

/-- Connect again unless there is a connection, for some number of times. -/
def scheduleReconnect : ℕ → MqttProg Unit
  | 0 => .ret ()
  | fuel + 1 => do
    match ← Prog.call .getConnected with
    | true => return ()
    | false =>
      match ← Prog.call .getParams with
      | none => return ()
      | some params => connectWith (scheduleReconnect fuel) params

/-- Connect. -/
def connect (fuel : ℕ) (params : ConnectParams) : MqttProg Unit :=
  connectWith (scheduleReconnect fuel) params

/-- Subscribe to a topic and remember it. -/
def subscribe (topic : String) : MqttProg Unit := do
  let _ ← Prog.call (.addTopic topic)
  let _ ← Prog.call (.subscribeClient topic)
  return ()

/-- The callback for a lost connection. -/
def connectionLost (fuel : ℕ) : MqttProg Unit := do
  let _ ← Prog.call (.setConnected false)
  scheduleReconnect fuel

end MqttManager

/-- A routine of the manager, with the number of times that it connects again at most. -/
inductive MqttRoutine where
  | connect (fuel : ℕ) (params : ConnectParams)
  | subscribe (topic : String)
  | connectionLost (fuel : ℕ)

/-- What the routine does. -/
def MqttRoutine.prog : MqttRoutine → MqttProg Unit
  | connect fuel params => MqttManager.connect fuel params
  | subscribe topic => MqttManager.subscribe topic
  | connectionLost fuel => MqttManager.connectionLost fuel

/-! ## Clients -/

namespace MqttManager

variable {m : MqttManager}

theorem subscriptions_setConnection (c : ℕ) (connected : Bool) :
    (m.setConnection c connected).subscriptions = m.subscriptions := by
  unfold subscriptions setConnection modify
  cases m.client with
  | none => rfl
  | some d =>
    simp only [Option.bind_some, List.getElem?_modify]
    cases m.clients[d]? with
    | none => rfl
    | some client =>
      by_cases h : c = d <;> simp [h]

/-- What the network does leaves everything but the connections. -/
theorem tick_spec (m : MqttManager) :
    m.tick.subscriptions = m.subscriptions ∧ m.tick.subscribedTopics = m.subscribedTopics := by
  have hchanges (changes : List (ℕ × Bool)) (m : MqttManager) :
      let m' := changes.foldl (fun m change => m.setConnection change.1 change.2) m
      m'.subscriptions = m.subscriptions ∧ m'.subscribedTopics = m.subscribedTopics := by
    induction changes generalizing m with
    | nil => exact ⟨rfl, rfl⟩
    | cons change changes ih =>
      have hrest := ih (m.setConnection change.1 change.2)
      rw [subscriptions_setConnection] at hrest
      exact hrest
  exact hchanges m.next.changes { m with env := m.env.tail }

/-- A client that is connected subscribes. -/
theorem subscriptions_subscribeClient (t : NetTick) (topic : String)
    (h : m.clientConnected = true) :
    (m.serve t (.subscribeClient topic)).2.subscriptions = m.subscriptions ++ [topic] := by
  rw [clientConnected, Option.any_eq_true] at h
  obtain ⟨c, hc, hclient⟩ := h
  rw [Option.any_eq_true] at hclient
  obtain ⟨client, hget, hconnected⟩ := hclient
  have hserve : (m.serve t (.subscribeClient topic)).2 = m.modify c fun client =>
      { client with subscriptions := client.subscriptions ++ [topic] } := by
    have hyes : m.clientConnected = true := by simp [clientConnected, hc, hget, hconnected]
    simp [serve, hyes, hc]
  rw [hserve]
  simp [subscriptions, modify, hc, hget]

/-- Whatever a client does, it stays subscribed to its topics. -/
theorem subset_subscribeClient (t : NetTick) (topic : String) :
    m.subscriptions ⊆ (m.serve t (.subscribeClient topic)).2.subscriptions := by
  by_cases h : m.clientConnected = true
  · rw [subscriptions_subscribeClient t topic h]
    exact List.subset_append_left _ _
  · have hserve : (m.serve t (.subscribeClient topic)).2 = m := by simp [serve, h]
    rw [hserve]
    exact List.Subset.refl _

end MqttManager

/-! ## Loops over the topics -/

/-- The topics that are left in the loop of a routine, if it has begun. -/
def loopNext (s : Option (List String)) : Event MqttCmd → Option (List String)
  | ⟨.topicsEmpty, empty⟩ => if empty then some [] else s
  | ⟨.getTopics, topics⟩ => some topics
  | ⟨.subscribeClient _, _⟩ => s.map List.tail
  | _ => s

/-- A routine subscribes to one topic of its loop after the other, and does nothing else to the topics
meanwhile. -/
def Loops (s : Option (List String)) : {β : Type} → MqttCmd β → Prop
  | _, .subscribeClient topic => s = none ∨ ∃ rest, s = some (topic :: rest)
  | _, .addTopic _ | _, .clearTopics | _, .createClient | _, .topicsEmpty | _, .getTopics => s = none
  | _, _ => True

/-- The loop of a routine over the topics. -/
def resubscribing : Protocol MqttCmd (Option (List String)) where
  allows := Loops
  expects _ := True
  next := loopNext

section Keeps

open MqttManager

theorem subscribeEach_loops (topics : List String) :
    (subscribeEach topics).Keeps resubscribing (fun _ _ => True) (some topics) := by
  induction topics with
  | nil => trivial
  | cons topic topics ih => exact ⟨.inr ⟨topics, rfl⟩, fun _ _ => ih⟩

theorem resubscribeAll_loops :
    resubscribeAll.Keeps resubscribing (fun _ _ => True) none := by
  refine ⟨rfl, fun empty _ => ?_⟩
  cases empty with
  | true => trivial
  | false => exact ⟨rfl, fun topics _ => subscribeEach_loops topics⟩

theorem attempt_loops {p : MqttProg Unit} (hp : p.Keeps resubscribing (fun _ _ => True) none) :
    (attempt p).Keeps resubscribing (fun _ _ => True) none := by
  refine ⟨rfl, fun created _ => ?_⟩
  cases created with
  | false => exact hp
  | true =>
    refine ⟨trivial, fun token? _ => ?_⟩
    cases token? with
    | none => exact hp
    | some connectToken =>
      refine ⟨trivial, fun completed _ => ?_⟩
      cases completed with
      | false => exact hp
      | true => exact ⟨trivial, fun _ _ => resubscribeAll_loops⟩

theorem connectWith_loops {p : MqttProg Unit} (hp : p.Keeps resubscribing (fun _ _ => True) none)
    (params : ConnectParams) :
    (connectWith p params).Keeps resubscribing (fun _ _ => True) none := by
  refine ⟨trivial, fun _ _ => ⟨trivial, fun connected _ => ?_⟩⟩
  cases connected with
  | false => exact attempt_loops hp
  | true =>
    exact ⟨trivial, fun _ _ => ⟨trivial, fun _ _ => ⟨rfl, fun _ _ => attempt_loops hp⟩⟩⟩

theorem scheduleReconnect_loops (fuel : ℕ) :
    (scheduleReconnect fuel).Keeps resubscribing (fun _ _ => True) none := by
  induction fuel with
  | zero => trivial
  | succ fuel ih =>
    refine ⟨trivial, fun connected _ => ?_⟩
    cases connected with
    | true => trivial
    | false =>
      refine ⟨trivial, fun params? _ => ?_⟩
      cases params? with
      | none => trivial
      | some params => exact connectWith_loops ih params

/-- Every routine keeps to its loop over the topics. -/
theorem mqttRoutine_loops (r : MqttRoutine) :
    r.prog.Keeps resubscribing (fun _ _ => True) none := by
  cases r with
  | connect fuel params => exact connectWith_loops (scheduleReconnect_loops fuel) params
  | subscribe topic => exact ⟨rfl, fun _ _ => ⟨.inl rfl, fun _ _ => trivial⟩⟩
  | connectionLost fuel => exact ⟨trivial, fun _ _ => scheduleReconnect_loops fuel⟩

theorem mqttRoutines_loops :
    Pool.Phased MqttRoutine.prog (fun _ => resubscribing) (fun _ _ _ => True) loopNext none where
  next_eq _ := rfl
  expects _ _ := trivial
  keeps := mqttRoutine_loops

end Keeps

end AeroxeBee.Android
