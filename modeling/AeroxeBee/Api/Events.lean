import AeroxeBee.Tenants.Reads

/-!
# Live events

Each connection to the event stream has a channel, which is registered under a key with the account
of the connection. A broadcast offers its event to all channels that are registered, and does not
look at the account.

* `SSEHandler.confined_step_iff`: what a step may do to the events that the connections have got;
* `confined_iff`: when all connections get events of their own account only.
-/

namespace AeroxeBee.Api

/-! ## The handler -/

/-- What is broadcast to the connections. -/
inductive SSEEvent where
  | deviceStatus (deviceID status lastSeen : String)
  | messageStatus (messageID deviceID status deliveryStatus : String) (confidenceScore : ℚ)
  | scheduledReleased (messageID recipient scheduledFor releasedAt : String)
deriving DecidableEq

/-- A connection: the events that were put into its channel, with the tables at that time, and how
many of them were written to the client. -/
structure Connection where
  accountID : String
  connID : String
  received : List (SSEEvent × Database)
  written : ℕ
  closed : Bool

/-- The channel takes another event without waiting. -/
def Connection.HasRoom (c : Connection) : Prop := c.received.length - c.written < 64

instance (c : Connection) : Decidable c.HasRoom :=
  inferInstanceAs (Decidable (c.received.length - c.written < 64))

/-- The handler of the event stream: the channels under their keys, all connections there have
been, and the tables of the server. -/
structure SSEHandler where
  connections : String → Option ℕ
  streams : List Connection
  db : Database

namespace SSEHandler

variable (h : SSEHandler)

/-- The handler of a server that starts. -/
def start (db : Database) : SSEHandler := ⟨fun _ => none, [], db⟩

/-- Register a new connection of an account. -/
def subscribe (accountID : String) (now : ℤ) : SSEHandler :=
  let connID := accountID ++ "-" ++ toString now
  { h with
    connections := Function.update h.connections connID (some h.streams.length)
    streams := h.streams ++ [⟨accountID, connID, [], 0, false⟩] }

/-- The client of a connection goes away. -/
def disconnect (i : ℕ) : SSEHandler :=
  match h.streams[i]? with
  | none => h
  | some c =>
    { h with
      connections := if c.closed then h.connections else Function.update h.connections c.connID none
      streams := h.streams.mapIdx fun j d => if j = i then { d with closed := true } else d }

/-- Write the next event of a channel to the client. -/
def write (i : ℕ) : SSEHandler :=
  { h with
    streams := h.streams.mapIdx fun j c =>
      if j = i ∧ c.closed = false ∧ c.written < c.received.length then
        { c with written := c.written + 1 }
      else c }

/-- The channel of a connection is registered, and there is room in it. -/
def Takes (i : ℕ) (c : Connection) : Prop := h.connections c.connID = some i ∧ c.HasRoom

instance (i : ℕ) (c : Connection) : Decidable (h.Takes i c) :=
  inferInstanceAs (Decidable (_ ∧ _))

/-- Offer an event to all channels; slow consumers are skipped. -/
def broadcast (event : SSEEvent) : SSEHandler :=
  { h with
    streams := h.streams.mapIdx fun i c =>
      if h.Takes i c then { c with received := c.received ++ [(event, h.db)] } else c }

/-- Broadcast the status of a device. -/
def broadcastDeviceStatus (deviceID status now : String) : SSEHandler :=
  h.broadcast (.deviceStatus deviceID status now)

/-- Broadcast the status of a message. -/
def broadcastMessageStatus (msgID deviceID status deliveryStatus : String) (confidence : ℚ) :
    SSEHandler :=
  h.broadcast (.messageStatus msgID deviceID status deliveryStatus confidence)

/-- Broadcast that a scheduled message has been picked up for delivery. -/
def broadcastScheduledReleased (msgID recipient scheduledFor now : String) : SSEHandler :=
  h.broadcast (.scheduledReleased msgID recipient scheduledFor now)

end SSEHandler

/-- The steps of the handler, and of the tables beside it. -/
inductive SSEStep where
  | subscribe (accountID : String) (now : ℤ)
  | disconnect (i : ℕ)
  | write (i : ℕ)
  | deviceStatus (deviceID status now : String)
  | messageStatus (msgID deviceID status deliveryStatus : String) (confidence : ℚ)
  | scheduledReleased (msgID recipient scheduledFor now : String)
  | tables (db : Database)

/-- The handler after a step. -/
def SSEHandler.step (h : SSEHandler) : SSEStep → SSEHandler
  | .subscribe accountID now => h.subscribe accountID now
  | .disconnect i => h.disconnect i
  | .write i => h.write i
  | .deviceStatus deviceID status now => h.broadcastDeviceStatus deviceID status now
  | .messageStatus msgID deviceID status deliveryStatus confidence =>
    h.broadcastMessageStatus msgID deviceID status deliveryStatus confidence
  | .scheduledReleased msgID recipient scheduledFor now =>
    h.broadcastScheduledReleased msgID recipient scheduledFor now
  | .tables db => { h with db := db }

/-- The handler after some steps. -/
def SSEHandler.run (h : SSEHandler) (steps : List SSEStep) : SSEHandler := steps.foldl step h

/-- The event that a step broadcasts. -/
def SSEStep.event : SSEStep → Option SSEEvent
  | deviceStatus deviceID status now => some (.deviceStatus deviceID status now)
  | messageStatus msgID deviceID status deliveryStatus confidence =>
    some (.messageStatus msgID deviceID status deliveryStatus confidence)
  | scheduledReleased msgID recipient scheduledFor now =>
    some (.scheduledReleased msgID recipient scheduledFor now)
  | _ => none

/-! ## Events of an account -/

/-- The message or the device that an event is about belongs to an account. -/
def SSEEvent.Concerns (db : Database) (accountID : String) : SSEEvent → Prop
  | deviceStatus deviceID _ _ =>
    ∃ d ∈ db.devices, d.id = deviceID ∧ Tenants.owned db accountID .devices d = true
  | messageStatus msgID _ _ _ _ | scheduledReleased msgID _ _ _ =>
    ∃ m ∈ db.messages, m.id = msgID ∧ Tenants.owned db accountID .messages m = true

/-- **Events stay within the tenant**: each event that a connection has got is about a device or a
message of its account. -/
def SSEHandler.Confined (h : SSEHandler) : Prop :=
  ∀ (i : ℕ) (c : Connection), h.streams[i]? = some c → ∀ p ∈ c.received, p.1.Concerns p.2 c.accountID

/-- An event is broadcast only while each channel that takes it is one of its account. -/
def SSEHandler.Routed (h : SSEHandler) (s : SSEStep) : Prop :=
  ∀ event : SSEEvent, s.event = some event → ∀ (i : ℕ) (c : Connection), h.streams[i]? = some c → h.Takes i c →
    event.Concerns h.db c.accountID

namespace SSEHandler

variable {h : SSEHandler}

/-- What is changed in the connections without another event is of no matter. -/
theorem confined_mapIdx_iff {f : ℕ → Connection → Connection}
    (hf : ∀ i c, (f i c).accountID = c.accountID ∧ (f i c).received = c.received)
    {connections : String → Option ℕ} {db : Database} :
    Confined ⟨connections, h.streams.mapIdx f, db⟩ ↔ h.Confined := by
  refine forall_congr' fun i => ?_
  rw [List.getElem?_mapIdx]
  cases h.streams[i]? with
  | none => simp
  | some c =>
    obtain ⟨haccount, hreceived⟩ := hf i c
    simp [haccount, hreceived]

/-- **What a broadcast does** to the events that the connections have got. -/
theorem confined_broadcast_iff (event : SSEEvent) :
    (h.broadcast event).Confined ↔ h.Confined ∧
      ∀ (i : ℕ) (c : Connection), h.streams[i]? = some c → h.Takes i c → event.Concerns h.db c.accountID := by
  have hget (i : ℕ) : (h.broadcast event).streams[i]? = h.streams[i]?.map fun c =>
      if h.Takes i c then { c with received := c.received ++ [(event, h.db)] } else c :=
    List.getElem?_mapIdx
  constructor
  · intro hconfined
    constructor
    · intro i c hc p hp
      by_cases htakes : h.Takes i c
      · exact hconfined i { c with received := c.received ++ [(event, h.db)] }
          (by rw [hget, hc, Option.map_some, if_pos htakes]) p (List.mem_append_left _ hp)
      · exact hconfined i c (by rw [hget, hc, Option.map_some, if_neg htakes]) p hp
    · intro i c hc htakes
      exact hconfined i { c with received := c.received ++ [(event, h.db)] }
        (by rw [hget, hc, Option.map_some, if_pos htakes]) (event, h.db) (by simp)
  · rintro ⟨hconfined, hrouted⟩ i c hc p hp
    rw [hget] at hc
    obtain ⟨c₀, hc₀, rfl⟩ := Option.map_eq_some_iff.1 hc
    split_ifs at hp ⊢ with htakes
    · rcases List.mem_append.1 hp with hp | hp
      · exact hconfined i c₀ hc₀ p hp
      · obtain rfl := List.mem_singleton.1 hp
        exact hrouted i c₀ hc₀ htakes
    · exact hconfined i c₀ hc₀ p hp

/-- **What a step may do.** -/
theorem confined_step_iff (s : SSEStep) : (h.step s).Confined ↔ h.Confined ∧ h.Routed s := by
  have hbroadcast (event : SSEEvent) : (h.broadcast event).Confined ↔ h.Confined ∧
      ∀ event' : SSEEvent, some event = some event' → ∀ (i : ℕ) (c : Connection),
        h.streams[i]? = some c → h.Takes i c → event'.Concerns h.db c.accountID := by
    rw [confined_broadcast_iff]
    simp
  have hsilent : h.Confined ↔ h.Confined ∧ ∀ event : SSEEvent, none = some event →
      ∀ (i : ℕ) (c : Connection), h.streams[i]? = some c → h.Takes i c → event.Concerns h.db c.accountID := by
    simp
  cases s with
  | deviceStatus deviceID status now => exact hbroadcast _
  | messageStatus msgID deviceID status deliveryStatus confidence => exact hbroadcast _
  | scheduledReleased msgID recipient scheduledFor now => exact hbroadcast _
  | tables db => exact hsilent
  | write i =>
    refine Iff.trans (confined_mapIdx_iff fun j c => ?_) hsilent
    split_ifs <;> exact ⟨rfl, rfl⟩
  | disconnect i =>
    refine Iff.trans ?_ hsilent
    simp only [step, disconnect]
    cases h.streams[i]? with
    | none => rfl
    | some c =>
      refine confined_mapIdx_iff fun j d => ?_
      split_ifs <;> exact ⟨rfl, rfl⟩
  | subscribe accountID now =>
    refine Iff.trans ?_ hsilent
    constructor
    · intro hconfined i c hc
      exact hconfined i c (List.getElem?_append_left (List.getElem?_eq_some_iff.1 hc).1 ▸ hc)
    · intro hconfined i c hc p hp
      rcases List.mem_append.1 (List.mem_of_getElem? hc) with hmem | hmem
      · obtain ⟨j, hj⟩ := List.getElem?_of_mem hmem
        exact hconfined j c hj p hp
      · obtain rfl := List.mem_singleton.1 hmem
        cases hp

end SSEHandler

/-- **When events stay within the tenant**, in any sequence of steps. -/
theorem confined_iff (db : Database) (steps : List SSEStep) :
    ((SSEHandler.start db).run steps).Confined ↔
      ∀ earlier s later, steps = earlier ++ s :: later →
        ((SSEHandler.start db).run earlier).Routed s := by
  induction steps using List.reverseRecOn with
  | nil =>
    refine iff_of_true (fun i c hc => ?_) fun earlier s later hsteps => ?_
    · simp [SSEHandler.run, SSEHandler.start] at hc
    · simp at hsteps
  | append_singleton steps s ih =>
    have hrun : (SSEHandler.start db).run (steps ++ [s]) = ((SSEHandler.start db).run steps).step s := by
      simp only [SSEHandler.run, List.foldl_append, List.foldl_cons, List.foldl_nil]
    rw [hrun, SSEHandler.confined_step_iff, ih]
    constructor
    · rintro ⟨hsteps, hs⟩ earlier s' later hsplit
      rcases List.eq_nil_or_concat later with rfl | ⟨later, last, rfl⟩
      · obtain ⟨rfl, hlast⟩ := List.append_inj' hsplit rfl
        cases hlast
        exact hs
      · rw [List.concat_eq_append, ← List.cons_append, ← List.append_assoc] at hsplit
        exact hsteps earlier s' later (List.append_inj' hsplit rfl).1
    · intro hall
      refine ⟨fun earlier s' later hsplit => ?_, hall steps s [] rfl⟩
      exact hall earlier s' (later ++ [s]) (by rw [hsplit, List.append_assoc, List.cons_append])

/-- Another account listens while a message of the account `account-1` is released. -/
def overheard : List SSEStep :=
  [.subscribe "account-2" 5,
    .scheduledReleased "message-1" "+15550001" "2026-01-01T00:00:00Z" "2026-01-01T00:00:05Z", .write 0]

/-- The client of the other account is sent the number of the recipient. -/
theorem overheard_not_confined :
    (((SSEHandler.start Tenants.oneMessage).run overheard).streams.map fun c =>
      (c.accountID, (c.received.take c.written).map (·.1))) =
        [("account-2", [.scheduledReleased "message-1" "+15550001" "2026-01-01T00:00:00Z"
          "2026-01-01T00:00:05Z"])] ∧
    ¬ ((SSEHandler.start Tenants.oneMessage).run overheard).Confined := by
  refine ⟨by decide, fun hconfined => ?_⟩
  obtain ⟨m, hm, -, howned⟩ := hconfined 0 _ rfl _ List.mem_cons_self
  obtain rfl := List.mem_singleton.1 hm
  revert howned
  decide

end AeroxeBee.Api
