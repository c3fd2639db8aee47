import AeroxeBee.Foundations.Topics
import Mathlib.Data.List.Induction

/-!
# The subscriptions of the MQTT client

The client keeps the handlers in a table under the filters they were registered for. The library
calls back for every subscription whose filter matches the topic of a message, and the callback
looks up the handler under the topic.

* `registered_run`: what the table holds after any calls;
* `reached_iff`: when a message reaches the handler of a filter that matches it;
* `deviceReport_dropped`: so no report of a device reaches a handler of the server.
-/

namespace AeroxeBee.Mqtt

open Foundations

variable {H : Type*}

/-! ## The client -/

/-- The client: the handlers by the filter they were registered for, and the filters for which the
library calls back. -/
structure Client (H : Type*) where
  handlers : String → Option H
  callbacks : List String

/-- A handler that is called, with a topic and a payload. -/
structure HandlerCall (H : Type*) where
  handler : H
  topic : String
  payload : List UInt8
deriving DecidableEq

/-- What the server asks of the client. The token of a call reports whether it failed. -/
inductive ClientOp (H : Type*) where
  | subscribe (topic : String) (handler : H) (failure : Option String)
  | unsubscribe (topic : String) (failure : Option String)

namespace Client

/-- A client without subscriptions. -/
def new : Client H := ⟨fun _ => none, []⟩

/-- Register a handler and subscribe to its filter. -/
def subscribe (c : Client H) (topic : String) (handler : H) (failure : Option String) :
    Option String × Client H :=
  (failure,
    { handlers := Function.update c.handlers topic (some handler)
      callbacks := if failure.isSome then c.callbacks else c.callbacks.insert topic })

/-- Forget the handler of a filter and its subscription. -/
def unsubscribe (c : Client H) (topic : String) (failure : Option String) :
    Option String × Client H :=
  (failure,
    { handlers := Function.update c.handlers topic none
      callbacks := if failure.isSome then c.callbacks else c.callbacks.filter (· ≠ topic) })

/-- The callback of every subscription: call the handler of the topic, if there is one. -/
def callback (c : Client H) (topic : String) (payload : List UInt8) : Option (HandlerCall H) :=
  (c.handlers topic).map (⟨·, topic, payload⟩)

/-- The handlers that are called when a message arrives. -/
def arrive (c : Client H) (topic : String) (payload : List UInt8) : List (HandlerCall H) :=
  (c.callbacks.filter (matchesTopic · topic)).filterMap fun _ => c.callback topic payload

/-- The client after a call. -/
def apply (c : Client H) : ClientOp H → Client H
  | .subscribe topic handler failure => (c.subscribe topic handler failure).2
  | .unsubscribe topic failure => (c.unsubscribe topic failure).2

/-- The client after some calls. -/
def run (ops : List (ClientOp H)) : Client H := ops.foldl apply new

end Client

/-! ## The table of handlers -/

namespace ClientOp

/-- The filter of a call. -/
def topic : ClientOp H → String
  | subscribe topic _ _ | unsubscribe topic _ => topic

/-- The handler that a call registers. -/
def handler? : ClientOp H → Option H
  | subscribe _ handler _ => some handler
  | unsubscribe _ _ => none

end ClientOp

/-- The handler registered for a filter: that of the last call about it. -/
def registered (ops : List (ClientOp H)) (filter : String) : Option H :=
  (ops.reverse.find? (·.topic = filter)).bind ClientOp.handler?

theorem handlers_apply (c : Client H) (op : ClientOp H) :
    (c.apply op).handlers = Function.update c.handlers op.topic op.handler? := by
  cases op <;> rfl

/-- **The table holds the handlers that are registered.** -/
theorem registered_run (ops : List (ClientOp H)) (filter : String) :
    (Client.run ops).handlers filter = registered ops filter := by
  induction ops using List.reverseRecOn with
  | nil => rfl
  | append_singleton ops op ih =>
    rw [Client.run, List.foldl_append, List.foldl_cons, List.foldl_nil, handlers_apply]
    by_cases hop : op.topic = filter
    · subst hop
      simp [registered]
    · rw [Function.update_of_ne (Ne.symm hop), ← Client.run, ih]
      simp [registered, hop]

/-! ## Messages that reach a handler -/

/-- What arrives is handed to the handler in the table under its topic, if a subscription
matches. -/
theorem mem_arrive {c : Client H} {topic : String} {payload : List UInt8} {call : HandlerCall H} :
    call ∈ c.arrive topic payload ↔
      (∃ filter ∈ c.callbacks, matchesTopic filter topic = true) ∧
        c.callback topic payload = some call := by
  simp only [Client.arrive, List.mem_filterMap, List.mem_filter]
  constructor
  · rintro ⟨filter, hfilter, hcall⟩
    exact ⟨⟨filter, hfilter⟩, hcall⟩
  · rintro ⟨⟨filter, hfilter⟩, hcall⟩
    exact ⟨filter, hfilter, hcall⟩

/-- The handler registered for a filter is called for a message. -/
def Reached (ops : List (ClientOp H)) (filter topic : String) (payload : List UInt8) : Prop :=
  ∀ handler, registered ops filter = some handler →
    ⟨handler, topic, payload⟩ ∈ (Client.run ops).arrive topic payload

/-- **A message reaches the handler of a filter that matches it exactly when the same handler is
registered for the topic itself.** -/
theorem reached_iff (ops : List (ClientOp H)) (filter topic : String) (payload : List UInt8)
    (hsubscribed : filter ∈ (Client.run ops).callbacks)
    (hregistered : (registered ops filter).isSome = true)
    (hmatch : matchesTopic filter topic = true) :
    Reached ops filter topic payload ↔ registered ops topic = registered ops filter := by
  obtain ⟨handler, hhandler⟩ := Option.isSome_iff_exists.1 hregistered
  have hcalled : ⟨handler, topic, payload⟩ ∈ (Client.run ops).arrive topic payload ↔
      registered ops topic = some handler := by
    rw [mem_arrive, and_iff_right ⟨filter, hsubscribed, hmatch⟩, Client.callback, registered_run]
    cases registered ops topic <;> simp
  rw [hhandler, ← hcalled]
  constructor
  · intro hreached
    exact hreached handler hhandler
  · intro hcall handler' hhandler'
    rw [hhandler] at hhandler'
    cases hhandler'
    exact hcall

/-- For a filter without wildcards this is always so. -/
theorem registered_of_literal (ops : List (ClientOp H)) {filter topic : String}
    (hliteral : Literal filter) (hmatch : matchesTopic filter topic = true) :
    registered ops topic = registered ops filter := by
  rw [(matchesTopic_iff_eq hliteral).1 hmatch]

/-! ## The reports of the devices -/

/-- What a device reports. -/
inductive ReportKind where
  | status
  | ping
  | ack
deriving DecidableEq

namespace ReportKind

/-- The last level of the topic of a report. -/
def level : ReportKind → String
  | status => "status"
  | ping => "ping"
  | ack => "ack"

/-- The filter that the server subscribes to. -/
def filter (kind : ReportKind) : String := "devices/+/" ++ kind.level

/-- The topic under which a device reports. -/
def topic (kind : ReportKind) (deviceID : String) : String :=
  "devices/" ++ deviceID ++ "/" ++ kind.level

end ReportKind

/-- The subscriptions of the server when it starts, and which of them fail. -/
def mainSubscriptions (handler : ReportKind → H) (failure : ReportKind → Option String) :
    List (ClientOp H) :=
  [.status, .ping, .ack].map fun kind => .subscribe kind.filter (handler kind) (failure kind)

/-- The reports of every device match what the server subscribes to. -/
theorem deviceReport_matches (kind : ReportKind) {deviceID : String} (h : '/' ∉ deviceID.toList) :
    matchesTopic kind.filter (kind.topic deviceID) = true := by
  have hfilter : (levels kind.filter).map filterLevel =
      [.name "devices".toList, .one, .name kind.level.toList] := by
    cases kind <;> decide
  have htopic : levels (kind.topic deviceID) =
      ["devices".toList, deviceID.toList, kind.level.toList] := by
    have hlevel : '/' ∉ kind.level.toList := by cases kind <;> decide
    have hdevices : ("devices/" : String) = "devices" ++ "/" := by decide
    rw [ReportKind.topic, levels_append, hdevices, levels_append, levels_of_not_mem hlevel,
      levels_of_not_mem h, levels_of_not_mem (by decide)]
    rfl
  unfold matchesTopic
  rw [hfilter, htopic]
  simp [FilterLevel.covers]

theorem topic_ne_filter (kind kind' : ReportKind) {deviceID : String} (h : '+' ∉ deviceID.toList) :
    kind'.filter ≠ kind.topic deviceID := by
  intro heq
  have hwildcard : '+' ∈ kind'.filter.toList := by cases kind' <;> decide
  have hlevel : '+' ∉ kind.level.toList := by cases kind <;> decide
  rw [heq] at hwildcard
  simp [ReportKind.topic, h, hlevel] at hwildcard

/-- **No report of a device reaches a handler of the server.** The names of topics have no
wildcards. -/
theorem deviceReport_dropped (handler : ReportKind → H) (failure : ReportKind → Option String)
    (kind : ReportKind) {deviceID : String} (h : '+' ∉ deviceID.toList) (payload : List UInt8) :
    (Client.run (mainSubscriptions handler failure)).arrive (kind.topic deviceID) payload = [] := by
  have hnone : registered (mainSubscriptions handler failure) (kind.topic deviceID) = none := by
    simp [registered, mainSubscriptions, ClientOp.topic, topic_ne_filter kind _ h]
  refine List.eq_nil_iff_forall_not_mem.2 fun call hcall => ?_
  have hcallback := (mem_arrive.1 hcall).2
  rw [Client.callback, registered_run, hnone] at hcallback
  cases hcallback

/-- A device reports its status: the filter is subscribed to and matches, and yet its handler is not
called. -/
theorem statusReport_unreached :
    let ops := mainSubscriptions id fun _ => none
    "devices/+/status" ∈ (Client.run ops).callbacks ∧
      matchesTopic "devices/+/status" "devices/device-1/status" = true ∧
      ¬ Reached ops "devices/+/status" "devices/device-1/status" [] := by
  refine ⟨by decide, by decide, fun h => ?_⟩
  have hcalled := h .status (by decide)
  revert hcalled
  decide

/-- A message under a topic that is a filter of its own. -/
theorem reached_literal :
    Reached [.subscribe "backend/status" ReportKind.status none] "backend/status" "backend/status"
      [] :=
  (reached_iff _ "backend/status" "backend/status" [] (by decide) (by decide) (by decide)).2 rfl

end AeroxeBee.Mqtt
