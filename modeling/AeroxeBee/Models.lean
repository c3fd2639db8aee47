import AeroxeBee.Foundations.Json
import AeroxeBee.Foundations.Timestamp

/-!
# Records shared by the components

The string types of the gateway with their named values, and the message as it travels through
the queue, with the JSON text it is stored under.

* `QueueMessage.marshal`, `QueueMessage.unmarshal`: the two directions of the payload;
* `QueueMessage.unmarshal_marshal`: every message that can be written is read back field by
  field.
-/

namespace AeroxeBee

open Foundations

/-- The kind of an SMS; any string can occur in a stored payload. -/
structure MessageType where
  name : String
deriving DecidableEq, Repr

namespace MessageType

/-- One-time passwords. -/
def otp : MessageType := ⟨"otp"⟩

/-- Messages about a transaction. -/
def transactional : MessageType := ⟨"transactional"⟩

/-- Advertising. -/
def marketing : MessageType := ⟨"marketing"⟩

end MessageType

/-- The priority lane of a message. -/
structure PriorityLane where
  name : String
deriving DecidableEq, Repr

namespace PriorityLane

/-- The lane that is served first. -/
def otp : PriorityLane := ⟨"otp"⟩

/-- The lane that is served second. -/
def transactional : PriorityLane := ⟨"transactional"⟩

/-- The lane that is served last. -/
def marketing : PriorityLane := ⟨"marketing"⟩

end PriorityLane

/-- How a device is chosen for a message. -/
structure RoutingStrategy where
  name : String
deriving DecidableEq, Repr

namespace RoutingStrategy

/-- Prefer devices that deliver fast. -/
def fastest : RoutingStrategy := ⟨"fastest_delivery"⟩

/-- Prefer devices that cost little. -/
def lowestCost : RoutingStrategy := ⟨"lowest_cost"⟩

/-- Prefer devices that deliver reliably. -/
def highestReliability : RoutingStrategy := ⟨"highest_reliability"⟩

/-- Prefer devices on the recipient's carrier. -/
def geoAffinity : RoutingStrategy := ⟨"geo_affinity"⟩

/-- Prefer devices with the best margin. -/
def profitOptimized : RoutingStrategy := ⟨"profit_optimized"⟩

end RoutingStrategy

/-- A message on the queue. -/
structure QueueMessage where
  id : String
  accountID : String
  apiKeyID : String
  recipient : String
  sender : String
  message : String
  messageType : MessageType
  priority : PriorityLane
  idempotencyKey : String
  createdAt : Timestamp
  routingStrategy : RoutingStrategy
  /-- A duration in nanoseconds. -/
  maxAge : Int64
  attempts : Int64
deriving DecidableEq

namespace QueueMessage

/-! ## The payload -/

/-- The members of the payload, in the order of the fields. -/
def members (m : QueueMessage) (createdAt : List Char) : List (String × Json.Scalar) :=
  [("id", .str m.id), ("account_id", .str m.accountID), ("api_key_id", .str m.apiKeyID),
    ("recipient", .str m.recipient), ("sender", .str m.sender), ("message", .str m.message),
    ("message_type", .str m.messageType.name), ("priority", .str m.priority.name),
    ("idempotency_key", .str m.idempotencyKey), ("created_at", .str (String.ofList createdAt)),
    ("routing_strategy", .str m.routingStrategy.name), ("max_age", .int m.maxAge.toInt),
    ("attempts", .int m.attempts.toInt)]

/-- The payload of a message; a creation time outside the years 0 to 9999 is an error. -/
def marshal (m : QueueMessage) : Option (List Char) :=
  m.createdAt.write.map fun createdAt => Json.writeObject (m.members createdAt)

/-- The error of `marshal`. -/
def marshalError : String :=
  "json: error calling MarshalJSON for type time.Time: " ++
    "Time.MarshalJSON: year outside of range [0,9999]"

/-- The message all of whose fields are zero; the zero time is the start of the year 1. -/
def zero : QueueMessage where
  id := ""
  accountID := ""
  apiKeyID := ""
  recipient := ""
  sender := ""
  message := ""
  messageType := ⟨""⟩
  priority := ⟨""⟩
  idempotencyKey := ""
  createdAt := ⟨-62135596800000000000, 0, Timestamp.utc_lt⟩
  routingStrategy := ⟨""⟩
  maxAge := 0
  attempts := 0

/-- The string of a JSON value. -/
def str? : Json → Option String
  | .str s => some s
  | _ => none

/-- The 64-bit integer of a JSON value. -/
def int64? : Json → Option Int64
  | .num lit => do
    let n ← Json.parseInt lit
    if -2 ^ 63 ≤ n ∧ n < 2 ^ 63 then return Int64.ofInt n else none
  | _ => none

/-- The time of a JSON value. -/
def time? : Json → Option Timestamp
  | .str s => Timestamp.read s.toList
  | _ => none

/-- Store one member of the payload. Keys are matched without regard to case, keys of no field
are ignored, and `null` leaves a field as it is. -/
def setField (m : QueueMessage) (key : String) (v : Json) : Option QueueMessage :=
  if v matches .null then some m
  else
    match String.ofList (key.toList.map Char.toLower) with
    | "id" => (str? v).map fun s => { m with id := s }
    | "account_id" => (str? v).map fun s => { m with accountID := s }
    | "api_key_id" => (str? v).map fun s => { m with apiKeyID := s }
    | "recipient" => (str? v).map fun s => { m with recipient := s }
    | "sender" => (str? v).map fun s => { m with sender := s }
    | "message" => (str? v).map fun s => { m with message := s }
    | "message_type" => (str? v).map fun s => { m with messageType := ⟨s⟩ }
    | "priority" => (str? v).map fun s => { m with priority := ⟨s⟩ }
    | "idempotency_key" => (str? v).map fun s => { m with idempotencyKey := s }
    | "created_at" => (time? v).map fun t => { m with createdAt := t }
    | "routing_strategy" => (str? v).map fun s => { m with routingStrategy := ⟨s⟩ }
    | "max_age" => (int64? v).map fun n => { m with maxAge := n }
    | "attempts" => (int64? v).map fun n => { m with attempts := n }
    | _ => some m

/-- The message a payload denotes. -/
def unmarshal (payload : List Char) : Option QueueMessage :=
  match Json.parse payload with
  | some (.obj ms) => ms.foldlM (fun m kv => m.setField kv.1 kv.2) zero
  | some .null => some zero
  | _ => none

theorem int64?_intLit (n : Int64) : int64? (.num (Json.intLit n.toInt)) = some n := by
  have hrange : -2 ^ 63 ≤ n.toInt ∧ n.toInt < 2 ^ 63 := ⟨n.le_toInt, n.toInt_lt⟩
  simp only [int64?, Json.parseInt_intLit, Option.bind_eq_bind, Option.bind_some, if_pos hrange,
    Int64.ofInt_toInt, Option.pure_def]

/-- **A message that can be written is read back** with every field unchanged. -/
theorem unmarshal_marshal {m : QueueMessage} {payload : List Char} (h : m.marshal = some payload) :
    unmarshal payload = some m := by
  obtain ⟨createdAt, htime, rfl⟩ := Option.map_eq_some_iff.1 h
  have hread := Timestamp.read_write htime
  simp [unmarshal, Json.parse_writeObject, members, Json.Scalar.toJson, setField, str?, time?,
    int64?_intLit, hread]

end QueueMessage

end AeroxeBee
