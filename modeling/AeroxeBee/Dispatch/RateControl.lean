import AeroxeBee.Server

/-!
# Rate control

Counters in Redis that limit how many messages a device sends in a minute and in an hour, and how
many go to a carrier. A counter has its window in its key, or is forgotten a minute after the last
message. The commands of a pipeline are sent together but are not a transaction, so here they are
commands of their own.
-/

namespace AeroxeBee.Dispatch

open Foundations

/-- The number under a key; a key that does not exist has none. -/
def getInt (key : String) : ServerProg (Except RedisErr (Option ℤ)) := do
  match ← Prog.call (.redis (.get key)) with
  | .error .nil => return .ok none
  | .error e => return .error e
  | .ok cs =>
    match Json.parseInt cs with
    | none => return .error (.refused "strconv.Atoi: invalid syntax")
    | some n => return .ok (some n)

namespace RateControl

variable (cfg : RateLimitConfig)

/-- A time as the number of seconds at which its minute began. -/
def minuteOf (now : ℤ) : ℤ := now / 60000000000 * 60

/-- A time as the number of seconds at which its hour began. -/
def hourOf (now : ℤ) : ℤ := now / 3600000000000 * 3600

/-- The key of the counter of a device for one minute. -/
def minKey (deviceID : String) (now : ℤ) : String :=
  "rate:device:min:" ++ deviceID ++ ":" ++ toString (minuteOf now)

/-- The key of the counter of a device for one hour. -/
def hourKey (deviceID : String) (now : ℤ) : String :=
  "rate:device:hr:" ++ deviceID ++ ":" ++ toString (hourOf now)

/-- The key of the counter of a carrier, country or prefix. -/
def throttleKey (scope scopeValue : String) : String :=
  "throttle:global:" ++ scope ++ ":" ++ scopeValue

/-- Whether a device may send another message in this minute and this hour. -/
def checkDeviceRate (deviceID : String) : ServerProg (Except RedisErr Bool) := do
  let minKey := minKey deviceID (← Prog.call .now)
  let hourKey := hourKey deviceID (← Prog.call .now)
  match ← getInt minKey with
  | .error e => return .error e
  | .ok minCount =>
    match ← getInt hourKey with
    | .error e => return .error e
    | .ok hourCount =>
      return .ok (decide (minCount.getD 0 < cfg.deviceMaxPerMinute) &&
        decide (hourCount.getD 0 < cfg.deviceMaxPerHour))

/-- Count a message of a device. -/
def incrementDeviceCounters (deviceID : String) : ServerProg (Except RedisErr Unit) := do
  let minKey := minKey deviceID (← Prog.call .now)
  let hourKey := hourKey deviceID (← Prog.call .now)
  let minIncr ← Prog.call (.redis (.incr minKey))
  let minExpire ← Prog.call (.redis (.expire minKey 120000000000))
  let hourIncr ← Prog.call (.redis (.incr hourKey))
  let hourExpire ← Prog.call (.redis (.expire hourKey 7200000000000))
  return do
    let _ ← minIncr
    let _ ← minExpire
    let _ ← hourIncr
    hourExpire

/-- How many messages a scope admits. -/
def maxLimit (scope : String) : ℤ :=
  if scope = "country" then 5000
  else if scope = "carrier" then 3000
  else 1000

/-- Whether a carrier, country or prefix admits another message. -/
def checkGlobalThrottle (scope scopeValue : String) : ServerProg (Except RedisErr Bool) := do
  match ← getInt (throttleKey scope scopeValue) with
  | .error e => return .error e
  | .ok none => return .ok true
  | .ok (some count) => return .ok (decide (count < maxLimit scope))

/-- Count a message to a carrier, country or prefix. -/
def incrementGlobalThrottle (scope scopeValue : String) : ServerProg (Except RedisErr Unit) := do
  let key := throttleKey scope scopeValue
  let incr ← Prog.call (.redis (.incr key))
  let expire ← Prog.call (.redis (.expire key 60000000000))
  return do
    let _ ← incr
    expire

end RateControl

end AeroxeBee.Dispatch
