import AeroxeBee.Dispatch.RateControl

/-!
# Fraud detection

The checks a message goes through before it is dispatched: how many messages and recipients the
account has had, whether the recipient is blacklisted, how fast the account sends, and what the
message says. The content filter is a parameter: its patterns decide nothing but which texts are
flagged.
-/

namespace AeroxeBee.Dispatch

open Foundations

/-- What is examined. -/
structure DetectionInput where
  accountID : String
  recipient : String
  sender : String
  message : String

/-- The outcome of a check. -/
structure DetectionResult where
  flagged : Bool
  reason : String
  weight : ℚ

/-- The outcome of a check that found nothing. -/
def DetectionResult.clean : DetectionResult := ⟨false, "", 0⟩

/-- A text that the content filter objects to. -/
structure ContentViolation where
  category : String
  weight : ℚ

/-- The content filter: whether the message, the sender and the recipient are blocked, and the
violations found. -/
abbrev ContentScan := String → String → String → Bool × List ContentViolation

namespace Fraud

/-- The key of the number of messages of an account in one hour. -/
def hourKey (accountID : String) (now : ℤ) : String :=
  "fraud:otp:account:" ++ accountID ++ ":hour:" ++ toString (RateControl.hourOf now)

/-- The key of the recipients of an account in ten minutes. -/
def recipientsKey (accountID : String) (now : ℤ) : String :=
  "fraud:otp:account:" ++ accountID ++ ":recipients:" ++ toString (now / 600000000000 * 600)

/-- The key of the usual rate of an account. -/
def baselineKey (accountID : String) : String := "fraud:baseline:account:" ++ accountID

/-- Count the message, and flag an account with too many messages or recipients. A number of
recipients that cannot be read counts as zero. -/
def checkOTPSpam (input : DetectionInput) : ServerProg (Except String DetectionResult) := do
  let hourKey := hourKey input.accountID (← Prog.call .now)
  let recipientsKey := recipientsKey input.accountID (← Prog.call .now)
  let incr ← Prog.call (.redis (.incr hourKey))
  let hourExpire ← Prog.call (.redis (.expire hourKey 7200000000000))
  let add ← Prog.call (.redis (.sAdd recipientsKey input.recipient))
  let recipientsExpire ← Prog.call (.redis (.expire recipientsKey 900000000000))
  let executed : Except RedisErr ℤ := do
    let hourCount ← incr
    let _ ← hourExpire
    let _ ← add
    let _ ← recipientsExpire
    return hourCount
  match executed with
  | .error e => return .error ("fraud check: " ++ e.text)
  | .ok hourCount => do
    let card ← Prog.call (.redis (.sCard recipientsKey))
    let distinctCount := card.toOption.getD 0
    if 1000 < hourCount then
      return .ok ⟨true, "OTP spam detected: >1000/hr", 4 / 5⟩
    else if 500 < distinctCount then
      return .ok ⟨true, "OTP spam detected: >500 distinct recipients in 10min", 7 / 10⟩
    else return .ok .clean

/-- Flag a recipient that is on the blacklist. -/
def checkRecipientBlacklist (recipient : String) :
    ServerProg (Except String DetectionResult) := do
  match ← Prog.call (.redis (.sIsMember "blacklist:recipients" recipient)) with
  | .error e => return .error e.text
  | .ok true => return .ok ⟨true, "Recipient is blacklisted", 1⟩
  | .ok false => return .ok .clean

/-- The nearest whole number, and the even one of two that are equally near. -/
def nearest (q : ℚ) : ℤ :=
  if q - q.floor < 1 / 2 then q.floor
  else if 1 / 2 < q - q.floor then q.floor + 1
  else if q.floor % 2 = 0 then q.floor else q.floor + 1

/-- Flag an account that sends three times as fast as it used to. The rate is a whole number, as
in the only call; a rate that is stored for the first time is the usual one. -/
def checkVelocityAnomaly (accountID : String) (currentRate : ℕ) :
    ServerProg (Except String DetectionResult) := do
  match ← Prog.call (.redis (.get (baselineKey accountID))) with
  | .error .nil => do
    let _ ← Prog.call
      (.redis (.set (baselineKey accountID) (Json.intLit currentRate) (some 86400000000000)))
    return .ok .clean
  | .error e => return .error e.text
  | .ok baselineStr =>
    let baseline := (Json.parseInt baselineStr).getD 0
    if 0 < baseline ∧ baseline * 3 < currentRate then
      return .ok ⟨true, "Velocity anomaly: current rate " ++ toString currentRate ++ " is " ++
        toString (nearest (currentRate / baseline)) ++ "x baseline " ++ toString baseline, 3 / 5⟩
    else return .ok .clean

/-- The violation with the greatest weight, the first of them if there are several; the first
violation if none has a positive weight. -/
def worst (v : ContentViolation) (violations : List ContentViolation) : ContentViolation :=
  violations.foldl (fun worst v => if worst.weight < v.weight then v else worst) { v with weight := 0 }

/-- Flag a message that the content filter blocks. -/
def checkSensitiveContent (scan : ContentScan) (input : DetectionInput) : DetectionResult :=
  match scan input.message input.sender input.recipient with
  | (true, v :: violations) =>
    let w := worst v (v :: violations)
    ⟨true, "sensitive content detected: " ++ w.category ++ " (" ++
      toString (violations.length + 1) ++ " violations)", w.weight⟩
  | _ => .clean

/-- The result of a check that succeeded and flags the message. -/
def flagged (result : Except String DetectionResult) : Option DetectionResult :=
  result.toOption.filter (·.flagged)

/-- The first check that flags the message; a check that fails flags nothing. -/
def analyze (scan : ContentScan) (input : DetectionInput) : ServerProg DetectionResult := do
  match flagged (← checkOTPSpam input) with
  | some r => return r
  | none =>
    match flagged (← checkRecipientBlacklist input.recipient) with
    | some r => return r
    | none =>
      match flagged (← checkVelocityAnomaly input.accountID 0) with
      | some r => return r
      | none => return checkSensitiveContent scan input

end Fraud

end AeroxeBee.Dispatch
