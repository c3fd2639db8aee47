import AeroxeBee.Admin.Handlers
import AeroxeBee.Foundations.History

/-!
# Requests to change a plan or the configuration

Users of the panel ask for a change, and an administrator approves or rejects it. `Approve` reads
the request, makes the change, and only then marks the request; that a request can be marked once
is checked by the last statement, after the change.

* `ChangeKind.role`: the statements that a call issues are reads, changes of the table, or the mark;
* `orderly_makerChecker`: when changes are made only while the request waits, and nothing comes
  between a change and its mark, the table is changed once, by the call that succeeds.
-/

namespace AeroxeBee.Admin

open Foundations Accounts

/-! ## The configuration of the language models -/

namespace AIConfigService

/-- Deactivate the other configurations if the one to be saved is active, and save it. -/
def deactivating (isActive : Bool) (except : Option String)
    (save : ServerProg (Except String Unit)) : ServerProg (Except String Unit) :=
  match isActive with
  | false => save
  | true => do
    match ← Prog.call (.db (.registry (.deactivateAIConfigs except))) with
    | .error e => return .error ("deactivate configs: " ++ e)
    | .ok _ => save

/-- Insert a configuration; the database draws its id. -/
def create (cfg : AIConfig) : ServerProg (Except String Unit) :=
  deactivating cfg.isActive none do
    let id ← Prog.call .uuid
    Prog.call (.db (.registry (.createAIConfig { cfg with id := id.text })))

/-- Overwrite a configuration. -/
def update (cfg : AIConfig) : ServerProg (Except String Unit) :=
  deactivating cfg.isActive (some cfg.id) (Prog.call (.db (.registry (.updateAIConfig cfg))))

/-- Delete a configuration. -/
def delete (id : String) : ServerProg (Except String Unit) :=
  Prog.call (.db (.registry (.deleteAIConfig id)))

end AIConfigService

namespace AIHandler

/-- The text of a value; another value, or none, is the empty text. -/
def toString : Option PayloadValue → String
  | some (.text s) => s
  | _ => ""

/-- The truth of a value; the text "true" is true. -/
def toBool : Option PayloadValue → Bool
  | some (.bool b) => b
  | some (.text s) => s = "true"
  | _ => false

/-- The configuration that a payload describes. -/
def created (payload : List (String × PayloadValue)) (createdBy : String) : AIConfig where
  id := ""
  provider := toString (payload.lookup "provider")
  label := toString (payload.lookup "label")
  endpointURL := toString (payload.lookup "endpoint_url")
  apiKey := toString (payload.lookup "api_key")
  model := toString (payload.lookup "model")
  isActive := toBool (payload.lookup "is_active")
  createdBy := some createdBy

/-- The configuration with what a payload says about it. -/
def updated (payload : List (String × PayloadValue)) (existing : AIConfig) : AIConfig :=
  let text (key old : String) : String := (payload.lookup key).elim old fun v => toString (some v)
  { existing with
    provider := text "provider" existing.provider
    label := text "label" existing.label
    endpointURL := text "endpoint_url" existing.endpointURL
    apiKey := text "api_key" existing.apiKey
    model := text "model" existing.model
    isActive := (payload.lookup "is_active").elim existing.isActive fun v => toBool (some v) }

/-- What a service reports as an error is a failure of the server. -/
def orFail (failed : String) (save : ServerProg (Except String Unit)) :
    ServerProg (Except HttpError Unit) := do
  match ← save with
  | .error e => return .error ⟨500, failed ++ e⟩
  | .ok _ => return .ok ()

/-- The change of a configuration that a request names. -/
def applyUpdate (payload : List (String × PayloadValue)) (id : String) :
    ServerProg (Except HttpError Unit) := do
  match ← Prog.call (.db (.registry (.aiConfigByID id))) with
  | .error _ | .ok none => return .error ⟨404, "AI config not found"⟩
  | .ok (some existing) =>
    orFail "failed to update config: " (AIConfigService.update (updated payload existing))

/-- The configuration that a request names, if it names one. -/
def named (configID : Option String) (missing : String)
    (next : String → ServerProg (Except HttpError Unit)) : ServerProg (Except HttpError Unit) :=
  if configID.getD "" = "" then return .error ⟨400, missing⟩ else next (configID.getD "")

/-- Make the change that a request asks for. -/
def apply (who : Principal) (req : ConfigChangeRequest) : ServerProg (Except HttpError Unit) :=
  if req.action = "create" then
    orFail "failed to create config: " (AIConfigService.create (created req.payload who.accountID))
  else if req.action = "update" then
    named req.configID "config_id is required for update" (applyUpdate req.payload)
  else if req.action = "delete" then
    named req.configID "config_id is required for delete" fun id =>
      orFail "failed to delete config: " (AIConfigService.delete id)
  else return .ok ()

/-- Mark a request that waits as reviewed. -/
def review (who : Principal) (id status notes failed : String) : ServerProg Answer := do
  match ← Prog.call (.db (.registry (.reviewConfigChangeRequest id status who.accountID "" notes))) with
  | .error e => return .error ⟨500, failed ++ e⟩
  | .ok 0 => return .error ⟨500, failed ++ "request not found or already processed"⟩
  | .ok (_ + 1) => return .ok [("status", status)]

/-- `POST /api/v1/admin/ai/change-requests/{id}/approve`. -/
def approveChangeRequest (who : Principal) (id notes : String) : ServerProg Answer := do
  match ← Prog.call (.db (.registry .listConfigChangeRequests)) with
  | .error _ => return .error ⟨500, "failed to fetch change request"⟩
  | .ok reqs =>
    match reqs.find? (·.id = id) with
    | none => return .error ⟨404, "change request not found"⟩
    | some req =>
      match ← apply who req with
      | .error e => return .error e
      | .ok _ => review who id "approved" notes "failed to approve: "

/-- `POST /api/v1/admin/ai/change-requests/{id}/reject`. -/
def rejectChangeRequest (who : Principal) (id notes : String) : ServerProg Answer :=
  review who id "rejected" notes "failed to reject: "

end AIHandler

/-! ## Calls on a request -/

/-- What a request is about. -/
inductive ChangeKind where
  | plan
  | aiConfig

/-- A call that reviews a request. -/
inductive Review where
  | approve (who : Principal) (notes : String)
  | reject (who : Principal) (notes : String)

namespace Review

/-- Whether the call is to approve the request. -/
def isApprove : Review → Bool
  | approve _ _ => true
  | reject _ _ => false

/-- The handler of the call. -/
def handle (kind : ChangeKind) (id : String) : Review → ServerProg Answer
  | approve who notes =>
    match kind with
    | .plan => PlanChangeRequestHandler.approve who id notes
    | .aiConfig => AIHandler.approveChangeRequest who id notes
  | reject who notes =>
    match kind with
    | .plan => PlanChangeRequestHandler.reject who id notes
    | .aiConfig => AIHandler.rejectChangeRequest who id notes

end Review

namespace ChangeKind

/-- Whether the request waits for its review. -/
def waits (kind : ChangeKind) (id : String) (r : Registry) : Bool :=
  match kind with
  | plan => r.planChangeRequests.any fun pr => pr.id = id && pr.status = "pending"
  | aiConfig => r.configChangeRequests.any fun cr => cr.id = id && cr.status = "pending"

/-- Whether the table that the requests are about is the same. -/
def sameTarget (kind : ChangeKind) (r r' : Registry) : Bool :=
  match kind with
  | plan => r.plans = r'.plans
  | aiConfig => r.aiConfigs = r'.aiConfigs

end ChangeKind

/-- What a command of a call does. -/
inductive Role where
  /-- It reads. -/
  | read
  /-- It changes the table that the request is about. -/
  | change
  /-- It marks the request as reviewed. -/
  | mark
deriving DecidableEq

/-- The commands of the calls on a request. -/
def ChangeKind.role (kind : ChangeKind) (id : String) : {β : Type} → ServerCmd β → Option Role
  | _, .uuid => some .read
  | _, .db (.registry (.planChangeRequestByID _)) => some .read
  | _, .db (.registry .listConfigChangeRequests) => some .read
  | _, .db (.registry (.aiConfigByID _)) => some .read
  | _, .db (.registry (.createPlan _)) | _, .db (.registry (.updatePlan _))
  | _, .db (.registry (.deletePlan _)) =>
    match kind with
    | plan => some .change
    | aiConfig => none
  | _, .db (.registry (.deactivateAIConfigs _)) | _, .db (.registry (.createAIConfig _))
  | _, .db (.registry (.updateAIConfig _)) | _, .db (.registry (.deleteAIConfig _)) =>
    match kind with
    | plan => none
    | aiConfig => some .change
  | _, .db (.registry (.reviewPlanChangeRequest id' status _ _ _)) =>
    match kind with
    | plan => if id' = id ∧ status ≠ "pending" then some .mark else none
    | aiConfig => none
  | _, .db (.registry (.reviewConfigChangeRequest id' status _ _ _)) =>
    match kind with
    | plan => none
    | aiConfig => if id' = id ∧ status ≠ "pending" then some .mark else none
  | _, _ => none

/-! ## What the calls do to the tables -/

section Effects

variable (cfg : Config) (kind : ChangeKind) (id : String) {β : Type} (w : World)

/-- The registry before a command of the server, after what else happened meanwhile. -/
abbrev before (w : World) : Registry := w.tick.db.registry

/-- The registry after a command of the server. -/
abbrev after (cfg : Config) {β : Type} (e : ServerCmd β) (w : World) : Registry :=
  ((server cfg).step e w).2.db.registry

/-- The registry after a statement about it. -/
theorem after_statement (q : RegistryQuery β) :
    after cfg (.db (.registry q)) w =
      if w.next.fault.isRefused then before w else (q.run (before w)).2 := by
  rw [after, step_statement]
  split_ifs <;> rfl

/-- A statement is refused, executed, or executed without a reply. -/
theorem step_registry (q : RegistryQuery β) :
    let r := (server cfg).step (.db (.registry q)) w
    (r.1 = (q.run (before w)).1 ∧ r.2.db.registry = (q.run (before w)).2) ∨
      (∃ e, r.1 = .error e ∧
        (r.2.db.registry = before w ∨ r.2.db.registry = (q.run (before w)).2)) := by
  intro r
  rcases statement_cases cfg w (.registry q) with
    ⟨-, hval, hdb⟩ | ⟨e, -, hval, hdb⟩ | ⟨e, -, hval, hdb⟩
  · exact .inl ⟨hval, congrArg Database.registry hdb⟩
  · exact .inr ⟨e, hval, .inl (congrArg Database.registry hdb)⟩
  · exact .inr ⟨e, hval, .inr (congrArg Database.registry hdb)⟩

variable {kind id}

/-- A read leaves the registry alone. -/
theorem after_of_read {e : ServerCmd β} (he : kind.role id e = some .read) :
    after cfg e w = before w := by
  cases e with
  | uuid => rfl
  | db q =>
    cases q with
    | registry q =>
      have hsame : (q.run (before w)).2 = before w := by
        cases q <;> simp only [ChangeKind.role] at he <;> first | rfl | (cases kind <;> simp at he)
      rw [after_statement]
      split_ifs
      · rfl
      · exact hsame
    | _ => cases he
  | _ => cases he

/-- A change of the table leaves the requests alone. -/
theorem waits_of_change {e : ServerCmd β} (he : kind.role id e = some .change) :
    kind.waits id (after cfg e w) = kind.waits id (before w) := by
  cases e with
  | uuid => cases he
  | db q =>
    cases q with
    | registry q =>
      have hsame : kind.waits id (q.run (before w)).2 = kind.waits id (before w) := by
        cases kind <;> cases q <;> first | rfl | (simp [ChangeKind.role] at he)
      rw [after_statement]
      split_ifs
      · rfl
      · exact hsame
    | _ => cases he
  | _ => cases he

/-- A mark leaves the table alone. -/
theorem sameTarget_of_mark {e : ServerCmd β} (he : kind.role id e = some .mark) :
    kind.sameTarget (before w) (after cfg e w) = true := by
  cases e with
  | uuid => cases he
  | db q =>
    cases q with
    | registry q =>
      have hsame : kind.sameTarget (before w) (q.run (before w)).2 = true := by
        cases kind <;> cases q <;>
          first | exact decide_eq_true rfl | (simp [ChangeKind.role] at he)
      rw [after_statement]
      split_ifs
      · cases kind <;> exact decide_eq_true rfl
      · exact hsame
    | _ => cases he
  | _ => cases he

end Effects

/-! ## Marks -/

/-- A statement reported an error. -/
def failed : Event ServerCmd → Bool
  | ⟨.db _, .error _⟩ => true
  | _ => false

/-- A request was marked as reviewed. -/
def marked : Event ServerCmd → Bool
  | ⟨.db (.registry (.reviewPlanChangeRequest _ _ _ _ _)), .ok (_ + 1)⟩ => true
  | ⟨.db (.registry (.reviewConfigChangeRequest _ _ _ _ _)), .ok (_ + 1)⟩ => true
  | _ => false

/-- When the rows that wait are marked, none is left. -/
theorem any_updateWhere {α : Type} {p : α → Bool} {f : α → α} (hf : ∀ a, p (f a) = false)
    (rows : List α) : (updateWhere p f rows).any p = false := by
  rw [List.any_eq_false]
  intro a ha
  obtain ⟨b, -, rfl⟩ := List.mem_map.1 ha
  by_cases hb : p b
  · simp [hb, hf]
  · simp [hb]

theorem countP_pos_iff_any {α : Type} {p : α → Bool} {rows : List α} :
    0 < rows.countP p ↔ rows.any p = true := by
  rw [List.countP_pos_iff, List.any_eq_true]

/-- What a mark can come to: there are requests that wait and none afterwards, or there are none, or
the statement fails. -/
structure MarkEffect (waited waits : Bool) (ev : Event ServerCmd) : Prop where
  /-- A mark is made while the request waits, and it does not wait any longer. -/
  once : marked ev = true → waited = true ∧ waits = false
  /-- A request that waits is marked if the statement does not fail. -/
  unfailed : failed ev = false → waited = true → marked ev = true
  /-- No request begins to wait. -/
  ends : waited = false → waits = false

/-- The effect of a statement that reports how many requests it has marked, or fails. -/
theorem markEffect_of (cfg : Config) {kind : ChangeKind} {id : String} (w : World)
    {q : RegistryQuery ℕ} (hok : ∀ n, marked ⟨.db (.registry q), .ok n⟩ = true ↔ 0 < n)
    (herror : ∀ text, marked ⟨.db (.registry q), .error text⟩ = false)
    (hrun : (∃ text, (q.run (before w)).1 = .error text ∧ (q.run (before w)).2 = before w) ∨
      ∃ n, (q.run (before w)).1 = .ok n ∧ (0 < n ↔ kind.waits id (before w) = true) ∧
        kind.waits id (q.run (before w)).2 = false) :
    MarkEffect (kind.waits id (before w)) (kind.waits id (after cfg (.db (.registry q)) w))
      ⟨.db (.registry q), ((server cfg).step (.db (.registry q)) w).1⟩ := by
  rcases step_registry cfg w q with ⟨hreply, hafter⟩ | ⟨text, hreply, hafter⟩
  · rw [hreply, after, hafter]
    rcases hrun with ⟨text, herr, hsame⟩ | ⟨n, hn, hpos, hwaits⟩
    · rw [herr, hsame]
      exact ⟨fun h => absurd h (by simp [herror]), (fun h => nomatch h), fun h => h⟩
    · rw [hn, hwaits]
      exact ⟨fun h => ⟨hpos.1 ((hok n).1 h), rfl⟩, fun _ h => (hok n).2 (hpos.2 h), fun _ => rfl⟩
  · rw [hreply]
    refine ⟨fun h => absurd h (by simp [herror]), (fun h => nomatch h), fun hwaited => ?_⟩
    rcases hafter with hafter | hafter
    · rw [after, hafter, hwaited]
    · rw [after, hafter]
      rcases hrun with ⟨text', -, hsame⟩ | ⟨n, -, -, hwaits⟩
      · rw [hsame, hwaited]
      · exact hwaits

/-- **A request is marked once.** -/
theorem mark_effect (cfg : Config) {kind : ChangeKind} {id : String} {β : Type} (w : World)
    {e : ServerCmd β} (he : kind.role id e = some .mark) :
    MarkEffect (kind.waits id (before w)) (kind.waits id (after cfg e w))
      ⟨e, ((server cfg).step e w).1⟩ := by
  cases e with
  | db q =>
    cases q with
    | registry q =>
      cases kind with
      | plan =>
        cases q with
        | reviewPlanChangeRequest id' status reviewer name notes =>
          simp only [ChangeKind.role, Option.ite_none_right_eq_some] at he
          obtain ⟨⟨rfl, hstatus⟩, -⟩ := he
          refine markEffect_of cfg w (fun n => ?_) (fun _ => rfl) (.inr ⟨_, rfl, ?_, ?_⟩)
          · cases n <;> simp [marked]
          · exact countP_pos_iff_any
          · exact any_updateWhere (fun pr => by simp [hstatus]) _
        | _ => simp [ChangeKind.role] at he
      | aiConfig =>
        cases q with
        | reviewConfigChangeRequest id' status reviewer name notes =>
          simp only [ChangeKind.role, Option.ite_none_right_eq_some] at he
          obtain ⟨⟨rfl, hstatus⟩, -⟩ := he
          refine markEffect_of cfg w (fun n => ?_) (fun _ => rfl) ?_
          · cases n <;> simp [marked]
          · simp only [RegistryQuery.run, Registry.reviewConfig]
            split_ifs
            · exact .inl ⟨_, rfl, rfl⟩
            · refine .inr ⟨_, rfl, countP_pos_iff_any, ?_⟩
              exact any_updateWhere (fun cr => by simp [hstatus]) _
        | _ => simp [ChangeKind.role] at he
    | _ => cases he
  | uuid => cases he
  | _ => cases he

/-! ## How far a call has come -/

/-- How far a call has come with a request. -/
inductive Progress where
  /-- Nothing has been changed yet. -/
  | fresh
  /-- The statements of the change so far have not failed. -/
  | applied
  /-- A statement of the change has failed. -/
  | failed
  /-- The request was marked. -/
  | marked
  /-- The request was not marked. -/
  | unmarked
deriving DecidableEq

/-- What an event makes of the progress of a call. -/
def progress (kind : ChangeKind) (id : String) (s : Progress) (ev : Event ServerCmd) :
    Progress :=
  match kind.role id ev.cmd with
  | some .change => if failed ev then .failed else .applied
  | some .mark => if marked ev then .marked else .unmarked
  | _ => s

/-- A call makes its change, if it is to approve the request, and then marks it. -/
def reviewProtocol (kind : ChangeKind) (id : String) (call : Review) :
    Protocol ServerCmd Progress where
  allows s _ e := (s = .fresh ∨ s = .applied) ∧ (kind.role id e).isSome ∧
    (kind.role id e = some .change → call.isApprove = true)
  expects _ := True
  next := progress kind id

/-- The call succeeds exactly if it has marked the request, and it ends with a mark if it has made the
change. -/
def Ends (s : Progress) (answer : Answer) : Prop :=
  s ≠ .applied ∧ (answer.isOk = true ↔ s = .marked)

section Keeps

variable {kind : ChangeKind} {id : String} {call : Review} {s : Progress}

/-- The change of a request has been made, or has failed. -/
def Applies (s : Progress) (r : Except HttpError Unit) : Prop :=
  match r with
  | .ok _ => s = .fresh ∨ s = .applied
  | .error _ => s = .fresh ∨ s = .failed

/-- A read leaves the progress as it is. -/
theorem keeps_read {α β : Type} {Q : Progress → α → Prop} {e : ServerCmd β}
    {k : β → ServerProg α} (he : kind.role id e = some .read) (hs : s = .fresh ∨ s = .applied)
    (hk : ∀ b, (k b).Keeps (reviewProtocol kind id call) Q s) :
    (Prog.act e k).Keeps (reviewProtocol kind id call) Q s := by
  refine ⟨⟨hs, by rw [he]; rfl, fun h => ?_⟩, fun b _ => ?_⟩
  · rw [he] at h
    cases h
  · have hnext : (reviewProtocol kind id call).next s ⟨e, b⟩ = s := by
      simp [reviewProtocol, progress, he]
    rw [hnext]
    exact hk b

/-- A statement of the change. -/
theorem keeps_change {α : Type} {Q : Progress → α → Prop} {q : RegistryQuery Unit}
    {k : Except String Unit → ServerProg α} (hcall : call.isApprove = true)
    (he : kind.role id (.db (.registry q)) = some .change) (hs : s = .fresh ∨ s = .applied)
    (herror : ∀ text, (k (.error text)).Keeps (reviewProtocol kind id call) Q .failed)
    (hok : (k (.ok ())).Keeps (reviewProtocol kind id call) Q .applied) :
    (Prog.act (.db (.registry q)) k).Keeps (reviewProtocol kind id call) Q s := by
  refine ⟨⟨hs, by rw [he]; rfl, fun _ => hcall⟩, fun b _ => ?_⟩
  cases b with
  | error text =>
    have hnext : (reviewProtocol kind id call).next s ⟨.db (.registry q), .error text⟩ = .failed := by
      simp [reviewProtocol, progress, he, failed]
    rw [hnext]
    exact herror text
  | ok =>
    have hnext : (reviewProtocol kind id call).next s ⟨.db (.registry q), .ok ()⟩ = .applied := by
      simp [reviewProtocol, progress, he, failed]
    rw [hnext]
    exact hok

/-- The mark of a request. -/
theorem keeps_mark {q : RegistryQuery ℕ} {k : Except String ℕ → ServerProg Answer}
    (he : kind.role id (.db (.registry q)) = some .mark) (hs : s = .fresh ∨ s = .applied)
    (hk : ∀ b, ∃ answer : Answer, k b = .ret answer ∧
      answer.isOk = marked ⟨.db (.registry q), b⟩) :
    (Prog.act (.db (.registry q)) k).Keeps (reviewProtocol kind id call) Ends s := by
  refine ⟨⟨hs, by rw [he]; rfl, fun h => ?_⟩, fun b _ => ?_⟩
  · rw [he] at h
    cases h
  · obtain ⟨answer, hanswer, hok⟩ := hk b
    rw [hanswer]
    show Ends (progress kind id s ⟨.db (.registry q), b⟩) answer
    simp only [progress, he]
    split_ifs with hmarked
    · exact ⟨nofun, iff_of_true (hok.trans hmarked) rfl⟩
    · exact ⟨nofun, iff_of_false (fun h => hmarked (hok.symm.trans h)) nofun⟩

/-- A statement that makes the whole change. -/
theorem keeps_orFail (hcall : call.isApprove = true) {q : RegistryQuery Unit} {failed : String}
    (he : kind.role id (.db (.registry q)) = some .change) (hs : s = .fresh ∨ s = .applied) :
    (AIHandler.orFail failed (Prog.call (.db (.registry q)))).Keeps (reviewProtocol kind id call)
      Applies s :=
  keeps_change hcall he hs (fun _ => .inr rfl) (.inr rfl)

theorem planApply_keeps (req : PlanChangeRequest) (hcall : call.isApprove = true) :
    (PlanChangeRequestHandler.apply req).Keeps (reviewProtocol .plan id call) Applies .fresh := by
  have hfresh : Progress.fresh = .fresh ∨ Progress.fresh = .applied := .inl rfl
  have hstored : Progress.applied = .fresh ∨ Progress.applied = .applied := .inr rfl
  have hfailed : Progress.failed = .fresh ∨ Progress.failed = .failed := .inr rfl
  unfold PlanChangeRequestHandler.apply
  cases req.action with
  | create =>
    cases req.payload with
    | none => exact .inl rfl
    | some body => exact keeps_change hcall rfl hfresh (fun _ => hfailed) hstored
  | update =>
    cases req.payload with
    | none => exact .inl rfl
    | some body => exact keeps_change hcall rfl hfresh (fun _ => hfailed) hstored
  | delete =>
    dsimp only
    split_ifs
    · exact .inl rfl
    · exact keeps_change hcall rfl hfresh (fun _ => hfailed) hstored

theorem deactivating_keeps {α : Type} {Q : Progress → α → Prop} (hcall : call.isApprove = true)
    (isActive : Bool) (except : Option String) (save : ServerProg (Except String Unit))
    (f : Except String Unit → ServerProg α)
    (hsave : ∀ s, s = .fresh ∨ s = .applied →
      (save >>= f).Keeps (reviewProtocol .aiConfig id call) Q s)
    (hf : ∀ text, (f (.error text)).Keeps (reviewProtocol .aiConfig id call) Q .failed) :
    (AIConfigService.deactivating isActive except save >>= f).Keeps
      (reviewProtocol .aiConfig id call) Q .fresh := by
  cases isActive with
  | false => exact hsave _ (.inl rfl)
  | true => exact keeps_change hcall rfl (.inl rfl) (fun _ => hf _) (hsave _ (.inr rfl))

theorem aiApply_keeps (who : Principal) (req : ConfigChangeRequest) (hcall : call.isApprove = true) :
    (AIHandler.apply who req).Keeps (reviewProtocol .aiConfig id call) Applies .fresh := by
  unfold AIHandler.apply
  split_ifs
  · refine deactivating_keeps hcall _ _ _ _ (fun s hs => ?_) fun text => .inr rfl
    exact keeps_read rfl hs fun _ => keeps_orFail hcall rfl hs
  · unfold AIHandler.named
    split_ifs
    · exact .inl rfl
    · refine keeps_read rfl (.inl rfl) fun reply => ?_
      rcases reply with _ | _ | existing
      · exact .inl rfl
      · exact .inl rfl
      · refine deactivating_keeps hcall _ _ _ _ (fun s hs => ?_) fun text => .inr rfl
        exact keeps_orFail hcall rfl hs
  · unfold AIHandler.named
    split_ifs
    · exact .inl rfl
    · exact keeps_orFail hcall rfl (.inl rfl)
  · exact .inl rfl

theorem planReview_keeps (who : Principal) {status : String} (notes failed : String)
    (hstatus : status ≠ "pending") (hs : s = .fresh ∨ s = .applied) :
    (PlanChangeRequestHandler.review who id status notes failed).Keeps
      (reviewProtocol .plan id call) Ends s := by
  refine keeps_mark (by simp [ChangeKind.role, hstatus]) hs fun b => ?_
  rcases b with text | _ | n
  · exact ⟨_, rfl, rfl⟩
  · exact ⟨_, rfl, rfl⟩
  · exact ⟨_, rfl, rfl⟩

theorem aiReview_keeps (who : Principal) {status : String} (notes failed : String)
    (hstatus : status ≠ "pending") (hs : s = .fresh ∨ s = .applied) :
    (AIHandler.review who id status notes failed).Keeps (reviewProtocol .aiConfig id call) Ends s := by
  refine keeps_mark (by simp [ChangeKind.role, hstatus]) hs fun b => ?_
  rcases b with text | _ | n
  · exact ⟨_, rfl, rfl⟩
  · exact ⟨_, rfl, rfl⟩
  · exact ⟨_, rfl, rfl⟩

/-- A call ends when the change has failed. -/
theorem Applies.ends {e : HttpError} (h : Applies s (.error e)) : Ends s (.error e) := by
  rcases h with rfl | rfl <;> exact ⟨nofun, iff_of_false nofun nofun⟩

/-- **The calls keep to the protocol.** -/
theorem handle_keeps (kind : ChangeKind) (id : String) (call : Review) :
    (call.handle kind id).Keeps (reviewProtocol kind id call) Ends .fresh := by
  have hnothing : ∀ e, Ends .fresh (.error e) := fun e => ⟨nofun, iff_of_false nofun nofun⟩
  have happroved : "approved" ≠ "pending" := by decide
  have hrejected : "rejected" ≠ "pending" := by decide
  cases call with
  | approve who notes =>
    cases kind with
    | plan =>
      refine keeps_read rfl (.inl rfl) fun reply => ?_
      rcases reply with _ | _ | req
      · exact hnothing _
      · exact hnothing _
      · refine (planApply_keeps req rfl).bind fun s r hr => ?_
        cases r with
        | error e => exact hr.ends
        | ok => exact planReview_keeps who notes _ happroved hr
    | aiConfig =>
      simp only [Review.handle, AIHandler.approveChangeRequest, Prog.call_bind]
      refine keeps_read rfl (.inl rfl) fun reply => ?_
      cases reply with
      | error e => exact hnothing _
      | ok reqs =>
        cases hfind : reqs.find? (·.id = id) with
        | none =>
          simp only [hfind]
          exact hnothing _
        | some req =>
          simp only [hfind]
          refine (aiApply_keeps who req rfl).bind fun s r hr => ?_
          cases r with
          | error e => exact hr.ends
          | ok => exact aiReview_keeps who notes _ happroved hr
  | reject who notes =>
    cases kind with
    | plan => exact planReview_keeps who notes _ hrejected (.inl rfl)
    | aiConfig => exact aiReview_keeps who notes _ hrejected (.inl rfl)

end Keeps

/-! ## Runs -/

/-- Calls that review a request. -/
abbrev Reviews := Pool ServerCmd World Answer

section Runs

variable (cfg : Config) (kind : ChangeKind) (id : String) (calls : List Review) (w : World)

/-- The calls on a request, none of which has begun. -/
def reviewing : Reviews := .start (calls.map (Review.handle kind id)) w

/-- It is noted which calls have changed the table. -/
def noteChange (i : ℕ) {β : Type} (e : ServerCmd β) (w : World) (changers : List ℕ) : List ℕ :=
  if kind.sameTarget (before w) (after cfg e w) then changers else changers ++ [i]

/-- The calls that have changed the table in a run. -/
def changers (sched : List ℕ) : List ℕ :=
  Pool.noted (server cfg) (noteChange cfg kind) (reviewing kind id calls w) [] sched

/-- Nothing but the calls marks the request. -/
def Spared (w : World) : Prop :=
  ∀ t ∈ w.env, ∀ s : Shared,
    kind.waits id (t.others s).db.registry = kind.waits id s.db.registry

/-- **Maker and checker.** The table is changed only by a call to approve the request that succeeds,
by one such call, and only if the request waited and no other call on it succeeds. -/
structure MakerChecker (P : Reviews) (changers : List ℕ) : Prop where
  approves : ∀ i ∈ changers, ∃ call, calls[i]? = some call ∧ call.isApprove = true
  succeeds : ∀ i ∈ changers, ∀ answer, (i, answer) ∈ P.done → answer.isOk = true
  once : ∀ i ∈ changers, ∀ j ∈ changers, i = j
  waited : changers ≠ [] → kind.waits id w.db.registry = true
  alone : ∀ i ∈ changers, ∀ j answer, (j, answer) ∈ P.done → answer.isOk = true → j = i

/-- A call has answered. -/
def Answered (P : Reviews) (j : ℕ) : Bool := (P.threads[j]?.bind Pool.returned).isSome

/-- A step that keeps a change and its mark together. The table is changed while the request waits;
a call that changes it, or has changed it, does not fail; and until it has answered, no other call
changes the table or marks the request. -/
def Orderly (P : Reviews) (changers : List ℕ) (i : ℕ) {β : Type} (e : ServerCmd β) : Prop :=
  (kind.sameTarget (before P.state) (after cfg e P.state) = false →
    kind.waits id (before P.state) = true) ∧
  (kind.sameTarget (before P.state) (after cfg e P.state) = false ∨ i ∈ changers →
    failed ⟨e, ((server cfg).step e P.state).1⟩ = false) ∧
  (kind.sameTarget (before P.state) (after cfg e P.state) = false ∨
      (kind.waits id (before P.state) = true ∧ kind.waits id (after cfg e P.state) = false) →
    ∀ j ∈ changers, j ≠ i → Answered P j = true)

instance (P : Reviews) (changers : List ℕ) (i : ℕ) {β : Type} (e : ServerCmd β) :
    Decidable (Orderly cfg kind id P changers i e) := inferInstanceAs (Decidable (_ ∧ _ ∧ _))

/-- The invariant of orderly runs. -/
structure Inv (P : Reviews) (changers : List ℕ) : Prop where
  spared : Spared kind id P.state
  approves : ∀ i ∈ changers, ∃ call, calls[i]? = some call ∧ call.isApprove = true
  once : ∀ i ∈ changers, ∀ j ∈ changers, i = j
  /-- The call that has changed the table is about to mark the request, or has marked it. -/
  advances : ∀ i ∈ changers,
    (P.phase (progress kind id) .fresh i = .applied ∧
      kind.waits id P.state.db.registry = true) ∨
    (P.phase (progress kind id) .fresh i = .marked ∧
      kind.waits id P.state.db.registry = false)
  /-- After a mark the request does not wait, and no other call has changed the table. -/
  settled : ∀ j, P.phase (progress kind id) .fresh j = .marked →
    kind.waits id P.state.db.registry = false ∧ ∀ i ∈ changers, i = j
  waited : kind.waits id w.db.registry = false →
    kind.waits id P.state.db.registry = false ∧ changers = []

end Runs

section Step

variable {cfg : Config} {kind : ChangeKind} {id : String} {calls : List Review} {w : World}
  {P : Reviews} {changers : List ℕ} {i : ℕ} {β : Type} {e : ServerCmd β} {k : β → ServerProg Answer}

theorem Spared.waits_before (h : Spared kind id w) :
    kind.waits id (before w) = kind.waits id w.db.registry := by
  unfold before World.tick World.next
  cases henv : w.env with
  | nil => rfl
  | cons t ts => exact h t (henv ▸ List.mem_cons_self) w.toShared

theorem Spared.step (h : Spared kind id w) (e : ServerCmd β) :
    Spared kind id ((server cfg).step e w).2 := by
  intro t ht
  rw [step_env] at ht
  exact h t (List.mem_of_mem_tail ht)

/-- While the request waits, a call that has changed the table has not answered. -/
theorem Inv.eq_of_answered (hI : Inv kind id calls w P changers)
    (hkeeping : Pool.Keeping (reviewProtocol kind id) (fun _ => Ends) (progress kind id) .fresh
      calls P)
    (hwaits : kind.waits id P.state.db.registry = true)
    (hanswered : ∀ j ∈ changers, j ≠ i → Answered P j = true) : ∀ j ∈ changers, j = i := by
  intro j hj
  by_contra hne
  have hreturned := hanswered j hj hne
  unfold Answered at hreturned
  cases hp : P.threads[j]? with
  | none => simp [hp] at hreturned
  | some p =>
    cases p with
    | act e k => simp [hp, Pool.returned] at hreturned
    | ret answer =>
      obtain ⟨call, -, hends⟩ := hkeeping j _ hp
      rcases hI.advances j hj with ⟨hphase, -⟩ | ⟨-, hnot⟩
      · exact hends.1 hphase
      · rw [hnot] at hwaits
        cases hwaits

/-- A read keeps the invariant. -/
theorem Inv.read (hI : Inv kind id calls w P changers) (he : kind.role id e = some .read) :
    Inv kind id calls w (P.advance (server cfg) i e k) (noteChange cfg kind i e P.state changers) := by
  have hafter : (P.advance (server cfg) i e k).state.db.registry = before P.state :=
    after_of_read cfg P.state he
  have hwaits : kind.waits id (P.advance (server cfg) i e k).state.db.registry =
      kind.waits id P.state.db.registry := by
    rw [hafter, hI.spared.waits_before]
  have hnote : noteChange cfg kind i e P.state changers = changers := by
    have hsame : kind.sameTarget (before P.state) (after cfg e P.state) = true := by
      rw [after_of_read cfg P.state he]
      cases kind <;> exact decide_eq_true rfl
    rw [noteChange, if_pos hsame]
  have hphase : (P.advance (server cfg) i e k).phase (progress kind id) .fresh =
      P.phase (progress kind id) .fresh := by
    rw [Pool.phase_advance, progress, he, Function.update_eq_self]
  rw [hnote]
  refine ⟨hI.spared.step e, hI.approves, hI.once, ?_, ?_, ?_⟩
  · rw [hphase, hwaits]
    exact hI.advances
  · rw [hphase, hwaits]
    exact hI.settled
  · rw [hwaits]
    exact hI.waited

/-- A change that meets the condition keeps the invariant. -/
theorem Inv.change {call : Review} (hI : Inv kind id calls w P changers)
    (he : kind.role id e = some .change) (hc : calls[i]? = some call)
    (happrove : call.isApprove = true)
    (hopen : P.phase (progress kind id) .fresh i = .fresh ∨
      P.phase (progress kind id) .fresh i = .applied)
    (hkeeping : Pool.Keeping (reviewProtocol kind id) (fun _ => Ends) (progress kind id) .fresh
      calls P)
    (hG : Orderly cfg kind id P changers i e) :
    Inv kind id calls w (P.advance (server cfg) i e k) (noteChange cfg kind i e P.state changers) := by
  have hbefore := hI.spared.waits_before
  have hwaits : kind.waits id (P.advance (server cfg) i e k).state.db.registry =
      kind.waits id P.state.db.registry :=
    (waits_of_change cfg P.state he).trans hbefore
  have hphase : (P.advance (server cfg) i e k).phase (progress kind id) .fresh =
      Function.update (P.phase (progress kind id) .fresh) i
        (if failed ⟨e, ((server cfg).step e P.state).1⟩ then .failed else .applied) := by
    rw [Pool.phase_advance, progress, he]
  obtain ⟨hpending, hunfailed, hothers⟩ := hG
  -- the call itself has no mark yet, and does not get one
  have hmarked : ∀ j, (P.advance (server cfg) i e k).phase (progress kind id) .fresh j = .marked →
      j ≠ i ∧ P.phase (progress kind id) .fresh j = .marked := by
    intro j hj
    rw [hphase] at hj
    by_cases hji : j = i
    · subst hji
      rw [Function.update_self] at hj
      split_ifs at hj
    · rw [Function.update_of_ne hji] at hj
      exact ⟨hji, hj⟩
  cases hsame : kind.sameTarget (before P.state) (after cfg e P.state) with
  | true =>
    have hnote : noteChange cfg kind i e P.state changers = changers := by
      rw [noteChange, if_pos hsame]
    rw [hnote]
    refine ⟨hI.spared.step e, hI.approves, hI.once, fun j hj => ?_, fun j hj => ?_, ?_⟩
    · rw [hphase, hwaits]
      by_cases hji : j = i
      · subst hji
        rw [Function.update_self, hunfailed (.inr hj)]
        rcases hI.advances j hj with h | ⟨h, -⟩
        · exact .inl ⟨rfl, h.2⟩
        · rcases hopen with ho | ho <;> cases h.symm.trans ho
      · rw [Function.update_of_ne hji]
        exact hI.advances j hj
    · rw [hwaits]
      exact hI.settled j (hmarked j hj).2
    · rw [hwaits]
      exact hI.waited
  | false =>
    have hwaiting : kind.waits id P.state.db.registry = true := hbefore.symm.trans (hpending hsame)
    have honly : ∀ j ∈ changers, j = i :=
      hI.eq_of_answered hkeeping hwaiting (hothers (.inl hsame))
    have hnote : noteChange cfg kind i e P.state changers = changers ++ [i] := by
      rw [noteChange, hsame]
      rfl
    have hall : ∀ j ∈ changers ++ [i], j = i := by
      intro j hj
      rcases List.mem_append.1 hj with hj | hj
      · exact honly j hj
      · exact List.mem_singleton.1 hj
    rw [hnote]
    refine ⟨hI.spared.step e, fun j hj => ?_, fun j hj j' hj' => ?_, fun j hj => ?_,
      fun j hj => ?_, fun hw => ?_⟩
    · rw [hall j hj]
      exact ⟨call, hc, happrove⟩
    · rw [hall j hj, hall j' hj']
    · rw [hall j hj, hphase, hwaits, Function.update_self, hunfailed (.inl hsame)]
      exact .inl ⟨rfl, hwaiting⟩
    · have hnot := (hI.settled j (hmarked j hj).2).1
      rw [hwaiting] at hnot
      cases hnot
    · have hnot := (hI.waited hw).1
      rw [hwaiting] at hnot
      cases hnot

/-- A mark that meets the condition keeps the invariant. -/
theorem Inv.mark (hI : Inv kind id calls w P changers) (he : kind.role id e = some .mark)
    (hopen : P.phase (progress kind id) .fresh i = .fresh ∨
      P.phase (progress kind id) .fresh i = .applied)
    (hkeeping : Pool.Keeping (reviewProtocol kind id) (fun _ => Ends) (progress kind id) .fresh
      calls P)
    (hG : Orderly cfg kind id P changers i e) :
    Inv kind id calls w (P.advance (server cfg) i e k) (noteChange cfg kind i e P.state changers) := by
  have hbefore := hI.spared.waits_before
  obtain ⟨honce, hunfailed, hends⟩ := mark_effect cfg P.state he
  rw [hbefore] at honce hunfailed hends
  have hsame := sameTarget_of_mark cfg P.state he
  obtain ⟨-, hgoes, hothers⟩ := hG
  rw [hsame, hbefore] at hothers
  rw [hsame] at hgoes
  have hphase : (P.advance (server cfg) i e k).phase (progress kind id) .fresh =
      Function.update (P.phase (progress kind id) .fresh) i
        (if marked ⟨e, ((server cfg).step e P.state).1⟩ then .marked else .unmarked) := by
    rw [Pool.phase_advance, progress, he]
  have hnote : noteChange cfg kind i e P.state changers = changers := by
    rw [noteChange, if_pos hsame]
  rw [hnote]
  have hwaits : kind.waits id (P.advance (server cfg) i e k).state.db.registry =
      kind.waits id (after cfg e P.state) := rfl
  by_cases hmem : i ∈ changers
  · -- the change of the call itself is marked
    have happlied : kind.waits id P.state.db.registry = true := by
      rcases hI.advances i hmem with ⟨-, h⟩ | ⟨h, -⟩
      · exact h
      · rcases hopen with ho | ho <;> cases h.symm.trans ho
    have hmarks := hunfailed (hgoes (.inr hmem)) happlied
    have hnot := (honce hmarks).2
    rw [hmarks] at hphase
    refine ⟨hI.spared.step e, hI.approves, hI.once, fun j hj => ?_, fun j hj => ?_, fun hw => ?_⟩
    · rw [hI.once j hj i hmem, hphase, hwaits, Function.update_self]
      exact .inr ⟨rfl, hnot⟩
    · refine ⟨hnot, fun j' hj' => ?_⟩
      by_cases hji : j = i
      · rw [hji]
        exact hI.once j' hj' i hmem
      · rw [hphase, Function.update_of_ne hji] at hj
        have hended := (hI.settled j hj).1
        rw [happlied] at hended
        cases hended
    · have hended := (hI.waited hw).1
      rw [happlied] at hended
      cases hended
  · have hne : ∀ j ∈ changers, j ≠ i := fun j hj hji => hmem (hji ▸ hj)
    cases hmarks : marked ⟨e, ((server cfg).step e P.state).1⟩ with
    | true =>
      -- the request was waiting, so that nobody can have changed the table
      obtain ⟨hwaiting, hnot⟩ := honce hmarks
      have hnone : changers = [] := by
        rw [List.eq_nil_iff_forall_not_mem]
        intro j hj
        have honly := hI.eq_of_answered hkeeping hwaiting (hothers (.inr ⟨hwaiting, hnot⟩))
        exact hne j hj (honly j hj)
      subst hnone
      refine ⟨hI.spared.step e, nofun, nofun, nofun, fun j _ => ⟨hnot, nofun⟩, fun hw => ?_⟩
      have hended := (hI.waited hw).1
      rw [hwaiting] at hended
      cases hended
    | false =>
      rw [hmarks] at hphase
      have hstays : ∀ j, (P.advance (server cfg) i e k).phase (progress kind id) .fresh j = .marked →
          P.phase (progress kind id) .fresh j = .marked := by
        intro j hj
        rw [hphase] at hj
        by_cases hji : j = i
        · subst hji
          rw [Function.update_self] at hj
          cases hj
        · rwa [Function.update_of_ne hji] at hj
      refine ⟨hI.spared.step e, hI.approves, hI.once, fun j hj => ?_, fun j hj => ?_, fun hw => ?_⟩
      · rw [hphase, hwaits, Function.update_of_ne (hne j hj)]
        rcases hI.advances j hj with ⟨hstate, hwaiting⟩ | ⟨hstate, hnot⟩
        · refine .inl ⟨hstate, ?_⟩
          -- a mark whose reply is lost would end the wait
          by_contra hover
          rw [Bool.not_eq_true] at hover
          have honly := hI.eq_of_answered hkeeping hwaiting (hothers (.inr ⟨hwaiting, hover⟩))
          exact hne j hj (honly j hj)
        · exact .inr ⟨hstate, hends hnot⟩
      · obtain ⟨hnot, honly⟩ := hI.settled j (hstays j hj)
        exact ⟨hends hnot, honly⟩
      · obtain ⟨hnot, hnone⟩ := hI.waited hw
        exact ⟨hends hnot, hnone⟩

/-- **Every command of an orderly run keeps the invariant.** -/
theorem Inv.step {call : Review} (hI : Inv kind id calls w P changers)
    (hc : calls[i]? = some call) (hi : P.threads[i]? = some (.act e k))
    (hkeeping : Pool.Keeping (reviewProtocol kind id) (fun _ => Ends) (progress kind id) .fresh
      calls P)
    (hG : Orderly cfg kind id P changers i e) :
    Inv kind id calls w (P.advance (server cfg) i e k) (noteChange cfg kind i e P.state changers) := by
  obtain ⟨call', hc', ⟨hopen, hissues, happrove⟩, -⟩ := hkeeping i _ hi
  obtain rfl := Option.some.inj (hc.symm.trans hc')
  obtain ⟨role, hrole⟩ := Option.isSome_iff_exists.1 hissues
  cases role with
  | read => exact hI.read hrole
  | change => exact hI.change hrole hc (happrove hrole) hopen hkeeping hG
  | mark => exact hI.mark hrole hopen hkeeping hG

end Step

theorem reviews_phased (kind : ChangeKind) (id : String) :
    Pool.Phased (Review.handle kind id) (reviewProtocol kind id) (fun _ => Ends) (progress kind id)
      .fresh :=
  ⟨fun _ => rfl, fun _ _ => trivial, handle_keeps kind id⟩

/-- **In an orderly run the table is changed as it should be**, whatever the status of the request is
at its start. -/
theorem orderly_makerChecker (cfg : Config) (kind : ChangeKind) (id : String) (calls : List Review)
    (w : World) (sched : List ℕ) (hspared : Spared kind id w)
    (horderly : Pool.EachNoted (server cfg) (noteChange cfg kind) (Orderly cfg kind id)
      (reviewing kind id calls w) [] sched) :
    MakerChecker kind id calls w ((reviewing kind id calls w).run (server cfg) sched)
      (changers cfg kind id calls w sched) := by
  have hstart : Inv kind id calls w (reviewing kind id calls w) [] :=
    ⟨hspared, nofun, nofun, nofun, fun _ h => (nomatch h), fun h => ⟨h, rfl⟩⟩
  have hI : Inv kind id calls w ((reviewing kind id calls w).run (server cfg) sched)
      (changers cfg kind id calls w sched) :=
    Pool.run_noted_inv (reviews_phased kind id) hstart horderly
      fun P changers i call β e k hc hi hkeeping hP hG => hP.step hc hi hkeeping hG
  -- a call that has answered has marked the request exactly if it has succeeded
  have hdone : ∀ j answer, (j, answer) ∈ ((reviewing kind id calls w).run (server cfg) sched).done →
      Ends (((reviewing kind id calls w).run (server cfg) sched).phase (progress kind id) .fresh j)
        answer := by
    intro j answer hj
    have hthread := Pool.done_threads _ _ sched hj
    obtain ⟨call, hcall, -⟩ := Pool.follows (Review.handle kind id) calls w sched hthread
    exact (reviews_phased kind id).returned hcall hthread
  refine ⟨hI.approves, fun i hi answer hanswer => ?_, hI.once, fun hne => ?_,
    fun i hi j answer hanswer hok => ?_⟩
  · obtain ⟨hended, hok⟩ := hdone i answer hanswer
    rcases hI.advances i hi with ⟨hphase, -⟩ | ⟨hphase, -⟩
    · exact absurd hphase hended
    · exact hok.2 hphase
  · by_contra hnot
    exact hne (hI.waited (Bool.eq_false_of_not_eq_true hnot)).2
  · exact ((hI.settled j ((hdone j answer hanswer).2.1 hok)).2 i hi).symm

/-! ## One request -/

/-- A plan. -/
def basicPlan : Plan where
  id := "basic"
  name := "Basic"
  visibility := "public"
  dailyQuota := 50
  monthlyQuota := 1000
  overageBufferPct := 0
  maxQueueDepth := 100
  maxDevices := 1
  maxTemplates := 10
  dedicatedPool := false
  defaultRoutingStrategy := .fastest
  pricePerSMS := 0
  monthlyPrice := 0
  isPopular := false
  ctaText := "Get Started"
  features := []

/-- A request to delete the plan. -/
def deletion (status : String) : PlanChangeRequest :=
  ⟨"request-1", "user-1", .delete, "basic", none, status, none, "", ""⟩

/-- A server with the plan and the request. -/
def onePlan (status : String) : World where
  db := ⟨[], [], [], [], [], [], [], [], [], [],
    { Registry.empty with plans := [basicPlan], planChangeRequests := [deletion status] }⟩
  redis _ := none
  streams _ := Stream.empty
  antiStarvationCnt := 0
  breakers _ := none
  history _ := []
  flags := []
  clock := 0
  env := []

/-- One administrator approves the request, and another one wants to reject it. -/
def bothReviews : List Review :=
  [.approve ⟨"admin-1", true⟩ "", .reject ⟨"admin-2", true⟩ ""]

/-- The rejection comes after the mark. -/
theorem orderly_makerChecker_inTurn :
    MakerChecker .plan "request-1" bothReviews (onePlan "pending")
      ((reviewing .plan "request-1" bothReviews (onePlan "pending")).run (server .default)
        [0, 0, 0, 1])
      (changers .default .plan "request-1" bothReviews (onePlan "pending") [0, 0, 0, 1]) :=
  orderly_makerChecker .default .plan "request-1" bothReviews (onePlan "pending") [0, 0, 0, 1]
    (fun _ ht => absurd ht List.not_mem_nil) (by decide)

/-- A request that was rejected is approved: the plan is deleted, although the answer is an error. -/
theorem rejected_applied :
    let P := (reviewing .plan "request-1" bothReviews (onePlan "rejected")).run (server .default)
      [0, 0, 0]
    P.state.db.registry.plans = [] ∧ (P.done.any fun x => x.2.isOk) = false ∧
    ¬ MakerChecker .plan "request-1" bothReviews (onePlan "rejected") P
      (changers .default .plan "request-1" bothReviews (onePlan "rejected") [0, 0, 0]) := by
  refine ⟨by decide, by decide, fun h => ?_⟩
  have hchanged : changers .default .plan "request-1" bothReviews (onePlan "rejected") [0, 0, 0] = [0] := by
    decide
  have hwaited := h.waited (by rw [hchanged]; nofun)
  revert hwaited
  decide

end AeroxeBee.Admin
