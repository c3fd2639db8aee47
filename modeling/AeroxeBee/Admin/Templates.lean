import AeroxeBee.Admin.Handlers
import AeroxeBee.Foundations.History

/-!
# The review of templates

An administrator approves a template that its owner has written. Both routes by which the owner
changes it write the name, the text and the variables and leave the approval as it is; the route of
the members prepares a row that waits for approval again, which the statement does not store.

* `handle_only`: what the requests about templates can ask the server for;
* `reviewed_step_iff`: a step keeps an approved template as it was approved exactly if it does not
  rewrite it;
* `reviewed_iff`: so a run does exactly if no step of it rewrites an approved template.
-/

namespace AeroxeBee.Admin

open Foundations Accounts

/-! ## The routes of the members -/

namespace MemberHandler

/-- `POST /api/v1/member/templates`. -/
def createTemplate (who : Principal) : Option TemplateBody → ServerProg Answer
  | none => return .error ⟨400, "invalid request"⟩
  | some req => TemplateHandler.store who.accountID req

/-- `PUT /api/v1/member/templates/{id}`. -/
def updateTemplate (who : Principal) (id : String) (body : Option TemplateBody) :
    ServerProg Answer :=
  TemplateHandler.withOwn who id (match body with
    | none => return .error ⟨400, "invalid request"⟩
    | some req =>
      let tpl : Template :=
        ⟨id, who.accountID, req.name, req.body, req.variableNames, .pending, none, 0⟩
      execute (.registry (.updateTemplate tpl)) ⟨500, "failed to update template"⟩
        fun _ => templateFields tpl)

/-- `DELETE /api/v1/member/templates/{id}`. -/
def deleteTemplate (who : Principal) (id : String) : ServerProg Answer :=
  TemplateHandler.withOwn who id
    (execute (.deleteTemplates [id]) ⟨500, "failed to delete template"⟩ fun _ => [])

end MemberHandler

/-! ## Calls about templates -/

/-- A request about templates: of an owner by either route, or of an administrator. -/
inductive TemplateCall where
  | create (who : Principal) (body : Option TemplateBody)
  | update (who : Principal) (id : String) (body : Option TemplateBody)
  | delete (who : Principal) (id : String)
  | memberCreate (who : Principal) (body : Option TemplateBody)
  | memberUpdate (who : Principal) (id : String) (body : Option TemplateBody)
  | memberDelete (who : Principal) (id : String)
  | approve (id : String)
  | reject (id : String)
  | bulkApprove (ids : Option (List String))
  | bulkReject (ids : Option (List String))
  | bulkDelete (ids : Option (List String))

/-- The handler of a request. -/
def TemplateCall.handle : TemplateCall → ServerProg Answer
  | create who body => TemplateHandler.create who body
  | update who id body => TemplateHandler.update who id body
  | delete who id => TemplateHandler.delete who id
  | memberCreate who body => MemberHandler.createTemplate who body
  | memberUpdate who id body => MemberHandler.updateTemplate who id body
  | memberDelete who id => MemberHandler.deleteTemplate who id
  | approve id => AdminHandler.approveTemplate id
  | reject id => AdminHandler.rejectTemplate id
  | bulkApprove ids => AdminTemplateBulkHandler.bulkApprove ids
  | bulkReject ids => AdminTemplateBulkHandler.bulkReject ids
  | bulkDelete ids => AdminTemplateBulkHandler.bulkDelete ids

/-- What the handlers ask for. A template that is stored waits for its approval. -/
def Templating : {β : Type} → ServerCmd β → Prop
  | _, .uuid | _, .now => True
  | _, .db (.subscription _) | _, .db (.deleteTemplates _) => True
  | _, .db (.registry (.createTemplate tpl)) => tpl.approvalStatus = .pending
  | _, .db (.registry (.templateByID _)) | _, .db (.registry (.countTemplates _))
  | _, .db (.registry (.updateTemplate _)) | _, .db (.registry (.approveTemplate _ _))
  | _, .db (.registry (.rejectTemplate _)) | _, .db (.registry (.bulkApproveTemplates _ _))
  | _, .db (.registry (.bulkRejectTemplates _)) => True
  | _, _ => False

/-- A statement that is allowed, and then its response. -/
theorem execute_only {β : Type} {q : Query β} {failed : HttpError}
    {data : β → List (String × String)} (hq : Templating (.db q)) :
    (execute q failed data).Only Templating := by
  refine ⟨hq, fun r => ?_⟩
  cases r <;> trivial

theorem withOwn_only {who : Principal} {id : String} {next : ServerProg Answer}
    (h : next.Only Templating) : (TemplateHandler.withOwn who id next).Only Templating := by
  rw [TemplateHandler.withOwn, Prog.call_bind]
  refine ⟨trivial, fun r => ?_⟩
  match r with
  | .error _ => trivial
  | .ok none => trivial
  | .ok (some existing) =>
    dsimp only
    split_ifs
    · trivial
    · exact h

theorem getMaxTemplates_only (accountID : String) :
    (TemplateHandler.getMaxTemplates accountID).Only Templating := by
  refine ⟨trivial, fun r => ?_⟩
  match r with
  | .error _ => trivial
  | .ok none => trivial
  | .ok (some sub) => trivial

theorem store_only (accountID : String) (req : TemplateBody) :
    (TemplateHandler.store accountID req).Only Templating :=
  ⟨trivial, fun _ => ⟨trivial, fun _ => execute_only rfl⟩⟩

theorem bulk_only {q : List String → ServerProg Answer} (h : ∀ ids, (q ids).Only Templating)
    (ids : Option (List String)) : (AdminTemplateBulkHandler.bulk q ids).Only Templating := by
  match ids with
  | none => trivial
  | some [] => trivial
  | some (id :: ids) => exact h _

/-- **What the handlers ask for.** -/
theorem handle_only (c : TemplateCall) : c.handle.Only Templating := by
  cases c with
  | create who body =>
    cases body with
    | none => trivial
    | some req =>
      rw [TemplateCall.handle, TemplateHandler.create]
      refine Prog.Only.bind (getMaxTemplates_only who.accountID) fun r => ?_
      cases r with
      | error e => trivial
      | ok maxTemplates =>
        dsimp only
        rw [Prog.call_bind]
        refine ⟨trivial, fun n => ?_⟩
        cases n with
        | error e => trivial
        | ok count =>
          dsimp only
          split_ifs
          · trivial
          · exact store_only _ _
  | update who id body =>
    cases body with
    | none => trivial
    | some req => exact withOwn_only (execute_only trivial)
  | delete who id => exact withOwn_only (execute_only trivial)
  | memberCreate who body =>
    cases body with
    | none => trivial
    | some req => exact store_only _ _
  | memberUpdate who id body =>
    refine withOwn_only ?_
    cases body with
    | none => trivial
    | some req => exact execute_only trivial
  | memberDelete who id => exact withOwn_only (execute_only trivial)
  | approve id => exact ⟨trivial, fun _ => execute_only trivial⟩
  | reject id => exact execute_only trivial
  | bulkApprove ids =>
    rw [TemplateCall.handle, AdminTemplateBulkHandler.bulkApprove]
    refine bulk_only (fun _ => ?_) ids
    exact ⟨trivial, fun _ => execute_only trivial⟩
  | bulkReject ids =>
    rw [TemplateCall.handle, AdminTemplateBulkHandler.bulkReject]
    refine bulk_only (fun _ => ?_) ids
    exact execute_only trivial
  | bulkDelete ids =>
    rw [TemplateCall.handle, AdminTemplateBulkHandler.bulkDelete]
    refine bulk_only (fun _ => ?_) ids
    exact execute_only trivial

/-! ## What is reviewed -/

deriving instance DecidableEq for TemplateBody

/-- What is reviewed of a template: its name, its text and its variables. -/
def content (tpl : Template) : TemplateBody := ⟨tpl.name, tpl.body, tpl.variableNames⟩

/-- The row of a template. -/
def template? (db : Database) (id : String) : Option Template :=
  db.registry.templates.find? (·.id = id)

/-- Whether a statement approves a template. -/
def approves (id : String) : {β : Type} → ServerCmd β → Template → Bool
  | _, .db (.registry (.approveTemplate id' _)), _ => id' = id
  | _, .db (.registry (.bulkApproveTemplates ids _)), row =>
    id ∈ ids && row.approvalStatus = .pending
  | _, _, _ => false

/-- Keep what a template is at the moment of its approval. -/
def noteApproval (id : String) (_i : ℕ) {β : Type} (e : ServerCmd β) (w : World)
    (approved : Option TemplateBody) : Option TemplateBody :=
  match template? w.tick.db id with
  | none => approved
  | some row =>
    if w.next.fault.isRefused = false ∧ approves id e row = true then some (content row)
    else approved

/-- **What is approved is what was reviewed**: an approved template is as it was when it was last
approved. -/
def AsReviewed (id : String) (db : Database) (approved : Option TemplateBody) : Prop :=
  ∀ row, template? db id = some row → row.approvalStatus = .approved → approved = some (content row)

instance (id : String) (db : Database) (approved : Option TemplateBody) :
    Decidable (AsReviewed id db approved) :=
  inferInstanceAs (Decidable (∀ row ∈ template? db id, row.approvalStatus = .approved → _))

/-- What a statement writes into the row of a template. -/
def rewrites (id : String) : {β : Type} → ServerCmd β → Template → Option TemplateBody
  | _, .db (.registry (.updateTemplate tpl)), row =>
    if tpl.id = id ∧ tpl.accountID = row.accountID then some (content tpl) else none
  | _, _, _ => none

/-- A step does not rewrite an approved template, or writes what it is already. -/
def LeavesApproved (id : String) {β : Type} (e : ServerCmd β) (w : World) : Prop :=
  w.next.fault.isRefused = false → ∀ row, template? w.tick.db id = some row →
    row.approvalStatus = .approved → ∀ c, rewrites id e row = some c → c = content row

instance (id : String) {β : Type} (e : ServerCmd β) (w : World) :
    Decidable (LeavesApproved id e w) :=
  inferInstanceAs (Decidable (_ → ∀ row ∈ template? w.tick.db id, _ →
    ∀ c ∈ rewrites id e row, c = content row))

section Statements

variable {id : String}

/-- A change of rows that keeps the ids changes the row of an id. -/
theorem find?_updateWhere {p : Template → Bool} {f : Template → Template}
    (hf : ∀ t, (f t).id = t.id) (rows : List Template) :
    (updateWhere p f rows).find? (·.id = id) =
      (rows.find? (·.id = id)).map fun t => if p t then f t else t := by
  have hkeep : ((fun t : Template => decide (t.id = id)) ∘ fun t => if p t then f t else t) =
      fun t => decide (t.id = id) := by
    funext t
    rw [Function.comp_apply]
    split_ifs
    · rw [hf]
    · rfl
  rw [updateWhere, List.find?_map, hkeep]

/-- A new row is that of an id only if there was none. -/
theorem find?_insertTemplate (id : String) (r : Registry) (tpl : Template) :
    (replaced r.templates (r.insertTemplate tpl)).2.find? (·.id = id) =
        r.templates.find? (·.id = id) ∨
      (replaced r.templates (r.insertTemplate tpl)).2.find? (·.id = id) = some tpl := by
  unfold Registry.insertTemplate
  split_ifs
  · exact .inl rfl
  · exact .inl rfl
  · rw [replaced, List.find?_append]
    cases r.templates.find? (·.id = id) with
    | some row => exact .inl rfl
    | none =>
      rw [List.find?_singleton]
      split_ifs
      · exact .inr rfl
      · exact .inl rfl

/-- Rows that are deleted. -/
theorem find?_filter_ids (ids : List String) (rows : List Template) :
    (rows.filter (·.id ∉ ids)).find? (·.id = id) =
      if id ∈ ids then none else rows.find? (·.id = id) := by
  induction rows with
  | nil => simp
  | cons row rows ih =>
    by_cases hid : row.id = id
    · subst hid
      by_cases hin : row.id ∈ ids
      · rw [List.filter_cons_of_neg (by simpa using hin), ih, if_pos hin, if_pos hin]
      · rw [List.filter_cons_of_pos (by simpa using hin), if_neg hin,
          List.find?_cons_of_pos (by simp), List.find?_cons_of_pos (by simp)]
    · rw [List.find?_cons_of_neg (by simpa using hid), ← ih]
      by_cases hin : row.id ∈ ids
      · rw [List.filter_cons_of_neg (by simpa using hin)]
      · rw [List.filter_cons_of_pos (by simpa using hin),
          List.find?_cons_of_neg (by simpa using hid)]

end Statements

section Step

variable (cfg : Config) {id : String} {w : World} {approved : Option TemplateBody} {β : Type}
  {e : ServerCmd β} (i : ℕ)

variable {cfg i} in
/-- A step that leaves the row of a template as it is, or without its approval. -/
theorem reviewed_of_row (h : AsReviewed id w.tick.db approved)
    (hrow : ∀ row, template? ((server cfg).step e w).2.db id = some row →
      row.approvalStatus = .approved → template? w.tick.db id = some row)
    (happroves : ∀ row, approves id e row = false) (hrewrites : ∀ row, rewrites id e row = none) :
    AsReviewed id ((server cfg).step e w).2.db (noteApproval id i e w approved) ↔
      LeavesApproved id e w := by
  have hnote : noteApproval id i e w approved = approved := by
    unfold noteApproval
    cases template? w.tick.db id with
    | none => rfl
    | some row => exact if_neg fun hand => by simp [happroves] at hand
  rw [hnote]
  refine iff_of_true (fun row hnow hstatus => h row (hrow row hnow hstatus) hstatus) ?_
  intro _ row _ _ c hc
  rw [hrewrites] at hc
  cases hc

variable {cfg i} in
/-- A step that changes rows: it may approve that of a template, or rewrite it, but not both. -/
theorem reviewed_of_update (h : AsReviewed id w.tick.db approved)
    (hexecuted : w.next.fault.isRefused = false) {p : Template → Bool} {f g : Template → Template}
    (hrows : ((server cfg).step e w).2.db.registry.templates =
      updateWhere p f w.tick.db.registry.templates)
    (hid : ∀ row, (f row).id = row.id) (hg : ∀ row, g row = if p row then f row else row)
    (hcontent : ∀ row, row.id = id → content (g row) = (rewrites id e row).getD (content row))
    (hstatus : ∀ row, row.id = id → (g row).approvalStatus = .approved →
      approves id e row = true ∨ row.approvalStatus = .approved)
    (hrewrites : ∀ row c, rewrites id e row = some c →
      approves id e row = false ∧ (g row).approvalStatus = row.approvalStatus) :
    AsReviewed id ((server cfg).step e w).2.db (noteApproval id i e w approved) ↔
      LeavesApproved id e w := by
  have hrow : template? ((server cfg).step e w).2.db id = (template? w.tick.db id).map g := by
    rw [template?, hrows, find?_updateWhere hid, template?]
    exact congrArg (Option.map · _) (funext fun row => (hg row).symm)
  unfold AsReviewed LeavesApproved noteApproval
  rw [hrow]
  cases hthere : template? w.tick.db id with
  | none => exact iff_of_true nofun fun _ => nofun
  | some row =>
    have hmine : row.id = id := by simpa using List.find?_some hthere
    have hbefore : row.approvalStatus = .approved → approved = some (content row) := h row hthere
    simp only [Option.map_some, Option.some.injEq, forall_eq', hexecuted, true_and,
      forall_true_left]
    rw [hcontent row hmine]
    cases hwrites : rewrites id e row with
    | none =>
      refine iff_of_true (fun hnow => ?_) nofun
      rw [Option.getD_none]
      split_ifs with happroves
      · rfl
      · exact hbefore ((hstatus row hmine hnow).resolve_left happroves)
    | some c =>
      obtain ⟨happroves, hsame⟩ := hrewrites row c hwrites
      rw [happroves, hsame, Option.getD_some, if_neg Bool.false_ne_true]
      refine forall_congr' fun happroved => ?_
      rw [hbefore happroved]
      simp only [Option.some.injEq, forall_eq']
      exact eq_comm

variable {cfg i} in
/-- A step that changes the status of rows, and nothing else of them that counts. -/
theorem reviewed_of_status (h : AsReviewed id w.tick.db approved)
    (hexecuted : w.next.fault.isRefused = false) {p : Template → Bool} {f : Template → Template}
    (hrows : ((server cfg).step e w).2.db.registry.templates =
      updateWhere p f w.tick.db.registry.templates)
    (hid : ∀ row, (f row).id = row.id) (hcontent : ∀ row, content (f row) = content row)
    (hkeeps : ∀ row, rewrites id e row = none)
    (hstatus : ∀ row, row.id = id → p row = true → (f row).approvalStatus = .approved →
      approves id e row = true ∨ row.approvalStatus = .approved) :
    AsReviewed id ((server cfg).step e w).2.db (noteApproval id i e w approved) ↔
      LeavesApproved id e w := by
  refine reviewed_of_update h hexecuted hrows hid (fun _ => rfl) (fun row _ => ?_)
    (fun row hmine hnow => ?_) fun row c hc => ?_
  · rw [hkeeps, Option.getD_none]
    split_ifs
    · exact hcontent row
    · rfl
  · split_ifs at hnow with hwaits
    · exact hstatus row hmine hwaits hnow
    · exact .inr hnow
  · rw [hkeeps] at hc
    cases hc

/-- **A step keeps an approved template as it was approved** exactly if it does not rewrite it. -/
theorem reviewed_step_iff (he : Templating e) (h : AsReviewed id w.tick.db approved) :
    AsReviewed id ((server cfg).step e w).2.db (noteApproval id i e w approved) ↔
      LeavesApproved id e w := by
  cases hrefused : w.next.fault.isRefused with
  | true =>
    have hdb : ((server cfg).step e w).2.db = w.tick.db := by
      rw [step_db]
      cases e with
      | db q => rw [← step_db cfg, step_statement, hrefused, if_pos rfl]
      | _ => rfl
    have hnote : noteApproval id i e w approved = approved := by
      unfold noteApproval
      cases template? w.tick.db id with
      | none => rfl
      | some row => exact if_neg fun hand => by simp [hrefused] at hand
    rw [hdb, hnote]
    exact iff_of_true h fun hexecuted => by simp [hrefused] at hexecuted
  | false =>
    cases e with
    | db q =>
      have hdb := step_statement cfg w q
      rw [hrefused, if_neg Bool.false_ne_true] at hdb
      cases q with
      | subscription accountID =>
        exact reviewed_of_row h (fun row hrow _ => by rwa [hdb] at hrow) (fun _ => rfl) fun _ => rfl
      | deleteTemplates ids =>
        refine reviewed_of_row h (fun row hrow _ => ?_) (fun _ => rfl) fun _ => rfl
        rw [hdb] at hrow
        have hfind := hrow.symm.trans (find?_filter_ids ids w.tick.db.registry.templates)
        split_ifs at hfind
        exact hfind.symm
      | registry q =>
        cases q with
        | templateByID id' =>
          exact reviewed_of_row h (fun row hrow _ => by rwa [hdb] at hrow) (fun _ => rfl)
            fun _ => rfl
        | countTemplates accountID =>
          exact reviewed_of_row h (fun row hrow _ => by rwa [hdb] at hrow) (fun _ => rfl)
            fun _ => rfl
        | createTemplate tpl =>
          refine reviewed_of_row h (fun row hrow hstatus => ?_) (fun _ => rfl) fun _ => rfl
          rw [hdb] at hrow
          rcases find?_insertTemplate id w.tick.db.registry tpl with hold | hnew
          · exact hold.symm.trans hrow
          · obtain rfl := Option.some.inj (hnew.symm.trans hrow)
            have hpending : tpl.approvalStatus = .pending := he
            rw [hpending] at hstatus
            cases hstatus
        | updateTemplate tpl =>
          refine reviewed_of_update h hrefused (congrArg (·.registry.templates) hdb)
            (by intro _; rfl) (by intro _; rfl) (fun row hmine => ?_)
            (fun row _ hstatus => .inr ?_) fun row c _ => ⟨rfl, ?_⟩
          · by_cases hwrites : tpl.id = id ∧ tpl.accountID = row.accountID
            · simp [rewrites, content, hmine, hwrites]
            · have hnot : ¬ (id = tpl.id ∧ row.accountID = tpl.accountID) := fun hand =>
                hwrites ⟨hand.1.symm, hand.2.symm⟩
              simp [rewrites, hmine, hwrites, hnot]
          · split_ifs at hstatus <;> exact hstatus
          · split_ifs <;> rfl
        | approveTemplate id' now =>
          refine reviewed_of_status h hrefused (congrArg (·.registry.templates) hdb)
            (by intro _; rfl) (by intro _; rfl) (fun _ => rfl) fun row hmine hwaits _ => .inl ?_
          simpa [approves, hmine, eq_comm] using hwaits
        | rejectTemplate id' =>
          exact reviewed_of_status h hrefused (congrArg (·.registry.templates) hdb)
            (by intro _; rfl) (by intro _; rfl) (fun _ => rfl) fun _ _ _ hnow => by cases hnow
        | bulkApproveTemplates ids now =>
          refine reviewed_of_status h hrefused (congrArg (·.registry.templates) hdb)
            (by intro _; rfl) (by intro _; rfl) (fun _ => rfl) fun row hmine hwaits _ => .inl ?_
          exact hmine ▸ hwaits
        | bulkRejectTemplates ids =>
          exact reviewed_of_status h hrefused (congrArg (·.registry.templates) hdb)
            (by intro _; rfl) (by intro _; rfl) (fun _ => rfl) fun _ _ _ hnow => by cases hnow
        | _ => exact he.elim
      | _ => exact he.elim
    | now => exact reviewed_of_row h (fun row hrow _ => hrow) (fun _ => rfl) fun _ => rfl
    | uuid => exact reviewed_of_row h (fun row hrow _ => hrow) (fun _ => rfl) fun _ => rfl
    | _ => exact he.elim

end Step

/-! ## Any requests -/

/-- Nothing else that runs on the server touches the row of a template. -/
def SparedTemplate (id : String) (w : World) : Prop :=
  ∀ t ∈ w.env, ∀ s : Shared, template? (t.others s).db id = template? s.db id

namespace SparedTemplate

variable {id : String} {w : World}

theorem tick (h : SparedTemplate id w) : template? w.tick.db id = template? w.db id := by
  unfold World.tick World.next
  cases henv : w.env with
  | nil => rfl
  | cons t ts => exact h t (henv ▸ List.mem_cons_self) w.toShared

theorem step (cfg : Config) {β : Type} (h : SparedTemplate id w) (e : ServerCmd β) :
    SparedTemplate id ((server cfg).step e w).2 := by
  intro t ht
  rw [step_env] at ht
  exact h t (List.mem_of_mem_tail ht)

end SparedTemplate

/-- The requests, each in a thread of its own. -/
def templating (calls : List TemplateCall) (w : World) : Pool ServerCmd World Answer :=
  .start (calls.map TemplateCall.handle) w

/-- **What is approved is what was reviewed, all along a run**, exactly if no step of it rewrites
the template while it is approved. -/
theorem reviewed_iff (cfg : Config) (id : String) (calls : List TemplateCall) (w : World)
    (approved : Option TemplateBody) (sched : List ℕ) (hspared : SparedTemplate id w)
    (h : AsReviewed id w.db approved) :
    (∀ past rest, sched = past ++ rest →
        AsReviewed id ((templating calls w).run (server cfg) past).state.db
          (Pool.noted (server cfg) (noteApproval id) (templating calls w) approved past)) ↔
      Pool.EachNoted (server cfg) (noteApproval id) (fun P _ _ {_} e => LeavesApproved id e P.state)
        (templating calls w) approved sched := by
  refine Pool.forall_past_iff_of_only (A := Templating) (J := SparedTemplate id)
    (I := fun v approved => AsReviewed id v.db approved) ?_ ?_ ?_ hspared h sched
  · intro p hp
    obtain ⟨c, -, rfl⟩ := List.mem_map.1 hp
    exact handle_only c
  · exact fun e v _ hv => hv.step cfg e
  · intro β e v approved i he hv hreviewed
    refine reviewed_step_iff cfg i he ?_
    unfold AsReviewed
    rw [hv.tick]
    exact hreviewed

/-! ## One template -/

/-- A server with a template that waits for its approval. -/
def oneTemplate : World where
  db := ⟨[], [], [], [], [], [], [], [], [], [],
    { Registry.empty with
      templates := [⟨"template-1", "account-1", "welcome", "Hello", [], .pending, none, 0⟩] }⟩
  redis _ := none
  streams _ := Stream.empty
  antiStarvationCnt := 0
  breakers _ := none
  history _ := []
  flags := []
  clock := 0
  env := []

/-- A template is approved, and its owner writes it. -/
def approveAndWrite (body : TemplateBody) : List TemplateCall :=
  [.approve "template-1", .memberUpdate ⟨"account-1", false⟩ "template-1" (some body)]

/-- The owner writes the same text again. -/
theorem reviewed_same_text :
    Pool.EachNoted (server .default) (noteApproval "template-1")
        (fun P _ _ {_} e => LeavesApproved "template-1" e P.state)
        (templating (approveAndWrite ⟨"welcome", "Hello", []⟩) oneTemplate) none [0, 0, 1, 1] ∧
      ∀ past rest, [0, 0, 1, 1] = past ++ rest →
        AsReviewed "template-1"
          ((templating (approveAndWrite ⟨"welcome", "Hello", []⟩) oneTemplate).run (server .default)
            past).state.db
          (Pool.noted (server .default) (noteApproval "template-1")
            (templating (approveAndWrite ⟨"welcome", "Hello", []⟩) oneTemplate) none past) :=
  have hleaves : Pool.EachNoted (server .default) (noteApproval "template-1")
      (fun P _ _ {_} e => LeavesApproved "template-1" e P.state)
      (templating (approveAndWrite ⟨"welcome", "Hello", []⟩) oneTemplate) none [0, 0, 1, 1] := by
    decide
  ⟨hleaves, (reviewed_iff .default "template-1" _ oneTemplate none [0, 0, 1, 1]
    (fun _ ht => absurd ht List.not_mem_nil) (by decide)).2 hleaves⟩

/-- The owner writes another text, which counts as approved. -/
theorem approved_unreviewed :
    let P := (templating (approveAndWrite ⟨"welcome", "Win money", []⟩) oneTemplate).run
      (server .default) [0, 0, 1, 1]
    (template? P.state.db "template-1").map (fun row => (row.approvalStatus, row.body)) =
        some (.approved, "Win money") ∧
      ¬ ∀ past rest, [0, 0, 1, 1] = past ++ rest →
        AsReviewed "template-1"
          ((templating (approveAndWrite ⟨"welcome", "Win money", []⟩) oneTemplate).run
            (server .default) past).state.db
          (Pool.noted (server .default) (noteApproval "template-1")
            (templating (approveAndWrite ⟨"welcome", "Win money", []⟩) oneTemplate) none past) :=
  ⟨by decide, fun hall => absurd (hall [0, 0, 1, 1] [] rfl) (by decide)⟩

end AeroxeBee.Admin
