import AeroxeBee.Foundations.Registers
import AeroxeBee.Tenants.Hooks

/-!
# Webhooks are kept for their accounts

The requests about webhooks are served at once, and statements fail with and without having been executed.

* `outcome_step`: what may come of a command;
* `Keeping.step`: every step keeps what holds of the webhooks;
* `webhooks_kept`: in every run of any requests, what becomes of a webhook is what its account and the staff
  have asked for, no change that was answered is undone by an earlier one, and members are told of no
  webhook but those of their account.
-/

namespace AeroxeBee.Tenants.Hooks

open Foundations Dispatch.Webhooks Accounts

/-! ## What commands make of the rows -/

section Rows

variable {s : HookState} {β : Type}

@[simp] theorem HookState.tick_webhooks (s : HookState) : s.tick.2.webhooks = s.webhooks := by
  unfold HookState.tick
  split <;> rfl

@[simp] theorem HookState.tick_newID (s : HookState) : s.tick.2.newID = s.newID := by
  unfold HookState.tick
  split <;> rfl

@[simp] theorem HookState.tick_drawn (s : HookState) : s.tick.2.drawn = s.drawn := by
  unfold HookState.tick
  split <;> rfl

/-- A statement is not executed, or it is and perhaps the reply is lost. -/
theorem HookState.statement_cases {α : Type} (run : HookState → Except String α × HookState) :
    let r := s.statement run
    (r.2 = s.tick.2 ∧ r.1.isOk = false) ∨
      (r.2 = (run s.tick.2).2 ∧ (r.1 = (run s.tick.2).1 ∨ r.1.isOk = false)) := by
  intro r
  have hr : r = s.tick.1.fault.apply id id run s.tick.2 := rfl
  cases hfault : s.tick.1.fault with
  | none =>
    rw [hfault] at hr
    exact .inr ⟨by rw [hr]; rfl, .inl (by rw [hr]; rfl)⟩
  | refused text =>
    rw [hfault] at hr
    exact .inl ⟨by rw [hr]; rfl, by rw [hr]; rfl⟩
  | lost text =>
    rw [hfault] at hr
    exact .inr ⟨by rw [hr]; rfl, .inr (by rw [hr]; rfl)⟩

/-- The rows of which the ones with an id are changed. -/
def changed (id : String) (f : Webhook → Webhook) (rows : List Webhook) : List Webhook :=
  updateWhere (fun w => decide (w.id = id)) f rows

/-- What a command stores in the columns that say where a webhook is and what it is told. -/
def settle (url : String) (events : List String) (active : Bool) (w : Webhook) : Webhook :=
  { w with url := url, events := events, active := active }

/-- The rows after a command that has been executed. -/
def HookState.rowsAfter (s : HookState) : {β : Type} → HookCmd β → List Webhook
  | _, .create accountID url events secret active =>
    s.webhooks ++ [⟨s.newID s.drawn, accountID, url, events, secret, active⟩]
  | _, .update id url (some events) active => changed id (settle url events active) s.webhooks
  | _, .delete id => s.webhooks.filter fun w => !decide (w.id = id)
  | _, .deleteAll ids => s.webhooks.filter fun w => !decide (w.id ∈ ids)
  | _, .rotateSecret id secret => changed id (fun w => { w with secret := secret }) s.webhooks
  | _, _ => s.webhooks

/-- How many ids a command draws that is executed. -/
def draws : {β : Type} → HookCmd β → ℕ
  | _, .create _ _ _ _ _ => 1
  | _, _ => 0

/-- The reply does not say that a change has been made. -/
def Unsure : {β : Type} → HookCmd β → β → Prop
  | _, .create _ _ _ _ _, b => b.isOk = false
  | _, .update _ _ _ _, b => b.isOk = false
  | _, .delete _, b => b.isOk = false
  | _, .deleteAll _, b => b.isOk = false
  | _, .rotateSecret _ _, b => b.isOk = false
  | _, _, _ => True

/-- What may come of a command: nothing, with no reply that says otherwise, or what it asks for. -/
def Outcome (s s' : HookState) {β : Type} (e : HookCmd β) (b : β) : Prop :=
  s'.newID = s.newID ∧
    (s'.webhooks = s.webhooks ∧ s.drawn ≤ s'.drawn ∧ Unsure e b ∨
      s'.webhooks = s.rowsAfter e ∧ s'.drawn = s.drawn + draws e)

/-- The outcome of a statement, from that of its execution. -/
theorem outcome_statement {α : Type} {e : HookCmd (Except String α)}
    {run : HookState → Except String α × HookState}
    (hunsure : ∀ b : Except String α, b.isOk = false → Unsure e b)
    (h : Outcome s (run s.tick.2).2 e (run s.tick.2).1) :
    Outcome s (s.statement run).2 e (s.statement run).1 := by
  rcases s.statement_cases run with ⟨hs, hb⟩ | ⟨hs, hb⟩
  · rw [hs]
    exact ⟨s.tick_newID, .inl ⟨s.tick_webhooks, (HookState.tick_drawn s).ge, hunsure _ hb⟩⟩
  · rw [hs]
    refine ⟨h.1, ?_⟩
    rcases h.2 with ⟨hrows, hdrawn, hnot⟩ | hdone
    · rcases hb with hb | hb
      · exact .inl ⟨hrows, hdrawn, hb ▸ hnot⟩
      · exact .inl ⟨hrows, hdrawn, hunsure _ hb⟩
    · exact .inr hdone

/-- The outcome of a command that changes no row. -/
theorem outcome_of_same {s' : HookState} {e : HookCmd β} {b : β} (hnewID : s'.newID = s.newID)
    (hrows : s'.webhooks = s.webhooks) (hdrawn : s'.drawn = s.drawn) (hunsure : Unsure e b) :
    Outcome s s' e b :=
  ⟨hnewID, .inl ⟨hrows, hdrawn.ge, hunsure⟩⟩

/-- **What may come of every command.** -/
theorem outcome_step (e : HookCmd β) (s : HookState) :
    Outcome s (hookServer.step e s).2 e (hookServer.step e s).1 := by
  cases e with
  | now | uuid | random | post =>
    exact outcome_of_same s.tick_newID s.tick_webhooks s.tick_drawn trivial
  | byID | byAccount =>
    exact outcome_statement (fun _ _ => trivial)
      (outcome_of_same s.tick_newID s.tick_webhooks s.tick_drawn trivial)
  | deliveries webhookID limit =>
    refine outcome_statement (fun _ _ => trivial) ?_
    dsimp only
    split <;> exact outcome_of_same s.tick_newID s.tick_webhooks s.tick_drawn trivial
  | create accountID url events secret active =>
    refine outcome_statement (fun _ h => h) ?_
    unfold HookState.insert
    dsimp only
    split_ifs with hused haccount hlong
    · exact ⟨s.tick_newID, .inl ⟨s.tick_webhooks, by simp, rfl⟩⟩
    · exact ⟨s.tick_newID, .inl ⟨s.tick_webhooks, by simp, rfl⟩⟩
    · exact ⟨s.tick_newID, .inr ⟨by simp [HookState.rowsAfter], by simp [draws]⟩⟩
    · exact ⟨s.tick_newID, .inl ⟨s.tick_webhooks, by simp, rfl⟩⟩
  | update id url events active =>
    refine outcome_statement (fun _ h => h) ?_
    cases events with
    | none => exact outcome_of_same s.tick_newID s.tick_webhooks s.tick_drawn rfl
    | some events =>
      dsimp only
      split_ifs
      · exact outcome_of_same s.tick_newID s.tick_webhooks s.tick_drawn rfl
      · refine ⟨s.tick_newID, .inr ⟨?_, s.tick_drawn⟩⟩
        rw [HookState.change, s.tick_webhooks]
        rfl
  | delete id =>
    refine outcome_statement (fun _ h => h) ⟨s.tick_newID, .inr ⟨?_, s.tick_drawn⟩⟩
    rw [HookState.without, s.tick_webhooks]
    rfl
  | deleteAll ids =>
    refine outcome_statement (fun _ h => h) ⟨s.tick_newID, .inr ⟨?_, s.tick_drawn⟩⟩
    rw [HookState.without, s.tick_webhooks]
    rfl
  | rotateSecret id secret =>
    refine outcome_statement (fun _ h => h) ⟨s.tick_newID, .inr ⟨?_, s.tick_drawn⟩⟩
    rw [HookState.change, s.tick_webhooks]
    rfl

/-- A statement that is answered has been executed. -/
theorem HookState.of_answered {α : Type} {run : HookState → Except String α × HookState} {b : α}
    (h : (s.statement run).1 = .ok b) : (run s.tick.2).1 = .ok b := by
  rcases s.statement_cases run with ⟨-, hb⟩ | ⟨-, hb | hb⟩
  · rw [h] at hb
    cases hb
  · exact hb.symm.trans h
  · rw [h] at hb
    cases hb

/-- A lookup tells what is in the table. -/
theorem of_byID {id : String} {w : Webhook} (h : (hookServer.step (.byID id) s).1 = .ok (some w)) :
    w.id = id ∧ w ∈ s.webhooks := by
  have hfind : s.tick.2.webhooks.find? (·.id = id) = some w := Except.ok.inj (HookState.of_answered h)
  rw [s.tick_webhooks] at hfind
  exact ⟨by simpa using List.find?_some hfind, List.mem_of_find?_eq_some hfind⟩

theorem of_byAccount {accountID : String} {webhooks : List Webhook}
    (h : (hookServer.step (.byAccount accountID) s).1 = .ok webhooks) :
    ∀ w ∈ webhooks, w.accountID = accountID := by
  have hlist : (s.tick.2.webhooks.filter (·.accountID = accountID)).reverse = webhooks :=
    Except.ok.inj (HookState.of_answered h)
  intro w hw
  rw [← hlist, List.mem_reverse, List.mem_filter] at hw
  simpa using hw.2

theorem of_deliveries {webhookID : String} {limit : ℕ} {rows : List WebhookDelivery}
    (h : (hookServer.step (.deliveries webhookID limit) s).1 = .ok rows) :
    ∀ d ∈ rows, d.webhookID = webhookID := by
  have hreply := HookState.of_answered h
  dsimp only at hreply
  split at hreply
  · cases hreply
  · intro d hd
    rw [← Except.ok.inj hreply] at hd
    have hmem := (List.mem_insertionSort _).1 (List.mem_of_mem_take hd)
    simpa using (List.mem_filter.1 hmem).2

/-- A part of a list holds what the list does. -/
theorem mem_of_slice {α : Type} {items part : List α} {start stop : ℤ} {a : α}
    (h : slice items start stop = .ok part) (ha : a ∈ part) : a ∈ items := by
  unfold slice at h
  split_ifs at h
  rw [← Except.ok.inj h] at ha
  exact List.mem_of_mem_drop (List.mem_of_mem_take ha)

theorem mem_changed {id : String} {f : Webhook → Webhook} {rows : List Webhook} {w : Webhook} :
    w ∈ changed id f rows ↔ ∃ old ∈ rows, w = if old.id = id then f old else old := by
  simp only [changed, updateWhere, List.mem_map, decide_eq_true_eq]
  exact exists_congr fun old => and_congr_right' eq_comm

end Rows

/-! ## Every run -/

section Run

/-- The events of a run. -/
abbrev HookLog := List (ℕ × Event HookCmd)

/-- Where a webhook is and what it is told. -/
def settings (w : Webhook) : String × List String × Bool := (w.url, w.events, w.active)

/-- The settings that a command gives the webhook with an id. -/
def HookCmd.settingsFor (id : String) : {β : Type} → HookCmd β → Option (String × List String × Bool)
  | _, .update id' url (some events) active => if id' = id then some (url, events, active) else none
  | _, _ => none

/-- The secret that a command gives the webhook with an id. -/
def HookCmd.secretFor (id : String) : {β : Type} → HookCmd β → Option String
  | _, .rotateSecret id' secret => if id' = id then some secret else none
  | _, _ => none

/-- The reply says that a change has been made. -/
def Answered (x : ℕ × Event HookCmd) : Prop := ¬ Unsure x.2.cmd x.2.val

/-- The command changes the webhook with an id. -/
def HookCmd.Changes (id : String) {β : Type} (e : HookCmd β) : Prop :=
  (e.settingsFor id).isSome ∨ (e.secretFor id).isSome

/-- What a command stores is what the request asks for, or was drawn for it. -/
def Request.Asks (r : Request) (evs : List (Event HookCmd)) : {β : Type} → HookCmd β → Prop
  | _, .update _ url events active => ∃ id, r.action? = some (.update id (some ⟨url, events, active⟩))
  | _, .rotateSecret _ secret => Drawn evs secret
  | _, _ => True

variable (calls : List Request) (before : List Webhook)

/-- A change was made for somebody who may make it. -/
def Due (log : HookLog) (accountID : String) (x : ℕ × Event HookCmd) : Prop :=
  ∃ r, calls[x.1]? = some r ∧ r.Manages accountID ∧ r.Asks (Pool.eventsOf x.1 log) x.2.cmd

/-- What a webhook was at first, and what has happened since: it was there in the beginning, or it was made
for an account. -/
inductive Began : HookLog → Webhook → HookLog → Prop
  | old {log : HookLog} {first : Webhook} (h : first ∈ before) : Began log first log
  | made {past since : HookLog} {first : Webhook} {i : ℕ} {r : Request} {b : Except String Unit}
      (hr : calls[i]? = some r) (hacts : r.Acts first.accountID)
      (hdrawn : Drawn (Pool.eventsOf i past) first.secret) (hnew : ∀ w ∈ before, w.id ≠ first.id) :
      Began (past ++ (i, ⟨.create first.accountID first.url first.events first.secret first.active, b⟩) ::
        since) first since

/-- **What has become of a webhook**: it is still of its account, all that has changed it was due, and its
settings and its secret are the first ones or those of a change that no answered one has followed. -/
def Traced (log : HookLog) (row : Webhook) : Prop :=
  ∃ first since, Began calls before log first since ∧ first.id = row.id ∧
    first.accountID = row.accountID ∧
    (∀ x ∈ since, x.2.cmd.Changes row.id → Due calls log row.accountID x) ∧
    Register.Holds (·.2.cmd.settingsFor row.id) Answered (settings first) since (settings row) ∧
    Register.Holds (·.2.cmd.secretFor row.id) Answered first.secret since row.secret

/-- Somebody who may do so has had a webhook deleted. -/
def Deleted (log : HookLog) (row : Webhook) : Prop :=
  ∃ i r, calls[i]? = some r ∧ r.Manages row.accountID ∧
    ((∃ b, (i, (⟨.delete row.id, b⟩ : Event HookCmd)) ∈ log) ∨
      ∃ ids b, row.id ∈ ids ∧ (i, (⟨.deleteAll ids, b⟩ : Event HookCmd)) ∈ log)

/-- A webhook was looked up. -/
def ToldOf (log : HookLog) (w : Webhook) : Prop :=
  ∃ i id, (i, (⟨.byID id, .ok (some w)⟩ : Event HookCmd)) ∈ log

/-- An answer tells of no webhook but those of an account. -/
def Own (log : HookLog) (accountID : String) : HookAnswer → Prop
  | .shown w => w.accountID = accountID
  | .listed (.ok page) _ => ∀ w ∈ page, w.accountID = accountID
  | .delivered rows => ∀ d ∈ rows, ∃ w, ToldOf log w ∧ w.id = d.webhookID ∧ w.accountID = accountID
  | _ => True

variable {calls before} {log more : HookLog} {row old w : Webhook} {x : ℕ × Event HookCmd}
  {accountID : String}

theorem Drawn.mono {evs evs' : List (Event HookCmd)} {secret : String} (h : Drawn evs secret)
    (hsub : evs ⊆ evs') : Drawn evs' secret := by
  obtain ⟨drawn, hmem, hsecret⟩ := h
  exact ⟨drawn, hsub hmem, hsecret⟩

theorem eventsOf_subset (i : ℕ) (log more : HookLog) :
    Pool.eventsOf i log ⊆ Pool.eventsOf i (log ++ more) := by
  rw [Pool.eventsOf_append]
  exact List.subset_append_left _ _

theorem Due.append (h : Due calls log accountID x) : Due calls (log ++ more) accountID x := by
  obtain ⟨i, ⟨e, b⟩⟩ := x
  obtain ⟨r, hr, hmanages, hasks⟩ := h
  refine ⟨r, hr, hmanages, ?_⟩
  cases e with
  | rotateSecret id secret => exact Drawn.mono hasks (eventsOf_subset _ _ _)
  | _ => exact hasks

theorem Began.append {first : Webhook} {since : HookLog} (h : Began calls before log first since) :
    Began calls before (log ++ more) first (since ++ more) := by
  cases h with
  | old hmem => exact .old hmem
  | made hr hacts hdrawn hnew =>
    rw [List.append_assoc, List.cons_append]
    exact .made hr hacts hdrawn hnew

theorem Deleted.append (h : Deleted calls log row) : Deleted calls (log ++ more) row := by
  obtain ⟨i, r, hr, hmanages, hdeleted⟩ := h
  refine ⟨i, r, hr, hmanages, ?_⟩
  rcases hdeleted with ⟨b, hmem⟩ | ⟨ids, b, hid, hmem⟩
  · exact .inl ⟨b, List.mem_append_left _ hmem⟩
  · exact .inr ⟨ids, b, hid, List.mem_append_left _ hmem⟩

theorem ToldOf.append (h : ToldOf log w) : ToldOf (log ++ more) w := by
  obtain ⟨i, id, hmem⟩ := h
  exact ⟨i, id, List.mem_append_left _ hmem⟩

/-- A webhook after one more command, which may have changed it. -/
theorem Traced.step (h : Traced calls before log old) (hid : row.id = old.id)
    (haccount : row.accountID = old.accountID)
    (hdue : x.2.cmd.Changes row.id → Due calls log row.accountID x)
    (hsettings : x.2.cmd.settingsFor row.id = some (settings row) ∨
      settings row = settings old ∧ ((x.2.cmd.settingsFor row.id).isSome → ¬ Answered x))
    (hsecret : x.2.cmd.secretFor row.id = some row.secret ∨
      row.secret = old.secret ∧ ((x.2.cmd.secretFor row.id).isSome → ¬ Answered x)) :
    Traced calls before (log ++ [x]) row := by
  obtain ⟨first, since, hbegan, hfirst, howner, hall, hheld, hkept⟩ := h
  refine ⟨first, since ++ [x], hbegan.append, hfirst.trans hid.symm, howner.trans haccount.symm, ?_, ?_, ?_⟩
  · intro y hy hchanges
    rcases List.mem_append.1 hy with hy | hy
    · rw [hid] at hchanges
      rw [haccount]
      exact (hall y hy hchanges).append
    · obtain rfl := List.mem_singleton.1 hy
      exact (hdue hchanges).append
  · rw [← hid] at hheld
    exact hheld.step hsettings
  · rw [← hid] at hkept
    exact hkept.step hsecret

/-! ### What holds while the requests are served -/

/-- The rows have different ids, and the store draws ids that are new. -/
structure Fresh (s : HookState) : Prop where
  nodup : (s.webhooks.map Webhook.id).Nodup
  injective : Function.Injective s.newID
  unused : ∀ w ∈ s.webhooks, ∀ k, s.drawn ≤ k → w.id ≠ s.newID k

/-- A webhook was there in the beginning, or was looked up. -/
def Known (s : HookState) (log : HookLog) (w : Webhook) : Prop := w ∈ s.webhooks ∨ ToldOf log w

/-- An id was there in the beginning, or has been drawn. -/
def Used (s : HookState) (drawn : ℕ) (id : String) : Prop :=
  (∃ w ∈ s.webhooks, w.id = id) ∨ ∃ k < drawn, id = s.newID k

variable (calls) in
/-- What holds while the requests are served. -/
structure Keeping (s : HookState) (P : Pool HookCmd HookState HookAnswer) : Prop where
  newID : P.state.newID = s.newID
  drawn : s.drawn ≤ P.state.drawn
  nodup : (P.state.webhooks.map Webhook.id).Nodup
  used : ∀ w, w ∈ P.state.webhooks ∨ Known s P.log w → Used s P.state.drawn w.id
  /-- A webhook stays with its account. -/
  owner : ∀ w, Known s P.log w → ∀ row ∈ P.state.webhooks, row.id = w.id → row.accountID = w.accountID
  byID : ∀ i id w, (i, (⟨.byID id, .ok (some w)⟩ : Event HookCmd)) ∈ P.log → w.id = id
  byAccount : ∀ i accountID ws, (i, (⟨.byAccount accountID, .ok ws⟩ : Event HookCmd)) ∈ P.log →
    ∀ w ∈ ws, w.accountID = accountID
  deliveries : ∀ i id limit rows, (i, (⟨.deliveries id limit, .ok rows⟩ : Event HookCmd)) ∈ P.log →
    ∀ d ∈ rows, d.webhookID = id
  traced : ∀ row ∈ P.state.webhooks, Traced calls s.webhooks P.log row
  gone : ∀ row ∈ s.webhooks, (∃ row' ∈ P.state.webhooks, row'.id = row.id) ∨ Deleted calls P.log row

section Step

variable {s : HookState} {P : Pool HookCmd HookState HookAnswer} {i : ℕ} {β : Type} {e : HookCmd β}
  {r : Request} {svc : HookServices}

theorem keeping_start (hfresh : Fresh s) :
    Keeping calls s (Pool.start (calls.map (Request.handle svc)) s) where
  newID := rfl
  drawn := le_rfl
  nodup := hfresh.nodup
  used w hw := by
    rcases hw with hw | hw | ⟨i, id, hmem⟩
    · exact .inl ⟨w, hw, rfl⟩
    · exact .inl ⟨w, hw, rfl⟩
    · cases hmem
  owner w hw row hrow hid := by
    rcases hw with hw | ⟨i, id, hmem⟩
    · rw [List.inj_on_of_nodup_map hfresh.nodup hrow hw hid]
    · cases hmem
  byID _ _ _ h := by cases h
  byAccount _ _ _ h := by cases h
  deliveries _ _ _ _ h := by cases h
  traced row hrow := ⟨row, [], .old hrow, rfl, rfl, fun x h => absurd h List.not_mem_nil, .start, .start⟩
  gone row hrow := .inl ⟨row, hrow, rfl⟩

/-- An id that is used is not drawn. -/
theorem Used.ne {drawn : ℕ} {id : String} (h : Used s drawn id) (hfresh : Fresh s) (hle : s.drawn ≤ drawn) :
    id ≠ s.newID drawn := by
  rcases h with ⟨w, hw, rfl⟩ | ⟨k, hk, rfl⟩
  · exact hfresh.unused w hw drawn hle
  · intro heq
    have hsame := hfresh.injective heq
    omega

theorem Used.mono {drawn drawn' : ℕ} {id : String} (h : Used s drawn id) (hle : drawn ≤ drawn') :
    Used s drawn' id :=
  h.imp_right fun ⟨k, hk, hid⟩ => ⟨k, hk.trans_le hle, hid⟩

/-- A row after a command is one of before, perhaps changed, or a new one. -/
theorem origin_of_mem {row : Webhook} (h : row ∈ s.rowsAfter e) :
    (∃ old ∈ s.webhooks, row.id = old.id ∧ row.accountID = old.accountID) ∨
      row.id = s.newID s.drawn ∧ draws e = 1 := by
  have hchanged (id : String) (f : Webhook → Webhook) (hid : ∀ w, (f w).id = w.id)
      (hf : ∀ w, (f w).accountID = w.accountID) (hmem : row ∈ changed id f s.webhooks) :
      ∃ old ∈ s.webhooks, row.id = old.id ∧ row.accountID = old.accountID := by
    obtain ⟨old, hold, rfl⟩ := mem_changed.1 hmem
    refine ⟨old, hold, ?_⟩
    split_ifs
    · exact ⟨hid old, hf old⟩
    · exact ⟨rfl, rfl⟩
  cases e with
  | create accountID url events secret active =>
    rcases List.mem_append.1 h with hold | hnew
    · exact .inl ⟨row, hold, rfl, rfl⟩
    · rw [List.mem_singleton.1 hnew]
      exact .inr ⟨rfl, rfl⟩
  | update id url events active =>
    cases events with
    | none => exact .inl ⟨row, h, rfl, rfl⟩
    | some events => exact .inl (hchanged id (settle url events active) (fun _ => rfl) (fun _ => rfl) h)
  | rotateSecret id secret =>
    exact .inl (hchanged id (fun w => { w with secret := secret }) (fun _ => rfl) (fun _ => rfl) h)
  | delete id => exact .inl ⟨row, List.mem_of_mem_filter h, rfl, rfl⟩
  | deleteAll ids => exact .inl ⟨row, List.mem_of_mem_filter h, rfl, rfl⟩
  | _ => exact .inl ⟨row, h, rfl, rfl⟩

/-- The ids of the rows after a command are different if the new one is. -/
theorem nodup_rowsAfter (hnodup : (s.webhooks.map Webhook.id).Nodup)
    (hnew : ∀ w ∈ s.webhooks, w.id ≠ s.newID s.drawn) : ((s.rowsAfter e).map Webhook.id).Nodup := by
  have hchanged (id : String) {f : Webhook → Webhook} (hid : ∀ w, (f w).id = w.id) :
      ((changed id f s.webhooks).map Webhook.id).Nodup := by
    have hmap : (changed id f s.webhooks).map Webhook.id = s.webhooks.map Webhook.id := by
      rw [changed, updateWhere, List.map_map]
      refine List.map_congr_left fun w _ => ?_
      by_cases h : w.id = id <;> simp [h, hid]
    rwa [hmap]
  cases e with
  | create accountID url events secret active =>
    rw [HookState.rowsAfter, List.map_append, List.nodup_append]
    refine ⟨hnodup, by simp, ?_⟩
    intro a ha b hb
    obtain ⟨w, hw, rfl⟩ := List.mem_map.1 ha
    simp only [List.map_cons, List.map_nil, List.mem_singleton] at hb
    rw [hb]
    exact hnew w hw
  | update id url events active =>
    cases events with
    | none => exact hnodup
    | some events => exact hchanged id fun _ => rfl
  | rotateSecret id secret => exact hchanged id fun _ => rfl
  | delete id => exact hnodup.sublist (List.filter_sublist.map _)
  | deleteAll ids => exact hnodup.sublist (List.filter_sublist.map _)
  | _ => exact hnodup

/-- Whoever acts on a webhook may do so. -/
theorem Keeping.manages (h : Keeping calls s P) {id : String}
    (hfound : r.Found (Pool.eventsOf i P.log) id) {row : Webhook} (hrow : row ∈ P.state.webhooks)
    (hid : row.id = id) : r.Manages row.accountID := by
  cases r with
  | staff adminID a => trivial
  | bulkDelete ids => trivial
  | member accountID a =>
    obtain ⟨w, ⟨id', hmem, hw⟩, howner⟩ := hfound accountID a rfl
    have htold := Pool.mem_eventsOf.1 hmem
    have hsame : id = w.id := by
      rcases hw with rfl | hw
      · exact (h.byID i id w htold).symm
      · exact hw
    exact howner.symm.trans (h.owner w (.inr ⟨i, id', htold⟩) row hrow (hid.trans hsame)).symm

/-- A change of a webhook is due. -/
theorem Keeping.due (h : Keeping calls s P) (hr : calls[i]? = some r)
    (hallows : r.Allows (Pool.eventsOf i P.log) e) (b : β) {row : Webhook}
    (hrow : row ∈ P.state.webhooks) (hchanges : e.Changes row.id) :
    Due calls P.log row.accountID (i, ⟨e, b⟩) := by
  cases e with
  | update id url events active =>
    have hid : id = row.id := by
      by_contra hne
      cases events <;> simp [HookCmd.Changes, HookCmd.settingsFor, HookCmd.secretFor, hne] at hchanges
    exact ⟨r, hr, h.manages hallows.1 hrow hid.symm, hallows.2⟩
  | rotateSecret id secret =>
    have hid : id = row.id := by
      by_contra hne
      simp [HookCmd.Changes, HookCmd.settingsFor, HookCmd.secretFor, hne] at hchanges
    exact ⟨r, hr, h.manages hallows.1 hrow hid.symm, hallows.2⟩
  | _ => simp [HookCmd.Changes, HookCmd.settingsFor, HookCmd.secretFor] at hchanges

/-- A row that a command leaves as it is. -/
theorem Keeping.traced_same (h : Keeping calls s P) (hr : calls[i]? = some r)
    (hallows : r.Allows (Pool.eventsOf i P.log) e) (b : β) {row : Webhook}
    (hrow : row ∈ P.state.webhooks) (hnot : e.Changes row.id → Unsure e b) :
    Traced calls s.webhooks (P.log ++ [(i, ⟨e, b⟩)]) row :=
  (h.traced row hrow).step rfl rfl (h.due hr hallows b hrow)
    (.inr ⟨rfl, fun hsome hans => hans (hnot (.inl hsome))⟩)
    (.inr ⟨rfl, fun hsome hans => hans (hnot (.inr hsome))⟩)

/-- The rows that a command leaves when it is executed. -/
theorem Keeping.traced_after (hfresh : Fresh s) (h : Keeping calls s P) (hr : calls[i]? = some r)
    (hallows : r.Allows (Pool.eventsOf i P.log) e) (b : β) {row : Webhook}
    (hrow : row ∈ P.state.rowsAfter e) : Traced calls s.webhooks (P.log ++ [(i, ⟨e, b⟩)]) row := by
  have hsame {old : Webhook} (hold : old ∈ P.state.webhooks) (hnot : ¬ e.Changes old.id) :
      Traced calls s.webhooks (P.log ++ [(i, ⟨e, b⟩)]) old :=
    h.traced_same hr hallows b hold fun hchanges => absurd hchanges hnot
  cases e with
  | create accountID url events secret active =>
    rcases List.mem_append.1 hrow with hold | hnew
    · exact hsame hold (by simp [HookCmd.Changes, HookCmd.settingsFor, HookCmd.secretFor])
    · obtain rfl := List.mem_singleton.1 hnew
      have hnew : ∀ w ∈ s.webhooks, w.id ≠ P.state.newID P.state.drawn := by
        intro w hw
        rw [h.newID]
        exact hfresh.unused w hw _ h.drawn
      have hbegan := @Began.made calls s.webhooks P.log []
        ⟨P.state.newID P.state.drawn, accountID, url, events, secret, active⟩ i r b hr hallows.1 hallows.2 hnew
      exact ⟨_, [], hbegan, rfl, rfl, fun x hx => absurd hx List.not_mem_nil, .start, .start⟩
  | update id url events active =>
    cases events with
    | none => exact hsame hrow (by simp [HookCmd.Changes, HookCmd.settingsFor, HookCmd.secretFor])
    | some events =>
      obtain ⟨old, hold, rfl⟩ := mem_changed.1 hrow
      have hdue := h.due hr hallows b hold
      split_ifs with hid
      · exact (h.traced old hold).step rfl rfl hdue
          (.inl (by simp [HookCmd.settingsFor, settings, settle, hid]))
          (.inr ⟨rfl, by simp [HookCmd.secretFor]⟩)
      · exact hsame hold (by
          simp [HookCmd.Changes, HookCmd.settingsFor, HookCmd.secretFor, Ne.symm hid])
  | rotateSecret id secret =>
    obtain ⟨old, hold, rfl⟩ := mem_changed.1 hrow
    have hdue := h.due hr hallows b hold
    split_ifs with hid
    · exact (h.traced old hold).step rfl rfl hdue
        (.inr ⟨rfl, by simp [HookCmd.settingsFor]⟩) (.inl (by simp [HookCmd.secretFor, hid]))
    · exact hsame hold (by
        simp [HookCmd.Changes, HookCmd.settingsFor, HookCmd.secretFor, Ne.symm hid])
  | delete id =>
    exact hsame (List.mem_of_mem_filter hrow)
      (by simp [HookCmd.Changes, HookCmd.settingsFor, HookCmd.secretFor])
  | deleteAll ids =>
    exact hsame (List.mem_of_mem_filter hrow)
      (by simp [HookCmd.Changes, HookCmd.settingsFor, HookCmd.secretFor])
  | _ => exact hsame hrow (by simp [HookCmd.Changes, HookCmd.settingsFor, HookCmd.secretFor])

variable {s' : HookState} {b : β}

theorem Outcome.drawn_le (h : Outcome s s' e b) : s.drawn ≤ s'.drawn := by
  rcases h.2 with ⟨-, hle, -⟩ | ⟨-, hdrawn⟩
  · exact hle
  · omega

/-- A row after a command comes from one of before, or has a new id. -/
theorem Outcome.origin (h : Outcome s s' e b) {row : Webhook} (hrow : row ∈ s'.webhooks) :
    (∃ old ∈ s.webhooks, row.id = old.id ∧ row.accountID = old.accountID) ∨
      row.id = s.newID s.drawn ∧ s.drawn < s'.drawn := by
  rcases h.2 with ⟨hrows, -, -⟩ | ⟨hrows, hdrawn⟩
  · rw [hrows] at hrow
    exact .inl ⟨row, hrow, rfl, rfl⟩
  · rw [hrows] at hrow
    exact (origin_of_mem hrow).imp_right fun ⟨hid, hone⟩ => ⟨hid, by omega⟩

/-- Who owns the rows after a command. -/
theorem Keeping.owner_after (hfresh : Fresh s) (h : Keeping calls s P) (ho : Outcome P.state s' e b)
    {w : Webhook} (hw : w ∈ P.state.webhooks ∨ Known s P.log w) {row : Webhook}
    (hrow : row ∈ s'.webhooks) (hid : row.id = w.id) : row.accountID = w.accountID := by
  rcases ho.origin hrow with ⟨old, hold, hsame, haccount⟩ | ⟨hnew, -⟩
  · rw [haccount]
    rcases hw with hmem | hknown
    · rw [List.inj_on_of_nodup_map h.nodup hold hmem (hsame.symm.trans hid)]
    · exact h.owner w hknown old hold (hsame.symm.trans hid)
  · rw [hid, h.newID] at hnew
    exact absurd hnew ((h.used w hw).ne hfresh h.drawn)

/-- A row that is there no longer has been deleted by somebody who may do so. -/
theorem Keeping.gone_after (h : Keeping calls s P) (hr : calls[i]? = some r)
    (hallows : r.Allows (Pool.eventsOf i P.log) e) (ho : Outcome P.state s' e b) {row : Webhook}
    (hrow : row ∈ s.webhooks) : (∃ row' ∈ s'.webhooks, row'.id = row.id) ∨
      Deleted calls (P.log ++ [(i, ⟨e, b⟩)]) row := by
  rcases h.gone row hrow with ⟨row', hrow', hid⟩ | hdeleted
  swap
  · exact .inr hdeleted.append
  have hmanages (hfound : r.Found (Pool.eventsOf i P.log) row.id) : r.Manages row.accountID := by
    rw [← h.owner row (.inl hrow) row' hrow' hid]
    exact h.manages hfound hrow' hid
  rcases ho.2 with ⟨hrows, -, -⟩ | ⟨hrows, -⟩
  · exact .inl ⟨row', hrows ▸ hrow', hid⟩
  · have hchanged (id : String) (f : Webhook → Webhook) (hf : ∀ w, (f w).id = w.id) :
        ∃ row' ∈ changed id f P.state.webhooks, row'.id = row.id := by
      refine ⟨if row'.id = id then f row' else row', mem_changed.2 ⟨row', hrow', rfl⟩, ?_⟩
      split_ifs
      · exact (hf row').trans hid
      · exact hid
    rw [hrows]
    cases e with
    | create accountID url events secret active =>
      exact .inl ⟨row', List.mem_append_left _ hrow', hid⟩
    | update id url events active =>
      cases events with
      | none => exact .inl ⟨row', hrow', hid⟩
      | some events => exact .inl (hchanged id (settle url events active) fun _ => rfl)
    | rotateSecret id secret =>
      exact .inl (hchanged id (fun w => { w with secret := secret }) fun _ => rfl)
    | delete id =>
      by_cases hthis : row.id = id
      · subst hthis
        exact .inr ⟨i, r, hr, hmanages hallows, .inl ⟨b, by simp⟩⟩
      · exact .inl ⟨row', List.mem_filter.2 ⟨hrow', by simpa [hid] using hthis⟩, hid⟩
    | deleteAll ids =>
      by_cases hthis : row.id ∈ ids
      · obtain rfl : r = .bulkDelete (some ids) := hallows
        exact .inr ⟨i, _, hr, trivial, .inr ⟨ids, b, hthis, by simp⟩⟩
      · exact .inl ⟨row', List.mem_filter.2 ⟨hrow', by simpa [hid] using hthis⟩, hid⟩
    | _ => exact .inl ⟨row', hrow', hid⟩

/-- What the last event says of a lookup is the reply. -/
theorem reply_of_mem {γ : Type} {e' : HookCmd γ} {c : γ} {j : ℕ}
    (h : (j, (⟨e', c⟩ : Event HookCmd)) ∈ P.log ++ [(i, ⟨e, (hookServer.step e P.state).1⟩)]) :
    (j, (⟨e', c⟩ : Event HookCmd)) ∈ P.log ∨ (hookServer.step e' P.state).1 = c :=
  (List.mem_append.1 h).imp_right fun hnew => step_of_event_eq (Prod.mk.inj (List.mem_singleton.1 hnew)).2

/-- What is known after a command was known before it, or is in the table. -/
theorem known_of_known {w : Webhook}
    (h : Known s (P.log ++ [(i, ⟨e, (hookServer.step e P.state).1⟩)]) w) :
    w ∈ P.state.webhooks ∨ Known s P.log w := by
  rcases h with hw | ⟨j, id, hmem⟩
  · exact .inr (.inl hw)
  · rcases reply_of_mem hmem with hold | hreply
    · exact .inr (.inr ⟨j, id, hold⟩)
    · exact .inl (of_byID hreply).2

/-- **Every step keeps the webhooks.** -/
theorem Keeping.step (hfresh : Fresh s) (h : Keeping calls s P) (hr : calls[i]? = some r)
    (hallows : r.Allows (Pool.eventsOf i P.log) e) (k : β → HookProg HookAnswer) :
    Keeping calls s (P.advance hookServer i e k) := by
  have ho := outcome_step e P.state
  refine ⟨ho.1.trans h.newID, h.drawn.trans ho.drawn_le, ?_, ?_, ?_, ?_, ?_, ?_, ?_, ?_⟩
  · rcases ho.2 with ⟨hrows, -, -⟩ | ⟨hrows, -⟩
    · rw [Pool.advance, hrows]
      exact h.nodup
    · rw [Pool.advance, hrows]
      refine nodup_rowsAfter h.nodup fun w hw => ?_
      rw [h.newID]
      exact (h.used w (.inl hw)).ne hfresh h.drawn
  · intro w hw
    have hold (hw : w ∈ P.state.webhooks ∨ Known s P.log w) :
        Used s (P.advance hookServer i e k).state.drawn w.id := (h.used w hw).mono ho.drawn_le
    rcases hw with hmem | hknown
    · rcases ho.origin hmem with ⟨old, hmem', hid, -⟩ | ⟨hid, hlt⟩
      · rw [hid]
        exact (h.used old (.inl hmem')).mono ho.drawn_le
      · rw [hid, h.newID]
        exact .inr ⟨_, hlt, rfl⟩
    · exact hold (known_of_known hknown)
  · intro w hw row hrow hid
    exact h.owner_after hfresh ho (known_of_known hw) hrow hid
  · intro j id w hmem
    rcases reply_of_mem hmem with hold | hreply
    · exact h.byID j id w hold
    · exact (of_byID hreply).1
  · intro j accountID ws hmem
    rcases reply_of_mem hmem with hold | hreply
    · exact h.byAccount j accountID ws hold
    · exact of_byAccount hreply
  · intro j id limit rows hmem
    rcases reply_of_mem hmem with hold | hreply
    · exact h.deliveries j id limit rows hold
    · exact of_deliveries hreply
  · intro row hrow
    rcases ho.2 with ⟨hrows, -, hunsure⟩ | ⟨hrows, -⟩
    · rw [Pool.advance, hrows] at hrow
      exact h.traced_same hr hallows _ hrow fun _ => hunsure
    · rw [Pool.advance, hrows] at hrow
      exact h.traced_after hfresh hr hallows _ hrow
  · intro row hrow
    exact h.gone_after hr hallows ho hrow

variable (calls svc) in
/-- The run of some requests. -/
def served (s : HookState) (sched : List ℕ) : Pool HookCmd HookState HookAnswer :=
  (Pool.start (calls.map (Request.handle svc)) s).run hookServer sched

theorem keeping_run (hfresh : Fresh s) (sched : List ℕ) : Keeping calls s (served calls svc s sched) := by
  refine Pool.run_labelled_inv (Request.handle svc) calls s sched (keeping_start hfresh)
    fun P i r β e k hr hf h => ?_
  have hallows := ((handle_heeds r).of_follows hf).1
  rw [List.nil_append] at hallows
  exact h.step hfresh hr hallows k

/-- What a member is told when the request has been answered. -/
theorem own_of_returned (hfresh : Fresh s) (sched : List ℕ) {a : Action}
    (hi : calls[i]? = some (.member accountID a)) {ans : HookAnswer}
    (hret : (served calls svc s sched).threads[i]? = some (.ret ans)) :
    Own (served calls svc s sched).log accountID ans := by
  have h := @keeping_run calls s svc hfresh sched
  obtain ⟨r, hr, hf⟩ := Pool.follows (Request.handle svc) calls s sched hret
  rw [hi] at hr
  cases hr
  have hshows := (handle_heeds (Request.member accountID a)).of_follows hf
  rw [List.nil_append] at hshows
  cases ans with
  | shown w =>
    obtain ⟨id, -, howner⟩ := hshows accountID a rfl
    exact howner
  | listed page total =>
    obtain ⟨webhooks, pg, hmem, hpage⟩ := hshows accountID a rfl
    cases page with
    | error e => trivial
    | ok page =>
      intro w hw
      exact h.byAccount i accountID webhooks (Pool.mem_eventsOf.1 hmem) w (mem_of_slice hpage.symm hw)
  | delivered rows =>
    obtain ⟨id, limit, hfound, hmem⟩ := hshows
    obtain ⟨w, ⟨id', htold, hid⟩, howner⟩ := hfound accountID a rfl
    intro d hd
    have hsame : w.id = id := by
      rcases hid with rfl | hid
      · exact h.byID i id w (Pool.mem_eventsOf.1 htold)
      · exact hid.symm
    have hrow := h.deliveries i id limit rows (Pool.mem_eventsOf.1 hmem) d hd
    exact ⟨w, ⟨i, id', Pool.mem_eventsOf.1 htold⟩, hsame.trans hrow.symm, howner⟩
  | _ => trivial

/-- **The webhooks of an account are its own**: in every run of any requests, whatever fails, each webhook
was there in the beginning or was made for its account, with a secret drawn for it; what has changed it was
asked for by a member of its account or by the staff; its settings and its secret are the first ones or
those of such a change, and no change that was answered has been undone by an earlier one; a webhook that
is there no longer was deleted for a member of its account or for the staff; and members are shown no
webhook, and no delivery to one, but those of their account. -/
theorem webhooks_kept (hfresh : Fresh s) (sched : List ℕ) :
    (∀ row ∈ (served calls svc s sched).state.webhooks,
        Traced calls s.webhooks (served calls svc s sched).log row) ∧
      (∀ row ∈ s.webhooks, (∃ row' ∈ (served calls svc s sched).state.webhooks, row'.id = row.id) ∨
        Deleted calls (served calls svc s sched).log row) ∧
      ∀ (i : ℕ) (accountID : String) (a : Action) (ans : HookAnswer), calls[i]? = some (.member accountID a) →
        (served calls svc s sched).threads[i]? = some (.ret ans) →
          Own (served calls svc s sched).log accountID ans := by
  have h := @keeping_run calls s svc hfresh sched
  exact ⟨h.traced, h.gone, fun i accountID a ans hi hret => own_of_returned hfresh sched hi hret⟩

/-- The webhook of an account, in a store whose new ids are other texts. -/
def oneHook : HookState where
  accounts := ["acme"]
  webhooks := [⟨"hook", "acme", "https://old", ["message.delivered"], "first", true⟩]
  columns := insertColumns
  webhookDeliveries := []
  newID k := String.ofList (List.replicate k 'w')
  drawn := 0
  env := []

theorem fresh_oneHook : Fresh oneHook where
  nodup := by decide
  injective k l h := by simpa [oneHook] using congrArg String.length h
  unused w hw k _ := by
    obtain rfl := List.mem_singleton.1 hw
    intro h
    have hmem : 'h' ∈ (String.ofList (List.replicate k 'w')).toList := by
      rw [← show "hook" = String.ofList (List.replicate k 'w') from h]
      decide
    rw [String.toList_ofList] at hmem
    cases List.eq_of_mem_replicate hmem

/-- Somebody of another account tries to change the webhook while its owner gives it another address. -/
theorem oneHook_kept :
    let svc : HookServices := ⟨⟨⟨5, 1, 1⟩, fun _ => .ok [], fun _ _ => "", fun _ => none⟩, fun _ => .ok []⟩
    let calls : List Request :=
      [.member "acme" (.update "hook" (some ⟨"https://new", some ["message.delivered"], true⟩)),
        .member "other" (.update "hook" (some ⟨"https://other", some [], false⟩))]
    let row : Webhook := ⟨"hook", "acme", "https://new", ["message.delivered"], "first", true⟩
    (served calls svc oneHook [1, 0, 0, 1]).state.webhooks = [row] ∧
      Traced calls oneHook.webhooks (served calls svc oneHook [1, 0, 0, 1]).log row := by
  intro svc calls row
  have hrows : (served calls svc oneHook [1, 0, 0, 1]).state.webhooks = [row] := by decide
  refine ⟨hrows, (webhooks_kept fresh_oneHook [1, 0, 0, 1]).1 row ?_⟩
  rw [hrows]
  exact List.mem_singleton.2 rfl

end Step

/-! ### Changes that were answered -/

/-- What has become of a webhook that was there in the beginning. -/
theorem Traced.of_old (h : Traced calls before log row) (hold : ∃ w ∈ before, w.id = row.id) :
    ∃ first ∈ before, first.id = row.id ∧
      Register.Holds (·.2.cmd.settingsFor row.id) Answered (settings first) log (settings row) ∧
      Register.Holds (·.2.cmd.secretFor row.id) Answered first.secret log row.secret := by
  obtain ⟨first, since, hbegan, hid, -, -, hheld, hkept⟩ := h
  cases hbegan with
  | old hmem => exact ⟨first, hmem, hid, hheld, hkept⟩
  | made hr hacts hdrawn hnew =>
    obtain ⟨w, hw, hsame⟩ := hold
    exact absurd (hsame.trans hid.symm) (hnew w hw)

/-- **A new secret that was answered** is only followed by another one: no change of the settings brings
the old one back. -/
theorem Traced.secret_of_answered (h : Traced calls before log row) (hold : ∃ w ∈ before, w.id = row.id)
    {past : HookLog} {i : ℕ} {secret : String}
    (hlog : log = past ++ (i, ⟨.rotateSecret row.id secret, .ok ()⟩) :: more) :
    row.secret = secret ∨ ∃ x ∈ more, x.2.cmd.secretFor row.id = some row.secret := by
  obtain ⟨first, -, -, -, hkept⟩ := h.of_old hold
  rw [hlog] at hkept
  exact hkept.of_answered (by simp [HookCmd.secretFor]) fun hunsure => by cases hunsure

/-- **Settings whose change was answered** are only followed by those of another change. -/
theorem Traced.settings_of_answered (h : Traced calls before log row)
    (hold : ∃ w ∈ before, w.id = row.id) {past : HookLog} {i : ℕ} {url : String} {events : List String}
    {active : Bool} (hlog : log = past ++ (i, ⟨.update row.id url (some events) active, .ok ()⟩) :: more) :
    settings row = (url, events, active) ∨ ∃ x ∈ more, x.2.cmd.settingsFor row.id = some (settings row) := by
  obtain ⟨first, -, -, hheld, -⟩ := h.of_old hold
  rw [hlog] at hheld
  exact hheld.of_answered (by simp [HookCmd.settingsFor]) fun hunsure => by cases hunsure

end Run

end AeroxeBee.Tenants.Hooks
