import AeroxeBee.Api.Bulk
import AeroxeBee.Foundations.Paging

/-!
# The history of an account in pages

The messages of an account are listed with the newest first, page by page, and each page is a query of
its own. The query does not say in which order messages that were created at one time are to be
listed, so the database may list them in another order on every page.

* `mayList_run`: the list that the model of the database returns is one that it may return;
* `tiledHistory_iff`: every message is listed once, whatever the database does, exactly if no page ends
  between two messages that were created at one time.
-/

namespace AeroxeBee.Api

open Foundations.Paging

variable {db : Database} {accountID statusFilter typeFilter : String} {pageSize : ℕ}

/-- When a message was created, which is what messages are ordered by. -/
def createdAt (m : Message) : ℤ := m.createdAt.nanos

/-- What the database may answer when the messages of an account are listed. -/
def MayList (db : Database) (accountID : String) (offset limit : ℤ)
    (statusFilter typeFilter : String) (answer : Except String (List Message)) : Prop :=
  ∃ found, IsOrdered createdAt (db.filteredMessages accountID statusFilter typeFilter) found ∧
    answer =
      if limit < 0 then .error "LIMIT must not be negative"
      else if offset < 0 then .error "OFFSET must not be negative"
      else .ok ((found.drop offset.toNat).take limit.toNat)

theorem mayList_run (db : Database) (accountID : String) (offset limit : ℤ)
    (statusFilter typeFilter : String) :
    MayList db accountID offset limit statusFilter typeFilter
      ((Query.listByAccountFiltered accountID offset limit statusFilter typeFilter).run db).1 := by
  refine ⟨_, isOrdered_insertionSort createdAt _, ?_⟩
  have horder : (fun a b : Message => Query.newestFirst a b = true) =
      fun a b => createdAt b ≤ createdAt a := by
    funext a b
    exact decide_eq_true_eq
  simp only [Query.run, horder]

/-- A page of a size may be what that page of some order is. -/
theorem mayList_page_iff {k : ℕ} {listed : List Message} :
    MayList db accountID (k * pageSize : ℕ) pageSize statusFilter typeFilter (.ok listed) ↔
      ∃ found, IsOrdered createdAt (db.filteredMessages accountID statusFilter typeFilter) found ∧
        listed = page pageSize k found := by
  have hlimit : ¬ (pageSize : ℤ) < 0 := by omega
  have hoffset : ¬ ((k * pageSize : ℕ) : ℤ) < 0 := by omega
  simp only [MayList, if_neg hlimit, if_neg hoffset, Int.toNat_natCast, Except.ok.injEq, page]

/-- **The pages of the history of an account tile it**: whatever the database answers when the pages
are listed one after the other, each message is listed once, and as many are listed as are counted. -/
def TiledHistory (db : Database) (accountID statusFilter typeFilter : String) (pageSize : ℕ) : Prop :=
  ∀ pages : ℕ → List Message,
    (∀ k : ℕ, MayList db accountID (k * pageSize : ℕ) pageSize statusFilter typeFilter
      (.ok (pages k))) →
    ∀ n, (db.filteredMessages accountID statusFilter typeFilter).length ≤ n * pageSize →
      ((List.range n).flatMap pages).Perm (db.filteredMessages accountID statusFilter typeFilter) ∧
        (Query.countByAccountFiltered accountID statusFilter typeFilter).run db =
          (.ok ((List.range n).flatMap pages).length, db)

/-- The messages of an account are different ones. -/
theorem nodup_filteredMessages (hids : (db.messages.map Message.id).Nodup) :
    (db.filteredMessages accountID statusFilter typeFilter).Nodup :=
  (hids.of_map _).filter _ |>.filter _

/-- It is enough that the messages are listed once. -/
theorem tiledHistory_iff_read :
    TiledHistory db accountID statusFilter typeFilter pageSize ↔
      ∀ orders : ℕ → List Message,
        (∀ k, IsOrdered createdAt (db.filteredMessages accountID statusFilter typeFilter)
          (orders k)) →
        ∀ n, (db.filteredMessages accountID statusFilter typeFilter).length ≤ n * pageSize →
          (read pageSize orders n).Perm
            (db.filteredMessages accountID statusFilter typeFilter) := by
  constructor
  · intro h orders horders n hall
    exact (h (fun k => page pageSize k (orders k))
      (fun k => mayList_page_iff.2 ⟨orders k, horders k, rfl⟩) n hall).1
  · intro h pages hpages n hall
    choose orders horders hread using fun k => mayList_page_iff.1 (hpages k)
    obtain rfl := funext hread
    have hperm := h orders horders n hall
    refine ⟨hperm, ?_⟩
    rw [Query.run, ← hperm.length_eq]
    rfl

theorem not_tiledHistory (hids : (db.messages.map Message.id).Nodup) {k : ℕ}
    (hsize : 0 < pageSize) (hsplit : Splits createdAt
      (db.filteredMessages accountID statusFilter typeFilter) (k * pageSize)) :
    ¬ TiledHistory db accountID statusFilter typeFilter pageSize := fun h =>
  (read_perm_iff (nodup_filteredMessages hids) hsize).1 (tiledHistory_iff_read.1 h) k hsplit

/-- **The pages of the history of an account tile it** exactly if no page ends between two messages
that were created at one time. -/
theorem tiledHistory_iff (db : Database) (accountID statusFilter typeFilter : String)
    (pageSize : ℕ) (hids : (db.messages.map Message.id).Nodup) (hsize : 0 < pageSize) :
    TiledHistory db accountID statusFilter typeFilter pageSize ↔
      ∀ k, ¬ Splits createdAt (db.filteredMessages accountID statusFilter typeFilter)
        (k * pageSize) :=
  tiledHistory_iff_read.trans (read_perm_iff (nodup_filteredMessages hids) hsize)

/-- The tables after a request to two recipients. -/
def bulkSent : Database := (sentTwice bothQueued).state.db

/-- A page that holds both messages tiles the history. -/
theorem tiledHistory_bulkSent : TiledHistory bulkSent "account-1" "" "" 2 := by
  refine (tiledHistory_iff bulkSent "account-1" "" "" 2 (by decide) (by decide)).2 ?_
  rintro k ⟨a, -, hlt, hgt⟩
  have hlen : (bulkSent.filteredMessages "account-1" "" "").length = 2 := by decide
  have hle := hgt.trans_le (List.countP_le_length.trans_eq hlen)
  omega

/-- A page that ends between them does not. -/
theorem bulkSent_not_tiledHistory : ¬ TiledHistory bulkSent "account-1" "" "" 1 := by
  have hids : (bulkSent.messages.map Message.id).Nodup := by decide
  have hsplit : Splits createdAt (bulkSent.filteredMessages "account-1" "" "") (1 * 1) := by
    decide
  exact not_tiledHistory hids Nat.one_pos hsplit

end AeroxeBee.Api
