import Mathlib.Data.Int.Notation
import Mathlib.Data.List.Perm.Basic
import AeroxeBee.Foundations.Selecting

/-!
# What queries answer

Rows that a database may list when it is sent the text of a query and its arguments, and how many it counts.
A program collects conditions with their arguments, and counts the arguments on the way.

* `MayList`, `MayCount`: what a database may answer to a text with arguments;
* `Where.Selects`: conditions that have been collected admit the rows that pass some tests; `Selects.addIf`
  is the rule for one more condition;
* `Selects.mayList_iff`, `Selects.mayCount_iff`: what is answered when these are the conditions of a query.
-/

namespace Foundations.Selecting

open Statement

/-! ## Rows and values -/

/-- A source of rows: the words for it, its columns, and what stands in them. A cell may be empty. -/
structure Source (ρ κ : Type) where
  words : List Statement.Token
  columns : List String
  cell : String → ρ → Option κ

/-- What arguments and texts are among the values of a column, and the order of values. -/
structure Values (α κ : Type) where
  encode : String → α → Except String κ
  constant : String → String → κ
  dayAfter : String → α → Except String κ
  like : α → Except String (κ → Bool)
  number : α → Except String ℤ
  le : κ → κ → Bool

section Answers

variable {α ρ κ : Type}

/-- What is made of the argument of a placeholder. -/
def withArgument {β : Type} (args : List α) (n : ℕ) (f : α → Except String β) : Except String β :=
  (argument args n).elim (.error "there is no such parameter") f

/-- What an operand is among the values of a column. -/
def Operand.value (v : Values α κ) (args : List α) (column : String) : Operand → Except String κ
  | arg n => withArgument args n (v.encode column)
  | text w => .ok (v.constant column w)
  | dayAfter n => withArgument args n (v.dayAfter column)

variable [DecidableEq κ]

/-- Whether two values are compared in this way. -/
def Relation.holds (v : Values α κ) : Relation → κ → κ → Bool
  | eq, x, y => x = y
  | ne, x, y => x ≠ y
  | ge, x, y => v.le y x
  | le, x, y => v.le x y

/-- Which rows have a text in a column. -/
def likeTest (src : Source ρ κ) (v : Values α κ) (args : List α) (like : String × ℕ) :
    Except String (ρ → Bool) :=
  (fun p row => (src.cell like.1 row).any p) <$> withArgument args like.2 v.like

/-- Which rows a condition admits. An empty cell passes no comparison. -/
def Condition.test (src : Source ρ κ) (v : Values α κ) (args : List α) :
    Condition → Except String (ρ → Bool)
  | always => .ok fun _ => true
  | compare column rel operand =>
    (fun k row => (src.cell column row).any (rel.holds v · k)) <$> operand.value v args column
  | anyLike likes =>
    (fun tests row => tests.any fun f => f row) <$> likes.mapM (likeTest src v args)

/-- The columns of a condition. -/
def Condition.columns : Condition → List String
  | always => []
  | compare column _ _ => [column]
  | anyLike likes => likes.map Prod.fst

/-- The placeholders of a condition. -/
def Condition.placeholders : Condition → List ℕ
  | always => []
  | compare _ _ (.arg n) | compare _ _ (.dayAfter n) => [n]
  | compare _ _ (.text _) => []
  | anyLike likes => likes.map Prod.snd

/-- A cell comes before another one, or stands with it. Empty cells come last when going up. -/
def cellLe (v : Values α κ) : Option κ → Option κ → Bool
  | _, none => true
  | none, some _ => false
  | some x, some y => v.le x y

/-- A row comes before another one, or stands with it. -/
def Before (src : Source ρ κ) (v : Values α κ) : List (String × Bool) → ρ → ρ → Bool
  | [], _, _ => true
  | (c, desc) :: keys, a, b =>
    let ahead :=
      if desc then cellLe v (src.cell c b) (src.cell c a) else cellLe v (src.cell c a) (src.cell c b)
    let behind :=
      if desc then cellLe v (src.cell c a) (src.cell c b) else cellLe v (src.cell c b) (src.cell c a)
    ahead && (!behind || Before src v keys a b)

/-- The bound that an argument gives, which must not be negative. -/
def bound (v : Values α κ) (args : List α) : Option ℕ → Except String (Option ℕ)
  | none => .ok none
  | some n => withArgument args n fun a =>
    (v.number a).bind fun z => if z < 0 then .error "must not be negative" else .ok (some z.toNat)

/-- What is selected when rows are counted. -/
def countTokens : List Statement.Token := [.word "COUNT", .sign '(', .sign '*', .sign ')']

namespace Query

/-- The placeholders of a query. -/
def placeholders (q : Query) : List ℕ :=
  q.conditions.flatMap Condition.placeholders ++ (q.limit.toList ++ q.offset.toList)

/-- A query is one of a source, and uses each of its arguments. -/
structure Fits (q : Query) (src : Source ρ κ) (args : List α) : Prop where
  source : q.source = src.words
  columns : ∀ c ∈ q.conditions.flatMap Condition.columns ++ q.order.map Prod.fst, c ∈ src.columns
  placeholders : ∀ n, n ∈ q.placeholders ↔ 1 ≤ n ∧ n ≤ args.length

/-- Which rows all conditions admit. -/
def test (q : Query) (src : Source ρ κ) (v : Values α κ) (args : List α) : Except String (ρ → Bool) :=
  (fun tests row => tests.all fun f => f row) <$> q.conditions.mapM (Condition.test src v args)

/-- A database may list these rows. -/
structure Lists (q : Query) (src : Source ρ κ) (v : Values α κ) (args : List α) (rows listed : List ρ) :
    Prop where
  fits : q.Fits src args
  lists : ∃ f limit offset, q.test src v args = .ok f ∧ bound v args q.limit = .ok limit ∧
    bound v args q.offset = .ok offset ∧ ∃ found : List ρ, found.Perm (rows.filter f) ∧
      found.Pairwise (fun a b => Before src v q.order a b) ∧
      listed = limit.elim (found.drop (offset.getD 0)) (found.drop (offset.getD 0)).take

/-- A database counts so many rows. -/
structure Counts (q : Query) (src : Source ρ κ) (v : Values α κ) (args : List α) (rows : List ρ) (n : ℕ) :
    Prop where
  what : q.what = countTokens
  plain : q.order = [] ∧ q.limit = none ∧ q.offset = none
  fits : q.Fits src args
  counts : ∃ f, q.test src v args = .ok f ∧ n = rows.countP f

end Query

/-- A database may list these rows when it is sent a text that selects something. -/
def MayList (text : String) (what : List Statement.Token) (src : Source ρ κ) (v : Values α κ) (args : List α)
    (rows listed : List ρ) : Prop :=
  ∃ q, readQuery (lex text) = some q ∧ q.what = what ∧ q.Lists src v args rows listed

/-- A database may answer so many rows to a text. -/
def MayCount (text : String) (src : Source ρ κ) (v : Values α κ) (args : List α) (rows : List ρ) (n : ℕ) :
    Prop :=
  ∃ q, readQuery (lex text) = some q ∧ q.Counts src v args rows n

/-- **A part of the rows that pass a test**, in an order. -/
def Part (test : ρ → Bool) (before : ρ → ρ → Bool) (limit : ℤ) (offset : Option ℤ) (rows listed : List ρ) :
    Prop :=
  0 ≤ limit ∧ (∀ o ∈ offset, 0 ≤ o) ∧ ∃ found : List ρ, found.Perm (rows.filter test) ∧
    found.Pairwise (fun a b => before a b) ∧
    listed = (found.drop (offset.getD 0).toNat).take limit.toNat

/-! ## Conditions that are collected -/

/-- Conditions with their arguments, and the number of the next one. -/
structure Where (α : Type) where
  conditions : List String
  args : List α
  argIdx : ℕ

/-- Add a condition on an argument. -/
def Where.add (d : Where α) (text : ℕ → String) (a : α) : Where α :=
  ⟨d.conditions ++ [text d.argIdx], d.args ++ [a], d.argIdx + 1⟩

/-- Add a condition on an argument in some cases. -/
def Where.addIf (d : Where α) (p : Prop) [Decidable p] (text : ℕ → String) (a : α) : Where α :=
  if p then d.add text a else d

/-- Add a condition without an argument in some cases. -/
def Where.addText (d : Where α) (p : Prop) [Decidable p] (text : String) : Where α :=
  if p then { d with conditions := d.conditions ++ [text] } else d

/-- Whatever number an argument has, a condition admits the rows that pass a test. -/
def Means (src : Source ρ κ) (v : Values α κ) (text : ℕ → String) (a : α) (f : ρ → Bool) : Prop :=
  ∀ n, ∃ c, IsCondition (text n) c ∧ (∀ x ∈ c.columns, x ∈ src.columns) ∧
    (∀ m, m ∈ c.placeholders ↔ m = n) ∧
    ∀ args, argument args n = some a → c.test src v args = .ok f

/-- A condition without an argument admits the rows that pass a test. -/
def MeansAlways (src : Source ρ κ) (v : Values α κ) (text : String) (f : ρ → Bool) : Prop :=
  ∃ c, IsCondition text c ∧ (∀ x ∈ c.columns, x ∈ src.columns) ∧ c.placeholders = [] ∧
    ∀ args, c.test src v args = .ok f

/-- What has been collected: some conditions, which admit the rows that pass some tests whatever arguments
come after theirs. -/
structure Where.Collects (d : Where α) (src : Source ρ κ) (v : Values α κ) (cs : List Condition)
    (tests : List (ρ → Bool)) : Prop where
  read : List.Forall₂ IsCondition d.conditions cs
  columns : ∀ c ∈ cs.flatMap Condition.columns, c ∈ src.columns
  placeholders : ∀ n, n ∈ cs.flatMap Condition.placeholders ↔ 1 ≤ n ∧ n ≤ d.args.length
  argIdx : d.argIdx = d.args.length + 1
  means : List.Forall₂ (fun c f => ∀ more, c.test src v (d.args ++ more) = .ok f) cs tests

/-- The conditions that have been collected admit the rows that pass some tests. -/
def Where.Selects (d : Where α) (src : Source ρ κ) (v : Values α κ) (tests : List (ρ → Bool)) : Prop :=
  ∃ cs, d.Collects src v cs tests

section Rules

variable {src : Source ρ κ} {v : Values α κ} {d : Where α} {tests : List (ρ → Bool)} {a : α} {f : ρ → Bool}
  {text : ℕ → String} {column : String} {rel : Relation} {k : κ}

theorem argument_append (args more : List α) (a : α) :
    argument (args ++ a :: more) (args.length + 1) = some a := by
  simp [argument]

theorem withArgument_of {β : Type} {args : List α} {n : ℕ} (h : argument args n = some a)
    (f : α → Except String β) : withArgument args n f = f a := by
  rw [withArgument, h]
  rfl

/-- **A column is compared with an argument.** -/
theorem Means.arg {pre : String} (hpre : IsPrefix pre column rel) (hcolumn : column ∈ src.columns)
    (ha : v.encode column a = .ok k) :
    Means src v (fun n => pre ++ placeholder n) a
      (fun row => (src.cell column row).any (rel.holds v · k)) := by
  intro n
  refine ⟨_, hpre.arg n, by simpa [Condition.columns] using hcolumn, by simp [Condition.placeholders], ?_⟩
  intro args hargs
  rw [Condition.test, Operand.value, withArgument_of hargs, ha]
  rfl

/-- A column is compared with the end of the day after an argument. -/
theorem Means.dayAfter {pre : String} (hpre : IsPrefix pre column rel) (hcolumn : column ∈ src.columns)
    (ha : v.dayAfter column a = .ok k) :
    Means src v (fun n => pre ++ (placeholder n ++ "::date + INTERVAL '1 day'")) a
      (fun row => (src.cell column row).any (rel.holds v · k)) := by
  intro n
  refine ⟨_, hpre.dayAfter n, by simpa [Condition.columns] using hcolumn,
    by simp [Condition.placeholders], ?_⟩
  intro args hargs
  rw [Condition.test, Operand.value, withArgument_of hargs, ha]
  rfl

/-- **A text is looked for in two columns.** -/
theorem Means.anyLike {pre mid post column' : String} {p : κ → Bool}
    (hread : ∀ n, IsCondition (pre ++ placeholder n ++ mid ++ placeholder n ++ post)
      (.anyLike [(column, n), (column', n)]))
    (hcolumns : column ∈ src.columns ∧ column' ∈ src.columns) (ha : v.like a = .ok p) :
    Means src v (fun n => pre ++ placeholder n ++ mid ++ placeholder n ++ post) a
      (fun row => (src.cell column row).any p || (src.cell column' row).any p) := by
  intro n
  refine ⟨_, hread n, by simpa [Condition.columns] using hcolumns, by simp [Condition.placeholders], ?_⟩
  intro args hargs
  have hlike : ∀ c, likeTest src v args (c, n) = .ok fun row => (src.cell c row).any p := by
    intro c
    rw [likeTest, withArgument_of hargs, ha]
    rfl
  rw [Condition.test, List.mapM_cons, List.mapM_cons, hlike, hlike]
  simp only [List.mapM_nil]
  exact congrArg Except.ok (funext fun row => by simp)

/-- A column is compared with a text. -/
theorem MeansAlways.compare {pre post w : String} (hpre : IsPrefix pre column rel)
    (hlex : lex post = [.sign quote, .word w, .sign quote]) (hw : w ≠ "AND" ∧ w ≠ "ORDER")
    (hcolumn : column ∈ src.columns) :
    MeansAlways src v (pre ++ post)
      (fun row => (src.cell column row).any (rel.holds v · (v.constant column w))) :=
  ⟨_, hpre.text hlex hw, by simpa [Condition.columns] using hcolumn, rfl, fun _ => rfl⟩

theorem Where.Selects.nil : (⟨[], [], 1⟩ : Where α).Selects src v [] :=
  ⟨[], .nil, by simp, by simp; omega, rfl, .nil⟩

theorem Where.Selects.always : (⟨["1=1"], [], 1⟩ : Where α).Selects src v [fun _ => true] :=
  ⟨[.always], .cons isCondition_always .nil, by simp [Condition.columns],
    by simp [Condition.placeholders]; omega, rfl, .cons (fun _ => rfl) .nil⟩

/-- **One more condition on an argument.** -/
theorem Where.Selects.add (h : d.Selects src v tests) (hf : Means src v text a f) :
    (d.add text a).Selects src v (tests ++ [f]) := by
  obtain ⟨cs, hcs⟩ := h
  obtain ⟨c, hread, hcolumns, hplaceholders, htest⟩ := hf d.argIdx
  refine ⟨cs ++ [c], ?_, ?_, ?_, ?_, ?_⟩
  · exact List.rel_append hcs.read (.cons hread .nil)
  · intro x hx
    rw [List.flatMap_append, List.mem_append, List.flatMap_singleton] at hx
    exact hx.elim (hcs.columns x) (hcolumns x)
  · intro n
    have hlen : (d.add text a).args.length = d.args.length + 1 := by simp [Where.add]
    rw [List.flatMap_append, List.mem_append, List.flatMap_singleton, hcs.placeholders, hplaceholders,
      hcs.argIdx, hlen]
    omega
  · simp [Where.add, hcs.argIdx]
  · have hold : List.Forall₂ (fun c f => ∀ more, c.test src v ((d.add text a).args ++ more) = .ok f)
        cs tests := by
      refine hcs.means.imp fun c f hc more => ?_
      rw [Where.add, List.append_assoc]
      exact hc _
    refine List.rel_append hold (.cons (fun more => htest _ ?_) .nil)
    rw [hcs.argIdx, Where.add, List.append_assoc]
    exact argument_append d.args more a

/-- **One more condition on an argument in some cases.** -/
theorem Where.Selects.addIf {p : Prop} [Decidable p] (h : d.Selects src v tests)
    (hf : p → Means src v text a f) :
    (d.addIf p text a).Selects src v (tests ++ if p then [f] else []) := by
  by_cases hp : p
  · rw [Where.addIf, if_pos hp, if_pos hp]
    exact h.add (hf hp)
  · rw [Where.addIf, if_neg hp, if_neg hp, List.append_nil]
    exact h

/-- One more condition without an argument in some cases. -/
theorem Where.Selects.addText {p : Prop} [Decidable p] {text : String} (h : d.Selects src v tests)
    (hf : MeansAlways src v text f) :
    (d.addText p text).Selects src v (tests ++ if p then [f] else []) := by
  by_cases hp : p
  · rw [Where.addText, if_pos hp, if_pos hp]
    obtain ⟨cs, hcs⟩ := h
    obtain ⟨c, hread, hcolumns, hplaceholders, htest⟩ := hf
    refine ⟨cs ++ [c], List.rel_append hcs.read (.cons hread .nil), ?_, ?_, hcs.argIdx,
      List.rel_append hcs.means (.cons (fun _ => htest _) .nil)⟩
    · intro x hx
      rw [List.flatMap_append, List.mem_append, List.flatMap_singleton] at hx
      exact hx.elim (hcs.columns x) (hcolumns x)
    · intro n
      rw [List.flatMap_append, List.flatMap_singleton, hplaceholders, List.append_nil]
      exact hcs.placeholders n
  · rw [Where.addText, if_neg hp, if_neg hp, List.append_nil]
    exact h

/-! ### The query -/

theorem mapM_of_forall₂ {β γ : Type} {g : β → Except String γ} {l : List β} {l' : List γ}
    (h : List.Forall₂ (fun b c => g b = .ok c) l l') : l.mapM g = .ok l' := by
  induction h with
  | nil => rfl
  | cons hbc _ ih =>
    rw [List.mapM_cons, hbc, ih]
    rfl

variable {cs : List Condition} {q : Query} {rows listed : List ρ}

/-- Which rows the conditions of a query admit, if they are those that have been collected. -/
theorem Where.Collects.test_eq (h : d.Collects src v cs tests) (hq : q.conditions = cs) (more : List α) :
    q.test src v (d.args ++ more) = .ok fun row => tests.all fun f => f row := by
  have hmap : q.conditions.mapM (Condition.test src v (d.args ++ more)) = .ok tests := by
    rw [hq]
    exact mapM_of_forall₂ (h.means.imp fun _ _ hc => hc more)
  rw [Query.test, hmap]
  rfl

/-- **A query uses each of its arguments** if the placeholders after the conditions go on counting. -/
theorem Where.Collects.fits (h : d.Collects src v cs tests) (more : List α) (hq : q.conditions = cs)
    (hsource : q.source = src.words) (horder : ∀ c ∈ q.order.map Prod.fst, c ∈ src.columns)
    (hmore : q.limit.toList ++ q.offset.toList = List.range' d.argIdx more.length) :
    q.Fits src (d.args ++ more) where
  source := hsource
  columns c hc := by
    rw [hq] at hc
    exact (List.mem_append.1 hc).elim (h.columns c) (horder c)
  placeholders n := by
    rw [Query.placeholders, hq, hmore, List.mem_append, h.placeholders, List.mem_range'_1, h.argIdx,
      List.length_append]
    omega

omit [DecidableEq κ] in
theorem bound_of {args : List α} {n : ℕ} {z : ℤ} (ha : argument args n = some a) (hz : v.number a = .ok z) :
    bound v args (some n) = if z < 0 then .error "must not be negative" else .ok (some z.toNat) := by
  rw [bound, withArgument_of ha, hz]
  rfl

omit [DecidableEq κ] in
theorem bound_eq_ok {args : List α} {n : ℕ} {z : ℤ} {o : Option ℕ} (ha : argument args n = some a)
    (hz : v.number a = .ok z) : bound v args (some n) = .ok o ↔ 0 ≤ z ∧ o = some z.toNat := by
  rw [bound_of ha hz]
  split_ifs with hneg
  · exact iff_of_false (fun h => by cases h) fun h => by omega
  · rw [Except.ok.injEq]
    exact ⟨fun h => ⟨by omega, h.symm⟩, fun h => h.2.symm⟩

variable {what : List Statement.Token} {order : List (String × Bool)} {limit offset : α} {l o : ℤ}

/-- What is listed by a query with a limit and an offset. -/
theorem Where.Collects.lists_page (h : d.Collects src v cs tests)
    (horder : ∀ c ∈ order.map Prod.fst, c ∈ src.columns) (hl : v.number limit = .ok l)
    (ho : v.number offset = .ok o) :
    (⟨what, src.words, cs, order, some d.argIdx, some (d.argIdx + 1)⟩ : Query).Lists src v
        (d.args ++ [limit, offset]) rows listed ↔
      Part (fun row => tests.all fun f => f row) (Before src v order) l (some o) rows listed := by
  have hlimit : argument (d.args ++ [limit, offset]) d.argIdx = some limit := by
    rw [h.argIdx]
    exact argument_append d.args _ limit
  have hoffset : argument (d.args ++ [limit, offset]) (d.argIdx + 1) = some offset := by
    simp [h.argIdx, argument]
  constructor
  · rintro ⟨-, f, l', o', htest, hl', ho', found, hperm, hsorted, rfl⟩
    obtain rfl := Except.ok.inj ((h.test_eq rfl _).symm.trans htest)
    obtain ⟨hlpos, rfl⟩ := (bound_eq_ok hlimit hl).1 hl'
    obtain ⟨hopos, rfl⟩ := (bound_eq_ok hoffset ho).1 ho'
    refine ⟨hlpos, by simpa using hopos, found, hperm, hsorted, rfl⟩
  · rintro ⟨hlpos, hopos, found, hperm, hsorted, rfl⟩
    refine ⟨h.fits _ rfl rfl horder rfl, _, _, _, h.test_eq rfl _, (bound_eq_ok hlimit hl).2 ⟨hlpos, rfl⟩,
      (bound_eq_ok hoffset ho).2 ⟨hopos o rfl, rfl⟩, found, hperm, hsorted, rfl⟩

/-- What is listed by a query with a limit. -/
theorem Where.Collects.lists_limit (h : d.Collects src v cs tests)
    (horder : ∀ c ∈ order.map Prod.fst, c ∈ src.columns) (hl : v.number limit = .ok l) :
    (⟨what, src.words, cs, order, some d.argIdx, none⟩ : Query).Lists src v (d.args ++ [limit]) rows
        listed ↔
      Part (fun row => tests.all fun f => f row) (Before src v order) l none rows listed := by
  have hlimit : argument (d.args ++ [limit]) d.argIdx = some limit := by
    rw [h.argIdx]
    exact argument_append d.args _ limit
  constructor
  · rintro ⟨-, f, l', o', htest, hl', ho', found, hperm, hsorted, rfl⟩
    obtain rfl := Except.ok.inj ((h.test_eq rfl _).symm.trans htest)
    obtain ⟨hlpos, rfl⟩ := (bound_eq_ok hlimit hl).1 hl'
    obtain rfl := Except.ok.inj ho'
    refine ⟨hlpos, by simp, found, hperm, hsorted, rfl⟩
  · rintro ⟨hlpos, -, found, hperm, hsorted, rfl⟩
    refine ⟨h.fits _ rfl rfl horder rfl, _, _, none, h.test_eq rfl _,
      (bound_eq_ok hlimit hl).2 ⟨hlpos, rfl⟩, rfl, found, hperm, hsorted, rfl⟩

/-- How many rows are counted. -/
theorem Where.Collects.counts_iff {n : ℕ} (h : d.Collects src v cs tests) :
    (⟨countTokens, src.words, cs, [], none, none⟩ : Query).Counts src v
        d.args rows n ↔ n = rows.countP fun row => tests.all fun f => f row := by
  have htest := h.test_eq (q := ⟨countTokens, src.words, cs, [], none, none⟩) rfl []
  have hfits := h.fits (q := ⟨countTokens, src.words, cs, [], none, none⟩) [] rfl rfl (by simp) rfl
  rw [List.append_nil] at htest hfits
  constructor
  · rintro ⟨-, -, -, f, hf, rfl⟩
    obtain rfl := Except.ok.inj (htest.symm.trans hf)
    rfl
  · rintro rfl
    exact ⟨rfl, ⟨rfl, rfl, rfl⟩, hfits, _, htest, rfl⟩

/-! ### The text -/

theorem mayList_of_read {text : String} {args : List α} (h : readQuery (lex text) = some q) :
    MayList text q.what src v args rows listed ↔ q.Lists src v args rows listed := by
  constructor
  · rintro ⟨q', hq', -, hlists⟩
    obtain rfl := Option.some.inj (h.symm.trans hq')
    exact hlists
  · intro hlists
    exact ⟨q, h, rfl, hlists⟩

theorem mayCount_of_read {text : String} {args : List α} {n : ℕ} (h : readQuery (lex text) = some q) :
    MayCount text src v args rows n ↔ q.Counts src v args rows n := by
  constructor
  · rintro ⟨q', hq', hcounts⟩
    obtain rfl := Option.some.inj (h.symm.trans hq')
    exact hcounts
  · intro hcounts
    exact ⟨q, h, hcounts⟩

variable {head pre : String}

/-- Nothing has been collected if there is nothing to test. -/
theorem Where.Collects.conditions_eq_nil_iff (h : d.Collects src v cs tests) :
    d.conditions = [] ↔ tests = [] := by
  have hread := h.read.length_eq
  have hmeans := h.means.length_eq
  rw [← List.length_eq_zero_iff, ← List.length_eq_zero_iff, hread, hmeans]

theorem Where.Selects.conditions_eq_nil_iff (h : d.Selects src v tests) : d.conditions = [] ↔ tests = [] :=
  let ⟨_, hcs⟩ := h
  hcs.conditions_eq_nil_iff

theorem Where.Collects.eq_nil (h : d.Collects src v cs tests) (hnil : tests = []) : cs = [] := by
  have hmeans := h.means.length_eq
  rwa [hnil, List.length_nil, List.length_eq_zero_iff] at hmeans

/-- Without tests there are no arguments. -/
theorem Where.Selects.args_eq_nil (h : d.Selects src v tests) (hnil : tests = []) : d.args = [] := by
  obtain ⟨cs, hcs⟩ := h
  have hplaceholders := hcs.placeholders d.args.length
  rw [hcs.eq_nil hnil, List.flatMap_nil] at hplaceholders
  have hnot : ¬ (1 ≤ d.args.length ∧ d.args.length ≤ d.args.length) := fun hlen => by
    cases hplaceholders.2 hlen
  rw [← List.length_eq_zero_iff]
  omega

/-- **What the text of a page lists**, if there are conditions: a part of the rows that pass all tests. -/
theorem Where.Selects.mayList_page (h : d.Selects src v tests)
    (hhead : IsHead head what src.words [.word "WHERE"]) (hends : EndsApart head) (hne : tests ≠ [])
    (horder : IsOrder pre order) (hcolumns : ∀ c ∈ order.map Prod.fst, c ∈ src.columns)
    (hl : v.number limit = .ok l) (ho : v.number offset = .ok o) :
    MayList (head ++ " AND ".intercalate d.conditions ++ pre ++ placeholder d.argIdx ++ " OFFSET " ++
        placeholder (d.argIdx + 1)) what src v (d.args ++ [limit, offset]) rows listed ↔
      Part (fun row => tests.all fun f => f row) (Before src v order) l (some o) rows listed := by
  obtain ⟨cs, hcs⟩ := h
  have htail : Follows (pre ++ placeholder d.argIdx ++ " OFFSET " ++ placeholder (d.argIdx + 1)) :=
    .inr (((horder.starts.append).append).append)
  have hread := readQuery_text hhead hends hcs.read (mt hcs.conditions_eq_nil_iff.1 hne) htail
    (horder.readRest_page d.argIdx (d.argIdx + 1))
  simp only [← String.append_assoc] at hread
  exact (mayList_of_read hread).trans (hcs.lists_page hcolumns hl ho)

/-- What the text of a page lists, if there are no conditions. -/
theorem Where.Selects.mayList_page_all (h : d.Selects src v tests) (hhead : IsHead head what src.words [])
    (hnil : tests = []) (horder : IsOrder pre order)
    (hcolumns : ∀ c ∈ order.map Prod.fst, c ∈ src.columns) (hl : v.number limit = .ok l)
    (ho : v.number offset = .ok o) :
    MayList (head ++ pre ++ placeholder d.argIdx ++ " OFFSET " ++ placeholder (d.argIdx + 1)) what src v
        (d.args ++ [limit, offset]) rows listed ↔
      Part (fun row => tests.all fun f => f row) (Before src v order) l (some o) rows listed := by
  obtain ⟨cs, hcs⟩ := h
  obtain rfl := hcs.eq_nil hnil
  have htail : Follows (pre ++ placeholder d.argIdx ++ " OFFSET " ++ placeholder (d.argIdx + 1)) :=
    .inr (((horder.starts.append).append).append)
  have hread := readQuery_text_all hhead htail (horder.readRest_page d.argIdx (d.argIdx + 1))
  simp only [← String.append_assoc] at hread
  exact (mayList_of_read hread).trans (hcs.lists_page hcolumns hl ho)

/-- **What a text with a limit lists.** -/
theorem Where.Selects.mayList_limit (h : d.Selects src v tests)
    (hhead : IsHead head what src.words [.word "WHERE"]) (hends : EndsApart head) (hne : tests ≠ [])
    (horder : IsOrder pre order) (hcolumns : ∀ c ∈ order.map Prod.fst, c ∈ src.columns)
    (hl : v.number limit = .ok l) :
    MayList (head ++ " AND ".intercalate d.conditions ++ pre ++ placeholder d.argIdx) what src v
        (d.args ++ [limit]) rows listed ↔
      Part (fun row => tests.all fun f => f row) (Before src v order) l none rows listed := by
  obtain ⟨cs, hcs⟩ := h
  have htail : Follows (pre ++ placeholder d.argIdx) := .inr horder.starts.append
  have hread := readQuery_text hhead hends hcs.read (mt hcs.conditions_eq_nil_iff.1 hne) htail
    (horder.readRest_limit d.argIdx)
  rw [← String.append_assoc] at hread
  exact (mayList_of_read hread).trans (hcs.lists_limit hcolumns hl)

/-- **How many rows the text of a count counts**: those that pass all tests. -/
theorem Where.Selects.mayCount {n : ℕ} (h : d.Selects src v tests)
    (hhead : IsHead head countTokens src.words [.word "WHERE"])
    (hends : EndsApart head) (hne : tests ≠ []) :
    MayCount (head ++ " AND ".intercalate d.conditions) src v d.args rows n ↔
      n = rows.countP fun row => tests.all fun f => f row := by
  obtain ⟨cs, hcs⟩ := h
  have hread := readQuery_text hhead hends hcs.read (mt hcs.conditions_eq_nil_iff.1 hne) (.inl rfl) rfl
  rw [String.append_empty] at hread
  exact (mayCount_of_read hread).trans hcs.counts_iff

/-- How many rows the text of a count without conditions counts. -/
theorem Where.Selects.mayCount_all {n : ℕ} (h : d.Selects src v tests)
    (hhead : IsHead head countTokens src.words [])
    (hnil : tests = []) :
    MayCount head src v d.args rows n ↔ n = rows.countP fun row => tests.all fun f => f row := by
  obtain ⟨cs, hcs⟩ := h
  obtain rfl := hcs.eq_nil hnil
  have hread := readQuery_text_all hhead (.inl rfl) rfl
  rw [String.append_empty] at hread
  exact (mayCount_of_read hread).trans hcs.counts_iff

/-- **Nothing is counted with too few arguments.** -/
theorem Where.Selects.not_mayCount {n : ℕ} {args : List α} (h : d.Selects src v tests)
    (hhead : IsHead head countTokens src.words [.word "WHERE"]) (hends : EndsApart head) (hne : tests ≠ [])
    (hargs : args.length < d.args.length) :
    ¬ MayCount (head ++ " AND ".intercalate d.conditions) src v args rows n := by
  obtain ⟨cs, hcs⟩ := h
  have hread := readQuery_text hhead hends hcs.read (mt hcs.conditions_eq_nil_iff.1 hne) (.inl rfl) rfl
  rw [String.append_empty] at hread
  rw [mayCount_of_read hread]
  intro hcounts
  have hmem : d.args.length ∈ cs.flatMap Condition.placeholders :=
    (hcs.placeholders _).2 ⟨by omega, Nat.le_refl _⟩
  have hfits := (hcounts.fits.placeholders d.args.length).1 (List.mem_append_left _ hmem)
  omega

end Rules

/-- **A part of rows that are shown in another form**, if the order is that of what is shown. -/
theorem part_map_iff {σ : Type} (view : ρ → σ) (before' : σ → σ → Bool) {test : ρ → Bool}
    {before : ρ → ρ → Bool} (hbefore : ∀ a b, before a b = before' (view a) (view b)) {limit : ℤ}
    {offset : Option ℤ} {rows : List ρ} {shown : List σ} :
    (∃ listed, Part test before limit offset rows listed ∧ shown = listed.map view) ↔
      Part (fun _ => true) before' limit offset ((rows.filter test).map view) shown := by
  have hpairwise : ∀ found : List ρ, (found.map view).Pairwise (fun a b => before' a b) ↔
      found.Pairwise (fun a b => before a b) := by
    intro found
    simp only [List.pairwise_map, hbefore]
  simp only [Part, List.filter_true]
  constructor
  · rintro ⟨_, ⟨hlimit, hoffset, found, hperm, hsorted, rfl⟩, rfl⟩
    refine ⟨hlimit, hoffset, found.map view, hperm.map view, (hpairwise found).2 hsorted, ?_⟩
    rw [List.map_take, List.map_drop]
  · rintro ⟨hlimit, hoffset, found, hperm, hsorted, rfl⟩
    have hcomp := congrFun₂ (List.eq_map_comp_perm view) found (rows.filter test)
    obtain ⟨found', rfl, hperm'⟩ := hcomp.mpr hperm
    refine ⟨_, ⟨hlimit, hoffset, found', hperm', (hpairwise found').1 hsorted, rfl⟩, ?_⟩
    rw [List.map_take, List.map_drop]

/-- Texts that are put one after the other with a separator. -/
theorem foldl_glue (sep head : String) (text : String) (texts : List String) :
    texts.foldl (fun glued text => glued ++ (sep ++ text)) (head ++ text) =
      head ++ sep.intercalate (text :: texts) := by
  induction texts generalizing text with
  | nil => simp
  | cons text' texts ih =>
    have happend : head ++ text ++ (sep ++ text') = head ++ (text ++ sep ++ text') := by
      simp only [String.append_assoc]
    rw [List.foldl_cons, happend, ih, String.intercalate_cons_cons]
    cases texts <;> simp [String.intercalate_cons_cons, String.append_assoc]

/-! ## Rows of two tables -/

/-- **At most one row has a key**, and none other is found by it. -/
theorem length_filter_key_le {σ ι : Type} {key : σ → ι} {others : List σ} (h : (others.map key).Nodup)
    {pass : σ → Bool} {k : ι} (hpass : ∀ o, pass o → key o = k) : (others.filter pass).length ≤ 1 := by
  induction others with
  | nil => exact Nat.zero_le _
  | cons o others ih =>
    obtain ⟨hnew, hrest⟩ := List.nodup_cons.1 h
    by_cases ho : pass o
    · have hnone : others.filter pass = [] := by
        refine List.filter_eq_nil_iff.2 fun o' ho' hpass' => hnew ?_
        rw [hpass o ho, ← hpass o' hpass']
        exact List.mem_map_of_mem ho'
      rw [List.filter_cons_of_pos ho, hnone]
      exact Nat.le_refl 1
    · rw [List.filter_cons_of_neg ho]
      exact ih hrest

/-- The rows of a table, each with the rows of another one that match it, or alone if none does. -/
def leftJoin {σ : Type} (rows : List ρ) (others : List σ) (on : ρ → σ → Bool) : List (ρ × Option σ) :=
  rows.flatMap fun row =>
    if (others.filter (on row)).isEmpty then [(row, none)]
    else (others.filter (on row)).map fun other => (row, some other)

/-- **A left join shows each row once**, if at most one row of the other table matches it. -/
theorem map_fst_leftJoin {σ : Type} {rows : List ρ} {others : List σ} {on : ρ → σ → Bool}
    (h : ∀ row, (others.filter (on row)).length ≤ 1) : (leftJoin rows others on).map Prod.fst = rows := by
  induction rows with
  | nil => rfl
  | cons row rows ih =>
    have hone := h row
    rw [leftJoin, List.flatMap_cons, List.map_append, ← leftJoin, ih]
    generalize others.filter (on row) = matching at hone
    rcases matching with _ | ⟨other, _ | ⟨_, _⟩⟩
    · rfl
    · rfl
    · simp at hone

end Answers

end Foundations.Selecting
