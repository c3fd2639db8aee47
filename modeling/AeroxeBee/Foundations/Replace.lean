import Mathlib.Data.List.Induction
import Mathlib.Data.List.Infix
import Mathlib.Data.Nat.Find
import Mathlib.Algebra.Order.Ring.Int
import Mathlib.Logic.Function.Basic
import Mathlib.Tactic.Common

/-!
# Replacing a word in a text

`replaceAll` goes through a text from left to right and puts a new word wherever it finds the old one,
going on behind it. A text made of symbols and holes is *expanded* by putting a word into each hole.
Replacing the word of one hole is then to put another word into it, if the old word occurs in the
text at these holes only.

* `replaceAll_expand`: what is replaced when a word occurs at its holes only;
* `onlyAtHoles_of_replaceAll`: if that is what is replaced then it occurs there only, for words that
  do not overlap themselves;
* `replaced_replaceAll`: the occurrences that are replaced are the leftmost ones that do not overlap.
-/

namespace Foundations

variable {α κ : Type*}

/-! ## Holes -/

/-- A symbol, or a hole with a name. -/
inductive Piece (α κ : Type*) where
  | text (c : α)
  | hole (k : κ)

/-- Put a word into each hole. -/
def expand (f : κ → List α) (pieces : List (Piece α κ)) : List α :=
  pieces.flatMap fun
    | .text c => [c]
    | .hole k => f k

variable {f : κ → List α} {pieces : List (Piece α κ)} {k : κ} {c : α}

@[simp] theorem expand_nil : expand f ([] : List (Piece α κ)) = [] := rfl

@[simp] theorem expand_text (c : α) (pieces : List (Piece α κ)) :
    expand f (.text c :: pieces) = c :: expand f pieces := rfl

@[simp] theorem expand_hole (k : κ) (pieces : List (Piece α κ)) :
    expand f (.hole k :: pieces) = f k ++ expand f pieces := rfl

@[simp] theorem expand_map_text (x : List α) (l : List (Piece α κ)) :
    expand f (x.map .text ++ l) = x ++ expand f l := by
  induction x with
  | nil => rfl
  | cons c x ih => rw [List.map_cons, List.cons_append, expand_text, ih, List.cons_append]

/-- The word of a hole occurs in the text only where the hole is. -/
def OnlyAtHoles (f : κ → List α) (k : κ) (pieces : List (Piece α κ)) : Prop :=
  ∀ a b, expand f pieces = a ++ f k ++ b → ∃ before after,
    pieces = before ++ .hole k :: after ∧ expand f before = a ∧ expand f after = b

namespace OnlyAtHoles

theorem of_text (h : OnlyAtHoles f k (.text c :: pieces)) : OnlyAtHoles f k pieces := by
  intro a b hab
  obtain ⟨before, after, hpieces, ha, hb⟩ := h (c :: a) b (congrArg (c :: ·) hab)
  cases before with
  | nil => cases hpieces
  | cons piece before =>
    obtain ⟨rfl, rfl⟩ := List.cons.inj hpieces
    exact ⟨before, after, rfl, (List.cons.inj ha).2, hb⟩

theorem of_hole {j : κ} (hne : f k ≠ []) (h : OnlyAtHoles f k (.hole j :: pieces)) :
    OnlyAtHoles f k pieces := by
  intro a b hab
  obtain ⟨before, after, hpieces, ha, hb⟩ := h (f j ++ a) b (by simp [hab])
  cases before with
  | nil =>
    obtain ⟨hj, -⟩ := List.cons.inj hpieces
    rw [← Piece.hole.inj hj] at hne
    exact absurd (List.append_eq_nil_iff.1 ha.symm).1 hne
  | cons piece before =>
    obtain ⟨rfl, rfl⟩ := List.cons.inj hpieces
    exact ⟨before, after, rfl, List.append_cancel_left ha, hb⟩

end OnlyAtHoles

/-! ## Words that do not overlap themselves -/

variable {old new : List α}

/-- A word of which no two occurrences overlap. -/
def Unbordered (w : List α) : Prop :=
  ∀ x y z, w ++ y = x ++ w ++ z → x = [] ∨ w.length ≤ x.length

/-- A text begins with symbols, up to its first hole. -/
theorem exists_first_hole (l : List (Piece α Unit)) :
    ∃ (x : List α) (rest : List (Piece α Unit)), l = x.map .text ++ rest ∧
      ∀ piece rest', rest = piece :: rest' → piece = .hole () := by
  induction l with
  | nil => exact ⟨[], [], rfl, fun _ _ h => nomatch h⟩
  | cons piece l ih =>
    cases piece with
    | hole u => exact ⟨[], .hole u :: l, rfl, fun _ _ h => (List.cons.inj h).1.symm⟩
    | text c =>
      obtain ⟨x, rest, rfl, hrest⟩ := ih
      exact ⟨c :: x, rest, rfl, hrest⟩

/-- An occurrence that does not begin with a hole has no hole in it. -/
theorem exists_spurious (hu : Unbordered old) {l : List (Piece α Unit)}
    (h : old <+: c :: expand (fun _ => old) l) :
    ∃ rest, .text c :: l = old.map .text ++ rest := by
  obtain ⟨x, rest, rfl, hrest⟩ := exists_first_hole l
  obtain ⟨y, hy⟩ := h
  rw [expand_map_text, ← List.cons_append] at hy
  have hle : old.length ≤ (c :: x).length := by
    cases rest with
    | nil =>
      have hlen := congrArg List.length hy
      simp only [List.length_append, List.length_cons, expand_nil, List.length_nil] at hlen ⊢
      omega
    | cons piece rest =>
      obtain rfl := hrest piece rest rfl
      rw [expand_hole, ← List.append_assoc] at hy
      exact (hu _ _ _ hy).resolve_left (List.cons_ne_nil c x)
  obtain ⟨x', hx'⟩ : old <+: c :: x :=
    List.prefix_of_prefix_length_le ⟨y, hy⟩ (List.prefix_append _ _) hle
  refine ⟨x'.map .text ++ rest, ?_⟩
  rw [← List.append_assoc, ← List.map_append, hx']
  rfl

/-- Some symbols of a text are those of an occurrence of a word. -/
inductive Refines (old : List α) : List (Piece α Unit) → List (Piece α Unit) → Prop
  | nil : Refines old [] []
  | text (c : α) {t l} : Refines old t l → Refines old (.text c :: t) (.text c :: l)
  | hole {t l} : Refines old t l → Refines old (.hole () :: t) (.hole () :: l)
  | spurious {t l} : Refines old t l → Refines old (.hole () :: t) (old.map .text ++ l)

/-- What is put into more holes has another length, unless the word is as long as the one in the
text. -/
theorem Refines.length {t l : List (Piece α Unit)} (h : Refines old t l) (new : List α) :
    ∃ n : ℕ, ((expand (fun _ => new) t).length : ℤ) =
      (expand (fun _ => new) l).length + n * ((new.length : ℤ) - old.length) ∧ (n = 0 → t = l) := by
  induction h with
  | nil => exact ⟨0, by simp, fun _ => rfl⟩
  | text c h ih =>
    obtain ⟨n, hn, heq⟩ := ih
    refine ⟨n, ?_, fun hzero => by rw [heq hzero]⟩
    simp only [expand_text, List.length_cons, Nat.cast_add]
    omega
  | hole h ih =>
    obtain ⟨n, hn, heq⟩ := ih
    refine ⟨n, ?_, fun hzero => by rw [heq hzero]⟩
    simp only [expand_hole, List.length_append, Nat.cast_add]
    omega
  | spurious h ih =>
    obtain ⟨n, hn, -⟩ := ih
    refine ⟨n + 1, ?_, fun hzero => absurd hzero n.succ_ne_zero⟩
    simp only [expand_hole, expand_map_text, List.length_append, Nat.cast_add, Nat.cast_one,
      add_mul, one_mul]
    omega

/-- **What is put into more holes is another text**, unless the word is the same. -/
theorem Refines.eq_of_expand {t l : List (Piece α Unit)} (h : Refines old t l) (hnew : new ≠ old)
    (heq : expand (fun _ => new) t = expand (fun _ => new) l) : t = l := by
  by_cases hlen : new.length = old.length
  · induction h with
    | nil => rfl
    | text c h ih => rw [ih (List.cons.inj heq).2]
    | hole h ih => rw [ih (List.append_cancel_left heq)]
    | spurious h ih =>
      rw [expand_hole, expand_map_text] at heq
      exact absurd (List.append_inj_left heq hlen) hnew
  · obtain ⟨n, hn, hzero⟩ := h.length new
    refine hzero ?_
    rw [heq] at hn
    have hprod : (n : ℤ) * ((new.length : ℤ) - old.length) = 0 := by omega
    rcases mul_eq_zero.1 hprod with h0 | h0
    · exact_mod_cast h0
    · exact absurd (by omega) hlen

/-! ## What it is to replace a word -/

/-- **The occurrences of a word are replaced from left to right**: the first one, and then those
behind it. -/
inductive Replaced (old new : List α) : List α → List α → Prop
  /-- There is no occurrence. -/
  | none {s : List α} : ¬ old <:+: s → Replaced old new s s
  /-- There is none before this one, and it overlaps none before it. -/
  | first {x s t : List α} : (∀ a b, x ++ old ++ s = a ++ old ++ b → x.length ≤ a.length) →
      Replaced old new s t → Replaced old new (x ++ old ++ s) (x ++ new ++ t)

namespace Replaced

variable {s t t' : List α}

/-- **There is only one way to replace a word.** -/
theorem unique (h : Replaced old new s t) (h' : Replaced old new s t') :
    t = t' := by
  induction h generalizing t' with
  | none hnot =>
    cases h' with
    | none _ => rfl
    | first _ _ => exact absurd ⟨_, _, rfl⟩ hnot
  | @first x s t hx hs ih =>
    generalize hsame : x ++ old ++ s = s' at h'
    cases h' with
    | none hnot => exact absurd ⟨x, s, hsame⟩ hnot
    | @first y u v hy hu =>
      have hlen : x.length = y.length :=
        (hx y u hsame).antisymm (hy x s hsame.symm)
      rw [List.append_assoc, List.append_assoc] at hsame
      obtain ⟨rfl, hrest⟩ := List.append_inj hsame hlen
      obtain rfl := List.append_cancel_left hrest
      rw [ih hu]

end Replaced

/-! ## Replacing -/

/-- To skip symbols is to go through the text behind them. -/
theorem eq_drop_of_skips {β : Type*} {g : ℕ → List α → β} (hnil : ∀ skip, g skip [] = g 0 [])
    (hskip : ∀ skip c s, g (skip + 1) (c :: s) = g skip s) (skip : ℕ) (s : List α) :
    g skip s = g 0 (s.drop skip) := by
  induction s generalizing skip with
  | nil => rw [hnil, List.drop_nil]
  | cons c s ih =>
    cases skip with
    | zero => rfl
    | succ skip => rw [hskip, List.drop_succ_cons, ih]

variable [DecidableEq α]

/-- Replace a word in a text behind the next `skip` symbols. -/
def replaceFrom (old new : List α) : ℕ → List α → List α
  | _, [] => []
  | skip + 1, _ :: s => replaceFrom old new skip s
  | 0, c :: s =>
    if old <+: c :: s then new ++ replaceFrom old new (old.length - 1) s
    else c :: replaceFrom old new 0 s

/-- Replace a word in a text. The word must not be empty. -/
def replaceAll (old new s : List α) : List α := replaceFrom old new 0 s

variable {s x y : List α}

theorem replaceFrom_eq_drop (skip : ℕ) (s : List α) :
    replaceFrom old new skip s = replaceAll old new (s.drop skip) :=
  eq_drop_of_skips (fun skip => by cases skip <;> rfl) (fun _ _ _ => rfl) skip s

@[simp] theorem replaceAll_nil : replaceAll old new [] = [] := rfl

theorem replaceAll_cons_of_not (h : ¬ old <+: c :: s) :
    replaceAll old new (c :: s) = c :: replaceAll old new s := by
  rw [replaceAll, replaceFrom, if_neg h]
  rfl

theorem replaceAll_append (hold : old ≠ []) (s : List α) :
    replaceAll old new (old ++ s) = new ++ replaceAll old new s := by
  obtain ⟨c, old, rfl⟩ := List.exists_cons_of_ne_nil hold
  rw [replaceAll, List.cons_append, replaceFrom, if_pos ⟨s, rfl⟩, replaceFrom_eq_drop]
  simp

/-- A part in which no occurrence begins is copied. -/
theorem replaceAll_copy (h : ∀ a b, x ++ y = a ++ old ++ b → x.length ≤ a.length) :
    replaceAll old new (x ++ y) = x ++ replaceAll old new y := by
  induction x with
  | nil => rfl
  | cons c x ih =>
    have hnot : ¬ old <+: c :: (x ++ y) := by
      rintro ⟨b, hb⟩
      have hle := h [] b hb.symm
      simp at hle
    have hrest : ∀ a b, x ++ y = a ++ old ++ b → x.length ≤ a.length := by
      intro a b hab
      have hle := h (c :: a) b (congrArg (c :: ·) hab)
      rw [List.length_cons, List.length_cons] at hle
      omega
    rw [List.cons_append, replaceAll_cons_of_not hnot, ih hrest, List.cons_append]

/-- Replacing a word by itself. -/
theorem replaceAll_self (hold : old ≠ []) (s : List α) : replaceAll old old s = s := by
  induction hn : s.length using Nat.strong_induction_on generalizing s with
  | _ n ih =>
    cases s with
    | nil => rfl
    | cons c s =>
      by_cases h : old <+: c :: s
      · obtain ⟨rest, hrest⟩ := h
        have hlen : rest.length < n := by
          have hpos := List.length_pos_iff.2 hold
          rw [← hn, ← hrest, List.length_append]
          omega
        rw [← hrest, replaceAll_append hold, ih _ hlen rest rfl]
      · rw [replaceAll_cons_of_not h, ih s.length (by rw [← hn]; simp) s rfl]

/-- **What is replaced** when a word occurs at its holes only. -/
theorem replaceAll_expand [DecidableEq κ] (hne : f k ≠ []) (h : OnlyAtHoles f k pieces)
    (v : List α) :
    replaceAll (f k) v (expand f pieces) = expand (Function.update f k v) pieces := by
  induction pieces with
  | nil => rfl
  | cons piece pieces ih =>
    cases piece with
    | text c =>
      have hnot : ¬ f k <+: c :: expand f pieces := by
        rintro ⟨b, hb⟩
        obtain ⟨before, after, hpieces, ha, -⟩ := h [] b hb.symm
        cases before with
        | nil => cases hpieces
        | cons piece before =>
          obtain ⟨rfl, rfl⟩ := List.cons.inj hpieces
          cases ha
      rw [expand_text, expand_text, replaceAll_cons_of_not hnot, ih h.of_text]
    | hole j =>
      rw [expand_hole, expand_hole, ← ih (h.of_hole hne)]
      by_cases hj : j = k
      · subst hj
        rw [Function.update_self, replaceAll_append hne]
      · rw [Function.update_of_ne hj, replaceAll_copy]
        intro a b hab
        obtain ⟨before, after, hpieces, ha, -⟩ := h a b hab
        cases before with
        | nil =>
          obtain ⟨hjk, -⟩ := List.cons.inj hpieces
          exact absurd (Piece.hole.inj hjk) hj
        | cons piece before =>
          obtain ⟨rfl, rfl⟩ := List.cons.inj hpieces
          rw [← ha, expand_hole, List.length_append]
          omega

/-- A text in which the word does not occur stays as it is. -/
theorem replaceAll_of_not_occurs (h : ¬ old <:+: s) : replaceAll old new s = s := by
  have hcopy : replaceAll old new (s ++ []) = s ++ replaceAll old new [] := by
    refine replaceAll_copy fun a b hab => ?_
    rw [List.append_nil] at hab
    exact absurd ⟨a, b, hab.symm⟩ h
  rwa [List.append_nil, replaceAll_nil, List.append_nil] at hcopy

omit [DecidableEq α] in
/-- The first occurrence of a word. -/
theorem exists_first (h : old <:+: s) : ∃ x rest, s = x ++ old ++ rest ∧
    ∀ a b, s = a ++ old ++ b → x.length ≤ a.length := by
  classical
  have hex : ∃ n, ∃ a b, s = a ++ old ++ b ∧ a.length = n := by
    obtain ⟨a, b, hab⟩ := h
    exact ⟨a.length, a, b, hab.symm, rfl⟩
  obtain ⟨x, rest, hx, hlen⟩ := Nat.find_spec hex
  exact ⟨x, rest, hx, fun a b hab => hlen ▸ Nat.find_min' hex ⟨a, b, hab, rfl⟩⟩

/-- **That is what `replaceAll` does.** -/
theorem replaced_replaceAll (hold : old ≠ []) (s : List α) :
    Replaced old new s (replaceAll old new s) := by
  induction hn : s.length using Nat.strong_induction_on generalizing s with
  | _ n ih =>
    by_cases h : old <:+: s
    · obtain ⟨x, rest, rfl, hfirst⟩ := exists_first h
      have hlen : rest.length < n := by
        have hpos := List.length_pos_iff.2 hold
        rw [← hn, List.length_append, List.length_append]
        omega
      have heq : replaceAll old new (x ++ old ++ rest) = x ++ new ++ replaceAll old new rest := by
        rw [List.append_assoc] at hfirst ⊢
        rw [replaceAll_copy hfirst, replaceAll_append hold, List.append_assoc]
      rw [heq]
      exact .first hfirst (ih _ hlen rest rfl)
    · rw [replaceAll_of_not_occurs h]
      exact .none h

/-! ## Occurrences -/

/-- The occurrences of a word as holes, behind the next `skip` symbols. -/
def tokensFrom (old : List α) : ℕ → List α → List (Piece α Unit)
  | _, [] => []
  | skip + 1, _ :: s => tokensFrom old skip s
  | 0, c :: s =>
    if old <+: c :: s then .hole () :: tokensFrom old (old.length - 1) s
    else .text c :: tokensFrom old 0 s

/-- The occurrences of a word as holes. -/
def tokens (old s : List α) : List (Piece α Unit) := tokensFrom old 0 s

theorem tokensFrom_eq_drop (skip : ℕ) (s : List α) :
    tokensFrom old skip s = tokens old (s.drop skip) :=
  eq_drop_of_skips (fun skip => by cases skip <;> rfl) (fun _ _ _ => rfl) skip s

theorem tokens_cons_of_not (h : ¬ old <+: c :: s) :
    tokens old (c :: s) = .text c :: tokens old s := by
  rw [tokens, tokensFrom, if_neg h]
  rfl

theorem tokens_append (hold : old ≠ []) (s : List α) :
    tokens old (old ++ s) = .hole () :: tokens old s := by
  obtain ⟨c, old, rfl⟩ := List.exists_cons_of_ne_nil hold
  rw [tokens, List.cons_append, tokensFrom, if_pos ⟨s, rfl⟩, tokensFrom_eq_drop]
  simp

/-- To replace a word is to put another into its occurrences. -/
theorem replaceAll_eq_expand (s : List α) :
    replaceAll old new s = expand (fun _ => new) (tokens old s) := by
  suffices h : ∀ skip, replaceFrom old new skip s = expand (fun _ => new) (tokensFrom old skip s)
    from h 0
  induction s with
  | nil => intro skip; cases skip <;> rfl
  | cons c s ih =>
    intro skip
    cases skip with
    | zero =>
      rw [replaceFrom, tokensFrom]
      split_ifs
      · rw [expand_hole, ih]
      · rw [expand_text, ih]
    | succ skip => exact ih skip

theorem expand_tokens (hold : old ≠ []) (s : List α) :
    expand (fun _ => old) (tokens old s) = s := by
  rw [← replaceAll_eq_expand, replaceAll_self hold]

/-- **No occurrence is passed over.** -/
theorem tokens_split (hu : Unbordered old) (hold : old ≠ []) (a b : List α) :
    tokens old (a ++ old ++ b) = tokens old a ++ .hole () :: tokens old b := by
  induction hn : a.length using Nat.strong_induction_on generalizing a with
  | _ n ih =>
    cases a with
    | nil => exact tokens_append hold b
    | cons c a =>
      by_cases h : old <+: c :: a ++ old ++ b
      · -- the first occurrence ends before the other begins
        obtain ⟨y, hy⟩ := h
        have hle : old.length ≤ (c :: a).length :=
          (hu (c :: a) y b hy).resolve_left (List.cons_ne_nil c a)
        obtain ⟨a', ha'⟩ : old <+: c :: a := by
          refine List.prefix_of_prefix_length_le ⟨y, hy⟩ ?_ hle
          rw [List.append_assoc]
          exact List.prefix_append _ _
        have hlen : a'.length < n := by
          have hpos := List.length_pos_iff.2 hold
          rw [← hn, ← ha', List.length_append]
          omega
        rw [← ha', List.append_assoc, List.append_assoc, tokens_append hold, tokens_append hold,
          ← List.append_assoc, ih _ hlen a' rfl, List.cons_append]
      · have hnot : ¬ old <+: c :: a := fun hbegins => h
          (hbegins.trans (by rw [List.append_assoc]; exact List.prefix_append _ _))
        rw [List.cons_append, List.cons_append] at h ⊢
        rw [tokens_cons_of_not h, tokens_cons_of_not hnot, ih a.length (by rw [← hn]; simp) a rfl,
          List.cons_append]

/-- The occurrences of a word in a text are its holes, and others. -/
theorem refines_tokens (hu : Unbordered old) (hold : old ≠ []) (l : List (Piece α Unit)) :
    Refines old (tokens old (expand (fun _ => old) l)) l := by
  induction hn : l.length using Nat.strong_induction_on generalizing l with
  | _ n ih =>
    cases l with
    | nil => exact .nil
    | cons piece l =>
      cases piece with
      | hole u =>
        rw [expand_hole, tokens_append hold]
        exact .hole (ih l.length (by rw [← hn]; simp) l rfl)
      | text c =>
        rw [expand_text]
        by_cases h : old <+: c :: expand (fun _ => old) l
        · obtain ⟨rest, hrest⟩ := exists_spurious hu h
          have hlen : rest.length < n := by
            have hpos := List.length_pos_iff.2 hold
            rw [← hn, hrest, List.length_append, List.length_map]
            omega
          rw [← expand_text, hrest, expand_map_text, tokens_append hold]
          exact .spurious (ih _ hlen rest rfl)
        · rw [tokens_cons_of_not h]
          exact .text c (ih l.length (by rw [← hn]; simp) l rfl)

/-! ## Texts with holes of several names -/

variable [DecidableEq κ] {f : κ → List α} {k : κ} {pieces : List (Piece α κ)}

/-- The holes of one name, the others being filled. -/
def only (f : κ → List α) (k : κ) (pieces : List (Piece α κ)) : List (Piece α Unit) :=
  pieces.flatMap fun
    | .text c => [.text c]
    | .hole j => if j = k then [.hole ()] else (f j).map .text

omit [DecidableEq α] in
theorem expand_only (w : List α) (pieces : List (Piece α κ)) :
    expand (fun _ => w) (only f k pieces) = expand (Function.update f k w) pieces := by
  induction pieces with
  | nil => rfl
  | cons piece pieces ih =>
    cases piece with
    | text c => exact congrArg (c :: ·) ih
    | hole j =>
      rw [expand_hole, only, List.flatMap_cons, ← only]
      dsimp only
      by_cases hj : j = k
      · rw [if_pos hj, hj, Function.update_self, List.singleton_append, expand_hole, ih]
      · rw [if_neg hj, Function.update_of_ne hj, expand_map_text, ih]

omit [DecidableEq α] in
theorem only_split {la lb : List (Piece α Unit)} (h : only f k pieces = la ++ .hole () :: lb) :
    ∃ before after, pieces = before ++ .hole k :: after ∧ only f k before = la ∧
      only f k after = lb := by
  induction pieces generalizing la with
  | nil => exact absurd h.symm (by simp [only])
  | cons piece pieces ih =>
    cases piece with
    | text c =>
      cases la with
      | nil => exact nomatch (List.cons.inj h).1
      | cons x la =>
        obtain ⟨rfl, hrest⟩ := List.cons.inj h
        obtain ⟨before, after, rfl, rfl, rfl⟩ := ih hrest
        exact ⟨.text c :: before, after, rfl, rfl, rfl⟩
    | hole j =>
      have hcons (l : List (Piece α κ)) : only f k (.hole j :: l) =
          (if j = k then [.hole ()] else (f j).map .text) ++ only f k l := rfl
      rw [hcons] at h
      by_cases hj : j = k
      · rw [if_pos hj] at h hcons
        cases la with
        | nil => exact ⟨[], pieces, by rw [hj, List.nil_append], rfl, (List.cons.inj h).2⟩
        | cons x la =>
          obtain ⟨rfl, hrest⟩ := List.cons.inj h
          obtain ⟨before, after, rfl, rfl, rfl⟩ := ih hrest
          exact ⟨.hole j :: before, after, rfl, hcons before, rfl⟩
      · rw [if_neg hj] at h hcons
        -- there is no hole among the symbols
        obtain ⟨la', rfl, hrest⟩ : ∃ la', la = (f j).map .text ++ la' ∧
            only f k pieces = la' ++ .hole () :: lb := by
          rcases List.append_eq_append_iff.1 h with ⟨la', hla, hrest⟩ | ⟨x, hx, hrest⟩
          · exact ⟨la', hla, hrest⟩
          · cases x with
            | nil => exact ⟨[], by rw [hx, List.append_nil, List.append_nil], hrest.symm⟩
            | cons piece x =>
              have hmem : piece ∈ (f j).map (Piece.text (κ := Unit)) := by
                rw [hx]
                exact List.mem_append_right _ List.mem_cons_self
              obtain ⟨c, -, hc⟩ := List.mem_map.1 hmem
              rw [← hc] at hrest
              exact nomatch (List.cons.inj hrest).1
        obtain ⟨before, after, rfl, rfl, rfl⟩ := ih hrest
        exact ⟨.hole j :: before, after, rfl, hcons before, rfl⟩

/-- **A word that is replaced at its holes occurs there only**, if it does not overlap itself. -/
theorem onlyAtHoles_of_replaceAll (hu : Unbordered (f k)) (hne : f k ≠ []) (hnew : new ≠ f k)
    (h : replaceAll (f k) new (expand f pieces) = expand (Function.update f k new) pieces) :
    OnlyAtHoles f k pieces := by
  have hfill (pieces : List (Piece α κ)) :
      expand (fun _ => f k) (only f k pieces) = expand f pieces := by
    rw [expand_only, Function.update_eq_self]
  have htokens : tokens (f k) (expand f pieces) = only f k pieces := by
    have hrefines := refines_tokens hu hne (only f k pieces)
    rw [hfill] at hrefines
    refine hrefines.eq_of_expand hnew ?_
    rw [← replaceAll_eq_expand, h, expand_only]
  intro a b hab
  rw [hab, tokens_split hu hne] at htokens
  obtain ⟨before, after, hpieces, ha, hb⟩ := only_split htokens.symm
  refine ⟨before, after, hpieces, ?_, ?_⟩
  · rw [← hfill, ha, expand_tokens hne]
  · rw [← hfill, hb, expand_tokens hne]

end Foundations
