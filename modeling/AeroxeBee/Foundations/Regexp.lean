import Mathlib.Data.Char
import Mathlib.Data.List.Infix

/-!
# Regular expressions

Regular expressions without back references, read from the syntax that engines which run in linear
time accept, and matched anywhere in a text. An expression is a relation between positions of the
text: from the first to the second it matches what lies between them.

* `Regexp.compile`: the expression that a pattern stands for, if it stands for one;
* `Regexp.Matches`: what an expression matches;
* `Regexp.mem_ends`: the ends of the matches from a position are found by trying;
* `Regexp.matchString_iff`: so is whether an expression matches somewhere in a text.
-/

namespace Foundations

/-! ## Characters -/

/-- The classes of characters with a letter of their own. -/
inductive PerlClass where
  | digit
  | space
  | word
deriving DecidableEq

/-- The members of a class, all of them in ASCII. -/
def PerlClass.mem : PerlClass → Char → Bool
  | digit, c => c.isDigit
  | space, c => c = ' ' || c = '\t' || c = '\n' || c = '\x0c' || c = '\r'
  | word, c => c.isAlphanum || c = '_'

/-- What a class in brackets lists. -/
inductive ClassItem where
  | range (lo hi : Char)
  | perl (negated : Bool) (p : PerlClass)
deriving DecidableEq

/-- The letters of ASCII that a character is not told from when case does not matter; a character
that is not told from any stands for itself. -/
def foldsTo (c : Char) : List Char :=
  if c.isAlpha then [c.toLower, c.toUpper]
  else if c = 'K' then ['k', 'K']
  else if c = 'ſ' then ['s', 'S']
  else [c]

/-- A set of characters. -/
structure CharSet where
  negated : Bool
  foldCase : Bool
  items : List ClassItem
deriving DecidableEq

namespace CharSet

/-- Whether an item lists a character. -/
def lists (foldCase : Bool) (c : Char) : ClassItem → Bool
  | .range lo hi => (if foldCase then foldsTo c else [c]).any fun d => lo ≤ d && d ≤ hi
  | .perl negated p => p.mem c != negated

/-- The members of a set. -/
def mem (S : CharSet) (c : Char) : Bool := S.items.any (lists S.foldCase c) != S.negated

/-- One character. -/
def single (c : Char) : CharSet := ⟨false, false, [.range c c]⟩

@[simp] theorem mem_single (c d : Char) : (single c).mem d = decide (d = c) := by
  rw [Bool.eq_iff_iff, decide_eq_true_iff, @le_antisymm_iff Char]
  simp [single, mem, lists, and_comm]

end CharSet

/-! ## Expressions -/

/-- Regular expressions. -/
inductive Regexp where
  /-- Nothing, anywhere. -/
  | empty
  /-- One character of a set. -/
  | one (S : CharSet)
  /-- Nothing, at the beginning of the text. -/
  | bol
  /-- Nothing, at the end of the text. -/
  | eol
  /-- Nothing, between a character of a word and one that is not. -/
  | boundary
  | cat (r s : Regexp)
  | alt (r s : Regexp)
  /-- The expression, so many times at least and so many times at most. -/
  | rep (r : Regexp) (lo : ℕ) (hi : Option ℕ)
deriving DecidableEq

/-! ## Patterns -/

/-- What a pattern is made of. -/
inductive Token where
  | set (negated : Bool) (items : List ClassItem)
  | bol
  | eol
  | boundary
  | rep (lo : ℕ) (hi : Option ℕ)
  | bar
  | opening
  | closing
  | foldCase
deriving DecidableEq

namespace Token

/-- A number. -/
def readNat (cs : List Char) : Option (ℕ × List Char) :=
  let ds := cs.takeWhile Char.isDigit
  if ds = [] then none
  else some (ds.foldl (fun n c => 10 * n + (c.toNat - '0'.toNat)) 0, cs.dropWhile Char.isDigit)

/-- The bounds of a repetition, after the brace. -/
def readBounds (cs : List Char) : Option ((ℕ × Option ℕ) × List Char) :=
  match readNat cs with
  | some (lo, '\x7d' :: rest) => some ((lo, some lo), rest)
  | some (lo, ',' :: '\x7d' :: rest) => some ((lo, none), rest)
  | some (lo, ',' :: rest) =>
    match readNat rest with
    | some (hi, '\x7d' :: rest) => some ((lo, some hi), rest)
    | _ => none
  | _ => none

/-- What is escaped by a backslash: the letter of a class, or a character that is none of a word.
There are no references to what a group has matched. -/
def escape (c : Char) : Except String ClassItem :=
  match c with
  | 'd' => .ok (.perl false .digit)
  | 'D' => .ok (.perl true .digit)
  | 's' => .ok (.perl false .space)
  | 'S' => .ok (.perl true .space)
  | 'w' => .ok (.perl false .word)
  | 'W' => .ok (.perl true .word)
  | 'n' => .ok (.range '\n' '\n')
  | 't' => .ok (.range '\t' '\t')
  | 'r' => .ok (.range '\r' '\r')
  | c =>
    if c.toNat < 128 && !c.isAlphanum then .ok (.range c c)
    else .error "invalid escape sequence"

/-- The items of a class in brackets, up to the closing bracket; one that comes first is an item. -/
def readItems : ℕ → List ClassItem → List Char → Except String (List ClassItem × List Char)
  | 0, _, _ => .error "missing closing ]"
  | fuel + 1, items, cs =>
    match cs with
    | [] => .error "missing closing ]"
    | '\\' :: [] => .error "trailing backslash at end of expression"
    | '\\' :: c :: rest => do readItems fuel ((← escape c) :: items) rest
    | lo :: '-' :: hi :: rest =>
      if lo = ']' ∧ items ≠ [] then .ok (items.reverse, '-' :: hi :: rest)
      else if hi = ']' then readItems fuel (.range lo lo :: items) ('-' :: hi :: rest)
      else if hi < lo then .error "invalid character class range"
      else readItems fuel (.range lo hi :: items) rest
    | c :: rest =>
      if c = ']' ∧ items ≠ [] then .ok (items.reverse, rest)
      else readItems fuel (.range c c :: items) rest

/-- A repetition may be marked as one that prefers fewer; it matches the same. -/
def dropLazy : List Char → List Char
  | '?' :: rest => rest
  | cs => cs

/-- The tokens of a pattern. -/
def read : ℕ → List Char → Except String (List Token)
  | _, [] => .ok []
  | 0, _ => .error "internal error"
  | fuel + 1, c :: cs =>
    match c with
    | '^' => do return .bol :: (← read fuel cs)
    | '$' => do return .eol :: (← read fuel cs)
    | '.' => do return .set true [.range '\n' '\n'] :: (← read fuel cs)
    | '*' => do return .rep 0 none :: (← read fuel (dropLazy cs))
    | '+' => do return .rep 1 none :: (← read fuel (dropLazy cs))
    | '?' => do return .rep 0 (some 1) :: (← read fuel (dropLazy cs))
    | '|' => do return .bar :: (← read fuel cs)
    | ')' => do return .closing :: (← read fuel cs)
    | '(' =>
      match cs with
      | '?' :: 'i' :: ')' :: rest => do return .foldCase :: (← read fuel rest)
      | '?' :: ':' :: rest => do return .opening :: (← read fuel rest)
      | '?' :: _ => .error "invalid or unsupported Perl syntax"
      | cs => do return .opening :: (← read fuel cs)
    | '\x7b' =>
      match readBounds cs with
      | some ((lo, hi), rest) =>
        if hi.any (· < lo) then .error "invalid repeat count"
        else do return .rep lo hi :: (← read fuel (dropLazy rest))
      | none => do return .set false [.range '\x7b' '\x7b'] :: (← read fuel cs)
    | '[' => do
      let negated := cs.head? = some '^'
      let (items, rest) ← readItems (cs.length + 1) [] (if negated then cs.tail else cs)
      return .set negated items :: (← read fuel rest)
    | '\\' =>
      match cs with
      | [] => .error "trailing backslash at end of expression"
      | 'b' :: rest => do return .boundary :: (← read fuel rest)
      | c :: rest => do return .set false [← escape c] :: (← read fuel rest)
    | c => do return .set false [.range c c] :: (← read fuel cs)

end Token

namespace Regexp

/-- One expression after the other. -/
def seq : List Regexp → Regexp := List.foldr cat empty

/-- What has been read of a group: the alternatives before the last bar, and what comes after it,
both from the last to the first. -/
structure Group where
  alternatives : List Regexp
  parts : List Regexp
  foldCase : Bool

namespace Group

/-- The expression of a group. -/
def build (g : Group) : Regexp := g.alternatives.foldl (fun r s => alt s r) (seq g.parts.reverse)

/-- Read one more part. -/
def push (g : Group) (r : Regexp) : Group := { g with parts := r :: g.parts }

end Group

/-- The expression of the tokens that are left, in a group that is in others. -/
def parse : List Token → Group → List Group → Except String Regexp
  | [], g, [] => .ok g.build
  | [], _, _ :: _ => .error "missing closing )"
  | .set negated items :: toks, g, outer =>
    parse toks (g.push (.one ⟨negated, g.foldCase, items⟩)) outer
  | .bol :: toks, g, outer => parse toks (g.push .bol) outer
  | .eol :: toks, g, outer => parse toks (g.push .eol) outer
  | .boundary :: toks, g, outer => parse toks (g.push .boundary) outer
  | .rep lo hi :: toks, g, outer =>
    match g.parts with
    | [] => .error "missing argument to repetition operator"
    | r :: parts => parse toks { g with parts := .rep r lo hi :: parts } outer
  | .bar :: toks, g, outer =>
    parse toks ⟨seq g.parts.reverse :: g.alternatives, [], g.foldCase⟩ outer
  | .opening :: toks, g, outer => parse toks ⟨[], [], g.foldCase⟩ (g :: outer)
  | .closing :: _, _, [] => .error "unexpected )"
  | .closing :: toks, g, g' :: outer => parse toks (g'.push g.build) outer
  | .foldCase :: toks, g, outer => parse toks { g with foldCase := true } outer

/-- **The expression that a pattern stands for**, if it stands for one. -/
def compile (pattern : String) : Except String Regexp := do
  parse (← Token.read pattern.length pattern.toList) ⟨[], [], false⟩ []

end Regexp

/-! ## Matches -/

/-- A position in a text: what comes before it, from there backwards, and what comes after it. -/
abbrev Place := List Char × List Char

/-- A relation, so many times. -/
def Steps {α : Type*} (R : α → α → Prop) : ℕ → α → α → Prop
  | 0 => Eq
  | n + 1 => fun p q => ∃ x, R p x ∧ Steps R n x q

namespace Regexp

/-- Whether there is a character, one of a word. -/
def isWord (c : Option Char) : Bool := c.any PerlClass.word.mem

/-- **What an expression matches.** -/
def Matches : Regexp → Place → Place → Prop
  | empty, p, q => q = p
  | one S, p, q => ∃ c a, p.2 = c :: a ∧ S.mem c = true ∧ q = (c :: p.1, a)
  | bol, p, q => p.1 = [] ∧ q = p
  | eol, p, q => p.2 = [] ∧ q = p
  | boundary, p, q => isWord p.1.head? ≠ isWord p.2.head? ∧ q = p
  | cat r s, p, q => ∃ x, r.Matches p x ∧ s.Matches x q
  | alt r s, p, q => r.Matches p q ∨ s.Matches p q
  | rep r lo hi, p, q => ∃ k, (∀ n ∈ hi, k ≤ n - lo) ∧ Steps r.Matches (lo + k) p q

/-- The positions of a text. -/
def places (cs : List Char) : List Place :=
  (List.range (cs.length + 1)).map fun k => ((cs.take k).reverse, cs.drop k)

/-- The expression matches somewhere in the text. -/
def Occurs (r : Regexp) (cs : List Char) : Prop := ∃ p ∈ places cs, ∃ q, r.Matches p q

/-! ## Trying -/

/-- What comes of a step, so many times. -/
def times {α : Type*} (f : α → List α) : ℕ → α → List α
  | 0, p => [p]
  | n + 1, p => (f p).flatMap (times f n)

/-- What comes of a step, at most so many times. -/
def upTo {α : Type*} (f : α → List α) : ℕ → α → List α
  | 0, p => [p]
  | n + 1, p => p :: (f p).flatMap (upTo f n)

/-- The ends of the matches from a position. A repetition without a bound need not be tried more
often than there are characters. -/
def ends : Regexp → Place → List Place
  | empty, p => [p]
  | one S, (b, c :: a) => if S.mem c then [(c :: b, a)] else []
  | one _, (_, []) => []
  | bol, p => if p.1 = [] then [p] else []
  | eol, p => if p.2 = [] then [p] else []
  | boundary, p => if isWord p.1.head? ≠ isWord p.2.head? then [p] else []
  | cat r s, p => (r.ends p).flatMap s.ends
  | alt r s, p => r.ends p ++ s.ends p
  | rep r lo hi, p =>
    (times r.ends lo p).flatMap (upTo r.ends (hi.elim p.2.length (· - lo)))

/-- Whether the expression matches somewhere in a text. -/
def matchString (r : Regexp) (s : String) : Bool :=
  (places s.toList).any fun p => !(r.ends p).isEmpty

section Trying

variable {α : Type*} {f : α → List α} {R : α → α → Prop} {n : ℕ} {p q : α}

theorem mem_times (hf : ∀ p q, q ∈ f p ↔ R p q) : q ∈ times f n p ↔ Steps R n p q := by
  induction n generalizing p with
  | zero => exact List.mem_singleton.trans eq_comm
  | succ n ih =>
    rw [times, List.mem_flatMap]
    exact exists_congr fun x => and_congr (hf p x) ih

theorem mem_upTo (hf : ∀ p q, q ∈ f p ↔ R p q) : q ∈ upTo f n p ↔ ∃ k ≤ n, Steps R k p q := by
  induction n generalizing p with
  | zero =>
    rw [upTo, List.mem_singleton]
    constructor
    · rintro rfl
      exact ⟨0, le_rfl, rfl⟩
    · rintro ⟨k, hk, h⟩
      obtain rfl := Nat.le_zero.1 hk
      exact h.symm
  | succ n ih =>
    rw [upTo, List.mem_cons, List.mem_flatMap]
    constructor
    · rintro (rfl | ⟨x, hx, hq⟩)
      · exact ⟨0, Nat.zero_le _, rfl⟩
      · obtain ⟨k, hk, h⟩ := ih.1 hq
        exact ⟨k + 1, Nat.succ_le_succ hk, x, (hf p x).1 hx, h⟩
    · rintro ⟨k, hk, h⟩
      cases k with
      | zero => exact .inl (Eq.symm h)
      | succ k =>
        obtain ⟨x, hx, h⟩ := h
        exact .inr ⟨x, (hf p x).2 hx, ih.2 ⟨k, Nat.le_of_succ_le_succ hk, h⟩⟩

theorem steps_add {m : ℕ} : Steps R (n + m) p q ↔ ∃ x, Steps R n p x ∧ Steps R m x q := by
  induction n generalizing p with
  | zero =>
    rw [Nat.zero_add]
    exact ⟨fun h => ⟨p, rfl, h⟩, fun ⟨x, hx, h⟩ => (Eq.symm hx : x = p) ▸ h⟩
  | succ n ih =>
    rw [Nat.succ_add]
    constructor
    · rintro ⟨y, hy, h⟩
      obtain ⟨x, hx, hxq⟩ := ih.1 h
      exact ⟨x, ⟨y, hy, hx⟩, hxq⟩
    · rintro ⟨x, ⟨y, hy, hx⟩, hxq⟩
      exact ⟨y, hy, ih.2 ⟨x, hx, hxq⟩⟩

end Trying

/-- A match goes on in the text. -/
def Forward (p q : Place) : Prop := ∃ s, p.2 = s ++ q.2 ∧ q.1 = s.reverse ++ p.1

theorem Forward.refl (p : Place) : Forward p p := ⟨[], rfl, rfl⟩

theorem Forward.trans {p q x : Place} (h : Forward p x) (h' : Forward x q) : Forward p q := by
  obtain ⟨s, hs, hs'⟩ := h
  obtain ⟨t, ht, ht'⟩ := h'
  exact ⟨s ++ t, by rw [hs, ht, List.append_assoc], by
    rw [ht', hs', List.reverse_append, List.append_assoc]⟩

theorem Steps.forward {R : Place → Place → Prop} (hR : ∀ p q, R p q → Forward p q) {n : ℕ}
    {p q : Place} (h : Steps R n p q) : Forward p q := by
  induction n generalizing p with
  | zero =>
    obtain rfl : p = q := h
    exact .refl p
  | succ n ih =>
    obtain ⟨x, hx, h⟩ := h
    exact (hR p x hx).trans (ih h)

theorem Matches.forward {r : Regexp} {p q : Place} (h : r.Matches p q) : Forward p q := by
  induction r generalizing p q with
  | empty =>
    obtain rfl : q = p := h
    exact .refl q
  | one S =>
    obtain ⟨c, a, hp, -, rfl⟩ := h
    exact ⟨[c], hp, rfl⟩
  | bol | eol | boundary =>
    obtain ⟨-, rfl⟩ := h
    exact .refl q
  | cat r s ihr ihs =>
    obtain ⟨x, hx, h⟩ := h
    exact (ihr hx).trans (ihs h)
  | alt r s ihr ihs => exact h.elim ihr ihs
  | rep r lo hi ih =>
    obtain ⟨k, -, h⟩ := h
    exact Steps.forward (fun _ _ => ih) h

/-- Of more steps than there are characters, one can be left out. -/
theorem Steps.pred {R : Place → Place → Prop} (hR : ∀ p q, R p q → Forward p q) {n : ℕ}
    {p q : Place} (h : Steps R (n + 1) p q) (hn : p.2.length - q.2.length ≤ n) : Steps R n p q := by
  induction n generalizing p with
  | zero =>
    obtain ⟨x, hx, rfl : x = q⟩ := h
    obtain ⟨s, hs, hs'⟩ := hR p x hx
    have hlength := congrArg List.length hs
    rw [List.length_append] at hlength
    obtain rfl : s = [] := List.length_eq_zero_iff.1 (by omega)
    exact Prod.ext hs'.symm hs
  | succ n ih =>
    obtain ⟨x, hx, h⟩ := h
    obtain ⟨s, hs, hs'⟩ := hR p x hx
    cases s with
    | nil =>
      obtain rfl : x = p := Prod.ext hs' hs.symm
      exact h
    | cons c s =>
      refine ⟨x, hx, ih h ?_⟩
      have hlength := congrArg List.length hs
      rw [List.length_append, List.length_cons] at hlength
      omega

/-- More steps than there are characters are not needed. -/
theorem Steps.shorten {R : Place → Place → Prop} (hR : ∀ p q, R p q → Forward p q) {k : ℕ}
    {p q : Place} (h : Steps R k p q) : ∃ m ≤ p.2.length, Steps R m p q := by
  induction k with
  | zero => exact ⟨0, Nat.zero_le _, h⟩
  | succ k ih =>
    by_cases hk : k + 1 ≤ p.2.length
    · exact ⟨k + 1, hk, h⟩
    · exact ih (Steps.pred hR h (by omega))

/-- **The ends of the matches are found by trying.** -/
theorem mem_ends {r : Regexp} {p q : Place} : q ∈ r.ends p ↔ r.Matches p q := by
  induction r generalizing p q with
  | empty => exact List.mem_singleton
  | one S =>
    obtain ⟨b, _ | ⟨c, a⟩⟩ := p
    · simp [ends, Matches]
    · by_cases hc : S.mem c = true <;> simp [ends, Matches, hc]
  | bol | eol | boundary =>
    rw [ends, Matches]
    split_ifs with h <;> simp [h]
  | cat r s ihr ihs =>
    rw [ends, List.mem_flatMap]
    exact exists_congr fun x => and_congr ihr ihs
  | alt r s ihr ihs => exact List.mem_append.trans (or_congr ihr ihs)
  | rep r lo hi ih =>
    have hends : ∀ p q, q ∈ r.ends p ↔ r.Matches p q := fun _ _ => ih
    rw [ends, List.mem_flatMap, Matches]
    constructor
    · rintro ⟨x, hx, hq⟩
      obtain ⟨k, hk, hq⟩ := (mem_upTo hends).1 hq
      refine ⟨k, fun n hn => ?_, steps_add.2 ⟨x, (mem_times hends).1 hx, hq⟩⟩
      obtain rfl := Option.mem_def.1 hn
      exact hk
    · rintro ⟨k, hk, h⟩
      obtain ⟨x, hx, h⟩ := steps_add.1 h
      refine ⟨x, (mem_times hends).2 hx, (mem_upTo hends).2 ?_⟩
      cases hi with
      | some n => exact ⟨k, hk n rfl, h⟩
      | none =>
        obtain ⟨m, hm, h⟩ := Steps.shorten (fun _ _ => Matches.forward) h
        obtain ⟨s, hs, -⟩ := Steps.forward (fun _ _ => Matches.forward) hx
        refine ⟨m, hm.trans ?_, h⟩
        rw [hs, List.length_append]
        exact Nat.le_add_left _ _

/-- **Whether an expression matches somewhere in a text is found by trying.** -/
theorem matchString_iff {r : Regexp} {s : String} : r.matchString s = true ↔ r.Occurs s.toList := by
  rw [matchString, List.any_eq_true, Occurs]
  refine exists_congr fun p => and_congr_right' ?_
  rw [Bool.not_eq_true', List.isEmpty_eq_false_iff_exists_mem]
  exact exists_congr fun q => mem_ends

/-! ## Sequences -/

section Sequences

variable {r : Regexp} {rs : List Regexp} {S : CharSet} {b cs : List Char} {n : ℕ} {p q : Place}

/-- A sequence matches from a place on. -/
def Begins (rs : List Regexp) (p : Place) : Prop := ∃ q, (seq rs).Matches p q

theorem begins_nil : Begins [] p := ⟨p, rfl⟩

theorem begins_cons : Begins (r :: rs) p ↔ ∃ x, r.Matches p x ∧ Begins rs x := by
  constructor
  · rintro ⟨q, x, hx, h⟩
    exact ⟨x, hx, q, h⟩
  · rintro ⟨x, hx, q, h⟩
    exact ⟨q, x, hx, h⟩

/-- An expression for the beginning of the text matches there, or nowhere. -/
theorem occurs_bol : (seq (bol :: rs)).Occurs cs ↔ Begins rs ([], cs) := by
  constructor
  · rintro ⟨p, hp, q, x, ⟨hbegin, rfl⟩, h⟩
    obtain ⟨k, -, rfl⟩ := List.mem_map.1 hp
    have htake : cs.take k = [] := List.reverse_eq_nil_iff.1 hbegin
    have hdrop : cs.drop k = cs := by simpa [htake] using List.take_append_drop k cs
    rw [htake, hdrop] at h
    exact ⟨q, h⟩
  · rintro ⟨q, h⟩
    exact ⟨([], cs), List.mem_map.2 ⟨0, by simp, rfl⟩, q, ([], cs), ⟨rfl, rfl⟩, h⟩

/-- A character of a set, and then more. -/
theorem exists_one {P : Place → Prop} {c : Char} :
    (∃ x, (one S).Matches (b, c :: cs) x ∧ P x) ↔ S.mem c = true ∧ P (c :: b, cs) := by
  constructor
  · rintro ⟨x, ⟨d, a, hcs, hd, rfl⟩, h⟩
    obtain ⟨rfl, rfl⟩ := List.cons.inj hcs
    exact ⟨hd, h⟩
  · exact fun ⟨hc, h⟩ => ⟨(c :: b, cs), ⟨c, cs, rfl, hc, rfl⟩, h⟩

theorem not_one_nil {P : Place → Prop} : ¬ ∃ x, (one S).Matches (b, []) x ∧ P x := by
  rintro ⟨x, ⟨d, a, hcs, -⟩, -⟩
  cases hcs

/-- Characters of some sets, one after the other. -/
def startsIn : List CharSet → List Char → Bool
  | [], _ => true
  | _ :: _, [] => false
  | S :: sets, c :: cs => S.mem c && startsIn sets cs

/-- A sequence that begins with characters of some sets. -/
theorem begins_sets {sets : List CharSet} : Begins (sets.map one ++ rs) (b, cs) ↔
    startsIn sets cs = true ∧
      Begins rs ((cs.take sets.length).reverse ++ b, cs.drop sets.length) := by
  induction sets generalizing b cs with
  | nil => simp [startsIn]
  | cons S sets ih =>
    rw [List.map_cons, List.cons_append, begins_cons]
    cases cs with
    | nil => exact iff_of_false not_one_nil fun h => nomatch h.1
    | cons c cs =>
      rw [exists_one, ih, startsIn, Bool.and_eq_true, and_assoc, List.length_cons,
        List.take_succ_cons, List.drop_succ_cons, List.reverse_cons, List.append_assoc,
        List.singleton_append]

/-- Nothing but characters of some sets. -/
theorem begins_sets_only {sets : List CharSet} :
    Begins (sets.map one) (b, cs) ↔ startsIn sets cs = true := by
  rw [← List.append_nil (sets.map one), begins_sets]
  exact and_iff_left begins_nil

/-- What is left after a character of a set, if there is one. -/
def skip (S : CharSet) : List Char → List Char
  | c :: cs => if S.mem c then cs else c :: cs
  | [] => []

/-- A character that may be left out. -/
def opt (S : CharSet) : Regexp := rep (one S) 0 (some 1)

theorem matches_opt : (opt S).Matches p q ↔ q = p ∨ (one S).Matches p q := by
  constructor
  · rintro ⟨k, hk, h⟩
    have hone : k ≤ 1 := hk 1 rfl
    rw [Nat.zero_add] at h
    rcases Nat.le_one_iff_eq_zero_or_eq_one.1 hone with rfl | rfl
    · exact .inl (Eq.symm h)
    · obtain ⟨x, hx, rfl⟩ := h
      exact .inr hx
  · rintro (rfl | h)
    · exact ⟨0, fun _ _ => Nat.zero_le _, rfl⟩
    · exact ⟨1, fun n hn => Option.some.inj hn ▸ le_rfl, q, h, rfl⟩

/-- A character that may be left out, before what cannot begin with it. -/
theorem begins_opt (hnot : ∀ b c cs, S.mem c = true → ¬ Begins rs (b, c :: cs)) :
    ∃ b', Begins (opt S :: rs) (b, cs) ↔ Begins rs (b', skip S cs) := by
  have hopt : Begins (opt S :: rs) (b, cs) ↔
      Begins rs (b, cs) ∨ ∃ x, (one S).Matches (b, cs) x ∧ Begins rs x := by
    simp only [begins_cons, matches_opt, or_and_right, exists_or, exists_eq_left]
  rw [hopt]
  cases cs with
  | nil => exact ⟨b, or_iff_left not_one_nil⟩
  | cons c cs =>
    rw [exists_one, skip]
    split_ifs with hc
    · refine ⟨c :: b, ?_⟩
      rw [and_iff_right hc]
      exact or_iff_right (hnot b c cs hc)
    · exact ⟨b, or_iff_left fun h => hc h.1⟩

/-- So many characters of a set. -/
theorem steps_one : Steps (one S).Matches n (b, cs) q ↔
    startsIn (List.replicate n S) cs = true ∧ q = ((cs.take n).reverse ++ b, cs.drop n) := by
  induction n generalizing b cs with
  | zero => simp [Steps, startsIn, eq_comm]
  | succ n ih =>
    rw [List.replicate_succ]
    cases cs with
    | nil => exact iff_of_false not_one_nil fun h => nomatch h.1
    | cons c cs =>
      refine exists_one.trans ?_
      rw [ih, startsIn, Bool.and_eq_true, and_assoc, List.take_succ_cons, List.drop_succ_cons,
        List.reverse_cons, List.append_assoc, List.singleton_append]

/-- At least so many characters of a set. -/
theorem begins_rep : Begins [rep (one S) n none] (b, cs) ↔
    startsIn (List.replicate n S) cs = true := by
  rw [begins_cons]
  constructor
  · rintro ⟨x, ⟨k, -, h⟩, -⟩
    obtain ⟨y, hy, -⟩ := steps_add.1 h
    exact (steps_one.1 hy).1
  · exact fun h => ⟨_, ⟨0, nofun, steps_one.2 ⟨h, rfl⟩⟩, begins_nil⟩

/-- Characters of a set, more than so many. -/
theorem startsIn_of_forall (hcs : ∀ c ∈ cs, S.mem c = true) (hn : n ≤ cs.length) :
    startsIn (List.replicate n S) cs = true := by
  induction n generalizing cs with
  | zero => rfl
  | succ n ih =>
    cases cs with
    | nil => cases hn
    | cons c cs =>
      rw [List.replicate_succ, startsIn, Bool.and_eq_true]
      obtain ⟨hc, hcs⟩ := List.forall_mem_cons.1 hcs
      exact ⟨hc, ih hcs (Nat.le_of_succ_le_succ hn)⟩

/-- A text of characters of a set, if there are neither too few nor too many, to its end. -/
theorem begins_rep_eol {lo hi : ℕ} (hcs : ∀ c ∈ cs, S.mem c = true) (hlo : lo ≤ cs.length)
    (hhi : cs.length ≤ hi) : Begins [rep (one S) lo (some hi), eol] (b, cs) := by
  refine begins_cons.2 ⟨(cs.reverse ++ b, []), ⟨cs.length - lo, ?_, ?_⟩,
    begins_cons.2 ⟨_, ⟨rfl, rfl⟩, begins_nil⟩⟩
  · intro n hn
    obtain rfl := Option.some.inj hn
    exact Nat.sub_le_sub_right hhi lo
  · rw [Nat.add_sub_cancel' hlo]
    refine steps_one.2 ⟨startsIn_of_forall hcs le_rfl, ?_⟩
    rw [List.take_length, List.drop_length]

end Sequences

end Regexp

end Foundations
