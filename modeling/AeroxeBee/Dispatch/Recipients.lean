import AeroxeBee.Dispatch.ContentFilter

/-!
# Recipients with one digit over and over

The pattern for numbers that repeat one digit refers back to what a group has matched, which the
engine does not accept. So it is left out, and a number of that shape is found only if it is also
one of the others.

* `recipientPatterns_compiled`: the expressions that the patterns for recipients stand for;
* `listed_iff`: the recipients that match one of them;
* `caught_iff`: which numbers of that shape are reported.
-/

namespace AeroxeBee.Dispatch

open Foundations Regexp

namespace Recipients

/-! ## The shape -/

/-- **A number that repeats one digit**: perhaps a plus, one to three digits and perhaps a
separator, and then a digit six times or more, to the end. -/
def ScamShaped (recipient : String) : Prop :=
  ∃ (start : List Char) (d : Char) (n : ℕ), recipient.toList = start ++ List.replicate n d ∧
    d.isDigit = true ∧ 6 ≤ n ∧
      (start = [] ∨ ∃ plus digits sep : List Char, start = plus ++ digits ++ sep ∧
        plus ∈ [[], ['+']] ∧ digits.all Char.isDigit = true ∧ 1 ≤ digits.length ∧
          digits.length ≤ 3 ∧ sep ∈ [[], ['-'], ['.']])

/-- The filter reports such a number. -/
def Caught (body : BodyPatterns) (message sender recipient : String) : Prop :=
  ScamShaped recipient →
    (newContentFilter body).Reports "suspicious_recipient" message sender recipient

/-! ## The numbers that are found -/

/-- Countries and the numbers in them that cost more; an `x` is any digit. -/
def premiumNumbers : List (String × String) := [
  ("1", "900"), ("1", "976"), ("44", "70"), ("44", "9xx"), ("44", "87x"), ("61", "190"),
  ("61", "19x"), ("49", "900"), ("49", "137"), ("33", "899"), ("33", "89x"), ("31", "900"),
  ("31", "906"), ("32", "900"), ("41", "900"), ("39", "89x"), ("39", "166"), ("34", "803"),
  ("34", "806"), ("34", "807")]

/-- The codes of networks without a country. -/
def satelliteCodes : List String := ["881", "882", "883", "979"]

/-- A plus. -/
def plus : CharSet := .single '+'

/-- A separator. -/
def separator : CharSet := ⟨false, false, [.range '-' '-', .range '.' '.']⟩

/-- What a character of a table stands for. -/
def place (c : Char) : CharSet := if c = 'x' then ⟨false, false, [.range '0' '9']⟩ else .single c

/-- The number begins with a code, after an optional plus. -/
def beginsWith (code : String) (recipient : String) : Bool :=
  startsIn (code.toList.map place) (skip plus recipient.toList)

/-- The number begins with a country and, after an optional separator, a number in it. -/
def dials (x : String × String) (recipient : String) : Bool :=
  let rest := skip plus recipient.toList
  startsIn (x.1.toList.map place) rest &&
    startsIn (x.2.toList.map place) (skip separator (rest.drop x.1.toList.length))

/-- The number begins with sixteen digits, after an optional plus. -/
def tooLong (recipient : String) : Bool :=
  startsIn (List.replicate 16 ⟨false, false, [.perl false .digit]⟩) (skip plus recipient.toList)

/-- **The number is at a premium rate, in a satellite network, or too long.** -/
def Listed (recipient : String) : Prop :=
  (∃ x ∈ premiumNumbers, dials x recipient = true) ∨
    (∃ code ∈ satelliteCodes, beginsWith code recipient = true) ∨ tooLong recipient = true

instance (recipient : String) : Decidable (Listed recipient) :=
  inferInstanceAs (Decidable (_ ∨ _ ∨ _))

/-! ## The expressions -/

/-- The expression for a number that begins with a country and a number in it. -/
def dialled (x : String × String) : Regexp :=
  seq (bol :: opt plus :: (x.1.toList.map place).map one ++
    opt separator :: (x.2.toList.map place).map one)

/-- The expression for a number that begins with a code. -/
def coded (code : String) : Regexp := seq (bol :: opt plus :: (code.toList.map place).map one)

/-- The expression for a number that is too long. -/
def long : Regexp := seq [bol, opt plus, rep (one ⟨false, false, [.perl false .digit]⟩) 16 none]

/-- **The expressions that the patterns stand for.** -/
theorem recipientPatterns_compiled : compilePatterns suspiciousRecipientPatterns =
    premiumNumbers.map dialled ++ satelliteCodes.map coded ++ [long] :=
  (compilePatterns_eq (by repeat constructor)).trans (by decide)

section Matching

variable {S : CharSet} {b cs code : List Char} {c : Char}

/-- What stands for a digit is one. -/
theorem isDigit_of_place {d : Char} (hc : c.isDigit = true ∨ c = 'x') (h : (place c).mem d = true) :
    d.isDigit = true := by
  unfold place at h
  split_ifs at h with hx
  · have hrange : '0' ≤ d ∧ d ≤ '9' := by simpa [CharSet.mem, CharSet.lists] using h
    rw [Char.isDigit, Bool.and_eq_true, decide_eq_true_eq, decide_eq_true_eq]
    exact hrange
  · rw [CharSet.mem_single, decide_eq_true_eq] at h
    exact h ▸ hc.resolve_right hx

theorem isDigit_of_plus (h : plus.mem c = true) : c.isDigit = false := by
  rw [plus, CharSet.mem_single, decide_eq_true_eq] at h
  subst h
  rfl

theorem isDigit_of_separator (h : separator.mem c = true) : c.isDigit = false := by
  have hrange : '-' ≤ c ∧ c ≤ '-' ∨ '.' ≤ c ∧ c ≤ '.' := by
    simpa [separator, CharSet.mem, CharSet.lists] using h
  rcases hrange with ⟨h, h'⟩ | ⟨h, h'⟩
  · obtain rfl := le_antisymm h h'
    rfl
  · obtain rfl := le_antisymm h h'
    rfl

/-- A character that is no digit may be left out before a code. -/
theorem begins_opt_code (rs : List Regexp) (hS : ∀ c, S.mem c = true → c.isDigit = false)
    (hcode : code.head?.any fun c => c.isDigit || c = 'x') :
    ∃ b', Begins (opt S :: ((code.map place).map one ++ rs)) (b, cs) ↔
      Begins ((code.map place).map one ++ rs) (b', skip S cs) := by
  refine begins_opt fun b c cs hc h => ?_
  cases code with
  | nil => cases hcode
  | cons d code =>
    have hfirst := (begins_sets.1 h).1
    rw [List.map_cons, startsIn, Bool.and_eq_true] at hfirst
    have hdigit := isDigit_of_place (by simpa using hcode) hfirst.1
    exact Bool.false_ne_true ((hS c hc).symm.trans hdigit)

/-- The expression for a country and a number in it. -/
theorem occurs_dialled {x : String × String} {recipient : String}
    (hx : x.1.toList.head?.any (fun c => c.isDigit || c = 'x') ∧
      x.2.toList.head?.any fun c => c.isDigit || c = 'x') :
    (dialled x).Occurs recipient.toList ↔ dials x recipient = true := by
  rw [dialled, List.cons_append, List.cons_append, occurs_bol, dials, Bool.and_eq_true]
  obtain ⟨b, hplus⟩ := begins_opt_code _ (fun _ => isDigit_of_plus) hx.1
  rw [hplus, begins_sets]
  refine and_congr_right' ?_
  obtain ⟨b', hseparator⟩ := begins_opt_code [] (fun _ => isDigit_of_separator) hx.2
  rw [List.append_nil] at hseparator
  rw [List.length_map, hseparator, begins_sets_only]

/-- The expression for a code. -/
theorem occurs_coded {code recipient : String}
    (hcode : code.toList.head?.any fun c => c.isDigit || c = 'x') :
    (coded code).Occurs recipient.toList ↔ beginsWith code recipient = true := by
  rw [coded, occurs_bol, beginsWith]
  obtain ⟨b, hplus⟩ := begins_opt_code [] (fun _ => isDigit_of_plus) hcode
  rw [List.append_nil] at hplus
  rw [hplus, begins_sets_only]

/-- The expression for a number that is too long. -/
theorem occurs_long {recipient : String} :
    long.Occurs recipient.toList ↔ tooLong recipient = true := by
  rw [long, occurs_bol, tooLong]
  have hnot : ∀ b c cs, plus.mem c = true →
      ¬ Begins [rep (one ⟨false, false, [.perl false .digit]⟩) 16 none] (b, c :: cs) := by
    intro b c cs hc h
    have hfirst := begins_rep.1 h
    rw [List.replicate_succ, startsIn, Bool.and_eq_true] at hfirst
    have hdigit : c.isDigit = true := by
      simpa [CharSet.mem, CharSet.lists, PerlClass.mem] using hfirst.1
    exact Bool.false_ne_true ((isDigit_of_plus hc).symm.trans hdigit)
  obtain ⟨b, hplus⟩ := begins_opt hnot
  exact hplus.trans begins_rep

end Matching

/-- **The recipients that match one of the expressions.** -/
theorem listed_iff (recipient : String) :
    (compilePatterns suspiciousRecipientPatterns).any (·.matchString recipient) = true ↔
      Listed recipient := by
  have hpremium : ∀ x ∈ premiumNumbers, x.1.toList.head?.any (fun c => c.isDigit || c = 'x') ∧
      x.2.toList.head?.any fun c => c.isDigit || c = 'x' := by
    decide
  have hsatellite : ∀ code ∈ satelliteCodes,
      code.toList.head?.any fun c => c.isDigit || c = 'x' := by
    decide
  rw [recipientPatterns_compiled, List.any_append, List.any_append, Bool.or_eq_true,
    Bool.or_eq_true, or_assoc, List.any_map, List.any_map, List.any_eq_true, List.any_eq_true,
    List.any_cons, List.any_nil, Bool.or_false]
  refine or_congr ?_ (or_congr ?_ ?_)
  · refine exists_congr fun x => and_congr_right fun hx => ?_
    exact matchString_iff.trans (occurs_dialled (hpremium x hx))
  · refine exists_congr fun code => and_congr_right fun hcode => ?_
    exact matchString_iff.trans (occurs_coded (hsatellite code hcode))
  · exact matchString_iff.trans occurs_long

/-- **A number that repeats one digit is reported** exactly if it is at a premium rate, in a
satellite network, or too long. -/
theorem caught_iff (body : BodyPatterns) (message sender recipient : String) :
    Caught body message sender recipient ↔ (ScamShaped recipient → Listed recipient) := by
  refine forall_congr' fun _ => ?_
  rw [ContentFilter.suspiciousRecipient_iff]
  exact listed_iff recipient

/-- A number that repeats one digit, and that the filter lets pass. -/
theorem repeated_not_caught :
    ScamShaped "+1-5555555" ∧
      ¬ Caught ⟨[], [], [], [], [], [], [], [], []⟩ "Hello" "Shop" "+1-5555555" := by
  have hshaped : ScamShaped "+1-5555555" :=
    ⟨"+1-".toList, '5', 7, by decide, by decide, by decide,
      .inr ⟨['+'], ['1'], ['-'], by decide, by decide, by decide, by decide, by decide,
        by decide⟩⟩
  refine ⟨hshaped, fun h => ?_⟩
  have hlisted := (listed_iff _).1 ((ContentFilter.suspiciousRecipient_iff _ _ _ _).1 (h hshaped))
  revert hlisted
  decide

end Recipients

end AeroxeBee.Dispatch
