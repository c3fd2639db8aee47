import AeroxeBee.Api.Endpoints
import AeroxeBee.Dispatch.ContentFilter

/-!
# The senders of the member portal

A message from the portal is sent under what its device is called, or under the number of the
device, or under the name of the product. The sanitizer, which knows how long a sender may be, and
the content filter, which takes a number for a pretence, were written for other senders: no number
passes both.

* `memberSend_derives`: the sender of a message from the portal is the one of its device;
* `refused_or_suspicious`: what becomes of a number;
* `usable_iff`: the devices whose messages can be sent.
-/

namespace AeroxeBee.Api

open Foundations Dispatch

/-- Letters are told as such, and nothing else of ASCII has another case. -/
structure CharClasses.Usual (chars : CharClasses) : Prop where
  space : ∀ c : Char, c.isAlpha = true → chars.isSpace c = false
  letter : ∀ c : Char, c.isAlpha = true → chars.isLetter c = true
  lower : ∀ c : Char, c.toNat < 128 → chars.toLower c = c.toLower

namespace Senders

variable {svc : Services} {body : BodyPatterns} {device : Device} {sender phone : String}

/-! ## What is derived -/

/-- The sender that the portal takes for a device. -/
def derived (device : Device) : String :=
  if device.name ≠ "" then device.name
  else if device.phoneNumber ≠ "" then device.phoneNumber
  else "AeroXe Bee"

/-- The filter knows senders like that. -/
def suspicious (sender : String) : Bool :=
  (compilePatterns suspiciousSenderPatterns).any (·.matchString sender)

/-- **The sender of a device can be used**: it is acceptable, unless it is a name, and if a message
is sent under it then the filter does not object to the sender. -/
structure Usable (svc : Services) (body : BodyPatterns) (device : Device) : Prop where
  accepted : device.name = "" → (sanitizeSender svc (derived device)).isSome = true
  passes : ∀ sender, deviceSender svc device = .ok sender → ∀ message recipient,
    ¬ (newContentFilter body).Reports "suspicious_sender" message sender recipient

/-- A statement that stores a message stores it under the sender of a device. -/
def Derives (svc : Services) {β : Type} : ServerCmd β → Prop
  | .db (.createMessage row) => ∃ device, deviceSender svc device = .ok row.sender
  | _ => True

/-! ## The sender of a message -/

theorem Checks.derives {keys : Prop} {β : Type} {e : ServerCmd β} (h : Checks keys e) :
    Derives svc e := by
  cases e with
  | db q =>
    cases q with
    | createMessage _ => exact h.elim
    | _ => trivial
  | _ => trivial

/-- **A message from the portal is stored under the sender of a device.** -/
theorem memberSend_derives (accountID : String) (body : Option SendSMSRequest) :
    (memberSend svc accountID body).Only (Derives svc) := by
  refine memberSend_only Checks.derives fun device startTime d hsender => ?_
  refine @memberFresh_only svc True _ _ _ _ Checks.derives ?_ ?_ (fun _ => trivial) fun msgID now => ?_
  · exact fun _ _ _ => ⟨device, hsender⟩
  · exact ⟨trivial, fun _ => ⟨trivial, fun _ => trivial⟩⟩
  · exact (@Worker.enqueue_only svc.cfg.queue "" _ _).embed fun _ _ => trivial

/-! ## Numbers -/

/-- The text without blanks around it, as both checks see it. -/
def trimmed (svc : Services) (text : String) : List Char :=
  ((text.toList.dropWhile svc.chars.isSpace).reverse.dropWhile svc.chars.isSpace).reverse

theorem eq_of_sanitizeSender (h : sanitizeSender svc phone = some sender) :
    sender = String.ofList (trimmed svc phone) := by
  unfold sanitizeSender at h
  dsimp only at h
  split_ifs at h
  exact (Option.some.inj h).symm

/-- A digit. -/
def digit : CharSet := ⟨false, false, [.perl false .digit]⟩

/-- What the filter takes for a number. -/
def number : Regexp :=
  Regexp.seq [.bol, Regexp.opt (.single '+'), .rep (.one digit) 6 (some 15), .eol]

/-- One of the patterns is for numbers, and the name of the product is none of those the filter
knows. -/
theorem senderPatterns_spec : number ∈ compilePatterns suspiciousSenderPatterns ∧
    suspicious "AeroXe Bee" = false := by
  have hread : compilePatterns suspiciousSenderPatterns = _ := compilePatterns_eq (by repeat constructor)
  rw [suspicious, hread]
  decide +kernel

theorem digit_mem {c : Char} (h : c.isDigit = true) : digit.mem c = true := by
  simpa [digit, CharSet.mem, CharSet.lists, PerlClass.mem] using h

/-- Six to fifteen digits are a number, perhaps after a plus. -/
theorem number_occurs {cs digits : List Char} (hcs : cs = digits ∨ cs = '+' :: digits)
    (hdigits : ∀ c ∈ digits, c.isDigit = true) (hmin : 6 ≤ digits.length)
    (hmax : digits.length ≤ 15) : number.Occurs cs := by
  have hrest : ∀ b, Regexp.Begins [.rep (.one digit) 6 (some 15), .eol] (b, digits) := fun _ =>
    Regexp.begins_rep_eol (fun c hc => digit_mem (hdigits c hc)) hmin hmax
  refine Regexp.occurs_bol.2 (Regexp.begins_cons.2 ?_)
  rcases hcs with rfl | rfl
  · exact ⟨_, Regexp.matches_opt.2 (.inl rfl), hrest _⟩
  · exact ⟨(['+'], digits), Regexp.matches_opt.2 (.inr ⟨'+', digits, rfl, by simp, rfl⟩), hrest _⟩

/-- A phone number has a number's digits. -/
theorem digits_of_valid (h : isValidPhoneNumber svc phone = true) :
    ∃ digits, (trimmed svc phone = digits ∨ trimmed svc phone = '+' :: digits) ∧
      (∀ c ∈ digits, c.isDigit = true) ∧ 7 ≤ digits.length ∧ digits.length ≤ 15 := by
  rw [isValidPhoneNumber, ← trimmed] at h
  simp only [Bool.and_eq_true, decide_eq_true_eq, List.all_eq_true] at h
  obtain ⟨⟨⟨hall, -⟩, hmin⟩, hmax⟩ := h
  refine ⟨_, ?_, hall, hmin, hmax⟩
  split
  · exact .inr ‹_›
  · exact .inl rfl

/-- **A phone number is refused as a sender, or it is suspicious.** -/
theorem refused_or_suspicious (hvalid : isValidPhoneNumber svc phone = true)
    (h : sanitizeSender svc phone = some sender) : suspicious sender = true := by
  obtain ⟨digits, hcs, hdigits, hmin, hmax⟩ := digits_of_valid hvalid
  refine List.any_eq_true.2 ⟨number, senderPatterns_spec.1, Regexp.matchString_iff.2 ?_⟩
  rw [eq_of_sanitizeSender h, String.toList_ofList]
  exact number_occurs hcs hdigits (Nat.le_of_succ_le hmin) hmax

/-! ## Which devices can be used -/

theorem trimmed_default (hchars : svc.chars.Usual) :
    trimmed svc "AeroXe Bee" = "AeroXe Bee".toList := by
  have hlist : "AeroXe Bee".toList = 'A' :: "eroXe Be".toList ++ ['e'] := by decide
  have hfirst : svc.chars.isSpace 'A' = false := hchars.space 'A' rfl
  have hlast : svc.chars.isSpace 'e' = false := hchars.space 'e' rfl
  rw [trimmed, hlist, List.cons_append, List.dropWhile_cons_of_neg (by simp [hfirst]),
    ← List.cons_append, List.reverse_append, List.reverse_singleton, List.singleton_append,
    List.dropWhile_cons_of_neg (by simp [hlast]), List.reverse_cons, List.reverse_reverse]

/-- **The name of the product is an acceptable sender.** -/
theorem sanitizeSender_default (hchars : svc.chars.Usual) :
    sanitizeSender svc "AeroXe Bee" = some "AeroXe Bee" := by
  have hcs := trimmed_default hchars
  have hascii : ∀ c ∈ "AeroXe Bee".toList, (c.isAlpha = true ∨ c = ' ') ∧ c.toNat < 128 := by
    simp
  have hlower : (trimmed svc "AeroXe Bee").map svc.chars.toLower = "aeroxe bee".toList := by
    rw [hcs, List.map_congr_left fun c hc => hchars.lower c (hascii c hc).2]
    decide
  have hplain : (trimmed svc "AeroXe Bee").any
      (fun c => svc.chars.isLetter c || svc.chars.isDigit c) = true := by
    rw [hcs, List.any_eq_true]
    exact ⟨'A', by decide, by rw [hchars.letter 'A' rfl, Bool.true_or]⟩
  have hspecial : (trimmed svc "AeroXe Bee").filter (fun c =>
      !(svc.chars.isLetter c || svc.chars.isDigit c) && c ≠ ' ' && c ≠ '-' && c ≠ '_') = [] := by
    rw [hcs, List.filter_eq_nil_iff]
    intro c hc
    rcases (hascii c hc).1 with hc | rfl
    · simp [hchars.letter c hc]
    · simp
  have hnonempty : trimmed svc "AeroXe Bee" ≠ [] := hcs ▸ by decide
  have hsize : ¬ 11 < (String.ofList (trimmed svc "AeroXe Bee")).utf8ByteSize := by
    rw [hcs]
    decide
  have hurl : ¬ (occurs "http".toList ((trimmed svc "AeroXe Bee").map svc.chars.toLower) ||
      occurs "www.".toList ((trimmed svc "AeroXe Bee").map svc.chars.toLower) ||
      occurs ".com".toList ((trimmed svc "AeroXe Bee").map svc.chars.toLower) ||
      occurs ".net".toList ((trimmed svc "AeroXe Bee").map svc.chars.toLower)) = true := by
    rw [hlower]
    decide
  refine (if_neg hnonempty).trans ((if_neg hsize).trans ((if_neg ?_).trans ((if_neg hurl).trans
    ((if_neg ?_).trans ?_))))
  · rw [Bool.not_eq_true, Bool.not_eq_false']
    exact hplain
  · exact fun h => Nat.not_lt_zero _ (hspecial ▸ h)
  · exact congrArg some ((congrArg String.ofList hcs).trans String.ofList_toList)

/-- A sender that is not the name of the product has passed the sanitizer. -/
theorem senderOr_iff {text : String} : senderOr svc text = .ok sender ↔
    text = "" ∧ sender = "AeroXe Bee" ∨ text ≠ "" ∧ sanitizeSender svc text = some sender := by
  unfold senderOr
  split_ifs with htext
  · simp [htext, eq_comm]
  · cases hsender : sanitizeSender svc text with
    | none => simp [htext]
    | some s => simp [htext]

/-- When the filter does not object to a sender. -/
theorem passes_iff : (∀ message recipient, ¬ (newContentFilter body).Reports "suspicious_sender"
    message sender recipient) ↔ suspicious sender = false := by
  simp only [ContentFilter.suspiciousSender_iff, Bool.not_eq_true, forall_const]
  rfl

/-- **The number of a device is no sender that can be used.** -/
theorem not_usable (hname : device.name = "") (hnumber : device.phoneNumber ≠ "")
    (hvalid : isValidPhoneNumber svc device.phoneNumber = true) : ¬ Usable svc body device := by
  intro h
  obtain ⟨sender, hsender⟩ := Option.isSome_iff_exists.1 (h.accepted hname)
  rw [derived, if_neg (not_not.2 hname), if_pos hnumber] at hsender
  have hsent : deviceSender svc device = .ok sender := by
    rw [deviceSender, if_pos hname]
    exact senderOr_iff.2 (.inr ⟨hnumber, hsender⟩)
  have hpassed := passes_iff.1 (h.passes sender hsent)
  exact Bool.false_ne_true (hpassed.symm.trans (refused_or_suspicious hvalid hsender))

theorem usual_plain : plainServices.chars.Usual where
  space c hc := by
    refine Bool.eq_false_iff.2 fun hspace => ?_
    change c.isWhitespace = true at hspace
    simp only [Char.isWhitespace, Bool.or_eq_true, decide_eq_true_eq] at hspace
    rcases hspace with ((rfl | rfl) | rfl) | rfl <;> cases hc
  letter _ hc := hc
  lower _ _ := rfl

end Senders

end AeroxeBee.Api
