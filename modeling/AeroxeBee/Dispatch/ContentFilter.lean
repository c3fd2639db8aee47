import AeroxeBee.Dispatch.Fraud
import AeroxeBee.Foundations.Regexp

/-!
# The content filter

The filter looks for patterns in what is sent, in the name of the sender and in the number of the
recipient. A pattern that does not compile is left out. What the patterns for the texts are is of no
concern here; those for senders and recipients are given as they are.

* `suspiciousSender_iff`, `suspiciousRecipient_iff`: when the filter objects to a sender or a
  recipient.
-/

namespace AeroxeBee.Dispatch

open Foundations

/-- The patterns that are looked for in the texts. -/
structure BodyPatterns where
  profanityPatterns : List String
  phishingPatterns : List String
  spamPatterns : List String
  gamblingPatterns : List String
  adultPatterns : List String
  drugPatterns : List String
  hatePatterns : List String
  scamPatterns : List String
  smishingPatterns : List String

/-- The compiled patterns. -/
structure ContentFilter where
  profanityPatterns : List Regexp
  phishingPatterns : List Regexp
  spamPatterns : List Regexp
  gamblingPatterns : List Regexp
  adultPatterns : List Regexp
  drugPatterns : List Regexp
  hatePatterns : List Regexp
  scamPatterns : List Regexp
  smishingPatterns : List Regexp
  suspiciousSenderPatterns : List Regexp
  suspiciousRecipientPatterns : List Regexp

/-- Compile some patterns, and leave out those that do not compile. -/
def compilePatterns (patterns : List String) : List Regexp :=
  patterns.filterMap fun p => (Regexp.compile p).toOption

/-- Patterns are compiled from their characters. -/
theorem compilePatterns_eq {patterns : List String} {css : List (List Char)}
    (h : List.Forall₂ (fun p cs => p = String.ofList cs) patterns css) :
    compilePatterns patterns = css.filterMap fun cs =>
      (Token.read cs.length cs >>= fun toks => Regexp.parse toks ⟨[], [], false⟩ []).toOption := by
  have hmap : patterns = css.map String.ofList := by
    rwa [← List.forall₂_eq_eq_eq, List.forall₂_map_right_iff]
  rw [hmap, compilePatterns, List.filterMap_map]
  simp only [Function.comp_def, Regexp.compile, String.length_ofList, String.toList_ofList]

/-- What senders are not called. -/
def suspiciousSenderPatterns : List String := [
  r"(?i)^(bank\s*alert|bk\s*alert|secure\s*bank|security\s*bank|alert\s*bank)$",
  r"(?i)^(paypa[l1]|venm0|ca$h\s*app|zelle\s*pay|g-pay|apple\s*pay)$",
  r"(?i)^(chase|wells\s*fargo|boa\s*alert|citi\s*alert|amex|capital\s*one|hsbc|barclays|natwest|lloyds|halifax|santander)$",
  r"(?i)^(usps|fedex|dhl|ups|purolator|canada\s*post|royal\s*mail|dpd|hermes|evri)$",
  r"(?i)^(gov\s*alert|irs|dhs|cbp|ssa|uscis|hmrc|centrelink|service\s*canada)$",
  r"(?i)^(amazon|amzn|g00gle|google|microsoft|msft|apple|app\s*le|netflix|nflx|meta|whatsapp|telegram)$",
  r"(?i)^(alert|security|secure\s*alert|verify|verification|confirmation|support|helpdesk|notification)$",
  r"(?i)(verify|v[e3]rif[yie]|conf[i1]rm|secure|s[e3]cur[e3])$",
  r"(?i)(winner|prize|lott?ery|jackpot|claim)$",
  r"(?i)(refund|rebate|tax\s*return|stimulus)$",
  r"(?i)\.(com?|net|org|io|app|xyz|info|site)$",
  r"(?i)(http|https|www\.)",
  r"^\+?\d{6,15}$"]

/-- The numbers that nothing is sent to: those at premium rates and in satellite networks, those
with one digit over and over, and those that are too long. -/
def suspiciousRecipientPatterns : List String := [
  r"^\+?1[-.]?900",
  r"^\+?1[-.]?976",
  r"^\+?44[-.]?70",
  r"^\+?44[-.]?9[0-9][0-9]",
  r"^\+?44[-.]?87[0-9]",
  r"^\+?61[-.]?190",
  r"^\+?61[-.]?19[0-9]",
  r"^\+?49[-.]?900",
  r"^\+?49[-.]?137",
  r"^\+?33[-.]?899",
  r"^\+?33[-.]?89[0-9]",
  r"^\+?31[-.]?900",
  r"^\+?31[-.]?906",
  r"^\+?32[-.]?900",
  r"^\+?41[-.]?900",
  r"^\+?39[-.]?89[0-9]",
  r"^\+?39[-.]?166",
  r"^\+?34[-.]?803",
  r"^\+?34[-.]?806",
  r"^\+?34[-.]?807",
  r"^\+?881",
  r"^\+?882",
  r"^\+?883",
  r"^\+?979",
  r"^(\+?\d{1,3}[-.]?)?(\d)\2{5,}$",
  r"^\+?\d{16,}"]

/-- The filter with all patterns compiled. -/
def newContentFilter (body : BodyPatterns) : ContentFilter where
  profanityPatterns := compilePatterns body.profanityPatterns
  phishingPatterns := compilePatterns body.phishingPatterns
  spamPatterns := compilePatterns body.spamPatterns
  gamblingPatterns := compilePatterns body.gamblingPatterns
  adultPatterns := compilePatterns body.adultPatterns
  drugPatterns := compilePatterns body.drugPatterns
  hatePatterns := compilePatterns body.hatePatterns
  scamPatterns := compilePatterns body.scamPatterns
  smishingPatterns := compilePatterns body.smishingPatterns
  suspiciousSenderPatterns := compilePatterns suspiciousSenderPatterns
  suspiciousRecipientPatterns := compilePatterns suspiciousRecipientPatterns

namespace ContentFilter

/-- A violation for each pattern that a text matches. -/
def found (patterns : List Regexp) (category : String) (weight : ℚ) (text : String) :
    List ContentViolation :=
  (patterns.filter (·.matchString text)).map fun _ => ⟨category, weight⟩

/-- The checks of the texts, the gravest first. -/
def bodyChecks (f : ContentFilter) : List (List Regexp × String × ℚ) := [
  (f.hatePatterns, "hate_speech", 1),
  (f.phishingPatterns, "phishing", 19 / 20),
  (f.smishingPatterns, "smishing", 9 / 10),
  (f.drugPatterns, "drug_related", 17 / 20),
  (f.scamPatterns, "scam", 17 / 20),
  (f.adultPatterns, "adult_content", 3 / 4),
  (f.gamblingPatterns, "gambling", 7 / 10),
  (f.profanityPatterns, "profanity", 1 / 2),
  (f.spamPatterns, "spam", 2 / 5)]

/-- Look for all patterns. A message is blocked if one is found. -/
def scan (f : ContentFilter) : ContentScan := fun message sender recipient =>
  let combined := sender ++ " " ++ message ++ " " ++ recipient
  let violations := (f.bodyChecks.flatMap fun c => found c.1 c.2.1 c.2.2 combined) ++
    found f.suspiciousSenderPatterns "suspicious_sender" (4 / 5) sender ++
    found f.suspiciousRecipientPatterns "suspicious_recipient" (4 / 5) recipient
  (!violations.isEmpty, violations)

/-- The filter finds a violation of some category. -/
def Reports (f : ContentFilter) (category message sender recipient : String) : Prop :=
  ∃ v ∈ (f.scan message sender recipient).2, v.category = category

variable (f : ContentFilter) (message sender recipient : String)

theorem exists_mem_found {patterns : List Regexp} {category category' : String} (weight : ℚ)
    {text : String} : (∃ v ∈ found patterns category weight text, v.category = category') ↔
      category = category' ∧ patterns.any (·.matchString text) = true := by
  constructor
  · rintro ⟨v, hv, rfl⟩
    obtain ⟨r, hr, rfl⟩ := List.mem_map.1 hv
    obtain ⟨hr, hmatch⟩ := List.mem_filter.1 hr
    exact ⟨rfl, List.any_eq_true.2 ⟨r, hr, hmatch⟩⟩
  · rintro ⟨rfl, h⟩
    obtain ⟨r, hr, hmatch⟩ := List.any_eq_true.1 h
    exact ⟨⟨category, weight⟩, List.mem_map.2 ⟨r, List.mem_filter.2 ⟨hr, hmatch⟩, rfl⟩, rfl⟩

/-- A category that is not one of the texts is reported by the check of the sender or of the
recipient. -/
theorem reports_iff {category : String} (hbody : category ∉ f.bodyChecks.map fun c => c.2.1) :
    f.Reports category message sender recipient ↔
      ("suspicious_sender" = category ∧
          f.suspiciousSenderPatterns.any (·.matchString sender) = true) ∨
        ("suspicious_recipient" = category ∧
          f.suspiciousRecipientPatterns.any (·.matchString recipient) = true) := by
  rw [← exists_mem_found (4 / 5), ← exists_mem_found (4 / 5)]
  constructor
  · rintro ⟨v, hv, rfl⟩
    rcases List.mem_append.1 hv with hv | hv
    · rcases List.mem_append.1 hv with hv | hv
      · obtain ⟨c, hc, hv⟩ := List.mem_flatMap.1 hv
        obtain ⟨r, -, rfl⟩ := List.mem_map.1 hv
        exact absurd (List.mem_map.2 ⟨c, hc, rfl⟩) hbody
      · exact .inl ⟨v, hv, rfl⟩
    · exact .inr ⟨v, hv, rfl⟩
  · rintro (⟨v, hv, hcategory⟩ | ⟨v, hv, hcategory⟩)
    · exact ⟨v, List.mem_append_left _ (List.mem_append_right _ hv), hcategory⟩
    · exact ⟨v, List.mem_append_right _ hv, hcategory⟩

/-- **When the filter objects to a sender.** -/
theorem suspiciousSender_iff : f.Reports "suspicious_sender" message sender recipient ↔
    f.suspiciousSenderPatterns.any (·.matchString sender) = true := by
  rw [f.reports_iff message sender recipient (by simp [bodyChecks])]
  simp

/-- **When the filter objects to a recipient.** -/
theorem suspiciousRecipient_iff : f.Reports "suspicious_recipient" message sender recipient ↔
    f.suspiciousRecipientPatterns.any (·.matchString recipient) = true := by
  rw [f.reports_iff message sender recipient (by simp [bodyChecks])]
  simp

/-- A message to which the filter objects is blocked. -/
theorem scan_blocks {category : String} (h : f.Reports category message sender recipient) :
    (f.scan message sender recipient).1 = true := by
  obtain ⟨v, hv, -⟩ := h
  have hsome : (f.scan message sender recipient).2.isEmpty = false :=
    List.isEmpty_eq_false_iff_exists_mem.2 ⟨v, hv⟩
  exact congrArg (! ·) hsome

end ContentFilter

end AeroxeBee.Dispatch
