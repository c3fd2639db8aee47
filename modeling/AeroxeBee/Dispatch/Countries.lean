import AeroxeBee.Dispatch.Process
import Mathlib.Data.List.Find

/-!
# Countries of phone numbers

The country of a phone number is found by its calling code, in a function of `main` for the routing
and in one of the handlers for the registration of devices. Each goes through a map of its own, in an
order that is not known.

* `find?_of_prefixFree`: codes of which none begins with another are found in any order;
* `detectCountryFromPhone_spec`: both functions find the same country in every order;
* `detectCountryFromPhone_utf8`: that is the country by which messages are routed.
-/

namespace AeroxeBee.Dispatch.Countries

/-! ## The functions -/

/-- A string of the server. -/
abbrev Bytes := List UInt8

/-- The bytes of a text. -/
def utf8 (s : String) : Bytes := s.toList.flatMap String.utf8EncodeChar

/-- The prefix of a number without its plus. -/
def withoutPlus (phone : Bytes) : Bytes := if phone.head? = some 43 then phone.tail else phone

/-- The first of the prefixes with which a number begins. -/
def firstPrefix (prefixes : List (String × String)) (phone : Bytes) : Option (String × String) :=
  prefixes.find? fun p => (utf8 p.1).length ≤ phone.length ∧ phone.take (utf8 p.1).length = utf8 p.1

/-- `detectCountryFromPhone` of `main`, with the map in some order. -/
def Main.detectCountryFromPhone (prefixes : List (String × String)) (phone : Bytes) : String :=
  if phone.length < 3 then ""
  else
    match firstPrefix prefixes (withoutPlus phone) with
    | some (_, country) => country
    | none => ""

/-- The prefixes of the handlers. -/
def Handlers.prefixes : List (String × String) :=
  [("1", "US"), ("44", "GB"), ("91", "IN"), ("86", "CN"), ("81", "JP"),
    ("82", "KR"), ("49", "DE"), ("33", "FR"), ("39", "IT"), ("34", "ES"),
    ("61", "AU"), ("55", "BR"), ("7", "RU"), ("52", "MX"), ("971", "AE"),
    ("855", "KH")]

/-- The regions of the countries. -/
def Handlers.regionMap : List (String × String) :=
  [("US", "NA"), ("GB", "EU"), ("IN", "APAC"), ("CN", "APAC"), ("JP", "APAC"),
    ("KR", "APAC"), ("DE", "EU"), ("FR", "EU"), ("IT", "EU"), ("ES", "EU"),
    ("AU", "APAC"), ("BR", "LATAM"), ("RU", "EU"), ("MX", "LATAM"),
    ("AE", "APAC"), ("KH", "APAC")]

/-- `detectCountryFromPhone` of the handlers, which tells the region too. -/
def Handlers.detectCountryFromPhone (prefixes : List (String × String)) (phone : Bytes) :
    String × String :=
  if phone.length < 3 then ("", "")
  else
    match firstPrefix prefixes (withoutPlus phone) with
    | some (_, country) => (country, (Handlers.regionMap.lookup country).getD "")
    | none => ("", "")

/-! ## Codes of which none begins with another -/

/-- No prefix begins with another. -/
def PrefixFree (prefixes : List (String × String)) : Prop :=
  ∀ p ∈ prefixes, ∀ q ∈ prefixes, utf8 p.1 <+: utf8 q.1 → p = q

instance (prefixes : List (String × String)) : Decidable (PrefixFree prefixes) :=
  inferInstanceAs (Decidable (∀ p ∈ prefixes, ∀ q ∈ prefixes, _))

theorem begins_iff {code phone : Bytes} :
    (code.length ≤ phone.length ∧ phone.take code.length = code) ↔ code <+: phone := by
  rw [List.prefix_iff_eq_take, eq_comm (a := code)]
  refine and_iff_right_of_imp fun h => ?_
  rw [← h, List.length_take]
  exact min_le_right _ _

/-- Two prefixes of a number are one. -/
theorem PrefixFree.eq {prefixes : List (String × String)} (h : PrefixFree prefixes) {phone : Bytes}
    {p q : String × String} (hp : p ∈ prefixes) (hq : q ∈ prefixes) (hp' : utf8 p.1 <+: phone)
    (hq' : utf8 q.1 <+: phone) : p = q := by
  rcases le_total (utf8 p.1).length (utf8 q.1).length with hle | hle
  · exact h p hp q hq (List.prefix_of_prefix_length_le hp' hq' hle)
  · exact (h q hq p hp (List.prefix_of_prefix_length_le hq' hp' hle)).symm

/-- **The prefix of a number is found in any order.** -/
theorem firstPrefix_perm {prefixes order : List (String × String)} (h : PrefixFree prefixes)
    (hperm : order.Perm prefixes) (phone : Bytes) :
    firstPrefix order phone = firstPrefix prefixes phone := by
  refine List.find?_eq_find?_of_perm hperm ?_
  rintro p ⟨hp, hp'⟩ q ⟨hq, hq'⟩
  exact h.eq (hperm.mem_iff.1 hp) (hperm.mem_iff.1 hq) (begins_iff.1 (of_decide_eq_true hp'))
    (begins_iff.1 (of_decide_eq_true hq'))

/-! ## Both functions -/

theorem prefixFree_countryPrefixes : PrefixFree countryPrefixes := by decide

theorem perm_prefixes : Handlers.prefixes.Perm countryPrefixes := by decide

/-- **The country of a number is the same in every order, and for both functions.** -/
theorem detectCountryFromPhone_spec (phone : Bytes) (order order' : List (String × String))
    (h : order.Perm countryPrefixes) (h' : order'.Perm Handlers.prefixes) :
    Main.detectCountryFromPhone order phone = Main.detectCountryFromPhone countryPrefixes phone ∧
      (Handlers.detectCountryFromPhone order' phone).1 =
        Main.detectCountryFromPhone order phone := by
  unfold Main.detectCountryFromPhone Handlers.detectCountryFromPhone
  rw [firstPrefix_perm prefixFree_countryPrefixes h,
    firstPrefix_perm prefixFree_countryPrefixes (h'.trans perm_prefixes)]
  refine ⟨rfl, ?_⟩
  split_ifs with hlen
  · rfl
  · cases firstPrefix countryPrefixes (withoutPlus phone) <;> rfl

/-- A number in the United Arab Emirates, with both maps gone through from the end. -/
theorem detectCountryFromPhone_reversed :
    Main.detectCountryFromPhone countryPrefixes.reverse (utf8 "+971501234567") =
        Main.detectCountryFromPhone countryPrefixes (utf8 "+971501234567") ∧
      (Handlers.detectCountryFromPhone Handlers.prefixes.reverse (utf8 "+971501234567")).1 =
        Main.detectCountryFromPhone countryPrefixes.reverse (utf8 "+971501234567") :=
  detectCountryFromPhone_spec (utf8 "+971501234567") countryPrefixes.reverse
    Handlers.prefixes.reverse (List.reverse_perm _) (List.reverse_perm _)

/-! ## Texts -/

/-- A character of ASCII is one byte. -/
theorem utf8EncodeChar_ascii {c : Char} (h : c.toNat < 128) :
    String.utf8EncodeChar c = [UInt8.ofNat c.toNat] := by
  have hle : c.val.toNat ≤ 0x7f := Nat.le_of_lt_succ h
  rw [String.utf8EncodeChar]
  exact if_pos hle

/-- Another one begins with a byte that is none of ASCII. -/
theorem utf8EncodeChar_other {c : Char} (h : ¬ c.toNat < 128) :
    ∃ b bs, String.utf8EncodeChar c = b :: bs ∧ 128 ≤ b.toNat := by
  have hnot : ¬ c.val.toNat ≤ 0x7f := fun hle => h (Nat.lt_succ_of_le hle)
  rw [String.utf8EncodeChar, if_neg hnot]
  split_ifs
  · refine ⟨_, _, rfl, ?_⟩
    rw [UInt8.toNat_ofNat']
    omega
  · refine ⟨_, _, rfl, ?_⟩
    rw [UInt8.toNat_ofNat']
    omega
  · refine ⟨_, _, rfl, ?_⟩
    rw [UInt8.toNat_ofNat']
    omega

/-- The first byte of a character. -/
theorem cons_prefix_encode {a : Char} (ha : a.toNat < 128) (c : Char) (p x : Bytes) :
    UInt8.ofNat a.toNat :: p <+: String.utf8EncodeChar c ++ x ↔ a = c ∧ p <+: x := by
  by_cases hc : c.toNat < 128
  · rw [utf8EncodeChar_ascii hc, List.singleton_append, List.cons_prefix_cons]
    refine and_congr_left' ⟨fun h => ?_, fun h => h ▸ rfl⟩
    have hnat := congrArg UInt8.toNat h
    rw [UInt8.toNat_ofNat', UInt8.toNat_ofNat'] at hnat
    exact Char.toNat_inj.1 (by omega)
  · obtain ⟨b, bs, hb, hlarge⟩ := utf8EncodeChar_other hc
    rw [hb, List.cons_append, List.cons_prefix_cons]
    refine iff_of_false (fun h => ?_) fun h => hc (h.1 ▸ ha)
    have hnat := congrArg UInt8.toNat h.1
    rw [UInt8.toNat_ofNat'] at hnat
    omega

/-- **A prefix of ASCII** is found among the bytes as among the characters. -/
theorem flatMap_prefix_iff {code cs : List Char} (h : ∀ c ∈ code, c.toNat < 128) :
    code.flatMap String.utf8EncodeChar <+: cs.flatMap String.utf8EncodeChar ↔ code <+: cs := by
  induction code generalizing cs with
  | nil => exact iff_of_true (List.nil_prefix) (List.nil_prefix)
  | cons a code ih =>
    obtain ⟨ha, hcode⟩ := List.forall_mem_cons.1 h
    rw [List.flatMap_cons, utf8EncodeChar_ascii ha, List.singleton_append]
    cases cs with
    | nil => exact iff_of_false (fun h => nomatch List.prefix_nil.1 h) fun h =>
        nomatch List.prefix_nil.1 h
    | cons c cs => rw [List.flatMap_cons, cons_prefix_encode ha, ih hcode, List.cons_prefix_cons]

theorem length_utf8 (s : String) : (utf8 s).length = s.utf8ByteSize := by
  rw [← String.size_toByteArray, ← String.utf8Encode_toList, List.utf8Encode, List.size_toByteArray,
    utf8]

theorem withoutPlus_utf8 (cs : List Char) :
    withoutPlus (cs.flatMap String.utf8EncodeChar) =
      (if cs.head? = some '+' then cs.tail else cs).flatMap String.utf8EncodeChar := by
  cases cs with
  | nil => rfl
  | cons c cs =>
    have hplus := cons_prefix_encode (a := '+') (by decide) c [] (cs.flatMap String.utf8EncodeChar)
    have hhead : (43 : UInt8) :: [] <+: String.utf8EncodeChar c ++ cs.flatMap String.utf8EncodeChar ↔
        (String.utf8EncodeChar c ++ cs.flatMap String.utf8EncodeChar).head? = some 43 := by
      cases String.utf8EncodeChar c ++ cs.flatMap String.utf8EncodeChar with
      | nil => exact iff_of_false (fun h => nomatch List.prefix_nil.1 h) nofun
      | cons b bs => simp [List.cons_prefix_cons, eq_comm]
    have hiff : (String.utf8EncodeChar c ++ cs.flatMap String.utf8EncodeChar).head? = some 43 ↔
        c = '+' := by
      rw [← hhead]
      refine hplus.trans ⟨fun h => h.1.symm, fun h => ⟨h.symm, List.nil_prefix⟩⟩
    rw [withoutPlus, List.flatMap_cons]
    by_cases hc : c = '+'
    · rw [if_pos (hiff.2 hc), hc]
      rfl
    · have hnot : ¬ (c :: cs).head? = some '+' := fun h => hc (Option.some.inj h)
      rw [if_neg fun h => hc (hiff.1 h), if_neg hnot, List.flatMap_cons]

/-- **That is the country by which messages are routed.** -/
theorem detectCountryFromPhone_utf8 (phone : String) :
    Main.detectCountryFromPhone countryPrefixes (utf8 phone) =
      Dispatch.detectCountryFromPhone phone := by
  have hall : (countryPrefixes.all fun p => p.1.toList.all fun c => c.toNat < 128) = true := by
    decide
  have hascii : ∀ p ∈ countryPrefixes, ∀ c ∈ p.1.toList, c.toNat < 128 := fun p hp c hc =>
    of_decide_eq_true (List.all_eq_true.1 (List.all_eq_true.1 hall p hp) c hc)
  have hfind (cs : List Char) : firstPrefix countryPrefixes (cs.flatMap String.utf8EncodeChar) =
      countryPrefixes.find? fun p => p.1.toList.isPrefixOf cs := by
    refine List.find?_congr fun p hp => ?_
    rw [Bool.eq_iff_iff, decide_eq_true_iff, begins_iff, List.isPrefixOf_iff_prefix]
    exact flatMap_prefix_iff (hascii p hp)
  rw [Main.detectCountryFromPhone, Dispatch.detectCountryFromPhone, length_utf8, utf8,
    withoutPlus_utf8, hfind]
  refine if_congr Iff.rfl rfl ?_
  dsimp only
  generalize countryPrefixes.find? _ = found
  cases found <;> rfl

end AeroxeBee.Dispatch.Countries
