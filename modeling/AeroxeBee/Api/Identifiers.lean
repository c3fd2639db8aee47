import AeroxeBee.Foundations.Hex
import AeroxeBee.Server

/-!
# Identifiers

The identifiers of messages and of credentials are sixteen random bytes in hexadecimal digits, with
six bits overwritten that say what kind of identifier it is.

* `uuidV4_spec`: the identifiers have the form they should have, and show all other bits.
-/

namespace AeroxeBee.Api

open Foundations

/-! ## The function -/

/-- Bytes in hexadecimal digits, with zeros before them up to a width, as `%0…x` formats them. -/
def formatX (wid : ℕ) (bs : List UInt8) : List Char :=
  List.replicate (wid - 2 * bs.length) '0' ++ hexBytes bs

/-- Sixteen bytes with the version and the variant written over them. -/
def stamp (b : Fin 16 → UInt8) : Fin 16 → UInt8 :=
  let b := Function.update b 6 (b 6 &&& 0x0f ||| 0x40)
  Function.update b 8 (b 8 &&& 0x3f ||| 0x80)

/-- The identifier of sixteen random bytes. -/
def formatUUID (b : Fin 16 → UInt8) : String :=
  let b := List.ofFn (stamp b)
  String.ofList (formatX 8 (b.extract 0 4) ++ '-' :: (formatX 4 (b.extract 4 6) ++
    '-' :: (formatX 4 (b.extract 6 8) ++ '-' :: (formatX 4 (b.extract 8 10) ++
      '-' :: formatX 12 (b.extract 10 16)))))

/-- `uuidV4` of the handlers, given what is read from the random source. -/
def MessageHandler.uuidV4 (b : Fin 16 → UInt8) : String := formatUUID b

/-- `uuidV4` of the services. -/
def MQTTCredentialService.uuidV4 (b : Fin 16 → UInt8) : String := formatUUID b

/-! ## The form of an identifier -/

/-- A group of hexadecimal digits. -/
structure IsGroup (n : ℕ) (cs : List Char) : Prop where
  length : cs.length = n
  digits : ∀ c ∈ cs, IsHexDigit c

/-- **The form of a random identifier**: five groups of digits, of which the third begins with the
version and the fourth with the variant. -/
def IsUUIDv4 (text : String) : Prop :=
  ∃ g₁ g₂ g₃ g₄ g₅ : List Char,
    text.toList = g₁ ++ '-' :: (g₂ ++ '-' :: (g₃ ++ '-' :: (g₄ ++ '-' :: g₅))) ∧
      (IsGroup 8 g₁ ∧ IsGroup 4 g₂ ∧ IsGroup 4 g₃ ∧ IsGroup 4 g₄ ∧ IsGroup 12 g₅) ∧
      g₃.head? = some '4' ∧ ∃ c ∈ g₄.head?, c = '8' ∨ c = '9' ∨ c = 'a' ∨ c = 'b'

/-- The bits that are overwritten, each with its byte. -/
def overwritten : Finset (Fin 16 × Fin 8) := {(6, 4), (6, 5), (6, 6), (6, 7), (8, 6), (8, 7)}

/-- Two sequences of bytes have the same bits, but for those that are overwritten. -/
def Agree (b c : Fin 16 → UInt8) : Prop :=
  ∀ i j, (i, j) ∉ overwritten → (b i).toBitVec.getLsbD j = (c i).toBitVec.getLsbD j

/-! ## What is shown -/

theorem formatX_of_length {n : ℕ} {bs : List UInt8} (h : bs.length = n) :
    formatX (2 * n) bs = hexBytes bs := by
  rw [formatX, h, Nat.sub_self, List.replicate_zero, List.nil_append]

theorem isGroup_formatX {n : ℕ} {bs : List UInt8} (h : bs.length = n) :
    IsGroup (2 * n) (formatX (2 * n) bs) where
  length := by rw [formatX_of_length h, length_hexBytes, h]
  digits c hc := isHexDigit_of_mem (formatX_of_length h ▸ hc)

theorem ofFn_bytes (b : Fin 16 → UInt8) : List.ofFn b = [b 0, b 1, b 2, b 3, b 4, b 5, b 6, b 7,
    b 8, b 9, b 10, b 11, b 12, b 13, b 14, b 15] := rfl

theorem stamp_other (b : Fin 16 → UInt8) {i : Fin 16} (h₆ : i ≠ 6) (h₈ : i ≠ 8) :
    stamp b i = b i := by
  rw [stamp, Function.update_of_ne h₈, Function.update_of_ne h₆]

/-- The digits of an identifier are those of the bytes. -/
theorem filter_formatUUID (b : Fin 16 → UInt8) :
    (formatUUID b).toList.filter (· ≠ '-') = hexBytes (List.ofFn (stamp b)) := by
  have hgroup : ∀ {n : ℕ} {bs : List UInt8}, bs.length = n →
      (formatX (2 * n) bs).filter (· ≠ '-') = hexBytes bs := by
    intro n bs h
    rw [formatX_of_length h, List.filter_eq_self]
    intro c hc
    have hdigit := isHexDigit_of_mem hc
    refine decide_eq_true ?_
    rintro rfl
    exact absurd hdigit (by decide)
  rw [formatUUID, String.toList_ofList, ofFn_bytes]
  simp only [List.filter_append, List.filter_cons]
  rw [hgroup (n := 4) rfl, hgroup (n := 2) rfl, hgroup (n := 2) rfl, hgroup (n := 2) rfl,
    hgroup (n := 6) rfl]
  simp

/-- An identifier shows the bytes with the version and the variant. -/
theorem formatUUID_inj {b c : Fin 16 → UInt8} : formatUUID b = formatUUID c ↔ stamp b = stamp c := by
  constructor
  · intro h
    have hdigits := filter_formatUUID b
    rw [h, filter_formatUUID c] at hdigits
    exact List.ofFn_injective (hexBytes_inj hdigits).symm
  · intro h
    rw [formatUUID, formatUUID, h]

/-- A byte of which some bits have been overwritten. -/
theorem byte_eq_iff {mask value x y : UInt8} (h : mask &&& value = 0) :
    x &&& mask ||| value = y &&& mask ||| value ↔
      ∀ j : Fin 8, mask.toBitVec.getLsbD j = true →
        x.toBitVec.getLsbD j = y.toBitVec.getLsbD j := by
  rw [← UInt8.toBitVec_inj]
  refine (overwrite_eq_iff (congrArg UInt8.toBitVec h)).trans ?_
  exact ⟨fun hall j => hall j j.2, fun hall i hi => hall ⟨i, hi⟩⟩

/-- **Bytes are stamped to the same** if they agree outside the bits that are overwritten. -/
theorem stamp_eq_iff {b c : Fin 16 → UInt8} : stamp b = stamp c ↔ Agree b c := by
  have hsix : ∀ j : Fin 8, (0x0f : UInt8).toBitVec.getLsbD j = true ↔ (6, j) ∉ overwritten := by
    decide
  have height : ∀ j : Fin 8, (0x3f : UInt8).toBitVec.getLsbD j = true ↔ (8, j) ∉ overwritten := by
    decide
  have hother : ∀ i : Fin 16, i ≠ 6 → i ≠ 8 → ∀ j : Fin 8, (i, j) ∉ overwritten := by decide
  constructor
  · intro h i j hij
    have hi := congrFun h i
    by_cases h₆ : i = 6
    · subst h₆
      exact (byte_eq_iff (by decide)).1 hi j ((hsix j).2 hij)
    · by_cases h₈ : i = 8
      · subst h₈
        exact (byte_eq_iff (by decide)).1 hi j ((height j).2 hij)
      · rw [stamp_other b h₆ h₈, stamp_other c h₆ h₈] at hi
        rw [hi]
  · intro h
    funext i
    by_cases h₆ : i = 6
    · subst h₆
      exact (byte_eq_iff (by decide)).2 fun j hj => h 6 j ((hsix j).1 hj)
    · by_cases h₈ : i = 8
      · subst h₈
        exact (byte_eq_iff (by decide)).2 fun j hj => h 8 j ((height j).1 hj)
      · rw [stamp_other b h₆ h₈, stamp_other c h₆ h₈, ← UInt8.toBitVec_inj]
        exact BitVec.eq_of_getLsbD_eq fun j hj => h i ⟨j, hj⟩ (hother i h₆ h₈ ⟨j, hj⟩)

/-! ## The identifiers -/

/-- The first digits of the bytes that say what kind of identifier it is. -/
theorem high_nibbles (x y : UInt8) :
    ((x &&& 0x0f ||| 0x40) >>> 4).toNat = 4 ∧
      ((y &&& 0x3f ||| 0x80) >>> 4).toNat ∈ [8, 9, 10, 11] := by
  have hversion : ∀ x : BitVec 8, ((x &&& 0x0f#8 ||| 0x40#8) >>> 4).toNat = 4 := by decide
  have hvariant : ∀ x : BitVec 8, ((x &&& 0x3f#8 ||| 0x80#8) >>> 4).toNat ∈ [8, 9, 10, 11] := by
    decide
  exact ⟨hversion x.toBitVec, hvariant y.toBitVec⟩

theorem isUUIDv4_formatUUID (b : Fin 16 → UInt8) : IsUUIDv4 (formatUUID b) := by
  obtain ⟨hversion, hvariant⟩ := high_nibbles (b 6) (b 8)
  refine ⟨_, _, _, _, _, String.toList_ofList, ⟨isGroup_formatX (n := 4) rfl,
    isGroup_formatX (n := 2) rfl, isGroup_formatX (n := 2) rfl, isGroup_formatX (n := 2) rfl,
    isGroup_formatX (n := 6) rfl⟩, ?_, ?_⟩
  · change some (Nat.digitChar ((b 6 &&& 0x0f ||| 0x40) >>> 4).toNat) = some '4'
    rw [hversion]
    rfl
  · refine ⟨Nat.digitChar ((b 8 &&& 0x3f ||| 0x80) >>> 4).toNat, rfl, ?_⟩
    simp only [List.mem_cons, List.not_mem_nil, or_false] at hvariant
    rcases hvariant with h | h | h | h <;> rw [h] <;> decide

theorem length_of_isUUIDv4 {text : String} (h : IsUUIDv4 text) : text.length = 36 := by
  obtain ⟨g₁, g₂, g₃, g₄, g₅, htext, ⟨h₁, h₂, h₃, h₄, h₅⟩, -⟩ := h
  rw [← String.length_toList, htext]
  simp [h₁.length, h₂.length, h₃.length, h₄.length, h₅.length]

/-- **Identifiers have the form of random ones, and keep all bits but six.** -/
theorem uuidV4_spec : MQTTCredentialService.uuidV4 = MessageHandler.uuidV4 ∧
    (∀ b, (MessageHandler.uuidV4 b).length = 36 ∧ IsUUIDv4 (MessageHandler.uuidV4 b)) ∧
      overwritten.card = 6 ∧
        ∀ b c, MessageHandler.uuidV4 b = MessageHandler.uuidV4 c ↔ Agree b c :=
  ⟨rfl, fun b => ⟨length_of_isUUIDv4 (isUUIDv4_formatUUID b), isUUIDv4_formatUUID b⟩, rfl,
    fun _ _ => formatUUID_inj.trans stamp_eq_iff⟩

/-- An identifier that the server draws. -/
def randomUUID (b : Fin 16 → UInt8) : UUID where
  text := MessageHandler.uuidV4 b
  ne_empty h := by
    have hlen := length_of_isUUIDv4 (isUUIDv4_formatUUID b)
    rw [← MessageHandler.uuidV4, h] at hlen
    cases hlen

/-- The server draws the same identifier only from bytes that agree. -/
theorem randomUUID_eq_iff {b c : Fin 16 → UInt8} : randomUUID b = randomUUID c ↔ Agree b c := by
  rw [randomUUID, randomUUID, UUID.mk.injEq]
  exact formatUUID_inj.trans stamp_eq_iff

end AeroxeBee.Api
