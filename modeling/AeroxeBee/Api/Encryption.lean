import AeroxeBee.Api.Messages
import AeroxeBee.Foundations.Base64

/-!
# Stored texts

What is stored of a message is encrypted: a nonce and the sealed text, in base 64. `AEAD` is what is
relied on of the cipher itself.

* `Manager.decrypt_ok_iff`: which stored texts are read, and as what;
* `Manager.decrypt_encrypt`, `stored_inj`: what was stored is read again, and tells the nonce
  and the text;
* `Manager.cipher`: the manager as the cipher of the handlers.
-/

namespace AeroxeBee.Encryption

open Foundations

abbrev Bytes := List UInt8

/-- The bytes of a text. -/
def bytesOf (s : String) : Bytes := s.toUTF8.data.toList

/-- The text that some bytes are, if they are one. -/
def textOf (bs : Bytes) : Option String := String.fromUTF8? ⟨⟨bs⟩⟩

@[simp] theorem textOf_bytesOf (s : String) : textOf (bytesOf s) = some s := by
  unfold textOf String.fromUTF8?
  exact dif_pos s.isValidUTF8

theorem textOf_eq_some {bs : Bytes} {s : String} (h : textOf bs = some s) : bs = bytesOf s := by
  unfold textOf String.fromUTF8? at h
  split at h
  · obtain rfl := Option.some.inj h
    rfl
  · cases h

/-! ## The cipher -/

/-- Authenticated encryption under one key: a text that is sealed can be opened with the nonce it was
sealed with, and nothing else can be opened. -/
structure AEAD where
  nonceSize : ℕ
  nonceSize_pos : 0 < nonceSize
  sealBytes : Vector UInt8 nonceSize → Bytes → Bytes
  openBytes : Vector UInt8 nonceSize → Bytes → Except String Bytes
  open_seal (nonce : Vector UInt8 nonceSize) (plaintext : Bytes) :
    openBytes nonce (sealBytes nonce plaintext) = .ok plaintext
  seal_of_open {nonce : Vector UInt8 nonceSize} {sealed plaintext : Bytes} :
    openBytes nonce sealed = .ok plaintext → sealed = sealBytes nonce plaintext

theorem AEAD.open_ok_iff (A : AEAD) {nonce : Vector UInt8 A.nonceSize} {sealed plaintext : Bytes} :
    A.openBytes nonce sealed = .ok plaintext ↔ sealed = A.sealBytes nonce plaintext := by
  constructor
  · exact A.seal_of_open
  · rintro rfl
    exact A.open_seal nonce plaintext

/-- The hash of the master key, and the cipher under a key. -/
structure Primitives where
  sum256 : Bytes → Bytes
  gcm : Bytes → AEAD
  length_sum256 (bs : Bytes) : (sum256 bs).length = 32

/-- A key has one of three lengths. -/
def newCipher (key : Bytes) : Except String Unit :=
  if key.length = 16 ∨ key.length = 24 ∨ key.length = 32 then .ok ()
  else .error s!"crypto/aes: invalid key size {key.length}"

/-! ## The manager -/

/-- Holds a key for the cipher. -/
structure Manager where
  masterKey : Bytes
  size : masterKey.length = 32

namespace Manager

variable (prims : Primitives)

/-- The key is the hash of the master key. -/
def new (masterKey : String) : Except String Manager :=
  if masterKey = "" then .error "master key is required"
  else .ok ⟨prims.sum256 (bytesOf masterKey), prims.length_sum256 _⟩

/-- The cipher under the key. -/
def aesGCM (m : Manager) : Except String AEAD :=
  match newCipher m.masterKey with
  | .error err => .error ("new cipher: " ++ err)
  | .ok () => .ok (prims.gcm m.masterKey)

/-- Seal a text under a nonce that `read` fills in. -/
def encrypt (m : Manager) (read : (n : ℕ) → Except String (Vector UInt8 n)) (plaintext : Bytes) :
    Except String String :=
  match m.aesGCM prims with
  | .error err => .error err
  | .ok aesGCM =>
    match read aesGCM.nonceSize with
    | .error err => .error ("nonce: " ++ err)
    | .ok nonce => .ok (.ofList (Base64.encode (nonce.toList ++ aesGCM.sealBytes nonce plaintext)))

/-- The first bytes as a nonce. -/
def nonceOf (n : ℕ) (bs : Bytes) (h : ¬ bs.length < n) : Vector UInt8 n :=
  ⟨(bs.take n).toArray, by simp; omega⟩

/-- Open what was stored. -/
def decrypt (m : Manager) (encoded : String) : Except String Bytes :=
  match Base64.decode encoded.toList with
  | none => .error "base64: illegal base64 data"
  | some ciphertext =>
    match m.aesGCM prims with
    | .error err => .error err
    | .ok aesGCM =>
      if h : ciphertext.length < aesGCM.nonceSize then .error "ciphertext too short"
      else aesGCM.openBytes (nonceOf aesGCM.nonceSize ciphertext h) (ciphertext.drop aesGCM.nonceSize)

variable {prims} {m : Manager}

/-- The key has a length for which there is a cipher. -/
theorem aesGCM_eq (prims : Primitives) (m : Manager) : m.aesGCM prims = .ok (prims.gcm m.masterKey) := by
  unfold aesGCM newCipher
  rw [if_pos (by simp [m.size])]

/-- A manager is made from every master key but the empty one. -/
theorem new_ok_iff {masterKey : String} :
    (∃ m, new prims masterKey = .ok m) ↔ masterKey ≠ "" := by
  unfold new
  split <;> simp [*]

/-- What a text is stored as. -/
def stored (prims : Primitives) (m : Manager)
    (nonce : Vector UInt8 (prims.gcm m.masterKey).nonceSize) (plaintext : Bytes) : Bytes :=
  nonce.toList ++ (prims.gcm m.masterKey).sealBytes nonce plaintext

theorem encrypt_eq {read : (n : ℕ) → Except String (Vector UInt8 n)}
    {nonce : Vector UInt8 (prims.gcm m.masterKey).nonceSize} (h : read _ = .ok nonce)
    (plaintext : Bytes) :
    m.encrypt prims read plaintext = .ok (.ofList (Base64.encode (stored prims m nonce plaintext))) := by
  unfold encrypt
  rw [aesGCM_eq]
  simp only [h]
  rfl

theorem nonceOf_eq_iff {n : ℕ} {bs : Bytes} (h : ¬ bs.length < n) {nonce : Vector UInt8 n}
    {sealed : Bytes} :
    nonceOf n bs h = nonce ∧ bs.drop n = sealed ↔ bs = nonce.toList ++ sealed := by
  constructor
  · rintro ⟨rfl, rfl⟩
    have hfirst : (nonceOf n bs h).toList = bs.take n := by simp [nonceOf, Vector.toList]
    rw [hfirst, List.take_append_drop]
  · intro heq
    have hlen : nonce.toList.length = n := nonce.length_toList
    constructor
    · apply Vector.toList_inj.1
      have hfirst : (nonceOf n bs h).toList = bs.take n := by simp [nonceOf, Vector.toList]
      rw [hfirst, heq, List.take_left' hlen]
    · rw [heq, List.drop_left' hlen]

/-- **Which stored texts are read, and as what**: those that spell a nonce and, behind it, what the
cipher makes of the text under that nonce. -/
theorem decrypt_ok_iff (prims : Primitives) (m : Manager) (encoded : String) (plaintext : Bytes) :
    m.decrypt prims encoded = .ok plaintext ↔
      ∃ nonce, Base64.decode encoded.toList = some (stored prims m nonce plaintext) := by
  unfold decrypt
  cases hdecode : Base64.decode encoded.toList with
  | none => simp
  | some ciphertext =>
    rw [aesGCM_eq]
    dsimp only
    split_ifs with hshort
    · refine iff_of_false (by simp) ?_
      rintro ⟨nonce, hstored⟩
      have hlen := congrArg List.length (Option.some.inj hstored)
      rw [stored, List.length_append, Vector.length_toList] at hlen
      omega
    · rw [AEAD.open_ok_iff]
      constructor
      · intro hsealed
        exact ⟨_, congrArg some ((nonceOf_eq_iff hshort).1 ⟨rfl, hsealed⟩)⟩
      · rintro ⟨nonce, hstored⟩
        obtain ⟨hnonce, hsealed⟩ := (nonceOf_eq_iff hshort).2 (Option.some.inj hstored)
        rw [hsealed, hnonce]

/-- What was stored is read again. -/
theorem decrypt_encrypt {read : (n : ℕ) → Except String (Vector UInt8 n)} {plaintext : Bytes}
    {encoded : String} (h : m.encrypt prims read plaintext = .ok encoded) :
    m.decrypt prims encoded = .ok plaintext := by
  cases hread : read (prims.gcm m.masterKey).nonceSize with
  | error err =>
    unfold encrypt at h
    rw [aesGCM_eq] at h
    simp [hread] at h
  | ok nonce =>
    rw [encrypt_eq hread] at h
    obtain rfl := Except.ok.inj h
    rw [decrypt_ok_iff, String.toList_ofList, Base64.decode_encode]
    exact ⟨nonce, rfl⟩

/-- What is stored tells the nonce and the text. -/
theorem stored_inj {nonce nonce' : Vector UInt8 (prims.gcm m.masterKey).nonceSize}
    {plaintext plaintext' : Bytes} (h : stored prims m nonce plaintext = stored prims m nonce' plaintext') :
    nonce = nonce' ∧ plaintext = plaintext' := by
  obtain ⟨hnonce, hsealed⟩ := List.append_inj h (by simp)
  obtain rfl := Vector.toList_inj.1 hnonce
  refine ⟨rfl, ?_⟩
  have hopen := congrArg ((prims.gcm m.masterKey).openBytes nonce) hsealed
  rw [AEAD.open_seal, AEAD.open_seal] at hopen
  exact Except.ok.inj hopen

/-! ## The cipher of the handlers -/

/-- A nonce from the bytes of a text. -/
def fill (nonce : String) (n : ℕ) : Vector UInt8 n := .ofFn fun i => (bytesOf nonce).getD i 0

/-- What a handler stores of a text. -/
def encryptText (prims : Primitives) (m : Manager) (nonce plaintext : String) : String :=
  .ofList (Base64.encode (stored prims m (fill nonce _) (bytesOf plaintext)))

/-- What a handler reads of what was stored. -/
def decryptText (prims : Primitives) (m : Manager) (encoded : String) : Except String String :=
  match m.decrypt prims encoded with
  | .error err => .error err
  | .ok plaintext =>
    match textOf plaintext with
    | none => .error "not a text"
    | some text => .ok text

theorem encrypt_fill (prims : Primitives) (m : Manager) (nonce plaintext : String) :
    m.encrypt prims (fun n => .ok (fill nonce n)) (bytesOf plaintext) =
      .ok (encryptText prims m nonce plaintext) :=
  encrypt_eq rfl _

theorem decryptText_ok_iff (prims : Primitives) (m : Manager) (encoded text : String) :
    m.decryptText prims encoded = .ok text ↔ m.decrypt prims encoded = .ok (bytesOf text) := by
  unfold decryptText
  cases hdecrypt : m.decrypt prims encoded with
  | error err => simp
  | ok plaintext =>
    cases htext : textOf plaintext with
    | none =>
      refine iff_of_false (by simp [htext]) fun h => ?_
      obtain rfl := Except.ok.inj h
      simp at htext
    | some text' =>
      obtain rfl := textOf_eq_some htext
      constructor
      · intro h
        simp only [htext] at h
        obtain rfl := Except.ok.inj h
        rfl
      · intro h
        have heq := congrArg textOf (Except.ok.inj h)
        rw [textOf_bytesOf, textOf_bytesOf] at heq
        simp only [htext]
        exact congrArg Except.ok (Option.some.inj heq)

/-- A text that a handler stored is read again. -/
theorem decryptText_encryptText (prims : Primitives) (m : Manager) (nonce plaintext : String) :
    m.decryptText prims (m.encryptText prims nonce plaintext) = .ok plaintext :=
  (decryptText_ok_iff prims m _ _).2 (decrypt_encrypt (encrypt_fill prims m nonce plaintext))

theorem encryptText_ne_empty (prims : Primitives) (m : Manager) (nonce plaintext : String) :
    m.encryptText prims nonce plaintext ≠ "" := by
  intro h
  have hread := decryptText_encryptText prims m nonce plaintext
  rw [h, decryptText_ok_iff, decrypt_ok_iff] at hread
  obtain ⟨nonce', hstored⟩ := hread
  have hlen := congrArg List.length (Option.some.inj hstored)
  rw [stored, List.length_append, Vector.length_toList] at hlen
  have hpos := (prims.gcm m.masterKey).nonceSize_pos
  change 0 = _ at hlen
  omega

/-- The manager as the cipher of the handlers. -/
def cipher (prims : Primitives) (m : Manager) : Api.Cipher where
  encrypt := m.encryptText prims
  decrypt := m.decryptText prims
  decrypt_encrypt := decryptText_encryptText prims m
  encrypt_ne_empty := encryptText_ne_empty prims m

/-- **What the handlers read of what is stored**: the texts that the bytes behind a nonce are the
sealed form of, in any spelling. -/
theorem cipher_decrypt_ok_iff (prims : Primitives) (m : Manager) (encoded text : String) :
    (m.cipher prims).decrypt encoded = .ok text ↔
      ∃ nonce, Base64.decode encoded.toList = some (stored prims m nonce (bytesOf text)) :=
  (decryptText_ok_iff prims m encoded text).trans (decrypt_ok_iff prims m encoded _)

end Manager

end AeroxeBee.Encryption
