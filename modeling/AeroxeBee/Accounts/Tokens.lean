import AeroxeBee.Accounts.Profile

/-!
# Tokens

The tokens that say who sends a request, and the middleware in front of the routes of the
administrators.
-/

namespace AeroxeBee.Accounts

open Foundations

/-- What a token says; a claim that is not a text counts as missing. -/
structure Claims where
  sub : Option String
  /-- Whether the claim `admin` is there and true. -/
  admin : Bool
  purpose : Option String
deriving DecidableEq

/-- The library that reads tokens, under the secret of the server: the claims of a token that is
signed and has not expired. -/
structure TokenReader where
  parse (now : ℤ) (tokenString : String) : Option Claims

/-- The library that makes and reads tokens, under the secret of the server. -/
structure TokenLibrary extends TokenReader where
  sign (claims : Claims) (email : String) (iat exp : ℤ) : Except String String

/-- What the library promises: claims can be signed, and a token says what was signed for as long as
it can be read. -/
structure TokenLibrary.Lawful (tokens : TokenLibrary) : Prop where
  signs : ∀ claims email iat exp, ∃ text, tokens.sign claims email iat exp = .ok text
  ne_empty : ∀ claims email iat exp, tokens.sign claims email iat exp ≠ .ok ""
  reads : ∀ claims email iat exp text now claims', tokens.sign claims email iat exp = .ok text →
    tokens.parse now text = some claims' → claims' = claims

/-- Seconds since the epoch. -/
def unix (now : ℤ) : ℤ := now / 1000000000

/-- Make a token for a purpose; the empty purpose is none. -/
def generateTokenWithPurpose (tokens : TokenLibrary) (accountID email : String) (admin : Bool)
    (ttl : ℤ) (purpose : String) : ServerProg (Except String String) := do
  let iat ← Prog.call .now
  let exp ← Prog.call .now
  let claims : Claims := ⟨some accountID, admin, if purpose ≠ "" then some purpose else none⟩
  return tokens.sign claims email (unix iat) (unix (exp + ttl))

/-- Make a token that logs in. -/
def generateToken (tokens : TokenLibrary) (accountID email : String) (admin : Bool) (ttl : ℤ) :
    ServerProg (Except String String) :=
  generateTokenWithPurpose tokens accountID email admin ttl ""

/-- The headers that can carry a token. -/
structure AuthHeaders where
  authorization : String
  sessionCookie : Option String

/-- The text without the word in front of it. -/
def trimPrefix (text word : String) : String :=
  if word.toList.isPrefixOf text.toList then String.ofList (text.toList.drop word.toList.length)
  else text

/-- The token of a request to the administrators. -/
def AuthHeaders.token (h : AuthHeaders) : String :=
  let tokenString := if h.authorization ≠ "" then trimPrefix h.authorization "Bearer " else ""
  if tokenString = "" then h.sessionCookie.getD "" else tokenString

/-- The middleware of the routes of the administrators. -/
def adminAuth (tokens : TokenReader) (h : AuthHeaders) (next : Principal → ServerProg Answer) :
    ServerProg Answer :=
  if h.token = "" then return .error ⟨401, "unauthorized"⟩
  else do
    let now ← Prog.call .now
    match tokens.parse now h.token with
    | none => return .error ⟨401, "invalid session"⟩
    | some claims =>
      match claims.sub with
      | none => return .error ⟨401, "invalid token"⟩
      | some accountID => next ⟨accountID, claims.admin⟩

/-! ## A library without secrets -/

/-- A text with its end marked. -/
def markEnd (cs : List Char) : List Char := cs.flatMap (fun c => ['+', c]) ++ ['.']

/-- A text up to its mark, and what comes after it. -/
def splitMarked : List Char → List Char × List Char
  | '+' :: c :: rest => (c :: (splitMarked rest).1, (splitMarked rest).2)
  | _ :: rest => ([], rest)
  | [] => ([], [])

theorem splitMarked_markEnd (cs rest : List Char) : splitMarked (markEnd cs ++ rest) = (cs, rest) := by
  induction cs with
  | nil => rfl
  | cons c cs ih =>
    have hcons : markEnd (c :: cs) ++ rest = '+' :: c :: (markEnd cs ++ rest) := by
      simp [markEnd]
    rw [hcons, splitMarked, ih]

/-- A text that may be missing, with its end marked. -/
def markClaim : Option String → List Char
  | none => ['-']
  | some text => '+' :: markEnd text.toList

/-- A text that may be missing up to its mark, and what comes after it. -/
def splitClaim : List Char → Option String × List Char
  | '+' :: rest => (some (String.ofList (splitMarked rest).1), (splitMarked rest).2)
  | _ :: rest => (none, rest)
  | [] => (none, [])

theorem splitClaim_markClaim (claim : Option String) (rest : List Char) :
    splitClaim (markClaim claim ++ rest) = (claim, rest) := by
  cases claim with
  | none => rfl
  | some text =>
    change splitClaim ('+' :: (markEnd text.toList ++ rest)) = _
    rw [splitClaim, splitMarked_markEnd, String.ofList_toList]

/-- A library whose tokens are the claims themselves. -/
def plainTokens : TokenLibrary where
  sign claims _ _ _ := .ok (String.ofList
    ((if claims.admin then '+' else '-') :: (markClaim claims.sub ++ markClaim claims.purpose)))
  parse _ text :=
    match text.toList with
    | [] => none
    | c :: rest =>
      some ⟨(splitClaim rest).1, c = '+', (splitClaim (splitClaim rest).2).1⟩

theorem plainTokens_lawful : plainTokens.Lawful where
  signs _ _ _ _ := ⟨_, rfl⟩
  ne_empty claims email iat exp h := by
    simp [plainTokens] at h
  reads claims email iat exp text now claims' hsign hparse := by
    obtain rfl := Except.ok.inj hsign
    have hpurpose := splitClaim_markClaim claims.purpose []
    rw [List.append_nil] at hpurpose
    simp only [plainTokens, String.toList_ofList, splitClaim_markClaim, hpurpose,
      Option.some.injEq] at hparse
    rw [← hparse]
    cases claims with
    | mk sub admin purpose => cases admin <;> rfl

end AeroxeBee.Accounts
