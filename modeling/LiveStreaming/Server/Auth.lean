import LiveStreaming.Server.Env

/-!
# The profile endpoint and its token check

`/api/profile` is `handleProfile` behind `AuthMiddleware.Authorize`. The
middleware reads the `Authorization` header, refuses a missing one and one
that does not start with `Bearer `, trims the rest, and hands it to the JWT
library; it refuses an expired token, any other token the library rejects,
and a token whose `sub` claim is not a nonempty string. Otherwise it passes the
subject to the handler, which answers with it.

The JWT library is not part of this repository: the model takes its verdict
on a token string as the parameter `parse`, the claims of a token it accepts
or the reason it refuses one. For every verdict the profile endpoint answers
a user ID exactly when the header is `Bearer `, then a token that, trimmed,
the library accepts with that ID as a nonempty string `sub`
(`profile_answers_iff_bearer_subject`); every other request gets a 401 with
the middleware's text, never the handler's own `unauthorized`.
-/

namespace LiveStreaming.Server

/-- Why `jwt.ParseWithClaims` refuses a token: expiry, or anything else. -/
inductive TokenError where
  | expired
  | invalid
  deriving DecidableEq, Repr

/-- A claim's value as `claims["sub"].(string)` sees it: a string or another
JSON value. -/
inductive ClaimValue where
  | string (value : String)
  | other
  deriving DecidableEq, Repr

/-- `jwt.MapClaims`, read by name. -/
abbrev TokenClaims := String → Option ClaimValue

/-- The header prefix `Authorize` requires. -/
def bearerPrefix : List Char := "Bearer ".data

def trimPrefix (text pre : List Char) : List Char :=
  if pre.isPrefixOf text then text.drop pre.length else text

/-- What `Authorize` does with a request: refuse it with 401 and a text, or
pass it on with the token's subject in its context. -/
inductive Authorization where
  | refused (message : String)
  | passed (userID : String)
  deriving DecidableEq, Repr

/-- `AuthMiddleware.Authorize`; `raw` is the `Authorization` header, empty when
absent. -/
def authorize (parse : String → Except TokenError TokenClaims) (raw : String) : Authorization :=
  if raw = "" then .refused "missing authorization header"
  else if !bearerPrefix.isPrefixOf raw.data then .refused "invalid authorization header"
  else
    match parse (String.mk (trimSpace (trimPrefix raw.data bearerPrefix))) with
    | .error .expired => .refused "token expired"
    | .error .invalid => .refused "invalid token"
    | .ok claims =>
        match claims "sub" with
        | some (.string sub) => if sub = "" then .refused "invalid token subject" else .passed sub
        | _ => .refused "invalid token subject"

/-- What the profile endpoint answers. -/
inductive ProfileResponse where
  /-- 200 with `userId`. -/
  | profile (userID : String)
  /-- `http.Error` with this status and message. -/
  | error (status : Nat) (message : String)
  deriving DecidableEq, Repr

/-- `handleProfile`; `userID` is what the middleware put in the context. -/
def handleProfile (userID : Option String) : ProfileResponse :=
  match userID with
  | some userID => if userID = "" then .error 401 "unauthorized" else .profile userID
  | none => .error 401 "unauthorized"

/-- `/api/profile`: `handleProfile` behind `Authorize`. -/
def profileEndpoint (parse : String → Except TokenError TokenClaims) (raw : String) : ProfileResponse :=
  match authorize parse raw with
  | .refused message => .error 401 message
  | .passed userID => handleProfile (some userID)

section Profile

variable (parse : String → Except TokenError TokenClaims)

/-- The middleware passes a request on exactly when its header is the prefix
and a token that, trimmed, parses with the subject as a nonempty string. -/
theorem authorize_eq_passed (raw userID : String) :
    authorize parse raw = .passed userID ↔
      ∃ token claims, raw.data = bearerPrefix ++ token ∧
        parse (String.mk (trimSpace token)) = .ok claims ∧
        claims "sub" = some (.string userID) ∧ userID ≠ "" := by
  unfold authorize
  by_cases empty : raw = ""
  · subst empty
    simp only [if_true, reduceCtorEq, false_iff, not_exists, not_and]
    intro token _ header
    simp [bearerPrefix] at header
  · by_cases prefixed : bearerPrefix.isPrefixOf raw.data
    · obtain ⟨token, header⟩ := List.isPrefixOf_iff_prefix.mp prefixed
      have trimmed : trimPrefix raw.data bearerPrefix = token := by
        rw [trimPrefix, if_pos prefixed, ← header, List.drop_left]
      simp only [empty, if_false, prefixed, Bool.not_true, Bool.false_eq_true, trimmed]
      constructor
      · intro accepted
        split at accepted
        · cases accepted
        · cases accepted
        · rename_i claims parsed
          split at accepted
          · split_ifs at accepted with unnamed
            cases accepted
            exact ⟨token, claims, header.symm, parsed, ‹_›, unnamed⟩
          · cases accepted
      · rintro ⟨other, claims, otherHeader, parsed, subject, named⟩
        have same : other = token :=
          List.append_cancel_left (otherHeader.symm.trans header.symm)
        subst same
        simp [parsed, subject, named]
    · have refused : ∀ token, raw.data ≠ bearerPrefix ++ token := fun token header =>
        prefixed (List.isPrefixOf_iff_prefix.mpr ⟨token, header.symm⟩)
      simp only [empty, if_false, prefixed, Bool.not_false, if_true, reduceCtorEq, false_iff,
        not_exists, not_and]
      exact fun token _ header => absurd header (refused token)

/-- The middleware refuses only with its own five texts. -/
theorem authorize_eq_refused {raw message : String} (refused : authorize parse raw = .refused message) :
    message = "missing authorization header" ∨ message = "invalid authorization header" ∨
      message = "token expired" ∨ message = "invalid token" ∨ message = "invalid token subject" := by
  unfold authorize at refused
  split_ifs at refused
  · cases refused; simp
  · cases refused; simp
  · split at refused
    · cases refused; simp
    · cases refused; simp
    · split at refused
      · split_ifs at refused
        cases refused; simp
      · cases refused; simp

/-- Every request the middleware passes on carries a nonempty user ID, so the
handler's own check never refuses one. -/
theorem profileEndpoint_eq_profile (raw userID : String) :
    profileEndpoint parse raw = .profile userID ↔ authorize parse raw = .passed userID := by
  unfold profileEndpoint
  split
  · rename_i message refused
    simp [refused]
  · rename_i passedID passed
    obtain ⟨-, -, -, -, -, named⟩ := (authorize_eq_passed parse raw passedID).mp passed
    simp only [handleProfile, named, if_false, ProfileResponse.profile.injEq, passed,
      Authorization.passed.injEq, eq_comm]

/-- The profile endpoint answers a user ID exactly when the header is
`Bearer ` and a token that, with spaces trimmed, the JWT library accepts with
that ID as a nonempty string `sub`; it never answers the handler's own
`unauthorized`. -/
theorem profile_answers_iff_bearer_subject (raw userID : String) :
    (profileEndpoint parse raw = .profile userID ↔
      ∃ token claims, raw.data = bearerPrefix ++ token ∧
        parse (String.mk (trimSpace token)) = .ok claims ∧
        claims "sub" = some (.string userID) ∧ userID ≠ "") ∧
    profileEndpoint parse raw ≠ .error 401 "unauthorized" := by
  refine ⟨(profileEndpoint_eq_profile parse raw userID).trans (authorize_eq_passed parse raw userID), ?_⟩
  unfold profileEndpoint
  split
  · rename_i message refused
    rcases authorize_eq_refused parse refused with rfl | rfl | rfl | rfl | rfl <;> decide
  · rename_i passedID passed
    obtain ⟨-, -, -, -, -, named⟩ := (authorize_eq_passed parse raw passedID).mp passed
    simp [handleProfile, named]

end Profile

end LiveStreaming.Server
