import LiveStreaming.Basic
import Mathlib.Data.List.Nodup

/-!
# Accounts: registration and login

`/api/register` and `/api/login` are `AuthHandler.Register` and
`AuthHandler.Login` over `auth.Service` and the `users` table of
`UserRepository`. Registration hashes the password with bcrypt and inserts a
row, which the table refuses when the email or the ID is taken; the handler
answers a refusal whose text mentions a unique violation with 409. Login reads
the row with the email and checks the password against its hash.

The libraries are parameters: the driver's text for a unique violation, bcrypt's
`CompareHashAndPassword`, and the token generator. A registration carries the
hash bcrypt made for it (from a random salt) and a login or registration the
UUID drawn for it.

* Over every run of requests in which each hash is one bcrypt accepts for its
  password, no two rows share an email, and every registration answered with
  a token leaves an account that a login with the same email and password
  opens (`registered_accounts_log_in`).
* Login tells an unknown email from a wrong password: the first gets a 500
  with the driver's `no rows` text, the second a 401
  (`login_distinguishes_unknown_email`).
-/

namespace LiveStreaming.Server

/-- A row of `users`, with the columns the handlers read; a NULL or empty `id`
is the empty string, and `display_name` is a `sql.NullString`. -/
structure User where
  id : String
  email : String
  passwordHash : List UInt8
  displayName : Option String
  deriving DecidableEq, Repr

/-- The `users` table in insertion order: `email` is `UNIQUE` and `id` the
primary key. -/
abbrev UserTable := List User

def errNoRows : String := "sql: no rows in result set"

/-- The body of a register or login request. -/
structure AuthRequest where
  email : String
  password : String
  displayName : String
  deriving DecidableEq, Repr

/-- What the two endpoints answer. -/
inductive AuthResponse where
  /-- 200 with the token and the user's ID, email and display name. -/
  | authenticated (token id email displayName : String)
  /-- `writeError`: this status and `{"error": message}`. -/
  | error (status : Nat) (message : String)
  deriving DecidableEq, Repr

/-- What `auth.Service.Login` reports. -/
inductive LoginError where
  | invalidCredentials
  | storage (text : String)
  deriving DecidableEq, Repr

/-- `strings.Contains` over characters. -/
def containsText : List Char → List Char → Bool
  | [], pattern => pattern.isPrefixOf []
  | c :: rest, pattern => pattern.isPrefixOf (c :: rest) || containsText rest pattern

/-- `strings.ToLower`, on ASCII letters. -/
def toLower (text : String) : List Char :=
  text.data.map Char.toLower

/-- The test `Register` applies to a failed registration: the lower-cased text
mentions a unique violation. -/
def isDuplicateError (text : String) : Bool :=
  containsText (toLower text) "unique".data || containsText (toLower text) "duplicate".data ||
    containsText (toLower text) "already exists".data || containsText (toLower text) "23505".data

/-- `UserRepository.GetByEmail`: the row with the email; a row without an ID
gets `freshID`, written back by an `UPDATE` whose failure is ignored. -/
def getByEmail (freshID email : String) (users : UserTable) : Except String User × UserTable :=
  match users.find? (·.email = email) with
  | none => (.error errNoRows, users)
  | some row =>
      if row.id = "" then
        (.ok { row with id := freshID },
          users.map fun other => if other.email = email then { other with id := freshID } else other)
      else (.ok row, users)

/-- The first step of `CreateUser`: a row without an ID gets `freshID`. -/
def withID (freshID : String) (user : User) : User :=
  if user.id = "" then { user with id := freshID } else user

@[simp]
theorem withID_email (freshID : String) (user : User) : (withID freshID user).email = user.email := by
  unfold withID; split_ifs <;> rfl

@[simp]
theorem withID_passwordHash (freshID : String) (user : User) :
    (withID freshID user).passwordHash = user.passwordHash := by
  unfold withID; split_ifs <;> rfl

section Service

variable (uniqueViolation : String) (compareHashAndPassword : List UInt8 → String → Bool)
  (generate : String → Except String String)

/-- `UserRepository.CreateUser`: the row, with `freshID` if it has no ID, is
inserted unless its email or its ID is taken, when the driver reports
`uniqueViolation`. -/
def createUser (freshID : String) (user : User) (users : UserTable) : Except String User × UserTable :=
  if users.any fun row => row.email == (withID freshID user).email || row.id == (withID freshID user).id then
    (.error uniqueViolation, users)
  else (.ok (withID freshID user), users ++ [withID freshID user])

/-- `auth.Service.Register`; `hashed` is what `bcrypt.GenerateFromPassword`
returned for the password. -/
def register (hashed : Except String (List UInt8)) (freshID email displayName : String)
    (users : UserTable) : Except String User × UserTable :=
  match hashed with
  | .error text => (.error text, users)
  | .ok hash =>
      createUser uniqueViolation freshID
        ⟨"", email, hash, if displayName = "" then none else some displayName⟩ users

/-- `auth.Service.Login`: the row with the email, when bcrypt accepts the password for its
hash. -/
def login (freshID email password : String) (users : UserTable) : Except LoginError User × UserTable :=
  match getByEmail freshID email users with
  | (.error text, users) => (.error (.storage text), users)
  | (.ok user, users) =>
      if compareHashAndPassword user.passwordHash password then (.ok user, users)
      else (.error .invalidCredentials, users)

/-- `AuthHandler.writeAuthResponse`: a token for the user's ID, valid for
`defaultTokenTTL`. -/
def writeAuthResponse (user : User) : AuthResponse :=
  match generate user.id with
  | .error _ => .error 500 "failed to issue token"
  | .ok token => .authenticated token user.id user.email (user.displayName.getD "")

/-- `AuthHandler.Register`: decode the body, register, and answer a token or the error. -/
def handleRegister (hashed : Except String (List UInt8)) (freshID : String)
    (body : Except String AuthRequest) (users : UserTable) : AuthResponse × UserTable :=
  match body with
  | .error _ => (.error 400 "invalid body", users)
  | .ok request =>
      match register uniqueViolation hashed freshID request.email request.displayName users with
      | (.error text, users) =>
          if isDuplicateError text then (.error 409 "email already registered", users)
          else (.error 500 ("failed to register: " ++ text), users)
      | (.ok user, users) => (writeAuthResponse generate user, users)

/-- `AuthHandler.Login`: decode the body, log in, and answer a token or the error. -/
def handleLogin (freshID : String) (body : Except String AuthRequest) (users : UserTable) :
    AuthResponse × UserTable :=
  match body with
  | .error _ => (.error 400 "invalid body", users)
  | .ok request =>
      match login compareHashAndPassword freshID request.email request.password users with
      | (.error .invalidCredentials, users) => (.error 401 "invalid credentials", users)
      | (.error (.storage text), users) => (.error 500 ("failed to login: " ++ text), users)
      | (.ok user, users) => (writeAuthResponse generate user, users)

/-- A request to one of the two endpoints, with the hash and the UUID drawn
for it. -/
inductive AccountCall where
  | register (body : Except String AuthRequest) (hashed : Except String (List UInt8)) (freshID : String)
  | login (body : Except String AuthRequest) (freshID : String)

/-- One request: its answer and the table after it. -/
def accountStep (users : UserTable) : AccountCall → AuthResponse × UserTable
  | .register body hashed freshID => handleRegister uniqueViolation generate hashed freshID body users
  | .login body freshID => handleLogin compareHashAndPassword generate freshID body users

/-- A run of requests: each request with its answer, in order, and the table. -/
def accountRun (state : List (AccountCall × AuthResponse) × UserTable) :
    List AccountCall → List (AccountCall × AuthResponse) × UserTable
  | [] => state
  | call :: rest =>
      accountRun (state.1 ++ [(call, (accountStep uniqueViolation compareHashAndPassword generate state.2 call).1)],
        (accountStep uniqueViolation compareHashAndPassword generate state.2 call).2) rest

end Service

/-! ## What a request does to the table -/

/-- The columns login reads back: the email and the hash. -/
def User.credentials (user : User) : String × List UInt8 :=
  (user.email, user.passwordHash)

/-- A read by email changes at most IDs. -/
theorem getByEmail_credentials (freshID email : String) (users : UserTable) :
    (getByEmail freshID email users).2.map User.credentials = users.map User.credentials := by
  unfold getByEmail
  split
  · rfl
  · split_ifs
    · rw [List.map_map]
      exact List.map_congr_left fun other _ => by
        simp only [Function.comp_apply]; split_ifs <;> rfl
    · rfl

/-- With distinct emails, a read by a registered email finds that row. -/
theorem getByEmail_of_mem {freshID : String} {users : UserTable} (unique : (users.map User.email).Nodup)
    {row : User} (present : row ∈ users) :
    ∃ user, (getByEmail freshID row.email users).1 = .ok user ∧ user.email = row.email ∧
      user.passwordHash = row.passwordHash := by
  have found : users.find? (·.email = row.email) = some row := by
    induction users with
    | nil => cases present
    | cons first rest inductionHypothesis =>
        rw [List.map_cons, List.nodup_cons] at unique
        rcases List.mem_cons.mp present with rfl | later
        · simp
        · have other : first.email ≠ row.email := fun same =>
            unique.1 (same ▸ List.mem_map_of_mem User.email later)
          simp only [List.find?_cons, other, decide_False]
          exact inductionHypothesis unique.2 later
  unfold getByEmail
  rw [found]
  dsimp only
  split_ifs <;> exact ⟨_, rfl, rfl, rfl⟩

section Service

variable {uniqueViolation : String} {compareHashAndPassword : List UInt8 → String → Bool}
  {generate : String → Except String String}

/-- The insert either fails and leaves the table, or appends the row, whose
email no row had. -/
theorem createUser_cases (freshID : String) (user : User) (users : UserTable) :
    createUser uniqueViolation freshID user users = (.error uniqueViolation, users) ∨
      (createUser uniqueViolation freshID user users = (.ok (withID freshID user), users ++ [withID freshID user]) ∧
        ∀ row ∈ users, row.email ≠ user.email) := by
  unfold createUser
  split_ifs with taken
  · exact .inl rfl
  · exact .inr ⟨rfl, fun row present same => taken (List.any_eq_true.mpr ⟨row, present, by simp [same]⟩)⟩

/-- A registration either leaves the table and answers no token, or appends a
row for the request's email, which no row had, with the hash it was given. -/
theorem handleRegister_cases (hashed : Except String (List UInt8)) (freshID : String)
    (body : Except String AuthRequest) (users : UserTable) :
    ((handleRegister uniqueViolation generate hashed freshID body users).2 = users ∧
        ∀ token id email name,
          (handleRegister uniqueViolation generate hashed freshID body users).1 ≠
            .authenticated token id email name) ∨
      ∃ request user, body = .ok request ∧ hashed = .ok user.passwordHash ∧
        user.email = request.email ∧ (∀ row ∈ users, row.email ≠ request.email) ∧
        (handleRegister uniqueViolation generate hashed freshID body users).2 = users ++ [user] := by
  rcases body with text | request
  · exact .inl ⟨rfl, fun _ _ _ _ => by simp [handleRegister]⟩
  rcases hashed with text | hash
  · left
    simp only [handleRegister, register]
    split_ifs <;> simp
  rcases @createUser_cases uniqueViolation freshID
      ⟨"", request.email, hash, if request.displayName = "" then none else some request.displayName⟩ users with
    refused | ⟨inserted, fresh⟩
  · left
    simp only [handleRegister, register, refused]
    split_ifs <;> simp
  · right
    refine ⟨request, withID freshID
      ⟨"", request.email, hash, if request.displayName = "" then none else some request.displayName⟩,
      rfl, by simp, by simp, fresh, ?_⟩
    simp only [handleRegister, register]
    rw [inserted]

theorem handleLogin_credentials (freshID : String) (body : Except String AuthRequest) (users : UserTable) :
    (handleLogin compareHashAndPassword generate freshID body users).2.map User.credentials =
      users.map User.credentials := by
  rcases body with text | request
  · rfl
  have read := getByEmail_credentials freshID request.email users
  simp only [handleLogin, login]
  generalize getByEmail freshID request.email users = outcome at read
  obtain ⟨result, read⟩ := outcome
  rcases result with text | user
  · exact read
  · dsimp only
    split_ifs <;> exact read

/-- No two rows share an email, and every registration answered with a token
left a row with its email whose hash bcrypt accepts for its password. -/
structure Accounts (compareHashAndPassword : List UInt8 → String → Bool)
    (log : List (AccountCall × AuthResponse)) (users : UserTable) : Prop where
  emailsUnique : (users.map User.email).Nodup
  registered : ∀ request hashed freshID token id email name,
    (AccountCall.register (.ok request) hashed freshID, AuthResponse.authenticated token id email name) ∈ log →
      ∃ row ∈ users, row.email = request.email ∧ compareHashAndPassword row.passwordHash request.password = true

/-- The hash a registration carries is one bcrypt accepts for its password. -/
def BcryptHashed (compareHashAndPassword : List UInt8 → String → Bool) : AccountCall → Prop
  | .register body hashed _ => ∀ request hash, body = .ok request → hashed = .ok hash →
      compareHashAndPassword hash request.password = true
  | .login _ _ => True

/-- A step whose rows keep their credentials keeps the accounts. -/
theorem Accounts.of_credentials {log : List (AccountCall × AuthResponse)} {users users' : UserTable}
    (accounts : Accounts compareHashAndPassword log users)
    (kept : users'.map User.credentials = users.map User.credentials) {entry : AccountCall × AuthResponse}
    (notRegistered : ∀ request hashed freshID token id email name,
      entry ≠ (AccountCall.register (.ok request) hashed freshID, AuthResponse.authenticated token id email name)) :
    Accounts compareHashAndPassword (log ++ [entry]) users' := by
  have emails : users'.map User.email = users.map User.email := by
    have := congrArg (List.map Prod.fst) kept
    simpa only [List.map_map] using this
  refine ⟨emails ▸ accounts.emailsUnique, fun request hashed freshID token id email name logged => ?_⟩
  rcases List.mem_append.mp logged with earlier | last
  · obtain ⟨row, present, named, accepted⟩ := accounts.registered request hashed freshID token id email name earlier
    obtain ⟨row', present', same⟩ : ∃ row' ∈ users', row'.credentials = row.credentials := by
      have : row.credentials ∈ users'.map User.credentials := kept ▸ List.mem_map_of_mem _ present
      simpa using this
    simp only [User.credentials, Prod.mk.injEq] at same
    exact ⟨row', present', same.1.trans named, same.2 ▸ accepted⟩
  · exact absurd (List.mem_singleton.mp last).symm (notRegistered _ _ _ _ _ _ _)

/-- One request keeps the accounts, when its hash is bcrypt's. -/
theorem Accounts.step {log : List (AccountCall × AuthResponse)} {users : UserTable}
    (accounts : Accounts compareHashAndPassword log users) (call : AccountCall)
    (hashed : BcryptHashed compareHashAndPassword call) :
    Accounts compareHashAndPassword
      (log ++ [(call, (accountStep uniqueViolation compareHashAndPassword generate users call).1)])
      (accountStep uniqueViolation compareHashAndPassword generate users call).2 := by
  cases call with
  | login body freshID =>
      exact accounts.of_credentials (handleLogin_credentials freshID body users) fun _ _ _ _ _ _ _ => by
        simp
  | register body drawn freshID =>
      rcases @handleRegister_cases uniqueViolation generate drawn freshID body users with
        ⟨kept, noToken⟩ | ⟨request, user, rfl, rfl, named, fresh, appended⟩
      · refine accounts.of_credentials (by simp only [accountStep, kept]) fun request hashed freshID token id
          email name same => ?_
        simp only [accountStep, Prod.mk.injEq, AccountCall.register.injEq] at same
        exact noToken token id email name same.2
      · simp only [accountStep, appended]
        refine ⟨?_, fun other hash otherID token id email name logged => ?_⟩
        · rw [List.map_append, List.nodup_append]
          refine ⟨accounts.emailsUnique, List.nodup_singleton _, ?_⟩
          intro email inUsers inNew
          obtain ⟨row, present, rfl⟩ := List.mem_map.mp inUsers
          rw [List.map_singleton, List.mem_singleton] at inNew
          exact fresh row present (inNew.trans named)
        · rcases List.mem_append.mp logged with earlier | last
          · obtain ⟨row, present, rowNamed, accepted⟩ :=
              accounts.registered other hash otherID token id email name earlier
            exact ⟨row, List.mem_append_left _ present, rowNamed, accepted⟩
          · simp only [List.mem_singleton, Prod.mk.injEq, AccountCall.register.injEq,
              Except.ok.injEq] at last
            obtain ⟨⟨rfl, -, -⟩, -⟩ := last
            exact ⟨user, List.mem_append_right _ (List.mem_singleton_self _), named,
              hashed other user.passwordHash rfl rfl⟩

theorem Accounts.run :
    ∀ (calls : List AccountCall) {log : List (AccountCall × AuthResponse)} {users : UserTable},
      Accounts compareHashAndPassword log users → (∀ call ∈ calls, BcryptHashed compareHashAndPassword call) →
      Accounts compareHashAndPassword (accountRun uniqueViolation compareHashAndPassword generate (log, users) calls).1
        (accountRun uniqueViolation compareHashAndPassword generate (log, users) calls).2
  | [], _, _, accounts, _ => accounts
  | call :: rest, _, _, accounts, hashed =>
      Accounts.run rest (accounts.step call (hashed call (List.mem_cons_self _ _)))
        fun other member => hashed other (List.mem_cons_of_mem _ member)

end Service

/-- Over every run of register and login requests from an empty table in which
each registration's hash is one bcrypt accepts for its password, no two rows
share an email, and every registration answered with a token left an account
that a login with the same email and password opens. -/
theorem registered_accounts_log_in (uniqueViolation : String)
    (compareHashAndPassword : List UInt8 → String → Bool) (generate : String → Except String String)
    (calls : List AccountCall) (hashed : ∀ call ∈ calls, BcryptHashed compareHashAndPassword call) :
    ((accountRun uniqueViolation compareHashAndPassword generate ([], []) calls).2.map User.email).Nodup ∧
    ∀ request drawn freshID token id email name,
      (AccountCall.register (.ok request) drawn freshID, AuthResponse.authenticated token id email name) ∈
        (accountRun uniqueViolation compareHashAndPassword generate ([], []) calls).1 →
      ∀ loginID, ∃ user,
        (login compareHashAndPassword loginID request.email request.password
          (accountRun uniqueViolation compareHashAndPassword generate ([], []) calls).2).1 = .ok user ∧
        user.email = request.email := by
  have accounts := @Accounts.run uniqueViolation compareHashAndPassword generate calls [] []
    ⟨List.nodup_nil, fun _ _ _ _ _ _ _ absent => by cases absent⟩ hashed
  refine ⟨accounts.emailsUnique, fun request drawn freshID token id email name logged loginID => ?_⟩
  obtain ⟨row, present, named, accepted⟩ := accounts.registered request drawn freshID token id email name logged
  obtain ⟨user, read, sameEmail, sameHash⟩ :=
    @getByEmail_of_mem loginID _ accounts.emailsUnique _ present
  refine ⟨user, ?_, sameEmail.trans named⟩
  rw [← named]
  unfold login
  generalize getByEmail loginID row.email _ = outcome at read ⊢
  obtain ⟨result, table⟩ := outcome
  cases read
  simp [sameHash, accepted]

/-- A stand-in for bcrypt that stores the password's bytes. -/
def plaintextBytes (password : String) : List UInt8 :=
  password.data.map fun c => c.toNat.toUInt8

/-- Its check: the stored bytes are the password's. -/
def plaintextCompare (hash : List UInt8) (password : String) : Bool :=
  decide (hash = plaintextBytes password)

/-- Alice registers, registers again with another password, and logs in. -/
def aliceCalls : List AccountCall :=
  [.register (.ok ⟨"alice@example.com", "secret", "Alice"⟩) (.ok (plaintextBytes "secret")) "id-1",
    .register (.ok ⟨"alice@example.com", "other", ""⟩) (.ok (plaintextBytes "other")) "id-2",
    .login (.ok ⟨"alice@example.com", "secret", ""⟩) "id-3"]

/-- With SQLite's text for the violation, the second registration gets a 409,
and the login opens Alice's first account. -/
example :
    (accountRun "constraint failed: UNIQUE constraint failed: users.email (2067)" plaintextCompare
      (fun id => .ok ("token-" ++ id)) ([], []) aliceCalls).1.map Prod.snd =
      [.authenticated "token-id-1" "id-1" "alice@example.com" "Alice",
        .error 409 "email already registered",
        .authenticated "token-id-1" "id-1" "alice@example.com" "Alice"] := by
  decide

theorem alice_account_logs_in :
    (∀ call ∈ aliceCalls, BcryptHashed plaintextCompare call) ∧
    ((accountRun "constraint failed: UNIQUE constraint failed: users.email (2067)" plaintextCompare
        (fun id => .ok ("token-" ++ id)) ([], []) aliceCalls).2.map User.email).Nodup ∧
    ∀ request drawn freshID token id email name,
      (AccountCall.register (.ok request) drawn freshID, AuthResponse.authenticated token id email name) ∈
        (accountRun "constraint failed: UNIQUE constraint failed: users.email (2067)" plaintextCompare
          (fun id => .ok ("token-" ++ id)) ([], []) aliceCalls).1 →
      ∀ loginID, ∃ user,
        (login plaintextCompare loginID request.email request.password
          (accountRun "constraint failed: UNIQUE constraint failed: users.email (2067)" plaintextCompare
            (fun id => .ok ("token-" ++ id)) ([], []) aliceCalls).2).1 = .ok user ∧
        user.email = request.email :=
  have hashed : ∀ call ∈ aliceCalls, BcryptHashed plaintextCompare call := by
    intro call member
    simp only [aliceCalls, List.mem_cons, List.mem_singleton, List.not_mem_nil, or_false] at member
    rcases member with rfl | rfl | rfl <;> simp [BcryptHashed, plaintextCompare]
  ⟨hashed, registered_accounts_log_in _ _ _ aliceCalls hashed⟩

/-- The only error `writeAuthResponse` writes. -/
theorem writeAuthResponse_eq_error {generate : String → Except String String} {user : User}
    {status : Nat} {message : String} (failed : writeAuthResponse generate user = .error status message) :
    status = 500 ∧ message = "failed to issue token" := by
  unfold writeAuthResponse at failed
  split at failed
  · cases failed; exact ⟨rfl, rfl⟩
  · cases failed

/-- What a login decides, read off the row with the email. -/
theorem login_fst (compareHashAndPassword : List UInt8 → String → Bool) (freshID email password : String)
    (users : UserTable) :
    (login compareHashAndPassword freshID email password users).1 =
      match users.find? (·.email = email) with
      | none => .error (.storage errNoRows)
      | some row =>
          if compareHashAndPassword row.passwordHash password then .ok (withID freshID row)
          else .error .invalidCredentials := by
  unfold login getByEmail
  cases users.find? (·.email = email) with
  | none => rfl
  | some row =>
      by_cases unnamed : row.id = "" <;> simp only [unnamed, if_true, if_false, withID] <;> split_ifs <;> rfl

/-- What the login endpoint answers for what the service decided. -/
theorem handleLogin_fst (compareHashAndPassword : List UInt8 → String → Bool)
    (generate : String → Except String String) (freshID : String) (request : AuthRequest)
    (users : UserTable) :
    (handleLogin compareHashAndPassword generate freshID (.ok request) users).1 =
      match (login compareHashAndPassword freshID request.email request.password users).1 with
      | .error .invalidCredentials => .error 401 "invalid credentials"
      | .error (.storage text) => .error 500 ("failed to login: " ++ text)
      | .ok user => writeAuthResponse generate user := by
  simp only [handleLogin]
  generalize login compareHashAndPassword freshID request.email request.password users = outcome
  obtain ⟨result, table⟩ := outcome
  rcases result with (_ | text) | user <;> rfl

/-- Login tells an unknown email from a wrong password: it answers 500 with the
driver's `no rows` text exactly when no row has the email, and 401 exactly
when the row with the email has a hash bcrypt refuses the password for. -/
theorem login_distinguishes_unknown_email (compareHashAndPassword : List UInt8 → String → Bool)
    (generate : String → Except String String) (freshID : String) (request : AuthRequest)
    (users : UserTable) :
    ((handleLogin compareHashAndPassword generate freshID (.ok request) users).1 =
        .error 500 ("failed to login: " ++ errNoRows) ↔ ∀ row ∈ users, row.email ≠ request.email) ∧
    ((handleLogin compareHashAndPassword generate freshID (.ok request) users).1 =
        .error 401 "invalid credentials" ↔
      ∃ row, users.find? (·.email = request.email) = some row ∧
        compareHashAndPassword row.passwordHash request.password = false) := by
  rw [handleLogin_fst, login_fst]
  cases found : users.find? (·.email = request.email) with
  | none =>
      have unknown : ∀ row ∈ users, row.email ≠ request.email := by
        simpa using List.find?_eq_none.mp found
      simpa using unknown
  | some row =>
      have known : ¬ ∀ other ∈ users, other.email ≠ request.email := fun unknown =>
        unknown row (List.mem_of_find?_eq_some found) (by simpa using List.find?_some found)
      dsimp only
      split_ifs with accepted
      · -- a token, or the token error, which is neither answer
        constructor
        · refine iff_of_false (fun answered => ?_) known
          exact absurd (writeAuthResponse_eq_error answered).2 (by decide)
        · refine iff_of_false (fun answered => ?_) (by simp [accepted])
          exact absurd (writeAuthResponse_eq_error answered).1 (by decide)
      · simp [known, accepted]

end LiveStreaming.Server
