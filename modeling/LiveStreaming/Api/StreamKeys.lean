import LiveStreaming.StreamKey.Index

/-!
# The stream-key endpoints

`stream-keys/generate`, `stream-keys/validate`, `stream-keys/revoke` and
`stream-keys/list` put the stream-key manager behind HTTP. Each writer refuses
any method but `POST` with 405 and a body that does not decode with 400; the
list refuses any method but `GET`, and a missing `streamer_id` with 400.

* `handleGenerateStreamKey` reads `expires_in` as an `int64` count of seconds
  and turns it into a `time.Duration` by `time.Duration(*req.ExpiresIn) *
  time.Second`, an `int64` product that wraps. A key is valid at a time after
  its generation exactly when that time is not past its generation plus the
  wrapped duration (`generated_key_valid_until_expiry`); so an `expires_in`
  from `9223372037` to `18446744073` seconds, whose product passes `2^63`,
  makes a key that is expired when it is made
  (`overflowing_expiry_born_expired`).
* `handleValidateStreamKey` validates the key and then marks it used.
  `ValidateStreamKey` returns a pointer to the stored record, which
  `MarkKeyAsUsed` updates in place, so the record the handler encodes already
  counts this use. Over every run of requests a stored key's usage count is
  the number of successful validations of it since it was generated, and each
  successful validation reports that count with itself included
  (`usage_count_counts_validations`).

The handlers read the clock once each. The model runs a handler's steps
without another request in between; in the server a generation or a
revocation can fall between a validation and its mark.
-/

namespace LiveStreaming.Api

open LiveStreaming.StreamKeys

/-- The body of a `stream-keys/generate` request. `expires_in` is an `int64`
count of seconds, absent when the key never expires; the endpoint passes no
permissions, so the key gets the defaults. -/
structure GenerateStreamKeyRequest where
  streamerID : ParticipantIdentity
  roomName : RoomName
  expiresIn : Option Int

/-- What a stream-key endpoint answers. -/
inductive StreamKeyResponse where
  /-- 200 with the JSON of the generated key. -/
  | generated (streamKey : StreamKey)
  /-- 200 with `valid` and the record the handler encodes. -/
  | valid (streamKey : StreamKey)
  /-- 200 with `success`. -/
  | success
  /-- 200 with the streamer's keys. -/
  | keys (streamKeys : List StreamKey)
  /-- `http.Error` with this status and message. -/
  | error (status : Nat) (message : String)

/-- `time.Duration(*req.ExpiresIn) * time.Second`: an `int64` product, which
wraps. -/
def expiryDuration (seconds : Int) : Int :=
  wrapInt64 (seconds * second)

/-- `handleGenerateStreamKey`; `keyBytes` is what `crypto/rand` read. -/
def handleGenerateStreamKey (now : Int) (method : String) (body : Except String GenerateStreamKeyRequest)
    (keyBytes : Option (Fin 32 → UInt8)) (manager : StreamKeyManager) :
    StreamKeyResponse × StreamKeyManager :=
  if method ≠ "POST" then (.error 405 "Method not allowed", manager)
  else
    match body with
    | .error text => (.error 400 text, manager)
    | .ok request =>
        let outcome := generateStreamKey now request.streamerID request.roomName none
          (request.expiresIn.map expiryDuration) keyBytes manager
        match outcome.result with
        | .error error => (.error 500 error.text, outcome.manager)
        | .ok streamKey => (.generated streamKey, outcome.manager)

/-- `handleValidateStreamKey`; the body is the `key` field of the request. The
encoded record is the one `MarkKeyAsUsed` leaves in the map, and the mark's
own error is ignored. -/
def handleValidateStreamKey (now : Int) (method : String) (body : Except String String)
    (manager : StreamKeyManager) : StreamKeyResponse × StreamKeyManager :=
  if method ≠ "POST" then (.error 405 "Method not allowed", manager)
  else
    match body with
    | .error text => (.error 400 text, manager)
    | .ok key =>
        match validateStreamKey now key manager with
        | .error error => (.error 401 error.text, manager)
        | .ok streamKey =>
            let marked := (markKeyAsUsed now key manager).manager
            (.valid ((marked.keys.lookup key).getD streamKey), marked)

/-- `handleRevokeStreamKey`; the body is the `key` field of the request. -/
def handleRevokeStreamKey (method : String) (body : Except String String) (manager : StreamKeyManager) :
    StreamKeyResponse × StreamKeyManager :=
  if method ≠ "POST" then (.error 405 "Method not allowed", manager)
  else
    match body with
    | .error text => (.error 400 text, manager)
    | .ok key =>
        let outcome := revokeStreamKey key manager
        match outcome.result with
        | .error error => (.error 500 error.text, outcome.manager)
        | .ok () => (.success, outcome.manager)

/-- `handleListStreamKeys`; `streamerID` is the `streamer_id` query value, empty
when absent. `GetStreamKeysByStreamer` never fails. -/
def handleListStreamKeys (method streamerID : String) (manager : StreamKeyManager) : StreamKeyResponse :=
  if method ≠ "GET" then .error 405 "Method not allowed"
  else if streamerID = "" then .error 400 "streamer_id required"
  else .keys (getStreamKeysByStreamer streamerID manager)

/-! ## Generation and its expiry -/

theorem generateStreamKey_some (now : Int) (streamerID : ParticipantIdentity) (roomName : RoomName)
    (permissions : Option StreamPermissions) (expiresIn : Option Int) (keyBytes : Fin 32 → UInt8)
    (manager : StreamKeyManager) :
    ∃ streamKey : StreamKey,
      generateStreamKey now streamerID roomName permissions expiresIn (some keyBytes) manager =
        ⟨.ok streamKey,
          { keys := manager.keys.insert streamKey.key streamKey
            streamerKeys := Function.update manager.streamerKeys streamerID
              (manager.streamerKeys streamerID ++ [streamKey.key]) }⟩ ∧
      streamKey.key = encodeToString keyBytes ∧ streamKey.isActive = true ∧
      streamKey.expiresAt = expiresIn.map (now + ·) ∧ streamKey.usageCount = 0 :=
  ⟨_, rfl, rfl, rfl, rfl, rfl⟩

/-- A `POST` with a decoded body and a successful random read stores the key
it answers with, active and unused, expiring at the wrapped duration. -/
theorem handleGenerateStreamKey_generated (now : Int) (request : GenerateStreamKeyRequest)
    (keyBytes : Fin 32 → UInt8) (manager : StreamKeyManager) :
    ∃ streamKey : StreamKey,
      (handleGenerateStreamKey now "POST" (.ok request) (some keyBytes) manager).1 = .generated streamKey ∧
      (handleGenerateStreamKey now "POST" (.ok request) (some keyBytes) manager).2.keys =
        manager.keys.insert streamKey.key streamKey ∧
      streamKey.key = encodeToString keyBytes ∧ streamKey.isActive = true ∧
      streamKey.expiresAt = request.expiresIn.map (now + expiryDuration ·) ∧ streamKey.usageCount = 0 := by
  obtain ⟨streamKey, generated, named, active, expiry, unused⟩ := generateStreamKey_some now
    request.streamerID request.roomName none (request.expiresIn.map expiryDuration) keyBytes manager
  simp only [handleGenerateStreamKey, ne_eq, not_true_eq_false, if_false, generated]
  exact ⟨streamKey, rfl, rfl, named, active, by rw [expiry, Option.map_map]; rfl, unused⟩

/-- The generation endpoint either refuses and leaves the manager as it was,
or stores a new, unused record under the key it answers with. -/
theorem handleGenerateStreamKey_cases (now : Int) (method : String)
    (body : Except String GenerateStreamKeyRequest) (keyBytes : Option (Fin 32 → UInt8))
    (manager : StreamKeyManager) :
    ((∃ status message, (handleGenerateStreamKey now method body keyBytes manager).1 = .error status message) ∧
        (handleGenerateStreamKey now method body keyBytes manager).2 = manager) ∨
      ∃ streamKey : StreamKey,
        (handleGenerateStreamKey now method body keyBytes manager).1 = .generated streamKey ∧
        (handleGenerateStreamKey now method body keyBytes manager).2.keys =
          manager.keys.insert streamKey.key streamKey ∧
        streamKey.usageCount = 0 := by
  by_cases post : method = "POST"
  · subst post
    rcases body with text | request
    · exact .inl ⟨⟨_, _, rfl⟩, rfl⟩
    · cases keyBytes with
      | none => exact .inl ⟨⟨_, _, rfl⟩, rfl⟩
      | some keyBytes =>
          obtain ⟨streamKey, answer, stored, -, -, -, unused⟩ :=
            handleGenerateStreamKey_generated now request keyBytes manager
          exact .inr ⟨streamKey, answer, stored, unused⟩
  · have refused : handleGenerateStreamKey now method body keyBytes manager =
        (.error 405 "Method not allowed", manager) := if_pos post
    rw [refused]
    exact .inl ⟨⟨_, _, rfl⟩, rfl⟩

/-- A key the generation endpoint makes is valid at a time after its
generation exactly when that time is not past the generation time plus the
wrapped `expires_in`. -/
theorem generated_key_valid_until_expiry (now : Int) (request : GenerateStreamKeyRequest)
    (keyBytes : Fin 32 → UInt8) (manager : StreamKeyManager) :
    ∃ streamKey : StreamKey,
      (handleGenerateStreamKey now "POST" (.ok request) (some keyBytes) manager).1 = .generated streamKey ∧
      streamKey.key = encodeToString keyBytes ∧
      ∀ later, now ≤ later →
        ((validateStreamKey later streamKey.key
          (handleGenerateStreamKey now "POST" (.ok request) (some keyBytes) manager).2).isOk = true ↔
          ∀ seconds, request.expiresIn = some seconds → later ≤ now + expiryDuration seconds) := by
  obtain ⟨streamKey, answer, stored, named, active, expiry, -⟩ :=
    handleGenerateStreamKey_generated now request keyBytes manager
  refine ⟨streamKey, answer, named, fun later _ => ?_⟩
  rw [validateStreamKey_isOk (by rw [stored]; exact AList.lookup_insert _), active, Bool.true_and,
    Bool.not_eq_true', expiredAt_eq_false_iff, expiry]
  cases request.expiresIn <;> simp

/-- Between `2^63` and `2^64` nanoseconds the product wraps to below zero. -/
theorem expiryDuration_of_overflow {seconds : Int}
    (overflowing : 9223372037 ≤ seconds ∧ seconds ≤ 18446744073) :
    expiryDuration seconds < 0 := by
  show (seconds * 1000000000 + 9223372036854775808) % 18446744073709551616 - 9223372036854775808 < 0
  have wrapped : seconds * 1000000000 + 9223372036854775808 =
      (seconds * 1000000000 - 9223372036854775808) + 18446744073709551616 * 1 := by omega
  rw [wrapped, Int.add_mul_emod_self_left, Int.emod_eq_of_lt (by omega) (by omega)]
  omega

/-- An `expires_in` from `9223372037` to `18446744073` seconds, a bit over 292
years up to about 584, gives a key that every validation from its generation
on refuses as expired. -/
theorem overflowing_expiry_born_expired (now : Int) (request : GenerateStreamKeyRequest)
    (keyBytes : Fin 32 → UInt8) (manager : StreamKeyManager) {seconds : Int}
    (given : request.expiresIn = some seconds)
    (overflowing : 9223372037 ≤ seconds ∧ seconds ≤ 18446744073) :
    ∃ streamKey : StreamKey,
      (handleGenerateStreamKey now "POST" (.ok request) (some keyBytes) manager).1 = .generated streamKey ∧
      ∀ later, now ≤ later →
        validateStreamKey later streamKey.key
          (handleGenerateStreamKey now "POST" (.ok request) (some keyBytes) manager).2 =
          .error .streamKeyExpired := by
  obtain ⟨streamKey, answer, stored, -, active, expiry, -⟩ :=
    handleGenerateStreamKey_generated now request keyBytes manager
  refine ⟨streamKey, answer, fun later after => ?_⟩
  have expired : expiredAt later streamKey.expiresAt = true := by
    rw [expiry, given, expiredAt_eq_true_iff]
    exact ⟨now + expiryDuration seconds, rfl, by have := expiryDuration_of_overflow overflowing; omega⟩
  simp only [validateStreamKey, stored, AList.lookup_insert, active, Bool.not_true, expired]
  rfl

/-- A request for a key that expires in 9223372037 seconds. -/
def overflowingRequest : GenerateStreamKeyRequest := ⟨"alice", "stage", some 9223372037⟩

theorem overflowing_request_born_expired :
    overflowingRequest.expiresIn = some 9223372037 ∧
      (9223372037 ≤ (9223372037 : Int) ∧ (9223372037 : Int) ≤ 18446744073) ∧
      ∃ streamKey : StreamKey,
        (handleGenerateStreamKey 0 "POST" (.ok overflowingRequest) (some fun _ => 0)
          StreamKeyManager.new).1 = .generated streamKey ∧
        ∀ later, 0 ≤ later →
          validateStreamKey later streamKey.key
            (handleGenerateStreamKey 0 "POST" (.ok overflowingRequest) (some fun _ => 0)
              StreamKeyManager.new).2 = .error .streamKeyExpired :=
  ⟨rfl, by decide, overflowing_expiry_born_expired 0 overflowingRequest (fun _ => 0) StreamKeyManager.new
    rfl (by decide)⟩

/-! ## Validation counts uses -/

/-- `ValidateStreamKey` only accepts a stored record. -/
theorem validateStreamKey_stored {now : Int} {key : String} {manager : StreamKeyManager}
    {streamKey : StreamKey} (accepted : validateStreamKey now key manager = .ok streamKey) :
    manager.keys.lookup key = some streamKey := by
  unfold validateStreamKey at accepted
  split at accepted
  · cases accepted
  · split_ifs at accepted
    cases accepted
    assumption

/-- The validation endpoint either refuses and leaves the manager as it was,
or accepts a stored key, answers with its record with this use counted, and
stores that record in its place. -/
theorem handleValidateStreamKey_cases (now : Int) (method : String) (body : Except String String)
    (manager : StreamKeyManager) :
    ((∃ status message, (handleValidateStreamKey now method body manager).1 = .error status message) ∧
        (handleValidateStreamKey now method body manager).2 = manager) ∨
      ∃ key old, manager.keys.lookup key = some old ∧
        handleValidateStreamKey now method body manager =
          (.valid { old with usageCount := old.usageCount + 1, lastUsedAt := some now },
            { manager with
              keys := manager.keys.insert key
                { old with usageCount := old.usageCount + 1, lastUsedAt := some now } }) := by
  unfold handleValidateStreamKey
  split_ifs
  · exact .inl ⟨⟨_, _, rfl⟩, rfl⟩
  · rcases body with text | key
    · exact .inl ⟨⟨_, _, rfl⟩, rfl⟩
    · dsimp only
      split
      · exact .inl ⟨⟨_, _, rfl⟩, rfl⟩
      · rename_i streamKey accepted
        have stored := validateStreamKey_stored accepted
        refine .inr ⟨key, streamKey, stored, ?_⟩
        simp only [markKeyAsUsed, updateStreamKey, stored, AList.lookup_insert, Option.getD_some]

/-- The revocation endpoint changes at most the `isActive` flag of one record. -/
theorem handleRevokeStreamKey_lookup (method : String) (body : Except String String)
    (manager : StreamKeyManager) (key : String) :
    ((handleRevokeStreamKey method body manager).2.keys.lookup key).map
        (fun streamKey => (streamKey.key, streamKey.usageCount)) =
      (manager.keys.lookup key).map fun streamKey => (streamKey.key, streamKey.usageCount) := by
  unfold handleRevokeStreamKey
  split_ifs
  · rfl
  · rcases body with text | revoked
    · rfl
    · have revokedKeys : (revokeStreamKey revoked manager).manager.keys.lookup key =
          if key = revoked then (manager.keys.lookup revoked).map
            (fun streamKey => { streamKey with isActive := false })
          else manager.keys.lookup key :=
        updateStreamKey_lookup key
      dsimp only
      split
      all_goals
        rw [revokedKeys]
        split_ifs with same
        · subst same; rw [Option.map_map]; rfl
        · rfl

/-! ## Runs of requests -/

/-- A request to one of the four endpoints, with what its handler reads
besides the manager: the method, the decoded body or query value, and for a
generation the random read. -/
inductive StreamKeyCall where
  | generate (method : String) (body : Except String GenerateStreamKeyRequest)
      (keyBytes : Option (Fin 32 → UInt8))
  | validate (method : String) (body : Except String String)
  | revoke (method : String) (body : Except String String)
  | list (method streamerID : String)

/-- One request at clock reading `now`: the answer and the manager after it. -/
def streamKeyCallStep (manager : StreamKeyManager) (now : Int) :
    StreamKeyCall → StreamKeyResponse × StreamKeyManager
  | .generate method body keyBytes => handleGenerateStreamKey now method body keyBytes manager
  | .validate method body => handleValidateStreamKey now method body manager
  | .revoke method body => handleRevokeStreamKey method body manager
  | .list method streamerID => (handleListStreamKeys method streamerID manager, manager)

/-- A run of timed requests: the answers so far, in order, and the manager. -/
def streamKeyCallRun (state : List StreamKeyResponse × StreamKeyManager) :
    List (Int × StreamKeyCall) → List StreamKeyResponse × StreamKeyManager
  | [] => state
  | (now, call) :: rest =>
      streamKeyCallRun (state.1 ++ [(streamKeyCallStep state.2 now call).1],
        (streamKeyCallStep state.2 now call).2) rest

/-- How an answer moves the count of successful validations of `key` since
its generation: a generation of the key restarts it, a successful validation
of it adds one. -/
def tallyAnswer (key : String) (count : Nat) : StreamKeyResponse → Nat
  | .generated streamKey => if streamKey.key = key then 0 else count
  | .valid streamKey => if streamKey.key = key then count + 1 else count
  | _ => count

/-- The successful validations of `key` since its last generation, read off
the answers. -/
def usageTally (key : String) (answers : List StreamKeyResponse) : Nat :=
  answers.foldl (tallyAnswer key) 0

@[simp]
theorem usageTally_append_singleton (key : String) (answers : List StreamKeyResponse)
    (answer : StreamKeyResponse) :
    usageTally key (answers ++ [answer]) = tallyAnswer key (usageTally key answers) answer := by
  simp [usageTally]

/-- Every stored record sits under its own key and counts the successful
validations of that key since its generation, and every successful validation
answered so far reported that count as it stood after it. -/
structure UsageCounted (answers : List StreamKeyResponse) (manager : StreamKeyManager) : Prop where
  stored : ∀ key streamKey, manager.keys.lookup key = some streamKey →
    streamKey.key = key ∧ streamKey.usageCount = usageTally key answers
  reported : ∀ before streamKey after, answers = before ++ .valid streamKey :: after →
    streamKey.usageCount = usageTally streamKey.key (before ++ [.valid streamKey])

theorem usageCounted_new : UsageCounted [] StreamKeyManager.new where
  stored _ _ absent := by cases absent
  reported before _ _ listed := by cases before <;> cases listed

section Counting

variable {answers : List StreamKeyResponse} {manager : StreamKeyManager}

/-- An answer's past answers keep what they reported. -/
theorem UsageCounted.reported_append (counted : UsageCounted answers manager) {answer : StreamKeyResponse}
    (reports : ∀ streamKey, answer = .valid streamKey →
      streamKey.usageCount = usageTally streamKey.key (answers ++ [answer])) :
    ∀ before streamKey after, answers ++ [answer] = before ++ .valid streamKey :: after →
      streamKey.usageCount = usageTally streamKey.key (before ++ [.valid streamKey]) := by
  intro before streamKey after listed
  rcases List.eq_nil_or_concat after with rfl | ⟨earlier, last, rfl⟩
  · obtain ⟨rfl, same⟩ := List.append_inj' listed rfl
    cases List.singleton_inj.mp same
    exact reports streamKey rfl
  · rw [List.concat_eq_append, ← List.cons_append, ← List.append_assoc] at listed
    exact counted.reported before streamKey earlier (List.append_inj' listed rfl).1

/-- An answer that counts nothing, after a step that keeps every record's key
and count. -/
theorem UsageCounted.of_neutral (counted : UsageCounted answers manager) {answer : StreamKeyResponse}
    {manager' : StreamKeyManager} (neutral : ∀ key count, tallyAnswer key count answer = count)
    (kept : ∀ key, (manager'.keys.lookup key).map (fun streamKey => (streamKey.key, streamKey.usageCount)) =
      (manager.keys.lookup key).map fun streamKey => (streamKey.key, streamKey.usageCount)) :
    UsageCounted (answers ++ [answer]) manager' where
  stored key streamKey found := by
    have before := kept key
    rw [found, Option.map_some', eq_comm, Option.map_eq_some'] at before
    obtain ⟨old, present, same⟩ := before
    obtain ⟨named, counts⟩ := counted.stored key old present
    rw [usageTally_append_singleton, neutral]
    exact ⟨(congrArg Prod.fst same).symm.trans named, (congrArg Prod.snd same).symm.trans counts⟩
  reported := counted.reported_append fun streamKey answered => by
    have := neutral streamKey.key 0
    rw [answered] at this
    simp [tallyAnswer] at this

theorem UsageCounted.of_refused (counted : UsageCounted answers manager) {status : Nat} {message : String} :
    UsageCounted (answers ++ [.error status message]) manager :=
  counted.of_neutral (fun _ _ => rfl) fun _ => rfl

theorem UsageCounted.generate (counted : UsageCounted answers manager) {streamKey : StreamKey}
    {manager' : StreamKeyManager} (stored : manager'.keys = manager.keys.insert streamKey.key streamKey)
    (unused : streamKey.usageCount = 0) :
    UsageCounted (answers ++ [.generated streamKey]) manager' where
  stored key entry found := by
    rw [stored] at found
    by_cases same : key = streamKey.key
    · subst same
      rw [AList.lookup_insert] at found
      cases found
      simp [tallyAnswer, unused]
    · rw [AList.lookup_insert_ne same] at found
      simp only [usageTally_append_singleton, tallyAnswer, Ne.symm same, if_false]
      exact counted.stored key entry found
  reported := counted.reported_append fun _ answered => by cases answered

theorem UsageCounted.validate (counted : UsageCounted answers manager) {key : String} {old : StreamKey}
    (present : manager.keys.lookup key = some old) (now : Int) :
    let used := { old with usageCount := old.usageCount + 1, lastUsedAt := some now }
    UsageCounted (answers ++ [.valid used]) { manager with keys := manager.keys.insert key used } := by
  obtain ⟨named, counts⟩ := counted.stored key old present
  refine ⟨fun other streamKey found => ?_, counted.reported_append fun streamKey answered => ?_⟩
  · by_cases same : other = key
    · subst same
      rw [AList.lookup_insert] at found
      cases found
      simp [tallyAnswer, named, counts]
    · rw [AList.lookup_insert_ne same] at found
      simp only [usageTally_append_singleton, tallyAnswer, named, Ne.symm same, if_false]
      exact counted.stored other streamKey found
  · cases answered
    simp [tallyAnswer, named, counts]

/-- One request keeps the count exact. -/
theorem UsageCounted.step (counted : UsageCounted answers manager) (now : Int) (call : StreamKeyCall) :
    UsageCounted (answers ++ [(streamKeyCallStep manager now call).1]) (streamKeyCallStep manager now call).2 := by
  cases call with
  | generate method body keyBytes =>
      rcases handleGenerateStreamKey_cases now method body keyBytes manager with
        ⟨⟨status, message, answer⟩, kept⟩ | ⟨streamKey, answer, stored, unused⟩
      · simp only [streamKeyCallStep, answer, kept]
        exact counted.of_refused
      · simp only [streamKeyCallStep, answer]
        exact counted.generate stored unused
  | validate method body =>
      rcases handleValidateStreamKey_cases now method body manager with
        ⟨⟨status, message, answer⟩, kept⟩ | ⟨key, old, present, answered⟩
      · simp only [streamKeyCallStep, answer, kept]
        exact counted.of_refused
      · simp only [streamKeyCallStep, answered]
        exact counted.validate present now
  | revoke method body =>
      refine counted.of_neutral (fun key count => ?_) (handleRevokeStreamKey_lookup method body manager)
      simp only [streamKeyCallStep, handleRevokeStreamKey]
      split_ifs
      · rfl
      · rcases body with text | key
        · rfl
        · dsimp only
          split <;> rfl
  | list method streamerID =>
      refine counted.of_neutral (fun key count => ?_) fun _ => rfl
      simp only [streamKeyCallStep, handleListStreamKeys]
      split_ifs <;> rfl

theorem UsageCounted.run :
    ∀ (calls : List (Int × StreamKeyCall)) {answers : List StreamKeyResponse} {manager : StreamKeyManager},
      UsageCounted answers manager →
        UsageCounted (streamKeyCallRun (answers, manager) calls).1 (streamKeyCallRun (answers, manager) calls).2
  | [], _, _, counted => counted
  | (now, call) :: rest, _, _, counted => UsageCounted.run rest (counted.step now call)

end Counting

/-- Over every run of requests from a new manager, a stored key's usage count
is the number of successful validations of it since it was generated, and
every successful validation answers with that count, itself included. -/
theorem usage_count_counts_validations (calls : List (Int × StreamKeyCall)) :
    (∀ key streamKey, (streamKeyCallRun ([], StreamKeyManager.new) calls).2.keys.lookup key = some streamKey →
      streamKey.usageCount = usageTally key (streamKeyCallRun ([], StreamKeyManager.new) calls).1) ∧
    ∀ before streamKey after, (streamKeyCallRun ([], StreamKeyManager.new) calls).1 =
        before ++ .valid streamKey :: after →
      streamKey.usageCount = usageTally streamKey.key (before ++ [.valid streamKey]) :=
  have counted := UsageCounted.run calls usageCounted_new
  ⟨fun key streamKey found => (counted.stored key streamKey found).2, counted.reported⟩

end LiveStreaming.Api
