import LiveStreaming.StreamKey.Manager

/-!
# Revocation is absorbing

A run of the manager applies its seven methods in any order. Once
`RevokeStreamKey` has cleared a key's `IsActive`, no method sets it again:
the updates copy the flag, deletion and the expiry sweep only drop records,
and `GenerateStreamKey` could only bring the key back by drawing the same
random bytes again. So if generated keys are fresh, `ValidateStreamKey` of a
revoked key fails for the rest of the run, at every clock reading.
-/

namespace LiveStreaming.StreamKeys

/-- One call on the manager. -/
inductive StreamKeyEvent where
  | generate (streamerID : ParticipantIdentity) (roomName : RoomName)
      (permissions : Option StreamPermissions) (expiresIn : Option Int)
      (keyBytes : Option (Fin 32 → UInt8))
  | validate (key : String)
  | markUsed (key : String)
  | revoke (key : String)
  | delete (key : String)
  | updateMetadata (key : String) (metadata : String → Option String)
  | cleanup

/-- The key a `generate` event stores, when its random read succeeded. -/
def StreamKeyEvent.generatedKey : StreamKeyEvent → Option String
  | .generate _ _ _ _ (some keyBytes) => some (encodeToString keyBytes)
  | _ => none

/-- One event at clock reading `now`. -/
def keyStep (manager : StreamKeyManager) (now : Int) : StreamKeyEvent → StreamKeyManager
  | .generate streamerID roomName permissions expiresIn keyBytes =>
      (generateStreamKey now streamerID roomName permissions expiresIn keyBytes manager).manager
  | .validate _ => manager
  | .markUsed key => (markKeyAsUsed now key manager).manager
  | .revoke key => (revokeStreamKey key manager).manager
  | .delete key => (deleteStreamKey key manager).manager
  | .updateMetadata key metadata => (updateStreamKeyMetadata key metadata manager).manager
  | .cleanup => (cleanupExpiredKeys now manager).2

/-- A run of timed events. -/
def keyRun : StreamKeyManager → List (Int × StreamKeyEvent) → StreamKeyManager
  | manager, [] => manager
  | manager, (now, event) :: rest => keyRun (keyStep manager now event) rest

theorem keyRun_append (manager : StreamKeyManager) (before after : List (Int × StreamKeyEvent)) :
    keyRun manager (before ++ after) = keyRun (keyRun manager before) after := by
  induction before generalizing manager with
  | nil => rfl
  | cons event rest inductionHypothesis => exact inductionHypothesis _

/-- The keys the `generate` events of a run store. -/
def generatedKeys (events : List (Int × StreamKeyEvent)) : List String :=
  events.flatMap fun event => event.2.generatedKey.toList

/-- No `generate` event of the run draws a key in `seen` or one drawn earlier in
the run. -/
def FreshKeys : List String → List (Int × StreamKeyEvent) → Prop
  | _, [] => True
  | seen, (_, event) :: rest =>
      (∀ key, event.generatedKey = some key → key ∉ seen) ∧
        FreshKeys (seen ++ event.generatedKey.toList) rest

theorem FreshKeys.append_right :
    ∀ {seen : List String} {before after : List (Int × StreamKeyEvent)},
      FreshKeys seen (before ++ after) → FreshKeys (seen ++ generatedKeys before) after
  | _, [], _, fresh => by simpa [generatedKeys] using fresh
  | _, (_, _) :: _, _, ⟨_, fresh⟩ => by
      simpa [generatedKeys, List.append_assoc] using FreshKeys.append_right fresh

/-! ## What a step does to one key's record -/

theorem KeyMap.lookup_keepIf_of_eq_some {keep : StreamKey → Bool} {keys : KeyMap}
    {key : String} {streamKey : StreamKey}
    (found : (keys.keepIf keep).lookup key = some streamKey) :
    keys.lookup key = some streamKey := by
  have member := AList.mem_lookup_iff.mp found
  exact AList.mem_lookup_iff.mpr (List.mem_of_mem_filter member)

theorem updateStreamKey_lookup_eq_some {change : StreamKey → StreamKey} {key other : String}
    {manager : StreamKeyManager} {streamKey : StreamKey}
    (found : (updateStreamKey change key manager).manager.keys.lookup other = some streamKey) :
    ∃ old, manager.keys.lookup other = some old ∧
      (streamKey = old ∨ (other = key ∧ streamKey = change old)) := by
  unfold updateStreamKey at found
  split at found
  · exact ⟨streamKey, found, .inl rfl⟩
  · rename_i old present
    by_cases same : other = key
    · subst same
      rw [AList.lookup_insert] at found
      exact ⟨old, present, .inr ⟨rfl, (Option.some.inj found).symm⟩⟩
    · rw [AList.lookup_insert_ne same] at found
      exact ⟨streamKey, found, .inl rfl⟩

/-- A record a step leaves under a key it did not generate was there before,
and active only if it was active before. -/
theorem keyStep_lookup_eq_some {manager : StreamKeyManager} {now : Int} {event : StreamKeyEvent}
    {key : String} {streamKey : StreamKey}
    (found : (keyStep manager now event).keys.lookup key = some streamKey)
    (notGenerated : event.generatedKey ≠ some key) :
    ∃ old, manager.keys.lookup key = some old ∧ (streamKey.isActive → old.isActive) := by
  cases event with
  | generate streamerID roomName permissions expiresIn keyBytes =>
      cases keyBytes with
      | none => exact ⟨streamKey, found, id⟩
      | some keyBytes =>
          have different : key ≠ encodeToString keyBytes := fun same =>
            notGenerated (by rw [same]; rfl)
          simp only [keyStep, generateStreamKey, AList.lookup_insert_ne different] at found
          exact ⟨streamKey, found, id⟩
  | validate => exact ⟨streamKey, found, id⟩
  | markUsed | updateMetadata =>
      obtain ⟨old, present, same | ⟨-, changed⟩⟩ := updateStreamKey_lookup_eq_some found
      · exact ⟨old, present, same ▸ id⟩
      · exact ⟨old, present, changed ▸ id⟩
  | revoke =>
      obtain ⟨old, present, same | ⟨-, changed⟩⟩ := updateStreamKey_lookup_eq_some found
      · exact ⟨old, present, same ▸ id⟩
      · refine ⟨old, present, fun active => ?_⟩
        rw [changed] at active
        cases active
  | delete deleted =>
      simp only [keyStep, deleteStreamKey] at found
      split at found
      · exact ⟨streamKey, found, id⟩
      · by_cases same : key = deleted
        · rw [same, AList.lookup_erase] at found
          cases found
        · rw [AList.lookup_erase_ne same] at found
          exact ⟨streamKey, found, id⟩
  | cleanup => exact ⟨streamKey, KeyMap.lookup_keepIf_of_eq_some found, id⟩

/-! ## Invariants of runs -/

/-- Every stored key is one of `seen`. -/
def StoredAmong (seen : List String) (manager : StreamKeyManager) : Prop :=
  ∀ key streamKey, manager.keys.lookup key = some streamKey → key ∈ seen

theorem StoredAmong.run :
    ∀ {seen : List String} {manager : StreamKeyManager} (events : List (Int × StreamKeyEvent)),
      StoredAmong seen manager → StoredAmong (seen ++ generatedKeys events) (keyRun manager events)
  | _, _, [], stored => by simpa [generatedKeys] using stored
  | seen, manager, (now, event) :: rest, stored => by
      have stepped : StoredAmong (seen ++ event.generatedKey.toList) (keyStep manager now event) := by
        intro key streamKey found
        by_cases generated : event.generatedKey = some key
        · simp [generated]
        · obtain ⟨old, present, -⟩ := keyStep_lookup_eq_some found generated
          exact List.mem_append_left _ (stored key old present)
      simpa [generatedKeys, List.append_assoc] using StoredAmong.run rest stepped

/-- No stored record of `key` is active. -/
def KeyRevoked (key : String) (manager : StreamKeyManager) : Prop :=
  ∀ streamKey, manager.keys.lookup key = some streamKey → streamKey.isActive = false

theorem keyRevoked_revokeStreamKey (key : String) (manager : StreamKeyManager) :
    KeyRevoked key (revokeStreamKey key manager).manager := by
  intro streamKey found
  obtain ⟨old, present, same | ⟨-, rfl⟩⟩ := updateStreamKey_lookup_eq_some found
  · subst same
    simp [revokeStreamKey, updateStreamKey, present] at found
    rw [← found]
  · rfl

theorem KeyRevoked.run {key : String} {seen : List String} {manager : StreamKeyManager}
    {events : List (Int × StreamKeyEvent)} (revoked : KeyRevoked key manager)
    (seenKey : key ∈ seen) (fresh : FreshKeys seen events) :
    KeyRevoked key (keyRun manager events) := by
  induction events generalizing seen manager with
  | nil => exact revoked
  | cons event rest inductionHypothesis =>
      obtain ⟨now, event⟩ := event
      obtain ⟨freshEvent, fresh⟩ := fresh
      refine inductionHypothesis ?_ (List.mem_append_left _ seenKey) fresh
      intro streamKey found
      obtain ⟨old, present, keptActive⟩ :=
        keyStep_lookup_eq_some found fun generated => freshEvent key generated seenKey
      cases active : streamKey.isActive
      · rfl
      · exact absurd (keptActive active) (by rw [revoked old present]; decide)

theorem validateStreamKey_of_revoked {key : String} {manager : StreamKeyManager}
    (revoked : KeyRevoked key manager) (now : Int) :
    (validateStreamKey now key manager).isOk = false := by
  unfold validateStreamKey
  split
  · rfl
  · rename_i streamKey present
    simp [revoked streamKey present, Except.isOk, Except.toBool]

/-- Once `RevokeStreamKey` has succeeded on a key, `ValidateStreamKey` of it
fails at every later point of the run and at every clock reading, provided no
`GenerateStreamKey` of the run draws a key drawn before. -/
theorem revoke_is_absorbing (before after : List (Int × StreamKeyEvent)) (revokedAt : Int)
    (key : String) (fresh : FreshKeys [] (before ++ (revokedAt, .revoke key) :: after))
    (revoked : (revokeStreamKey key (keyRun StreamKeyManager.new before)).result.isOk)
    (now : Int) :
    (validateStreamKey now key
      (keyRun StreamKeyManager.new (before ++ (revokedAt, .revoke key) :: after))).isOk = false := by
  have stored : StoredAmong (generatedKeys before) (keyRun StreamKeyManager.new before) := by
    simpa using @StoredAmong.run [] StreamKeyManager.new before fun _ _ found => by cases found
  have seenKey : key ∈ generatedKeys before := by
    unfold revokeStreamKey updateStreamKey at revoked
    split at revoked
    · cases revoked
    · exact stored key _ ‹_›
  have freshAfter := (FreshKeys.append_right fresh).2
  simp only [List.nil_append, StreamKeyEvent.generatedKey, Option.toList,
    List.append_nil] at freshAfter
  rw [keyRun_append]
  exact validateStreamKey_of_revoked
    (KeyRevoked.run (keyRevoked_revokeStreamKey key _) seenKey freshAfter) now

/-- The key drawn from 32 zero bytes. -/
def zeroKey : String := encodeToString fun _ => 0

/-- Generated at 0 and revoked at 1, the key still fails validation at 3 after
a `MarkKeyAsUsed` at 2. -/
theorem revoked_zero_key_stays_invalid :
    (validateStreamKey 3 zeroKey (keyRun StreamKeyManager.new
      ([(0, .generate "alice" "r1" none none (some fun _ => 0))] ++
        (1, .revoke zeroKey) :: [(2, .markUsed zeroKey)]))).isOk = false :=
  revoke_is_absorbing [(0, .generate "alice" "r1" none none (some fun _ => 0))]
    [(2, .markUsed zeroKey)] 1 zeroKey
    ⟨fun _ _ => List.not_mem_nil _, (fun _ generated => by cases generated),
      (fun _ generated => by cases generated), trivial⟩
    (by decide) 3

end LiveStreaming.StreamKeys
