import LiveStreaming.StreamKey.Expiry

/-!
# The owner index

`StreamKeyManager` keeps two maps: the keys under their own strings, and for
each streamer the list of its keys. `GenerateStreamKey` appends to the
streamer's list; `DeleteStreamKey` and `CleanupExpiredKeys` erase the first
occurrence of a key from its owner's list; the updates touch neither map's
keys. Over every run whose generated keys are fresh the index is exact: a
streamer's list is the run's generated keys, in generation order, that are
still stored with that streamer as owner (`OwnerIndex`), so
`GetStreamKeysByStreamer` returns exactly the streamer's stored keys
(`owner_index_exact`).
-/

namespace LiveStreaming.StreamKeys

/-- Whether `key` is stored with `streamerID` as its owner. -/
def ownedBy (manager : StreamKeyManager) (streamerID : ParticipantIdentity) (key : String) : Bool :=
  (manager.keys.lookup key).any fun streamKey => decide (streamKey.streamerID = streamerID)

theorem ownedBy_eq_true_iff {manager : StreamKeyManager} {streamerID : ParticipantIdentity}
    {key : String} :
    ownedBy manager streamerID key = true ↔
      ∃ streamKey, manager.keys.lookup key = some streamKey ∧ streamKey.streamerID = streamerID := by
  unfold ownedBy
  cases manager.keys.lookup key <;> simp

/-- The two maps agree: every stored key was generated, once, and is stored
under its own string, and each streamer's list is the generated keys it owns,
in generation order. -/
structure OwnerIndex (generated : List String) (manager : StreamKeyManager) : Prop where
  nodup : generated.Nodup
  stored : ∀ key streamKey, manager.keys.lookup key = some streamKey → key ∈ generated
  named : ∀ key streamKey, manager.keys.lookup key = some streamKey → streamKey.key = key
  indexed : ∀ streamerID,
    manager.streamerKeys streamerID = generated.filter (ownedBy manager streamerID)

/-- Erasing a key from a filter of a list without duplicates filters it out. -/
theorem filter_erase_of_nodup {generated : List String} (nodup : generated.Nodup)
    (keep : String → Bool) (key : String) :
    (generated.filter keep).erase key = generated.filter fun other => keep other && other != key := by
  rw [List.Nodup.erase_eq_filter (nodup.filter _), List.filter_filter]
  exact List.filter_congr fun other _ => Bool.and_comm _ _

/-! ## Updates -/

section Update

variable {change : StreamKey → StreamKey} {key : String} {manager : StreamKeyManager}

theorem updateStreamKey_lookup (other : String) :
    (updateStreamKey change key manager).manager.keys.lookup other =
      if other = key then (manager.keys.lookup key).map change else manager.keys.lookup other := by
  unfold updateStreamKey
  split
  · rename_i absent
    split_ifs with same
    · rw [same, absent]; rfl
    · rfl
  · split_ifs with same
    · rename_i present; subst same; rw [present]; exact AList.lookup_insert _
    · exact AList.lookup_insert_ne same

theorem updateStreamKey_streamerKeys :
    (updateStreamKey change key manager).manager.streamerKeys = manager.streamerKeys := by
  unfold updateStreamKey; split <;> rfl

/-- An update that keeps a record's key and owner keeps the index exact. -/
theorem OwnerIndex.updateStreamKey {generated : List String} (index : OwnerIndex generated manager)
    (keeps : ∀ streamKey, (change streamKey).key = streamKey.key ∧
      (change streamKey).streamerID = streamKey.streamerID) :
    OwnerIndex generated (updateStreamKey change key manager).manager := by
  have found : ∀ other streamKey,
      (LiveStreaming.StreamKeys.updateStreamKey change key manager).manager.keys.lookup other =
        some streamKey →
      ∃ old, manager.keys.lookup other = some old ∧ streamKey.key = old.key ∧
        streamKey.streamerID = old.streamerID := by
    intro other streamKey present
    rw [updateStreamKey_lookup] at present
    split_ifs at present with same
    · obtain ⟨old, original, rfl⟩ := Option.map_eq_some'.mp present
      exact ⟨old, same ▸ original, keeps old⟩
    · exact ⟨streamKey, present, rfl, rfl⟩
  have owners : ownedBy (LiveStreaming.StreamKeys.updateStreamKey change key manager).manager =
      ownedBy manager := by
    funext streamerID other
    simp only [ownedBy, updateStreamKey_lookup]
    split_ifs with same
    · subst same
      cases manager.keys.lookup other <;> simp [keeps]
    · rfl
  refine ⟨index.nodup, fun other streamKey present => ?_, fun other streamKey present => ?_,
    fun streamerID => ?_⟩
  · obtain ⟨old, present, -⟩ := found other streamKey present
    exact index.stored other old present
  · obtain ⟨old, present, sameKey, -⟩ := found other streamKey present
    rw [sameKey, index.named other old present]
  · rw [updateStreamKey_streamerKeys, owners, index.indexed]

end Update

/-! ## Generation, deletion and the sweep -/

section Removal

variable {generated : List String} {manager : StreamKeyManager}

/-- A key generated from fresh bytes is appended to its owner's list and to
the generation history. -/
theorem OwnerIndex.generateStreamKey (index : OwnerIndex generated manager) (now : Int)
    (streamerID : ParticipantIdentity) (roomName : RoomName)
    (permissions : Option StreamPermissions) (expiresIn : Option Int) (keyBytes : Fin 32 → UInt8)
    (fresh : encodeToString keyBytes ∉ generated) :
    OwnerIndex (generated ++ [encodeToString keyBytes])
      (generateStreamKey now streamerID roomName permissions expiresIn (some keyBytes)
        manager).manager := by
  have lookupOther : ∀ other, other ≠ encodeToString keyBytes →
      (LiveStreaming.StreamKeys.generateStreamKey now streamerID roomName permissions expiresIn
        (some keyBytes) manager).manager.keys.lookup other = manager.keys.lookup other :=
    fun _ different => AList.lookup_insert_ne different
  refine ⟨List.Nodup.append index.nodup (List.nodup_singleton _)
      (List.disjoint_singleton.mpr fresh), fun other streamKey present => ?_,
    fun other streamKey present => ?_, fun owner => ?_⟩
  · by_cases same : other = encodeToString keyBytes
    · exact List.mem_append_right _ (List.mem_singleton.mpr same)
    · rw [lookupOther other same] at present
      exact List.mem_append_left _ (index.stored other streamKey present)
  · by_cases same : other = encodeToString keyBytes
    · subst same
      simp only [LiveStreaming.StreamKeys.generateStreamKey, AList.lookup_insert,
        Option.some.injEq] at present
      rw [← present]
    · rw [lookupOther other same] at present
      exact index.named other streamKey present
  · have before : generated.filter (ownedBy (LiveStreaming.StreamKeys.generateStreamKey now
          streamerID roomName permissions expiresIn (some keyBytes) manager).manager owner) =
        generated.filter (ownedBy manager owner) := by
      refine List.filter_congr fun other member => ?_
      simp only [ownedBy, lookupOther other fun same => fresh (same ▸ member)]
    rw [List.filter_append, before, ← index.indexed]
    simp only [List.filter_singleton, ownedBy, LiveStreaming.StreamKeys.generateStreamKey,
      AList.lookup_insert, Option.any_some]
    by_cases owns : streamerID = owner
    · subst owns; simp
    · simp [owns, Function.update_noteq (Ne.symm owns)]

/-- A deletion drops the key from its owner's list and from the stored keys. -/
theorem OwnerIndex.deleteStreamKey (index : OwnerIndex generated manager) (key : String) :
    OwnerIndex generated (deleteStreamKey key manager).manager := by
  unfold LiveStreaming.StreamKeys.deleteStreamKey
  split
  · exact index
  · rename_i deleted present
    have lookupAfter : ∀ other, (manager.keys.erase key).lookup other =
        if other = key then none else manager.keys.lookup other := by
      intro other
      split_ifs with same
      · rw [same, AList.lookup_erase]
      · exact AList.lookup_erase_ne same
    refine ⟨index.nodup, fun other streamKey found => ?_, fun other streamKey found => ?_,
      fun owner => ?_⟩
    · rw [lookupAfter] at found
      split_ifs at found
      exact index.stored other streamKey found
    · rw [lookupAfter] at found
      split_ifs at found
      exact index.named other streamKey found
    · have owners : ∀ other, ownedBy ⟨manager.keys.erase key, unindexKey manager.streamerKeys
          deleted.streamerID key⟩ owner other = (ownedBy manager owner other && other != key) := by
        intro other
        simp only [ownedBy, lookupAfter]
        split_ifs with same <;> simp [same]
      show unindexKey manager.streamerKeys deleted.streamerID key owner = _
      rw [List.filter_congr fun other _ => owners other, unindexKey]
      by_cases owns : deleted.streamerID = owner
      · subst owns
        rw [Function.update_same, index.indexed, filter_erase_of_nodup index.nodup]
      · rw [Function.update_noteq (Ne.symm owns), index.indexed]
        refine List.filter_congr fun other _ => ?_
        by_cases same : other = key
        · subst same; simp [ownedBy, present, owns]
        · simp [same]

/-- Unindexing the swept entries one after the other, as the sweep's loop
does, filters their keys out of each owner's list. -/
theorem unindexKeys_foldl (nodup : generated.Nodup) :
    ∀ (expired : List (Σ _ : String, StreamKey)) (streamerKeys : ParticipantIdentity → List String)
      (removed : List String),
      (∀ entry ∈ expired, manager.keys.lookup entry.1 = some entry.2) →
      (∀ owner, streamerKeys owner =
        generated.filter fun key => ownedBy manager owner key && !decide (key ∈ removed)) →
      ∀ owner, (expired.foldl (fun index entry => unindexKey index entry.2.streamerID entry.1)
          streamerKeys) owner =
        generated.filter fun key =>
          ownedBy manager owner key && !decide (key ∈ removed ++ expired.map (·.1))
  | [], _, removed, _, indexed, owner => by simpa using indexed owner
  | ⟨key, streamKey⟩ :: rest, streamerKeys, removed, found, indexed, owner => by
      have unindexed : ∀ owner, unindexKey streamerKeys streamKey.streamerID key owner =
          generated.filter fun other =>
            ownedBy manager owner other && !decide (other ∈ removed ++ [key]) := by
        intro owner
        by_cases owns : streamKey.streamerID = owner
        · subst owns
          rw [unindexKey, Function.update_same, indexed, filter_erase_of_nodup nodup]
          refine List.filter_congr fun other _ => ?_
          simp [Bool.and_assoc, bne, Bool.beq_eq_decide_eq]
        · rw [unindexKey, Function.update_noteq (Ne.symm owns), indexed]
          refine List.filter_congr fun other _ => ?_
          by_cases same : other = key
          · subst same
            simp [ownedBy, found _ (.head _), owns]
          · simp [same]
      have later := unindexKeys_foldl nodup rest _ (removed ++ [key])
        (fun entry member => found entry (.tail _ member)) unindexed owner
      simpa only [List.map_cons, List.append_assoc, List.singleton_append] using later

theorem mem_expiredKeys {now : Int} {key : String} {streamKey : StreamKey}
    (present : manager.keys.lookup key = some streamKey) :
    key ∈ (manager.keys.entries.filter fun entry => expiredAt now entry.2.expiresAt).map (·.1) ↔
      expiredAt now streamKey.expiresAt = true := by
  constructor
  · intro member
    obtain ⟨⟨other, record⟩, kept, rfl⟩ := List.mem_map.mp member
    obtain ⟨stored, expired⟩ := List.mem_filter.mp kept
    rw [AList.mem_lookup_iff.mpr stored] at present
    cases present
    exact expired
  · intro expired
    exact List.mem_map.mpr ⟨⟨key, streamKey⟩,
      List.mem_filter.mpr ⟨AList.mem_lookup_iff.mp present, expired⟩, rfl⟩

/-- The sweep drops each expired key from its owner's list and from the
stored keys. -/
theorem OwnerIndex.cleanupExpiredKeys (index : OwnerIndex generated manager) (now : Int) :
    OwnerIndex generated (cleanupExpiredKeys now manager).2 := by
  refine ⟨index.nodup, fun key streamKey found => ?_, fun key streamKey found => ?_,
    fun owner => ?_⟩
  · exact index.stored key streamKey (KeyMap.lookup_keepIf_of_eq_some found)
  · exact index.named key streamKey (KeyMap.lookup_keepIf_of_eq_some found)
  · have swept := unindexKeys_foldl index.nodup
      (manager.keys.entries.filter fun entry => expiredAt now entry.2.expiresAt)
      manager.streamerKeys []
      (fun entry member => AList.mem_lookup_iff.mpr (List.mem_filter.mp member).1)
      (fun owner => by simpa using index.indexed owner) owner
    simp only [List.nil_append] at swept
    refine swept.trans (List.filter_congr fun key _ => ?_)
    simp only [ownedBy, cleanupExpiredKeys_lookup]
    cases present : manager.keys.lookup key with
    | none => rfl
    | some streamKey =>
        simp only [mem_expiredKeys present, Option.filter_some]
        cases expiredAt now streamKey.expiresAt <;> simp

end Removal

/-! ## Runs -/

theorem OwnerIndex.keyStep {generated : List String} {manager : StreamKeyManager}
    (index : OwnerIndex generated manager) (now : Int) (event : StreamKeyEvent)
    (fresh : ∀ key, event.generatedKey = some key → key ∉ generated) :
    OwnerIndex (generated ++ event.generatedKey.toList) (keyStep manager now event) := by
  cases event with
  | generate streamerID roomName permissions expiresIn keyBytes =>
      cases keyBytes with
      | none => simpa [StreamKeyEvent.generatedKey] using index
      | some keyBytes =>
          exact index.generateStreamKey now streamerID roomName permissions expiresIn keyBytes
            (fresh _ rfl)
  | validate => simpa [StreamKeyEvent.generatedKey] using index
  | markUsed | revoke | updateMetadata =>
      show OwnerIndex (generated ++ []) _
      rw [List.append_nil]
      exact index.updateStreamKey fun _ => ⟨rfl, rfl⟩
  | delete key => simpa [StreamKeyEvent.generatedKey] using index.deleteStreamKey key
  | cleanup => simpa [StreamKeyEvent.generatedKey] using index.cleanupExpiredKeys now

theorem OwnerIndex.run :
    ∀ {generated : List String} {manager : StreamKeyManager} (events : List (Int × StreamKeyEvent)),
      OwnerIndex generated manager → FreshKeys generated events →
      OwnerIndex (generated ++ generatedKeys events) (keyRun manager events)
  | _, _, [], index, _ => by simpa [generatedKeys] using index
  | _, _, (now, event) :: rest, index, ⟨fresh, later⟩ => by
      simpa [generatedKeys, List.append_assoc] using
        OwnerIndex.run rest (index.keyStep now event fresh) later

theorem ownerIndex_new : OwnerIndex [] StreamKeyManager.new :=
  ⟨List.nodup_nil, fun _ _ absent => (nomatch absent), fun _ _ absent => (nomatch absent),
    fun _ => rfl⟩

/-- What `GetStreamKeysByStreamer` returns for an exact index: the listed keys'
records, in the list's order. -/
theorem getStreamKeysByStreamer_keys {generated : List String} {manager : StreamKeyManager}
    (index : OwnerIndex generated manager) (streamerID : ParticipantIdentity) :
    (getStreamKeysByStreamer streamerID manager).map StreamKey.key =
      manager.streamerKeys streamerID := by
  have listed : ∀ key ∈ manager.streamerKeys streamerID,
      ∃ streamKey, manager.keys.lookup key = some streamKey ∧ streamKey.key = key := by
    intro key member
    rw [index.indexed] at member
    obtain ⟨streamKey, present, -⟩ := ownedBy_eq_true_iff.mp (List.mem_filter.mp member).2
    exact ⟨streamKey, present, index.named key streamKey present⟩
  unfold getStreamKeysByStreamer
  generalize manager.streamerKeys streamerID = keys at listed ⊢
  induction keys with
  | nil => rfl
  | cons key rest inductionHypothesis =>
      obtain ⟨streamKey, present, named⟩ := listed key (.head _)
      simp only [List.filterMap_cons, present, List.map_cons, named,
        inductionHypothesis fun other member => listed other (.tail _ member)]

/-- Over every run of the manager's methods from `NewStreamKeyManager` whose
generated keys are fresh, each streamer's list is the run's generated keys, in
generation order, that are stored with that streamer as owner, each once; and
`GetStreamKeysByStreamer` returns exactly those keys' records, in that order,
none of another streamer. -/
theorem owner_index_exact (events : List (Int × StreamKeyEvent)) (fresh : FreshKeys [] events)
    (streamerID : ParticipantIdentity) :
    (keyRun StreamKeyManager.new events).streamerKeys streamerID =
        (generatedKeys events).filter (ownedBy (keyRun StreamKeyManager.new events) streamerID) ∧
      ((keyRun StreamKeyManager.new events).streamerKeys streamerID).Nodup ∧
      (∀ key, key ∈ (keyRun StreamKeyManager.new events).streamerKeys streamerID ↔
        ∃ streamKey, (keyRun StreamKeyManager.new events).keys.lookup key = some streamKey ∧
          streamKey.streamerID = streamerID) ∧
      (getStreamKeysByStreamer streamerID (keyRun StreamKeyManager.new events)).map StreamKey.key =
        (keyRun StreamKeyManager.new events).streamerKeys streamerID ∧
      ∀ streamKey ∈ getStreamKeysByStreamer streamerID (keyRun StreamKeyManager.new events),
        streamKey.streamerID = streamerID ∧
          (keyRun StreamKeyManager.new events).keys.lookup streamKey.key = some streamKey := by
  have index : OwnerIndex (generatedKeys events) (keyRun StreamKeyManager.new events) := by
    simpa using OwnerIndex.run events ownerIndex_new fresh
  have members : ∀ key, key ∈ (keyRun StreamKeyManager.new events).streamerKeys streamerID ↔
      ∃ streamKey, (keyRun StreamKeyManager.new events).keys.lookup key = some streamKey ∧
        streamKey.streamerID = streamerID := by
    intro key
    rw [index.indexed, List.mem_filter, ownedBy_eq_true_iff]
    exact ⟨fun listed => listed.2, fun ⟨streamKey, present, owns⟩ =>
      ⟨index.stored key streamKey present, streamKey, present, owns⟩⟩
  refine ⟨index.indexed streamerID, ?_, members, getStreamKeysByStreamer_keys index streamerID,
    fun streamKey returned => ?_⟩
  · rw [index.indexed]; exact index.nodup.filter _
  · obtain ⟨key, member, present⟩ := List.mem_filterMap.mp returned
    obtain ⟨record, present', owns⟩ := (members key).mp member
    rw [present, Option.some.injEq] at present'
    subst present'
    exact ⟨owns, by rw [index.named key streamKey present]; exact present⟩

/-- Alice generates a key at 0 and another at 2, bob one at 1 that expires at
6; alice deletes her first key at 3 and the sweep runs at 10. -/
def deleteAndSweepRun : List (Int × StreamKeyEvent) :=
  [(0, .generate "alice" "r1" none none (some fun _ => 0)),
    (1, .generate "bob" "r2" none (some 5) (some fun _ => 1)),
    (2, .generate "alice" "r3" none none (some fun _ => 2)),
    (3, .delete zeroKey), (10, .cleanup)]

/-- The index is exact after that run. -/
theorem owner_index_after_delete_and_sweep :
    FreshKeys [] deleteAndSweepRun ∧
    ((keyRun StreamKeyManager.new deleteAndSweepRun).streamerKeys "alice" =
        (generatedKeys deleteAndSweepRun).filter
          (ownedBy (keyRun StreamKeyManager.new deleteAndSweepRun) "alice") ∧
      ((keyRun StreamKeyManager.new deleteAndSweepRun).streamerKeys "alice").Nodup ∧
      (∀ key, key ∈ (keyRun StreamKeyManager.new deleteAndSweepRun).streamerKeys "alice" ↔
        ∃ streamKey, (keyRun StreamKeyManager.new deleteAndSweepRun).keys.lookup key =
          some streamKey ∧ streamKey.streamerID = "alice") ∧
      (getStreamKeysByStreamer "alice" (keyRun StreamKeyManager.new deleteAndSweepRun)).map
          StreamKey.key =
        (keyRun StreamKeyManager.new deleteAndSweepRun).streamerKeys "alice" ∧
      ∀ streamKey ∈ getStreamKeysByStreamer "alice" (keyRun StreamKeyManager.new deleteAndSweepRun),
        streamKey.streamerID = "alice" ∧
          (keyRun StreamKeyManager.new deleteAndSweepRun).keys.lookup streamKey.key =
            some streamKey) :=
  have fresh : FreshKeys [] deleteAndSweepRun :=
    ⟨fun _ generated => by cases generated; decide, fun _ generated => by cases generated; decide,
      fun _ generated => by cases generated; decide, fun _ generated => (nomatch generated),
      fun _ generated => (nomatch generated), trivial⟩
  ⟨fresh, owner_index_exact deleteAndSweepRun fresh "alice"⟩

end LiveStreaming.StreamKeys
