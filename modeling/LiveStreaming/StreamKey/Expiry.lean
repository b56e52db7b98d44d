import LiveStreaming.StreamKey.Revoke

/-!
# Expiry: validation and the sweep

`ValidateStreamKey` refuses a key once `now.After(*ExpiresAt)`, and
`CleanupExpiredKeys` deletes exactly the keys for which the same test holds.
The test is strict: at the instant `now = ExpiresAt` a key is still valid and
the sweep keeps it. So the two agree on every key at every clock reading
(`validation_agrees_with_sweep`): a stored key is valid, inactive, or swept;
and the sweep's count is the number of records it deletes.
-/

namespace LiveStreaming.StreamKeys

theorem expiredAt_eq_false_iff {now : Int} {expiresAt : Option Int} :
    expiredAt now expiresAt = false ↔ ∀ expiry, expiresAt = some expiry → now ≤ expiry := by
  cases expiresAt <;> simp [expiredAt]

theorem expiredAt_eq_true_iff {now : Int} {expiresAt : Option Int} :
    expiredAt now expiresAt = true ↔ ∃ expiry, expiresAt = some expiry ∧ expiry < now := by
  cases expiresAt <;> simp [expiredAt]

theorem KeyMap.lookup_keepIf (keep : StreamKey → Bool) (keys : KeyMap) (key : String) :
    (keys.keepIf keep).lookup key = (keys.lookup key).filter keep := by
  ext streamKey
  rw [AList.mem_lookup_iff, Option.mem_def, Option.filter_eq_some, AList.mem_lookup_iff]
  exact List.mem_filter

section Expiry

variable {manager : StreamKeyManager} {key : String} {streamKey : StreamKey}

theorem validateStreamKey_isOk (stored : manager.keys.lookup key = some streamKey) (now : Int) :
    (validateStreamKey now key manager).isOk =
      (streamKey.isActive && !expiredAt now streamKey.expiresAt) := by
  simp only [validateStreamKey, stored]
  cases streamKey.isActive <;> cases expiredAt now streamKey.expiresAt <;> rfl

theorem cleanupExpiredKeys_lookup (now : Int) :
    (cleanupExpiredKeys now manager).2.keys.lookup key =
      (manager.keys.lookup key).filter fun streamKey => !expiredAt now streamKey.expiresAt :=
  KeyMap.lookup_keepIf _ _ _

/-- The sweep's count and the records it keeps make up the whole key map. -/
theorem cleanupExpiredKeys_count (now : Int) :
    (cleanupExpiredKeys now manager).1 + (cleanupExpiredKeys now manager).2.keys.entries.length =
      manager.keys.entries.length :=
  (List.length_eq_length_filter_add _).symm

/-- For every manager, stored key and clock reading: `ValidateStreamKey`
succeeds exactly when the key is active and `now ≤ ExpiresAt` (or it has no
expiry); `CleanupExpiredKeys` deletes the key exactly when `ExpiresAt < now`
and otherwise keeps its record as it is; so the key is valid, inactive or
swept; and the sweep's count is the number of records it deletes. -/
theorem validation_agrees_with_sweep (stored : manager.keys.lookup key = some streamKey)
    (now : Int) :
    ((validateStreamKey now key manager).isOk = true ↔
      streamKey.isActive = true ∧ ∀ expiry, streamKey.expiresAt = some expiry → now ≤ expiry) ∧
    ((cleanupExpiredKeys now manager).2.keys.lookup key = none ↔
      ∃ expiry, streamKey.expiresAt = some expiry ∧ expiry < now) ∧
    ((cleanupExpiredKeys now manager).2.keys.lookup key = none ∨
      (cleanupExpiredKeys now manager).2.keys.lookup key = some streamKey) ∧
    ((validateStreamKey now key manager).isOk = true ∨ streamKey.isActive = false ∨
      (cleanupExpiredKeys now manager).2.keys.lookup key = none) ∧
    (cleanupExpiredKeys now manager).1 =
      manager.keys.entries.length - (cleanupExpiredKeys now manager).2.keys.entries.length := by
  have swept : (cleanupExpiredKeys now manager).2.keys.lookup key =
      if expiredAt now streamKey.expiresAt then none else some streamKey := by
    rw [cleanupExpiredKeys_lookup, stored, Option.filter_some]
    cases expiredAt now streamKey.expiresAt <;> rfl
  have count := @cleanupExpiredKeys_count manager now
  rw [validateStreamKey_isOk stored, swept]
  refine ⟨?_, ?_, ?_, ?_, by omega⟩
  · simp only [Bool.and_eq_true, Bool.not_eq_true', expiredAt_eq_false_iff]
  · rw [← expiredAt_eq_true_iff]
    cases expiredAt now streamKey.expiresAt <;> simp
  · cases expiredAt now streamKey.expiresAt <;> simp
  · cases streamKey.isActive <;> cases expiredAt now streamKey.expiresAt <;> simp

end Expiry

/-- A key generated at 0 from 32 zero bytes for alice, expiring 10 later. -/
def expiringManager : StreamKeyManager :=
  (generateStreamKey 0 "alice" "r1" none (some 10) (some fun _ => 0) StreamKeyManager.new).manager

/-- The record `GenerateStreamKey` stores for that key. -/
def expiringKey : StreamKey where
  key := zeroKey
  streamerID := "alice"
  roomName := "r1"
  isActive := true
  createdAt := 0
  expiresAt := some 10
  metadata := fun _ => none
  usageCount := 0
  lastUsedAt := none
  permissions := defaultStreamPermissions

/-- The agreement at the key's expiry instant. -/
theorem expiring_key_agrees_with_sweep :
    expiringManager.keys.lookup zeroKey = some expiringKey ∧
    (((validateStreamKey 10 zeroKey expiringManager).isOk = true ↔
      expiringKey.isActive = true ∧ ∀ expiry, expiringKey.expiresAt = some expiry → 10 ≤ expiry) ∧
    ((cleanupExpiredKeys 10 expiringManager).2.keys.lookup zeroKey = none ↔
      ∃ expiry, expiringKey.expiresAt = some expiry ∧ expiry < 10) ∧
    ((cleanupExpiredKeys 10 expiringManager).2.keys.lookup zeroKey = none ∨
      (cleanupExpiredKeys 10 expiringManager).2.keys.lookup zeroKey = some expiringKey) ∧
    ((validateStreamKey 10 zeroKey expiringManager).isOk = true ∨ expiringKey.isActive = false ∨
      (cleanupExpiredKeys 10 expiringManager).2.keys.lookup zeroKey = none) ∧
    (cleanupExpiredKeys 10 expiringManager).1 =
      expiringManager.keys.entries.length -
        (cleanupExpiredKeys 10 expiringManager).2.keys.entries.length) :=
  have stored : expiringManager.keys.lookup zeroKey = some expiringKey := rfl
  ⟨stored, validation_agrees_with_sweep stored 10⟩

/-- At the instant 10 its expiry names, the key still validates and the sweep
keeps it, counting nothing. -/
theorem key_valid_and_kept_at_its_expiry :
    (expiringManager.keys.lookup zeroKey).map StreamKey.expiresAt = some (some 10) ∧
    (validateStreamKey 10 zeroKey expiringManager).isOk = true ∧
    (cleanupExpiredKeys 10 expiringManager).1 = 0 ∧
    ((cleanupExpiredKeys 10 expiringManager).2.keys.lookup zeroKey).isSome = true := by
  decide

end LiveStreaming.StreamKeys
