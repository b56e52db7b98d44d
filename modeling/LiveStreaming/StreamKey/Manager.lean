import LiveStreaming.Basic
import Mathlib.Data.List.AList

/-!
# The stream-key manager

`StreamKeyManager` keeps every stream key under its own hex string, and for
each streamer the list of its keys in generation order. The key map is
iterated by `CleanupExpiredKeys` and `GetActiveStreamCount`, so it is an
association list; Go iterates a map in no fixed order, and the model iterates
in the order of the list. The owner index is only read by key and is a
function, an absent entry reading as the empty list, as a `nil` slice does.

`GenerateStreamKey` reads 32 bytes from `crypto/rand`; the model takes the
bytes it read as an argument, `none` when the read failed.
-/

namespace LiveStreaming.StreamKeys

structure StreamPermissions where
  canPublishVideo : Bool
  canPublishAudio : Bool
  canScreenShare : Bool
  canRecord : Bool
  maxViewers : Int
  maxDurationMins : Int
  enableChat : Bool
  enableReactions : Bool
  enableModeration : Bool
  deriving DecidableEq, Repr

/-- The permissions `GenerateStreamKey` grants when it is given none. -/
def defaultStreamPermissions : StreamPermissions where
  canPublishVideo := true
  canPublishAudio := true
  canScreenShare := true
  canRecord := false
  maxViewers := 10000
  maxDurationMins := 180
  enableChat := true
  enableReactions := true
  enableModeration := true

structure StreamKey where
  key : String
  streamerID : ParticipantIdentity
  roomName : RoomName
  isActive : Bool
  createdAt : Int
  expiresAt : Option Int
  metadata : String → Option String
  usageCount : Nat
  lastUsedAt : Option Int
  permissions : StreamPermissions

/-- The key map: each stream key under its own string. -/
abbrev KeyMap := AList fun _ : String => StreamKey

structure StreamKeyManager where
  keys : KeyMap
  streamerKeys : ParticipantIdentity → List String

def StreamKeyManager.new : StreamKeyManager where
  keys := ∅
  streamerKeys := fun _ => []

/-- The errors of the manager, by their text. -/
inductive StreamKeyError where
  | failedToGenerateRandomKey
  | streamKeyNotFound
  | streamKeyInactive
  | streamKeyExpired
  deriving DecidableEq, Repr

/-- The error text; the wrapped `crypto/rand` error is not modelled. -/
def StreamKeyError.text : StreamKeyError → String
  | failedToGenerateRandomKey => "failed to generate random key"
  | streamKeyNotFound => "stream key not found"
  | streamKeyInactive => "stream key is inactive"
  | streamKeyExpired => "stream key has expired"

/-- What a manager method returns, with the manager it leaves behind. -/
structure KeyOutcome (α : Type) where
  result : Except StreamKeyError α
  manager : StreamKeyManager

/-! ## Generation -/

/-- `hex.EncodeToString`: two lower-case digits per byte. -/
def encodeToString (keyBytes : Fin 32 → UInt8) : String :=
  String.mk ((List.ofFn keyBytes).flatMap fun byte =>
    [Nat.digitChar (byte.toNat / 16), Nat.digitChar (byte.toNat % 16)])

/-- `GenerateStreamKey`: store a fresh active key and append it to its
streamer's index. -/
def generateStreamKey (now : Int) (streamerID : ParticipantIdentity) (roomName : RoomName)
    (permissions : Option StreamPermissions) (expiresIn : Option Int)
    (keyBytes : Option (Fin 32 → UInt8)) (manager : StreamKeyManager) :
    KeyOutcome StreamKey :=
  match keyBytes with
  | none => ⟨.error .failedToGenerateRandomKey, manager⟩
  | some keyBytes =>
      let key := encodeToString keyBytes
      let streamKey : StreamKey :=
        { key := key, streamerID := streamerID, roomName := roomName, isActive := true,
          createdAt := now, expiresAt := expiresIn.map (now + ·), metadata := fun _ => none,
          usageCount := 0, lastUsedAt := none,
          permissions := permissions.getD defaultStreamPermissions }
      ⟨.ok streamKey,
        { keys := manager.keys.insert key streamKey
          streamerKeys := Function.update manager.streamerKeys streamerID
            (manager.streamerKeys streamerID ++ [key]) }⟩

/-! ## Validation and updates -/

def validateStreamKey (now : Int) (key : String) (manager : StreamKeyManager) :
    Except StreamKeyError StreamKey :=
  match manager.keys.lookup key with
  | none => .error .streamKeyNotFound
  | some streamKey =>
      if !streamKey.isActive then .error .streamKeyInactive
      else if expiredAt now streamKey.expiresAt then .error .streamKeyExpired
      else .ok streamKey

/-- The shape of `MarkKeyAsUsed`, `RevokeStreamKey` and
`UpdateStreamKeyMetadata`: look the key up and rewrite its record in place. -/
def updateStreamKey (change : StreamKey → StreamKey) (key : String)
    (manager : StreamKeyManager) : KeyOutcome Unit :=
  match manager.keys.lookup key with
  | none => ⟨.error .streamKeyNotFound, manager⟩
  | some streamKey => ⟨.ok (), { manager with keys := manager.keys.insert key (change streamKey) }⟩

def markKeyAsUsed (now : Int) (key : String) (manager : StreamKeyManager) : KeyOutcome Unit :=
  updateStreamKey (fun streamKey =>
    { streamKey with usageCount := streamKey.usageCount + 1, lastUsedAt := some now }) key manager

def revokeStreamKey (key : String) (manager : StreamKeyManager) : KeyOutcome Unit :=
  updateStreamKey (fun streamKey => { streamKey with isActive := false }) key manager

/-- `UpdateStreamKeyMetadata`: the given entries overwrite the stored ones. -/
def updateStreamKeyMetadata (key : String) (metadata : String → Option String)
    (manager : StreamKeyManager) : KeyOutcome Unit :=
  updateStreamKey (fun streamKey =>
    { streamKey with
      metadata := fun name => (metadata name).orElse fun _ => streamKey.metadata name })
    key manager

/-! ## Removal -/

/-- Drop the first occurrence of `key` from its owner's index. -/
def unindexKey (streamerKeys : ParticipantIdentity → List String) (streamerID : ParticipantIdentity)
    (key : String) : ParticipantIdentity → List String :=
  Function.update streamerKeys streamerID ((streamerKeys streamerID).erase key)

def deleteStreamKey (key : String) (manager : StreamKeyManager) : KeyOutcome Unit :=
  match manager.keys.lookup key with
  | none => ⟨.error .streamKeyNotFound, manager⟩
  | some streamKey =>
      ⟨.ok (), { keys := manager.keys.erase key,
                 streamerKeys := unindexKey manager.streamerKeys streamKey.streamerID key }⟩

/-- The entries of a key map that `keep` accepts, in their order. -/
def KeyMap.keepIf (keep : StreamKey → Bool) (keys : KeyMap) : KeyMap :=
  ⟨keys.entries.filter (fun entry => keep entry.2), keys.nodupKeys.sublist (List.filter_sublist _)⟩

/-- `CleanupExpiredKeys`: delete every expired key and unindex it; the result
is the number deleted. -/
def cleanupExpiredKeys (now : Int) (manager : StreamKeyManager) : Nat × StreamKeyManager :=
  let expired := manager.keys.entries.filter fun entry => expiredAt now entry.2.expiresAt
  (expired.length,
    { keys := manager.keys.keepIf fun streamKey => !expiredAt now streamKey.expiresAt
      streamerKeys := expired.foldl (fun index entry => unindexKey index entry.2.streamerID entry.1)
        manager.streamerKeys })

/-! ## Reading -/

/-- `GetStreamKeysByStreamer`: the streamer's indexed keys that are still stored. -/
def getStreamKeysByStreamer (streamerID : ParticipantIdentity) (manager : StreamKeyManager) :
    List StreamKey :=
  (manager.streamerKeys streamerID).filterMap fun key => manager.keys.lookup key

/-- `GetActiveStreamCount`: active keys used in the last five minutes. -/
def getActiveStreamCount (now : Int) (manager : StreamKeyManager) : Nat :=
  (manager.keys.entries.filter fun entry =>
    entry.2.isActive && entry.2.lastUsedAt.any fun lastUsed => decide (now - lastUsed < 5 * minute)).length

end LiveStreaming.StreamKeys
