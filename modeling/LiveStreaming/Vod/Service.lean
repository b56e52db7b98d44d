import LiveStreaming.Basic
import Mathlib.Data.List.AList

/-!
# The VOD service

`VODService` keeps the recording catalog (iterated by the expiry sweep, so an
association list), each streamer's recording IDs in start order (`none` for a
streamer never indexed, which Go tells apart from an emptied list), and the
playback sessions (iterated by the stale-session sweep). Every method takes
the service lock for its whole body and reads the clock once, at `now`.

The catalog maps an ID to a pointer: `objects` says which recording object
each ID's entry points to, numbering the objects in the order `StartRecording`
allocates them. `processRecording` runs on its own goroutine after
`StopRecording`: under the lock it looks up the object the ID points to
(`processingTarget`), then sleeps five seconds, and under the lock again
writes the processed fields into that object (`completeProcessing`). The
writes show in the catalog only while the ID still points to that object; if
the ID was deleted, or started again and so bound to a new object, they go to
an object no method reads.

`time.Duration` arithmetic wraps at 64 bits; `wrapInt64` makes that explicit
where `EndPlaybackSession` multiplies and adds. The 95% completion test compares
`float64` values; the model compares exactly (`20 * position ≥ 19 * duration`).
`AddDate(0, 0, days)` is counted as `days` times 24 hours, and `offset + limit`
in `ListRecordingsByStreamer` is taken not to leave the `int` range.
-/

namespace LiveStreaming.Vod

inductive VODStatus where
  | recording
  | processing
  | ready
  | failed
  | archived
  | deleted
  deriving DecidableEq, Repr

/-- `VODRecording`, with the fields the VOD service writes. -/
structure VODRecording where
  id : String
  roomName : RoomName
  streamerID : ParticipantIdentity
  streamerName : String
  title : String
  description : String
  thumbnailURL : String
  videoURL : String
  fileSize : Int
  duration : Int
  status : VODStatus
  viewCount : Int
  recordedAt : Int
  publishedAt : Option Int
  expiresAt : Option Int
  isPublic : Bool
  tags : List String
  category : String
  metadata : String → Option String
  averageViewDuration : Int

structure VODPlaybackSession where
  id : String
  recordingID : String
  userID : ParticipantIdentity
  startedAt : Int
  lastHeartbeat : Int
  currentPosition : Int
  watchDuration : Int
  completed : Bool
  quality : String
  deriving DecidableEq, Repr

/-- `VODConfig`, with the fields the service reads. -/
structure VODConfig where
  defaultRetentionDays : Int
  autoPublish : Bool
  generateThumbnails : Bool
  sessionTimeout : Int
  deriving DecidableEq, Repr

/-- The configuration `NewVODService` installs when it is given none. -/
def defaultVODConfig : VODConfig where
  defaultRetentionDays := 30
  autoPublish := false
  generateThumbnails := true
  sessionTimeout := 5 * minute

/-- The recording catalog, each recording under its ID. -/
abbrev RecordingMap := AList fun _ : String => VODRecording

/-- The playback sessions, each under its ID. -/
abbrev SessionMap := AList fun _ : String => VODPlaybackSession

structure VODService where
  recordings : RecordingMap
  objects : String → Option Nat
  allocated : Nat
  streamerRecordings : ParticipantIdentity → Option (List String)
  playbackSessions : SessionMap
  config : VODConfig

def VODService.new (config : VODConfig) : VODService where
  recordings := ∅
  objects := fun _ => none
  allocated := 0
  streamerRecordings := fun _ => none
  playbackSessions := ∅
  config := config

/-- The errors of the VOD service, by their text. -/
inductive VODError where
  | recordingNotFound
  | recordingNotInRecordingStatus
  | recordingNotReady
  | recordingNotReadyForPlayback
  | recordingNotPublic
  | sessionNotFound
  deriving DecidableEq, Repr

/-- The error text. -/
def VODError.text : VODError → String
  | recordingNotFound => "recording not found"
  | recordingNotInRecordingStatus => "recording is not in recording status"
  | recordingNotReady => "recording is not ready"
  | recordingNotReadyForPlayback => "recording is not ready for playback"
  | recordingNotPublic => "recording is not public"
  | sessionNotFound => "session not found"

/-- What a VOD method returns, with the service it leaves behind. -/
structure VODOutcome (α : Type) where
  result : Except VODError α
  service : VODService

/-! ## Recording lifecycle -/

/-- The ID `StartRecording` gives a recording (`rec-%d-%s`). -/
def recordingIDAt (now : Int) (streamerID : ParticipantIdentity) : String :=
  "rec-" ++ toString now ++ "-" ++ streamerID

/-- The record `StartRecording` stores. -/
def newRecording (config : VODConfig) (now : Int) (roomName : RoomName)
    (streamerID : ParticipantIdentity) (streamerName title : String) : VODRecording where
  id := recordingIDAt now streamerID
  roomName := roomName
  streamerID := streamerID
  streamerName := streamerName
  title := title
  description := ""
  thumbnailURL := ""
  videoURL := ""
  fileSize := 0
  duration := 0
  status := .recording
  viewCount := 0
  recordedAt := now
  publishedAt := none
  expiresAt := if 0 < config.defaultRetentionDays then some (now + config.defaultRetentionDays * day)
    else none
  isPublic := config.autoPublish
  tags := []
  category := ""
  metadata := fun _ => none
  averageViewDuration := 0

/-- `StartRecording`: allocate a new recording object, store it under its ID,
and index the ID under its streamer. -/
def startRecording (now : Int) (roomName : RoomName) (streamerID : ParticipantIdentity)
    (streamerName title : String) (service : VODService) : VODOutcome VODRecording :=
  let recording := newRecording service.config now roomName streamerID streamerName title
  ⟨.ok recording,
    { service with
      recordings := service.recordings.insert recording.id recording
      objects := Function.update service.objects recording.id (some service.allocated)
      allocated := service.allocated + 1
      streamerRecordings := Function.update service.streamerRecordings streamerID
        (some ((service.streamerRecordings streamerID).getD [] ++ [recording.id])) }⟩

/-- The shape of `StopRecording`, `PublishRecording` and
`UpdateRecordingMetadata`: look the recording up, check it, and rewrite it in
place. -/
def rewriteRecording (check : VODRecording → Option VODError)
    (change : VODRecording → VODRecording) (recordingID : String) (service : VODService) :
    VODOutcome Unit :=
  match service.recordings.lookup recordingID with
  | none => ⟨.error .recordingNotFound, service⟩
  | some recording =>
      match check recording with
      | some error => ⟨.error error, service⟩
      | none =>
          ⟨.ok (), { service with
            recordings := service.recordings.insert recordingID (change recording) }⟩

/-- `StopRecording`: a recording still being recorded moves to processing; the
run then starts its post-processing goroutine. -/
def stopRecording (recordingID : String) (duration fileSize : Int) (service : VODService) :
    VODOutcome Unit :=
  rewriteRecording
    (fun recording => if recording.status ≠ .recording then
      some .recordingNotInRecordingStatus else none)
    (fun recording =>
      { recording with duration := duration, fileSize := fileSize, status := .processing })
    recordingID service

/-- What `processRecording` writes into the recording it looked up. -/
def processedRecording (config : VODConfig) (now : Int) (recordingID : String)
    (recording : VODRecording) : VODRecording :=
  { recording with
    thumbnailURL := if config.generateThumbnails then
        "/thumbnails/" ++ recordingID ++ ".jpg" else recording.thumbnailURL
    videoURL := "/videos/" ++ recordingID ++ ".mp4"
    status := .ready
    publishedAt := if config.autoPublish then some now else recording.publishedAt }

/-- The first critical section of `processRecording`: the object the ID points
to, if the ID is in the catalog; the goroutine returns on `none`. -/
def processingTarget (recordingID : String) (service : VODService) : Option Nat :=
  (service.recordings.lookup recordingID).bind fun _ => service.objects recordingID

/-- The second critical section of `processRecording`, after its sleep:
thumbnail and video URLs, status ready, and the publication stamp under
`AutoPublish`, written into the object it looked up, which the catalog shows
only while the ID still points to it. -/
def completeProcessing (now : Int) (recordingID : String) (object : Nat) (service : VODService) :
    VODService :=
  match service.recordings.lookup recordingID with
  | none => service
  | some recording =>
      if service.objects recordingID = some object then
        { service with
          recordings := service.recordings.insert recordingID
            (processedRecording service.config now recordingID recording) }
      else service

def publishRecording (now : Int) (recordingID : String) (service : VODService) :
    VODOutcome Unit :=
  rewriteRecording
    (fun recording => if recording.status ≠ .ready then some .recordingNotReady else none)
    (fun recording => { recording with isPublic := true, publishedAt := some now })
    recordingID service

/-- `UpdateRecordingMetadata`: the given fields replace the stored ones. -/
def updateRecordingMetadata (recordingID : String) (title description : Option String)
    (tags : Option (List String)) (category : Option String) (service : VODService) :
    VODOutcome Unit :=
  rewriteRecording (fun _ => none)
    (fun recording =>
      { recording with
        title := title.getD recording.title
        description := description.getD recording.description
        tags := tags.getD recording.tags
        category := category.getD recording.category })
    recordingID service

/-- `DeleteRecording`: drop the recording and the first occurrence of its ID
from its streamer's index. -/
def deleteRecording (recordingID : String) (service : VODService) : VODOutcome Unit :=
  match service.recordings.lookup recordingID with
  | none => ⟨.error .recordingNotFound, service⟩
  | some recording =>
      ⟨.ok (),
        { service with
          recordings := service.recordings.erase recordingID
          streamerRecordings := Function.update service.streamerRecordings recording.streamerID
            ((service.streamerRecordings recording.streamerID).map (·.erase recordingID)) }⟩

/-- The entries of a recording map that `keep` accepts, in their order. -/
def RecordingMap.keepIf (keep : VODRecording → Bool) (recordings : RecordingMap) :
    RecordingMap :=
  ⟨recordings.entries.filter (fun entry => keep entry.2),
    recordings.nodupKeys.sublist (List.filter_sublist _)⟩

/-- `CleanupExpiredRecordings`: drop every expired recording (the streamer
index is left as it is); the result is the number dropped. -/
def cleanupExpiredRecordings (now : Int) (service : VODService) : Nat × VODService :=
  ((service.recordings.entries.filter fun entry => expiredAt now entry.2.expiresAt).length,
    { service with
      recordings := service.recordings.keepIf fun recording => !expiredAt now recording.expiresAt })

/-- `ListRecordingsByStreamer`: the stored recordings among the streamer's
indexed IDs at positions `offset` to `offset + limit - 1`; `none` where Go
panics (a negative capacity for `make`, or a negative index). -/
def listRecordingsByStreamer (streamerID : ParticipantIdentity) (limit offset : Int)
    (service : VODService) : Option (List VODRecording) :=
  match service.streamerRecordings streamerID with
  | none => some []
  | some recordingIDs =>
      if (recordingIDs.length : Int) ≤ offset then some []
      else
        let finish := min (offset + limit) recordingIDs.length
        if finish - offset < 0 ∨ (offset < 0 ∧ offset < finish) then none
        else some (((recordingIDs.drop offset.toNat).take (finish - offset).toNat).filterMap
          service.recordings.lookup)

/-! ## Playback -/

/-- `StartPlaybackSession`: a ready public recording gets a session and one
more view. -/
def startPlaybackSession (now : Int) (recordingID : String) (userID : ParticipantIdentity)
    (quality : String) (service : VODService) : VODOutcome VODPlaybackSession :=
  match service.recordings.lookup recordingID with
  | none => ⟨.error .recordingNotFound, service⟩
  | some recording =>
      if recording.status ≠ .ready then ⟨.error .recordingNotReadyForPlayback, service⟩
      else if !recording.isPublic then ⟨.error .recordingNotPublic, service⟩
      else
        let session : VODPlaybackSession :=
          { id := "session-" ++ toString now ++ "-" ++ userID, recordingID := recordingID,
            userID := userID, startedAt := now, lastHeartbeat := now, currentPosition := 0,
            watchDuration := 0, completed := false, quality := quality }
        ⟨.ok session,
          { service with
            playbackSessions := service.playbackSessions.insert session.id session
            recordings := service.recordings.insert recordingID
              { recording with viewCount := recording.viewCount + 1 } }⟩

/-- `UpdatePlaybackSession`: heartbeat, position, watch time, and the latched
completion flag. -/
def updatePlaybackSession (now : Int) (sessionID : String) (position : Int)
    (service : VODService) : VODOutcome Unit :=
  match service.playbackSessions.lookup sessionID with
  | none => ⟨.error .sessionNotFound, service⟩
  | some session =>
      let completed := match service.recordings.lookup session.recordingID with
        | some recording =>
            session.completed || (decide (0 < recording.duration) &&
              decide (19 * recording.duration ≤ 20 * position))
        | none => session.completed
      ⟨.ok (),
        { service with
          playbackSessions := service.playbackSessions.insert sessionID
            { session with lastHeartbeat := now, currentPosition := position,
                           watchDuration := now - session.startedAt, completed := completed } }⟩

/-- The running mean `EndPlaybackSession` stores, over `int64`. -/
def nextAverageViewDuration (average : Int) (viewCount : Int) (watchDuration : Int) : Int :=
  (wrapInt64 (wrapInt64 (average * (viewCount - 1)) + watchDuration)).tdiv viewCount

/-- `EndPlaybackSession`: fold the session's watch time into the running mean
of its recording, then drop the session. -/
def endPlaybackSession (sessionID : String) (service : VODService) : VODOutcome Unit :=
  match service.playbackSessions.lookup sessionID with
  | none => ⟨.error .sessionNotFound, service⟩
  | some session =>
      let recordings := match service.recordings.lookup session.recordingID with
        | some recording =>
            if 0 < recording.viewCount then
              service.recordings.insert session.recordingID
                { recording with
                  averageViewDuration := nextAverageViewDuration recording.averageViewDuration
                    recording.viewCount session.watchDuration }
            else service.recordings
        | none => service.recordings
      ⟨.ok (),
        { service with
          recordings := recordings
          playbackSessions := service.playbackSessions.erase sessionID }⟩

/-- `CleanupStaleSessions`: drop sessions whose last heartbeat is older than the
timeout; the result is the number dropped. -/
def cleanupStaleSessions (now : Int) (service : VODService) : Nat × VODService :=
  let stale := fun (session : VODPlaybackSession) =>
    decide (service.config.sessionTimeout < now - session.lastHeartbeat)
  ((service.playbackSessions.entries.filter fun entry => stale entry.2).length,
    { service with
      playbackSessions :=
        ⟨service.playbackSessions.entries.filter (fun entry => !stale entry.2),
          service.playbackSessions.nodupKeys.sublist (List.filter_sublist _)⟩ })

end LiveStreaming.Vod
