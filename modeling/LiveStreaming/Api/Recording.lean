import LiveStreaming.Vod.Run

/-!
# The recording endpoints

`vod/start` and `vod/stop` couple the VOD catalog to the egress service, the
external encoder that composites a room into a file. `handleStartRecording`
reserves a recording, starts an encoder job for its room, and writes the job's
ID into the recording's metadata; if the encoder refuses, it deletes the
reservation. `handleStopRecording` stops the job named by the request's
`egress_id` and, separately, stops the recording named by its
`recording_id`; nothing ties the two together.

The reservation is named `rec-<UnixNano>-<streamer>`, so a start of the same
streamer at the same clock reading as an earlier one overwrites that recording
in the catalog, and its rollback then deletes it: the catalog loses a
recording the run without the failed request keeps
(`failed_retry_deletes_first_recording`).

Requests arrive decoded: a body that does not decode is answered with 400
before any state is read. A handler's steps run without another request in
between, so every run of the model is one interleaving of the real handlers.
-/

namespace LiveStreaming.Api

open LiveStreaming.Vod

/-- Modelled from the spec: the egress service, which this repository only
calls, as the list of its running jobs. A started job gets a fresh opaque ID,
here numbered by the jobs started before it; `StopEgress` ends the job with the
given ID. -/
structure EgressService where
  running : List String
  started : Nat
  deriving DecidableEq, Repr

/-- The ID of the `n`-th job the egress service starts. -/
def egressIDOf (n : Nat) : String :=
  "EG_" ++ toString n

/-- `StartRoomCompositeEgress`: a new running job and its ID. -/
def EgressService.startRoomCompositeEgress (egress : EgressService) : String × EgressService :=
  (egressIDOf egress.started,
    { running := egress.running ++ [egressIDOf egress.started], started := egress.started + 1 })

/-- `StopEgress`: the job ends. -/
def EgressService.stopEgress (egressID : String) (egress : EgressService) : EgressService :=
  { egress with running := egress.running.erase egressID }

/-- The state the two endpoints share: the VOD service with its pending
post-processing, and the egress service. -/
structure RecordingAPI where
  vod : VODSystem
  egress : EgressService

/-- `NewStreamingAPIService`: an empty catalog on the default configuration,
and an egress service with no jobs. -/
def RecordingAPI.new : RecordingAPI where
  vod := ⟨VODService.new defaultVODConfig, []⟩
  egress := ⟨[], 0⟩

/-- The body of a `vod/start` request. -/
structure StartRecordingRequest where
  roomName : RoomName
  streamerID : ParticipantIdentity
  streamerName : String
  title : String
  videoTrackID : String
  audioTrackID : String

/-- The body of a `vod/stop` request. -/
structure StopRecordingRequest where
  recordingID : String
  egressID : String

/-- What an endpoint answers. -/
inductive RecordingResponse where
  /-- 200 with `success`, `recording_id`, `egress_id` and status `recording`. -/
  | started (recordingID egressID : String)
  /-- 200 with `success`. -/
  | stopped
  | badRequest (message : String)
  | internalServerError (message : String)
  | methodNotAllowed
  deriving DecidableEq, Repr

/-- `handleStartRecording` at clock reading `now`; `egressError` is the error
of `StartRoomCompositeEgress`, `none` when the encoder accepts the job.
`StartRecording` never fails, so its error branch is not modelled. -/
def handleStartRecording (now : Int) (request : StartRecordingRequest)
    (egressError : Option String) (api : RecordingAPI) : RecordingResponse × RecordingAPI :=
  if request.roomName = "" ∨ request.streamerID = "" then
    (.badRequest "room_name and streamer_id required", api)
  else
    let reserved := (startRecording now request.roomName request.streamerID request.streamerName
      request.title api.vod.service).service
    let recordingID := recordingIDAt now request.streamerID
    match egressError with
    | some error =>
        (.internalServerError ("Failed to start egress: " ++ error),
          { api with vod := { api.vod with service := (deleteRecording recordingID reserved).service } })
    | none =>
        let (egressID, egress) := api.egress.startRoomCompositeEgress
        let touched := (updateRecordingMetadata recordingID none none none none reserved).service
        let bound := (rewriteRecording (fun _ => none)
          (fun recording => { recording with
            metadata := Function.update recording.metadata "egress_id" (some egressID) })
          recordingID touched).service
        (.started recordingID egressID, ⟨{ api.vod with service := bound }, egress⟩)

/-- `handleStopRecording` for a request with HTTP method `method`. A failed
`StopEgress` is only logged, so the egress step never stops the handler. -/
def handleStopRecording (method : String) (request : StopRecordingRequest) (api : RecordingAPI) :
    RecordingResponse × RecordingAPI :=
  if method ≠ "POST" then (.methodNotAllowed, api)
  else
    let egress := if request.egressID ≠ "" then api.egress.stopEgress request.egressID
      else api.egress
    if request.recordingID ≠ "" then
      let outcome := stopRecording request.recordingID 0 0 api.vod.service
      match outcome.result with
      | .error error => (.internalServerError error.text, { api with egress := egress })
      | .ok () =>
          (.stopped, ⟨⟨outcome.service, api.vod.processing ++ [.started request.recordingID]⟩, egress⟩)
    else (.stopped, { api with egress := egress })

/-- A `vod/start` whose encoder accepts the job answers the new recording's ID
and the job's, stores the recording in status recording with that job's ID in
its metadata, and leaves the job running. -/
theorem handleStartRecording_binds_running_job (now : Int) (request : StartRecordingRequest)
    (api : RecordingAPI) (named : ¬(request.roomName = "" ∨ request.streamerID = "")) :
    (handleStartRecording now request none api).1 =
      .started (recordingIDAt now request.streamerID) (egressIDOf api.egress.started) ∧
    ((handleStartRecording now request none api).2.vod.service.recordings.lookup
      (recordingIDAt now request.streamerID)).map
        (fun recording => (recording.status, recording.metadata "egress_id")) =
      some (.recording, some (egressIDOf api.egress.started)) ∧
    egressIDOf api.egress.started ∈ (handleStartRecording now request none api).2.egress.running := by
  have reserved := @startRecording_lookup api.vod.service (recordingIDAt now request.streamerID)
    now request.roomName request.streamerID request.streamerName request.title
  rw [if_pos rfl] at reserved
  have touched := @rewriteRecording_lookup_self _ _ _ (fun _ => none)
    (fun recording => { recording with
      title := none.getD recording.title, description := none.getD recording.description
      tags := none.getD recording.tags, category := none.getD recording.category })
    reserved rfl
  have bound := @rewriteRecording_lookup_self _ _ _ (fun _ => none)
    (fun recording => { recording with
      metadata := Function.update recording.metadata "egress_id"
        (some (egressIDOf api.egress.started)) })
    touched rfl
  simp only [handleStartRecording, if_neg named, EgressService.startRoomCompositeEgress,
    updateRecordingMetadata]
  refine ⟨trivial, ?_, by simp⟩
  rw [bound]
  simp [newRecording]

/-- The requests of the PowerShell test script: test 7 starts a recording of
`test-stream-room` for `user123`. -/
def scriptStartRequest : StartRecordingRequest where
  roomName := "test-stream-room"
  streamerID := "user123"
  streamerName := ""
  title := "Test Stream Recording"
  videoTrackID := ""
  audioTrackID := ""

/-- Test 7 at clock reading 0, on a fresh service whose encoder accepts the
job. -/
def scriptStarted : RecordingResponse × RecordingAPI :=
  handleStartRecording 0 scriptStartRequest none RecordingAPI.new

/-- Test 8: stop the recording by its `recording_id` alone, as the script's
request does. -/
def scriptStopped : RecordingResponse × RecordingAPI :=
  handleStopRecording "POST" ⟨recordingIDAt 0 "user123", ""⟩ scriptStarted.2

/-- After test 8 the recording is processing, while the encoder job that test 7
bound to it (its `egress_id`) keeps running. -/
theorem stop_by_recording_id_leaves_encoder_running :
    scriptStarted.1 = .started (recordingIDAt 0 "user123") (egressIDOf 0) ∧
    ((scriptStarted.2.vod.service.recordings.lookup (recordingIDAt 0 "user123")).bind
      fun recording => recording.metadata "egress_id") = some (egressIDOf 0) ∧
    scriptStopped.1 = .stopped ∧
    (scriptStopped.2.vod.service.recordings.lookup (recordingIDAt 0 "user123")).map
      VODRecording.status = some .processing ∧
    egressIDOf 0 ∈ scriptStopped.2.egress.running := by
  decide

/-- Test 7 sent again at the same clock reading 0, now with the encoder
refusing the job. -/
def scriptRetried : RecordingResponse × RecordingAPI :=
  handleStartRecording 0 scriptStartRequest (some "egress unavailable") scriptStarted.2

/-- The failed retry answers 500, and its rollback deletes the recording the
first request created, which the run without the retry keeps; the streamer's
list still names it, and the first request's encoder job keeps running. -/
theorem failed_retry_deletes_first_recording :
    scriptStarted.1 = .started (recordingIDAt 0 "user123") (egressIDOf 0) ∧
    scriptRetried.1 = .internalServerError "Failed to start egress: egress unavailable" ∧
    (scriptStarted.2.vod.service.recordings.lookup (recordingIDAt 0 "user123")).isSome = true ∧
    (scriptRetried.2.vod.service.recordings.lookup (recordingIDAt 0 "user123")).isNone = true ∧
    scriptRetried.2.vod.service.streamerRecordings "user123" = some [recordingIDAt 0 "user123"] ∧
    egressIDOf 0 ∈ scriptRetried.2.egress.running := by
  decide

end LiveStreaming.Api
