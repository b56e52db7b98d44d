import LiveStreaming.Vod.Run

/-!
# The streamer index

`StartRecording` appends a recording's ID to its streamer's list, and
`DeleteRecording` erases it again; the other methods keep both the list and
each recording's streamer. So over every run every catalog recording is listed
under its streamer (`VODReachable.indexCovers`). The converse fails:
`CleanupExpiredRecordings` drops expired recordings from the catalog but not
from the list, and `ListRecordingsByStreamer` pages over the list in the order
the recordings were started, skipping IDs no longer in the catalog.
-/

namespace LiveStreaming.Vod

/-- Every catalog recording is listed under its streamer. -/
def IndexCovers (service : VODService) : Prop :=
  ∀ recordingID recording, service.recordings.lookup recordingID = some recording →
    recordingID ∈ (service.streamerRecordings recording.streamerID).getD []

/-! ## The methods that keep the index -/

section Index

variable {service : VODService}

@[simp]
theorem rewriteRecording_streamerRecordings (check : VODRecording → Option VODError)
    (change : VODRecording → VODRecording) (recordingID : String) :
    (rewriteRecording check change recordingID service).service.streamerRecordings =
      service.streamerRecordings := by
  unfold rewriteRecording; split <;> (try split) <;> rfl

@[simp]
theorem completeProcessing_streamerRecordings (now : Int) (recordingID : String) (object : Nat) :
    (completeProcessing now recordingID object service).streamerRecordings =
      service.streamerRecordings := by
  unfold completeProcessing; split <;> (try split_ifs) <;> rfl

theorem processStep_streamerRecordings (system : VODSystem) (now : Int) (job : ProcessingJob) :
    (processStep system now job).service.streamerRecordings = system.service.streamerRecordings := by
  cases job with
  | started => rfl
  | sleeping => simp only [processStep]; split_ifs <;> simp

@[simp]
theorem startPlaybackSession_streamerRecordings (now : Int) (recordingID : String)
    (userID : ParticipantIdentity) (quality : String) :
    (startPlaybackSession now recordingID userID quality service).service.streamerRecordings =
      service.streamerRecordings := by
  unfold startPlaybackSession; split <;> (try split_ifs) <;> rfl

@[simp]
theorem updatePlaybackSession_streamerRecordings (now : Int) (sessionID : String) (position : Int) :
    (updatePlaybackSession now sessionID position service).service.streamerRecordings =
      service.streamerRecordings := by
  unfold updatePlaybackSession; split <;> rfl

@[simp]
theorem endPlaybackSession_streamerRecordings (sessionID : String) :
    (endPlaybackSession sessionID service).service.streamerRecordings =
      service.streamerRecordings := by
  unfold endPlaybackSession; split <;> rfl

theorem getD_map_erase (recordingIDs : Option (List String)) (recordingID : String) :
    (recordingIDs.map (·.erase recordingID)).getD [] = (recordingIDs.getD []).erase recordingID := by
  cases recordingIDs <;> rfl

/-- A recording a method leaves whose record it had before keeps its streamer,
and then the covering carries over when the list is kept. -/
theorem IndexCovers.of_kept {after : VODService} (covers : IndexCovers service)
    (kept : after.streamerRecordings = service.streamerRecordings)
    (found : ∀ recordingID recording, after.recordings.lookup recordingID = some recording →
      ∃ old, service.recordings.lookup recordingID = some old ∧
        recording.streamerID = old.streamerID) :
    IndexCovers after := by
  intro recordingID recording present
  obtain ⟨old, before, sameStreamer⟩ := found recordingID recording present
  rw [kept, sameStreamer]
  exact covers recordingID old before

theorem IndexCovers.startRecording (covers : IndexCovers service) (now : Int) (roomName : RoomName)
    (streamerID : ParticipantIdentity) (streamerName title : String) :
    IndexCovers (startRecording now roomName streamerID streamerName title service).service := by
  intro recordingID recording present
  rw [startRecording_lookup] at present
  simp only [LiveStreaming.Vod.startRecording]
  split_ifs at present with same
  · cases present
    simp [newRecording, same]
  · by_cases owner : recording.streamerID = streamerID
    · rw [owner, Function.update_same, Option.getD_some]
      exact List.mem_append_left _ (owner ▸ covers recordingID recording present)
    · rw [Function.update_noteq owner]
      exact covers recordingID recording present

theorem IndexCovers.deleteRecording (covers : IndexCovers service) (deleted : String) :
    IndexCovers (deleteRecording deleted service).service := by
  unfold LiveStreaming.Vod.deleteRecording
  split
  · exact covers
  · rename_i removed _
    intro recordingID recording present
    have different : recordingID ≠ deleted := by
      rintro rfl
      rw [AList.lookup_erase] at present
      cases present
    rw [AList.lookup_erase_ne different] at present
    show recordingID ∈ (Function.update service.streamerRecordings removed.streamerID
      ((service.streamerRecordings removed.streamerID).map (·.erase deleted))
      recording.streamerID).getD []
    by_cases owner : recording.streamerID = removed.streamerID
    · rw [owner, Function.update_same, getD_map_erase]
      exact (List.mem_erase_of_ne different).mpr (owner ▸ covers recordingID recording present)
    · rw [Function.update_noteq owner]
      exact covers recordingID recording present

/-- Every event keeps the catalog covered by the index. -/
theorem IndexCovers.vodStep {system : VODSystem} (covers : IndexCovers system.service) (now : Int)
    (event : VODEvent) : IndexCovers (vodStep system now event).service := by
  cases event with
  | start roomName streamerID streamerName title =>
      exact covers.startRecording now roomName streamerID streamerName title
  | delete deleted => exact covers.deleteRecording deleted
  | stop | publish | updateMetadata =>
      refine covers.of_kept (rewriteRecording_streamerRecordings ..) fun _ _ found => ?_
      obtain ⟨old, present, rfl | ⟨-, -, rfl⟩⟩ := rewriteRecording_lookup_eq_some found <;>
        exact ⟨_, present, rfl⟩
  | process job =>
      simp only [LiveStreaming.Vod.vodStep]
      split_ifs
      · refine covers.of_kept (processStep_streamerRecordings ..) fun _ _ found => ?_
        obtain ⟨old, present, rfl | ⟨-, rfl⟩⟩ := processStep_lookup_eq_some found <;>
          exact ⟨_, present, rfl⟩
      · exact covers
  | startPlayback =>
      refine covers.of_kept (startPlaybackSession_streamerRecordings ..) fun _ _ found => ?_
      obtain ⟨old, present, rfl | rfl⟩ := startPlaybackSession_lookup_eq_some found <;>
        exact ⟨_, present, rfl⟩
  | updatePlayback =>
      refine covers.of_kept (updatePlaybackSession_streamerRecordings ..) fun _ recording found => ?_
      rw [LiveStreaming.Vod.vodStep, updatePlaybackSession_recordings] at found
      exact ⟨recording, found, rfl⟩
  | endPlayback =>
      refine covers.of_kept (endPlaybackSession_streamerRecordings ..) fun _ _ found => ?_
      obtain ⟨old, present, _, rfl⟩ := endPlaybackSession_lookup_eq_some found
      exact ⟨_, present, rfl⟩
  | cleanupRecordings =>
      exact covers.of_kept rfl fun _ recording found =>
        ⟨recording, RecordingMap.lookup_keepIf_of_eq_some found, rfl⟩
  | cleanupSessions => exact covers

/-- In every reachable state, every catalog recording is listed under its
streamer. -/
theorem VODReachable.indexCovers {config : VODConfig} {system : VODSystem} {clock : Int}
    (reach : VODReachable config system clock) : IndexCovers system.service := by
  induction reach with
  | started => intro _ _ absent; cases absent
  | step event _ _ inductionHypothesis => exact inductionHypothesis.vodStep _ event

end Index

/-! ## The index outlives the sweep -/

/-- Alice starts recordings at 0 and at 1; the sweep at 30 days plus 1 drops
the first, which expired at 30 days; she starts a third at 30 days plus 2. -/
def sweptVOD : VODSystem :=
  vodRun ⟨VODService.new defaultVODConfig, []⟩
    [(0, .start "r1" "alice" "Alice" "first"), (1, .start "r1" "alice" "Alice" "second"),
      (30 * day + 1, .cleanupRecordings), (30 * day + 2, .start "r1" "alice" "Alice" "third")]

/-- Alice's list still names the swept recording, so a page of two from
offset 0 holds only one of her two catalog recordings, and the full page lists
them oldest first. -/
theorem swept_recording_stays_indexed :
    (∃ clock, VODReachable defaultVODConfig sweptVOD clock) ∧
    sweptVOD.service.streamerRecordings "alice" =
      some [recordingIDAt 0 "alice", recordingIDAt 1 "alice", recordingIDAt (30 * day + 2) "alice"] ∧
    (sweptVOD.service.recordings.lookup (recordingIDAt 0 "alice")).isNone = true ∧
    (sweptVOD.service.recordings.entries.filter fun entry => entry.2.streamerID = "alice").length = 2 ∧
    (listRecordingsByStreamer "alice" 2 0 sweptVOD.service).map (List.map VODRecording.id) =
      some [recordingIDAt 1 "alice"] ∧
    (listRecordingsByStreamer "alice" 3 0 sweptVOD.service).map (List.map VODRecording.id) =
      some [recordingIDAt 1 "alice", recordingIDAt (30 * day + 2) "alice"] := by
  refine ⟨?_, by decide⟩
  exact (VODReachable.run _ (.started 0)
    (show ClockFrom 0 _ (30 * day + 2) by simp [ClockFrom, day])).imp fun _ => And.right

end LiveStreaming.Vod
