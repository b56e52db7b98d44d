import LiveStreaming.Vod.Run

/-!
# The recording lifecycle

Every step leaves a recording in the catalog either as it was in status,
visibility and publication stamp, or moves it one way: `StopRecording` from
recording to processing, the end of `processRecording` to ready, and
`PublishRecording` from ready to public. `LifecycleStep` says this once, and
`vodStep_lookup_eq_some` proves that every event is one of these moves or a
`StartRecording` storing a new record.

Two things the code does are easy to miss. `StartRecording` copies
`AutoPublish` into `IsPublic`, so under that setting a recording is public
while still being recorded, which `PublishRecording` refuses to make it
(`auto_published_while_recording`). And a `StartRecording` whose ID
(`rec-<now>-<id>`) is already in the catalog, by the same streamer at the same
clock reading, replaces the stored record by a new object in status
recording; a `processRecording` goroutine that looked up the old object
writes into that one, which the catalog no longer shows.
-/

namespace LiveStreaming.Vod

/-- The position of a status along recording → processing → ready; the
statuses no method sets come last. -/
def VODStatus.stage : VODStatus → Nat
  | recording => 0
  | processing => 1
  | ready => 2
  | failed | archived | deleted => 3

/-- The ways one step may change a stored recording's status, visibility and
publication stamp. -/
inductive LifecycleStep (config : VODConfig) (old new : VODRecording) : Prop
  | keep : new.status = old.status → new.isPublic = old.isPublic →
      new.publishedAt = old.publishedAt → LifecycleStep config old new
  | stop : old.status = .recording → new.status = .processing → new.isPublic = old.isPublic →
      new.publishedAt = old.publishedAt → LifecycleStep config old new
  | process : new.status = .ready → new.isPublic = old.isPublic →
      (new.publishedAt.isSome → old.publishedAt.isSome ∨ config.autoPublish) →
      LifecycleStep config old new
  | publish : old.status = .ready → new.status = .ready → new.isPublic = true →
      LifecycleStep config old new

/-! ## Every event is one of these moves -/

section Step

variable {system : VODSystem} {now : Int} {recordingID : String} {recording : VODRecording}

theorem lifecycleStep_processedRecording (config : VODConfig) (old : VODRecording) :
    LifecycleStep config old (processedRecording config now recordingID old) := by
  refine .process rfl rfl fun stamped => ?_
  by_cases auto : config.autoPublish = true
  · exact .inr auto
  · exact .inl (by simpa [processedRecording, auto] using stamped)

theorem vodStep_lookup_eq_some {event : VODEvent}
    (found : (vodStep system now event).service.recordings.lookup recordingID = some recording) :
    (∃ roomName streamerID streamerName title,
      event = .start roomName streamerID streamerName title ∧
        recordingID = recordingIDAt now streamerID ∧
        recording = newRecording system.service.config now roomName streamerID streamerName title) ∨
    ∃ old, system.service.recordings.lookup recordingID = some old ∧
      LifecycleStep system.service.config old recording := by
  have kept : system.service.recordings.lookup recordingID = some recording →
      ∃ old, system.service.recordings.lookup recordingID = some old ∧
        LifecycleStep system.service.config old recording := fun present =>
    ⟨recording, present, .keep rfl rfl rfl⟩
  cases event with
  | start roomName streamerID streamerName title =>
      simp only [vodStep, startRecording_lookup] at found
      split_ifs at found with same
      · exact .inl ⟨roomName, streamerID, streamerName, title, rfl, same,
          (Option.some.inj found).symm⟩
      · exact .inr (kept found)
  | stop =>
      obtain ⟨old, present, rfl | ⟨-, passed, rfl⟩⟩ := rewriteRecording_lookup_eq_some found
      · exact .inr (kept present)
      · have recorded : old.status = .recording := by
          by_contra other
          simp [other] at passed
        exact .inr ⟨old, present, .stop recorded rfl rfl rfl⟩
  | process job =>
      simp only [vodStep] at found
      split_ifs at found
      · obtain ⟨old, present, rfl | ⟨-, rfl⟩⟩ := processStep_lookup_eq_some found
        · exact .inr (kept present)
        · exact .inr ⟨old, present, lifecycleStep_processedRecording _ old⟩
      · exact .inr (kept found)
  | publish =>
      obtain ⟨old, present, rfl | ⟨-, passed, rfl⟩⟩ := rewriteRecording_lookup_eq_some found
      · exact .inr (kept present)
      · have ready : old.status = .ready := by
          by_contra other
          simp [other] at passed
        exact .inr ⟨old, present, .publish ready ready rfl⟩
  | startPlayback =>
      obtain ⟨old, present, rfl | rfl⟩ := startPlaybackSession_lookup_eq_some found
      · exact .inr (kept present)
      · exact .inr ⟨old, present, .keep rfl rfl rfl⟩
  | updatePlayback =>
      simp only [vodStep, updatePlaybackSession_recordings] at found
      exact .inr (kept found)
  | endPlayback =>
      obtain ⟨old, present, _, rfl⟩ := endPlaybackSession_lookup_eq_some found
      exact .inr ⟨old, present, .keep rfl rfl rfl⟩
  | updateMetadata =>
      obtain ⟨old, present, rfl | ⟨-, -, rfl⟩⟩ := rewriteRecording_lookup_eq_some found
      · exact .inr (kept present)
      · exact .inr ⟨old, present, .keep rfl rfl rfl⟩
  | delete => exact .inr (kept (deleteRecording_lookup_eq_some found))
  | cleanupRecordings => exact .inr (kept (RecordingMap.lookup_keepIf_of_eq_some found))
  | cleanupSessions => exact .inr (kept found)

end Step

/-! ## The invariant of a stored recording -/

/-- What holds of every recording in the catalog. -/
structure LifecycleInvariant (config : VODConfig) (recording : VODRecording) : Prop where
  live : recording.status = .recording ∨ recording.status = .processing ∨
    recording.status = .ready
  publishedReady : recording.publishedAt.isSome → recording.status = .ready ∧ recording.isPublic
  publicReady : recording.isPublic → recording.status = .ready ∨ config.autoPublish
  autoPublic : config.autoPublish → recording.isPublic

section Invariant

variable {config : VODConfig} {old new : VODRecording}

theorem lifecycleInvariant_newRecording (now : Int) (roomName : RoomName)
    (streamerID : ParticipantIdentity) (streamerName title : String) :
    LifecycleInvariant config (newRecording config now roomName streamerID streamerName title) where
  live := .inl rfl
  publishedReady := by simp [newRecording]
  publicReady := .inr
  autoPublic := id

theorem LifecycleInvariant.step (invariant : LifecycleInvariant config old)
    (step : LifecycleStep config old new) : LifecycleInvariant config new := by
  obtain ⟨live, publishedReady, publicReady, autoPublic⟩ := invariant
  cases step with
  | keep status visible stamp =>
      constructor <;> simp only [status, visible, stamp] <;> assumption
  | stop recorded processing visible stamp =>
      have notReady : old.status ≠ .ready := by rw [recorded]; decide
      exact ⟨.inr (.inl processing),
        fun isStamped => absurd (publishedReady (stamp ▸ isStamped)).1 notReady,
        fun isPublic => .inr ((publicReady (visible ▸ isPublic)).resolve_left notReady),
        fun auto => visible ▸ autoPublic auto⟩
  | process ready visible stamped =>
      exact ⟨.inr (.inr ready),
        fun isStamped => ⟨ready, visible ▸ (stamped isStamped).elim
          (fun wasStamped => (publishedReady wasStamped).2) autoPublic⟩,
        fun _ => .inl ready, fun auto => visible ▸ autoPublic auto⟩
  | publish _ ready visible =>
      exact ⟨.inr (.inr ready), fun _ => ⟨ready, visible⟩, fun _ => .inl ready,
        fun _ => visible⟩

theorem LifecycleStep.stage_le (invariant : LifecycleInvariant config old)
    (step : LifecycleStep config old new) : old.status.stage ≤ new.status.stage := by
  cases step with
  | keep status => rw [status]
  | stop recorded processing => rw [recorded, processing]; decide
  | process ready =>
      rw [ready]
      rcases invariant.live with status | status | status <;> rw [status] <;> decide
  | publish wasReady ready => rw [wasReady, ready]

end Invariant

/-- Every stored recording satisfies the lifecycle invariant. -/
def CatalogInvariant (config : VODConfig) (service : VODService) : Prop :=
  ∀ recordingID recording, service.recordings.lookup recordingID = some recording →
    LifecycleInvariant config recording

theorem catalogInvariant_vodStep {config : VODConfig} {system : VODSystem} (now : Int)
    (event : VODEvent) (configured : system.service.config = config)
    (invariant : CatalogInvariant config system.service) :
    CatalogInvariant config (vodStep system now event).service := by
  subst configured
  intro recordingID recording found
  rcases vodStep_lookup_eq_some found with ⟨_, _, _, _, -, -, rfl⟩ | ⟨old, present, step⟩
  · exact lifecycleInvariant_newRecording _ _ _ _ _
  · exact (invariant recordingID old present).step step

theorem VODReachable.catalogInvariant {config : VODConfig} {system : VODSystem} {clock : Int}
    (reach : VODReachable config system clock) : CatalogInvariant config system.service := by
  induction reach with
  | started => intro _ _ found; cases found
  | @step _ _ now event reach _ inductionHypothesis =>
      exact catalogInvariant_vodStep now event reach.config_eq inductionHypothesis

/-- The VOD lifecycle over every run, for every configuration: a stored
recording is recording, processing or ready; a publication stamp means ready
and public; a public recording is ready unless `AutoPublish` made it public
at its start. From any reachable state, a step moves a stored recording's
status only forward, unless it is a `StartRecording` whose new ID is that
recording's. -/
theorem vod_lifecycle_over_runs (config : VODConfig) (system : VODSystem) (clock : Int)
    (reach : VODReachable config system clock) :
    (∀ recordingID recording, system.service.recordings.lookup recordingID = some recording →
      (recording.status = .recording ∨ recording.status = .processing ∨
        recording.status = .ready) ∧
      (recording.publishedAt.isSome → recording.status = .ready ∧ recording.isPublic) ∧
      (recording.isPublic → recording.status = .ready ∨ config.autoPublish)) ∧
    ∀ now event recordingID old new,
      (∀ roomName streamerID streamerName title,
        event = .start roomName streamerID streamerName title →
          recordingID ≠ recordingIDAt now streamerID) →
      system.service.recordings.lookup recordingID = some old →
      (vodStep system now event).service.recordings.lookup recordingID = some new →
      old.status.stage ≤ new.status.stage := by
  have invariant := reach.catalogInvariant
  refine ⟨fun recordingID recording found =>
    let stored := invariant recordingID recording found
    ⟨stored.live, stored.publishedReady, stored.publicReady⟩, ?_⟩
  intro now event recordingID old new notReused present found
  rcases vodStep_lookup_eq_some found with ⟨_, _, _, _, started, reused, -⟩ | ⟨before, stored, step⟩
  · exact absurd reused (notReused _ _ _ _ started)
  · have same : old = before := Option.some.inj (present.symm.trans stored)
    subst same
    rw [reach.config_eq] at step
    exact step.stage_le (invariant recordingID old present)

/-- The service after one `StartRecording` by alice at 0 under the default
configuration. -/
def oneRecordingSystem : VODSystem :=
  vodStep ⟨VODService.new defaultVODConfig, []⟩ 0 (.start "r1" "alice" "Alice" "live")

theorem lifecycle_after_one_start :
    (∀ recordingID recording,
      oneRecordingSystem.service.recordings.lookup recordingID = some recording →
      (recording.status = .recording ∨ recording.status = .processing ∨
        recording.status = .ready) ∧
      (recording.publishedAt.isSome → recording.status = .ready ∧ recording.isPublic) ∧
      (recording.isPublic → recording.status = .ready ∨ defaultVODConfig.autoPublish)) ∧
    ∀ now event recordingID old new,
      (∀ roomName streamerID streamerName title,
        event = .start roomName streamerID streamerName title →
          recordingID ≠ recordingIDAt now streamerID) →
      oneRecordingSystem.service.recordings.lookup recordingID = some old →
      (vodStep oneRecordingSystem now event).service.recordings.lookup recordingID = some new →
      old.status.stage ≤ new.status.stage :=
  vod_lifecycle_over_runs defaultVODConfig oneRecordingSystem 0
    (.step _ (.started 0) le_rfl)

/-- The default configuration with `AutoPublish` on. -/
def autoPublishConfig : VODConfig := { defaultVODConfig with autoPublish := true }

/-- Alice starts a recording at 0 on a service with `AutoPublish` on. -/
def autoPublishedSystem : VODSystem :=
  vodStep ⟨VODService.new autoPublishConfig, []⟩ 0 (.start "r1" "alice" "Alice" "live")

/-- Under `AutoPublish`, alice's recording is public while still being
recorded, and `PublishRecording` of that same recording refuses for not being
ready. -/
theorem auto_published_while_recording :
    VODReachable autoPublishConfig autoPublishedSystem 0 ∧
    (autoPublishedSystem.service.recordings.lookup (recordingIDAt 0 "alice")).map
        (fun recording => (recording.isPublic, recording.status)) = some (true, .recording) ∧
    (publishRecording 0 (recordingIDAt 0 "alice") autoPublishedSystem.service).result =
      .error .recordingNotReady :=
  ⟨.step _ (.started 0) le_rfl, by decide, rfl⟩

end LiveStreaming.Vod
