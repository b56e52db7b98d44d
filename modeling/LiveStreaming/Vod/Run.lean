import LiveStreaming.Vod.Service

/-!
# Runs of the VOD service

A run applies the service's methods in any order, each at its own clock
reading. `StopRecording` starts a `processRecording` goroutine, which the run
keeps in `processing` until it ends. A `process` event runs the next critical
section of one of them: the lookup of the object its ID points to, after which
it sleeps five seconds, or, once those have passed, the writes into that
object. Read-only methods change nothing and are not events.

The lemmas of this module say, once per method, what it leaves under a
recording ID: nothing new, the record it found there, or that record rewritten.
-/

namespace LiveStreaming.Vod

/-- A `processRecording` goroutine: started for a recording ID and waiting for
the lock, or holding the object it looked up and sleeping until `wakeAt`. -/
inductive ProcessingJob where
  | started (recordingID : String)
  | sleeping (recordingID : String) (object : Nat) (wakeAt : Int)
  deriving DecidableEq

/-- The service together with the post-processing goroutines still pending. -/
structure VODSystem where
  service : VODService
  processing : List ProcessingJob

/-- One call on the service, or the next critical section of one
post-processing goroutine. -/
inductive VODEvent where
  | start (roomName : RoomName) (streamerID : ParticipantIdentity) (streamerName title : String)
  | stop (recordingID : String) (duration fileSize : Int)
  | process (job : ProcessingJob)
  | publish (recordingID : String)
  | startPlayback (recordingID : String) (userID : ParticipantIdentity) (quality : String)
  | updatePlayback (sessionID : String) (position : Int)
  | endPlayback (sessionID : String)
  | updateMetadata (recordingID : String) (title description : Option String)
      (tags : Option (List String)) (category : Option String)
  | delete (recordingID : String)
  | cleanupRecordings
  | cleanupSessions

/-- What one critical section of a pending goroutine does at clock reading
`now`: the lookup puts it to sleep for five seconds with the object it found,
or ends it when the ID is gone; the writes end it, and before its wake-up
time it is still asleep. -/
def processStep (system : VODSystem) (now : Int) : ProcessingJob → VODSystem
  | job@(.started recordingID) =>
      { system with
        processing := system.processing.erase job ++
          ((processingTarget recordingID system.service).map fun object =>
            ProcessingJob.sleeping recordingID object (now + 5 * second)).toList }
  | job@(.sleeping recordingID object wakeAt) =>
      if wakeAt ≤ now then
        { service := completeProcessing now recordingID object system.service
          processing := system.processing.erase job }
      else system

/-- One event at clock reading `now`. A `process` event of a goroutine that is
not pending changes nothing. -/
def vodStep (system : VODSystem) (now : Int) : VODEvent → VODSystem
  | .start roomName streamerID streamerName title =>
      { system with
        service := (startRecording now roomName streamerID streamerName title system.service).service }
  | .stop recordingID duration fileSize =>
      let outcome := stopRecording recordingID duration fileSize system.service
      { service := outcome.service
        processing := if outcome.result.isOk then system.processing ++ [.started recordingID]
          else system.processing }
  | .process job => if job ∈ system.processing then processStep system now job else system
  | .publish recordingID =>
      { system with service := (publishRecording now recordingID system.service).service }
  | .startPlayback recordingID userID quality =>
      { system with
        service := (startPlaybackSession now recordingID userID quality system.service).service }
  | .updatePlayback sessionID position =>
      { system with service := (updatePlaybackSession now sessionID position system.service).service }
  | .endPlayback sessionID =>
      { system with service := (endPlaybackSession sessionID system.service).service }
  | .updateMetadata recordingID title description tags category =>
      { system with
        service := (updateRecordingMetadata recordingID title description tags category
          system.service).service }
  | .delete recordingID =>
      { system with service := (deleteRecording recordingID system.service).service }
  | .cleanupRecordings =>
      { system with service := (cleanupExpiredRecordings now system.service).2 }
  | .cleanupSessions =>
      { system with service := (cleanupStaleSessions now system.service).2 }

/-- The states a service built by `NewVODService` with `config` reaches under
non-decreasing clock readings. -/
inductive VODReachable (config : VODConfig) : VODSystem → Int → Prop
  | started (clock : Int) : VODReachable config ⟨VODService.new config, []⟩ clock
  | step {system : VODSystem} {clock now : Int} (event : VODEvent) :
      VODReachable config system clock → clock ≤ now →
      VODReachable config (vodStep system now event) now

/-- A run of timed events. -/
def vodRun : VODSystem → List (Int × VODEvent) → VODSystem
  | system, [] => system
  | system, (now, event) :: rest => vodRun (vodStep system now event) rest

theorem vodRun_append (system : VODSystem) (first second : List (Int × VODEvent)) :
    vodRun system (first ++ second) = vodRun (vodRun system first) second := by
  induction first generalizing system with
  | nil => rfl
  | cons event rest inductionHypothesis => exact inductionHypothesis _

/-- A run whose readings never decrease from the clock of a reachable state
ends in a reachable state, at a clock not after `finish`. -/
theorem VODReachable.run {config : VODConfig} :
    ∀ (events : List (Int × VODEvent)) {system : VODSystem} {clock finish : Int},
      VODReachable config system clock → ClockFrom clock events finish →
      ∃ last, last ≤ finish ∧ VODReachable config (vodRun system events) last
  | [], _, clock, _, reach, ordered => ⟨clock, ordered, reach⟩
  | (_, event) :: rest, _, _, _, reach, ⟨first, ordered⟩ =>
      VODReachable.run rest (.step event reach first) ordered

/-! ## The configuration never changes -/

section Config

variable {service : VODService}

@[simp]
theorem rewriteRecording_config (check : VODRecording → Option VODError)
    (change : VODRecording → VODRecording) (recordingID : String) :
    (rewriteRecording check change recordingID service).service.config = service.config := by
  unfold rewriteRecording; split <;> (try split) <;> rfl

@[simp]
theorem completeProcessing_config (now : Int) (recordingID : String) (object : Nat) :
    (completeProcessing now recordingID object service).config = service.config := by
  unfold completeProcessing; split <;> (try split_ifs) <;> rfl

theorem processStep_config (system : VODSystem) (now : Int) (job : ProcessingJob) :
    (processStep system now job).service.config = system.service.config := by
  cases job with
  | started => rfl
  | sleeping => simp only [processStep]; split_ifs <;> simp

@[simp]
theorem startPlaybackSession_config (now : Int) (recordingID : String)
    (userID : ParticipantIdentity) (quality : String) :
    (startPlaybackSession now recordingID userID quality service).service.config =
      service.config := by
  unfold startPlaybackSession; split <;> (try split_ifs) <;> rfl

@[simp]
theorem updatePlaybackSession_config (now : Int) (sessionID : String) (position : Int) :
    (updatePlaybackSession now sessionID position service).service.config = service.config := by
  unfold updatePlaybackSession; split <;> rfl

@[simp]
theorem endPlaybackSession_config (sessionID : String) :
    (endPlaybackSession sessionID service).service.config = service.config := by
  unfold endPlaybackSession; split <;> rfl

@[simp]
theorem deleteRecording_config (recordingID : String) :
    (deleteRecording recordingID service).service.config = service.config := by
  unfold deleteRecording; split <;> rfl

theorem vodStep_config (system : VODSystem) (now : Int) (event : VODEvent) :
    (vodStep system now event).service.config = system.service.config := by
  cases event <;> simp only [vodStep] <;> (try split) <;>
    simp [startRecording, stopRecording, publishRecording, updateRecordingMetadata,
      cleanupExpiredRecordings, cleanupStaleSessions, processStep_config]

theorem VODReachable.config_eq {config : VODConfig} {system : VODSystem} {clock : Int}
    (reach : VODReachable config system clock) : system.service.config = config := by
  induction reach with
  | started => rfl
  | step event _ _ inductionHypothesis => rw [vodStep_config, inductionHypothesis]

end Config

/-! ## What one method leaves under a recording ID -/

section Lookup

variable {service : VODService} {recordingID other : String} {recording : VODRecording}

theorem startRecording_lookup (now : Int) (roomName : RoomName) (streamerID : ParticipantIdentity)
    (streamerName title : String) :
    (startRecording now roomName streamerID streamerName title service).service.recordings.lookup
        other =
      if other = recordingIDAt now streamerID then
        some (newRecording service.config now roomName streamerID streamerName title)
      else service.recordings.lookup other := by
  split_ifs with same
  · subst same; exact AList.lookup_insert _
  · exact AList.lookup_insert_ne same

theorem rewriteRecording_lookup_eq_some {check : VODRecording → Option VODError}
    {change : VODRecording → VODRecording}
    (found : (rewriteRecording check change recordingID service).service.recordings.lookup other =
      some recording) :
    ∃ old, service.recordings.lookup other = some old ∧
      (recording = old ∨ (other = recordingID ∧ check old = none ∧ recording = change old)) := by
  unfold rewriteRecording at found
  split at found
  · exact ⟨recording, found, .inl rfl⟩
  · rename_i old present
    split at found
    · exact ⟨recording, found, .inl rfl⟩
    · rename_i passed
      rcases lookup_insert_eq_some found with ⟨same, rfl⟩ | kept
      · subst same; exact ⟨old, present, .inr ⟨rfl, passed, rfl⟩⟩
      · exact ⟨recording, kept, .inl rfl⟩

theorem rewriteRecording_lookup_self {check : VODRecording → Option VODError}
    {change : VODRecording → VODRecording} (present : service.recordings.lookup recordingID = some recording)
    (passed : check recording = none) :
    (rewriteRecording check change recordingID service).service.recordings.lookup recordingID =
      some (change recording) := by
  simp only [rewriteRecording, present, passed]
  exact AList.lookup_insert _

theorem completeProcessing_lookup_eq_some {now : Int} {object : Nat}
    (found : (completeProcessing now recordingID object service).recordings.lookup other =
      some recording) :
    ∃ old, service.recordings.lookup other = some old ∧
      (recording = old ∨
        (other = recordingID ∧ recording = processedRecording service.config now recordingID old)) := by
  unfold completeProcessing at found
  split at found
  · exact ⟨recording, found, .inl rfl⟩
  · rename_i old present
    split_ifs at found
    · rcases lookup_insert_eq_some found with ⟨same, rfl⟩ | kept
      · subst same; exact ⟨old, present, .inr ⟨rfl, rfl⟩⟩
      · exact ⟨recording, kept, .inl rfl⟩
    · exact ⟨recording, found, .inl rfl⟩

/-- A goroutine's critical section leaves a stored recording as it was or
processed. -/
theorem processStep_lookup_eq_some {system : VODSystem} {now : Int} {job : ProcessingJob}
    (found : (processStep system now job).service.recordings.lookup other = some recording) :
    ∃ old, system.service.recordings.lookup other = some old ∧
      (recording = old ∨
        ∃ recordingID, recording = processedRecording system.service.config now recordingID old) := by
  cases job with
  | started => exact ⟨recording, found, .inl rfl⟩
  | sleeping recordingID object wakeAt =>
      simp only [processStep] at found
      split_ifs at found
      · obtain ⟨old, present, rfl | ⟨-, rfl⟩⟩ := completeProcessing_lookup_eq_some found
        · exact ⟨recording, present, .inl rfl⟩
        · exact ⟨old, present, .inr ⟨recordingID, rfl⟩⟩
      · exact ⟨recording, found, .inl rfl⟩

theorem startPlaybackSession_lookup_eq_some {now : Int} {userID : ParticipantIdentity}
    {quality : String}
    (found : (startPlaybackSession now recordingID userID quality service).service.recordings.lookup
      other = some recording) :
    ∃ old, service.recordings.lookup other = some old ∧
      (recording = old ∨ recording = { old with viewCount := old.viewCount + 1 }) := by
  unfold startPlaybackSession at found
  split at found
  · exact ⟨recording, found, .inl rfl⟩
  · rename_i old present
    split_ifs at found
    · exact ⟨recording, found, .inl rfl⟩
    · exact ⟨recording, found, .inl rfl⟩
    · rcases lookup_insert_eq_some found with ⟨same, rfl⟩ | kept
      · subst same; exact ⟨old, present, .inr rfl⟩
      · exact ⟨recording, kept, .inl rfl⟩

theorem endPlaybackSession_lookup_eq_some {sessionID : String}
    (found : (endPlaybackSession sessionID service).service.recordings.lookup other =
      some recording) :
    ∃ old, service.recordings.lookup other = some old ∧
      ∃ average, recording = { old with averageViewDuration := average } := by
  unfold endPlaybackSession at found
  split at found
  · exact ⟨recording, found, _, rfl⟩
  · simp only at found
    split at found
    · split_ifs at found
      · rename_i old present _
        rcases lookup_insert_eq_some found with ⟨same, rfl⟩ | kept
        · subst same; exact ⟨old, present, _, rfl⟩
        · exact ⟨recording, kept, _, rfl⟩
      · exact ⟨recording, found, _, rfl⟩
    · exact ⟨recording, found, _, rfl⟩

theorem deleteRecording_lookup_eq_some
    (found : (deleteRecording recordingID service).service.recordings.lookup other =
      some recording) :
    service.recordings.lookup other = some recording := by
  unfold deleteRecording at found
  split at found
  · exact found
  · by_cases same : other = recordingID
    · rw [same, AList.lookup_erase] at found
      cases found
    · rwa [AList.lookup_erase_ne same] at found

theorem RecordingMap.lookup_keepIf_of_eq_some {keep : VODRecording → Bool}
    {recordings : RecordingMap} (found : (recordings.keepIf keep).lookup other = some recording) :
    recordings.lookup other = some recording :=
  AList.mem_lookup_iff.mpr (List.mem_of_mem_filter (AList.mem_lookup_iff.mp found))

@[simp]
theorem updatePlaybackSession_recordings (now : Int) (sessionID : String) (position : Int) :
    (updatePlaybackSession now sessionID position service).service.recordings =
      service.recordings := by
  unfold updatePlaybackSession; split <;> rfl

end Lookup

end LiveStreaming.Vod
