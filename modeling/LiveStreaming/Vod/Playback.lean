import LiveStreaming.Vod.Run

/-!
# Playback statistics

`StartPlaybackSession` counts a view when it opens a session, and
`EndPlaybackSession` folds the ended session's watch time into the recording's
`AverageViewDuration` as `(average * (ViewCount - 1) + watch) / ViewCount`, over
`int64`. The weight is the number of sessions started, not ended: over every
run that does not create the recording anew, the view count grows by exactly
the sessions opened on it (`average_weighted_by_started_views`). With each step
truncating, the stored value is not the mean of the ended sessions once
sessions overlap (`overlapping_sessions_skew_average`). The product is taken
modulo `2^64`: where it leaves the `int64` range the average wraps to a
negative value (`average_view_duration_wraps_negative`), and where it stays in
range the estimator is the exact one (`nextAverageViewDuration_of_fits`).
-/

namespace LiveStreaming.Vod

/-! ## The estimator -/

section Estimator

theorem wrapInt64_of_fits {value : Int} (low : -2 ^ 63 ≤ value) (high : value < 2 ^ 63) :
    wrapInt64 value = value := by
  unfold wrapInt64
  rw [Int.emod_eq_of_lt (by omega) (by omega)]
  omega

/-- Where the product and the sum stay in the `int64` range, the stored
average is the truncated incremental mean. -/
theorem nextAverageViewDuration_of_fits {average viewCount watchDuration : Int}
    (product : -2 ^ 63 ≤ average * (viewCount - 1) ∧ average * (viewCount - 1) < 2 ^ 63)
    (sum : -2 ^ 63 ≤ average * (viewCount - 1) + watchDuration ∧
      average * (viewCount - 1) + watchDuration < 2 ^ 63) :
    nextAverageViewDuration average viewCount watchDuration =
      (average * (viewCount - 1) + watchDuration).tdiv viewCount := by
  rw [nextAverageViewDuration, wrapInt64_of_fits product.1 product.2,
    wrapInt64_of_fits sum.1 sum.2]

end Estimator

/-! ## Opening and ending sessions -/

section Sessions

variable {service : VODService} {recordingID : String}

@[simp]
theorem vodStep_startPlayback_service (system : VODSystem) (now : Int) (userID : ParticipantIdentity)
    (quality : String) :
    (vodStep system now (.startPlayback recordingID userID quality)).service =
      (startPlaybackSession now recordingID userID quality system.service).service :=
  rfl

@[simp]
theorem vodStep_endPlayback_service (system : VODSystem) (now : Int) (sessionID : String) :
    (vodStep system now (.endPlayback sessionID)).service =
      (endPlaybackSession sessionID system.service).service :=
  rfl

/-- A start on a ready, public recording counts one more view and opens the
session `session-<now>-<user>`. -/
theorem startPlaybackSession_of_playable {recording : VODRecording}
    (found : service.recordings.lookup recordingID = some recording)
    (ready : recording.status = .ready) (visible : recording.isPublic = true)
    (now : Int) (userID : ParticipantIdentity) (quality : String) :
    (startPlaybackSession now recordingID userID quality service).service.recordings.lookup
        recordingID = some { recording with viewCount := recording.viewCount + 1 } ∧
      (startPlaybackSession now recordingID userID quality service).service.playbackSessions.lookup
        ("session-" ++ toString now ++ "-" ++ userID) =
        some
          { id := "session-" ++ toString now ++ "-" ++ userID, recordingID := recordingID,
            userID := userID, startedAt := now, lastHeartbeat := now, currentPosition := 0,
            watchDuration := 0, completed := false, quality := quality } := by
  simp only [startPlaybackSession, found, ready, visible, ne_eq, not_true_eq_false,
    Bool.not_true, Bool.false_eq_true, if_false]
  exact ⟨AList.lookup_insert _, AList.lookup_insert _⟩

/-- Over every run of starts on a ready, public recording, the view count grows
by the number of starts. -/
theorem vodRun_startPlaybacks :
    ∀ (events : List (Int × VODEvent)) (system : VODSystem) (recording : VODRecording),
      system.service.recordings.lookup recordingID = some recording →
      recording.status = .ready → recording.isPublic = true →
      (∀ event ∈ events, ∃ userID quality, event.2 = .startPlayback recordingID userID quality) →
      (vodRun system events).service.recordings.lookup recordingID =
        some { recording with viewCount := recording.viewCount + events.length }
  | [], _, recording, found, _, _, _ => by simpa [vodRun] using found
  | (now, event) :: rest, system, recording, found, ready, visible, starts => by
      obtain ⟨userID, quality, rfl⟩ := starts _ (.head _)
      have counted := (startPlaybackSession_of_playable found ready visible now userID quality).1
      have later := vodRun_startPlaybacks rest (vodStep system now (.startPlayback recordingID userID
        quality)) _ counted ready visible (fun event member => starts event (.tail _ member))
      rw [vodRun, later, List.length_cons]
      congr 2
      dsimp only
      omega

/-- `EndPlaybackSession` of a session whose recording has a view folds the
session's watch time into the recording's average, weighted by the view
count. -/
theorem endPlaybackSession_average {sessionID : String} {session : VODPlaybackSession}
    {recording : VODRecording}
    (opened : service.playbackSessions.lookup sessionID = some session)
    (found : service.recordings.lookup session.recordingID = some recording)
    (viewed : 0 < recording.viewCount) :
    (endPlaybackSession sessionID service).service.recordings.lookup session.recordingID =
      some { recording with
        averageViewDuration := nextAverageViewDuration recording.averageViewDuration
          recording.viewCount session.watchDuration } := by
  simp only [endPlaybackSession, opened, found, viewed, if_true]
  exact AList.lookup_insert _

/-- `EndPlaybackSession` drops the session, and folds its watch time into its
recording's average when the recording has a view. -/
theorem endPlaybackSession_ends {sessionID : String} {session : VODPlaybackSession}
    {recording : VODRecording}
    (opened : service.playbackSessions.lookup sessionID = some session)
    (found : service.recordings.lookup session.recordingID = some recording) :
    (endPlaybackSession sessionID service).service.playbackSessions.lookup sessionID = none ∧
    (endPlaybackSession sessionID service).service.recordings.lookup session.recordingID =
      some (if 0 < recording.viewCount then
        { recording with
          averageViewDuration := nextAverageViewDuration recording.averageViewDuration
            recording.viewCount session.watchDuration }
        else recording) := by
  refine ⟨by simp only [endPlaybackSession, opened]; exact AList.lookup_erase _ _, ?_⟩
  split_ifs with viewed
  · exact endPlaybackSession_average opened found viewed
  · simp only [endPlaybackSession, opened, found, viewed, if_false]

end Sessions


/-! ## Runs that leave the mean -/

/-- A recording of `r1` by alice on the default configuration: started at 0
and stopped at 1, when its goroutine looks up the recording, object 0; processed
when the goroutine wakes five seconds later, and published a nanosecond after. -/
def publishedVOD : VODSystem :=
  vodRun ⟨VODService.new defaultVODConfig, []⟩
    [(0, .start "r1" "alice" "Alice" "stream"), (1, .stop (recordingIDAt 0 "alice") 0 0),
      (1, .process (.started (recordingIDAt 0 "alice"))),
      (1 + 5 * second, .process (.sleeping (recordingIDAt 0 "alice") 0 (1 + 5 * second))),
      (2 + 5 * second, .publish (recordingIDAt 0 "alice"))]

theorem publishedVOD_reachable :
    ∃ clock, clock ≤ 2 + 5 * second ∧ VODReachable defaultVODConfig publishedVOD clock :=
  VODReachable.run _ (.started 0) (by simp [ClockFrom])

/-- Two overlapping sessions, opened 10 and 11 nanoseconds past the five
seconds of processing; u1's reaches a watch time of 10. -/
def overlappingStarts : List (Int × VODEvent) :=
  [(10 + 5 * second, .startPlayback (recordingIDAt 0 "alice") "u1" "auto"),
    (11 + 5 * second, .startPlayback (recordingIDAt 0 "alice") "u2" "auto"),
    (20 + 5 * second, .updatePlayback ("session-" ++ toString (10 + 5 * second) ++ "-u1") 10)]

/-- Then u1's session ends, while u2's stays open. -/
def overlappingViews : VODSystem :=
  vodStep (vodRun publishedVOD overlappingStarts) (20 + 5 * second)
    (.endPlayback ("session-" ++ toString (10 + 5 * second) ++ "-u1"))

/-- The only ended session watched 10, but the stored average is 5: the
estimator divides by the two views started. -/
theorem overlapping_sessions_skew_average :
    (∃ clock, VODReachable defaultVODConfig overlappingViews clock) ∧
    (overlappingViews.service.recordings.lookup (recordingIDAt 0 "alice")).map
      VODRecording.averageViewDuration = some 5 := by
  refine ⟨?_, by decide⟩
  obtain ⟨clock, early, reach⟩ := publishedVOD_reachable
  obtain ⟨clock, started, reach⟩ := VODReachable.run overlappingStarts reach
    (show ClockFrom clock _ (20 + 5 * second) by
      simp only [second] at early; simp [ClockFrom, overlappingStarts, second]; omega)
  exact ⟨_, .step _ reach started⟩

/-! ## The weight is the sessions started -/

/-- One for a `StartPlaybackSession` on `recordingID` that opens a session,
zero for every other event. -/
def playbackStartOn (recordingID : String) (system : VODSystem) (now : Int) : VODEvent → Nat
  | .startPlayback target userID quality =>
      if target = recordingID ∧
          (startPlaybackSession now target userID quality system.service).result.isOk then 1
      else 0
  | _ => 0

/-- The `StartPlaybackSession` calls of a run that open a session on
`recordingID`. -/
def acceptedPlaybackStarts (recordingID : String) : VODSystem → List (Int × VODEvent) → Nat
  | _, [] => 0
  | system, (now, event) :: rest =>
      playbackStartOn recordingID system now event +
        acceptedPlaybackStarts recordingID (vodStep system now event) rest

section Weight

variable {service : VODService} {system : VODSystem} {recordingID : String}
  {recording : VODRecording}

/-- `StartPlaybackSession` refuses and changes nothing, or finds the recording
and stores it with one more view. -/
theorem startPlaybackSession_cases (now : Int) (target : String) (userID : ParticipantIdentity)
    (quality : String) (service : VODService) :
    ((startPlaybackSession now target userID quality service).result.isOk = false ∧
      (startPlaybackSession now target userID quality service).service = service) ∨
    ∃ old, service.recordings.lookup target = some old ∧
      (startPlaybackSession now target userID quality service).result.isOk = true ∧
      (startPlaybackSession now target userID quality service).service.recordings =
        service.recordings.insert target { old with viewCount := old.viewCount + 1 } := by
  unfold startPlaybackSession
  split
  · exact .inl ⟨rfl, rfl⟩
  · split_ifs
    · exact .inl ⟨rfl, rfl⟩
    · exact .inl ⟨rfl, rfl⟩
    · exact .inr ⟨_, ‹_›, rfl, rfl⟩

theorem startPlaybackSession_viewCount {now : Int} {target : String}
    {userID : ParticipantIdentity} {quality : String}
    (found : (startPlaybackSession now target userID quality service).service.recordings.lookup
      recordingID = some recording) :
    ∃ old, service.recordings.lookup recordingID = some old ∧
      recording.viewCount = old.viewCount +
        if target = recordingID ∧
            (startPlaybackSession now target userID quality service).result.isOk then 1
        else 0 := by
  rcases startPlaybackSession_cases now target userID quality service with
    ⟨refused, unchanged⟩ | ⟨old, present, accepted, inserted⟩
  · rw [unchanged] at found
    exact ⟨recording, found, by simp [refused]⟩
  · rw [inserted] at found
    by_cases same : target = recordingID
    · subst same
      rw [AList.lookup_insert] at found
      cases found
      exact ⟨old, present, by simp [accepted]⟩
    · rw [AList.lookup_insert_ne (Ne.symm same)] at found
      exact ⟨recording, found, by simp [same]⟩

/-- A step changes a stored recording's view count only by a session it opens
on it, unless it is a `StartRecording` that creates the ID anew. -/
theorem vodStep_viewCount {now : Int} {event : VODEvent}
    (fresh : ∀ roomName streamerID streamerName title,
      event = .start roomName streamerID streamerName title → recordingIDAt now streamerID ≠ recordingID)
    (found : (vodStep system now event).service.recordings.lookup recordingID = some recording) :
    ∃ old, system.service.recordings.lookup recordingID = some old ∧
      recording.viewCount = old.viewCount + playbackStartOn recordingID system now event := by
  have kept : ∀ old, system.service.recordings.lookup recordingID = some old →
      recording.viewCount = old.viewCount →
      ∃ old, system.service.recordings.lookup recordingID = some old ∧
        recording.viewCount = old.viewCount + ((0 : Nat) : Int) := fun old present same =>
    ⟨old, present, by omega⟩
  cases event with
  | start roomName streamerID =>
      simp only [vodStep, startRecording_lookup, if_neg (fresh _ _ _ _ rfl).symm] at found
      exact kept _ found rfl
  | stop =>
      obtain ⟨old, present, rfl | ⟨-, -, rfl⟩⟩ := rewriteRecording_lookup_eq_some found <;>
        exact kept _ present rfl
  | process job =>
      simp only [vodStep] at found
      split_ifs at found
      · obtain ⟨old, present, rfl | ⟨_, rfl⟩⟩ := processStep_lookup_eq_some found <;>
          exact kept _ present rfl
      · exact kept _ found rfl
  | publish =>
      obtain ⟨old, present, rfl | ⟨-, -, rfl⟩⟩ := rewriteRecording_lookup_eq_some found <;>
        exact kept _ present rfl
  | startPlayback =>
      obtain ⟨old, present, counted⟩ := startPlaybackSession_viewCount found
      exact ⟨old, present, by rw [counted, playbackStartOn]; split_ifs <;> rfl⟩
  | updatePlayback =>
      simp only [vodStep, updatePlaybackSession_recordings] at found
      exact kept _ found rfl
  | endPlayback =>
      obtain ⟨old, present, _, rfl⟩ := endPlaybackSession_lookup_eq_some found
      exact kept _ present rfl
  | updateMetadata =>
      obtain ⟨old, present, rfl | ⟨-, -, rfl⟩⟩ := rewriteRecording_lookup_eq_some found <;>
        exact kept _ present rfl
  | delete => exact kept _ (deleteRecording_lookup_eq_some found) rfl
  | cleanupRecordings => exact kept _ (RecordingMap.lookup_keepIf_of_eq_some found) rfl
  | cleanupSessions => exact kept _ found rfl

/-- Over a run that does not create `recordingID` anew, a recording's view
count grows by exactly the sessions the run opens on it. -/
theorem vodRun_viewCount :
    ∀ (events : List (Int × VODEvent)) {system : VODSystem} {recording : VODRecording},
      (∀ now roomName streamerID streamerName title,
        (now, VODEvent.start roomName streamerID streamerName title) ∈ events →
          recordingIDAt now streamerID ≠ recordingID) →
      (vodRun system events).service.recordings.lookup recordingID = some recording →
      ∃ old, system.service.recordings.lookup recordingID = some old ∧
        recording.viewCount = old.viewCount + acceptedPlaybackStarts recordingID system events
  | [], _, recording, _, found => ⟨recording, found, by rw [acceptedPlaybackStarts]; omega⟩
  | (now, event) :: rest, _, _, fresh, found => by
      obtain ⟨middle, present, later⟩ := vodRun_viewCount rest
        (fun now _ _ _ _ member => fresh now _ _ _ _ (.tail _ member)) found
      obtain ⟨old, before, step⟩ := vodStep_viewCount
        (fun _ _ _ _ started => fresh now _ _ _ _ (by rw [← started]; exact .head _)) present
      refine ⟨old, before, ?_⟩
      rw [later, step, acceptedPlaybackStarts]
      omega


/-- The correction of the mean: over every run from a state holding a
recording that does not create its ID anew, the view count grows by exactly the
sessions opened on the recording, ended or not, and `EndPlaybackSession` of a
session on it drops the session and folds its watch time into the average with
that view count as the weight. -/
theorem average_weighted_by_started_views (events : List (Int × VODEvent))
    {system : VODSystem} {recordingID : String} {created recording : VODRecording}
    (fresh : ∀ now roomName streamerID streamerName title,
      (now, VODEvent.start roomName streamerID streamerName title) ∈ events →
        recordingIDAt now streamerID ≠ recordingID)
    (present : system.service.recordings.lookup recordingID = some created)
    (found : (vodRun system events).service.recordings.lookup recordingID = some recording) :
    recording.viewCount = created.viewCount + acceptedPlaybackStarts recordingID system events ∧
      ∀ now sessionID session,
        (vodRun system events).service.playbackSessions.lookup sessionID = some session →
        session.recordingID = recordingID →
        (vodStep (vodRun system events) now (.endPlayback sessionID)).service.playbackSessions.lookup
            sessionID = none ∧
          (vodStep (vodRun system events) now (.endPlayback sessionID)).service.recordings.lookup
            recordingID =
            some (if 0 < recording.viewCount then
              { recording with
                averageViewDuration := nextAverageViewDuration recording.averageViewDuration
                  recording.viewCount session.watchDuration }
              else recording) := by
  obtain ⟨old, before, counted⟩ := vodRun_viewCount events fresh found
  refine ⟨by rw [counted, Option.some.inj (before.symm.trans present)], ?_⟩
  intro now sessionID session opened onRecording
  subst onRecording
  exact endPlaybackSession_ends opened found

/-- On the run of the two overlapping sessions, the view count is the two
sessions opened, the weight with which ending u1's folds in its watch time. -/
theorem overlapping_views_weight_average :
    ∃ created recording,
      (∀ now roomName streamerID streamerName title,
        (now, VODEvent.start roomName streamerID streamerName title) ∈ overlappingStarts →
          recordingIDAt now streamerID ≠ recordingIDAt 0 "alice") ∧
      publishedVOD.service.recordings.lookup (recordingIDAt 0 "alice") = some created ∧
      (vodRun publishedVOD overlappingStarts).service.recordings.lookup (recordingIDAt 0 "alice") =
        some recording ∧
      (recording.viewCount =
          created.viewCount + acceptedPlaybackStarts (recordingIDAt 0 "alice") publishedVOD overlappingStarts ∧
        ∀ now sessionID session,
          (vodRun publishedVOD overlappingStarts).service.playbackSessions.lookup sessionID =
            some session →
          session.recordingID = recordingIDAt 0 "alice" →
          (vodStep (vodRun publishedVOD overlappingStarts) now (.endPlayback sessionID)).service.playbackSessions.lookup
              sessionID = none ∧
            (vodStep (vodRun publishedVOD overlappingStarts) now (.endPlayback sessionID)).service.recordings.lookup
              (recordingIDAt 0 "alice") =
              some (if 0 < recording.viewCount then
                { recording with
                  averageViewDuration := nextAverageViewDuration recording.averageViewDuration
                    recording.viewCount session.watchDuration }
                else recording)) := by
  obtain ⟨created, present⟩ := Option.isSome_iff_exists.mp
    (show (publishedVOD.service.recordings.lookup (recordingIDAt 0 "alice")).isSome by decide)
  obtain ⟨recording, found⟩ := Option.isSome_iff_exists.mp
    (show ((vodRun publishedVOD overlappingStarts).service.recordings.lookup
      (recordingIDAt 0 "alice")).isSome by decide)
  have fresh : ∀ now roomName streamerID streamerName title,
      (now, VODEvent.start roomName streamerID streamerName title) ∈ overlappingStarts →
        recordingIDAt now streamerID ≠ recordingIDAt 0 "alice" := by
    simp [overlappingStarts]
  exact ⟨created, recording, fresh, present, found,
    average_weighted_by_started_views overlappingStarts fresh present found⟩

end Weight

/-! ## A run that leaves the `int64` range -/

/-- `count` starts of a recording by one viewer, one per clock reading from
`start` on. -/
def playbackStarts (recordingID : String) (userID : ParticipantIdentity) (start : Int) :
    Nat → List (Int × VODEvent)
  | 0 => []
  | count + 1 =>
      (start, .startPlayback recordingID userID "auto") :: playbackStarts recordingID userID (start + 1) count

section Starts

variable {recordingID : String} {userID : ParticipantIdentity}

theorem length_playbackStarts (start : Int) (count : Nat) :
    (playbackStarts recordingID userID start count).length = count := by
  induction count generalizing start with
  | zero => rfl
  | succ count inductionHypothesis => simp [playbackStarts, inductionHypothesis]

theorem playbackStarts_starts (start : Int) (count : Nat) :
    ∀ event ∈ playbackStarts recordingID userID start count,
      ∃ userID quality, event.2 = .startPlayback recordingID userID quality := by
  induction count generalizing start with
  | zero => intro _ absent; cases absent
  | succ count inductionHypothesis =>
      intro event member
      rcases List.mem_cons.mp member with rfl | later
      · exact ⟨userID, "auto", rfl⟩
      · exact inductionHypothesis _ event later

theorem clockFrom_playbackStarts {clock start : Int} (early : clock ≤ start) (count : Nat) :
    ClockFrom clock (playbackStarts recordingID userID start count) (start + count) := by
  induction count generalizing clock start with
  | zero => simpa [playbackStarts, ClockFrom] using early
  | succ count inductionHypothesis =>
      refine ⟨early, ?_⟩
      have later := @inductionHypothesis start (start + 1) (by omega)
      rwa [show start + 1 + (count : Int) = start + ((count + 1 : Nat) : Int) by omega] at later

end Starts

/-- Alice's recording after one session of an hour: started 4 nanoseconds past
the five seconds of processing, at the hour mark an hour later, and ended
there. -/
def hourWatchedVOD : VODSystem :=
  vodRun publishedVOD
    [(4 + 5 * second, .startPlayback (recordingIDAt 0 "alice") "u" "auto"),
      (4 + 3605 * second, .updatePlayback ("session-" ++ toString (4 + 5 * second) ++ "-u")
        (3600 * second)),
      (4 + 3605 * second, .endPlayback ("session-" ++ toString (4 + 5 * second) ++ "-u"))]

/-- 2562048 more views of the recording, started one nanosecond apart from a
nanosecond after that hour on; the last is viewer v's session 2562047
nanoseconds later. -/
def manyViewsVOD : VODSystem :=
  vodStep
    (vodRun hourWatchedVOD (playbackStarts (recordingIDAt 0 "alice") "v" (5 + 3605 * second) 2562047))
    (5 + 3605 * second + 2562047) (.startPlayback (recordingIDAt 0 "alice") "v" "auto")

/-- The last session ends at once, having watched nothing. -/
def wrappedVOD : VODSystem :=
  vodStep manyViewsVOD (5 + 3605 * second + 2562047)
    (.endPlayback ("session-" ++ toString (5 + 3605 * second + 2562047) ++ "-" ++ "v"))

theorem wrappedVOD_reachable : ∃ clock, VODReachable defaultVODConfig wrappedVOD clock := by
  obtain ⟨clock, early, reach⟩ := publishedVOD_reachable
  obtain ⟨clock, hour, reach⟩ :
      ∃ last, last ≤ 4 + 3605 * second ∧ VODReachable defaultVODConfig hourWatchedVOD last :=
    VODReachable.run _ reach (by simp only [second] at early ⊢; simp [ClockFrom, second]; omega)
  obtain ⟨clock, many, reach⟩ := VODReachable.run _ reach
    (clockFrom_playbackStarts (show clock ≤ 5 + 3605 * second by omega) 2562047)
  have opened := VODReachable.step (.startPlayback (recordingIDAt 0 "alice") "v" "auto") reach
    (show clock ≤ 5 + 3605 * second + 2562047 by omega)
  exact ⟨_, .step (.endPlayback ("session-" ++ toString (5 + 3605 * second + 2562047) ++ "-" ++ "v"))
    opened le_rfl⟩

/-- With an hour's average over one view and 2562049 views, `EndPlaybackSession`
multiplies the average by 2562048, past `2^63 - 1` nanoseconds: the product
wraps and the stored average becomes negative. -/
theorem average_view_duration_wraps_negative :
    (∃ clock, VODReachable defaultVODConfig wrappedVOD clock) ∧
    (manyViewsVOD.service.recordings.lookup (recordingIDAt 0 "alice")).map
      (fun recording => (recording.viewCount, recording.averageViewDuration)) =
        some (2562049, 3600 * second) ∧
    (wrappedVOD.service.recordings.lookup (recordingIDAt 0 "alice")).map
      VODRecording.averageViewDuration = some (-3599997999144) := by
  have watched : (hourWatchedVOD.service.recordings.lookup (recordingIDAt 0 "alice")).map
      (fun recording => (recording.status, recording.isPublic, recording.viewCount,
        recording.averageViewDuration)) = some (.ready, true, 1, 3600 * second) := by
    decide
  obtain ⟨recording, found, facts⟩ := Option.map_eq_some'.mp watched
  simp only [Prod.mk.injEq] at facts
  obtain ⟨ready, visible, viewed, average⟩ := facts
  have started := vodRun_startPlaybacks
    (playbackStarts (recordingIDAt 0 "alice") "v" (5 + 3605 * second) 2562047) _ _ found ready
    visible (playbackStarts_starts _ _)
  rw [length_playbackStarts] at started
  have last := startPlaybackSession_of_playable started ready visible (5 + 3605 * second + 2562047)
    "v" "auto"
  have ended := endPlaybackSession_average last.2 last.1 (by simp only [viewed]; omega)
  dsimp only at ended
  refine ⟨wrappedVOD_reachable, ?_, ?_⟩
  · rw [manyViewsVOD, vodStep_startPlayback_service, last.1]
    simp only [Option.map_some', viewed, average]
    decide
  · rw [wrappedVOD, vodStep_endPlayback_service, manyViewsVOD, vodStep_startPlayback_service, ended]
    simp only [Option.map_some', viewed, average]
    decide

end LiveStreaming.Vod
