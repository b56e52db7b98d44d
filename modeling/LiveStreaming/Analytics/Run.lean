import LiveStreaming.Analytics.Viewers

/-!
# Runs of the analytics service

A run applies the service's methods in any order, each at its own clock
reading, together with the ticks of the update loops. `StopStreamAnalytics`
stamps a room's record with its end time and leaves it stored: only
`CleanupOldAnalytics`, once the end lies past the retention period, removes it.
So a stopped room behaves as a running one: the event methods keep succeeding
on it and `StartStreamAnalytics` keeps refusing it (`stopped_room_stays_open`).

The session map of a room holds one session per viewer, and a join replaces
the viewer's earlier one (`recordViewerJoin_replaces_session`); the metrics are
taken over that map, so a viewer's closed session and the messages sent in it
leave the metrics when the viewer joins again.
-/

namespace LiveStreaming.Analytics

/-- One call on the service, or one tick of a room's update loop. -/
inductive AnalyticsEvent where
  | start (roomName : RoomName) (streamerID : ParticipantIdentity)
  | stop (roomName : RoomName)
  | viewerJoin (roomName : RoomName) (viewerID : ParticipantIdentity)
      (platform device country region : String)
  | viewerLeave (roomName : RoomName) (viewerID : ParticipantIdentity)
  | chatMessage (roomName : RoomName) (senderID : ParticipantIdentity)
  | reaction (roomName : RoomName) (senderID : ParticipantIdentity) (reactionType : ReactionType)
  | bitrateUpdate (roomName : RoomName) (bitrate : Int)
  | read (roomName : RoomName)
  | tick (roomName : RoomName)
  | cleanup

/-- Whether the event is the retention sweep. -/
def AnalyticsEvent.sweeps : AnalyticsEvent → Bool
  | .cleanup => true
  | _ => false

/-- One event at clock reading `now`. A tick of a loop whose room is gone
changes nothing: the loop returns. -/
def analyticsStep (service : AnalyticsService) (now : Int) : AnalyticsEvent → AnalyticsService
  | .start roomName streamerID => (startStreamAnalytics now roomName streamerID service).service
  | .stop roomName => (stopStreamAnalytics now roomName service).service
  | .viewerJoin roomName viewerID platform device country region =>
      (recordViewerJoin now roomName viewerID platform device country region service).service
  | .viewerLeave roomName viewerID => (recordViewerLeave now roomName viewerID service).service
  | .chatMessage roomName senderID => (recordChatMessage roomName senderID service).service
  | .reaction roomName senderID reactionType =>
      (recordReaction roomName senderID reactionType service).service
  | .bitrateUpdate roomName bitrate => (recordBitrateUpdate roomName bitrate service).service
  | .read roomName => (getStreamAnalytics now roomName service).service
  | .tick roomName => (tickAnalytics now roomName service).getD service
  | .cleanup => (cleanupOldAnalytics now service).2

/-- A run of timed events. -/
def analyticsRun : AnalyticsService → List (Int × AnalyticsEvent) → AnalyticsService
  | service, [] => service
  | service, (now, event) :: rest => analyticsRun (analyticsStep service now event) rest

/-! ## Only the sweep removes a record -/

section Records

variable {service : AnalyticsService} {roomName : RoomName}

theorem mem_store_of_mem {other : RoomName} {analytics : StreamAnalytics}
    (stored : roomName ∈ service.streamAnalytics) :
    roomName ∈ (service.store other analytics).streamAnalytics :=
  (AList.mem_insert _).mpr (.inr stored)

/-- Every event but the sweep leaves the records as they are or stores one. -/
theorem analyticsStep_streamAnalytics (now : Int) (event : AnalyticsEvent)
    (noSweep : event.sweeps = false) :
    (analyticsStep service now event).streamAnalytics = service.streamAnalytics ∨
      ∃ other analytics, (analyticsStep service now event).streamAnalytics =
        (service.store other analytics).streamAnalytics := by
  cases event with
  | cleanup => cases noSweep
  | tick roomName =>
      simp only [analyticsStep, tickAnalytics]
      cases service.streamAnalytics.lookup roomName
      · exact .inl rfl
      · exact .inr ⟨_, _, rfl⟩
  | start | stop | viewerJoin | chatMessage | reaction | bitrateUpdate | read =>
      simp only [analyticsStep, startStreamAnalytics, stopStreamAnalytics, recordViewerJoin,
        recordChatMessage, recordReaction, recordBitrateUpdate, getStreamAnalytics]
      split
      · exact .inl rfl
      · exact .inr ⟨_, _, rfl⟩
  | viewerLeave roomName viewerID =>
      simp only [analyticsStep, recordViewerLeave]
      split
      · exact .inl rfl
      · split
        · exact .inl rfl
        · split
          · exact .inl rfl
          · exact .inr ⟨_, _, rfl⟩

theorem analyticsStep_keeps_record (now : Int) (event : AnalyticsEvent)
    (noSweep : event.sweeps = false) (stored : roomName ∈ service.streamAnalytics) :
    roomName ∈ (analyticsStep service now event).streamAnalytics := by
  rcases analyticsStep_streamAnalytics now event noSweep with same | ⟨_, _, stores⟩
  · rwa [same]
  · rw [stores]; exact mem_store_of_mem stored

/-- Over every run without a sweep, a stored record stays stored. -/
theorem analyticsRun_keeps_record :
    ∀ (events : List (Int × AnalyticsEvent)) (service : AnalyticsService),
      (∀ event ∈ events, event.2.sweeps = false) → roomName ∈ service.streamAnalytics →
      roomName ∈ (analyticsRun service events).streamAnalytics
  | [], _, _, stored => stored
  | (now, event) :: rest, _, noSweep, stored =>
      analyticsRun_keeps_record rest _ (fun later member => noSweep later (.tail _ member))
        (analyticsStep_keeps_record now event (noSweep _ (.head _)) stored)

theorem stopStreamAnalytics_keeps_record {now : Int} (stopped : (stopStreamAnalytics now roomName
      service).result = .ok ()) :
    roomName ∈ (stopStreamAnalytics now roomName service).service.streamAnalytics := by
  unfold stopStreamAnalytics at stopped ⊢
  split
  · rename_i absent; rw [absent] at stopped; cases stopped
  · exact (AList.mem_insert _).mpr (.inl rfl)

end Records

/-! ## What a stored record accepts -/

section Stored

variable {service : AnalyticsService} {roomName : RoomName}

/-- While a room has a record, `StartStreamAnalytics` refuses it, and
`RecordViewerJoin`, `RecordChatMessage`, `RecordReaction` and
`RecordBitrateUpdate` succeed on it. -/
theorem stored_room_refuses_start (stored : roomName ∈ service.streamAnalytics) (now : Int)
    (streamerID viewerID senderID : ParticipantIdentity) (platform device country region : String)
    (reactionType : ReactionType) (bitrate : Int) :
    (startStreamAnalytics now roomName streamerID service).result = .error .analyticsAlreadyStarted ∧
    (recordViewerJoin now roomName viewerID platform device country region service).result = .ok () ∧
    (recordChatMessage roomName senderID service).result = .ok () ∧
    (recordReaction roomName senderID reactionType service).result = .ok () ∧
    (recordBitrateUpdate roomName bitrate service).result = .ok () := by
  obtain ⟨analytics, found⟩ := Option.isSome_iff_exists.mp (AList.lookup_isSome.mpr stored)
  simp only [startStreamAnalytics, recordViewerJoin, recordChatMessage, recordReaction,
    recordBitrateUpdate, found, and_self]

/-- Once `StopStreamAnalytics` has succeeded on a room, over every later run
without a sweep the room's event methods keep succeeding and
`StartStreamAnalytics` keeps refusing it. -/
theorem stopped_room_stays_open {now : Int}
    (stopped : (stopStreamAnalytics now roomName service).result = .ok ())
    (events : List (Int × AnalyticsEvent)) (noSweep : ∀ event ∈ events, event.2.sweeps = false)
    (later : Int) (streamerID viewerID senderID : ParticipantIdentity)
    (platform device country region : String) (reactionType : ReactionType) (bitrate : Int) :
    (startStreamAnalytics later roomName streamerID
      (analyticsRun (stopStreamAnalytics now roomName service).service events)).result =
        .error .analyticsAlreadyStarted ∧
    (recordViewerJoin later roomName viewerID platform device country region
      (analyticsRun (stopStreamAnalytics now roomName service).service events)).result = .ok () ∧
    (recordChatMessage roomName senderID
      (analyticsRun (stopStreamAnalytics now roomName service).service events)).result = .ok () ∧
    (recordReaction roomName senderID reactionType
      (analyticsRun (stopStreamAnalytics now roomName service).service events)).result = .ok () ∧
    (recordBitrateUpdate roomName bitrate
      (analyticsRun (stopStreamAnalytics now roomName service).service events)).result = .ok () :=
  stored_room_refuses_start
    (analyticsRun_keeps_record events _ noSweep (stopStreamAnalytics_keeps_record stopped))
    later streamerID viewerID senderID platform device country region reactionType bitrate

end Stored

/-- The analytics of `r1`, started at 0 by `streamer` and stopped at 1. -/
def stoppedAnalytics : AnalyticsService :=
  (stopStreamAnalytics 1 "r1"
    (startStreamAnalytics 0 "r1" "streamer" (AnalyticsService.new defaultAnalyticsConfig)).service).service

/-- After start at 0 and stop at 1, alice's join at 2 succeeds and counts her
as a viewer of the stopped stream, and a restart at 3 is refused. -/
theorem stopped_stream_absorbs_join_and_refuses_restart :
    (stopStreamAnalytics 1 "r1"
      (startStreamAnalytics 0 "r1" "streamer" (AnalyticsService.new defaultAnalyticsConfig)).service).result =
        .ok () ∧
    (recordViewerJoin 2 "r1" "alice" "" "" "" "" stoppedAnalytics).result = .ok () ∧
    viewerCounters "r1" (recordViewerJoin 2 "r1" "alice" "" "" "" "" stoppedAnalytics).service =
      some (1, 1, 1) ∧
    (startStreamAnalytics 3 "r1" "streamer"
      (recordViewerJoin 2 "r1" "alice" "" "" "" "" stoppedAnalytics).service).result =
        .error .analyticsAlreadyStarted :=
  ⟨rfl, rfl, by decide, rfl⟩

/-! ## A join replaces the viewer's session -/

/-- The session `RecordViewerJoin` opens for `viewerID` at `now`. -/
def openedSession (now : Int) (roomName : RoomName) (viewerID : ParticipantIdentity)
    (platform device country region : String) : ViewerSession where
  viewerID := viewerID
  roomName := roomName
  joinedAt := now
  leftAt := none
  watchDuration := 0
  messagesSent := 0
  reactionsSent := 0
  platform := platform
  device := device
  country := country
  region := region
  qualityLevel := "auto"

/-- Whatever the metrics select from a room's sessions with a test the opened
session fails (closed, or with a message sent), a join selects from the room's
sessions with the viewer's own erased: the viewer's earlier session leaves the
metrics. -/
theorem recordViewerJoin_replaces_session {service : AnalyticsService} {roomName : RoomName}
    {analytics : StreamAnalytics} (found : service.streamAnalytics.lookup roomName = some analytics)
    (now : Int) (viewerID : ParticipantIdentity) (platform device country region : String)
    (selects : ViewerSession → Bool)
    (fresh : selects (openedSession now roomName viewerID platform device country region) = false) :
    (((recordViewerJoin now roomName viewerID platform device country region
        service).service.viewerSessions roomName).getD ∅).entries.filter (selects ·.2) =
      (((service.viewerSessions roomName).getD ∅).entries.kerase viewerID).filter (selects ·.2) := by
  simp only [recordViewerJoin, found, Function.update_same, Option.getD_some, AList.insert_entries]
  exact List.filter_cons_of_neg (by rw [Bool.not_eq_true]; exact fresh)

/-- A room started at 0 on which alice joins at 1, chats at 2 and leaves at 11
(a session of 10), joins again at 12, and bob joins at 13 and leaves at 33 (a
session of 20). -/
def rejoinedAnalytics : AnalyticsService :=
  analyticsRun
    (startStreamAnalytics 0 "r1" "streamer" (AnalyticsService.new defaultAnalyticsConfig)).service
    [(1, .viewerJoin "r1" "alice" "" "" "" ""), (2, .chatMessage "r1" "alice"),
      (11, .viewerLeave "r1" "alice"), (12, .viewerJoin "r1" "alice" "" "" "" ""),
      (13, .viewerJoin "r1" "bob" "" "" "" ""), (33, .viewerLeave "r1" "bob")]

/-- `GetStreamAnalytics` at 34 reports an average watch time of 20, not the
mean 15 of the two closed sessions, and no messager, though alice sent a
message: her second join replaced her first session. -/
theorem rejoin_drops_closed_session_from_metrics :
    ((getStreamAnalytics 34 "r1" rejoinedAnalytics).result.toOption.map
      fun analytics => (analytics.averageWatchTime, analytics.uniqueMessagers)) = some (20, 0) := by
  decide

end LiveStreaming.Analytics
