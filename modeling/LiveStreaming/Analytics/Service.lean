import LiveStreaming.Basic
import Mathlib.Data.List.AList
import Mathlib.Data.List.Dedup

/-!
# The analytics service

`AnalyticsService` keeps one `StreamAnalytics` per room and, per room, the
viewer sessions keyed by viewer. A viewer has at most one session record: a
second `RecordViewerJoin` replaces the first. The room map is iterated by
`CleanupOldAnalytics` and each session map by the metrics, so both are
association lists; the outer session map is only read by key. Every method
holds the service lock for its whole body and reads the clock once, at `now`.

`StartStreamAnalytics` under `EnableRealTime` starts `updateAnalyticsLoop`, a
goroutine that ticks every `UpdateInterval` until its context ends or its room
is gone. The method returns the loop it starts; a run decides when it ticks.

The rates and the retention are `float64`; the model computes them with
`Float`, which is IEEE binary64 as Go's is, and proves nothing about them.
Counters are Go `int`s, taken not to leave the 64-bit range; the watch-time
sum is a `time.Duration` and wraps.
-/

namespace LiveStreaming.Analytics

structure TimeSeriesDataPoint where
  timestamp : Int
  value : Float

/-- `StreamAnalytics`, with the fields the service writes. -/
structure StreamAnalytics where
  roomName : RoomName
  streamerID : ParticipantIdentity
  startTime : Int
  endTime : Option Int
  duration : Int
  totalViewers : Int
  peakViewers : Int
  currentViewers : Int
  uniqueViewers : Int
  viewerRetention : Float
  averageWatchTime : Int
  totalMessages : Int
  uniqueMessagers : Int
  messagesPerMinute : Float
  totalReactions : Int
  reactionsPerMinute : Float
  reactionBreakdown : ReactionType → Int
  peakBitrate : Int
  viewersByCountry : String → Int
  viewersByRegion : String → Int
  viewersByPlatform : String → Int
  viewersByDevice : String → Int
  viewerTimeline : List TimeSeriesDataPoint
  lastUpdated : Int

/-- `ViewerSession`, with the fields the service writes. -/
structure ViewerSession where
  viewerID : ParticipantIdentity
  roomName : RoomName
  joinedAt : Int
  leftAt : Option Int
  watchDuration : Int
  messagesSent : Int
  reactionsSent : Int
  platform : String
  device : String
  country : String
  region : String
  qualityLevel : String
  deriving DecidableEq, Repr

/-- One room's viewer sessions, each under its viewer. -/
abbrev SessionMap := AList fun _ : ParticipantIdentity => ViewerSession

/-- `AnalyticsConfig`, with the fields the service reads. -/
structure AnalyticsConfig where
  enableRealTime : Bool
  updateInterval : Int
  maxTimelinePoints : Int
  retentionDays : Int
  deriving DecidableEq, Repr

/-- The configuration `NewAnalyticsService` installs when it is given none. -/
def defaultAnalyticsConfig : AnalyticsConfig where
  enableRealTime := true
  updateInterval := 10 * second
  maxTimelinePoints := 1000
  retentionDays := 90

structure AnalyticsService where
  streamAnalytics : AList fun _ : RoomName => StreamAnalytics
  viewerSessions : RoomName → Option SessionMap
  config : AnalyticsConfig

def AnalyticsService.new (config : AnalyticsConfig) : AnalyticsService where
  streamAnalytics := ∅
  viewerSessions := fun _ => none
  config := config

/-- The errors of the analytics service, by their text. -/
inductive AnalyticsError where
  | analyticsAlreadyStarted
  | analyticsNotFoundForStream
  | analyticsNotFound
  | noSessionsFound
  | sessionNotFound
  deriving DecidableEq, Repr

/-- The error text. -/
def AnalyticsError.text : AnalyticsError → String
  | analyticsAlreadyStarted => "analytics already started for this stream"
  | analyticsNotFoundForStream => "analytics not found for this stream"
  | analyticsNotFound => "analytics not found"
  | noSessionsFound => "no sessions found"
  | sessionNotFound => "session not found"

/-- What an analytics method returns, with the service it leaves behind. -/
structure AnalyticsOutcome (α : Type) where
  result : Except AnalyticsError α
  service : AnalyticsService

/-- A running `updateAnalyticsLoop`: its room and the instant its ticker fires
next. -/
structure AnalyticsLoop where
  roomName : RoomName
  nextTick : Int
  deriving DecidableEq, Repr

/-- Rewrite every session of a room, keeping the viewers. -/
def SessionMap.mapSessions (change : ViewerSession → ViewerSession) (sessions : SessionMap) :
    SessionMap :=
  ⟨sessions.entries.map fun entry => ⟨entry.1, change entry.2⟩, by
    unfold List.NodupKeys List.keys
    rw [List.map_map]
    exact sessions.nodupKeys⟩

/-- The service with `analytics` stored for `roomName`. -/
def AnalyticsService.store (roomName : RoomName) (analytics : StreamAnalytics)
    (service : AnalyticsService) : AnalyticsService :=
  { service with streamAnalytics := service.streamAnalytics.insert roomName analytics }

/-! ## Metrics -/

def durationMinutes (duration : Int) : Float :=
  Float.ofInt (duration.tdiv minute) + Float.ofInt (duration.tmod minute) / 60e9

/-- `calculateMetrics` for a room whose sessions are `sessions`: the mean watch
time of closed sessions, the distinct viewers who sent chat, the rates over
an ended stream, and the retention. A room without a session map is left as it
is. -/
def calculateMetrics (now : Int) (sessions : Option SessionMap) (analytics : StreamAnalytics) :
    StreamAnalytics :=
  match sessions with
  | none => analytics
  | some sessions =>
      let closed := sessions.entries.filter fun entry => entry.2.leftAt.isSome
      let totalWatchTime := closed.foldl (fun total entry => wrapInt64 (total + entry.2.watchDuration)) 0
      let completedSessions : Int := closed.length
      let messagers := (sessions.entries.filter fun entry => 0 < entry.2.messagesSent).map
        fun entry => entry.2.viewerID
      let minutes := analytics.endTime.map fun endTime => durationMinutes (endTime - analytics.startTime)
      let rated := match minutes with
        | some minutes => decide (0 < minutes)
        | none => false
      { analytics with
        averageWatchTime := if 0 < completedSessions then totalWatchTime.tdiv completedSessions
          else analytics.averageWatchTime
        uniqueMessagers := messagers.dedup.length
        messagesPerMinute := if rated then Float.ofInt analytics.totalMessages / (minutes.getD 1)
          else analytics.messagesPerMinute
        reactionsPerMinute := if rated then Float.ofInt analytics.totalReactions / (minutes.getD 1)
          else analytics.reactionsPerMinute
        viewerRetention := if 0 < analytics.totalViewers then
            Float.ofInt completedSessions / Float.ofInt analytics.totalViewers * 100
          else analytics.viewerRetention
        lastUpdated := now }

/-! ## Stream lifecycle -/

/-- The record `StartStreamAnalytics` stores. -/
def newStreamAnalytics (now : Int) (roomName : RoomName) (streamerID : ParticipantIdentity) :
    StreamAnalytics where
  roomName := roomName
  streamerID := streamerID
  startTime := now
  endTime := none
  duration := 0
  totalViewers := 0
  peakViewers := 0
  currentViewers := 0
  uniqueViewers := 0
  viewerRetention := 0
  averageWatchTime := 0
  totalMessages := 0
  uniqueMessagers := 0
  messagesPerMinute := 0
  totalReactions := 0
  reactionsPerMinute := 0
  reactionBreakdown := fun _ => 0
  peakBitrate := 0
  viewersByCountry := fun _ => 0
  viewersByRegion := fun _ => 0
  viewersByPlatform := fun _ => 0
  viewersByDevice := fun _ => 0
  viewerTimeline := []
  lastUpdated := now

/-- `StartStreamAnalytics`: a fresh record and an empty session map for a room
without analytics, and the update loop it starts under `EnableRealTime`. -/
def startStreamAnalytics (now : Int) (roomName : RoomName) (streamerID : ParticipantIdentity)
    (service : AnalyticsService) : AnalyticsOutcome (StreamAnalytics × Option AnalyticsLoop) :=
  match service.streamAnalytics.lookup roomName with
  | some _ => ⟨.error .analyticsAlreadyStarted, service⟩
  | none =>
      let analytics := newStreamAnalytics now roomName streamerID
      let loop := if service.config.enableRealTime then
        some ⟨roomName, now + service.config.updateInterval⟩ else none
      ⟨.ok (analytics, loop),
        { service.store roomName analytics with
          viewerSessions := Function.update service.viewerSessions roomName (some ∅) }⟩

/-- How `StopStreamAnalytics` closes a session still open at `now`. -/
def closeSession (now : Int) (session : ViewerSession) : ViewerSession :=
  match session.leftAt with
  | some _ => session
  | none => { session with leftAt := some now, watchDuration := now - session.joinedAt }

/-- `StopStreamAnalytics`: stamp the end, close every open session, and take
the final metrics. The record and the sessions stay stored. -/
def stopStreamAnalytics (now : Int) (roomName : RoomName) (service : AnalyticsService) :
    AnalyticsOutcome Unit :=
  match service.streamAnalytics.lookup roomName with
  | none => ⟨.error .analyticsNotFoundForStream, service⟩
  | some analytics =>
      let sessions := (service.viewerSessions roomName).map (SessionMap.mapSessions (closeSession now))
      let ended := { analytics with endTime := some now, duration := now - analytics.startTime }
      ⟨.ok (),
        { service.store roomName (calculateMetrics now sessions ended) with
          viewerSessions := Function.update service.viewerSessions roomName sessions }⟩

/-! ## Viewer events -/

/-- One more for `key` in a distribution map, unless `key` is empty. -/
def tally (key : String) (counts : String → Int) : String → Int :=
  if key = "" then counts else Function.update counts key (counts key + 1)

/-- Whether a viewer counts as unique at a join: no session of the room is a
closed session of that viewer. -/
def isUniqueViewer (viewerID : ParticipantIdentity) (sessions : SessionMap) : Bool :=
  !sessions.entries.any fun entry => entry.2.viewerID = viewerID && entry.2.leftAt.isSome

/-- `RecordViewerJoin`: a new session replaces the viewer's old one, and the
counters and distributions move. -/
def recordViewerJoin (now : Int) (roomName : RoomName) (viewerID : ParticipantIdentity)
    (platform device country region : String) (service : AnalyticsService) :
    AnalyticsOutcome Unit :=
  match service.streamAnalytics.lookup roomName with
  | none => ⟨.error .analyticsNotFound, service⟩
  | some analytics =>
      let sessions := (service.viewerSessions roomName).getD ∅
      let session : ViewerSession :=
        { viewerID := viewerID, roomName := roomName, joinedAt := now, leftAt := none,
          watchDuration := 0, messagesSent := 0, reactionsSent := 0, platform := platform,
          device := device, country := country, region := region, qualityLevel := "auto" }
      let currentViewers := analytics.currentViewers + 1
      let joined :=
        { analytics with
          currentViewers := currentViewers
          totalViewers := analytics.totalViewers + 1
          uniqueViewers := if isUniqueViewer viewerID sessions then analytics.uniqueViewers + 1
            else analytics.uniqueViewers
          peakViewers := if analytics.peakViewers < currentViewers then currentViewers
            else analytics.peakViewers
          viewersByCountry := tally country analytics.viewersByCountry
          viewersByRegion := tally region analytics.viewersByRegion
          viewersByPlatform := tally platform analytics.viewersByPlatform
          viewersByDevice := tally device analytics.viewersByDevice }
      ⟨.ok (),
        { service.store roomName joined with
          viewerSessions := Function.update service.viewerSessions roomName
            (some (sessions.insert viewerID session)) }⟩

/-- `RecordViewerLeave`: close the viewer's session and count one viewer less,
not below zero. -/
def recordViewerLeave (now : Int) (roomName : RoomName) (viewerID : ParticipantIdentity)
    (service : AnalyticsService) : AnalyticsOutcome Unit :=
  match service.streamAnalytics.lookup roomName with
  | none => ⟨.error .analyticsNotFound, service⟩
  | some analytics =>
      match service.viewerSessions roomName with
      | none => ⟨.error .noSessionsFound, service⟩
      | some sessions =>
          match sessions.lookup viewerID with
          | none => ⟨.error .sessionNotFound, service⟩
          | some session =>
              ⟨.ok (),
                { service.store roomName
                    { analytics with currentViewers := max (analytics.currentViewers - 1) 0 } with
                  viewerSessions := Function.update service.viewerSessions roomName
                    (some (sessions.insert viewerID
                      { session with leftAt := some now, watchDuration := now - session.joinedAt })) }⟩

/-- The session counter that `RecordChatMessage` and `RecordReaction` raise for
the sender, when the sender has a session in the room. -/
def bumpSession (change : ViewerSession → ViewerSession) (roomName : RoomName)
    (senderID : ParticipantIdentity) (viewerSessions : RoomName → Option SessionMap) :
    RoomName → Option SessionMap :=
  match viewerSessions roomName with
  | some sessions =>
      match sessions.lookup senderID with
      | some session =>
          Function.update viewerSessions roomName (some (sessions.insert senderID (change session)))
      | none => viewerSessions
  | none => viewerSessions

def recordChatMessage (roomName : RoomName) (senderID : ParticipantIdentity)
    (service : AnalyticsService) : AnalyticsOutcome Unit :=
  match service.streamAnalytics.lookup roomName with
  | none => ⟨.error .analyticsNotFound, service⟩
  | some analytics =>
      ⟨.ok (),
        { service.store roomName { analytics with totalMessages := analytics.totalMessages + 1 } with
          viewerSessions := bumpSession
            (fun session => { session with messagesSent := session.messagesSent + 1 })
            roomName senderID service.viewerSessions }⟩

def recordReaction (roomName : RoomName) (senderID : ParticipantIdentity)
    (reactionType : ReactionType) (service : AnalyticsService) : AnalyticsOutcome Unit :=
  match service.streamAnalytics.lookup roomName with
  | none => ⟨.error .analyticsNotFound, service⟩
  | some analytics =>
      ⟨.ok (),
        { service.store roomName
            { analytics with
              totalReactions := analytics.totalReactions + 1
              reactionBreakdown := Function.update analytics.reactionBreakdown reactionType
                (analytics.reactionBreakdown reactionType + 1) } with
          viewerSessions := bumpSession
            (fun session => { session with reactionsSent := session.reactionsSent + 1 })
            roomName senderID service.viewerSessions }⟩

/-- `RecordBitrateUpdate`: keep the peak. -/
def recordBitrateUpdate (roomName : RoomName) (bitrate : Int) (service : AnalyticsService) :
    AnalyticsOutcome Unit :=
  match service.streamAnalytics.lookup roomName with
  | none => ⟨.error .analyticsNotFound, service⟩
  | some analytics =>
      ⟨.ok (), service.store roomName
        { analytics with peakBitrate := if analytics.peakBitrate < bitrate then bitrate
            else analytics.peakBitrate }⟩

/-! ## Reading, the update loop and the sweep -/

/-- `GetStreamAnalytics`: the record after `calculateMetrics`, which it also
stores. -/
def getStreamAnalytics (now : Int) (roomName : RoomName) (service : AnalyticsService) :
    AnalyticsOutcome StreamAnalytics :=
  match service.streamAnalytics.lookup roomName with
  | none => ⟨.error .analyticsNotFound, service⟩
  | some analytics =>
      let updated := calculateMetrics now (service.viewerSessions roomName) analytics
      ⟨.ok updated, service.store roomName updated⟩

def getViewerSessions (roomName : RoomName) (service : AnalyticsService) : List ViewerSession :=
  ((service.viewerSessions roomName).map fun sessions => sessions.entries.map (·.2)).getD []

/-- One tick of `updateAnalyticsLoop` at `now`: append a viewer-count point,
drop the oldest past `MaxTimelinePoints`, and refresh the metrics. The result
is `none` when the room is gone and the loop returns. -/
def tickAnalytics (now : Int) (roomName : RoomName) (service : AnalyticsService) :
    Option AnalyticsService :=
  (service.streamAnalytics.lookup roomName).map fun analytics =>
    let timeline := analytics.viewerTimeline ++
      [⟨now, Float.ofInt analytics.currentViewers⟩]
    let trimmed := if service.config.maxTimelinePoints < timeline.length then timeline.drop 1
      else timeline
    service.store roomName
      (calculateMetrics now (service.viewerSessions roomName)
        { analytics with viewerTimeline := trimmed })

/-- `CleanupOldAnalytics`: drop the rooms whose stream ended before the
retention cutoff, with their sessions; the result is the number dropped. -/
def cleanupOldAnalytics (now : Int) (service : AnalyticsService) : Nat × AnalyticsService :=
  let cutoff := now - service.config.retentionDays * day
  let old := fun (analytics : StreamAnalytics) => analytics.endTime.any fun endTime =>
    decide (endTime < cutoff)
  let dropped := service.streamAnalytics.entries.filter fun entry => old entry.2
  (dropped.length,
    { service with
      streamAnalytics := ⟨service.streamAnalytics.entries.filter (fun entry => !old entry.2),
        service.streamAnalytics.nodupKeys.sublist (List.filter_sublist _)⟩
      viewerSessions := fun roomName =>
        if dropped.any (fun entry => entry.1 = roomName) then none
        else service.viewerSessions roomName })

end LiveStreaming.Analytics
