import LiveStreaming.Analytics.Service

/-!
# Viewer counters

The viewer counters of a room move only under `RecordViewerJoin` and
`RecordViewerLeave`. `TotalViewers` counts joins and `PeakViewers` is the
running maximum of `CurrentViewers`, over every run. The other two counters
count events, not viewers: `CurrentViewers` is joins minus leaves (never below
zero), so a viewer who joins twice without leaving is counted twice; and a join
is unique unless the room's session map holds a closed session of the viewer,
which a second join before any leave replaces by an open one.
-/

namespace LiveStreaming.Analytics

/-- A call of the viewer counters' runs. -/
inductive ViewerEvent where
  | join (viewerID : ParticipantIdentity) (platform device country region : String)
  | leave (viewerID : ParticipantIdentity)

/-- Whether the event is a join. -/
def ViewerEvent.isJoin : ViewerEvent → Bool
  | .join .. => true
  | .leave _ => false

/-- One viewer event on `roomName` at clock reading `now`. -/
def viewerStep (roomName : RoomName) (service : AnalyticsService) (now : Int) :
    ViewerEvent → AnalyticsService
  | .join viewerID platform device country region =>
      (recordViewerJoin now roomName viewerID platform device country region service).service
  | .leave viewerID => (recordViewerLeave now roomName viewerID service).service

/-- A run of timed viewer events on `roomName`. -/
def viewerRun (roomName : RoomName) : AnalyticsService → List (Int × ViewerEvent) → AnalyticsService
  | service, [] => service
  | service, (now, event) :: rest => viewerRun roomName (viewerStep roomName service now event) rest

/-- The counters of `roomName`'s record: total, current, peak. -/
def viewerCounters (roomName : RoomName) (service : AnalyticsService) : Option (Int × Int × Int) :=
  (service.streamAnalytics.lookup roomName).map fun analytics =>
    (analytics.totalViewers, analytics.currentViewers, analytics.peakViewers)

/-- `CurrentViewers` of `roomName` after each event of a run. -/
def currentViewersTrace (roomName : RoomName) :
    AnalyticsService → List (Int × ViewerEvent) → List Int
  | _, [] => []
  | service, (now, event) :: rest =>
      let next := viewerStep roomName service now event
      (((next.streamAnalytics.lookup roomName).map (·.currentViewers)).getD 0) ::
        currentViewersTrace roomName next rest

/-! ## One event -/

section Step

variable {roomName : RoomName} {service : AnalyticsService} {analytics : StreamAnalytics}

@[simp]
theorem store_lookup_self (analytics : StreamAnalytics) :
    (service.store roomName analytics).streamAnalytics.lookup roomName = some analytics :=
  AList.lookup_insert _

/-- Where the room has a record, `RecordViewerJoin` succeeds and counts one
more joined, current and possibly peak viewer. -/
theorem viewerCounters_join (found : service.streamAnalytics.lookup roomName = some analytics)
    (now : Int) (viewerID : ParticipantIdentity) (platform device country region : String) :
    viewerCounters roomName
        (recordViewerJoin now roomName viewerID platform device country region service).service =
      some (analytics.totalViewers + 1, analytics.currentViewers + 1,
        max analytics.peakViewers (analytics.currentViewers + 1)) := by
  simp only [recordViewerJoin, found, viewerCounters, store_lookup_self, Option.map_some']
  congr 3
  split_ifs <;> omega

/-- `RecordViewerLeave` keeps the total and the peak, and counts one current
viewer less (not below zero) or, when it fails, none. -/
theorem viewerCounters_leave (found : service.streamAnalytics.lookup roomName = some analytics)
    (now : Int) (viewerID : ParticipantIdentity) :
    viewerCounters roomName (recordViewerLeave now roomName viewerID service).service =
        some (analytics.totalViewers, analytics.currentViewers, analytics.peakViewers) ∨
      viewerCounters roomName (recordViewerLeave now roomName viewerID service).service =
        some (analytics.totalViewers, max (analytics.currentViewers - 1) 0, analytics.peakViewers) := by
  unfold recordViewerLeave
  simp only [found]
  split
  · simp [viewerCounters, found]
  · split
    · simp [viewerCounters, found]
    · simp [viewerCounters]

end Step

/-! ## Whole runs -/

theorem viewerCounters_step {roomName : RoomName} {service : AnalyticsService}
    {total current peak : Int} (counters : viewerCounters roomName service = some (total, current, peak))
    (sane : 0 ≤ current ∧ current ≤ peak) (now : Int) (event : ViewerEvent) :
    ∃ current', viewerCounters roomName (viewerStep roomName service now event) =
      some (total + (if event.isJoin then 1 else 0), current', max peak current') ∧
      0 ≤ current' := by
  obtain ⟨analytics, found, same⟩ := Option.map_eq_some'.mp counters
  simp only [Prod.mk.injEq] at same
  obtain ⟨rfl, rfl, rfl⟩ := same
  cases event with
  | join =>
      refine ⟨_, viewerCounters_join found .., by omega⟩
  | leave viewerID =>
      rcases viewerCounters_leave found now viewerID with kept | left
      · exact ⟨_, by simpa [ViewerEvent.isJoin, max_eq_left sane.2] using kept, sane.1⟩
      · refine ⟨max (analytics.currentViewers - 1) 0, ?_, le_max_right _ _⟩
        simpa [ViewerEvent.isJoin, max_eq_left (show max (analytics.currentViewers - 1) 0 ≤
          analytics.peakViewers by omega)] using left

/-- Over every run of joins and leaves on a room that has a record with sane
counters, `TotalViewers` grows by the number of joins and `PeakViewers` ends
as the maximum of its start value and every `CurrentViewers` the run reached. -/
theorem viewerCounters_run (roomName : RoomName) :
    ∀ (events : List (Int × ViewerEvent)) (service : AnalyticsService) (total current peak : Int),
      viewerCounters roomName service = some (total, current, peak) →
      0 ≤ current → current ≤ peak →
      ∃ current', viewerCounters roomName (viewerRun roomName service events) =
        some (total + (events.filter (·.2.isJoin)).length, current',
          (currentViewersTrace roomName service events).foldl max peak)
  | [], _, _, current, _, counters, _, _ => ⟨current, by simpa [viewerRun] using counters⟩
  | (now, event) :: rest, service, total, current, peak, counters, nonnegative, belowPeak => by
      obtain ⟨current', stepped, nonnegative'⟩ :=
        viewerCounters_step counters ⟨nonnegative, belowPeak⟩ now event
      obtain ⟨final, ran⟩ := viewerCounters_run roomName rest _ _ _ _ stepped nonnegative'
        (le_max_right _ _)
      refine ⟨final, ?_⟩
      have traced : ((viewerStep roomName service now event).streamAnalytics.lookup roomName).map
          (·.currentViewers) = some current' := by
        obtain ⟨analytics, found, same⟩ := Option.map_eq_some'.mp stepped
        simp only [Prod.mk.injEq] at same
        rw [found]
        exact congrArg some same.2.1
      simp only [viewerRun, currentViewersTrace, traced, Option.getD_some, List.foldl_cons,
        List.filter_cons]
      rw [ran]
      cases event.isJoin <;> simp
      omega

/-- On a room whose analytics started at 0: alice,
bob and alice join, alice leaves, alice joins again. The counters end at
total 4, unique 3, current 3 and peak 3: alice's second join finds her first
session still open, so it counts as unique and as a second current viewer. -/
theorem rejoining_viewer_counted_twice :
    ((viewerRun "r1"
      (startStreamAnalytics 0 "r1" "streamer" (AnalyticsService.new defaultAnalyticsConfig)).service
      [(1, .join "alice" "" "" "" ""), (2, .join "bob" "" "" "" ""),
        (3, .join "alice" "" "" "" ""), (4, .leave "alice"),
        (5, .join "alice" "" "" "" "")]).streamAnalytics.lookup "r1").map
      (fun analytics => (analytics.totalViewers, analytics.uniqueViewers,
        analytics.currentViewers, analytics.peakViewers)) =
      some (4, 3, 3, 3) := by
  decide

end LiveStreaming.Analytics
