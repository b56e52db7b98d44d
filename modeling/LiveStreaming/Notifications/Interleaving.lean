import LiveStreaming.Notifications.Followers

/-!
# Calls that interleave

The service's lock is held only for its critical sections. `SendNotification`
reads the clock twice, for the ID and then for the creation time, before it
takes the lock in `addNotification`. The notify loops take a snapshot of the
followers under the read lock. Then, for each follower in turn, they read the
follower's subscriptions under the read lock, read the clock twice without it,
and call `addNotification`. Other calls run in every gap.

A run here starts calls and advances any call in flight by one section: one
clock reading or one critical section (`NotificationAction`). The handler
goroutines that `sendNotification` starts change nothing of the service, and the
run does not keep them. The methods with a single critical section run as one
step, as they do in `notificationStep`.

A run that carries each call to its end before the next one starts is a run of
`notificationStep`, with every reading of a call at the call's clock
reading (`notificationStep_interleaved`). The sequential model is therefore a
special case of this one, and what holds over the interleaved runs holds over
the sequential ones too.
-/

namespace LiveStreaming.Notifications

/-- A notification built outside the lock. Its ID and its creation time are
two clock readings, taken in that order. It is `drafted` before the first,
`identified` between the two, and `built` after both, waiting for
`addNotification`. -/
inductive Outgoing where
  | drafted (make : Int → Int → Notification)
  | identified (make : Int → Notification)
  | built (notification : Notification)

/-- A call of the service in flight. -/
inductive NotificationCall where
  /-- `SendNotification` to `userID`. -/
  | send (userID : ParticipantIdentity) (outgoing : Outgoing)
  /-- A notify loop of `streamerID` under the switch `enabled`, where `make`
  builds a follower's notification from the two readings. `followers` are the
  followers of the snapshot still to visit, and `current` is the follower whose
  notification is being built. -/
  | notify (enabled : NotificationSubscription → Bool)
      (make : Int → Int → ParticipantIdentity → Notification) (streamerID : ParticipantIdentity)
      (followers : List ParticipantIdentity) (current : Option (ParticipantIdentity × Outgoing))

/-- The service with the calls in flight. -/
structure NotificationSystem where
  service : NotificationService
  calls : List NotificationCall

/-- A call's first section, or the next section of the call in flight at
position `index`. -/
inductive NotificationAction where
  | call (event : NotificationEvent)
  | advance (index : Nat)

/-- The first section of a call at clock reading `now`: the service after it,
and the call if it has more to do. `SendNotification` has done nothing yet.
The notify methods read the followers. -/
def beginCall (service : NotificationService) (now : Int) :
    NotificationEvent → NotificationService × Option NotificationCall
  | .notifyStreamStarted streamerID streamerName roomName streamTitle =>
      (service, some (.notify (·.enableStreamStart)
        (streamStartedNotificationAt · · streamerID streamerName roomName streamTitle) streamerID
        (service.streamerFollowers streamerID) none))
  | .notifyStreamEnded streamerID streamerName duration viewCount =>
      (service, some (.notify (·.enableStreamEnd)
        (streamEndedNotificationAt · · streamerName duration viewCount) streamerID
        (service.streamerFollowers streamerID) none))
  | .sendNotification userID notificationType title body priority actionURL data =>
      (service, some (.send userID (.drafted fun idAt createdAt =>
        customNotificationAt idAt createdAt userID notificationType title body priority actionURL data)))
  | event => (notificationStep service now event, none)

/-- The next section of a call in flight at clock reading `now`: the service
after it, and the call if it has more to do. A panic of `addNotification`
ends the call and leaves the service as it was. -/
def advanceCall (service : NotificationService) (now : Int) :
    NotificationCall → NotificationService × Option NotificationCall
  | .send userID (.drafted make) => (service, some (.send userID (.identified (make now))))
  | .send userID (.identified make) => (service, some (.send userID (.built (make now))))
  | .send userID (.built notification) =>
      match addNotification userID notification service with
      | .error _ => (service, none)
      | .ok added => (added, none)
  | .notify enabled make streamerID followers current =>
      match current, followers with
      | some (followerID, .drafted build), _ =>
          (service, some (.notify enabled make streamerID followers
            (some (followerID, .identified (build now)))))
      | some (followerID, .identified build), _ =>
          (service, some (.notify enabled make streamerID followers
            (some (followerID, .built (build now)))))
      | some (followerID, .built notification), _ =>
          match addNotification followerID notification service with
          | .error _ => (service, none)
          | .ok added => (added, some (.notify enabled make streamerID followers none))
      | none, [] => (service, none)
      | none, followerID :: rest =>
          if shouldNotify enabled streamerID (service.subscriptions followerID) then
            (service, some (.notify enabled make streamerID rest
              (some (followerID, .drafted fun idAt createdAt => make idAt createdAt followerID))))
          else (service, some (.notify enabled make streamerID rest none))

/-- One action at clock reading `now`. Advancing a position with no call
changes nothing. -/
def notificationSystemStep (system : NotificationSystem) (now : Int) :
    NotificationAction → NotificationSystem
  | .call event =>
      let (service, call) := beginCall system.service now event
      ⟨service, system.calls ++ call.toList⟩
  | .advance index =>
      match system.calls[index]? with
      | none => system
      | some call =>
          let (service, next) := advanceCall system.service now call
          ⟨service, match next with
            | some call => system.calls.set index call
            | none => system.calls.eraseIdx index⟩

/-- The notification a call's next section stores: the one it passes to
`addNotification`, when that is its next section and does not panic. -/
def NotificationCall.stores (service : NotificationService) : NotificationCall → List Notification
  | .send userID (.built notification) =>
      if (addNotification userID notification service).isOk then [notification] else []
  | .notify _ _ _ _ (some (followerID, .built notification)) =>
      if (addNotification followerID notification service).isOk then [notification] else []
  | _ => []

/-- The notification an action stores. -/
def storedBy (system : NotificationSystem) : NotificationAction → List Notification
  | .call _ => []
  | .advance index => (system.calls[index]?.map (NotificationCall.stores system.service)).getD []

/-- The systems the runs from a new service reach, with the notifications
stored along the run, in the order their `addNotification` ran. -/
inductive NotificationSystemReachable (config : Option NotificationConfig) :
    NotificationSystem → Int → List Notification → Prop
  | new (clock : Int) : NotificationSystemReachable config ⟨NotificationService.new config, []⟩ clock []
  | step {system : NotificationSystem} {clock : Int} {log : List Notification} (now : Int)
      (action : NotificationAction) :
      NotificationSystemReachable config system clock log → clock ≤ now →
      NotificationSystemReachable config (notificationSystemStep system now action) now
        (log ++ storedBy system action)

/-- A run of timed actions. -/
def notificationSystemRun :
    NotificationSystem → List (Int × NotificationAction) → NotificationSystem
  | system, [] => system
  | system, (now, action) :: rest => notificationSystemRun (notificationSystemStep system now action) rest

/-- A run whose readings never decrease from the clock of a reachable system
ends in a reachable system. -/
theorem NotificationSystemReachable.run {config : Option NotificationConfig} :
    ∀ (actions : List (Int × NotificationAction)) {system : NotificationSystem}
      {clock finish : Int} {log : List Notification},
      NotificationSystemReachable config system clock log → ClockFrom clock actions finish →
      ∃ last, last ≤ finish ∧ ∃ stored,
        NotificationSystemReachable config (notificationSystemRun system actions) last stored
  | [], _, clock, _, log, reach, ordered => ⟨clock, ordered, log, reach⟩
  | (now, action) :: rest, _, _, _, _, reach, ⟨first, ordered⟩ =>
      NotificationSystemReachable.run rest (.step now action reach first) ordered

/-! ## A call run alone -/

/-- A run of calls from a service, each to its end before the next. -/
def notificationRun : NotificationService → List (Int × NotificationEvent) → NotificationService
  | service, [] => service
  | service, (now, event) :: rest => notificationRun (notificationStep service now event) rest

section Alone

variable {service : NotificationService} {now : Int}

/-- Actions at one clock reading. -/
def atClock (now : Int) (actions : List NotificationAction) : List (Int × NotificationAction) :=
  actions.map fun action => (now, action)

theorem clockFrom_atClock (now : Int) :
    ∀ actions : List NotificationAction, ClockFrom now (atClock now actions) now
  | [] => le_rfl
  | _ :: rest => ⟨le_rfl, clockFrom_atClock now rest⟩

theorem notificationSystemRun_atClock_append (system : NotificationSystem)
    (first second : List NotificationAction) :
    notificationSystemRun system (atClock now (first ++ second)) =
      notificationSystemRun (notificationSystemRun system (atClock now first)) (atClock now second) := by
  induction first generalizing system with
  | nil => rfl
  | cons action rest inductionHypothesis => exact inductionHypothesis _

/-- Advancing the only call in flight. -/
theorem notificationSystemStep_advance_alone (call : NotificationCall) :
    notificationSystemStep ⟨service, [call]⟩ now (.advance 0) =
      ⟨(advanceCall service now call).1, (advanceCall service now call).2.toList⟩ := by
  simp only [notificationSystemStep, List.getElem?_cons_zero]
  cases (advanceCall service now call).2 <;> rfl

/-- A notify loop run alone stores what `notifyFollowers` stores, with both
readings of each notification at `now`. -/
theorem notifyFollowers_interleaved (enabled : NotificationSubscription → Bool)
    (make : Int → Int → ParticipantIdentity → Notification) (send : Bool)
    (streamerID : ParticipantIdentity) :
    ∀ (followers : List ParticipantIdentity) (service : NotificationService),
      ∃ actions, notificationSystemRun ⟨service, [.notify enabled make streamerID followers none]⟩
          (atClock now actions) =
        ⟨(notifyFollowers enabled (make now now) send streamerID followers service).service, []⟩
  | [], service => ⟨[.advance 0], rfl⟩
  | followerID :: rest, service => by
      by_cases notify : shouldNotify enabled streamerID (service.subscriptions followerID) = true
      · cases stored : addNotification followerID (make now now followerID) service with
        | error error =>
            refine ⟨[.advance 0, .advance 0, .advance 0, .advance 0], ?_⟩
            simp only [atClock, List.map, notificationSystemRun, notificationSystemStep_advance_alone,
              advanceCall, notify, if_true, stored, notifyFollowers, Option.toList_some]
            rfl
        | ok added =>
            obtain ⟨actions, loop⟩ := notifyFollowers_interleaved enabled make send streamerID rest added
            refine ⟨[.advance 0, .advance 0, .advance 0, .advance 0] ++ actions, ?_⟩
            rw [notificationSystemRun_atClock_append]
            simp only [atClock, List.map, notificationSystemRun, notificationSystemStep_advance_alone,
              advanceCall, notify, if_true, stored, Option.toList_some]
            rw [notifyFollowers, if_pos notify, stored]
            exact loop
      · obtain ⟨actions, loop⟩ := notifyFollowers_interleaved enabled make send streamerID rest service
        refine ⟨.advance 0 :: actions, ?_⟩
        simp only [atClock, List.map, notificationSystemRun, notificationSystemStep_advance_alone,
          advanceCall, notify, if_false, Bool.false_eq_true, Option.toList_some]
        rw [notifyFollowers, if_neg notify]
        exact loop

/-- A call run alone, with every reading at its clock reading `now`, does what
`notificationStep` does. -/
theorem notificationStep_interleaved (event : NotificationEvent) :
    ∃ actions, notificationSystemRun ⟨service, []⟩ (atClock now (.call event :: actions)) =
      ⟨notificationStep service now event, []⟩ := by
  cases event with
  | notifyStreamStarted streamerID streamerName roomName streamTitle =>
      exact notifyFollowers_interleaved _ _ true _ _ service
  | notifyStreamEnded streamerID streamerName duration viewCount =>
      exact notifyFollowers_interleaved _ _ false _ _ service
  | sendNotification userID notificationType title body priority actionURL data =>
      refine ⟨[.advance 0, .advance 0, .advance 0], ?_⟩
      show notificationSystemRun ⟨service, [.send userID (.drafted _)]⟩
        (atClock now [.advance 0, .advance 0, .advance 0]) = _
      simp only [atClock, List.map, notificationSystemRun, notificationSystemStep_advance_alone,
        advanceCall, Option.toList_some]
      simp only [notificationStep, sendCustomNotification]
      cases addNotification userID
        (customNotificationAt now now userID notificationType title body priority actionURL data)
        service <;> rfl
  | subscribe | unsubscribe | markAsRead | markAllAsRead | registerNotificationHandler
  | cleanupExpiredNotifications => exact ⟨[], rfl⟩

/-- Every run of calls from a new service, each carried to its end before the
next starts, at readings that never go back, is an interleaved run. -/
theorem NotificationSystemReachable.of_notificationRun {config : Option NotificationConfig} :
    ∀ (events : List (Int × NotificationEvent)) {service : NotificationService}
      {clock finish : Int} {log : List Notification},
      NotificationSystemReachable config ⟨service, []⟩ clock log → ClockFrom clock events finish →
      ∃ last, last ≤ finish ∧ ∃ stored,
        NotificationSystemReachable config ⟨notificationRun service events, []⟩ last stored
  | [], _, clock, _, log, reach, ordered => ⟨clock, ordered, log, reach⟩
  | (now, event) :: rest, service, _, _, _, reach, ⟨first, ordered⟩ => by
      obtain ⟨actions, alone⟩ := @notificationStep_interleaved service now event
      obtain ⟨last, early, stored, called⟩ :=
        NotificationSystemReachable.run (atClock now (.call event :: actions)) reach
          (show ClockFrom _ (atClock now (.call event :: actions)) now from ⟨first, clockFrom_atClock now _⟩)
      rw [alone] at called
      exact NotificationSystemReachable.of_notificationRun rest called
        (ordered.of_le early)

end Alone

end LiveStreaming.Notifications
