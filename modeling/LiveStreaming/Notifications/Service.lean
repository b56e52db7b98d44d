import LiveStreaming.Basic
import Mathlib.Data.List.AList

/-!
# The notification service

`NotificationService` keeps three maps:

* per user, the notifications addressed to the user, oldest first. The map is
  iterated by `CleanupExpiredNotifications`, and `MarkAsRead` tells an absent
  user from one whose list is empty, so it is an association list;
* per user, the user's subscriptions, in the order they were made;
* per streamer, the followers, in the order they subscribed.

The last two are only read by key, and there an absent key reads as the empty
slice, so they are functions. `Subscribe` and `Unsubscribe` update both of
them, each in its own way: the duplicate check reads only the subscriptions.

The methods that store a notification build it outside the lock, from two
clock readings: the one in its ID, then its creation time. A method run as one
step (`notificationStep`) takes every reading at `now` and its critical
sections back to back, as when no other call runs meanwhile;
`Notifications/Interleaving` runs each reading and each critical section as a
step of its own. No two of the service's lists share a notification pointer,
so the model keeps notifications as values.
`sendNotification` starts one goroutine per handler registered for the
channel, and the model returns them as (handler, notification) pairs.
`SetUserOnlineStatus` writes `onlineUsers`, which no method reads, and is left
out, as are the logger and the configuration fields no method reads.

`addNotification` appends and then keeps the newest `MaxNotificationsPerUser`
notifications. Under a negative bound the slice expression panics before
anything is stored; the model returns the panic as an error, and a notify loop
ends there with what it stored for the followers before.
-/

namespace LiveStreaming.Notifications

abbrev NotificationType := String

def notificationTypeStreamStarted : NotificationType := "stream_started"

def notificationTypeStreamEnded : NotificationType := "stream_ended"

abbrev NotificationPriority := String

def priorityLow : NotificationPriority := "low"

def priorityHigh : NotificationPriority := "high"

abbrev NotificationChannel := String

def channelWebSocket : NotificationChannel := "websocket"

/-- `Notification`, with the fields the service writes; the `data` map is kept
as its list of entries. -/
structure Notification where
  id : String
  userID : ParticipantIdentity
  type : NotificationType
  title : String
  body : String
  actionURL : String
  data : List (String × String)
  priority : NotificationPriority
  createdAt : Int
  readAt : Option Int
  isRead : Bool
  deriving DecidableEq, Repr

structure NotificationSubscription where
  userID : ParticipantIdentity
  streamerID : ParticipantIdentity
  streamerName : String
  enableStreamStart : Bool
  enableStreamEnd : Bool
  enableChat : Bool
  enableMentions : Bool
  createdAt : Int
  deriving DecidableEq, Repr

/-- The preferences `Subscribe` uses when it is given none; it reads only the
four switches, the other fields are zero. -/
def defaultPreferences : NotificationSubscription where
  userID := ""
  streamerID := ""
  streamerName := ""
  enableStreamStart := true
  enableStreamEnd := false
  enableChat := false
  enableMentions := true
  createdAt := 0

/-- A `NotificationHandler`, named by the caller that registers it. -/
abbrev NotificationHandler := Nat

/-- `NotificationConfig`, with the fields the service reads. -/
structure NotificationConfig where
  maxNotificationsPerUser : Int
  notificationTTL : Int
  deriving DecidableEq, Repr

/-- The configuration `NewNotificationService` uses when it is given none. -/
def defaultNotificationConfig : NotificationConfig where
  maxNotificationsPerUser := 1000
  notificationTTL := 30 * day

structure NotificationService where
  notifications : AList fun _ : ParticipantIdentity => List Notification
  subscriptions : ParticipantIdentity → List NotificationSubscription
  streamerFollowers : ParticipantIdentity → List ParticipantIdentity
  notificationHandlers : NotificationChannel → List NotificationHandler
  config : NotificationConfig

def NotificationService.new (config : Option NotificationConfig) : NotificationService where
  notifications := ∅
  subscriptions := fun _ => []
  streamerFollowers := fun _ => []
  notificationHandlers := fun _ => []
  config := config.getD defaultNotificationConfig

/-- The errors of the service, by their text. -/
inductive NotificationError where
  | alreadySubscribed
  | noNotificationsFound
  | notificationNotFound
  | sliceBoundsOutOfRange
  deriving DecidableEq, Repr

/-- The error text. -/
def NotificationError.text : NotificationError → String
  | alreadySubscribed => "already subscribed to this streamer"
  | noNotificationsFound => "no notifications found for user"
  | notificationNotFound => "notification not found"
  | sliceBoundsOutOfRange => "runtime error: slice bounds out of range"

/-- What a method returns, with the service it leaves behind and the handler
goroutines it starts. -/
structure NotificationOutcome (α : Type) where
  result : Except NotificationError α
  service : NotificationService
  started : List (NotificationHandler × Notification)

/-! ## Subscriptions -/

/-- `Subscribe`: refuse a second subscription of the user to the streamer, else
append the subscription to the user's list and the user to the streamer's
followers. -/
def subscribe (now : Int) (userID streamerID : ParticipantIdentity) (streamerName : String)
    (preferences : Option NotificationSubscription) (service : NotificationService) :
    NotificationOutcome Unit :=
  if (service.subscriptions userID).any (·.streamerID = streamerID) then
    ⟨.error .alreadySubscribed, service, []⟩
  else
    let preferences := preferences.getD defaultPreferences
    let subscription : NotificationSubscription :=
      { userID := userID, streamerID := streamerID, streamerName := streamerName,
        enableStreamStart := preferences.enableStreamStart,
        enableStreamEnd := preferences.enableStreamEnd, enableChat := preferences.enableChat,
        enableMentions := preferences.enableMentions, createdAt := now }
    ⟨.ok (),
      { service with
        subscriptions := Function.update service.subscriptions userID
          (service.subscriptions userID ++ [subscription])
        streamerFollowers := Function.update service.streamerFollowers streamerID
          (service.streamerFollowers streamerID ++ [userID]) }, []⟩

/-- `Unsubscribe`: drop the user's first subscription to the streamer and the
streamer's first entry for the user, each where there is one. -/
def unsubscribe (userID streamerID : ParticipantIdentity) (service : NotificationService) :
    NotificationService :=
  { service with
    subscriptions := Function.update service.subscriptions userID
      ((service.subscriptions userID).eraseP (·.streamerID = streamerID))
    streamerFollowers := Function.update service.streamerFollowers streamerID
      ((service.streamerFollowers streamerID).erase userID) }

def getSubscriptions (userID : ParticipantIdentity) (service : NotificationService) :
    List NotificationSubscription :=
  service.subscriptions userID

def getFollowerCount (streamerID : ParticipantIdentity) (service : NotificationService) : Int :=
  (service.streamerFollowers streamerID).length

/-! ## Storing and sending -/

/-- The cut of `addNotification`: the newest `max` notifications, for a
nonnegative `max`. -/
def keepNewest (max : Int) (userNotifications : List Notification) : List Notification :=
  if max < userNotifications.length then
    userNotifications.drop (userNotifications.length - max.toNat)
  else userNotifications

/-- `addNotification`: append to the user's list and keep the newest
`MaxNotificationsPerUser`; the slice panics under a negative bound. -/
def addNotification (userID : ParticipantIdentity) (notification : Notification)
    (service : NotificationService) : Except NotificationError NotificationService :=
  let userNotifications := (service.notifications.lookup userID).getD [] ++ [notification]
  if service.config.maxNotificationsPerUser < userNotifications.length ∧
      service.config.maxNotificationsPerUser < 0 then .error .sliceBoundsOutOfRange
  else
    .ok { service with
      notifications := service.notifications.insert userID
        (keepNewest service.config.maxNotificationsPerUser userNotifications) }

/-- `sendNotification`: one goroutine per handler registered for the channel. -/
def sendNotification (notification : Notification) (channel : NotificationChannel)
    (service : NotificationService) : List (NotificationHandler × Notification) :=
  (service.notificationHandlers channel).map fun handler => (handler, notification)

def registerNotificationHandler (channel : NotificationChannel) (handler : NotificationHandler)
    (service : NotificationService) : NotificationService :=
  { service with
    notificationHandlers := Function.update service.notificationHandlers channel
      (service.notificationHandlers channel ++ [handler]) }

/-- The notification `SendNotification` builds, with the clock reading `idAt`
in its ID and the later reading `createdAt` as its creation time. -/
def customNotificationAt (idAt createdAt : Int) (userID : ParticipantIdentity)
    (notificationType : NotificationType) (title body : String) (priority : NotificationPriority)
    (actionURL : String) (data : List (String × String)) : Notification where
  id := "notif-" ++ toString idAt ++ "-" ++ userID
  userID := userID
  type := notificationType
  title := title
  body := body
  actionURL := actionURL
  data := data
  priority := priority
  createdAt := createdAt
  readAt := none
  isRead := false

/-- `SendNotification`, the custom notification of a caller: store it and send
it over the WebSocket channel. -/
def sendCustomNotification (now : Int) (userID : ParticipantIdentity)
    (notificationType : NotificationType) (title body : String) (priority : NotificationPriority)
    (actionURL : String) (data : List (String × String)) (service : NotificationService) :
    NotificationOutcome Notification :=
  let notification :=
    customNotificationAt now now userID notificationType title body priority actionURL data
  match addNotification userID notification service with
  | .error error => ⟨.error error, service, []⟩
  | .ok added => ⟨.ok notification, added, sendNotification notification channelWebSocket added⟩

/-! ## The notify loops -/

/-- The preference loop of the notify methods: whether one of the follower's
subscriptions is to the streamer and enables the event. -/
def shouldNotify (enabled : NotificationSubscription → Bool) (streamerID : ParticipantIdentity)
    (userSubs : List NotificationSubscription) : Bool :=
  userSubs.any fun sub => sub.streamerID = streamerID && enabled sub

/-- The loop of `NotifyStreamStarted` and `NotifyStreamEnded` over the followers
read at its start: each follower whose preferences enable the event gets the
notification `build` makes for it, sent over the WebSocket channel too when
`send` is set. A panic of `addNotification` ends the loop. -/
def notifyFollowers (enabled : NotificationSubscription → Bool)
    (build : ParticipantIdentity → Notification) (send : Bool) (streamerID : ParticipantIdentity) :
    List ParticipantIdentity → NotificationService → NotificationOutcome Unit
  | [], service => ⟨.ok (), service, []⟩
  | followerID :: rest, service =>
      if shouldNotify enabled streamerID (service.subscriptions followerID) then
        match addNotification followerID (build followerID) service with
        | .error error => ⟨.error error, service, []⟩
        | .ok added =>
            let outcome := notifyFollowers enabled build send streamerID rest added
            { outcome with
              started := (if send then sendNotification (build followerID) channelWebSocket added
                else []) ++ outcome.started }
      else notifyFollowers enabled build send streamerID rest service

/-- The notification `NotifyStreamStarted` builds for a follower, from the
readings `idAt` and `createdAt`. -/
def streamStartedNotificationAt (idAt createdAt : Int) (streamerID : ParticipantIdentity)
    (streamerName : String) (roomName : RoomName) (streamTitle : String)
    (followerID : ParticipantIdentity) : Notification where
  id := "notif-" ++ toString idAt ++ "-" ++ followerID
  userID := followerID
  type := notificationTypeStreamStarted
  title := streamerName ++ " is live!"
  body := streamTitle
  actionURL := "/watch/" ++ roomName
  data := [("streamer_id", streamerID), ("streamer_name", streamerName), ("room_name", roomName)]
  priority := priorityHigh
  createdAt := createdAt
  readAt := none
  isRead := false

/-- The same with both readings at `now`. -/
def streamStartedNotification (now : Int) (streamerID : ParticipantIdentity) (streamerName : String)
    (roomName : RoomName) (streamTitle : String) (followerID : ParticipantIdentity) : Notification :=
  streamStartedNotificationAt now now streamerID streamerName roomName streamTitle followerID

/-- `NotifyStreamStarted`; its early return on no followers is the empty loop. -/
def notifyStreamStarted (now : Int) (streamerID : ParticipantIdentity) (streamerName : String)
    (roomName : RoomName) (streamTitle : String) (service : NotificationService) :
    NotificationOutcome Unit :=
  notifyFollowers (·.enableStreamStart)
    (streamStartedNotification now streamerID streamerName roomName streamTitle) true streamerID
    (service.streamerFollowers streamerID) service

/-- `time.Duration.String`: below a second in the largest of `ns`, `µs`, `ms`
that fits, else as hours, minutes and seconds, leading zero units left out. -/
def durationString (d : Int) : String :=
  let u := d.natAbs
  let sign := if d < 0 then "-" else ""
  if u = 0 then "0s"
  else if u < 1000000000 then
    let (unit, prec) :=
      if u < 1000 then ("ns", 0) else if u < 1000000 then ("\xB5s", 3) else ("ms", 6)
    let (fraction, whole) := fmtFrac u prec
    sign ++ toString whole ++ fraction ++ unit
  else
    let (fraction, seconds) := fmtFrac u 9
    let minutes := seconds / 60
    let hours := minutes / 60
    sign ++ (if 0 < hours then toString hours ++ "h" else "") ++
      (if 0 < minutes then toString (minutes % 60) ++ "m" else "") ++
      toString (seconds % 60) ++ fraction ++ "s"

/-- The notification `NotifyStreamEnded` builds for a follower, from the
readings `idAt` and `createdAt`. -/
def streamEndedNotificationAt (idAt createdAt : Int) (streamerName : String)
    (duration viewCount : Int) (followerID : ParticipantIdentity) : Notification where
  id := "notif-" ++ toString idAt ++ "-" ++ followerID
  userID := followerID
  type := notificationTypeStreamEnded
  title := streamerName ++ "\x27s stream ended"
  body := "Stream lasted " ++ durationString duration ++ " with " ++ toString viewCount ++ " viewers"
  actionURL := ""
  data := []
  priority := priorityLow
  createdAt := createdAt
  readAt := none
  isRead := false

/-- The same with both readings at `now`. -/
def streamEndedNotification (now : Int) (streamerName : String) (duration viewCount : Int)
    (followerID : ParticipantIdentity) : Notification :=
  streamEndedNotificationAt now now streamerName duration viewCount followerID

/-- `NotifyStreamEnded`: the same loop under the end switch, without sending. -/
def notifyStreamEnded (now : Int) (streamerID : ParticipantIdentity) (streamerName : String)
    (duration viewCount : Int) (service : NotificationService) : NotificationOutcome Unit :=
  notifyFollowers (·.enableStreamEnd) (streamEndedNotification now streamerName duration viewCount)
    false streamerID (service.streamerFollowers streamerID) service

/-! ## Reading, marking and the sweep -/

/-- `GetNotifications`: newest first, the unread ones only under `unreadOnly`,
at most `limit` of them. -/
def getNotifications (userID : ParticipantIdentity) (unreadOnly : Bool) (limit : Int)
    (service : NotificationService) : List Notification :=
  match service.notifications.lookup userID with
  | none => []
  | some userNotifications =>
      (userNotifications.reverse.filter fun notification => !unreadOnly || !notification.isRead).take
        limit.toNat

/-- The loop of `MarkAsRead`: the list with its first notification of the ID
marked read at `now`, or `none` when no notification has the ID. -/
def markFirstRead (now : Int) (notificationID : String) :
    List Notification → Option (List Notification)
  | [] => none
  | notification :: rest =>
      if notification.id = notificationID then
        some ({ notification with isRead := true, readAt := some now } :: rest)
      else (markFirstRead now notificationID rest).map (notification :: ·)

def markAsRead (now : Int) (userID : ParticipantIdentity) (notificationID : String)
    (service : NotificationService) : NotificationOutcome Unit :=
  match service.notifications.lookup userID with
  | none => ⟨.error .noNotificationsFound, service, []⟩
  | some userNotifications =>
      match markFirstRead now notificationID userNotifications with
      | none => ⟨.error .notificationNotFound, service, []⟩
      | some marked =>
          ⟨.ok (), { service with notifications := service.notifications.insert userID marked }, []⟩

/-- `MarkAllAsRead`: mark every unread notification of the user read at `now`. -/
def markAllAsRead (now : Int) (userID : ParticipantIdentity) (service : NotificationService) :
    NotificationService :=
  match service.notifications.lookup userID with
  | none => service
  | some userNotifications =>
      { service with
        notifications := service.notifications.insert userID (userNotifications.map fun notification =>
          if !notification.isRead then { notification with isRead := true, readAt := some now }
          else notification) }

def getUnreadCount (userID : ParticipantIdentity) (service : NotificationService) : Int :=
  match service.notifications.lookup userID with
  | none => 0
  | some userNotifications => (userNotifications.filter fun notification => !notification.isRead).length

/-- One turn of the sweep loop: keep the user's notifications created after
`cutoff` and add the others to the count. -/
def sweepUser (cutoff : Int) (swept : Int × NotificationService)
    (entry : Σ _ : ParticipantIdentity, List Notification) : Int × NotificationService :=
  let valid := entry.2.filter fun notification => cutoff < notification.createdAt
  (swept.1 + (entry.2.length - valid.length : Nat),
    { swept.2 with notifications := swept.2.notifications.insert entry.1 valid })

/-- `CleanupExpiredNotifications`: keep, for every user, the notifications
created after `now - NotificationTTL`, and count the others. -/
def cleanupExpiredNotifications (now : Int) (service : NotificationService) :
    Int × NotificationService :=
  service.notifications.entries.foldl (sweepUser (now - service.config.notificationTTL)) (0, service)

/-! ## Runs -/

/-- One method call that changes the service. -/
inductive NotificationEvent where
  | subscribe (userID streamerID : ParticipantIdentity) (streamerName : String)
      (preferences : Option NotificationSubscription)
  | unsubscribe (userID streamerID : ParticipantIdentity)
  | notifyStreamStarted (streamerID : ParticipantIdentity) (streamerName : String)
      (roomName : RoomName) (streamTitle : String)
  | notifyStreamEnded (streamerID : ParticipantIdentity) (streamerName : String)
      (duration viewCount : Int)
  | sendNotification (userID : ParticipantIdentity) (notificationType : NotificationType)
      (title body : String) (priority : NotificationPriority) (actionURL : String)
      (data : List (String × String))
  | markAsRead (userID : ParticipantIdentity) (notificationID : String)
  | markAllAsRead (userID : ParticipantIdentity)
  | registerNotificationHandler (channel : NotificationChannel) (handler : NotificationHandler)
  | cleanupExpiredNotifications

/-- The service after one call at clock reading `now`, run to its end without
another call in between. -/
def notificationStep (service : NotificationService) (now : Int) :
    NotificationEvent → NotificationService
  | .subscribe userID streamerID streamerName preferences =>
      (subscribe now userID streamerID streamerName preferences service).service
  | .unsubscribe userID streamerID => unsubscribe userID streamerID service
  | .notifyStreamStarted streamerID streamerName roomName streamTitle =>
      (notifyStreamStarted now streamerID streamerName roomName streamTitle service).service
  | .notifyStreamEnded streamerID streamerName duration viewCount =>
      (notifyStreamEnded now streamerID streamerName duration viewCount service).service
  | .sendNotification userID notificationType title body priority actionURL data =>
      (sendCustomNotification now userID notificationType title body priority actionURL data
        service).service
  | .markAsRead userID notificationID => (markAsRead now userID notificationID service).service
  | .markAllAsRead userID => markAllAsRead now userID service
  | .registerNotificationHandler channel handler =>
      registerNotificationHandler channel handler service
  | .cleanupExpiredNotifications => (cleanupExpiredNotifications now service).2

/-- The services a run of calls reaches from a new one. -/
inductive NotificationReachable : NotificationService → Prop
  | new (config : Option NotificationConfig) : NotificationReachable (NotificationService.new config)
  | step {service : NotificationService} (now : Int) (event : NotificationEvent) :
      NotificationReachable service → NotificationReachable (notificationStep service now event)

end LiveStreaming.Notifications
