import LiveStreaming.Notifications.Service
import Mathlib.Data.Finset.Card

/-!
# Followers and subscriptions

`Subscribe` refuses a second subscription by reading the user's subscriptions
only, then appends to both maps; `Unsubscribe` drops one entry from each where
there is one. Each keeps, for every user and streamer, the number of times the
streamer's followers list the user equal to the number of the user's
subscriptions to the streamer, and that number at most one (`FollowerIndex`);
no other method touches either map. So in every reachable service a streamer's
followers list a user at most once, exactly when the user is subscribed, and
`GetFollowerCount` counts the subscribed users.

`NotifyStreamStarted` walks the followers and stores a notification for each
one whose subscription to the streamer enables stream starts. Under a
`MaxNotificationsPerUser` of one or more each such user's list ends in exactly
that new notification, the oldest ones dropped beyond the bound, and no other
list changes (`follower_index_consistent`). Under a bound of zero the cut drops
the new notification itself, and under a negative bound the first such follower
makes the call panic (`small_caps_lose_stream_started`).
-/

namespace LiveStreaming.Notifications

section EraseP

variable {α : Type} (p q : α → Bool)

theorem countP_eraseP_self : ∀ l : List α, (l.eraseP p).countP p = l.countP p - 1
  | [] => rfl
  | a :: l => by
      by_cases hit : p a
      · simp [List.eraseP_cons_of_pos hit, hit]
      · simp [List.eraseP_cons_of_neg hit, hit, countP_eraseP_self l]

theorem countP_eraseP_of_disjoint (disjoint : ∀ a, p a → q a = false) :
    ∀ l : List α, (l.eraseP p).countP q = l.countP q
  | [] => rfl
  | a :: l => by
      by_cases hit : p a
      · simp [List.eraseP_cons_of_pos hit, disjoint a hit]
      · simp [List.eraseP_cons_of_neg hit, List.countP_cons, countP_eraseP_of_disjoint disjoint l]

end EraseP

/-! ## What the methods change -/

/-- `after` differs from `before` at most in its notifications. -/
structure NotificationsOnly (before after : NotificationService) : Prop where
  subscriptions : after.subscriptions = before.subscriptions
  streamerFollowers : after.streamerFollowers = before.streamerFollowers
  notificationHandlers : after.notificationHandlers = before.notificationHandlers
  config : after.config = before.config

theorem NotificationsOnly.trans {before middle after : NotificationService}
    (first : NotificationsOnly before middle) (second : NotificationsOnly middle after) :
    NotificationsOnly before after :=
  ⟨second.1.trans first.1, second.2.trans first.2, second.3.trans first.3, second.4.trans first.4⟩

theorem NotificationsOnly.refl (service : NotificationService) : NotificationsOnly service service :=
  ⟨rfl, rfl, rfl, rfl⟩

theorem notificationsOnly_with (service : NotificationService)
    (notifications : AList fun _ : ParticipantIdentity => List Notification) :
    NotificationsOnly service { service with notifications := notifications } :=
  ⟨rfl, rfl, rfl, rfl⟩

section Store

variable {userID : ParticipantIdentity} {notification : Notification} {service added : NotificationService}

/-- Under a nonnegative bound `addNotification` stores the cut list. -/
theorem addNotification_of_nonneg (nonneg : 0 ≤ service.config.maxNotificationsPerUser) :
    addNotification userID notification service =
      .ok { service with
        notifications := service.notifications.insert userID
          (keepNewest service.config.maxNotificationsPerUser
            ((service.notifications.lookup userID).getD [] ++ [notification])) } :=
  if_neg fun ⟨_, negative⟩ => by omega

theorem addNotification_notificationsOnly
    (stored : addNotification userID notification service = .ok added) :
    NotificationsOnly service added := by
  simp only [addNotification] at stored
  split_ifs at stored
  cases stored
  exact notificationsOnly_with _ _

end Store

/-- With a bound of one or more the cut keeps the new notification and drops
only old ones. -/
theorem keepNewest_append_singleton {max : Int} (atLeastOne : 1 ≤ max)
    (userNotifications : List Notification) (notification : Notification) :
    keepNewest max (userNotifications ++ [notification]) =
      userNotifications.drop (userNotifications.length + 1 - max.toNat) ++ [notification] := by
  unfold keepNewest
  rw [List.length_append, List.length_singleton]
  split_ifs with over
  · rw [List.drop_append_of_le_length (by omega)]
  · rw [show userNotifications.length + 1 - max.toNat = 0 by omega, List.drop_zero]

theorem shouldNotify_iff (enabled : NotificationSubscription → Bool) (streamerID : ParticipantIdentity)
    (userSubs : List NotificationSubscription) :
    shouldNotify enabled streamerID userSubs = true ↔
      ∃ sub ∈ userSubs, sub.streamerID = streamerID ∧ enabled sub = true := by
  simp [shouldNotify]

section Loop

variable (enabled : NotificationSubscription → Bool) (build : ParticipantIdentity → Notification)
  (send : Bool) (streamerID : ParticipantIdentity)

theorem notifyFollowers_notificationsOnly :
    ∀ (followers : List ParticipantIdentity) (service : NotificationService),
      NotificationsOnly service (notifyFollowers enabled build send streamerID followers service).service
  | [], service => notificationsOnly_with service service.notifications
  | followerID :: rest, service => by
      rw [notifyFollowers]
      by_cases notify : shouldNotify enabled streamerID (service.subscriptions followerID) = true
      · rw [if_pos notify]
        split
        next => exact notificationsOnly_with service service.notifications
        next added stored =>
          exact (addNotification_notificationsOnly stored).trans
            (notifyFollowers_notificationsOnly rest added)
      · rw [if_neg notify]
        exact notifyFollowers_notificationsOnly rest service

/-- The loop without sending starts no goroutine. -/
theorem notifyFollowers_unsent_starts_nothing :
    ∀ (followers : List ParticipantIdentity) (service : NotificationService),
      (notifyFollowers enabled build false streamerID followers service).started = []
  | [], _ => rfl
  | followerID :: rest, service => by
      rw [notifyFollowers]
      by_cases notify : shouldNotify enabled streamerID (service.subscriptions followerID) = true
      · rw [if_pos notify]
        split
        next => rfl
        next added _ =>
          simpa only [Bool.false_eq_true, if_false, List.nil_append] using
            notifyFollowers_unsent_starts_nothing rest added
      · rw [if_neg notify]
        exact notifyFollowers_unsent_starts_nothing rest service

/-- With a bound of one or more, the loop over duplicate-free followers ends
without a panic; each listed follower whose preferences enable the event has
the notification built for it appended, and every other list is unchanged. -/
theorem notifyFollowers_notifications :
    ∀ (followers : List ParticipantIdentity) (service : NotificationService),
      1 ≤ service.config.maxNotificationsPerUser → followers.Nodup →
      (notifyFollowers enabled build send streamerID followers service).result = .ok () ∧
      ∀ userID,
        (notifyFollowers enabled build send streamerID followers service).service.notifications.lookup
            userID =
          if userID ∈ followers ∧ shouldNotify enabled streamerID (service.subscriptions userID) then
            some (((service.notifications.lookup userID).getD []).drop
                (((service.notifications.lookup userID).getD []).length + 1 -
                  service.config.maxNotificationsPerUser.toNat) ++ [build userID])
          else service.notifications.lookup userID
  | [], service, _, _ => ⟨rfl, fun userID => by simp [notifyFollowers]⟩
  | followerID :: rest, service, atLeastOne, distinct => by
      obtain ⟨fresh, distinct⟩ := List.nodup_cons.mp distinct
      rw [notifyFollowers]
      by_cases notify : shouldNotify enabled streamerID (service.subscriptions followerID) = true
      · rw [if_pos notify]
        split
        next failed =>
          rw [addNotification_of_nonneg (by omega)] at failed
          cases failed
        next added stored =>
          have kept := addNotification_notificationsOnly stored
          have notifications : added.notifications = service.notifications.insert followerID
              (keepNewest service.config.maxNotificationsPerUser
                ((service.notifications.lookup followerID).getD [] ++ [build followerID])) := by
            rw [addNotification_of_nonneg (by omega)] at stored
            cases stored
            rfl
          obtain ⟨ok, lookup⟩ :=
            notifyFollowers_notifications rest added (kept.config ▸ atLeastOne) distinct
          refine ⟨ok, fun userID => ?_⟩
          rw [lookup, kept.subscriptions, kept.config, notifications]
          by_cases same : userID = followerID
          · subst same
            simp [fresh, notify, AList.lookup_insert, keepNewest_append_singleton atLeastOne]
          · simp [same, AList.lookup_insert_ne same]
      · rw [if_neg notify]
        obtain ⟨ok, lookup⟩ := notifyFollowers_notifications rest service atLeastOne distinct
        refine ⟨ok, fun userID => ?_⟩
        rw [lookup]
        by_cases same : userID = followerID
        · subst same
          simp [fresh, notify]
        · simp [same]

end Loop

/-- `NotifyStreamEnded` starts no handler goroutine, where `NotifyStreamStarted`
sends each stored notification over the WebSocket channel. -/
theorem notifyStreamEnded_started (now : Int) (streamerID : ParticipantIdentity) (streamerName : String)
    (duration viewCount : Int) (service : NotificationService) :
    (notifyStreamEnded now streamerID streamerName duration viewCount service).started = [] :=
  notifyFollowers_unsent_starts_nothing _ _ _ _ _

section Methods

variable (now : Int) (userID : ParticipantIdentity) (service : NotificationService)

theorem sendCustomNotification_notificationsOnly (notificationType : NotificationType)
    (title body : String) (priority : NotificationPriority) (actionURL : String)
    (data : List (String × String)) :
    NotificationsOnly service
      (sendCustomNotification now userID notificationType title body priority actionURL data
        service).service := by
  dsimp only [sendCustomNotification]
  split
  next => exact .refl service
  next added stored => exact addNotification_notificationsOnly stored

theorem markAsRead_notificationsOnly (notificationID : String) :
    NotificationsOnly service (markAsRead now userID notificationID service).service := by
  unfold markAsRead
  split
  · exact .refl service
  · split
    · exact .refl service
    · exact notificationsOnly_with _ _

theorem markAllAsRead_notificationsOnly :
    NotificationsOnly service (markAllAsRead now userID service) := by
  unfold markAllAsRead
  split
  · exact .refl service
  · exact notificationsOnly_with _ _

theorem sweepUser_notificationsOnly (cutoff : Int) :
    ∀ (entries : List (Σ _ : ParticipantIdentity, List Notification))
      (swept : Int × NotificationService), NotificationsOnly service swept.2 →
      NotificationsOnly service (entries.foldl (sweepUser cutoff) swept).2
  | [], _, kept => kept
  | _ :: rest, _, kept =>
      sweepUser_notificationsOnly cutoff rest _ (kept.trans (notificationsOnly_with _ _))

theorem cleanupExpiredNotifications_notificationsOnly :
    NotificationsOnly service (cleanupExpiredNotifications now service).2 :=
  sweepUser_notificationsOnly service _ _ _ (.refl service)

end Methods

/-! ## The follower index -/

/-- The two maps agree: a streamer's followers list a user as often as the user
is subscribed to the streamer, and that is at most once. -/
structure FollowerIndex (service : NotificationService) : Prop where
  agree : ∀ userID streamerID, (service.streamerFollowers streamerID).count userID =
    (service.subscriptions userID).countP (·.streamerID = streamerID)
  single : ∀ userID streamerID,
    (service.subscriptions userID).countP (·.streamerID = streamerID) ≤ 1

theorem FollowerIndex.of_maps {service other : NotificationService} (index : FollowerIndex service)
    (subscriptions : other.subscriptions = service.subscriptions)
    (followers : other.streamerFollowers = service.streamerFollowers) : FollowerIndex other := by
  obtain ⟨agree, single⟩ := index
  exact ⟨by rw [subscriptions, followers]; exact agree, by rw [subscriptions]; exact single⟩

theorem FollowerIndex.of_notificationsOnly {service other : NotificationService}
    (index : FollowerIndex service) (kept : NotificationsOnly service other) : FollowerIndex other :=
  index.of_maps kept.subscriptions kept.streamerFollowers

theorem FollowerIndex.new (config : Option NotificationConfig) :
    FollowerIndex (NotificationService.new config) :=
  ⟨fun _ _ => rfl, fun _ _ => Nat.zero_le _⟩

theorem FollowerIndex.after_subscribe {service : NotificationService} (index : FollowerIndex service)
    (now : Int) (userID streamerID : ParticipantIdentity) (streamerName : String)
    (preferences : Option NotificationSubscription) :
    FollowerIndex (subscribe now userID streamerID streamerName preferences service).service := by
  unfold subscribe
  split_ifs with duplicate
  · exact index
  · have fresh : (service.subscriptions userID).countP (·.streamerID = streamerID) = 0 := by
      simpa [List.countP_eq_zero] using duplicate
    refine ⟨fun user streamer => ?_, fun user streamer => ?_⟩ <;>
      rcases eq_or_ne user userID with rfl | otherUser <;>
      rcases eq_or_ne streamer streamerID with rfl | otherStreamer
    · simp [List.count_append, List.countP_append, index.agree]
    · simp [otherStreamer, otherStreamer.symm, List.countP_append, index.agree]
    · simp [otherUser, List.count_append, index.agree]
    · simp [otherUser, otherStreamer, index.agree]
    · simp [List.countP_append, fresh]
    · simp [otherStreamer.symm, List.countP_append, index.single]
    all_goals simp [otherUser, index.single]

theorem FollowerIndex.after_unsubscribe {service : NotificationService} (index : FollowerIndex service)
    (userID streamerID : ParticipantIdentity) :
    FollowerIndex (unsubscribe userID streamerID service) := by
  have other : ∀ streamer, streamer ≠ streamerID →
      ((service.subscriptions userID).eraseP (·.streamerID = streamerID)).countP
        (·.streamerID = streamer) = (service.subscriptions userID).countP (·.streamerID = streamer) :=
    fun streamer otherStreamer => countP_eraseP_of_disjoint _ _
      (fun sub hit => by simp_all [otherStreamer.symm]) _
  refine ⟨fun user streamer => ?_, fun user streamer => ?_⟩ <;>
    rcases eq_or_ne user userID with rfl | otherUser <;>
    rcases eq_or_ne streamer streamerID with rfl | otherStreamer
  · simp [unsubscribe, countP_eraseP_self, index.agree]
  · simp [unsubscribe, otherStreamer, other streamer otherStreamer, index.agree]
  · simp [unsubscribe, otherUser, List.count_erase_of_ne otherUser, index.agree]
  · simp [unsubscribe, otherUser, otherStreamer, index.agree]
  · simp only [unsubscribe, Function.update_same, countP_eraseP_self]
    exact (Nat.sub_le _ 1).trans (index.single _ _)
  · simpa [unsubscribe, other streamer otherStreamer] using index.single user streamer
  all_goals simpa [unsubscribe, otherUser] using index.single user streamer

theorem FollowerIndex.step {service : NotificationService} (index : FollowerIndex service) (now : Int) :
    ∀ event, FollowerIndex (notificationStep service now event)
  | .subscribe .. => index.after_subscribe ..
  | .unsubscribe .. => index.after_unsubscribe ..
  | .notifyStreamStarted .. => index.of_notificationsOnly (notifyFollowers_notificationsOnly ..)
  | .notifyStreamEnded .. => index.of_notificationsOnly (notifyFollowers_notificationsOnly ..)
  | .sendNotification .. => index.of_notificationsOnly (sendCustomNotification_notificationsOnly ..)
  | .markAsRead .. => index.of_notificationsOnly (markAsRead_notificationsOnly ..)
  | .markAllAsRead .. => index.of_notificationsOnly (markAllAsRead_notificationsOnly ..)
  | .registerNotificationHandler .. => index.of_maps rfl rfl
  | .cleanupExpiredNotifications =>
      index.of_notificationsOnly (cleanupExpiredNotifications_notificationsOnly ..)

theorem NotificationReachable.followerIndex {service : NotificationService}
    (reach : NotificationReachable service) : FollowerIndex service := by
  induction reach with
  | new config => exact .new config
  | step now event _ index => exact index.step now event

section Index

variable {service : NotificationService} (index : FollowerIndex service)
include index

theorem FollowerIndex.nodup (streamerID : ParticipantIdentity) :
    (service.streamerFollowers streamerID).Nodup :=
  List.nodup_iff_count_le_one.mpr fun userID =>
    (index.agree userID streamerID).trans_le (index.single userID streamerID)

theorem FollowerIndex.mem_iff (userID streamerID : ParticipantIdentity) :
    userID ∈ service.streamerFollowers streamerID ↔
      (service.subscriptions userID).countP (·.streamerID = streamerID) = 1 := by
  rw [← List.count_pos_iff, index.agree]
  have := index.single userID streamerID
  omega

theorem FollowerIndex.mem_iff_subscribed (userID streamerID : ParticipantIdentity) :
    userID ∈ service.streamerFollowers streamerID ↔
      ∃ sub ∈ service.subscriptions userID, sub.streamerID = streamerID := by
  rw [← List.count_pos_iff, index.agree, List.countP_pos_iff]
  simp

end Index

/-- In every reachable service the streamer's followers list a user at most
once, and exactly when the user has one subscription to the streamer, so
`GetFollowerCount` is the number of subscribed users. Under a bound of one or
more, `NotifyStreamStarted` ends without a panic; the list of each user with a
subscription to the streamer that enables stream starts gains that user's
notification at its end, dropping the oldest beyond the bound, and every other
list is left as it was. -/
theorem follower_index_consistent {service : NotificationService}
    (reach : NotificationReachable service) :
    (∀ userID streamerID,
      (service.streamerFollowers streamerID).count userID ≤ 1 ∧
      (userID ∈ service.streamerFollowers streamerID ↔
        (service.subscriptions userID).countP (·.streamerID = streamerID) = 1)) ∧
    (∀ streamerID, ∃ users : Finset ParticipantIdentity,
      (∀ userID, userID ∈ users ↔ ∃ sub ∈ service.subscriptions userID, sub.streamerID = streamerID) ∧
      getFollowerCount streamerID service = users.card) ∧
    (1 ≤ service.config.maxNotificationsPerUser →
      ∀ now streamerID streamerName roomName streamTitle,
        (notifyStreamStarted now streamerID streamerName roomName streamTitle service).result =
          .ok () ∧
        ∀ userID,
          ((∃ sub ∈ service.subscriptions userID,
              sub.streamerID = streamerID ∧ sub.enableStreamStart = true) →
            (notifyStreamStarted now streamerID streamerName roomName streamTitle
                service).service.notifications.lookup userID =
              some (((service.notifications.lookup userID).getD []).drop
                  (((service.notifications.lookup userID).getD []).length + 1 -
                    service.config.maxNotificationsPerUser.toNat) ++
                [streamStartedNotification now streamerID streamerName roomName streamTitle userID])) ∧
          ((¬∃ sub ∈ service.subscriptions userID,
              sub.streamerID = streamerID ∧ sub.enableStreamStart = true) →
            (notifyStreamStarted now streamerID streamerName roomName streamTitle
                service).service.notifications.lookup userID = service.notifications.lookup userID)) := by
  have index := reach.followerIndex
  refine ⟨fun userID streamerID => ⟨(index.agree userID streamerID).trans_le
      (index.single userID streamerID), index.mem_iff userID streamerID⟩,
    fun streamerID => ⟨(service.streamerFollowers streamerID).toFinset,
      fun userID => List.mem_toFinset.trans (index.mem_iff_subscribed userID streamerID), ?_⟩,
    fun atLeastOne now streamerID streamerName roomName streamTitle => ?_⟩
  · rw [getFollowerCount, List.toFinset_card_of_nodup (index.nodup streamerID)]
  · obtain ⟨ok, lookup⟩ := notifyFollowers_notifications _
      (streamStartedNotification now streamerID streamerName roomName streamTitle) true streamerID
      _ service atLeastOne (index.nodup streamerID)
    refine ⟨ok, fun userID => ⟨fun subscribed => ?_, fun unsubscribed => ?_⟩⟩
    · obtain ⟨sub, member, same, enabled⟩ := subscribed
      rw [notifyStreamStarted, lookup, if_pos ⟨(index.mem_iff_subscribed userID streamerID).mpr
        ⟨sub, member, same⟩, (shouldNotify_iff _ _ _).mpr ⟨sub, member, same, enabled⟩⟩]
    · rw [notifyStreamStarted, lookup,
        if_neg fun ⟨_, notify⟩ => unsubscribed ((shouldNotify_iff _ _ _).mp notify)]

/-- A new service under the given configuration after alice subscribes to bob
at 1 with the default preferences. -/
def aliceFollowsBob (config : NotificationConfig) : NotificationService :=
  (subscribe 1 "alice" "bob" "Bob" none (NotificationService.new (some config))).service

theorem aliceFollowsBob_reachable (config : NotificationConfig) :
    NotificationReachable (aliceFollowsBob config) :=
  .step 1 (.subscribe "alice" "bob" "Bob" none) (.new (some config))

/-- Under the default configuration bob's stream start reaches alice. -/
theorem default_cap_notifies_alice :
    NotificationReachable (aliceFollowsBob defaultNotificationConfig) ∧
    1 ≤ (aliceFollowsBob defaultNotificationConfig).config.maxNotificationsPerUser ∧
    (∀ userID streamerID,
      ((aliceFollowsBob defaultNotificationConfig).streamerFollowers streamerID).count userID ≤ 1 ∧
      (userID ∈ (aliceFollowsBob defaultNotificationConfig).streamerFollowers streamerID ↔
        ((aliceFollowsBob defaultNotificationConfig).subscriptions userID).countP
          (·.streamerID = streamerID) = 1)) ∧
    (∀ streamerID, ∃ users : Finset ParticipantIdentity,
      (∀ userID, userID ∈ users ↔ ∃ sub ∈ (aliceFollowsBob defaultNotificationConfig).subscriptions
        userID, sub.streamerID = streamerID) ∧
      getFollowerCount streamerID (aliceFollowsBob defaultNotificationConfig) = users.card) ∧
    (1 ≤ (aliceFollowsBob defaultNotificationConfig).config.maxNotificationsPerUser →
      ∀ now streamerID streamerName roomName streamTitle,
        (notifyStreamStarted now streamerID streamerName roomName streamTitle
          (aliceFollowsBob defaultNotificationConfig)).result = .ok () ∧
        ∀ userID,
          ((∃ sub ∈ (aliceFollowsBob defaultNotificationConfig).subscriptions userID,
              sub.streamerID = streamerID ∧ sub.enableStreamStart = true) →
            (notifyStreamStarted now streamerID streamerName roomName streamTitle
                (aliceFollowsBob defaultNotificationConfig)).service.notifications.lookup userID =
              some ((((aliceFollowsBob defaultNotificationConfig).notifications.lookup userID).getD
                  []).drop
                  ((((aliceFollowsBob defaultNotificationConfig).notifications.lookup userID).getD
                    []).length + 1 -
                    (aliceFollowsBob defaultNotificationConfig).config.maxNotificationsPerUser.toNat) ++
                [streamStartedNotification now streamerID streamerName roomName streamTitle userID])) ∧
          ((¬∃ sub ∈ (aliceFollowsBob defaultNotificationConfig).subscriptions userID,
              sub.streamerID = streamerID ∧ sub.enableStreamStart = true) →
            (notifyStreamStarted now streamerID streamerName roomName streamTitle
                (aliceFollowsBob defaultNotificationConfig)).service.notifications.lookup userID =
              (aliceFollowsBob defaultNotificationConfig).notifications.lookup userID)) :=
  ⟨aliceFollowsBob_reachable _, by decide,
    follower_index_consistent (aliceFollowsBob_reachable defaultNotificationConfig)⟩

/-- Alice subscribes to bob with stream starts enabled. Under a bound of zero
bob's stream start leaves her an empty list; under a bound of minus one it
panics and stores nothing. -/
theorem small_caps_lose_stream_started :
    NotificationReachable (aliceFollowsBob ⟨0, 30 * day⟩) ∧
    (∃ sub ∈ (aliceFollowsBob ⟨0, 30 * day⟩).subscriptions "alice",
      sub.streamerID = "bob" ∧ sub.enableStreamStart = true) ∧
    (notifyStreamStarted 2 "bob" "Bob" "r1" "Live now" (aliceFollowsBob ⟨0, 30 * day⟩)).result =
      .ok () ∧
    (notifyStreamStarted 2 "bob" "Bob" "r1" "Live now"
      (aliceFollowsBob ⟨0, 30 * day⟩)).service.notifications.lookup "alice" = some [] ∧
    NotificationReachable (aliceFollowsBob ⟨-1, 30 * day⟩) ∧
    (notifyStreamStarted 2 "bob" "Bob" "r1" "Live now" (aliceFollowsBob ⟨-1, 30 * day⟩)).result =
      .error .sliceBoundsOutOfRange ∧
    (notifyStreamStarted 2 "bob" "Bob" "r1" "Live now"
      (aliceFollowsBob ⟨-1, 30 * day⟩)).service.notifications.lookup "alice" = none :=
  ⟨aliceFollowsBob_reachable _, by decide, rfl, by decide, aliceFollowsBob_reachable _, rfl,
    by decide⟩

end LiveStreaming.Notifications
