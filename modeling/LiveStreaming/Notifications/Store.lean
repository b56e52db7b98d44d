import LiveStreaming.Notifications.Interleaving

/-!
# What the notification store holds

Every method that stores a notification builds it addressed to the user whose
list it goes into, unread and without a read time. Its creation time is a
clock reading taken before the method takes the lock. The marking methods set
the read flag and the read time together, `addNotification` keeps the newest
`MaxNotificationsPerUser`, and the sweep filters. Over every interleaved run
whose clock never goes back, each user's list therefore holds (`Stored`):

* only notifications addressed to that user;
* read flags that agree with the read times, each read time between the
  notification's creation and the clock;
* creation times not after the clock;
* at most `MaxNotificationsPerUser` notifications, none while it is negative.

The list keeps the order in which `addNotification` ran. Up to read marks, it
is a part, in order, of the notifications stored for the user along the run
(`Logged`). So `GetNotifications`, which walks the list from its end, returns
the newest-stored first (`getNotifications_newest_first`). Creation order can
differ from this order: two sends read the clock in one order and can take the
lock in the other, and then the older notification is listed first
(`overlapping_sends_listed_oldest_first`).
-/

namespace LiveStreaming.Notifications

/-- A notification as the methods build it for `userID` at the reading
`now`. -/
structure Fresh (userID : ParticipantIdentity) (now : Int) (notification : Notification) : Prop where
  addressed : notification.userID = userID
  created : notification.createdAt = now
  unread : notification.isRead = false
  unstamped : notification.readAt = none

/-- A notification of `userID`'s list at clock `clock`. -/
structure Sound (userID : ParticipantIdentity) (clock : Int) (notification : Notification) : Prop where
  addressed : notification.userID = userID
  flagged : notification.isRead = notification.readAt.isSome
  created : notification.createdAt ≤ clock
  readBetween : ∀ readAt ∈ notification.readAt, notification.createdAt ≤ readAt ∧ readAt ≤ clock

/-- `userID`'s list at clock `clock`: sound notifications, at most
`MaxNotificationsPerUser` of them. -/
structure Stored (config : NotificationConfig) (clock : Int) (userID : ParticipantIdentity)
    (userNotifications : List Notification) : Prop where
  sound : ∀ notification ∈ userNotifications, Sound userID clock notification
  capped : userNotifications.length ≤ config.maxNotificationsPerUser.toNat

/-- Every list of the service's store is `Stored`. -/
def WellStored (service : NotificationService) (clock : Int) : Prop :=
  ∀ userID userNotifications, service.notifications.lookup userID = some userNotifications →
    Stored service.config clock userID userNotifications

/-- A notification as it was stored, before any marking. -/
def Notification.unmarked (notification : Notification) : Notification :=
  { notification with isRead := false, readAt := none }

@[simp]
theorem Notification.unmarked_mark (notification : Notification) (now : Int) :
    Notification.unmarked { notification with isRead := true, readAt := some now } =
      notification.unmarked :=
  rfl

theorem Fresh.unmarked {userID : ParticipantIdentity} {now : Int} {notification : Notification}
    (fresh : Fresh userID now notification) : notification.unmarked = notification := by
  rw [Notification.unmarked, ← fresh.unread, ← fresh.unstamped]

/-! ## One notification, one list -/

section Lists

variable {userID : ParticipantIdentity} {clock now : Int}

theorem Fresh.sound {notification : Notification} {created : Int}
    (fresh : Fresh userID created notification) (early : created ≤ now) :
    Sound userID now notification where
  addressed := fresh.addressed
  flagged := by rw [fresh.unread, fresh.unstamped]; rfl
  created := fresh.created ▸ early
  readBetween := by simp [fresh.unstamped]

theorem Sound.later {notification : Notification} (sound : Sound userID clock notification)
    (later : clock ≤ now) : Sound userID now notification :=
  ⟨sound.addressed, sound.flagged, sound.created.trans later,
    fun readAt member => ⟨(sound.readBetween readAt member).1, (sound.readBetween readAt member).2.trans later⟩⟩

/-- Marking a notification read at a later reading keeps it sound. -/
theorem Sound.mark {notification : Notification} (sound : Sound userID clock notification)
    (later : clock ≤ now) : Sound userID now { notification with isRead := true, readAt := some now } :=
  ⟨sound.addressed, rfl, sound.created.trans later, by
    simpa using sound.created.trans later⟩

variable {config : NotificationConfig}

theorem Stored.later {userNotifications : List Notification}
    (stored : Stored config clock userID userNotifications) (later : clock ≤ now) :
    Stored config now userID userNotifications :=
  { stored with sound := fun notification member => (stored.sound notification member).later later }

/-- A part of a stored list is stored. -/
theorem Stored.sublist {userNotifications part : List Notification}
    (stored : Stored config clock userID userNotifications) (sub : part.Sublist userNotifications) :
    Stored config clock userID part where
  sound := fun notification member => stored.sound notification (sub.subset member)
  capped := sub.length_le.trans stored.capped

/-- Replacing notifications one for one, each by a sound one, keeps a list
stored. -/
theorem Stored.restamp {userNotifications marked : List Notification}
    (stored : Stored config clock userID userNotifications)
    (length : marked.length = userNotifications.length)
    (sound : ∀ notification ∈ marked, Sound userID now notification) :
    Stored config now userID marked :=
  ⟨sound, length ▸ stored.capped⟩

theorem keepNewest_sublist (max : Int) (userNotifications : List Notification) :
    (keepNewest max userNotifications).Sublist userNotifications := by
  unfold keepNewest
  split_ifs
  exacts [List.drop_sublist _ _, List.Sublist.refl _]

/-- `addNotification`'s cut leaves at most `MaxNotificationsPerUser`
notifications. -/
theorem keepNewest_length (max : Int) (userNotifications : List Notification) :
    (keepNewest max userNotifications).length ≤ max.toNat := by
  unfold keepNewest
  split_ifs with over
  · rw [List.length_drop]
    omega
  · omega

/-- Appending a sound notification and keeping the newest keeps a list
stored. -/
theorem Stored.append {userNotifications : List Notification} {notification : Notification}
    (stored : Stored config now userID userNotifications) (sound : Sound userID now notification) :
    Stored config now userID (keepNewest config.maxNotificationsPerUser (userNotifications ++ [notification])) := by
  refine ⟨fun other member => ?_, keepNewest_length _ _⟩
  rcases List.mem_append.mp ((keepNewest_sublist _ _).subset member) with old | new
  · exact stored.sound other old
  · exact List.mem_singleton.mp new ▸ sound

end Lists

/-! ## The store -/

section Store

variable {service : NotificationService} {clock now : Int}

theorem wellStored_new (config : Option NotificationConfig) (clock : Int) :
    WellStored (NotificationService.new config) clock :=
  fun _ _ found => by simp [NotificationService.new] at found

theorem WellStored.later (well : WellStored service clock) (later : clock ≤ now) :
    WellStored service now :=
  fun userID userNotifications found => (well userID userNotifications found).later later

/-- A service with the same store and configuration is as well stored. -/
theorem WellStored.of_store {other : NotificationService} (well : WellStored service clock)
    (notifications : other.notifications = service.notifications) (config : other.config = service.config) :
    WellStored other clock :=
  fun userID userNotifications found =>
    config ▸ well userID userNotifications (notifications ▸ found)

/-- Storing a stored list for one user keeps the store well formed. -/
theorem WellStored.insert (well : WellStored service clock) {userID : ParticipantIdentity}
    {userNotifications : List Notification}
    (stored : Stored service.config clock userID userNotifications) :
    WellStored { service with notifications := service.notifications.insert userID userNotifications }
      clock := fun user userList found => by
  rcases lookup_insert_eq_some found with ⟨rfl, rfl⟩ | kept
  exacts [stored, well user userList kept]

/-- `addNotification` of a notification sound at the clock keeps the store
well formed. -/
theorem WellStored.addNotification (well : WellStored service now) {userID : ParticipantIdentity}
    {notification : Notification} (sound : Sound userID now notification)
    {added : NotificationService} (stored : addNotification userID notification service = .ok added) :
    WellStored added now := by
  simp only [LiveStreaming.Notifications.addNotification] at stored
  split_ifs at stored
  cases stored
  refine well.insert (Stored.append ?_ sound)
  cases found : service.notifications.lookup userID with
  | none => exact ⟨by simp, by simp⟩
  | some userNotifications => exact well userID userNotifications found

/-- `markFirstRead` marks one notification read at `now` and keeps the
others. -/
theorem markFirstRead_marks (notificationID : String) :
    ∀ {userNotifications marked : List Notification},
      markFirstRead now notificationID userNotifications = some marked →
      marked.map Notification.unmarked = userNotifications.map Notification.unmarked ∧
        ∀ notification ∈ marked, notification ∈ userNotifications ∨
          ∃ original ∈ userNotifications,
            notification = { original with isRead := true, readAt := some now }
  | [], _, found => by cases found
  | first :: rest, marked, found => by
      rw [markFirstRead] at found
      split_ifs at found
      · cases found
        refine ⟨by simp, fun notification member => ?_⟩
        rcases List.mem_cons.mp member with rfl | later
        · exact .inr ⟨first, List.mem_cons_self _ _, rfl⟩
        · exact .inl (List.mem_cons_of_mem _ later)
      · obtain ⟨markedRest, restFound, rfl⟩ := Option.map_eq_some'.mp found
        obtain ⟨unmarked, members⟩ := markFirstRead_marks notificationID restFound
        refine ⟨by rw [List.map_cons, unmarked, List.map_cons], fun notification member => ?_⟩
        rcases List.mem_cons.mp member with rfl | later
        · exact .inl (List.mem_cons_self _ _)
        · rcases members notification later with old | ⟨original, originalMember, rfl⟩
          · exact .inl (List.mem_cons_of_mem _ old)
          · exact .inr ⟨original, List.mem_cons_of_mem _ originalMember, rfl⟩

/-- `MarkAllAsRead` changes nothing but read marks. -/
theorem markAll_unmarked (now : Int) (userNotifications : List Notification) :
    (userNotifications.map fun notification =>
        if !notification.isRead then { notification with isRead := true, readAt := some now }
        else notification).map Notification.unmarked =
      userNotifications.map Notification.unmarked := by
  rw [List.map_map]
  exact List.map_congr_left fun notification _ => by
    simp only [Function.comp_apply]
    split_ifs <;> simp

theorem WellStored.markAsRead (well : WellStored service clock) (later : clock ≤ now)
    (userID : ParticipantIdentity) (notificationID : String) :
    WellStored (markAsRead now userID notificationID service).service now := by
  unfold LiveStreaming.Notifications.markAsRead
  split
  · exact well.later later
  · next userNotifications found =>
      split
      · exact well.later later
      · next marked markedFound =>
          have stored := well userID userNotifications found
          obtain ⟨unmarked, members⟩ := markFirstRead_marks notificationID markedFound
          have length := congrArg List.length unmarked
          rw [List.length_map, List.length_map] at length
          refine (well.later later).insert (stored.restamp length fun notification member => ?_)
          rcases members notification member with old | ⟨original, originalMember, rfl⟩
          · exact (stored.sound notification old).later later
          · exact (stored.sound original originalMember).mark later

theorem WellStored.markAllAsRead (well : WellStored service clock) (later : clock ≤ now)
    (userID : ParticipantIdentity) : WellStored (markAllAsRead now userID service) now := by
  unfold LiveStreaming.Notifications.markAllAsRead
  split
  · exact well.later later
  · next userNotifications found =>
      have stored := well userID userNotifications found
      refine (well.later later).insert (stored.restamp (List.length_map _ _) fun notification member => ?_)
      obtain ⟨original, originalMember, rfl⟩ := List.mem_map.mp member
      split_ifs
      · exact (stored.sound original originalMember).mark later
      · exact (stored.sound original originalMember).later later

/-- The sweep's loop stores, for each user it visits, a part of the user's
list as the sweep found it. -/
theorem sweepUser_foldl_sublist (original : NotificationService) (cutoff : Int) :
    ∀ (entries : List (Σ _ : ParticipantIdentity, List Notification)) (swept : Int × NotificationService),
      (∀ entry ∈ entries, entry ∈ original.notifications.entries) →
      (∀ userID userNotifications, swept.2.notifications.lookup userID = some userNotifications →
        ∃ before, original.notifications.lookup userID = some before ∧ userNotifications.Sublist before) →
      ∀ userID userNotifications,
        (entries.foldl (sweepUser cutoff) swept).2.notifications.lookup userID = some userNotifications →
        ∃ before, original.notifications.lookup userID = some before ∧ userNotifications.Sublist before
  | [], _, _, parts => parts
  | entry :: rest, swept, visited, parts =>
      sweepUser_foldl_sublist original cutoff rest _
        (fun other member => visited other (List.mem_cons_of_mem _ member))
        fun userID userNotifications found => by
          rcases lookup_insert_eq_some found with ⟨rfl, rfl⟩ | kept
          · exact ⟨entry.2, AList.mem_lookup_iff.mpr (visited entry (List.mem_cons_self _ _)),
              List.filter_sublist _⟩
          · exact parts userID userNotifications kept

/-- After `CleanupExpiredNotifications` each user's list is a part of what it
was. -/
theorem cleanupExpiredNotifications_sublist {userID : ParticipantIdentity}
    {userNotifications : List Notification}
    (found : (cleanupExpiredNotifications now service).2.notifications.lookup userID =
      some userNotifications) :
    ∃ before, service.notifications.lookup userID = some before ∧ userNotifications.Sublist before :=
  sweepUser_foldl_sublist service _ _ (0, service) (fun _ => id)
    (fun _ userNotifications found => ⟨userNotifications, found, List.Sublist.refl _⟩) _ _ found

theorem WellStored.cleanupExpiredNotifications (well : WellStored service clock) (later : clock ≤ now) :
    WellStored (cleanupExpiredNotifications now service).2 now := fun userID _ found =>
  have config : (LiveStreaming.Notifications.cleanupExpiredNotifications now service).2.config =
      service.config :=
    (cleanupExpiredNotifications_notificationsOnly now service).config
  let ⟨before, present, part⟩ := cleanupExpiredNotifications_sublist found
  config ▸ ((well userID before present).sublist part).later later

end Store

/-! ## The lists follow the order of storing -/

/-- Each user's list is, up to read marks, a part in order of the notifications
the log holds for the user. -/
def Logged (service : NotificationService) (log : List Notification) : Prop :=
  ∀ userID userNotifications, service.notifications.lookup userID = some userNotifications →
    (userNotifications.map Notification.unmarked).Sublist (log.filter (·.userID = userID))

section Logged

variable {service : NotificationService} {log : List Notification} {now : Int}

theorem logged_new (config : Option NotificationConfig) : Logged (NotificationService.new config) [] :=
  fun _ _ found => by simp [NotificationService.new] at found

theorem Logged.of_store {other : NotificationService} (logged : Logged service log)
    (notifications : other.notifications = service.notifications) : Logged other log :=
  fun userID userNotifications found => logged userID userNotifications (notifications ▸ found)

theorem Logged.append (logged : Logged service log) (more : List Notification) :
    Logged service (log ++ more) := fun userID userNotifications found => by
  rw [List.filter_append]
  exact (logged userID userNotifications found).trans (List.sublist_append_left _ _)

/-- Storing, for one user, a part of the user's list up to read marks keeps
the store logged. -/
theorem Logged.insert (logged : Logged service log) {userID : ParticipantIdentity}
    {userNotifications : List Notification}
    (sub : (userNotifications.map Notification.unmarked).Sublist (log.filter (·.userID = userID))) :
    Logged { service with notifications := service.notifications.insert userID userNotifications } log :=
  fun user userList found => by
    rcases lookup_insert_eq_some found with ⟨rfl, rfl⟩ | kept
    exacts [sub, logged user userList kept]

/-- `addNotification` of a fresh notification keeps the store logged, with the
notification added to the log. -/
theorem Logged.addNotification (logged : Logged service log) {userID : ParticipantIdentity}
    {created : Int} {notification : Notification} (fresh : Fresh userID created notification)
    {added : NotificationService} (stored : addNotification userID notification service = .ok added) :
    Logged added (log ++ [notification]) := by
  simp only [LiveStreaming.Notifications.addNotification] at stored
  split_ifs at stored
  cases stored
  refine (logged.append _).insert (((keepNewest_sublist _ _).map _).trans ?_)
  have before : (((service.notifications.lookup userID).getD []).map Notification.unmarked).Sublist
      (log.filter (·.userID = userID)) := by
    cases found : service.notifications.lookup userID with
    | none => exact List.nil_sublist _
    | some userNotifications => exact logged userID userNotifications found
  rw [List.map_append, List.filter_append, List.map_singleton, fresh.unmarked]
  simp only [List.filter_singleton, fresh.addressed, decide_True, cond_true]
  exact before.append (List.Sublist.refl _)

theorem Logged.markAsRead (logged : Logged service log) (userID : ParticipantIdentity)
    (notificationID : String) : Logged (markAsRead now userID notificationID service).service log := by
  unfold LiveStreaming.Notifications.markAsRead
  split
  · exact logged
  · next userNotifications found =>
      split
      · exact logged
      · next marked markedFound =>
          refine logged.insert ?_
          rw [(markFirstRead_marks notificationID markedFound).1]
          exact logged userID userNotifications found

theorem Logged.markAllAsRead (logged : Logged service log) (userID : ParticipantIdentity) :
    Logged (markAllAsRead now userID service) log := by
  unfold LiveStreaming.Notifications.markAllAsRead
  split
  · exact logged
  · next userNotifications found =>
      refine logged.insert ?_
      rw [markAll_unmarked]
      exact logged userID userNotifications found

theorem Logged.cleanupExpiredNotifications (logged : Logged service log) :
    Logged (cleanupExpiredNotifications now service).2 log := fun userID _ found =>
  let ⟨before, present, part⟩ := cleanupExpiredNotifications_sublist found
  (part.map _).trans (logged userID before present)

end Logged

/-! ## Calls in flight -/

/-- A notification under construction for `userID`. Whatever readings remain,
it comes out fresh for the user at its last reading, and once built it was
created by `clock`. -/
def Outgoing.Ready (userID : ParticipantIdentity) (clock : Int) : Outgoing → Prop
  | .drafted make => ∀ idAt createdAt, Fresh userID createdAt (make idAt createdAt)
  | .identified make => ∀ createdAt, Fresh userID createdAt (make createdAt)
  | .built notification =>
      Fresh userID notification.createdAt notification ∧ notification.createdAt ≤ clock

/-- A call in flight builds only notifications fresh for their recipients. -/
def NotificationCall.Ready (clock : Int) : NotificationCall → Prop
  | .send userID outgoing => outgoing.Ready userID clock
  | .notify _ make _ _ current =>
      (∀ followerID idAt createdAt, Fresh followerID createdAt (make idAt createdAt followerID)) ∧
        ∀ followerID outgoing, current = some (followerID, outgoing) → outgoing.Ready followerID clock

/-- What every reachable system keeps, with the log of what it stored. -/
structure SystemInvariant (system : NotificationSystem) (clock : Int) (log : List Notification) :
    Prop where
  stored : WellStored system.service clock
  logged : Logged system.service log
  ready : ∀ call ∈ system.calls, call.Ready clock

section Calls

variable {service : NotificationService} {clock now : Int} {log : List Notification}

theorem Outgoing.Ready.later {userID : ParticipantIdentity} {outgoing : Outgoing}
    (ready : outgoing.Ready userID clock) (later : clock ≤ now) : outgoing.Ready userID now := by
  cases outgoing with
  | built => exact ⟨ready.1, ready.2.trans later⟩
  | drafted | identified => exact ready

theorem NotificationCall.Ready.later {call : NotificationCall} (ready : call.Ready clock)
    (later : clock ≤ now) : call.Ready now := by
  cases call with
  | send _ outgoing => exact Outgoing.Ready.later ready later
  | notify =>
      exact ⟨ready.1, fun followerID outgoing current => (ready.2 followerID outgoing current).later later⟩

/-- The two readings of a notification under construction: the first leaves
one to take, the second builds it at the reading. -/
theorem Outgoing.ready_identified {userID : ParticipantIdentity} {make : Int → Int → Notification}
    (ready : (Outgoing.drafted make).Ready userID clock) :
    (Outgoing.identified (make now)).Ready userID now :=
  ready now

theorem Outgoing.ready_built {userID : ParticipantIdentity} {make : Int → Notification}
    (ready : (Outgoing.identified make).Ready userID clock) :
    (Outgoing.built (make now)).Ready userID now := by
  have fresh := ready now
  rw [Outgoing.Ready, fresh.created]
  exact ⟨fresh, le_rfl⟩

/-- `addNotification` of a built notification: a panic changes nothing, and a
store keeps the store well formed and logs the notification. -/
theorem addNotification_invariant {userID : ParticipantIdentity} {notification : Notification}
    (ready : (Outgoing.built notification).Ready userID clock) (well : WellStored service clock)
    (logged : Logged service log) (later : clock ≤ now) {added : NotificationService}
    (stored : addNotification userID notification service = .ok added) :
    WellStored added now ∧ Logged added (log ++ [notification]) :=
  ⟨(well.later later).addNotification (ready.1.sound (ready.2.trans later)) stored,
    logged.addNotification ready.1 stored⟩

/-- A call's next section keeps the store well formed and logged, and leaves
the call, if it goes on, building fresh notifications. -/
theorem advanceCall_invariant {call : NotificationCall} (ready : call.Ready clock)
    (well : WellStored service clock) (logged : Logged service log) (later : clock ≤ now) :
    WellStored (advanceCall service now call).1 now ∧
      Logged (advanceCall service now call).1 (log ++ call.stores service) ∧
      ∀ next ∈ (advanceCall service now call).2, next.Ready now := by
  have kept := well.later later
  cases call with
  | send userID outgoing =>
      have ready : outgoing.Ready userID clock := ready
      cases outgoing with
      | drafted make =>
          exact ⟨kept, logged.append _, fun _ next => Option.mem_some_iff.mp next ▸
            Outgoing.ready_identified ready⟩
      | identified make =>
          exact ⟨kept, logged.append _, fun _ next => Option.mem_some_iff.mp next ▸
            Outgoing.ready_built ready⟩
      | built notification =>
          simp only [advanceCall, NotificationCall.stores]
          cases stored : addNotification userID notification service with
          | error => exact ⟨kept, logged.append _, fun _ next => by cases next⟩
          | ok added =>
              obtain ⟨addedWell, addedLogged⟩ := addNotification_invariant ready well logged later stored
              exact ⟨addedWell, addedLogged, fun _ next => by cases next⟩
  | notify enabled make streamerID followers current =>
      obtain ⟨fresh, building⟩ := ready
      rcases current with _ | ⟨followerID, outgoing⟩
      · cases followers with
        | nil => exact ⟨kept, logged.append _, fun _ next => by cases next⟩
        | cons followerID rest =>
            refine ⟨?_, ?_, fun next member => ?_⟩
            · simp only [advanceCall]; split_ifs <;> exact kept
            · simp only [advanceCall]; split_ifs <;> exact logged.append _
            · simp only [advanceCall] at member
              split_ifs at member <;> cases Option.mem_some_iff.mp member
              · exact ⟨fresh, fun _ _ current => by
                  cases current; exact fun idAt createdAt => fresh followerID idAt createdAt⟩
              · exact ⟨fresh, fun _ _ current => by cases current⟩
      · have outgoingReady := building followerID outgoing rfl
        cases outgoing with
        | drafted build =>
            exact ⟨kept, logged.append _, fun _ next => Option.mem_some_iff.mp next ▸
              ⟨fresh, fun _ _ current => by
                cases current; exact Outgoing.ready_identified outgoingReady⟩⟩
        | identified build =>
            exact ⟨kept, logged.append _, fun _ next => Option.mem_some_iff.mp next ▸
              ⟨fresh, fun _ _ current => by
                cases current; exact Outgoing.ready_built outgoingReady⟩⟩
        | built notification =>
            simp only [advanceCall, NotificationCall.stores]
            cases stored : addNotification followerID notification service with
            | error => exact ⟨kept, logged.append _, fun _ next => by cases next⟩
            | ok added =>
                obtain ⟨addedWell, addedLogged⟩ :=
                  addNotification_invariant outgoingReady well logged later stored
                exact ⟨addedWell, addedLogged, fun _ next => Option.mem_some_iff.mp next ▸
                  ⟨fresh, fun _ _ current => by cases current⟩⟩

/-- A call's first section keeps the store well formed and logged, and starts
a call that builds fresh notifications. -/
theorem beginCall_invariant (well : WellStored service clock) (logged : Logged service log)
    (later : clock ≤ now) (event : NotificationEvent) :
    WellStored (beginCall service now event).1 now ∧ Logged (beginCall service now event).1 log ∧
      ∀ call ∈ (beginCall service now event).2, call.Ready now := by
  have kept := well.later later
  have none : ∀ call ∈ (none : Option NotificationCall), call.Ready now := fun _ absent => by
    cases absent
  cases event with
  | subscribe =>
      refine ⟨?_, ?_, none⟩ <;> dsimp only [beginCall, notificationStep, subscribe] <;> split_ifs
      exacts [kept, kept.of_store rfl rfl, logged, logged.of_store rfl]
  | unsubscribe => exact ⟨kept.of_store rfl rfl, logged.of_store rfl, none⟩
  | registerNotificationHandler => exact ⟨kept.of_store rfl rfl, logged.of_store rfl, none⟩
  | markAsRead userID notificationID =>
      exact ⟨well.markAsRead later userID notificationID, logged.markAsRead userID notificationID, none⟩
  | markAllAsRead userID => exact ⟨well.markAllAsRead later userID, logged.markAllAsRead userID, none⟩
  | cleanupExpiredNotifications =>
      exact ⟨well.cleanupExpiredNotifications later, logged.cleanupExpiredNotifications, none⟩
  | notifyStreamStarted | notifyStreamEnded =>
      exact ⟨kept, logged, fun _ call => Option.mem_some_iff.mp call ▸
        ⟨fun _ _ _ => ⟨rfl, rfl, rfl, rfl⟩, fun _ _ current => by cases current⟩⟩
  | sendNotification =>
      exact ⟨kept, logged, fun _ call => Option.mem_some_iff.mp call ▸
        fun _ _ => ⟨rfl, rfl, rfl, rfl⟩⟩

end Calls

/-- Every action at a later reading keeps the invariant, with the log grown by
what the action stored. -/
theorem SystemInvariant.step {system : NotificationSystem} {clock now : Int} {log : List Notification}
    (invariant : SystemInvariant system clock log) (later : clock ≤ now) :
    ∀ action, SystemInvariant (notificationSystemStep system now action) now (log ++ storedBy system action)
  | .call event => by
      obtain ⟨well, logged, started⟩ :=
        beginCall_invariant invariant.stored invariant.logged later event
      refine ⟨well, by rw [storedBy, List.append_nil]; exact logged, fun call member => ?_⟩
      rcases List.mem_append.mp member with old | new
      · exact (invariant.ready call old).later later
      · exact started call (Option.mem_toList.mp new)
  | .advance index => by
      rw [storedBy]
      cases found : system.calls[index]? with
      | none =>
          rw [Option.map_none', Option.getD_none, List.append_nil]
          simp only [notificationSystemStep, found]
          exact ⟨invariant.stored.later later, invariant.logged,
            fun call member => (invariant.ready call member).later later⟩
      | some call =>
          obtain ⟨well, logged, next⟩ := advanceCall_invariant
            (invariant.ready call (List.getElem?_mem found)) invariant.stored invariant.logged later
          simp only [notificationSystemStep, found, Option.map_some', Option.getD_some]
          refine ⟨well, logged, fun other member => ?_⟩
          split at member
          · rename_i going
            rcases List.mem_or_eq_of_mem_set member with old | rfl
            · exact (invariant.ready other old).later later
            · exact next other going
          · exact (invariant.ready other (List.mem_of_mem_eraseIdx member)).later later

theorem NotificationSystemReachable.invariant {config : Option NotificationConfig}
    {system : NotificationSystem} {clock : Int} {log : List Notification}
    (reach : NotificationSystemReachable config system clock log) : SystemInvariant system clock log := by
  induction reach with
  | new clock => exact ⟨wellStored_new config clock, logged_new config, fun _ absent => by cases absent⟩
  | step now action _ later inductionHypothesis => exact inductionHypothesis.step later action

/-- A call's next section leaves the service, or is an `addNotification` that
stores. -/
theorem advanceCall_service (service : NotificationService) (now : Int) (call : NotificationCall) :
    (advanceCall service now call).1 = service ∨
      ∃ userID notification,
        addNotification userID notification service = .ok (advanceCall service now call).1 := by
  rcases call with _ | ⟨_, _, _, followers, _ | ⟨followerID, _ | _ | notification⟩⟩
  · rename_i userID outgoing
    rcases outgoing with _ | _ | notification
    · exact .inl rfl
    · exact .inl rfl
    · simp only [advanceCall]
      cases stored : addNotification userID notification service
      exacts [.inl rfl, .inr ⟨_, _, stored⟩]
  · cases followers
    · exact .inl rfl
    · simp only [advanceCall]; split_ifs <;> exact .inl rfl
  · exact .inl rfl
  · exact .inl rfl
  · simp only [advanceCall]
    cases stored : addNotification followerID notification service
    exacts [.inl rfl, .inr ⟨_, _, stored⟩]

theorem NotificationSystemReachable.config_eq {config : Option NotificationConfig}
    {system : NotificationSystem} {clock : Int} {log : List Notification}
    (reach : NotificationSystemReachable config system clock log) :
    system.service.config = config.getD defaultNotificationConfig := by
  induction reach with
  | new => rfl
  | @step system _ _ now action _ _ inductionHypothesis =>
      rw [← inductionHypothesis]
      cases action with
      | call event =>
          show (beginCall system.service now event).1.config = _
          cases event with
          | subscribe => dsimp only [beginCall, notificationStep, subscribe]; split_ifs <;> rfl
          | markAsRead => exact (markAsRead_notificationsOnly ..).config
          | markAllAsRead => exact (markAllAsRead_notificationsOnly ..).config
          | cleanupExpiredNotifications => exact (cleanupExpiredNotifications_notificationsOnly ..).config
          | _ => rfl
      | advance index =>
          simp only [notificationSystemStep]
          split
          · rfl
          · rename_i call _
            rcases advanceCall_service system.service now call with same | ⟨_, _, stored⟩
            · exact congrArg NotificationService.config same
            · exact (addNotification_notificationsOnly stored).config

/-! ## Over every interleaved run -/

/-- Over every interleaved run from `NewNotificationService` whose clock
readings never go back, each user's stored notifications are addressed to the
user, carry a read time exactly when they are read, one between their creation
and the clock, were created by the clock, and number at most
`MaxNotificationsPerUser`. -/
theorem notification_store_well_formed {config : Option NotificationConfig}
    {system : NotificationSystem} {clock : Int} {log : List Notification}
    (reach : NotificationSystemReachable config system clock log) :
    ∀ userID userNotifications, system.service.notifications.lookup userID = some userNotifications →
      (∀ notification ∈ userNotifications,
        notification.userID = userID ∧ notification.isRead = notification.readAt.isSome ∧
          notification.createdAt ≤ clock ∧
          ∀ readAt ∈ notification.readAt, notification.createdAt ≤ readAt ∧ readAt ≤ clock) ∧
      userNotifications.length ≤ (config.getD defaultNotificationConfig).maxNotificationsPerUser.toNat :=
  fun userID userNotifications found =>
    have stored := reach.invariant.stored userID userNotifications found
    ⟨fun notification member =>
      have sound := stored.sound notification member
      ⟨sound.addressed, sound.flagged, sound.created, sound.readBetween⟩,
      reach.config_eq ▸ stored.capped⟩

/-- Two `SendNotification`s to alice overlap: the first reads the clock at 1,
the second at 2, and the second takes the lock first, at 3. -/
def overlappingSendActions : List (Int × NotificationAction) :=
  [(1, .call (.sendNotification "alice" "custom" "First" "" priorityLow "" [])),
    (1, .advance 0), (1, .advance 0),
    (2, .call (.sendNotification "alice" "custom" "Second" "" priorityLow "" [])),
    (2, .advance 1), (2, .advance 1), (3, .advance 1), (4, .advance 0)]

def overlappingSends : NotificationSystem :=
  notificationSystemRun ⟨NotificationService.new none, []⟩ overlappingSendActions

theorem overlappingSends_reachable :
    ∃ clock log, NotificationSystemReachable none overlappingSends clock log := by
  obtain ⟨clock, -, log, reach⟩ := NotificationSystemReachable.run overlappingSendActions
    (NotificationSystemReachable.new 0 : NotificationSystemReachable none _ 0 [])
    (show ClockFrom 0 overlappingSendActions 4 by simp only [overlappingSendActions, ClockFrom]; decide)
  exact ⟨clock, log, reach⟩

/-- Alice's list holds both notifications, each well formed. -/
theorem overlapping_sends_well_formed :
    ∃ clock log, NotificationSystemReachable none overlappingSends clock log ∧
      ∀ userID userNotifications,
        overlappingSends.service.notifications.lookup userID = some userNotifications →
        (∀ notification ∈ userNotifications,
          notification.userID = userID ∧ notification.isRead = notification.readAt.isSome ∧
            notification.createdAt ≤ clock ∧
            ∀ readAt ∈ notification.readAt, notification.createdAt ≤ readAt ∧ readAt ≤ clock) ∧
        userNotifications.length ≤
          ((none : Option NotificationConfig).getD defaultNotificationConfig).maxNotificationsPerUser.toNat :=
  let ⟨clock, log, reach⟩ := overlappingSends_reachable
  ⟨clock, log, reach, notification_store_well_formed reach⟩

/-- The send that read the clock first stored last, so `GetNotifications`
lists the older notification first. -/
theorem overlapping_sends_listed_oldest_first :
    (∃ clock log, NotificationSystemReachable none overlappingSends clock log) ∧
      (getNotifications "alice" false 10 overlappingSends.service).map Notification.createdAt =
        [1, 2] :=
  ⟨overlappingSends_reachable, by decide⟩

end LiveStreaming.Notifications
