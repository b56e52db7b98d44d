import LiveStreaming.Chat.Failure
import LiveStreaming.Chat.Run

/-!
# Bans, mutes and the moderator set

A ban is recorded in `BannedUsers` and refuses `JoinChatRoom` until it
expires, but `SendMessage` never reads `BannedUsers`: its auto-registration
lets a banned identity back in. `BanParticipant` drops the participant record
without dropping the moderator mark, which `LeaveChatRoom` does drop, so a
banned moderator keeps moderating.

A mute is the `IsMuted` flag of the current participant record. It holds for
its whole duration as long as the record is not replaced (by a join) or
dropped (by a leave or a ban, after which `SendMessage` registers a fresh,
unmuted record), and as long as no unmute goroutine of an earlier mute of the
same participant is still pending: such a goroutine clears the flag whatever
mute set it.
-/

namespace LiveStreaming.Chat

/-! ## Other participants' records -/

section Frame

variable {now : Int} {room : ChatRoom} {participantID other : ParticipantIdentity}

theorem joinChatRoom_participants_of_ne {participantName : String} {isModerator : Bool}
    (different : other ≠ participantID) :
    (joinChatRoom now participantID participantName isModerator room).room.participants other =
      room.participants other := by
  unfold joinChatRoom
  split
  · split
    · rfl
    · exact Function.update_noteq different _ _
  · exact Function.update_noteq different _ _

theorem leaveChatRoom_participants_of_ne (different : other ≠ participantID) :
    (leaveChatRoom now participantID room).room.participants other = room.participants other := by
  unfold leaveChatRoom
  split
  · rfl
  · exact Function.update_noteq different _ _

theorem banParticipant_participants_of_ne {moderatorID : ParticipantIdentity} {duration : Int}
    (different : other ≠ participantID) :
    (banParticipant now participantID moderatorID duration room).room.participants other =
      room.participants other := by
  unfold banParticipant
  split
  · rfl
  · exact Function.update_noteq different _ _

theorem muteParticipant_participants_of_ne {moderatorID : ParticipantIdentity} {duration : Int}
    (different : other ≠ participantID) :
    (muteParticipant now participantID moderatorID duration room).room.participants other =
      room.participants other := by
  unfold muteParticipant
  split
  · rfl
  · split
    · rfl
    · exact Function.update_noteq different _ _

theorem expireMute_participants_of_ne (different : other ≠ participantID) :
    (expireMute participantID room).participants other = room.participants other := by
  unfold expireMute
  split
  · rfl
  · exact Function.update_noteq different _ _

theorem deleteMessage_participants {messageID : ChatMessageId}
    {moderatorID : ParticipantIdentity} :
    (deleteMessage messageID moderatorID room).room.participants = room.participants := by
  unfold deleteMessage
  split
  · rfl
  · split <;> rfl

/-- While a participant's record is muted, no `SendMessage` touches it: its
own are refused and the others write only their senders' records. -/
theorem sendMessage_participants_of_muted {badWords : List String} {content : String}
    {messageType : ChatMessageType} {mentionedUsers : List ParticipantIdentity}
    {replyTo : Option String} {participant : ChatParticipant}
    (present : room.participants other = some participant) (muted : participant.isMuted = true) :
    (sendMessage badWords now participantID content messageType mentionedUsers replyTo
      room).room.participants other = room.participants other := by
  by_cases same : other = participantID
  · subst same
    simp [sendMessage, sendAs, registerSender, present, muted]
  · rcases sendAs_cases badWords now participantID content messageType mentionedUsers replyTo
        (registerSender now participantID room).1 (registerSender now participantID room).2 with
      ⟨_, rejected⟩ | ⟨-, -, -, -, accepted⟩
    · simp only [sendMessage, rejected]
      unfold registerSender
      split <;> simp only [Function.update_noteq same]
    · simp only [sendMessage, accepted, appendSent, Function.update_noteq same]
      unfold registerSender
      split <;> simp only [Function.update_noteq same]

end Frame

/-! ## A mute in force -/

/-- `event` at `now` spares the mute of `participantID`: it does not join, leave
or ban it, and a mute of it fails. -/
def SparesMuteOf (participantID : ParticipantIdentity) (room : ChatRoom) (now : Int) :
    ChatEvent → Prop
  | .join other _ _ => other ≠ participantID
  | .leave other => other ≠ participantID
  | .ban other _ _ => other ≠ participantID
  | .mute other moderatorID duration =>
      other = participantID → (muteParticipant now other moderatorID duration room).result.isOk = false
  | _ => True

/-- Every event of a run spares the mute of `participantID`. -/
def MuteKept (participantID : ParticipantIdentity) : LiveChat → List (Int × ChatEvent) → Prop
  | _, [] => True
  | state, (now, event) :: rest =>
      SparesMuteOf participantID state.room now event ∧
        MuteKept participantID (chatStep state now event) rest

/-- The mute of `participantID` that took effect at `mutedAt` for `duration` is
still in force, and no pending unmute goroutine of it wakes before
`mutedAt + duration`. -/
structure MuteInForce (participantID : ParticipantIdentity) (mutedAt duration : Int)
    (state : LiveChat) : Prop where
  muted : ∃ participant, state.room.participants participantID = some participant ∧
    participant.isMuted = true
  pendingLate : ∀ timer ∈ state.timers, timer.participantID = participantID →
    0 < duration ∧ mutedAt + duration ≤ timer.wakeAt

/-- The goroutine a successful mute starts unmutes the muted participant. -/
theorem muteParticipant_timer {now duration : Int} {room : ChatRoom}
    {participantID moderatorID : ParticipantIdentity} {timer : UnmuteTimer}
    (scheduled : (muteParticipant now participantID moderatorID duration room).result =
      .ok (some timer)) :
    timer = ⟨participantID, now + duration⟩ ∧ 0 < duration := by
  unfold muteParticipant at scheduled
  split at scheduled
  · cases scheduled
  · split at scheduled
    · cases scheduled
    · split at scheduled <;> cases scheduled
      exact ⟨rfl, ‹_›⟩

section InForce

variable {participantID : ParticipantIdentity} {mutedAt duration : Int}

theorem MuteInForce.of_mute {state : LiveChat} {moderatorID : ParticipantIdentity}
    (succeeded : (muteParticipant mutedAt participantID moderatorID duration state.room).result.isOk)
    (noEarlierTimer : ∀ timer ∈ state.timers, timer.participantID = participantID →
      0 < duration ∧ mutedAt + duration ≤ timer.wakeAt) :
    MuteInForce participantID mutedAt duration
      (chatStep state mutedAt (.mute participantID moderatorID duration)) := by
  have isModerator : state.room.moderators moderatorID = true := by
    by_contra notModerator
    simp [muteParticipant, notModerator, Except.isOk, Except.toBool] at succeeded
  obtain ⟨participant, present⟩ :
      ∃ participant, state.room.participants participantID = some participant := by
    cases found : state.room.participants participantID with
    | none => simp [muteParticipant, isModerator, found, Except.isOk, Except.toBool] at succeeded
    | some participant => exact ⟨participant, rfl⟩
  refine ⟨⟨{ participant with isMuted := true }, ?_, rfl⟩, ?_⟩
  · simp [chatStep, muteParticipant, isModerator, present]
  · intro timer pending sameParticipant
    rcases mem_scheduleUnmute.mp pending with earlier | scheduled
    · exact noEarlierTimer timer earlier sameParticipant
    · obtain ⟨rfl, positive⟩ := muteParticipant_timer scheduled
      exact ⟨positive, le_refl _⟩

/-- A step that spares the mute and comes before its end keeps it in force. -/
theorem MuteInForce.step {state : LiveChat} {now : Int} {event : ChatEvent}
    (inForce : MuteInForce participantID mutedAt duration state)
    (spares : SparesMuteOf participantID state.room now event)
    (early : 0 < duration → now < mutedAt + duration) :
    MuteInForce participantID mutedAt duration (chatStep state now event) := by
  obtain ⟨participant, present, muted⟩ := inForce.muted
  have kept : ∀ room : ChatRoom, room.participants participantID = state.room.participants participantID →
      ∀ timers : List UnmuteTimer, (∀ timer ∈ timers, timer ∈ state.timers) →
        MuteInForce participantID mutedAt duration ⟨room, timers⟩ :=
    fun room same timers older =>
      ⟨⟨participant, same.trans present, muted⟩,
        fun timer pending => inForce.pendingLate timer (older timer pending)⟩
  cases event with
  | join other participantName isModerator =>
      exact kept _ (joinChatRoom_participants_of_ne (Ne.symm spares)) _ fun _ => id
  | leave other =>
      exact kept _ (leaveChatRoom_participants_of_ne (Ne.symm spares)) _ fun _ => id
  | send senderID content messageType mentionedUsers replyTo =>
      exact kept _ (sendMessage_participants_of_muted present muted) _ fun _ => id
  | delete messageID moderatorID =>
      exact kept _ (congrFun deleteMessage_participants _) _ fun _ => id
  | ban other moderatorID banDuration =>
      exact kept _ (banParticipant_participants_of_ne (Ne.symm spares)) _ fun _ => id
  | mute other moderatorID muteDuration =>
      by_cases same : other = participantID
      · subst same
        cases result : (muteParticipant now other moderatorID muteDuration state.room).result with
        | error err =>
            simp only [chatStep, result, scheduleUnmute,
              muteParticipant_room_of_error result]
            exact inForce
        | ok scheduled =>
            have := spares rfl
            rw [result] at this
            cases this
      · refine ⟨⟨participant, (muteParticipant_participants_of_ne (Ne.symm same)).trans present,
          muted⟩, fun timer pending sameParticipant => ?_⟩
        rcases mem_scheduleUnmute.mp pending with earlier | scheduled
        · exact inForce.pendingLate timer earlier sameParticipant
        · rw [(muteParticipant_timer scheduled).1] at sameParticipant
          exact absurd sameParticipant same
  | unmute timer =>
      simp only [chatStep]
      split
      · rename_i fires
        by_cases same : timer.participantID = participantID
        · have late := inForce.pendingLate timer fires.1 same
          exact absurd (early late.1) (not_lt.mpr (le_trans late.2 fires.2))
        · exact kept _ (expireMute_participants_of_ne (Ne.symm same)) _
            fun _ pending => List.mem_of_mem_erase pending
      · exact inForce

/-- A run of sparing steps that ends before the mute does keeps it in force. -/
theorem MuteInForce.run {state : LiveChat} {start finish : Int}
    {events : List (Int × ChatEvent)}
    (inForce : MuteInForce participantID mutedAt duration state)
    (ordered : ClockFrom start events finish)
    (early : 0 < duration → finish < mutedAt + duration)
    (kept : MuteKept participantID state events) :
    MuteInForce participantID mutedAt duration (chatRun state events) := by
  induction events generalizing state start with
  | nil => exact inForce
  | cons event rest inductionHypothesis =>
      obtain ⟨now, event⟩ := event
      obtain ⟨-, ordered⟩ := ordered
      obtain ⟨spares, kept⟩ := kept
      exact inductionHypothesis
        (inForce.step spares fun positive => lt_of_le_of_lt ordered.le (early positive))
        ordered kept

theorem sendMessage_of_muteInForce {state : LiveChat} {badWords : List String} {now : Int}
    {content : String} {messageType : ChatMessageType}
    {mentionedUsers : List ParticipantIdentity} {replyTo : Option String}
    (inForce : MuteInForce participantID mutedAt duration state) :
    (sendMessage badWords now participantID content messageType mentionedUsers replyTo
      state.room).result = .error .participantMuted := by
  obtain ⟨participant, present, muted⟩ := inForce.muted
  simp [sendMessage, sendAs, registerSender, present, muted]

end InForce

/-- A mute stays in force for its whole duration through every run that
neither joins, leaves nor bans the participant nor mutes it again, provided no
unmute goroutine of an earlier mute of it could wake before this mute ends: no
`SendMessage` of the participant gets through before `mutedAt + duration`
(never, for a duration that is not positive). -/
theorem mute_holds_for_its_duration (state : LiveChat) (mutedAt : Int)
    (participantID moderatorID : ParticipantIdentity) (duration : Int)
    (succeeded : (muteParticipant mutedAt participantID moderatorID duration state.room).result.isOk)
    (noEarlierTimer : ∀ timer ∈ state.timers, timer.participantID = participantID →
      0 < duration ∧ mutedAt + duration ≤ timer.wakeAt)
    (events : List (Int × ChatEvent)) (sentAt : Int)
    (ordered : ClockFrom mutedAt events sentAt)
    (early : 0 < duration → sentAt < mutedAt + duration)
    (kept : MuteKept participantID
      (chatStep state mutedAt (.mute participantID moderatorID duration)) events)
    (content : String) (messageType : ChatMessageType)
    (mentionedUsers : List ParticipantIdentity) (replyTo : Option String) :
    (sendMessage newChatServiceBadWords sentAt participantID content messageType mentionedUsers
      replyTo (chatRun (chatStep state mutedAt (.mute participantID moderatorID duration))
        events).room).result = .error .participantMuted :=
  sendMessage_of_muteInForce ((MuteInForce.of_mute succeeded noEarlierTimer).run ordered early kept)

/-! ## Runs from a fresh room -/

/-- A default room where `alice` joined as moderator and `bob` as a viewer. -/
def moderatedChat : LiveChat :=
  chatStep (chatStep ⟨ChatRoom.new "r1" 0 defaultChatRoomSettings, []⟩ 1
    (.join "alice" "Alice" true)) 2 (.join "bob" "Bob" false)

theorem moderatedChat_reachable : ChatReachable "r1" 0 defaultChatRoomSettings moderatedChat 2 :=
  .step _ (.step _ .created (by decide)) (by decide)

/-- `bob`, muted for a minute at 3, cannot send at 5 while `carol` chats at 4. -/
theorem mute_holds_while_others_chat :
    (sendMessage newChatServiceBadWords 5 "bob" "hi" "text" [] none
      (chatRun (chatStep moderatedChat 3 (.mute "bob" "alice" 60000000000))
        [(4, .send "carol" "hi" "text" [] none)]).room).result = .error .participantMuted :=
  mute_holds_for_its_duration moderatedChat 3 "bob" "alice" 60000000000 (by decide)
    (fun _ pending => absurd pending (List.not_mem_nil _))
    [(4, .send "carol" "hi" "text" [] none)] 5 (by simp [ClockFrom]) (fun _ => by decide)
    ⟨trivial, trivial⟩ "hi" "text" [] none

/-- Re-joining replaces the muted record: `bob`, muted for an hour at 3, joins
again at 4 and sends at 5. -/
theorem rejoin_lifts_mute :
    (muteParticipant 3 "bob" "alice" 3600000000000 moderatedChat.room).result.isOk = true ∧
      (sendMessage newChatServiceBadWords 5 "bob" "hi" "text" [] none
        (chatStep (chatStep moderatedChat 3 (.mute "bob" "alice" 3600000000000)) 4
          (.join "bob" "Bob" false)).room).result.isOk = true := by
  decide

/-- The room after `alice` joins as moderator at 1 and bans `bob` for an hour
at 2. -/
def bannedBobChat : LiveChat :=
  chatStep (chatStep ⟨ChatRoom.new "r1" 0 defaultChatRoomSettings, []⟩ 1
    (.join "alice" "Alice" true)) 2 (.ban "bob" "alice" 3600000000000)

/-- At 3 the banned `bob` may not join, yet his message is accepted, and he is
registered again. -/
theorem banned_identity_still_sends :
    ChatReachable "r1" 0 defaultChatRoomSettings bannedBobChat 2 ∧
      bannedBobChat.room.bannedUsers "bob" = some 3600000000002 ∧
      (joinChatRoom 3 "bob" "Bob" false bannedBobChat.room).result.isOk = false ∧
      (sendMessage newChatServiceBadWords 3 "bob" "hi" "text" [] none
        bannedBobChat.room).result.isOk = true ∧
      ((sendMessage newChatServiceBadWords 3 "bob" "hi" "text" [] none
        bannedBobChat.room).room.messages.getLast?.map ChatMessage.senderID) = some "bob" ∧
      ((sendMessage newChatServiceBadWords 3 "bob" "hi" "text" [] none
        bannedBobChat.room).room.participants "bob").isSome = true :=
  ⟨.step _ (.step _ .created (by decide)) (by decide), by decide, by decide, by decide,
    by decide, by decide⟩

/-- The room after `alice` and `bob` join as moderators at 1 and 2 and `alice`
bans `bob` for an hour at 3. -/
def bannedModeratorChat : LiveChat :=
  chatStep (chatStep (chatStep ⟨ChatRoom.new "r1" 0 defaultChatRoomSettings, []⟩ 1
    (.join "alice" "Alice" true)) 2 (.join "bob" "Bob" true)) 3
    (.ban "bob" "alice" 3600000000000)

/-- The banned moderator's record is gone but his moderator mark stays, and at
4 he still bans `alice`. -/
theorem banned_moderator_keeps_moderating :
    ChatReachable "r1" 0 defaultChatRoomSettings bannedModeratorChat 3 ∧
      bannedModeratorChat.room.participants "bob" = none ∧
      bannedModeratorChat.room.moderators "bob" = true ∧
      (banParticipant 4 "alice" "bob" 60000000000 bannedModeratorChat.room).result.isOk = true :=
  ⟨.step _ (.step _ (.step _ .created (by decide)) (by decide)) (by decide), by decide,
    by decide, by decide⟩

end LiveStreaming.Chat
