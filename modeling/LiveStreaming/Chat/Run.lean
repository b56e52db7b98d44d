import LiveStreaming.Chat.Operations

/-!
# Runs of a chat room

A run interleaves the six room operations with the unmute goroutines that
`MuteParticipant` leaves pending. `LiveChat` pairs the room with those pending
goroutines; `chatStep` applies one timed event, keeping whatever the operation
left in the room also when it returned an error, and `ChatReachable` collects
the states a room created by `CreateChatRoom` reaches under non-decreasing
clock readings. An unmute event fires only a goroutine that is pending and
whose sleep is over; any other unmute event changes nothing.

`chatStep_messages` says once what a step can do to the log: keep it up to the
moderation flags, append a system notice, or append the message of a
`SendMessage` that passed all of its checks.
-/

namespace LiveStreaming.Chat

/-- A chat room together with the unmute goroutines that have not run yet. -/
structure LiveChat where
  room : ChatRoom
  timers : List UnmuteTimer

/-- One call on the room, or one wake-up of a pending unmute goroutine. -/
inductive ChatEvent where
  | join (participantID : ParticipantIdentity) (participantName : String) (isModerator : Bool)
  | leave (participantID : ParticipantIdentity)
  | send (senderID : ParticipantIdentity) (content : String) (messageType : ChatMessageType)
      (mentionedUsers : List ParticipantIdentity) (replyTo : Option String)
  | delete (messageID : ChatMessageId) (moderatorID : ParticipantIdentity)
  | mute (participantID moderatorID : ParticipantIdentity) (duration : Int)
  | ban (participantID moderatorID : ParticipantIdentity) (duration : Int)
  | unmute (timer : UnmuteTimer)
  deriving DecidableEq, Repr

/-- The pending goroutines after a `MuteParticipant` call. -/
def scheduleUnmute (timers : List UnmuteTimer) :
    Except ChatError (Option UnmuteTimer) → List UnmuteTimer
  | .ok (some timer) => timers ++ [timer]
  | _ => timers

theorem mem_scheduleUnmute {timer : UnmuteTimer} {timers : List UnmuteTimer}
    {result : Except ChatError (Option UnmuteTimer)} :
    timer ∈ scheduleUnmute timers result ↔ timer ∈ timers ∨ result = .ok (some timer) := by
  unfold scheduleUnmute
  split <;> simp_all [eq_comm]

/-- One event at clock reading `now`. -/
def chatStep (state : LiveChat) (now : Int) : ChatEvent → LiveChat
  | .join participantID participantName isModerator =>
      { state with
        room := (joinChatRoom now participantID participantName isModerator state.room).room }
  | .leave participantID =>
      { state with room := (leaveChatRoom now participantID state.room).room }
  | .send senderID content messageType mentionedUsers replyTo =>
      { state with
        room := (sendMessage newChatServiceBadWords now senderID content messageType
          mentionedUsers replyTo state.room).room }
  | .delete messageID moderatorID =>
      { state with room := (deleteMessage messageID moderatorID state.room).room }
  | .mute participantID moderatorID duration =>
      let outcome := muteParticipant now participantID moderatorID duration state.room
      { room := outcome.room, timers := scheduleUnmute state.timers outcome.result }
  | .ban participantID moderatorID duration =>
      { state with room := (banParticipant now participantID moderatorID duration state.room).room }
  | .unmute timer =>
      if timer ∈ state.timers ∧ timer.wakeAt ≤ now then
        { room := expireMute timer.participantID state.room, timers := state.timers.erase timer }
      else state

/-- A run of timed events. -/
def chatRun : LiveChat → List (Int × ChatEvent) → LiveChat
  | state, [] => state
  | state, (now, event) :: rest => chatRun (chatStep state now event) rest

/-- The states a room created at `createdAt` with `settings` reaches, with the
clock reading of the last step. -/
inductive ChatReachable (roomName : RoomName) (createdAt : Int) (settings : ChatRoomSettings) :
    LiveChat → Int → Prop
  | created : ChatReachable roomName createdAt settings
      ⟨ChatRoom.new roomName createdAt settings, []⟩ createdAt
  | step {state : LiveChat} {clock now : Int} (event : ChatEvent) :
      ChatReachable roomName createdAt settings state clock → clock ≤ now →
      ChatReachable roomName createdAt settings (chatStep state now event) now

/-! ## What one step does to the settings and the log -/

section Frame

variable {now : Int} {room : ChatRoom}

@[simp]
theorem registerSender_messages (senderID : ParticipantIdentity) :
    (registerSender now senderID room).2.messages = room.messages := by
  unfold registerSender; split <;> rfl

@[simp]
theorem registerSender_settings (senderID : ParticipantIdentity) :
    (registerSender now senderID room).2.settings = room.settings := by
  unfold registerSender; split <;> rfl

@[simp]
theorem registerSender_roomName (senderID : ParticipantIdentity) :
    (registerSender now senderID room).2.roomName = room.roomName := by
  unfold registerSender; split <;> rfl

@[simp]
theorem expireMute_messages (participantID : ParticipantIdentity) :
    (expireMute participantID room).messages = room.messages := by
  unfold expireMute; split <;> rfl

@[simp]
theorem expireMute_settings (participantID : ParticipantIdentity) :
    (expireMute participantID room).settings = room.settings := by
  unfold expireMute; split <;> rfl

theorem countRecentMessages_registerSender (senderID other : ParticipantIdentity)
    (duration : Int) :
    countRecentMessages now (registerSender now senderID room).2 other duration =
      countRecentMessages now room other duration := by
  simp only [countRecentMessages, registerSender_messages]

theorem slowModeActive_registerSender (senderID other : ParticipantIdentity) :
    slowModeActive now (registerSender now senderID room).2 other =
      slowModeActive now room other := by
  simp only [slowModeActive, getLastMessage, registerSender_messages, registerSender_settings]

/-- Flagging a message for deletion keeps every message's other fields. -/
theorem markDeleted_withoutFlags (messageID : ChatMessageId) :
    ∀ {messages marked : List ChatMessage}, markDeleted messageID messages = some marked →
      marked.map ChatMessage.withoutFlags = messages.map ChatMessage.withoutFlags
  | [], _, found => by cases found
  | msg :: rest, marked, found => by
      unfold markDeleted at found
      split at found
      · cases found; rfl
      · obtain ⟨markedRest, foundRest, rfl⟩ := Option.map_eq_some'.mp found
        simp only [List.map_cons, markDeleted_withoutFlags messageID foundRest]

end Frame

theorem chatStep_settings (state : LiveChat) (now : Int) (event : ChatEvent) :
    (chatStep state now event).room.settings = state.room.settings := by
  cases event with
  | send senderID content messageType mentionedUsers replyTo =>
      rcases sendAs_cases newChatServiceBadWords now senderID content messageType
          mentionedUsers replyTo (registerSender now senderID state.room).1
          (registerSender now senderID state.room).2 with ⟨_, rejected⟩ | ⟨-, -, -, -, accepted⟩
      · simp only [chatStep, sendMessage, rejected, registerSender_settings]
      · simp only [chatStep, sendMessage, accepted, appendSent, registerSender_settings]
  | unmute timer =>
      simp only [chatStep]; split <;> simp only [expireMute_settings]
  | join | leave | delete | mute | ban =>
      simp only [chatStep, joinChatRoom, leaveChatRoom, deleteMessage, muteParticipant,
        banParticipant]
      repeat' split
      all_goals rfl

/-- What one step does to the log: keep it up to the moderation flags, append a
system notice, or append the message of a `SendMessage` that passed its rate
and slow-mode checks. -/
theorem chatStep_messages (state : LiveChat) (now : Int) (event : ChatEvent) :
    (chatStep state now event).room.messages.map ChatMessage.withoutFlags =
        state.room.messages.map ChatMessage.withoutFlags ∨
      (∃ content, (chatStep state now event).room.messages =
        state.room.messages ++ [systemMessage state.room now content]) ∨
      (∃ senderID content messageType mentionedUsers replyTo,
        event = .send senderID content messageType mentionedUsers replyTo ∧
        ¬ state.room.settings.maxMessagesPerMin ≤
          countRecentMessages now state.room senderID minute ∧
        slowModeActive now state.room senderID = false ∧
        (chatStep state now event).room.messages = state.room.messages ++
          [sentMessage newChatServiceBadWords now senderID content messageType mentionedUsers
            replyTo (registerSender now senderID state.room).1
            (registerSender now senderID state.room).2]) := by
  cases event with
  | join participantID participantName isModerator =>
      simp only [chatStep, joinChatRoom]
      split
      · split
        · exact .inl rfl
        · exact .inr (.inl ⟨_, rfl⟩)
      · exact .inr (.inl ⟨_, rfl⟩)
  | leave participantID =>
      simp only [chatStep, leaveChatRoom]
      split
      · exact .inl rfl
      · exact .inr (.inl ⟨_, rfl⟩)
  | send senderID content messageType mentionedUsers replyTo =>
      rcases sendAs_cases newChatServiceBadWords now senderID content messageType
          mentionedUsers replyTo (registerSender now senderID state.room).1
          (registerSender now senderID state.room).2 with
        ⟨_, rejected⟩ | ⟨-, -, limited, slow, accepted⟩
      · left
        simp only [chatStep, sendMessage, rejected, registerSender_messages]
      · rw [countRecentMessages_registerSender, registerSender_settings] at limited
        rw [slowModeActive_registerSender] at slow
        refine .inr (.inr ⟨senderID, content, messageType, mentionedUsers, replyTo, rfl,
          limited, slow, ?_⟩)
        simp only [chatStep, sendMessage, accepted, appendSent, registerSender_messages]
  | delete messageID moderatorID =>
      left
      simp only [chatStep, deleteMessage]
      split
      · rfl
      · split
        · exact markDeleted_withoutFlags messageID ‹_›
        · rfl
  | mute participantID moderatorID duration =>
      left
      simp only [chatStep, muteParticipant]
      repeat' split
      all_goals rfl
  | ban participantID moderatorID duration =>
      left
      simp only [chatStep, banParticipant]
      split <;> rfl
  | unmute timer =>
      left
      simp only [chatStep]
      split <;> simp only [expireMute_messages]

/-- A step never removes or reorders an entry of the log. -/
theorem chatStep_appendOnly (state : LiveChat) (now : Int) (event : ChatEvent) :
    state.room.messages.map ChatMessage.withoutFlags <+:
      (chatStep state now event).room.messages.map ChatMessage.withoutFlags := by
  rcases chatStep_messages state now event with
    kept | ⟨_, appended⟩ | ⟨_, _, _, _, _, _, _, _, appended⟩
  · exact kept ▸ List.prefix_refl _
  all_goals rw [appended, List.map_append]; exact List.prefix_append _ _

/-- Nor does a run. -/
theorem chatRun_appendOnly :
    ∀ (state : LiveChat) (events : List (Int × ChatEvent)),
      state.room.messages.map ChatMessage.withoutFlags <+:
        (chatRun state events).room.messages.map ChatMessage.withoutFlags
  | _, [] => List.prefix_refl _
  | state, (now, event) :: rest =>
      (chatStep_appendOnly state now event).trans (chatRun_appendOnly (chatStep state now event) rest)

/-! ## Properties of single messages -/

section Messages

variable (P : ChatMessage → Prop) (ignoresFlags : ∀ message, P message.withoutFlags ↔ P message)
  (notice : ∀ room now content, P (systemMessage room now content))
  (sent : ∀ now senderID content messageType mentionedUsers replyTo participant room,
    P (sentMessage newChatServiceBadWords now senderID content messageType mentionedUsers replyTo
      participant room))
include ignoresFlags notice sent

/-- A property of single messages that ignores the moderation flags and holds of
every notice and every sent message holds of every message a step leaves. -/
theorem chatStep_forall_messages (state : LiveChat) (now : Int) (event : ChatEvent)
    (holds : ∀ message ∈ state.room.messages, P message) :
    ∀ message ∈ (chatStep state now event).room.messages, P message := by
  intro message member
  rcases chatStep_messages state now event with
    kept | ⟨content, appended⟩ | ⟨_, _, _, _, _, -, -, -, appended⟩
  · obtain ⟨original, present, same⟩ :=
      List.mem_map.mp (kept ▸ List.mem_map_of_mem ChatMessage.withoutFlags member)
    rw [← ignoresFlags, ← same, ignoresFlags]
    exact holds original present
  all_goals
    rw [appended] at member
    rcases List.mem_append.mp member with old | new
    · exact holds message old
    · rw [List.mem_singleton.mp new]
      first
        | exact notice _ _ _
        | exact sent _ _ _ _ _ _ _ _

/-- So it holds of every message of every reachable room. -/
theorem ChatReachable.forall_messages {roomName : RoomName} {createdAt : Int}
    {settings : ChatRoomSettings} {state : LiveChat} {clock : Int}
    (reach : ChatReachable roomName createdAt settings state clock) :
    ∀ message ∈ state.room.messages, P message := by
  induction reach with
  | created => intro _ absent; cases absent
  | step event _ _ inductionHypothesis =>
      exact chatStep_forall_messages P ignoresFlags notice sent _ _ event inductionHypothesis

end Messages

theorem ChatReachable.settings_eq {roomName : RoomName} {createdAt : Int}
    {settings : ChatRoomSettings} {state : LiveChat} {clock : Int}
    (reach : ChatReachable roomName createdAt settings state clock) :
    state.room.settings = settings := by
  induction reach with
  | created => rfl
  | step event _ _ inductionHypothesis => rw [chatStep_settings, inductionHypothesis]

end LiveStreaming.Chat
