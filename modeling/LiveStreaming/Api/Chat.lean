import LiveStreaming.Chat.Operations

/-!
# The chat endpoints

`chat/create`, `chat/send`, `chat/messages`, `chat/mute` and `chat/ban` put the
chat service behind HTTP. Each refuses a wrong method with 405 and a body that
does not decode with 400, and answers a service error with 500 and its text,
except that creating a room that exists answers 200 with `Room already
exists`. `chat/mute` and `chat/ban` turn `duration_secs` into a
`time.Duration` by an `int64` product that wraps, and a successful timed mute
starts a goroutine that unmutes the participant when it wakes.

Only `JoinChatRoom` makes a moderator, and nothing in the program calls it:
through HTTP a participant is made only by `SendMessage`, which registers an
unknown sender as a plain, unmuted participant. So over every run of requests
no room has a moderator, every mute and every ban is refused, no participant
is ever muted, no unmute goroutine is ever started, and no message is refused
because its sender is muted (`moderation_unreachable_through_api`).
-/

namespace LiveStreaming.Api

open LiveStreaming.Chat

/-- The body of a `chat/send` request; its `sender_name` is decoded and never
read. -/
structure SendChatMessageRequest where
  roomName : RoomName
  senderID : ParticipantIdentity
  content : String
  messageType : ChatMessageType
  mentionedUsers : List ParticipantIdentity

/-- The body of a `chat/mute` or `chat/ban` request; `duration_secs` is an
`int64`. -/
structure ModerationRequest where
  roomName : RoomName
  participantID : ParticipantIdentity
  moderatorID : ParticipantIdentity
  durationSecs : Int

/-- What a chat endpoint answers. -/
inductive ChatResponse where
  /-- 200 with the new room's name, creation time, message and participant
  counts. -/
  | created (room : ChatRoom)
  /-- 200 with `success` and `Room already exists`. -/
  | alreadyExists (roomName : RoomName)
  /-- 200 with the JSON of the sent message. -/
  | sent (message : ChatMessage)
  /-- 200 with the messages. -/
  | messages (messages : List ChatMessage)
  /-- 200 with `success`. -/
  | success
  /-- `http.Error` with this status and message. -/
  | error (status : Nat) (message : String)

/-- The chat service with the unmute goroutines that have not woken yet, each
with the name of the room it captured. Rooms are never removed, so the name
finds the captured room. -/
structure ChatAPI where
  service : ChatService
  timers : List (RoomName × UnmuteTimer)

/-- `NewStreamingAPIService`'s chat service, with no goroutine running. -/
def ChatAPI.new : ChatAPI := ⟨ChatService.new, []⟩

/-- `handleCreateChatRoom`; the body is the `room_name` field. -/
def handleCreateChatRoom (now : Int) (method : String) (body : Except String RoomName)
    (service : ChatService) : ChatResponse × ChatService :=
  if method ≠ "POST" then (.error 405 "Method not allowed", service)
  else
    match body with
    | .error text => (.error 400 text, service)
    | .ok roomName =>
        match service.createChatRoom now roomName none with
        | (.ok room, created) => (.created room, created)
        | (.error error, unchanged) =>
            if error.text = "chat room already exists" then (.alreadyExists roomName, unchanged)
            else (.error 500 error.text, unchanged)

/-- `handleSendChatMessage`; the message replies to nothing. -/
def handleSendChatMessage (now : Int) (method : String) (body : Except String SendChatMessageRequest)
    (service : ChatService) : ChatResponse × ChatService :=
  if method ≠ "POST" then (.error 405 "Method not allowed", service)
  else
    match body with
    | .error text => (.error 400 text, service)
    | .ok request =>
        match service.withRoom request.roomName (sendMessage service.badWords now request.senderID
            request.content request.messageType request.mentionedUsers none) with
        | (.error error, sent) => (.error 500 error.text, sent)
        | (.ok message, sent) => (.sent message, sent)

/-- `handleGetChatMessages`: the 50 newest messages; `roomName` is the
`room_name` query value, empty when absent. -/
def handleGetChatMessages (method roomName : String) (service : ChatService) : ChatResponse :=
  if method ≠ "GET" then .error 405 "Method not allowed"
  else if roomName = "" then .error 400 "room_name required"
  else
    match service.rooms roomName with
    | none => .error 500 ChatError.chatRoomNotFound.text
    | some room => .messages (getMessages 50 none room)

/-- `handleMuteParticipant`; a successful timed mute leaves its goroutine
pending. -/
def handleMuteParticipant (now : Int) (method : String) (body : Except String ModerationRequest)
    (api : ChatAPI) : ChatResponse × ChatAPI :=
  if method ≠ "POST" then (.error 405 "Method not allowed", api)
  else
    match body with
    | .error text => (.error 400 text, api)
    | .ok request =>
        match api.service.withRoom request.roomName (muteParticipant now request.participantID
            request.moderatorID (wrapInt64 (request.durationSecs * second))) with
        | (.error error, service) => (.error 500 error.text, { api with service := service })
        | (.ok timer, service) =>
            (.success, ⟨service, api.timers ++ (timer.map (request.roomName, ·)).toList⟩)

def handleBanParticipant (now : Int) (method : String) (body : Except String ModerationRequest)
    (service : ChatService) : ChatResponse × ChatService :=
  if method ≠ "POST" then (.error 405 "Method not allowed", service)
  else
    match body with
    | .error text => (.error 400 text, service)
    | .ok request =>
        match service.withRoom request.roomName (banParticipant now request.participantID
            request.moderatorID (wrapInt64 (request.durationSecs * second))) with
        | (.error error, banned) => (.error 500 error.text, banned)
        | (.ok (), banned) => (.success, banned)

/-- A pending unmute goroutine waking at `now`: it clears the flag of the
participant's record in the room it captured, if the participant has one. -/
def ChatAPI.wake (now : Int) (roomName : RoomName) (timer : UnmuteTimer) (api : ChatAPI) : ChatAPI :=
  if (roomName, timer) ∈ api.timers ∧ timer.wakeAt ≤ now then
    ⟨{ api.service with
        rooms := Function.update api.service.rooms roomName
          ((api.service.rooms roomName).map (expireMute timer.participantID)) },
      api.timers.erase (roomName, timer)⟩
  else api

/-! ## Runs of requests -/

/-- A request to one of the endpoints, or the wake-up of a pending unmute
goroutine. -/
inductive ChatCall where
  | create (method : String) (body : Except String RoomName)
  | send (method : String) (body : Except String SendChatMessageRequest)
  | messages (method roomName : String)
  | mute (method : String) (body : Except String ModerationRequest)
  | ban (method : String) (body : Except String ModerationRequest)
  | wake (roomName : RoomName) (timer : UnmuteTimer)

/-- The requests to `chat/mute` and `chat/ban`. -/
def ChatCall.isModeration : ChatCall → Bool
  | .mute _ _ => true
  | .ban _ _ => true
  | _ => false

/-- One call at clock reading `now`: the answer of a request, none for a
goroutine, and the state after it. -/
def chatCallStep (api : ChatAPI) (now : Int) : ChatCall → Option ChatResponse × ChatAPI
  | .create method body =>
      (some (handleCreateChatRoom now method body api.service).1,
        { api with service := (handleCreateChatRoom now method body api.service).2 })
  | .send method body =>
      (some (handleSendChatMessage now method body api.service).1,
        { api with service := (handleSendChatMessage now method body api.service).2 })
  | .messages method roomName => (some (handleGetChatMessages method roomName api.service), api)
  | .mute method body =>
      (some (handleMuteParticipant now method body api).1, (handleMuteParticipant now method body api).2)
  | .ban method body =>
      (some (handleBanParticipant now method body api.service).1,
        { api with service := (handleBanParticipant now method body api.service).2 })
  | .wake roomName timer => (none, api.wake now roomName timer)

/-- A run of timed calls: each call with its answer, in order, and the state. -/
def chatCallRun (state : List (ChatCall × Option ChatResponse) × ChatAPI) :
    List (Int × ChatCall) → List (ChatCall × Option ChatResponse) × ChatAPI
  | [] => state
  | (now, call) :: rest =>
      chatCallRun (state.1 ++ [(call, (chatCallStep state.2 now call).1)], (chatCallStep state.2 now call).2)
        rest

/-! ## No moderator -/

/-- A room with no moderator and no muted participant. -/
structure RoomUnmoderated (room : ChatRoom) : Prop where
  noModerator : ∀ id, room.moderators id = false
  noneMuted : ∀ id participant, room.participants id = some participant → participant.isMuted = false

/-- Every room is unmoderated. -/
def ServiceUnmoderated (service : ChatService) : Prop :=
  ∀ roomName room, service.rooms roomName = some room → RoomUnmoderated room

/-- Every room is unmoderated and no unmute goroutine is pending. -/
structure Unmoderated (api : ChatAPI) : Prop where
  rooms : ServiceUnmoderated api.service
  noTimers : api.timers = []

/-- The answers that refuse a moderation request. -/
def ModerationRefused (answer : Option ChatResponse) : Prop :=
  answer = some (.error 405 "Method not allowed") ∨ (∃ text, answer = some (.error 400 text)) ∨
    answer = some (.error 500 ChatError.chatRoomNotFound.text) ∨
    answer = some (.error 500 ChatError.userNotModerator.text)

theorem roomUnmoderated_new (roomName : RoomName) (createdAt : Int) (settings : ChatRoomSettings) :
    RoomUnmoderated (ChatRoom.new roomName createdAt settings) :=
  ⟨fun _ => rfl, fun _ _ absent => by cases absent⟩

section Room

variable {room : ChatRoom} (unmoderated : RoomUnmoderated room) (now : Int)
include unmoderated

theorem RoomUnmoderated.muteParticipant (participantID moderatorID : ParticipantIdentity) (duration : Int) :
    muteParticipant now participantID moderatorID duration room = ⟨.error .userNotModerator, room⟩ := by
  simp [Chat.muteParticipant, unmoderated.noModerator]

theorem RoomUnmoderated.banParticipant (participantID moderatorID : ParticipantIdentity) (duration : Int) :
    banParticipant now participantID moderatorID duration room = ⟨.error .userNotModerator, room⟩ := by
  simp [Chat.banParticipant, unmoderated.noModerator]

/-- `SendMessage` registers its sender unmuted and keeps the room unmoderated. -/
theorem RoomUnmoderated.registerSender (senderID : ParticipantIdentity) :
    (registerSender now senderID room).1.isMuted = false ∧
      RoomUnmoderated (registerSender now senderID room).2 := by
  unfold Chat.registerSender
  split
  · rename_i participant present
    exact ⟨unmoderated.noneMuted _ _ present, unmoderated⟩
  · refine ⟨rfl, unmoderated.noModerator, fun id participant found => ?_⟩
    dsimp only at found
    by_cases same : id = senderID
    · subst same
      rw [Function.update_same] at found
      cases found
      rfl
    · rw [Function.update_noteq same] at found
      exact unmoderated.noneMuted id participant found

/-- In an unmoderated room `SendMessage` is refused only for length, rate or
slow mode, and leaves the room unmoderated. -/
theorem RoomUnmoderated.sendMessage (badWords : List String) (senderID : ParticipantIdentity)
    (content : String) (messageType : ChatMessageType) (mentionedUsers : List ParticipantIdentity)
    (replyTo : Option String) :
    RoomUnmoderated (sendMessage badWords now senderID content messageType mentionedUsers replyTo room).room ∧
      ∀ error, (sendMessage badWords now senderID content messageType mentionedUsers replyTo room).result =
          .error error →
        error = .messageTooLong ∨ error = .rateLimitExceeded ∨ error = .slowModeActive := by
  obtain ⟨unmuted, registered⟩ := unmoderated.registerSender now senderID
  unfold Chat.sendMessage
  generalize Chat.registerSender now senderID room = registration at unmuted registered
  obtain ⟨participant, room⟩ := registration
  dsimp only at unmuted registered ⊢
  refine ⟨?_, fun error refused => ?_⟩
  · rcases sendAs_cases badWords now senderID content messageType mentionedUsers replyTo participant room with
      ⟨error, refused⟩ | ⟨-, -, -, -, accepted⟩
    · rw [refused]
      exact registered
    · rw [accepted]
      refine ⟨registered.noModerator, fun id stored found => ?_⟩
      by_cases same : id = senderID
      · subst same
        simp only [appendSent, Function.update_same, Option.some.injEq] at found
        subst found
        exact unmuted
      · simp only [appendSent, Function.update_noteq same] at found
        exact registered.noneMuted id stored found
  · simp only [sendAs, unmuted, Bool.false_eq_true, if_false] at refused
    split_ifs at refused <;> cases refused <;> simp

end Room

/-- The texts a moderation refusal or a refused message can carry are not the
muted sender's. -/
theorem participantMuted_text_ne {error : ChatError}
    (other : error = .chatRoomNotFound ∨ error = .userNotModerator ∨ error = .messageTooLong ∨
      error = .rateLimitExceeded ∨ error = .slowModeActive) :
    error.text ≠ ChatError.participantMuted.text := by
  rcases other with rfl | rfl | rfl | rfl | rfl <;> decide

section Service

variable {service : ChatService} (unmoderated : ServiceUnmoderated service) (now : Int)
include unmoderated

/-- Storing an unmoderated room keeps the service unmoderated. -/
theorem ServiceUnmoderated.update (roomName : RoomName) {room : ChatRoom} (free : RoomUnmoderated room) :
    ServiceUnmoderated { service with rooms := Function.update service.rooms roomName (some room) } := by
  intro other stored present
  by_cases same : other = roomName
  · subst same
    simp only [Function.update_same, Option.some.injEq] at present
    exact present ▸ free
  · simp only [Function.update_noteq same] at present
    exact unmoderated other stored present

/-- The room lookup of a service method fails with `chat room not found`, or
answers what the operation answers on an unmoderated room. -/
theorem ServiceUnmoderated.withRoom {α : Type} (roomName : RoomName) (operation : ChatRoom → ChatOutcome α)
    (keeps : ∀ room, RoomUnmoderated room → RoomUnmoderated (operation room).room) :
    ServiceUnmoderated (service.withRoom roomName operation).2 ∧
      ((service.withRoom roomName operation).1 = .error .chatRoomNotFound ∨
        ∃ room, RoomUnmoderated room ∧ (service.withRoom roomName operation).1 = (operation room).result) := by
  unfold ChatService.withRoom
  split
  · exact ⟨unmoderated, .inl rfl⟩
  · rename_i room stored
    exact ⟨unmoderated.update roomName (keeps room (unmoderated _ _ stored)),
      .inr ⟨room, unmoderated _ _ stored, rfl⟩⟩

theorem ServiceUnmoderated.createChatRoom (roomName : RoomName) (settings : Option ChatRoomSettings) :
    ServiceUnmoderated (service.createChatRoom now roomName settings).2 ∧
      ∀ error, (service.createChatRoom now roomName settings).1 = .error error →
        error = .chatRoomAlreadyExists := by
  unfold ChatService.createChatRoom
  split
  · exact ⟨unmoderated, fun error refused => by cases refused; rfl⟩
  · exact ⟨unmoderated.update roomName (roomUnmoderated_new _ _ _), fun error refused => by cases refused⟩

theorem ServiceUnmoderated.handleCreateChatRoom (method : String) (body : Except String RoomName) :
    ServiceUnmoderated (handleCreateChatRoom now method body service).2 ∧
      (handleCreateChatRoom now method body service).1 ≠ .error 500 ChatError.participantMuted.text := by
  unfold Api.handleCreateChatRoom
  split_ifs
  · exact ⟨unmoderated, by simp⟩
  rcases body with text | roomName
  · exact ⟨unmoderated, by simp⟩
  obtain ⟨kept, existing⟩ := unmoderated.createChatRoom now roomName none
  dsimp only
  generalize service.createChatRoom now roomName none = outcome at kept existing ⊢
  obtain ⟨result, created⟩ := outcome
  cases result with
  | ok room => exact ⟨kept, by simp⟩
  | error error =>
      obtain rfl := existing error rfl
      exact ⟨kept, by simp [ChatError.text]⟩

theorem ServiceUnmoderated.handleSendChatMessage (method : String)
    (body : Except String SendChatMessageRequest) :
    ServiceUnmoderated (handleSendChatMessage now method body service).2 ∧
      (handleSendChatMessage now method body service).1 ≠ .error 500 ChatError.participantMuted.text := by
  unfold Api.handleSendChatMessage
  split_ifs
  · exact ⟨unmoderated, by simp⟩
  rcases body with text | request
  · exact ⟨unmoderated, by simp⟩
  dsimp only
  obtain ⟨kept, refused⟩ := unmoderated.withRoom request.roomName
    (sendMessage service.badWords now request.senderID request.content request.messageType
      request.mentionedUsers none)
    fun room free => (free.sendMessage now _ _ _ _ _ _).1
  generalize service.withRoom request.roomName _ = outcome at kept refused ⊢
  obtain ⟨result, sent⟩ := outcome
  cases result with
  | ok message => exact ⟨kept, by simp⟩
  | error error =>
      refine ⟨kept, fun muted => participantMuted_text_ne ?_ (ChatResponse.error.inj muted).2⟩
      rcases refused with found | ⟨room, free, answered⟩
      · exact .inl (Except.error.inj found)
      · exact .inr (.inr ((free.sendMessage now _ _ _ _ _ _).2 error answered.symm))

theorem ServiceUnmoderated.handleBanParticipant (method : String) (body : Except String ModerationRequest) :
    ServiceUnmoderated (handleBanParticipant now method body service).2 ∧
      ModerationRefused (some (handleBanParticipant now method body service).1) := by
  unfold Api.handleBanParticipant
  split_ifs
  · exact ⟨unmoderated, .inl rfl⟩
  rcases body with text | request
  · exact ⟨unmoderated, .inr (.inl ⟨text, rfl⟩)⟩
  dsimp only
  obtain ⟨kept, refused⟩ := unmoderated.withRoom request.roomName
    (banParticipant now request.participantID request.moderatorID (wrapInt64 (request.durationSecs * second)))
    fun room free => by rw [free.banParticipant]; exact free
  generalize service.withRoom request.roomName _ = outcome at kept refused ⊢
  obtain ⟨result, banned⟩ := outcome
  rcases refused with found | ⟨room, free, answered⟩
  · cases found
    exact ⟨kept, .inr (.inr (.inl rfl))⟩
  · rw [free.banParticipant] at answered
    cases answered
    exact ⟨kept, .inr (.inr (.inr rfl))⟩

end Service

theorem ModerationRefused.ne_participantMuted {answer : Option ChatResponse}
    (refused : ModerationRefused answer) :
    answer ≠ some (.error 500 ChatError.participantMuted.text) := by
  rcases refused with rfl | ⟨text, rfl⟩ | rfl | rfl <;> simp [ChatError.text]

theorem Unmoderated.handleMuteParticipant {api : ChatAPI} (unmoderated : Unmoderated api) (now : Int)
    (method : String) (body : Except String ModerationRequest) :
    Unmoderated (handleMuteParticipant now method body api).2 ∧
      ModerationRefused (some (handleMuteParticipant now method body api).1) := by
  unfold Api.handleMuteParticipant
  split_ifs
  · exact ⟨unmoderated, .inl rfl⟩
  rcases body with text | request
  · exact ⟨unmoderated, .inr (.inl ⟨text, rfl⟩)⟩
  dsimp only
  obtain ⟨kept, refused⟩ := unmoderated.rooms.withRoom request.roomName
    (muteParticipant now request.participantID request.moderatorID (wrapInt64 (request.durationSecs * second)))
    fun room free => by rw [free.muteParticipant]; exact free
  generalize api.service.withRoom request.roomName _ = outcome at kept refused ⊢
  obtain ⟨result, muted⟩ := outcome
  rcases refused with found | ⟨room, free, answered⟩
  · cases found
    exact ⟨⟨kept, unmoderated.noTimers⟩, .inr (.inr (.inl rfl))⟩
  · rw [free.muteParticipant] at answered
    cases answered
    exact ⟨⟨kept, unmoderated.noTimers⟩, .inr (.inr (.inr rfl))⟩

/-- One call keeps every room unmoderated; a moderation request is refused,
and no answer refuses a message as muted. -/
theorem Unmoderated.step {api : ChatAPI} (unmoderated : Unmoderated api) (now : Int) (call : ChatCall) :
    Unmoderated (chatCallStep api now call).2 ∧
      (call.isModeration = true → ModerationRefused (chatCallStep api now call).1) ∧
      (chatCallStep api now call).1 ≠ some (.error 500 ChatError.participantMuted.text) := by
  have notModeration : ∀ {answer : Option ChatResponse}, call.isModeration = false →
      call.isModeration = true → ModerationRefused answer := fun plain moderation =>
    absurd (plain.symm.trans moderation) Bool.false_ne_true
  cases call with
  | create method body =>
      obtain ⟨kept, answered⟩ := unmoderated.rooms.handleCreateChatRoom now method body
      exact ⟨⟨kept, unmoderated.noTimers⟩, notModeration rfl, by simpa [chatCallStep] using answered⟩
  | send method body =>
      obtain ⟨kept, answered⟩ := unmoderated.rooms.handleSendChatMessage now method body
      exact ⟨⟨kept, unmoderated.noTimers⟩, notModeration rfl, by simpa [chatCallStep] using answered⟩
  | messages method roomName =>
      refine ⟨unmoderated, notModeration rfl, ?_⟩
      simp only [chatCallStep, handleGetChatMessages]
      split_ifs
      · simp
      · simp
      · split <;> simp [ChatError.text]
  | mute method body =>
      obtain ⟨kept, refused⟩ := unmoderated.handleMuteParticipant now method body
      exact ⟨kept, fun _ => refused, refused.ne_participantMuted⟩
  | ban method body =>
      obtain ⟨kept, refused⟩ := unmoderated.rooms.handleBanParticipant now method body
      exact ⟨⟨kept, unmoderated.noTimers⟩, fun _ => refused, refused.ne_participantMuted⟩
  | wake roomName timer =>
      have idle : api.wake now roomName timer = api := by
        simp [ChatAPI.wake, unmoderated.noTimers]
      simp only [chatCallStep, idle]
      exact ⟨unmoderated, notModeration rfl, by simp⟩

/-- What a run keeps: every room unmoderated, and every logged answer as the
step left it. -/
theorem Unmoderated.run :
    ∀ (calls : List (Int × ChatCall)) {log : List (ChatCall × Option ChatResponse)} {api : ChatAPI},
      Unmoderated api →
      (∀ call answer, (call, answer) ∈ log →
        (call.isModeration = true → ModerationRefused answer) ∧
          answer ≠ some (.error 500 ChatError.participantMuted.text)) →
      Unmoderated (chatCallRun (log, api) calls).2 ∧
        ∀ call answer, (call, answer) ∈ (chatCallRun (log, api) calls).1 →
          (call.isModeration = true → ModerationRefused answer) ∧
            answer ≠ some (.error 500 ChatError.participantMuted.text)
  | [], _, _, unmoderated, logged => ⟨unmoderated, logged⟩
  | (now, call) :: rest, _, _, unmoderated, logged => by
      obtain ⟨stepped, refused, notMuted⟩ := unmoderated.step now call
      refine Unmoderated.run rest stepped fun other answer member => ?_
      rcases List.mem_append.mp member with earlier | last
      · exact logged other answer earlier
      · obtain ⟨rfl, rfl⟩ := Prod.mk.inj (List.mem_singleton.mp last)
        exact ⟨refused, notMuted⟩

/-- Over every run of requests and goroutine wake-ups from a new chat service,
every mute and ban request is refused, no answer refuses a message because its
sender is muted, and at the end no room has a moderator or a muted participant
and no unmute goroutine is pending. -/
theorem moderation_unreachable_through_api (calls : List (Int × ChatCall)) :
    (∀ call answer, (call, answer) ∈ (chatCallRun ([], ChatAPI.new) calls).1 →
      (call.isModeration = true → ModerationRefused answer) ∧
        answer ≠ some (.error 500 ChatError.participantMuted.text)) ∧
    ServiceUnmoderated (chatCallRun ([], ChatAPI.new) calls).2.service ∧
    (chatCallRun ([], ChatAPI.new) calls).2.timers = [] :=
  have run := Unmoderated.run calls ⟨fun _ _ absent => (by cases absent), rfl⟩
    fun _ _ absent => by cases absent
  ⟨run.2, run.1.rooms, run.1.noTimers⟩

end LiveStreaming.Api
