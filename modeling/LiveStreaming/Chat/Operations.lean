import LiveStreaming.Chat.Room

/-!
# The chat-room operations

One definition per method of `ChatService` that works on a room, each after
the room lookup: `JoinChatRoom`, `LeaveChatRoom`, `SendMessage`,
`DeleteMessage`, `MuteParticipant`, `BanParticipant` and `GetMessages`, with the
helpers `countRecentMessages`, `getLastMessage` and `filterBadWords`, and the
body of the goroutine that `MuteParticipant` starts to lift a timed mute.
`ChatService.withRoom` is the shared lookup that fails with
`chat room not found`.

Every operation reads the clock once, at `now`. Fan-out to the registered
handlers does not change the room and is not modelled here.
-/

namespace LiveStreaming.Chat

/-! ## Join and leave -/

/-- The notice `JoinChatRoom` and `LeaveChatRoom` append. -/
def systemMessage (room : ChatRoom) (now : Int) (content : String) : ChatMessage where
  id := .sys now
  roomName := room.roomName
  senderID := systemSenderID
  senderName := "System"
  content := content
  timestamp := now
  messageType := chatMessageTypeJoinLeave
  mentionedUsers := []
  isDeleted := false
  isModerated := false
  replyTo := none

/-- The part of `JoinChatRoom` after the ban check: store a fresh participant
record, mark a moderator, and announce the join. -/
def admitParticipant (now : Int) (participantID : ParticipantIdentity)
    (participantName : String) (isModerator : Bool) (room : ChatRoom) : ChatRoom :=
  let participant : ChatParticipant :=
    { identity := participantID, name := participantName, isModerator := isModerator,
      isMuted := false, joinedAt := now, messageCount := 0 }
  { room with
    participants := Function.update room.participants participantID (some participant)
    moderators :=
      if isModerator then Function.update room.moderators participantID true
      else room.moderators
    messages := room.messages ++
      [systemMessage room now (participantName ++ " joined the chat")] }

/-- `JoinChatRoom`: a ban that has not expired refuses the join; an expired one
is cleared first. -/
def joinChatRoom (now : Int) (participantID : ParticipantIdentity)
    (participantName : String) (isModerator : Bool) (room : ChatRoom) :
    ChatOutcome Unit :=
  match room.bannedUsers participantID with
  | some banExpiry =>
      if now < banExpiry then ⟨.error (.userBannedUntil banExpiry), room⟩
      else
        ⟨.ok (), admitParticipant now participantID participantName isModerator
          { room with bannedUsers := Function.update room.bannedUsers participantID none }⟩
  | none => ⟨.ok (), admitParticipant now participantID participantName isModerator room⟩

/-- `LeaveChatRoom`: drop the participant and its moderator mark, and announce
the leave. -/
def leaveChatRoom (now : Int) (participantID : ParticipantIdentity)
    (room : ChatRoom) : ChatOutcome Unit :=
  match room.participants participantID with
  | none => ⟨.error .participantNotInChatRoom, room⟩
  | some participant =>
      ⟨.ok (),
        { room with
          participants := Function.update room.participants participantID none
          moderators := Function.update room.moderators participantID false
          messages := room.messages ++
            [systemMessage room now (participant.name ++ " left the chat")] }⟩

/-! ## Sending -/

/-- The loop of `countRecentMessages`, over the log from the newest message
back: it stops at the first message older than `cutoff`. -/
def countRecentFrom (cutoff : Int) (senderID : ParticipantIdentity) :
    List ChatMessage → Nat
  | [] => 0
  | msg :: older =>
      if msg.timestamp < cutoff then 0
      else countRecentFrom cutoff senderID older + if msg.senderID = senderID then 1 else 0

/-- `countRecentMessages`: the sender's messages in the trailing `duration`. -/
def countRecentMessages (now : Int) (room : ChatRoom) (senderID : ParticipantIdentity)
    (duration : Int) : Nat :=
  countRecentFrom (now - duration) senderID room.messages.reverse

/-- `getLastMessage`: the sender's newest message. -/
def getLastMessage (room : ChatRoom) (senderID : ParticipantIdentity) :
    Option ChatMessage :=
  room.messages.reverse.find? fun msg => msg.senderID = senderID

/-- `replaceWord`, a stub that returns the content unchanged. -/
def replaceWord (content _word : String) : String := content

def filterBadWords (badWords : List String) (content : String) : String :=
  badWords.foldl replaceWord content

/-- The participant `SendMessage` works with: the stored one, or a fresh
record named after the sender that it stores first. -/
def registerSender (now : Int) (senderID : ParticipantIdentity) (room : ChatRoom) :
    ChatParticipant × ChatRoom :=
  match room.participants senderID with
  | some participant => (participant, room)
  | none =>
      let participant : ChatParticipant :=
        { identity := senderID, name := senderID, isModerator := false, isMuted := false,
          joinedAt := now, messageCount := 0 }
      (participant,
        { room with
          participants := Function.update room.participants senderID (some participant) })

/-- The slow-mode check of `SendMessage`. -/
def slowModeActive (now : Int) (room : ChatRoom) (senderID : ParticipantIdentity) :
    Bool :=
  decide (0 < room.settings.slowModeDelay) &&
    (getLastMessage room senderID).any fun lastMsg =>
      decide (now - lastMsg.timestamp < room.settings.slowModeDelay)

/-- The message `SendMessage` appends. -/
def sentMessage (badWords : List String) (now : Int) (senderID : ParticipantIdentity)
    (content : String) (messageType : ChatMessageType)
    (mentionedUsers : List ParticipantIdentity) (replyTo : Option String)
    (participant : ChatParticipant) (room : ChatRoom) : ChatMessage where
  id := .msg now senderID
  roomName := room.roomName
  senderID := senderID
  senderName := participant.name
  content := if room.settings.enableBadWords then filterBadWords badWords content else content
  timestamp := now
  messageType := messageType
  mentionedUsers := mentionedUsers
  isDeleted := false
  isModerated := false
  replyTo := replyTo

/-- The writes of a successful `SendMessage`: append the message and count it
for its sender. -/
def appendSent (senderID : ParticipantIdentity) (participant : ChatParticipant)
    (message : ChatMessage) (room : ChatRoom) : ChatRoom :=
  { room with
    messages := room.messages ++ [message]
    participants := Function.update room.participants senderID
      (some { participant with messageCount := participant.messageCount + 1 }) }

/-- `SendMessage` once the sender's record is known: check mute, length, the
per-minute rate and slow mode, then append. -/
def sendAs (badWords : List String) (now : Int) (senderID : ParticipantIdentity)
    (content : String) (messageType : ChatMessageType)
    (mentionedUsers : List ParticipantIdentity) (replyTo : Option String)
    (participant : ChatParticipant) (room : ChatRoom) : ChatOutcome ChatMessage :=
  if participant.isMuted then ⟨.error .participantMuted, room⟩
  else if room.settings.maxMessageLength < content.utf8ByteSize then
    ⟨.error .messageTooLong, room⟩
  else if room.settings.maxMessagesPerMin ≤ countRecentMessages now room senderID minute then
    ⟨.error .rateLimitExceeded, room⟩
  else if slowModeActive now room senderID then ⟨.error .slowModeActive, room⟩
  else
    let message := sentMessage badWords now senderID content messageType mentionedUsers
      replyTo participant room
    ⟨.ok message, appendSent senderID participant message room⟩

/-- `SendMessage`: register an unknown sender, then run the checks. -/
def sendMessage (badWords : List String) (now : Int) (senderID : ParticipantIdentity)
    (content : String) (messageType : ChatMessageType)
    (mentionedUsers : List ParticipantIdentity) (replyTo : Option String)
    (room : ChatRoom) : ChatOutcome ChatMessage :=
  sendAs badWords now senderID content messageType mentionedUsers replyTo
    (registerSender now senderID room).1 (registerSender now senderID room).2

/-- The outcomes of `sendAs`: an error that leaves the room as it was, or every
check passed and the message appended. -/
theorem sendAs_cases (badWords : List String) (now : Int) (senderID : ParticipantIdentity)
    (content : String) (messageType : ChatMessageType)
    (mentionedUsers : List ParticipantIdentity) (replyTo : Option String)
    (participant : ChatParticipant) (room : ChatRoom) :
    (∃ err, sendAs badWords now senderID content messageType mentionedUsers replyTo
        participant room = ⟨.error err, room⟩) ∨
      (participant.isMuted = false ∧ ¬ room.settings.maxMessageLength < content.utf8ByteSize ∧
        ¬ room.settings.maxMessagesPerMin ≤ countRecentMessages now room senderID minute ∧
        slowModeActive now room senderID = false ∧
        sendAs badWords now senderID content messageType mentionedUsers replyTo participant room =
          ⟨.ok (sentMessage badWords now senderID content messageType mentionedUsers
              replyTo participant room),
            appendSent senderID participant (sentMessage badWords now senderID content
              messageType mentionedUsers replyTo participant room) room⟩) := by
  unfold sendAs
  split_ifs <;> simp_all

/-! ## Moderation -/

/-- The loop of `DeleteMessage`: flag the first message with the identifier. -/
def markDeleted (messageID : ChatMessageId) : List ChatMessage → Option (List ChatMessage)
  | [] => none
  | msg :: rest =>
      if msg.id = messageID then some ({ msg with isDeleted := true, isModerated := true } :: rest)
      else (markDeleted messageID rest).map (msg :: ·)

def deleteMessage (messageID : ChatMessageId) (moderatorID : ParticipantIdentity)
    (room : ChatRoom) : ChatOutcome Unit :=
  if !room.moderators moderatorID then ⟨.error .userNotModerator, room⟩
  else
    match markDeleted messageID room.messages with
    | some messages => ⟨.ok (), { room with messages := messages }⟩
    | none => ⟨.error .messageNotFound, room⟩

/-- A goroutine that `MuteParticipant` started: at `wakeAt` it unmutes
`participantID`. -/
structure UnmuteTimer where
  participantID : ParticipantIdentity
  wakeAt : Int
  deriving DecidableEq, Repr

/-- `MuteParticipant`; a positive duration also returns the unmute goroutine
it starts. -/
def muteParticipant (now : Int) (participantID moderatorID : ParticipantIdentity)
    (duration : Int) (room : ChatRoom) : ChatOutcome (Option UnmuteTimer) :=
  if !room.moderators moderatorID then ⟨.error .userNotModerator, room⟩
  else
    match room.participants participantID with
    | none => ⟨.error .participantNotFound, room⟩
    | some participant =>
        ⟨.ok (if 0 < duration then some ⟨participantID, now + duration⟩ else none),
          { room with
            participants := Function.update room.participants participantID
              (some { participant with isMuted := true }) }⟩

/-- The body of the unmute goroutine: clear the flag of whatever record the
participant has when it wakes. -/
def expireMute (participantID : ParticipantIdentity) (room : ChatRoom) : ChatRoom :=
  match room.participants participantID with
  | none => room
  | some participant =>
      { room with
        participants := Function.update room.participants participantID
          (some { participant with isMuted := false }) }

/-- `BanParticipant`: record the ban expiry and drop the participant record. -/
def banParticipant (now : Int) (participantID moderatorID : ParticipantIdentity)
    (duration : Int) (room : ChatRoom) : ChatOutcome Unit :=
  if !room.moderators moderatorID then ⟨.error .userNotModerator, room⟩
  else
    ⟨.ok (),
      { room with
        bannedUsers := Function.update room.bannedUsers participantID (some (now + duration))
        participants := Function.update room.participants participantID none }⟩

/-! ## Reading -/

/-- The loop of `GetMessages`, over the log from the newest message back. -/
def collectMessages (limit : Int) (beforeTimestamp : Option Int) :
    List ChatMessage → List ChatMessage → List ChatMessage
  | collected, [] => collected
  | collected, msg :: older =>
      if (collected.length : Int) < limit then
        collectMessages limit beforeTimestamp
          (if (beforeTimestamp.all fun before => decide (msg.timestamp < before)) &&
              !msg.isDeleted then collected ++ [msg] else collected)
          older
      else collected

/-- `GetMessages`: up to `limit` undeleted messages, newest first, strictly
before `beforeTimestamp` when it is given. -/
def getMessages (limit : Int) (beforeTimestamp : Option Int) (room : ChatRoom) :
    List ChatMessage :=
  collectMessages limit beforeTimestamp [] room.messages.reverse

/-- The room lookup every `ChatService` method starts with. -/
def ChatService.withRoom {α : Type} (service : ChatService) (roomName : RoomName)
    (operation : ChatRoom → ChatOutcome α) : Except ChatError α × ChatService :=
  match service.rooms roomName with
  | none => (.error .chatRoomNotFound, service)
  | some room =>
      let outcome := operation room
      (outcome.result,
        { service with rooms := Function.update service.rooms roomName (some outcome.room) })

end LiveStreaming.Chat
