import LiveStreaming.Basic

/-!
# The chat room and its messages

`ChatRoom` is the state `ChatService` keeps per live stream: an append-only
message log, the participant, moderator and ban maps, and the room settings.
Go's maps are modelled by their lookup functions. The moderator map only ever
holds `true`, so it is the predicate "is a key of `Moderators`"; a key that
`delete` removed reads back as `false`, as in Go.

Message identifiers are kept in the structured form the two `fmt.Sprintf`
calls build them from: `sys-<UnixNano>` for the system notices of
`JoinChatRoom` and `LeaveChatRoom`, and `msg-<UnixNano>-<sender>` for the
messages `SendMessage` appends. `ChatMessageId.render` gives the string.
-/

namespace LiveStreaming.Chat

/-- `ChatMessageType`, a string type; clients may send any value. -/
abbrev ChatMessageType := String

def chatMessageTypeJoinLeave : ChatMessageType := "join_leave"

/-- The reserved sender of the system notices. -/
def systemSenderID : ParticipantIdentity := "system"

/-- A message identifier, by the format string that built it. -/
inductive ChatMessageId where
  | sys (unixNano : Int)
  | msg (unixNano : Int) (senderID : ParticipantIdentity)
  deriving DecidableEq, Repr

namespace ChatMessageId

/-- The identifier as `fmt.Sprintf` prints it. -/
def render : ChatMessageId → String
  | sys unixNano => "sys-" ++ toString unixNano
  | msg unixNano senderID => "msg-" ++ toString unixNano ++ "-" ++ senderID

/-- Whether the identifier is one `SendMessage` builds. -/
def isMsg : ChatMessageId → Bool
  | sys _ => false
  | msg _ _ => true

end ChatMessageId

/-- `ChatMessage`, with the fields the chat service sets. -/
structure ChatMessage where
  id : ChatMessageId
  roomName : RoomName
  senderID : ParticipantIdentity
  senderName : String
  content : String
  timestamp : Int
  messageType : ChatMessageType
  mentionedUsers : List ParticipantIdentity
  isDeleted : Bool
  isModerated : Bool
  replyTo : Option String
  deriving DecidableEq, Repr

/-- The message with both moderation flags cleared: what `DeleteMessage`
never changes. -/
def ChatMessage.withoutFlags (message : ChatMessage) : ChatMessage :=
  { message with isDeleted := false, isModerated := false }

structure ChatParticipant where
  identity : ParticipantIdentity
  name : String
  isModerator : Bool
  isMuted : Bool
  joinedAt : Int
  messageCount : Nat
  deriving DecidableEq, Repr

/-- `ChatRoomSettings`, with the fields the chat service reads. -/
structure ChatRoomSettings where
  maxMessageLength : Int
  maxMessagesPerMin : Int
  slowModeDelay : Int
  enableBadWords : Bool
  deriving DecidableEq, Repr

/-- The settings `CreateChatRoom` installs when it is given none. -/
def defaultChatRoomSettings : ChatRoomSettings where
  maxMessageLength := 500
  maxMessagesPerMin := 20
  slowModeDelay := 0
  enableBadWords := true

structure ChatRoom where
  roomName : RoomName
  messages : List ChatMessage
  participants : ParticipantIdentity → Option ChatParticipant
  moderators : ParticipantIdentity → Bool
  bannedUsers : ParticipantIdentity → Option Int
  createdAt : Int
  settings : ChatRoomSettings

/-- The room `CreateChatRoom` builds: empty log, no participants, moderators or
bans. -/
def ChatRoom.new (roomName : RoomName) (createdAt : Int)
    (settings : ChatRoomSettings) : ChatRoom where
  roomName := roomName
  messages := []
  participants := fun _ => none
  moderators := fun _ => false
  bannedUsers := fun _ => none
  createdAt := createdAt
  settings := settings

/-- The errors of the chat service, by the text each one carries. -/
inductive ChatError where
  | chatRoomAlreadyExists
  | chatRoomNotFound
  | userBannedUntil (banExpiry : Int)
  | participantNotInChatRoom
  | participantMuted
  | messageTooLong
  | rateLimitExceeded
  | slowModeActive
  | userNotModerator
  | messageNotFound
  | participantNotFound
  deriving DecidableEq, Repr

/-- The error text. `%v` prints the ban expiry as `time.Time.String`, here in
UTC; the monotonic reading `m=...` Go adds after a time taken from
`time.Now()` is not part of the model's clock. -/
def ChatError.text : ChatError → String
  | chatRoomAlreadyExists => "chat room already exists"
  | chatRoomNotFound => "chat room not found"
  | userBannedUntil banExpiry => "user is banned until " ++ timeString banExpiry
  | participantNotInChatRoom => "participant not in chat room"
  | participantMuted => "participant is muted"
  | messageTooLong => "message too long"
  | rateLimitExceeded => "rate limit exceeded"
  | slowModeActive => "slow mode active, please wait"
  | userNotModerator => "user is not a moderator"
  | messageNotFound => "message not found"
  | participantNotFound => "participant not found"

/-- What a room operation returns, with the room it leaves behind. Go mutates
the room in place, also on paths that end in an error. -/
structure ChatOutcome (α : Type) where
  result : Except ChatError α
  room : ChatRoom

/-- `ChatService`: the rooms by name and the bad-word list. -/
structure ChatService where
  rooms : RoomName → Option ChatRoom
  badWords : List String

/-- The bad-word list `NewChatService` installs. -/
def newChatServiceBadWords : List String := ["spam", "badword1", "badword2"]

def ChatService.new : ChatService where
  rooms := fun _ => none
  badWords := newChatServiceBadWords

/-- `CreateChatRoom`: fails if the name is taken, otherwise stores a new room
with the given settings, or the defaults. -/
def ChatService.createChatRoom (service : ChatService) (now : Int)
    (roomName : RoomName) (settings : Option ChatRoomSettings) :
    Except ChatError ChatRoom × ChatService :=
  match service.rooms roomName with
  | some _ => (.error .chatRoomAlreadyExists, service)
  | none =>
      let room := ChatRoom.new roomName now (settings.getD defaultChatRoomSettings)
      (.ok room,
        { service with rooms := Function.update service.rooms roomName (some room) })

end LiveStreaming.Chat
