import LiveStreaming.Chat.Run

/-!
# Where a message comes from

`JoinChatRoom` and `LeaveChatRoom` append notices from the reserved sender
`system` with type `join_leave` and an ID `sys-<UnixNano>`; `SendMessage`
appends the client's message with an ID `msg-<UnixNano>-<sender>`. Over every
run the ID tells the two apart (`provenance_of_reachable`). The sender and the
type do not: `SendMessage` copies both from the request, and the `chat/send`
handler forwards them unchecked, so a client can post as `system` with type
`join_leave`.
-/

namespace LiveStreaming.Chat

/-- What a message's ID says about it: a `sys` ID marks a join or leave notice
from `system`, and a `msg` ID names the message's sender. -/
def ProvenanceMarked (message : ChatMessage) : Prop :=
  (message.id.isMsg = false →
    message.senderID = systemSenderID ∧ message.messageType = chatMessageTypeJoinLeave) ∧
  ∀ unixNano senderID, message.id = .msg unixNano senderID → message.senderID = senderID

/-- In every reachable room, each message's ID tells whether `JoinChatRoom` or
`LeaveChatRoom` appended it as a `system` notice of type `join_leave`, or
`SendMessage` appended it for the sender the ID names. -/
theorem provenance_of_reachable {roomName : RoomName} {createdAt : Int}
    {settings : ChatRoomSettings} {state : LiveChat} {clock : Int}
    (reach : ChatReachable roomName createdAt settings state clock) :
    ∀ message ∈ state.room.messages, ProvenanceMarked message :=
  reach.forall_messages ProvenanceMarked (fun _ => Iff.rfl)
    (fun _ _ _ => ⟨fun _ => ⟨rfl, rfl⟩, fun _ _ sent => by cases sent⟩)
    (fun _ _ _ _ _ _ _ _ => ⟨(nomatch ·), fun _ _ same => (ChatMessageId.msg.inj same).2⟩)

/-- A client who sends as `system` with type `join_leave`, through the
`chat/send` handler, into a fresh room at 1. -/
def impersonatedChat : LiveChat :=
  chatStep ⟨ChatRoom.new "r1" 0 defaultChatRoomSettings, []⟩ 1
    (.send "system" "alice joined the chat" "join_leave" [] none)

/-- `SendMessage` accepts the message, and the log ends with a message from
`system` of type `join_leave` that `SendMessage` appended. -/
theorem client_posts_as_system :
    ChatReachable "r1" 0 defaultChatRoomSettings impersonatedChat 1 ∧
      (sendMessage newChatServiceBadWords 1 "system" "alice joined the chat" "join_leave" []
        none (ChatRoom.new "r1" 0 defaultChatRoomSettings)).result.isOk = true ∧
      impersonatedChat.room.messages.getLast?.map
          (fun message => (message.senderID, message.messageType, message.id.isMsg)) =
        some (systemSenderID, chatMessageTypeJoinLeave, true) :=
  ⟨.step _ .created (by decide), by decide, by decide⟩

/-- The impersonating message still carries an `msg` ID naming its sender, so
its ID marks where it came from. -/
theorem impersonated_chat_marked :
    ChatReachable "r1" 0 defaultChatRoomSettings impersonatedChat 1 ∧
      ∀ message ∈ impersonatedChat.room.messages, ProvenanceMarked message :=
  have reach : ChatReachable "r1" 0 defaultChatRoomSettings impersonatedChat 1 :=
    .step _ .created (by decide)
  ⟨reach, provenance_of_reachable reach⟩

end LiveStreaming.Chat
