import LiveStreaming.Chat.Operations

/-!
# Failed chat operations

Every error exit of `JoinChatRoom`, `LeaveChatRoom`, `DeleteMessage`,
`MuteParticipant` and `BanParticipant` comes before the first write, so a
failed call leaves the room as it was. `SendMessage` is the exception: it
stores a record for an unknown sender before any of its checks, so a rejected
message still registers its sender.
-/

namespace LiveStreaming.Chat

section RoomOfError

variable {now : Int} {err : ChatError} {room : ChatRoom}

theorem joinChatRoom_room_of_error {participantID : ParticipantIdentity}
    {participantName : String} {isModerator : Bool}
    (failed : (joinChatRoom now participantID participantName isModerator room).result =
      .error err) :
    (joinChatRoom now participantID participantName isModerator room).room = room := by
  unfold joinChatRoom at failed ⊢
  split <;> (try split) <;> simp_all

theorem leaveChatRoom_room_of_error {participantID : ParticipantIdentity}
    (failed : (leaveChatRoom now participantID room).result = .error err) :
    (leaveChatRoom now participantID room).room = room := by
  unfold leaveChatRoom at failed ⊢
  split <;> simp_all

theorem deleteMessage_room_of_error {messageID : ChatMessageId}
    {moderatorID : ParticipantIdentity}
    (failed : (deleteMessage messageID moderatorID room).result = .error err) :
    (deleteMessage messageID moderatorID room).room = room := by
  unfold deleteMessage at failed ⊢
  split <;> (try split) <;> simp_all

theorem muteParticipant_room_of_error {participantID moderatorID : ParticipantIdentity}
    {duration : Int}
    (failed : (muteParticipant now participantID moderatorID duration room).result =
      .error err) :
    (muteParticipant now participantID moderatorID duration room).room = room := by
  unfold muteParticipant at failed ⊢
  split <;> (try split) <;> simp_all

theorem banParticipant_room_of_error {participantID moderatorID : ParticipantIdentity}
    {duration : Int}
    (failed : (banParticipant now participantID moderatorID duration room).result =
      .error err) :
    (banParticipant now participantID moderatorID duration room).room = room := by
  unfold banParticipant at failed ⊢
  split <;> simp_all

/-- A rejected `SendMessage` leaves the room as the sender's registration left
it. -/
theorem sendMessage_room_of_error {badWords : List String}
    {senderID : ParticipantIdentity} {content : String} {messageType : ChatMessageType}
    {mentionedUsers : List ParticipantIdentity} {replyTo : Option String}
    (failed : (sendMessage badWords now senderID content messageType mentionedUsers
      replyTo room).result = .error err) :
    (sendMessage badWords now senderID content messageType mentionedUsers
      replyTo room).room = (registerSender now senderID room).2 := by
  rcases sendAs_cases badWords now senderID content messageType mentionedUsers replyTo
      (registerSender now senderID room).1 (registerSender now senderID room).2 with
    ⟨_, rejected⟩ | ⟨-, -, -, -, accepted⟩
  · exact congrArg ChatOutcome.room rejected
  · simp only [sendMessage, accepted] at failed
    cases failed

end RoomOfError

/-- Failed operations leave no trace, except that a rejected `SendMessage`
keeps the record it registered for an unknown sender. -/
theorem failed_chat_operations_leave_no_trace (room : ChatRoom) (now : Int)
    (err : ChatError) :
    (∀ participantID participantName isModerator,
      (joinChatRoom now participantID participantName isModerator room).result = .error err →
        (joinChatRoom now participantID participantName isModerator room).room = room) ∧
    (∀ participantID, (leaveChatRoom now participantID room).result = .error err →
        (leaveChatRoom now participantID room).room = room) ∧
    (∀ messageID moderatorID, (deleteMessage messageID moderatorID room).result = .error err →
        (deleteMessage messageID moderatorID room).room = room) ∧
    (∀ participantID moderatorID duration,
      (muteParticipant now participantID moderatorID duration room).result = .error err →
        (muteParticipant now participantID moderatorID duration room).room = room) ∧
    (∀ participantID moderatorID duration,
      (banParticipant now participantID moderatorID duration room).result = .error err →
        (banParticipant now participantID moderatorID duration room).room = room) ∧
    (∀ badWords senderID content messageType mentionedUsers replyTo,
      (sendMessage badWords now senderID content messageType mentionedUsers replyTo
          room).result = .error err →
        (sendMessage badWords now senderID content messageType mentionedUsers replyTo
          room).room = (registerSender now senderID room).2) :=
  ⟨fun _ _ _ => joinChatRoom_room_of_error, fun _ => leaveChatRoom_room_of_error,
    fun _ _ => deleteMessage_room_of_error, fun _ _ _ => muteParticipant_room_of_error,
    fun _ _ _ => banParticipant_room_of_error,
    fun _ _ _ _ _ _ => sendMessage_room_of_error⟩

/-- A room whose messages may be at most one byte long. -/
def oneByteRoom : ChatRoom :=
  ChatRoom.new "r1" 0 { defaultChatRoomSettings with maxMessageLength := 1 }

/-- An unknown sender whose message is too long is rejected and still
registered. -/
theorem rejected_message_registers_sender :
    (sendMessage newChatServiceBadWords 1 "bob" "hi" "text" [] none oneByteRoom).result =
        .error .messageTooLong ∧
      (sendMessage newChatServiceBadWords 1 "bob" "hi" "text" [] none oneByteRoom).room.participants
          "bob" ≠ oneByteRoom.participants "bob" :=
  ⟨rfl, by decide⟩

end LiveStreaming.Chat
