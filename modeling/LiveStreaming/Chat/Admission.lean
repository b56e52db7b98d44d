import LiveStreaming.Chat.Run
import Mathlib.Data.List.Basic

/-!
# Admission of chat messages over whole runs

The log of a chat room is sorted by timestamp in every reachable state, and no
step removes or reorders an entry. Sortedness is what lets
`countRecentMessages` stop at the first message older than the cutoff: on a
sorted log its backward scan counts exactly the sender's messages of the
trailing minute. From that, no closed minute holds more than
`MaxMessagesPerMin` of one sender's `SendMessage` messages, and under slow mode
any two of them are at least `SlowModeDelay` apart.
-/

namespace LiveStreaming.Chat

/-! ## The two backward scans -/

/-- On a log sorted newest first, stopping at the first old message loses no
recent one. -/
theorem countRecentFrom_eq_length_filter (cutoff : Int) (senderID : ParticipantIdentity) :
    ∀ {newestFirst : List ChatMessage},
      newestFirst.Pairwise (fun a b => b.timestamp ≤ a.timestamp) →
      countRecentFrom cutoff senderID newestFirst =
        (newestFirst.filter fun m =>
          decide (m.senderID = senderID) && decide (cutoff ≤ m.timestamp)).length
  | [], _ => rfl
  | msg :: older, sorted => by
      obtain ⟨newest, olderSorted⟩ := List.pairwise_cons.mp sorted
      unfold countRecentFrom
      split
      · rename_i tooOld
        symm
        rw [List.length_eq_zero, List.filter_eq_nil_iff]
        intro m member
        have stale : m.timestamp < cutoff := by
          rcases List.mem_cons.mp member with rfl | older
          · exact tooOld
          · exact lt_of_le_of_lt (newest m older) tooOld
        simp [not_le.mpr stale]
      · rename_i recent
        rw [countRecentFrom_eq_length_filter cutoff senderID olderSorted, List.filter_cons]
        split <;> simp_all [not_lt.mp recent]

/-- On a sorted log, `countRecentMessages` is the number of the sender's
messages stamped no earlier than `now - duration`. -/
theorem countRecentMessages_eq_length_filter {room : ChatRoom} (now : Int)
    (senderID : ParticipantIdentity) (duration : Int)
    (sorted : room.messages.Pairwise fun a b => a.timestamp ≤ b.timestamp) :
    countRecentMessages now room senderID duration =
      (room.messages.filter fun m =>
        decide (m.senderID = senderID) && decide (now - duration ≤ m.timestamp)).length := by
  rw [countRecentMessages, countRecentFrom_eq_length_filter _ _ (List.pairwise_reverse.mpr sorted),
    List.filter_reverse, List.length_reverse]

/-- On a sorted log, the message `getLastMessage` finds is the sender's latest. -/
theorem timestamp_le_of_find?_reverse (senderID : ParticipantIdentity) :
    ∀ {messages : List ChatMessage} {lastMsg : ChatMessage},
      messages.Pairwise (fun a b => a.timestamp ≤ b.timestamp) →
      messages.reverse.find? (fun msg => decide (msg.senderID = senderID)) = some lastMsg →
      ∀ m ∈ messages, m.senderID = senderID → m.timestamp ≤ lastMsg.timestamp := by
  intro messages
  induction messages using List.reverseRecOn with
  | nil => intro _ _ found; cases found
  | append_singleton older newest inductionHypothesis =>
      intro lastMsg sorted found m member sameSender
      obtain ⟨olderSorted, -, beforeNewest⟩ := List.pairwise_append.mp sorted
      rw [List.reverse_append, List.reverse_singleton, List.singleton_append,
        List.find?_cons] at found
      rcases List.mem_append.mp member with older | newestMember
      · split at found
        · cases found
          exact beforeNewest m older newest (List.mem_singleton_self _)
        · exact inductionHypothesis olderSorted found m older sameSender
      · rw [List.mem_singleton] at newestMember
        subst newestMember
        simp only [sameSender, decide_True] at found
        cases found
        exact le_refl _

theorem no_sender_of_find?_reverse_eq_none {senderID : ParticipantIdentity}
    {messages : List ChatMessage}
    (missing : messages.reverse.find? (fun msg => decide (msg.senderID = senderID)) = none) :
    ∀ m ∈ messages, m.senderID ≠ senderID := by
  intro m member sameSender
  have := List.find?_eq_none.mp missing m (List.mem_reverse.mpr member)
  simp [sameSender] at this

/-! ## The invariant of a reachable log -/

/-- `message` is a `SendMessage` message of `senderID` stamped inside the closed
minute that ends at `T`. -/
def sentInMinute (senderID : ParticipantIdentity) (T : Int) (message : ChatMessage) : Bool :=
  message.id.isMsg && decide (message.senderID = senderID) &&
    decide (T - minute ≤ message.timestamp) && decide (message.timestamp ≤ T)

/-- Of two `SendMessage` messages of one sender, the later is at least `delay`
after the earlier. -/
def SlowModeGap (delay : Int) (earlier later : ChatMessage) : Prop :=
  earlier.id.isMsg → later.id.isMsg → earlier.senderID = later.senderID →
    delay ≤ later.timestamp - earlier.timestamp

/-- What the log of a reachable room satisfies at clock reading `clock`. -/
structure AdmissionInvariant (settings : ChatRoomSettings) (clock : Int)
    (messages : List ChatMessage) : Prop where
  sorted : messages.Pairwise fun a b => a.timestamp ≤ b.timestamp
  notAfterClock : ∀ m ∈ messages, m.timestamp ≤ clock
  perMinute : ∀ senderID T,
    ((messages.filter (sentInMinute senderID T)).length : Int) ≤ max settings.maxMessagesPerMin 0
  slowMode : 0 < settings.slowModeDelay → messages.Pairwise (SlowModeGap settings.slowModeDelay)

section Transfer

variable {old new : List ChatMessage}

/-- A count that ignores the moderation flags is the same on two logs that
agree up to them. -/
theorem length_filter_eq_of_withoutFlags (p : ChatMessage → Bool)
    (ignoresFlags : ∀ m, p m.withoutFlags = p m)
    (sameLog : new.map ChatMessage.withoutFlags = old.map ChatMessage.withoutFlags) :
    (new.filter p).length = (old.filter p).length := by
  have flagless : ∀ l : List ChatMessage,
      ((l.map ChatMessage.withoutFlags).filter p).length = (l.filter p).length := by
    intro l
    rw [List.filter_map, List.length_map]
    exact congrArg List.length (List.filter_congr fun m _ => ignoresFlags m)
  rw [← flagless new, sameLog, flagless old]

/-- A pairwise property that ignores the moderation flags holds on both of two
logs that agree up to them. -/
theorem pairwise_of_withoutFlags {R : ChatMessage → ChatMessage → Prop}
    (ignoresFlags : ∀ a b, R a.withoutFlags b.withoutFlags ↔ R a b)
    (sameLog : new.map ChatMessage.withoutFlags = old.map ChatMessage.withoutFlags)
    (holds : old.Pairwise R) : new.Pairwise R := by
  have flagless : ∀ l : List ChatMessage,
      (l.map ChatMessage.withoutFlags).Pairwise R ↔ l.Pairwise R := fun l => by
    rw [List.pairwise_map]
    exact List.Pairwise.iff fun a b => ignoresFlags a b
  exact (flagless new).mp (sameLog ▸ (flagless old).mpr holds)

theorem AdmissionInvariant.of_withoutFlags {settings : ChatRoomSettings} {clock now : Int}
    (sameLog : new.map ChatMessage.withoutFlags = old.map ChatMessage.withoutFlags)
    (later : clock ≤ now) (invariant : AdmissionInvariant settings clock old) :
    AdmissionInvariant settings now new where
  sorted := pairwise_of_withoutFlags (fun _ _ => Iff.rfl) sameLog invariant.sorted
  notAfterClock m member := by
    obtain ⟨a, oldMember, same⟩ :=
      List.mem_map.mp (sameLog ▸ List.mem_map_of_mem ChatMessage.withoutFlags member)
    exact le_trans (congrArg ChatMessage.timestamp same ▸ invariant.notAfterClock a oldMember)
      later
  perMinute senderID T := by
    rw [length_filter_eq_of_withoutFlags (sentInMinute senderID T) (fun _ => rfl) sameLog]
    exact invariant.perMinute senderID T
  slowMode delayed :=
    pairwise_of_withoutFlags (fun _ _ => Iff.rfl) sameLog (invariant.slowMode delayed)

end Transfer

/-! ## One step keeps the invariant -/

section Append

variable {settings : ChatRoomSettings} {clock now : Int} {messages : List ChatMessage}
  {message : ChatMessage}

theorem AdmissionInvariant.sorted_append (invariant : AdmissionInvariant settings clock messages)
    (later : clock ≤ now) (stamped : message.timestamp = now) :
    (messages ++ [message]).Pairwise fun a b => a.timestamp ≤ b.timestamp :=
  List.pairwise_append.mpr ⟨invariant.sorted, List.pairwise_singleton _ _,
    fun a member b newMember => by
      rw [List.mem_singleton.mp newMember, stamped]
      exact le_trans (invariant.notAfterClock a member) later⟩

theorem AdmissionInvariant.notAfterClock_append
    (invariant : AdmissionInvariant settings clock messages)
    (later : clock ≤ now) (stamped : message.timestamp = now) :
    ∀ m ∈ messages ++ [message], m.timestamp ≤ now := by
  intro m member
  rcases List.mem_append.mp member with older | newMember
  · exact le_trans (invariant.notAfterClock m older) later
  · rw [List.mem_singleton.mp newMember, stamped]

/-- Appending a system notice keeps the invariant. -/
theorem AdmissionInvariant.append_system (invariant : AdmissionInvariant settings clock messages)
    (later : clock ≤ now) (notSent : message.id.isMsg = false)
    (stamped : message.timestamp = now) :
    AdmissionInvariant settings now (messages ++ [message]) where
  sorted := invariant.sorted_append later stamped
  notAfterClock := invariant.notAfterClock_append later stamped
  perMinute senderID T := by
    simpa [List.filter_append, sentInMinute, notSent] using invariant.perMinute senderID T
  slowMode delayed :=
    List.pairwise_append.mpr ⟨invariant.slowMode delayed, List.pairwise_singleton _ _,
      fun _ _ b newMember _ sent => by
        rw [List.mem_singleton.mp newMember, notSent] at sent
        cases sent⟩

end Append

/-- Appending the message of a `SendMessage` that passed the rate-limit and
slow-mode checks keeps the invariant. -/
theorem AdmissionInvariant.append_sent {room : ChatRoom} {clock now : Int}
    {message : ChatMessage} {senderID : ParticipantIdentity}
    (invariant : AdmissionInvariant room.settings clock room.messages) (later : clock ≤ now)
    (fromSender : message.senderID = senderID) (stamped : message.timestamp = now)
    (limited : ¬ room.settings.maxMessagesPerMin ≤ countRecentMessages now room senderID minute)
    (slow : slowModeActive now room senderID = false) :
    AdmissionInvariant room.settings now (room.messages ++ [message]) where
  sorted := invariant.sorted_append later stamped
  notAfterClock := invariant.notAfterClock_append later stamped
  perMinute other T := by
    rw [List.filter_append, List.length_append]
    cases inWindow : sentInMinute other T message
    · rw [List.filter_singleton, inWindow]
      simpa using invariant.perMinute other T
    · have inMinute := inWindow
      simp only [sentInMinute, Bool.and_eq_true, decide_eq_true_eq] at inMinute
      obtain ⟨⟨⟨-, sameSender⟩, windowStart⟩, windowEnd⟩ := inMinute
      have counted : (room.messages.filter (sentInMinute other T)).length ≤
          countRecentMessages now room senderID minute := by
        rw [countRecentMessages_eq_length_filter now senderID minute invariant.sorted]
        apply List.Sublist.length_le
        apply List.monotone_filter_right
        intro a inMinute
        simp only [sentInMinute, Bool.and_eq_true, decide_eq_true_eq] at inMinute
        obtain ⟨⟨⟨-, fromOther⟩, afterStart⟩, -⟩ := inMinute
        simp only [Bool.and_eq_true, decide_eq_true_eq]
        refine ⟨fromOther.trans (sameSender.symm.trans fromSender), ?_⟩
        omega
      rw [List.filter_singleton, inWindow, cond_true, List.length_singleton]
      omega
  slowMode delayed := by
    refine List.pairwise_append.mpr ⟨invariant.slowMode delayed, List.pairwise_singleton _ _, ?_⟩
    intro a member b newMember _ _ sameSender
    rw [List.mem_singleton.mp newMember] at sameSender ⊢
    rw [fromSender] at sameSender
    simp only [slowModeActive, decide_eq_true delayed, Bool.true_and] at slow
    cases found : getLastMessage room senderID with
    | none =>
        exact absurd sameSender (no_sender_of_find?_reverse_eq_none found a member)
    | some lastMsg =>
        rw [found] at slow
        simp only [Option.any_some, decide_eq_false_iff_not, not_lt] at slow
        have := timestamp_le_of_find?_reverse senderID invariant.sorted found a member sameSender
        omega

/-! ## Every reachable log -/

theorem admissionInvariant_of_reachable {roomName : RoomName} {createdAt : Int}
    {settings : ChatRoomSettings} {state : LiveChat} {clock : Int}
    (reach : ChatReachable roomName createdAt settings state clock) :
    AdmissionInvariant settings clock state.room.messages := by
  induction reach with
  | created =>
      exact ⟨List.Pairwise.nil, fun _ member => absurd member (List.not_mem_nil _),
        fun _ _ => le_max_right _ _, fun _ => List.Pairwise.nil⟩
  | @step state clock now event reach later inductionHypothesis =>
      rcases chatStep_messages state now event with
        kept | ⟨content, appended⟩ |
          ⟨senderID, content, messageType, mentionedUsers, replyTo, rfl, limited, slow, appended⟩
      · exact inductionHypothesis.of_withoutFlags kept later
      · rw [appended]
        exact inductionHypothesis.append_system later rfl rfl
      · rw [appended, ← reach.settings_eq]
        rw [← reach.settings_eq] at inductionHypothesis
        exact inductionHypothesis.append_sent later rfl rfl limited slow

/-- Once a sender passes the mute and length checks, `SendMessage` reports the
rate limit exactly when `countRecentMessages` reaches the limit. -/
theorem sendMessage_rateLimited_iff {badWords : List String} {now : Int}
    {senderID : ParticipantIdentity} {content : String} {messageType : ChatMessageType}
    {mentionedUsers : List ParticipantIdentity} {replyTo : Option String} {room : ChatRoom}
    (unmuted : (registerSender now senderID room).1.isMuted = false)
    (shortEnough : ¬ room.settings.maxMessageLength < content.utf8ByteSize) :
    (sendMessage badWords now senderID content messageType mentionedUsers replyTo room).result =
        .error .rateLimitExceeded ↔
      room.settings.maxMessagesPerMin ≤ countRecentMessages now room senderID minute := by
  simp only [sendMessage, sendAs, unmuted, registerSender_settings, shortEnough,
    countRecentMessages_registerSender, slowModeActive_registerSender]
  split_ifs <;> simp_all

/-- Over every run of a chat room: the log stays sorted by timestamp and no later
step removes or reorders an entry; `countRecentMessages` counts exactly the
sender's messages of the trailing minute, so the rate-limit error comes exactly
when they reach `MaxMessagesPerMin`; no closed minute holds more than
`max MaxMessagesPerMin 0` of one sender's `SendMessage` messages; and under slow
mode any two of them are at least `SlowModeDelay` apart. -/
theorem chat_admission_over_runs {roomName : RoomName} {createdAt : Int}
    {settings : ChatRoomSettings} {state : LiveChat} {clock : Int}
    (reach : ChatReachable roomName createdAt settings state clock) :
    state.room.messages.Pairwise (fun a b => a.timestamp ≤ b.timestamp) ∧
    (∀ events, state.room.messages.map ChatMessage.withoutFlags <+:
      (chatRun state events).room.messages.map ChatMessage.withoutFlags) ∧
    (∀ now senderID, countRecentMessages now state.room senderID minute =
      (state.room.messages.filter fun m =>
        decide (m.senderID = senderID) && decide (now - minute ≤ m.timestamp)).length) ∧
    (∀ now senderID content messageType mentionedUsers replyTo,
      (registerSender now senderID state.room).1.isMuted = false →
      ¬ settings.maxMessageLength < content.utf8ByteSize →
      ((sendMessage newChatServiceBadWords now senderID content messageType mentionedUsers
          replyTo state.room).result = .error .rateLimitExceeded ↔
        settings.maxMessagesPerMin ≤ (state.room.messages.filter fun m =>
          decide (m.senderID = senderID) && decide (now - minute ≤ m.timestamp)).length)) ∧
    (∀ senderID T, ((state.room.messages.filter (sentInMinute senderID T)).length : Int) ≤
      max settings.maxMessagesPerMin 0) ∧
    (0 < settings.slowModeDelay →
      state.room.messages.Pairwise (SlowModeGap settings.slowModeDelay)) := by
  have invariant := admissionInvariant_of_reachable reach
  have scan : ∀ now senderID, countRecentMessages now state.room senderID minute =
      (state.room.messages.filter fun m =>
        decide (m.senderID = senderID) && decide (now - minute ≤ m.timestamp)).length :=
    fun now senderID => countRecentMessages_eq_length_filter now senderID minute invariant.sorted
  refine ⟨invariant.sorted, chatRun_appendOnly state, scan, ?_, invariant.perMinute,
    invariant.slowMode⟩
  intro now senderID content messageType mentionedUsers replyTo unmuted shortEnough
  rw [← reach.settings_eq] at shortEnough ⊢
  rw [← scan]
  exact sendMessage_rateLimited_iff unmuted shortEnough

/-- A room with default settings after one message from `bob`. -/
def oneMessageChat : LiveChat :=
  chatStep ⟨ChatRoom.new "r1" 0 defaultChatRoomSettings, []⟩ 1 (.send "bob" "hi" "text" [] none)

theorem chat_admission_after_one_message :
    oneMessageChat.room.messages.Pairwise (fun a b => a.timestamp ≤ b.timestamp) ∧
    (∀ events, oneMessageChat.room.messages.map ChatMessage.withoutFlags <+:
      (chatRun oneMessageChat events).room.messages.map ChatMessage.withoutFlags) ∧
    (∀ now senderID, countRecentMessages now oneMessageChat.room senderID minute =
      (oneMessageChat.room.messages.filter fun m =>
        decide (m.senderID = senderID) && decide (now - minute ≤ m.timestamp)).length) ∧
    (∀ now senderID content messageType mentionedUsers replyTo,
      (registerSender now senderID oneMessageChat.room).1.isMuted = false →
      ¬ defaultChatRoomSettings.maxMessageLength < content.utf8ByteSize →
      ((sendMessage newChatServiceBadWords now senderID content messageType mentionedUsers
          replyTo oneMessageChat.room).result = .error .rateLimitExceeded ↔
        defaultChatRoomSettings.maxMessagesPerMin ≤ (oneMessageChat.room.messages.filter fun m =>
          decide (m.senderID = senderID) && decide (now - minute ≤ m.timestamp)).length)) ∧
    (∀ senderID T, ((oneMessageChat.room.messages.filter (sentInMinute senderID T)).length : Int) ≤
      max defaultChatRoomSettings.maxMessagesPerMin 0) ∧
    (0 < defaultChatRoomSettings.slowModeDelay →
      oneMessageChat.room.messages.Pairwise (SlowModeGap defaultChatRoomSettings.slowModeDelay)) :=
  chat_admission_over_runs (ChatReachable.step _ ChatReachable.created (by decide))

end LiveStreaming.Chat
