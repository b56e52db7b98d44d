import LiveStreaming.Chat.Admission
import Mathlib.Data.List.Nodup

/-!
# Reading the log: message IDs and cursor pages

`JoinChatRoom` and `LeaveChatRoom` name their notices `sys-<UnixNano>`, and
`SendMessage` names a message `msg-<UnixNano>-<sender>`, from the clock reading
that also stamps the message. So over every run two messages with one ID were
appended at one clock reading by one sender (`same_id_same_instant`), and where
no two messages share a clock reading the IDs are pairwise distinct
(`ids_nodup_of_timestamps_nodup`). Clock readings need not differ: two joins at
one reading append two notices with one ID, and `DeleteMessage`, which marks
the first message with the ID, never reaches the second
(`join_notices_share_id`).

`GetMessages` walks the log from the newest message back and stops once it
holds `limit` messages, so a page is the `limit` newest undeleted messages
strictly before the cursor, newest first (`getMessages_newest_matching`). A
cursor excludes the messages stamped with it, so paging by the timestamp of a
page's last message skips the messages that share that timestamp
(`cursor_skips_same_instant_message`). That is all paging loses: in every
reachable room the pages are, in order, a part of the undeleted messages newest
first, and all of them where no two undeleted messages share a timestamp
(`cursor_pages_in_order`).
-/

namespace LiveStreaming.Chat

/-- The clock reading an ID carries. -/
def ChatMessageId.unixNano : ChatMessageId → Int
  | .sys unixNano => unixNano
  | .msg unixNano _ => unixNano

/-- A message's ID is built from the clock reading that stamps it, with the
`system` sender for a notice and with the sender for a sent message. -/
def StampedID (message : ChatMessage) : Prop :=
  (message.id = .sys message.timestamp ∧ message.senderID = systemSenderID) ∨
    message.id = .msg message.timestamp message.senderID

section Identity

variable {roomName : RoomName} {createdAt : Int} {settings : ChatRoomSettings} {state : LiveChat}
  {clock : Int}

theorem stampedID_of_reachable (reach : ChatReachable roomName createdAt settings state clock) :
    ∀ message ∈ state.room.messages, StampedID message :=
  reach.forall_messages StampedID (fun _ => Iff.rfl) (fun _ _ _ => .inl ⟨rfl, rfl⟩)
    (fun _ _ _ _ _ _ _ _ => .inr rfl)

/-- In every reachable room, two messages with one ID were stamped with one
clock reading and come from one sender. -/
theorem same_id_same_instant (reach : ChatReachable roomName createdAt settings state clock) :
    ∀ a ∈ state.room.messages, ∀ b ∈ state.room.messages,
      a.id = b.id → a.timestamp = b.timestamp ∧ a.senderID = b.senderID := by
  intro a presentA b presentB same
  rcases stampedID_of_reachable reach a presentA with ⟨idA, fromSystemA⟩ | idA <;>
    rcases stampedID_of_reachable reach b presentB with ⟨idB, fromSystemB⟩ | idB <;>
    rw [idA, idB] at same
  · exact ⟨ChatMessageId.sys.inj same, fromSystemA.trans fromSystemB.symm⟩
  · cases same
  · cases same
  · exact ChatMessageId.msg.inj same

/-- Where no two messages of a reachable room share a clock reading, their IDs
are pairwise distinct. -/
theorem ids_nodup_of_timestamps_nodup (reach : ChatReachable roomName createdAt settings state clock)
    (distinct : (state.room.messages.map ChatMessage.timestamp).Nodup) :
    (state.room.messages.map ChatMessage.id).Nodup := by
  refine List.Nodup.of_map ChatMessageId.unixNano ?_
  rw [List.map_map]
  refine (List.map_congr_left fun message present => ?_).symm ▸ distinct
  rcases stampedID_of_reachable reach message present with ⟨stamped, -⟩ | stamped <;>
    simp only [Function.comp_apply, stamped, ChatMessageId.unixNano]

end Identity

/-! ## What a page holds -/

/-- The loop of `GetMessages` appends the matching messages it meets until it
holds `limit` of them. -/
theorem collectMessages_eq (limit : Int) (beforeTimestamp : Option Int) :
    ∀ collected newestFirst : List ChatMessage,
      collectMessages limit beforeTimestamp collected newestFirst =
        collected ++ (newestFirst.filter fun msg =>
          (beforeTimestamp.all fun before => decide (msg.timestamp < before)) && !msg.isDeleted).take
          (limit.toNat - collected.length)
  | collected, [] => by simp [collectMessages]
  | collected, msg :: older => by
      unfold collectMessages
      by_cases room : (collected.length : Int) < limit
      · have free : limit.toNat - collected.length = limit.toNat - (collected.length + 1) + 1 := by omega
        rw [if_pos room, collectMessages_eq, List.filter_cons]
        split_ifs with listed
        · rw [free, List.take_succ_cons, List.length_append, List.length_singleton, List.append_assoc,
            List.singleton_append]
        · rfl
      · have full : limit.toNat - collected.length = 0 := by omega
        rw [if_neg room, full, List.take_zero, List.append_nil]

/-- A page of `GetMessages` is the `limit` newest undeleted messages strictly
before the cursor, newest first. -/
theorem getMessages_newest_matching (limit : Int) (beforeTimestamp : Option Int) (room : ChatRoom) :
    getMessages limit beforeTimestamp room =
      (room.messages.reverse.filter fun msg =>
        (beforeTimestamp.all fun before => decide (msg.timestamp < before)) && !msg.isDeleted).take
        limit.toNat := by
  rw [getMessages, collectMessages_eq, List.nil_append, List.length_nil, Nat.sub_zero]

/-! ## Paging by cursor -/

/-- Modelled from the spec: how a client pages through a room's history. The
first page is read without a cursor and each next one before the timestamp of
the last message of the page before, until a page comes back empty; `fuel`
bounds the number of pages read. -/
def cursorPages (limit : Int) (room : ChatRoom) : Nat → Option Int → List (List ChatMessage)
  | 0, _ => []
  | fuel + 1, cursor =>
      match (getMessages limit cursor room).getLast? with
      | none => []
      | some last => getMessages limit cursor room :: cursorPages limit room fuel (some last.timestamp)

/-- Whether a message is strictly before the cursor, as `GetMessages` tests it. -/
def beforeCursor (cursor : Option Int) (msg : ChatMessage) : Bool :=
  cursor.all fun before => decide (msg.timestamp < before)

/-- A page is the first `limit` of the undeleted messages before the cursor,
newest first. -/
theorem getMessages_eq_take (limit : Int) (cursor : Option Int) (room : ChatRoom) :
    getMessages limit cursor room =
      ((room.messages.reverse.filter fun msg => !msg.isDeleted).filter (beforeCursor cursor)).take
        limit.toNat := by
  rw [getMessages, collectMessages_eq, List.filter_filter, List.nil_append, List.length_nil,
    Nat.sub_zero]
  rfl

section Paging

variable {newestFirst : List ChatMessage} {count : Nat} {last : ChatMessage}

/-- On a list newest first, what is older than the last message of its first
`count` lies after them. -/
theorem filter_older_than_last (sorted : newestFirst.Pairwise fun a b => b.timestamp ≤ a.timestamp)
    (isLast : (newestFirst.take count).getLast? = some last) :
    newestFirst.filter (beforeCursor (some last.timestamp)) =
      (newestFirst.drop count).filter (beforeCursor (some last.timestamp)) := by
  obtain ⟨earlier, split⟩ := List.getLast?_eq_some_iff.mp isLast
  have page := sorted.sublist (List.take_sublist count newestFirst)
  rw [split, List.pairwise_append] at page
  conv_lhs => rw [← List.take_append_drop count newestFirst, List.filter_append]
  rw [List.filter_eq_nil_iff.mpr, List.nil_append]
  intro msg member
  rw [split] at member
  simp only [beforeCursor, Option.all_some, decide_eq_true_eq, not_lt]
  rcases List.mem_append.mp member with older | self
  · exact page.2.2 msg older last (List.mem_singleton_self _)
  · rw [List.mem_singleton.mp self]

/-- With timestamps strictly decreasing, everything after the first `count`
is older than the last of them. -/
theorem filter_drop_of_strict (strict : newestFirst.Pairwise fun a b => b.timestamp < a.timestamp)
    (isLast : (newestFirst.take count).getLast? = some last) :
    (newestFirst.drop count).filter (beforeCursor (some last.timestamp)) = newestFirst.drop count := by
  rw [← List.take_append_drop count newestFirst, List.pairwise_append] at strict
  have member : last ∈ newestFirst.take count := List.mem_of_getLast?_eq_some isLast
  refine List.filter_eq_self.mpr fun msg later => ?_
  simpa [beforeCursor] using strict.2.2 last member msg later

end Paging

/-- Narrowing the cursor to a message before it narrows the messages before it. -/
theorem filter_beforeCursor_last {undeleted : List ChatMessage} {cursor : Option Int} {last : ChatMessage}
    (member : last ∈ undeleted.filter (beforeCursor cursor)) :
    undeleted.filter (beforeCursor (some last.timestamp)) =
      (undeleted.filter (beforeCursor cursor)).filter (beforeCursor (some last.timestamp)) := by
  have inside := (List.mem_filter.mp member).2
  rw [List.filter_filter]
  refine List.filter_congr fun msg _ => ?_
  cases cursor with
  | none => simp [beforeCursor]
  | some before =>
      simp only [beforeCursor, Option.all_some, decide_eq_true_eq] at inside ⊢
      by_cases older : msg.timestamp < last.timestamp
      · simp [older, older.trans inside]
      · simp [older]

/-- The pages read from a cursor are, in order, a part of the undeleted messages
before it; with timestamps strictly decreasing and enough pages to read, they
are all of them. -/
theorem cursorPages_flatten {limit : Int} (positive : 1 ≤ limit) {room : ChatRoom}
    {undeleted : List ChatMessage}
    (pages : ∀ cursor, getMessages limit cursor room = (undeleted.filter (beforeCursor cursor)).take limit.toNat)
    (sorted : undeleted.Pairwise fun a b => b.timestamp ≤ a.timestamp) :
    ∀ (fuel : Nat) (cursor : Option Int),
      (cursorPages limit room fuel cursor).flatten.Sublist (undeleted.filter (beforeCursor cursor)) ∧
        ((undeleted.Pairwise fun a b => b.timestamp < a.timestamp) →
          (undeleted.filter (beforeCursor cursor)).length < fuel →
          (cursorPages limit room fuel cursor).flatten = undeleted.filter (beforeCursor cursor))
  | 0, _ => ⟨List.nil_sublist _, fun _ short => absurd short (Nat.not_lt_zero _)⟩
  | fuel + 1, cursor => by
      have remainingSorted : (undeleted.filter (beforeCursor cursor)).Pairwise _ :=
        sorted.sublist (List.filter_sublist _)
      simp only [cursorPages, pages]
      cases isLast : ((undeleted.filter (beforeCursor cursor)).take limit.toNat).getLast? with
      | none =>
          -- an empty page: nothing is left before the cursor
          have empty := (List.take_eq_nil_iff.mp (List.getLast?_eq_none_iff.mp isLast)).resolve_left
            (by omega)
          exact ⟨List.nil_sublist _, fun _ _ => by rw [empty, List.flatten_nil]⟩
      | some last =>
          -- the next page starts after this one, among the messages older than its last
          have member := (List.take_sublist _ _).subset (List.mem_of_getLast?_eq_some isLast)
          obtain ⟨sound, complete⟩ := cursorPages_flatten positive pages sorted fuel (some last.timestamp)
          rw [filter_beforeCursor_last member, filter_older_than_last remainingSorted isLast] at sound complete
          refine ⟨?_, fun strict short => ?_⟩
          · rw [List.flatten_cons]
            conv_rhs => rw [← List.take_append_drop limit.toNat (undeleted.filter (beforeCursor cursor))]
            exact (List.Sublist.refl _).append (sound.trans (List.filter_sublist _))
          · have nonempty := List.length_pos_of_mem member
            rw [filter_drop_of_strict (strict.sublist (List.filter_sublist _)) isLast] at complete
            rw [List.flatten_cons, complete strict (by rw [List.length_drop]; omega), List.take_append_drop]

/-- In every reachable room, paging by the timestamp of each page's last
message, with one page more than the log is long to read, returns undeleted
messages newest first, none twice and none out of order; when no two undeleted
messages share a timestamp, the pages hold all of them. -/
theorem cursor_pages_in_order {roomName : RoomName} {createdAt : Int} {settings : ChatRoomSettings}
    {state : LiveChat} {clock : Int} (reach : ChatReachable roomName createdAt settings state clock)
    {limit : Int} (positive : 1 ≤ limit) :
    (cursorPages limit state.room (state.room.messages.length + 1) none).flatten.Sublist
        (state.room.messages.reverse.filter fun msg => !msg.isDeleted) ∧
      (((state.room.messages.reverse.filter fun msg => !msg.isDeleted).map ChatMessage.timestamp).Nodup →
        (cursorPages limit state.room (state.room.messages.length + 1) none).flatten =
          state.room.messages.reverse.filter fun msg => !msg.isDeleted) := by
  have sorted : (state.room.messages.reverse.filter fun msg => !msg.isDeleted).Pairwise
      fun a b => b.timestamp ≤ a.timestamp :=
    (List.pairwise_reverse.mpr (admissionInvariant_of_reachable reach).sorted).sublist (List.filter_sublist _)
  have everything : ∀ undeleted : List ChatMessage, undeleted.filter (beforeCursor none) = undeleted :=
    fun _ => List.filter_eq_self.mpr fun _ _ => rfl
  obtain ⟨sound, complete⟩ := cursorPages_flatten positive (getMessages_eq_take limit · state.room) sorted
    (state.room.messages.length + 1) none
  rw [everything] at sound complete
  refine ⟨sound, fun distinct => complete ?_ ?_⟩
  · exact (sorted.and (List.pairwise_map.mp distinct)).imp fun ordered => lt_of_le_of_ne ordered.1 (Ne.symm ordered.2)
  · calc (state.room.messages.reverse.filter fun msg => !msg.isDeleted).length
        ≤ state.room.messages.reverse.length := List.length_filter_le _ _
      _ < state.room.messages.length + 1 := by rw [List.length_reverse]; exact Nat.lt_succ_self _

/-- A moderator and a viewer join a fresh room at the same clock reading 1. -/
def sameInstantChat : LiveChat :=
  chatStep (chatStep ⟨ChatRoom.new "r1" 0 defaultChatRoomSettings, []⟩ 1
    (.join "alice" "Alice" true)) 1 (.join "bob" "Bob" false)

/-- The two join notices share the ID `sys-1`, and alice's `DeleteMessage` of
that ID marks her own notice only. -/
theorem join_notices_share_id :
    ChatReachable "r1" 0 defaultChatRoomSettings sameInstantChat 1 ∧
    sameInstantChat.room.messages.map (fun message => (message.id, message.content)) =
      [(.sys 1, "Alice joined the chat"), (.sys 1, "Bob joined the chat")] ∧
    (ChatMessageId.sys 1).render = "sys-1" ∧
    (deleteMessage (.sys 1) "alice" sameInstantChat.room).result = .ok () ∧
    (deleteMessage (.sys 1) "alice" sameInstantChat.room).room.messages.map
        (fun message => (message.content, message.isDeleted)) =
      [("Alice joined the chat", true), ("Bob joined the chat", false)] :=
  ⟨.step _ (.step _ .created (by decide)) le_rfl, by decide, by decide, rfl, by decide⟩

/-- With pages of one message, the first page is bob's notice and the page
before its timestamp is empty, so paging stops there; alice's notice, stamped
with the same reading, is in no page. -/
theorem cursor_skips_same_instant_message :
    ChatReachable "r1" 0 defaultChatRoomSettings sameInstantChat 1 ∧
    (getMessages 1 none sameInstantChat.room).map ChatMessage.content = ["Bob joined the chat"] ∧
    getMessages 1 ((getMessages 1 none sameInstantChat.room).getLast?.map ChatMessage.timestamp)
      sameInstantChat.room = [] ∧
    ((sameInstantChat.room.messages.filter fun message => !message.isDeleted).reverse.map
      ChatMessage.content) = ["Bob joined the chat", "Alice joined the chat"] :=
  ⟨.step _ (.step _ .created (by decide)) le_rfl, by decide, by decide, by decide⟩

/-- There the pages still come in order, a part of the undeleted messages. -/
theorem same_instant_pages_in_order :
    ChatReachable "r1" 0 defaultChatRoomSettings sameInstantChat 1 ∧ (1 : Int) ≤ 1 ∧
    ((cursorPages 1 sameInstantChat.room (sameInstantChat.room.messages.length + 1) none).flatten.Sublist
        (sameInstantChat.room.messages.reverse.filter fun msg => !msg.isDeleted) ∧
      (((sameInstantChat.room.messages.reverse.filter fun msg => !msg.isDeleted).map
          ChatMessage.timestamp).Nodup →
        (cursorPages 1 sameInstantChat.room (sameInstantChat.room.messages.length + 1) none).flatten =
          sameInstantChat.room.messages.reverse.filter fun msg => !msg.isDeleted)) :=
  have reach : ChatReachable "r1" 0 defaultChatRoomSettings sameInstantChat 1 :=
    .step _ (.step _ .created (by decide)) le_rfl
  ⟨reach, le_rfl, cursor_pages_in_order reach le_rfl⟩

end LiveStreaming.Chat
