import LiveStreaming.Chat.Run
import Mathlib.Data.List.Nodup

/-!
# Fan-out to the message handlers

`RegisterMessageHandler` appends a callback to the service's handler list, and
`JoinChatRoom`, `LeaveChatRoom` and `SendMessage` call `notifyHandlers` with
each message right after appending it to the room's log. `notifyHandlers`
starts one goroutine `go handler(message)` per registered handler, so the
deliveries of successive messages are pending at once and the scheduler runs
them in any order.

A handler is named by its position in the list. The model keeps the pending
goroutines in start order; a `deliver` event runs any one of them. Every run
conserves deliveries: what a handler has received, together with what is still
pending for it, is a permutation of what was sent to it (`deliveries_conserved`),
so once nothing is pending each message reached it exactly once. The order is
not kept (`handler_receives_out_of_order`).
-/

namespace LiveStreaming.Chat

/-- One room's chat with the service's handlers: `handlers` of them are
registered, `pending` holds the goroutines started and not yet run, and
`delivered` what each handler has received, in the order it ran. -/
structure FanOut where
  chat : LiveChat
  handlers : Nat
  pending : List (Nat × ChatMessage)
  delivered : Nat → List ChatMessage

/-- A chat method, a `RegisterMessageHandler`, or the run of the pending
goroutine at position `index`. -/
inductive FanOutEvent where
  | chat (event : ChatEvent)
  | register
  | deliver (index : Nat)

/-- The messages a chat step appends to the log, which it passes to
`notifyHandlers`: the notice of a join or leave, or the message sent. -/
def notifiedMessages (chat : LiveChat) (now : Int) (event : ChatEvent) : List ChatMessage :=
  (chatStep chat now event).room.messages.drop chat.room.messages.length

/-- One event at clock reading `now`. -/
def fanOutStep (state : FanOut) (now : Int) : FanOutEvent → FanOut
  | .chat event =>
      { state with
        chat := chatStep state.chat now event
        pending := state.pending ++ (notifiedMessages state.chat now event).flatMap fun message =>
          (List.range state.handlers).map fun handler => (handler, message) }
  | .register => { state with handlers := state.handlers + 1 }
  | .deliver index =>
      match state.pending[index]? with
      | none => state
      | some (handler, message) =>
          { state with
            pending := state.pending.eraseIdx index
            delivered := Function.update state.delivered handler (state.delivered handler ++ [message]) }

/-- A run of timed events. -/
def fanOutRun : FanOut → List (Int × FanOutEvent) → FanOut
  | state, [] => state
  | state, (now, event) :: rest => fanOutRun (fanOutStep state now event) rest

/-- What is still pending for `handler`, in start order. -/
def FanOut.pendingFor (state : FanOut) (handler : Nat) : List ChatMessage :=
  (state.pending.filter (·.1 = handler)).map (·.2)

/-- The messages sent to each handler so far: a chat step sends its appended
messages to every handler registered at that point. -/
def sentAfter (state : FanOut) (now : Int) (event : FanOutEvent) (sent : Nat → List ChatMessage) :
    Nat → List ChatMessage :=
  match event with
  | .chat event => fun handler =>
      if handler < state.handlers then sent handler ++ notifiedMessages state.chat now event
      else sent handler
  | _ => sent

/-- The states a fan-out reaches from a chat with no handlers, with the
messages sent to each handler. -/
inductive FanOutReachable : FanOut → (Nat → List ChatMessage) → Prop
  | start (chat : LiveChat) : FanOutReachable ⟨chat, 0, [], fun _ => []⟩ fun _ => []
  | step {state : FanOut} {sent : Nat → List ChatMessage} (now : Int) (event : FanOutEvent) :
      FanOutReachable state sent →
      FanOutReachable (fanOutStep state now event) (sentAfter state now event sent)

/-! ## What a step notifies -/

/-- A chat step notifies nothing, the notice it appended, or the message it
appended. -/
theorem notifiedMessages_cases (chat : LiveChat) (now : Int) (event : ChatEvent) :
    notifiedMessages chat now event = [] ∨
      (∃ content, notifiedMessages chat now event = [systemMessage chat.room now content]) ∨
      ∃ message, notifiedMessages chat now event = [message] ∧
        (chatStep chat now event).room.messages = chat.room.messages ++ [message] := by
  unfold notifiedMessages
  rcases chatStep_messages chat now event with
    kept | ⟨content, appended⟩ | ⟨_, _, _, _, _, -, -, -, appended⟩
  · left
    have same := congrArg List.length kept
    simp only [List.length_map] at same
    rw [List.drop_eq_nil_of_le (Nat.le_of_eq same)]
  · exact .inr (.inl ⟨content, by rw [appended, List.drop_left]⟩)
  · exact .inr (.inr ⟨_, by rw [appended, List.drop_left], appended⟩)

theorem perm_cons_eraseIdx {pending : List (Nat × ChatMessage)} {index : Nat}
    (present : index < pending.length) :
    pending.Perm (pending[index] :: pending.eraseIdx index) := by
  have split : List.take index pending ++ pending[index] :: List.drop (index + 1) pending =
      pending := by
    rw [← List.drop_eq_getElem_cons present, List.take_append_drop]
  have moved := @List.perm_middle _ pending[index] (List.take index pending)
    (List.drop (index + 1) pending)
  rwa [split, ← List.eraseIdx_eq_take_drop_succ] at moved

theorem pendingFor_notify (handlers handler : Nat) (messages : List ChatMessage) :
    (((messages.flatMap fun message =>
        (List.range handlers).map fun other => (other, message)).filter (·.1 = handler)).map (·.2)) =
      if handler < handlers then messages else [] := by
  have once : (List.range handlers).filter (· = handler) =
      if handler < handlers then [handler] else [] := by
    rw [List.filter_eq]
    split_ifs with registered
    · rw [List.count_eq_one_of_mem (List.nodup_range handlers) (List.mem_range.mpr registered)]; rfl
    · rw [List.count_eq_zero_of_not_mem (mt List.mem_range.mp registered)]; rfl
  induction messages with
  | nil => split_ifs <;> rfl
  | cons message rest inductionHypothesis =>
      rw [List.flatMap_cons, List.filter_append, List.map_append, inductionHypothesis,
        List.filter_map, List.map_map]
      simp only [Function.comp_def, once]
      split_ifs <;> rfl

/-! ## Deliveries are conserved -/

/-- What a handler received and what is pending for it are, together, a
permutation of what was sent to it. -/
def Conserved (state : FanOut) (sent : Nat → List ChatMessage) : Prop :=
  ∀ handler, (state.delivered handler ++ state.pendingFor handler).Perm (sent handler)

theorem Conserved.step {state : FanOut} {sent : Nat → List ChatMessage}
    (conserved : Conserved state sent) (now : Int) (event : FanOutEvent) :
    Conserved (fanOutStep state now event) (sentAfter state now event sent) := by
  intro handler
  cases event with
  | chat event =>
      simp only [fanOutStep, sentAfter, FanOut.pendingFor, List.filter_append, List.map_append,
        pendingFor_notify]
      rw [← List.append_assoc]
      split_ifs
      · exact (conserved handler).append_right _
      · simpa using conserved handler
  | register => exact conserved handler
  | deliver index =>
      simp only [fanOutStep, sentAfter]
      split
      · exact conserved handler
      · rename_i receiver message found
        obtain ⟨present, picked⟩ := List.getElem?_eq_some_iff.mp found
        have moved := (perm_cons_eraseIdx present).filter (·.1 = handler) |>.map (·.2)
        rw [picked] at moved
        refine List.Perm.trans ?_ (conserved handler)
        simp only [FanOut.pendingFor, Function.update_apply]
        split_ifs with same
        · subst same
          rw [List.append_assoc]
          refine List.Perm.append_left _ ?_
          simpa using moved.symm
        · refine List.Perm.append_left _ ?_
          simpa [Ne.symm same] using moved.symm

/-- Every reachable fan-out conserves deliveries. -/
theorem FanOutReachable.conserved {state : FanOut} {sent : Nat → List ChatMessage}
    (reach : FanOutReachable state sent) : Conserved state sent := by
  induction reach with
  | start => intro _; rfl
  | step now event _ inductionHypothesis => exact inductionHypothesis.step now event

/-- Over every run, each handler's deliveries together with its pending ones
are a permutation of the messages sent to it: no delivery is lost or
duplicated, and once nothing is pending each message sent to a handler has
reached it exactly once. -/
theorem deliveries_conserved {state : FanOut} {sent : Nat → List ChatMessage}
    (reach : FanOutReachable state sent) (handler : Nat) :
    (state.delivered handler ++ state.pendingFor handler).Perm (sent handler) ∧
      (state.pending = [] → (state.delivered handler).Perm (sent handler)) := by
  refine ⟨reach.conserved handler, fun idle => ?_⟩
  simpa [FanOut.pendingFor, idle] using reach.conserved handler

/-- Every run from a reachable fan-out reaches one, so `deliveries_conserved`
holds after every `fanOutRun` from a chat with no handlers. -/
theorem FanOutReachable.run :
    ∀ (events : List (Int × FanOutEvent)) {state : FanOut} {sent : Nat → List ChatMessage},
      FanOutReachable state sent → ∃ sent', FanOutReachable (fanOutRun state events) sent'
  | [], _, sent, reach => ⟨sent, reach⟩
  | (now, event) :: rest, _, _, reach => FanOutReachable.run rest (reach.step now event)

/-! ## The order is not kept -/

/-- One handler registered on a fresh room; alice joins at 1 and sends at 2;
the goroutine of her message runs at 3, that of her join notice at 4. -/
def reorderedFanOut : FanOut :=
  fanOutRun ⟨⟨ChatRoom.new "r1" 0 defaultChatRoomSettings, []⟩, 0, [], fun _ => []⟩
    [(0, .register), (1, .chat (.join "alice" "Alice" false)),
      (2, .chat (.send "alice" "hi" "text" [] none)), (3, .deliver 1), (4, .deliver 0)]

/-- The handler receives alice's message before her join notice, the reverse of
their order in the log. -/
theorem handler_receives_out_of_order :
    (reorderedFanOut.chat.room.messages.map ChatMessage.id) = [.sys 1, .msg 2 "alice"] ∧
    ((reorderedFanOut.delivered 0).map ChatMessage.id) = [.msg 2 "alice", .sys 1] ∧
    reorderedFanOut.pending = [] := by
  decide

/-- The reordered run still delivers each message to the handler once. -/
theorem reordered_deliveries_conserved :
    ∃ sent, FanOutReachable reorderedFanOut sent ∧
      ((reorderedFanOut.delivered 0 ++ reorderedFanOut.pendingFor 0).Perm (sent 0) ∧
        (reorderedFanOut.pending = [] → (reorderedFanOut.delivered 0).Perm (sent 0))) := by
  obtain ⟨sent, reach⟩ : ∃ sent, FanOutReachable reorderedFanOut sent :=
    FanOutReachable.run _ (.start _)
  exact ⟨sent, reach, deliveries_conserved reach 0⟩

end LiveStreaming.Chat
