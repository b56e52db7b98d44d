import LiveStreaming.Reactions.RateLimit
import Mathlib.Algebra.BigOperators.Ring

/-!
# A reaction room's own bookkeeping

A room object changes only three ways: it is built empty, the last critical
section of `SendReaction` appends one reaction (`appendReaction`), and
`CleanupOldReactions` filters its lists (`sweepRoom`). `RoomReachable` follows
one object through these moves with a ghost history of every reaction
appended to it and the number of reactions the sweeps removed. Along every such
run each user's list is the user's part of the room's list, the totals count
the history, and the sweeps are exactly the gap between the history and the
list (`reaction_room_invariant`). Every object in the heap of a running service
is one of these (`reactionRun_heap_reachable`).
-/

namespace LiveStreaming.Reactions

/-- The room objects one `ReactionRoom` can be built into, with the reactions
appended to it and the number of reactions the sweeps removed. -/
inductive RoomReachable (config : ReactionConfig) : ReactionRoom → List Reaction → Nat → Prop
  | created (now : Int) (roomName : RoomName) : RoomReachable config (newReactionRoom now roomName) [] 0
  | append {room : ReactionRoom} {history : List Reaction} {removed : Nat} (now : Int)
      (call : ReactionCall) :
      RoomReachable config room history removed →
      RoomReachable config (appendReaction config now call room).2
        (history ++ [newReaction now call]) removed
  | sweep {room : ReactionRoom} {history : List Reaction} {removed : Nat} (cutoff : Int) :
      RoomReachable config room history removed →
      RoomReachable config (sweepRoom cutoff room).2 history (removed + (sweepRoom cutoff room).1)

/-- The room's bookkeeping: each user's list is the user's part of the room's
list, the totals count the history, and the list misses exactly the removed
reactions. -/
structure RoomLedger (room : ReactionRoom) (history : List Reaction) (removed : Nat) : Prop where
  userReactions : ∀ userID,
    (room.userReactions.lookup userID).getD [] = room.reactions.filter (·.userID = userID)
  totalReactions : room.stats.totalReactions = history.length
  reactionCounts : ∀ reactionType,
    room.stats.reactionCounts reactionType = ((history.map (·.reactionType)).count reactionType : Int)
  kept : room.reactions.length + removed = history.length

/-! ## What the leaderboard and the append touch -/

section Append

variable {config : ReactionConfig} {now : Int} {call : ReactionCall} {room : ReactionRoom}

@[simp]
theorem updateTopReactors_reactions : (updateTopReactors config room).reactions = room.reactions := by
  unfold updateTopReactors; split <;> rfl

@[simp]
theorem updateTopReactors_userReactions :
    (updateTopReactors config room).userReactions = room.userReactions := by
  unfold updateTopReactors; split <;> rfl

@[simp]
theorem updateTopReactors_totalReactions :
    (updateTopReactors config room).stats.totalReactions = room.stats.totalReactions := by
  unfold updateTopReactors; split <;> rfl

@[simp]
theorem updateTopReactors_reactionCounts :
    (updateTopReactors config room).stats.reactionCounts = room.stats.reactionCounts := by
  unfold updateTopReactors; split <;> rfl

/-- The append writes the four parts of the bookkeeping the same way whether
or not it panics afterwards. -/
theorem appendReaction_ledger :
    (appendReaction config now call room).2.reactions = room.reactions ++ [newReaction now call] ∧
    (appendReaction config now call room).2.userReactions =
      room.userReactions.insert call.userID
        ((room.userReactions.lookup call.userID).getD [] ++ [newReaction now call]) ∧
    (appendReaction config now call room).2.stats.totalReactions = room.stats.totalReactions + 1 ∧
    (appendReaction config now call room).2.stats.reactionCounts =
      Function.update room.stats.reactionCounts call.reactionType
        (room.stats.reactionCounts call.reactionType + 1) := by
  simp only [appendReaction]
  split_ifs <;> simp

end Append

/-! ## One move keeps the bookkeeping -/

theorem lookup_mapValues {entries : List (Σ _ : ParticipantIdentity, List Reaction)}
    (change : List Reaction → List Reaction) (userID : ParticipantIdentity) :
    (entries.map fun entry => (⟨entry.1, change entry.2⟩ : Σ _ : ParticipantIdentity, List Reaction)
      ).dlookup userID = (entries.dlookup userID).map change := by
  induction entries with
  | nil => rfl
  | cons entry rest inductionHypothesis =>
      obtain ⟨key, reactions⟩ := entry
      by_cases same : userID = key
      · subst same
        simp only [List.map_cons, List.dlookup_cons_eq, Option.map_some']
      · simp only [List.map_cons, List.dlookup_cons_ne _ ⟨key, _⟩ same, inductionHypothesis]

theorem roomLedger_newReactionRoom (now : Int) (roomName : RoomName) :
    RoomLedger (newReactionRoom now roomName) [] 0 :=
  ⟨fun _ => rfl, rfl, fun _ => rfl, rfl⟩

theorem RoomLedger.append {config : ReactionConfig} {room : ReactionRoom}
    {history : List Reaction} {removed : Nat} (ledger : RoomLedger room history removed)
    (now : Int) (call : ReactionCall) :
    RoomLedger (appendReaction config now call room).2 (history ++ [newReaction now call])
      removed := by
  obtain ⟨reactions, userReactions, total, counts⟩ :=
    @appendReaction_ledger config now call room
  refine ⟨fun userID => ?_, ?_, fun reactionType => ?_, ?_⟩
  · rw [userReactions, reactions, List.filter_append]
    by_cases same : userID = call.userID
    · subst same
      simp [AList.lookup_insert, ledger.userReactions, newReaction]
    · simp [AList.lookup_insert_ne same, ledger.userReactions, newReaction, Ne.symm same]
  · rw [total, ledger.totalReactions, List.length_append, List.length_singleton]
    omega
  · rw [counts, List.map_append, List.count_append]
    by_cases same : reactionType = call.reactionType
    · subst same
      rw [Function.update_same, ledger.reactionCounts]
      simp only [List.map_cons, List.map_nil, newReaction, List.count_singleton_self]
      omega
    · rw [Function.update_noteq same, ledger.reactionCounts]
      simp [newReaction, List.count_cons, Ne.symm same]
  · rw [reactions, List.length_append, List.length_append, ← ledger.kept]
    omega

theorem RoomLedger.sweep {room : ReactionRoom} {history : List Reaction} {removed : Nat}
    (ledger : RoomLedger room history removed) (cutoff : Int) :
    RoomLedger (sweepRoom cutoff room).2 history (removed + (sweepRoom cutoff room).1) := by
  refine ⟨fun userID => ?_, ledger.totalReactions, ledger.reactionCounts, ?_⟩
  · calc ((room.userReactions.entries.map fun entry =>
            (⟨entry.1, entry.2.filter fun reaction => decide (cutoff < reaction.timestamp)⟩ :
              Σ _ : ParticipantIdentity, List Reaction)).dlookup userID).getD []
        _ = ((room.userReactions.lookup userID).getD []).filter
              fun reaction => decide (cutoff < reaction.timestamp) := by
          rw [lookup_mapValues]
          show ((room.userReactions.lookup userID).map _).getD [] = _
          cases room.userReactions.lookup userID <;> rfl
        _ = (room.reactions.filter fun reaction => decide (cutoff < reaction.timestamp)).filter
              (·.userID = userID) := by
          rw [ledger.userReactions, List.filter_filter, List.filter_filter]
          exact List.filter_congr fun _ _ => Bool.and_comm _ _
  · have split := List.length_eq_length_filter_add (l := room.reactions)
      fun reaction => decide (cutoff < reaction.timestamp)
    have kept := ledger.kept
    simp only [sweepRoom]
    omega

/-- Every room object built by these moves keeps its bookkeeping. -/
theorem RoomReachable.roomLedger {config : ReactionConfig} {room : ReactionRoom}
    {history : List Reaction} {removed : Nat} (reach : RoomReachable config room history removed) :
    RoomLedger room history removed := by
  induction reach with
  | created now roomName => exact roomLedger_newReactionRoom now roomName
  | append now call _ inductionHypothesis => exact inductionHypothesis.append now call
  | sweep cutoff _ inductionHypothesis => exact inductionHypothesis.sweep cutoff

/-- Along every run of one room object, each user's list is the sub-list of
the room's reactions by that user, in order; `TotalReactions` is the number of
reactions ever appended and the sum of `ReactionCounts` over the types
appended, every other type counting zero; and it exceeds the length of the
room's list by exactly the number of reactions the sweeps removed. -/
theorem reaction_room_invariant {config : ReactionConfig} {room : ReactionRoom}
    {history : List Reaction} {removed : Nat} (reach : RoomReachable config room history removed) :
    (∀ userID,
      (room.userReactions.lookup userID).getD [] = room.reactions.filter (·.userID = userID)) ∧
    room.stats.totalReactions = history.length ∧
    room.stats.totalReactions =
      (((history.map (·.reactionType)).dedup.map room.stats.reactionCounts).sum) ∧
    (∀ reactionType, reactionType ∉ history.map (·.reactionType) →
      room.stats.reactionCounts reactionType = 0) ∧
    room.stats.totalReactions = room.reactions.length + removed := by
  have ledger := reach.roomLedger
  refine ⟨ledger.userReactions, ledger.totalReactions, ?_, fun reactionType absent => ?_, ?_⟩
  · have counted : (history.map (·.reactionType)).dedup.map room.stats.reactionCounts =
        (((history.map (·.reactionType)).dedup.map
          fun reactionType => (history.map (·.reactionType)).count reactionType).map
            (Nat.cast : Nat → Int)) := by
      rw [List.map_map]
      exact List.map_congr_left fun reactionType _ => ledger.reactionCounts reactionType
    rw [counted, ← Nat.cast_list_sum, List.sum_map_count_dedup_eq_length, List.length_map,
      ledger.totalReactions]
  · rw [ledger.reactionCounts, List.count_eq_zero_of_not_mem absent, Nat.cast_zero]
  · rw [ledger.totalReactions, ← ledger.kept]
    omega

/-- Alice's like at 1 and bob's heart at 2 in a room created at 0. -/
def likedRoom : ReactionRoom :=
  (appendReaction defaultReactionConfig 2 ⟨"r1", "bob", "Bob", "heart", none⟩
    (appendReaction defaultReactionConfig 1 aliceLike (newReactionRoom 0 "r1")).2).2

/-- The bookkeeping after a sweep with cutoff 1, which removes alice's like. -/
theorem swept_room_ledger :
    RoomReachable defaultReactionConfig (sweepRoom 1 likedRoom).2
        [newReaction 1 aliceLike, newReaction 2 ⟨"r1", "bob", "Bob", "heart", none⟩]
        (0 + (sweepRoom 1 likedRoom).1) ∧
    ((∀ userID, ((sweepRoom 1 likedRoom).2.userReactions.lookup userID).getD [] =
        (sweepRoom 1 likedRoom).2.reactions.filter (·.userID = userID)) ∧
      (sweepRoom 1 likedRoom).2.stats.totalReactions =
        [newReaction 1 aliceLike, newReaction 2 ⟨"r1", "bob", "Bob", "heart", none⟩].length ∧
      (sweepRoom 1 likedRoom).2.stats.totalReactions =
        ((([newReaction 1 aliceLike, newReaction 2 ⟨"r1", "bob", "Bob", "heart", none⟩].map
          (·.reactionType)).dedup.map (sweepRoom 1 likedRoom).2.stats.reactionCounts).sum) ∧
      (∀ reactionType, reactionType ∉
          [newReaction 1 aliceLike, newReaction 2 ⟨"r1", "bob", "Bob", "heart", none⟩].map
            (·.reactionType) →
        (sweepRoom 1 likedRoom).2.stats.reactionCounts reactionType = 0) ∧
      (sweepRoom 1 likedRoom).2.stats.totalReactions =
        (sweepRoom 1 likedRoom).2.reactions.length + (0 + (sweepRoom 1 likedRoom).1)) :=
  have reach : RoomReachable defaultReactionConfig (sweepRoom 1 likedRoom).2
      [newReaction 1 aliceLike, newReaction 2 ⟨"r1", "bob", "Bob", "heart", none⟩]
      (0 + (sweepRoom 1 likedRoom).1) :=
    (((RoomReachable.created 0 "r1").append 1 aliceLike).append 2 _).sweep 1
  ⟨reach, reaction_room_invariant reach⟩

/-! ## Every room in the heap is such an object -/

/-- Every object in the service's heap is a room built by these moves under
the service's configuration. -/
def HeapReachable (service : ReactionService) : Prop :=
  ∀ ref, ∃ history removed, RoomReachable service.config (service.heap ref) history removed

section Heap

variable {service : ReactionService}

theorem HeapReachable.allocate (reach : HeapReachable service) (now : Int) (roomName : RoomName) :
    HeapReachable (service.allocate roomName (newReactionRoom now roomName)).2 := by
  intro ref
  by_cases same : ref = service.allocated
  · subst same
    exact ⟨[], 0, by simpa [ReactionService.allocate] using RoomReachable.created now roomName⟩
  · simpa [ReactionService.allocate, Function.update_noteq same] using reach ref

theorem HeapReachable.write (reach : HeapReachable service) {ref : RoomRef} {room : ReactionRoom}
    (built : ∃ history removed, RoomReachable service.config room history removed) :
    HeapReachable (service.write ref room) := by
  intro other
  by_cases same : other = ref
  · subst same; simpa [ReactionService.write] using built
  · simpa [ReactionService.write, Function.update_noteq same] using reach other

theorem HeapReachable.resolveReactionRoom (reach : HeapReachable service) (now : Int)
    (roomName : RoomName) : HeapReachable (resolveReactionRoom now roomName service).2 := by
  unfold LiveStreaming.Reactions.resolveReactionRoom
  split
  · exact reach
  · exact reach.allocate now roomName

theorem HeapReachable.createReactionRoom (reach : HeapReachable service) (now : Int)
    (roomName : RoomName) : HeapReachable (createReactionRoom now roomName service).2 := by
  unfold LiveStreaming.Reactions.createReactionRoom
  split
  · exact reach
  · exact reach.allocate now roomName

/-- The sweep's loop replaces each bound room by its swept copy. -/
theorem HeapReachable.sweepRooms (cutoff : Int) :
    ∀ (entries : List (Σ _ : RoomName, RoomRef)) (swept : Nat × ReactionService),
      HeapReachable swept.2 →
      HeapReachable (entries.foldl
        (fun (swept : Nat × ReactionService) entry =>
          let (dropped, room) := sweepRoom cutoff (swept.2.heap entry.2)
          (swept.1 + dropped, swept.2.write entry.2 room)) swept).2
  | [], _, reach => reach
  | entry :: rest, swept, reach => by
      obtain ⟨history, removed, built⟩ := reach entry.2
      exact HeapReachable.sweepRooms cutoff rest _ (reach.write ⟨history, _, built.sweep cutoff⟩)

theorem HeapReachable.cleanupOldReactions (reach : HeapReachable service) (now : Int) :
    HeapReachable (cleanupOldReactions now service).2 :=
  HeapReachable.sweepRooms _ _ (0, service) reach

end Heap

/-- Every event keeps each heap object a room built by appends and sweeps. -/
theorem HeapReachable.reactionStep {system : ReactionSystem} (reach : HeapReachable system.service)
    (now : Int) (event : ReactionEvent) : HeapReachable (reactionStep system now event).service := by
  cases event with
  | send callID call =>
      simp only [LiveStreaming.Reactions.reactionStep]
      split_ifs
      · exact reach
      · exact reach.resolveReactionRoom now call.roomName
  | check callID =>
      simp only [LiveStreaming.Reactions.reactionStep]
      split
      · exact reach
      · split_ifs <;> exact reach
  | commit callID =>
      simp only [LiveStreaming.Reactions.reactionStep]
      split
      · exact reach
      · rename_i flight _
        obtain ⟨history, removed, built⟩ := reach flight.ref
        exact reach.write ⟨_, removed, built.append now flight.call⟩
  | create roomName => exact reach.createReactionRoom now roomName
  | delete => exact reach
  | cleanup => exact reach.cleanupOldReactions now

/-- Over every run from `NewReactionService`, every object in the heap, every
room bound to a name among them, is a room built by appends and sweeps, so its
bookkeeping is the one `reaction_room_invariant` gives. -/
theorem reactionRun_heap_reachable (config : ReactionConfig) :
    ∀ (events : List (Int × ReactionEvent)),
      HeapReachable (reactionRun ⟨ReactionService.new config, []⟩ events).service := by
  suffices running : ∀ (events : List (Int × ReactionEvent)) (system : ReactionSystem),
      HeapReachable system.service → HeapReachable (reactionRun system events).service from
    fun events => running events _ fun _ => ⟨[], 0, .created 0 ""⟩
  intro events
  induction events with
  | nil => exact fun _ reach => reach
  | cons event rest inductionHypothesis =>
      exact fun system reach => inductionHypothesis _ (reach.reactionStep event.1 event.2)

end LiveStreaming.Reactions
