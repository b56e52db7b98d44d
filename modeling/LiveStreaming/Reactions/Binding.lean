import LiveStreaming.Reactions.Room

/-!
# Room names keep their objects

`SendReaction` looks its room up under the service's read lock and, when there
is none, takes the write lock, looks again and only then creates it; the model
takes the second look as the step, since the first one only ever saves it.
`CreateReactionRoom` creates a room only under a name that has none, and no
other method but `DeleteReactionRoom` touches the bindings. So without
`DeleteReactionRoom` a name, once bound to a room object, stays bound to it for
the rest of the run: one object per name. A call in flight holds the object
bound to its room's name, and the reaction its last section appends stays in
that object's list, and so in its user's list, until a sweep's cutoff reaches
its timestamp (`lazy_room_creation_loses_nothing`).
-/

namespace LiveStreaming.Reactions

/-- Whether the event is a `DeleteReactionRoom`. -/
def ReactionEvent.deletes : ReactionEvent → Bool
  | .delete _ => true
  | _ => false

theorem reactionRun_append (system : ReactionSystem) :
    ∀ before after : List (Int × ReactionEvent),
      reactionRun system (before ++ after) = reactionRun (reactionRun system before) after
  | [], _ => rfl
  | (now, event) :: rest, after => reactionRun_append (reactionStep system now event) rest after

/-! ## What the methods do to the bindings and the heap -/

section Service

variable {service : ReactionService} {name : RoomName} {ref : RoomRef}

theorem ReactionService.allocate_lookup (roomName : RoomName) (room : ReactionRoom) (name : RoomName) :
    (service.allocate roomName room).2.rooms.lookup name =
      if name = roomName then some service.allocated else service.rooms.lookup name := by
  split_ifs with same
  · subst same; exact AList.lookup_insert _
  · exact AList.lookup_insert_ne same

/-- Allocating binds only a name that had no room, so it keeps every binding. -/
theorem ReactionService.allocate_keeps {roomName : RoomName} (absent : service.rooms.lookup roomName = none)
    (room : ReactionRoom) (bound : service.rooms.lookup name = some ref) :
    (service.allocate roomName room).2.rooms.lookup name = some ref := by
  rw [ReactionService.allocate_lookup, if_neg fun same => by (rw [same, absent] at bound; cases bound),
    bound]

/-- `resolveReactionRoom` returns the object bound to the name, or allocates
and binds a new one when there is none. -/
theorem resolveReactionRoom_cases (now : Int) (roomName : RoomName) :
    (service.rooms.lookup roomName = some (resolveReactionRoom now roomName service).1 ∧
        (resolveReactionRoom now roomName service).2 = service) ∨
      (service.rooms.lookup roomName = none ∧
        resolveReactionRoom now roomName service = service.allocate roomName (newReactionRoom now roomName)) := by
  unfold resolveReactionRoom
  split
  · exact .inl ⟨‹_›, rfl⟩
  · exact .inr ⟨‹_›, rfl⟩

theorem createReactionRoom_cases (now : Int) (roomName : RoomName) :
    (createReactionRoom now roomName service).2 = service ∨
      (service.rooms.lookup roomName = none ∧
        (createReactionRoom now roomName service).2 =
          (service.allocate roomName (newReactionRoom now roomName)).2) := by
  unfold createReactionRoom
  split
  · exact .inl rfl
  · exact .inr ⟨‹_›, rfl⟩

theorem resolveReactionRoom_frame (now : Int) (roomName : RoomName) :
    (resolveReactionRoom now roomName service).2.config = service.config ∧
      service.allocated ≤ (resolveReactionRoom now roomName service).2.allocated := by
  unfold resolveReactionRoom; split
  · exact ⟨rfl, le_rfl⟩
  · exact ⟨rfl, Nat.le_succ _⟩

theorem createReactionRoom_frame (now : Int) (roomName : RoomName) :
    (createReactionRoom now roomName service).2.config = service.config ∧
      service.allocated ≤ (createReactionRoom now roomName service).2.allocated := by
  unfold createReactionRoom; split
  · exact ⟨rfl, le_rfl⟩
  · exact ⟨rfl, Nat.le_succ _⟩

/-- One turn of the sweep's loop over the bound rooms. -/
def sweepEntry (cutoff : Int) (swept : Nat × ReactionService) (entry : Σ _ : RoomName, RoomRef) :
    Nat × ReactionService :=
  let (dropped, room) := sweepRoom cutoff (swept.2.heap entry.2)
  (swept.1 + dropped, swept.2.write entry.2 room)

theorem cleanupOldReactions_eq_foldl (now : Int) :
    cleanupOldReactions now service =
      service.rooms.entries.foldl (sweepEntry (now - service.config.reactionTTL)) (0, service) :=
  rfl

/-- The sweep's loop writes only the heap. -/
theorem sweepEntries_frame (cutoff : Int) :
    ∀ (entries : List (Σ _ : RoomName, RoomRef)) (swept : Nat × ReactionService),
      (entries.foldl (sweepEntry cutoff) swept).2.rooms = swept.2.rooms ∧
        (entries.foldl (sweepEntry cutoff) swept).2.allocated = swept.2.allocated ∧
        (entries.foldl (sweepEntry cutoff) swept).2.config = swept.2.config
  | [], _ => ⟨rfl, rfl, rfl⟩
  | _ :: rest, _ => sweepEntries_frame cutoff rest _

/-- It keeps every reaction after its cutoff. -/
theorem sweepEntries_keeps {cutoff : Int} {reaction : Reaction} (fresh : cutoff < reaction.timestamp)
    (ref : RoomRef) :
    ∀ (entries : List (Σ _ : RoomName, RoomRef)) (swept : Nat × ReactionService),
      reaction ∈ (swept.2.heap ref).reactions →
        reaction ∈ ((entries.foldl (sweepEntry cutoff) swept).2.heap ref).reactions
  | [], _, present => present
  | entry :: rest, _, present => by
      refine sweepEntries_keeps fresh ref rest _ ?_
      by_cases same : ref = entry.2
      · subst same
        simpa [sweepEntry, ReactionService.write, sweepRoom] using ⟨present, fresh⟩
      · simpa [sweepEntry, ReactionService.write, Function.update_noteq same] using present

end Service

/-! ## One step -/

/-- The runs' bookkeeping of bindings: every bound object is allocated, and
every call in flight holds the object bound to its room's name. -/
structure Bound (system : ReactionSystem) : Prop where
  allocated : ∀ name ref, system.service.rooms.lookup name = some ref → ref < system.service.allocated
  inFlight : ∀ flight ∈ system.inFlight,
    system.service.rooms.lookup flight.call.roomName = some flight.ref

section Step

variable {system : ReactionSystem} {now : Int} {event : ReactionEvent}

theorem reactionStep_frame :
    (reactionStep system now event).service.config = system.service.config ∧
      system.service.allocated ≤ (reactionStep system now event).service.allocated := by
  cases event with
  | send _ call =>
      simp only [reactionStep]
      split_ifs
      · exact ⟨rfl, le_rfl⟩
      · exact resolveReactionRoom_frame now call.roomName
  | check | commit =>
      simp only [reactionStep]
      repeat' split
      all_goals exact ⟨rfl, le_rfl⟩
  | create roomName => exact createReactionRoom_frame now roomName
  | delete => exact ⟨rfl, le_rfl⟩
  | cleanup =>
      obtain ⟨-, allocated, config⟩ := sweepEntries_frame _ system.service.rooms.entries (0, system.service)
      exact ⟨config, allocated.ge⟩

/-- What a step does to the bindings: nothing, or it binds a name that had no
room to a newly allocated object. -/
theorem reactionStep_rooms (noDelete : event.deletes = false) :
    ((reactionStep system now event).service.rooms = system.service.rooms ∧
        (reactionStep system now event).service.allocated = system.service.allocated) ∨
      ∃ roomName room, system.service.rooms.lookup roomName = none ∧
        (reactionStep system now event).service = (system.service.allocate roomName room).2 := by
  cases event with
  | send _ call =>
      simp only [reactionStep]
      split_ifs
      · exact .inl ⟨rfl, rfl⟩
      · rcases @resolveReactionRoom_cases system.service now call.roomName with
          ⟨-, same⟩ | ⟨absent, allocated⟩
        · exact .inl ⟨congrArg ReactionService.rooms same, congrArg ReactionService.allocated same⟩
        · exact .inr ⟨_, _, absent, congrArg Prod.snd allocated⟩
  | check | commit =>
      simp only [reactionStep]
      repeat' split
      all_goals exact .inl ⟨rfl, rfl⟩
  | create roomName =>
      rcases @createReactionRoom_cases system.service now roomName with
        same | ⟨absent, allocated⟩
      · exact .inl ⟨congrArg ReactionService.rooms same, congrArg ReactionService.allocated same⟩
      · exact .inr ⟨_, _, absent, allocated⟩
  | delete => cases noDelete
  | cleanup =>
      obtain ⟨rooms, allocated, -⟩ := sweepEntries_frame _ system.service.rooms.entries (0, system.service)
      exact .inl ⟨rooms, allocated⟩

/-- Without `DeleteReactionRoom` a step keeps every binding. -/
theorem reactionStep_keeps_binding (noDelete : event.deletes = false) {name : RoomName}
    {ref : RoomRef} (bound : system.service.rooms.lookup name = some ref) :
    (reactionStep system now event).service.rooms.lookup name = some ref := by
  rcases reactionStep_rooms noDelete with ⟨rooms, -⟩ | ⟨roomName, room, absent, allocated⟩
  · rwa [rooms]
  · rw [allocated]
    exact ReactionService.allocate_keeps absent room bound

theorem resolveReactionRoom_binds (service : ReactionService) (roomName : RoomName) :
    (resolveReactionRoom now roomName service).2.rooms.lookup roomName =
      some (resolveReactionRoom now roomName service).1 := by
  rcases @resolveReactionRoom_cases service now roomName with ⟨bound, same⟩ | ⟨-, allocated⟩
  · rwa [same]
  · rw [allocated]
    exact AList.lookup_insert _

theorem reactionStep_send_of_new {callID : Nat} {call : ReactionCall}
    (new : ¬system.inFlight.any (·.callID = callID)) :
    reactionStep system now (.send callID call) =
      ⟨(resolveReactionRoom now call.roomName system.service).2,
        system.inFlight ++ [⟨callID, call, (resolveReactionRoom now call.roomName system.service).1, false⟩]⟩ := by
  simp only [reactionStep, new, Bool.false_eq_true, if_false]

/-- Each call in flight after a step was in flight before with the same call
and object, or is the new call of a `send`, holding the object it resolved. -/
theorem reactionStep_inFlight {flight : InFlight}
    (member : flight ∈ (reactionStep system now event).inFlight) :
    (∃ old ∈ system.inFlight, old.call = flight.call ∧ old.ref = flight.ref) ∨
      ∃ callID, event = .send callID flight.call ∧ ¬system.inFlight.any (·.callID = callID) ∧
        flight.ref = (resolveReactionRoom now flight.call.roomName system.service).1 := by
  cases event with
  | send callID call =>
      by_cases duplicate : system.inFlight.any (·.callID = callID)
      · simp only [reactionStep, duplicate, if_true] at member
        exact .inl ⟨flight, member, rfl, rfl⟩
      · rw [reactionStep_send_of_new duplicate] at member
        rcases List.mem_append.mp member with old | new
        · exact .inl ⟨flight, old, rfl, rfl⟩
        · rw [List.mem_singleton] at new
          subst new
          exact .inr ⟨callID, rfl, duplicate, rfl⟩
  | check callID =>
      simp only [reactionStep] at member
      split at member
      · exact .inl ⟨flight, member, rfl, rfl⟩
      · split_ifs at member
        · obtain ⟨old, present, marked⟩ := List.mem_map.mp member
          subst marked
          exact .inl ⟨old, present, by split_ifs <;> rfl, by split_ifs <;> rfl⟩
        · exact .inl ⟨flight, (List.mem_filter.mp member).1, rfl, rfl⟩
  | commit callID =>
      simp only [reactionStep] at member
      split at member
      · exact .inl ⟨flight, member, rfl, rfl⟩
      · exact .inl ⟨flight, (List.mem_filter.mp member).1, rfl, rfl⟩
  | create | delete | cleanup => exact .inl ⟨flight, member, rfl, rfl⟩

/-- Without `DeleteReactionRoom` every step keeps the bookkeeping of bindings. -/
theorem Bound.step (bound : Bound system) (noDelete : event.deletes = false) :
    Bound (reactionStep system now event) := by
  refine ⟨fun name ref found => ?_, fun flight member => ?_⟩
  · rcases reactionStep_rooms noDelete with ⟨rooms, allocated⟩ | ⟨roomName, room, absent, allocated⟩
    · rw [rooms] at found
      rw [allocated]
      exact bound.allocated name ref found
    · rw [allocated, ReactionService.allocate_lookup] at found
      rw [allocated]
      split_ifs at found
      · cases found
        exact Nat.lt_succ_self _
      · exact Nat.lt_succ_of_lt (bound.allocated name ref found)
  · rcases reactionStep_inFlight member with ⟨old, present, sameCall, sameRef⟩ |
      ⟨callID, rfl, new, resolved⟩
    · rw [← sameCall, ← sameRef]
      exact reactionStep_keeps_binding noDelete (bound.inFlight old present)
    · rw [reactionStep_send_of_new new, resolved]
      exact resolveReactionRoom_binds _ _

/-- A step keeps a reaction in an allocated object unless it is a sweep whose
cutoff reaches the reaction's timestamp. -/
theorem reactionStep_keeps_reaction {reaction : Reaction} {ref : RoomRef}
    (allocated : ref < system.service.allocated)
    (present : reaction ∈ (system.service.heap ref).reactions)
    (unswept : event = .cleanup → now - system.service.config.reactionTTL < reaction.timestamp) :
    reaction ∈ ((reactionStep system now event).service.heap ref).reactions := by
  have fresh : ∀ {roomName : RoomName} {room : ReactionRoom},
      reaction ∈ ((system.service.allocate roomName room).2.heap ref).reactions := by
    intro roomName room
    simpa [ReactionService.allocate, Function.update_noteq (Nat.ne_of_lt allocated)] using present
  cases event with
  | send callID call =>
      by_cases duplicate : system.inFlight.any (·.callID = callID)
      · simpa only [reactionStep, duplicate, if_true] using present
      · rw [reactionStep_send_of_new duplicate]
        rcases @resolveReactionRoom_cases system.service now call.roomName with
          ⟨-, same⟩ | ⟨-, allocates⟩
        · rwa [same]
        · rw [allocates]
          exact fresh
  | check =>
      simp only [reactionStep]
      repeat' split
      all_goals exact present
  | commit callID =>
      simp only [reactionStep]
      split
      · exact present
      · rename_i flight _
        by_cases same : ref = flight.ref
        · subst same
          simp only [ReactionService.write, Function.update_same, appendReaction_ledger.1]
          exact List.mem_append_left _ present
        · simpa [ReactionService.write, Function.update_noteq same] using present
  | create roomName =>
      rcases @createReactionRoom_cases system.service now roomName with same | ⟨-, allocates⟩
      · show reaction ∈ ((createReactionRoom now roomName system.service).2.heap ref).reactions
        rwa [same]
      · show reaction ∈ ((createReactionRoom now roomName system.service).2.heap ref).reactions
        rw [allocates]
        exact fresh
  | delete => exact present
  | cleanup => exact sweepEntries_keeps (unswept rfl) ref _ (0, system.service) present

end Step

/-! ## Runs -/

section Run

variable {name : RoomName} {ref : RoomRef}

theorem reactionRun_frame :
    ∀ (events : List (Int × ReactionEvent)) (system : ReactionSystem),
      (reactionRun system events).service.config = system.service.config ∧
        system.service.allocated ≤ (reactionRun system events).service.allocated
  | [], _ => ⟨rfl, le_rfl⟩
  | (_, _) :: rest, _ =>
      have later := reactionRun_frame rest _
      ⟨later.1.trans reactionStep_frame.1, reactionStep_frame.2.trans later.2⟩

theorem reactionRun_keeps_binding :
    ∀ (events : List (Int × ReactionEvent)) (system : ReactionSystem),
      (∀ event ∈ events, event.2.deletes = false) →
      system.service.rooms.lookup name = some ref →
      (reactionRun system events).service.rooms.lookup name = some ref
  | [], _, _, bound => bound
  | (_, _) :: rest, _, noDelete, bound =>
      reactionRun_keeps_binding rest _ (fun later member => noDelete later (.tail _ member))
        (reactionStep_keeps_binding (noDelete _ (.head _)) bound)

theorem Bound.run :
    ∀ (events : List (Int × ReactionEvent)) {system : ReactionSystem},
      Bound system → (∀ event ∈ events, event.2.deletes = false) → Bound (reactionRun system events)
  | [], _, bound, _ => bound
  | (_, _) :: rest, _, bound, noDelete =>
      Bound.run rest (bound.step (noDelete _ (.head _))) fun later member =>
        noDelete later (.tail _ member)

theorem reactionRun_keeps_reaction {reaction : Reaction} :
    ∀ (events : List (Int × ReactionEvent)) (system : ReactionSystem),
      ref < system.service.allocated → reaction ∈ (system.service.heap ref).reactions →
      (∀ event ∈ events, event.2 = .cleanup →
        event.1 - system.service.config.reactionTTL < reaction.timestamp) →
      reaction ∈ ((reactionRun system events).service.heap ref).reactions
  | [], _, _, present, _ => present
  | (now, event) :: rest, system, allocated, present, unswept =>
      reactionRun_keeps_reaction rest _
        (Nat.lt_of_lt_of_le allocated reactionStep_frame.2)
        (reactionStep_keeps_reaction allocated present (unswept _ (.head _)))
        fun later member cleanup => by
          rw [reactionStep_frame.1]
          exact unswept later (.tail _ member) cleanup

end Run

theorem bound_new (config : ReactionConfig) : Bound ⟨ReactionService.new config, []⟩ :=
  ⟨fun _ _ absent => (nomatch absent), fun _ absent => (nomatch absent)⟩

/-- Over every interleaving of `SendReaction` sections, `CreateReactionRoom`
and sweeps from `NewReactionService`, with no `DeleteReactionRoom`: a name
bound to a room object stays bound to it for the rest of the run; and the
reaction a call appends is, at the end of the run, in the list of the object
bound to the call's room and in its user's list there, unless a sweep's
cutoff reached its timestamp. -/
theorem lazy_room_creation_loses_nothing (config : ReactionConfig)
    (before after : List (Int × ReactionEvent))
    (noDelete : ∀ event ∈ before ++ after, event.2.deletes = false) :
    (∀ name ref,
      (reactionRun ⟨ReactionService.new config, []⟩ before).service.rooms.lookup name = some ref →
        (reactionRun ⟨ReactionService.new config, []⟩ (before ++ after)).service.rooms.lookup name =
          some ref) ∧
    ∀ now callID flight,
      (reactionRun ⟨ReactionService.new config, []⟩ before).inFlight.find?
          (fun flight => flight.callID = callID && flight.checked) = some flight →
      (∀ event ∈ after, event.2 = .cleanup → event.1 - config.reactionTTL < now) →
      ∃ ref,
        (reactionRun ⟨ReactionService.new config, []⟩
            (before ++ (now, .commit callID) :: after)).service.rooms.lookup flight.call.roomName =
          some ref ∧
        newReaction now flight.call ∈ ((reactionRun ⟨ReactionService.new config, []⟩
            (before ++ (now, .commit callID) :: after)).service.heap ref).reactions ∧
        newReaction now flight.call ∈ getUserReactions flight.call.userID
          ((reactionRun ⟨ReactionService.new config, []⟩
            (before ++ (now, .commit callID) :: after)).service.heap ref) := by
  have noDeleteBefore := fun event member => noDelete event (List.mem_append_left after member)
  have noDeleteAfter := fun event member => noDelete event (List.mem_append_right before member)
  refine ⟨fun name ref bound => ?_, fun now callID flight found unswept => ?_⟩
  · rw [reactionRun_append]
    exact reactionRun_keeps_binding after _ noDeleteAfter bound
  · rw [reactionRun_append]
    have bound := (bound_new config).run before noDeleteBefore
    have held := bound.inFlight flight (List.mem_of_find?_eq_some found)
    have committed : newReaction now flight.call ∈
        ((reactionStep (reactionRun ⟨ReactionService.new config, []⟩ before) now
          (.commit callID)).service.heap flight.ref).reactions := by
      simp only [reactionStep, found, ReactionService.write, Function.update_same,
        appendReaction_ledger.1]
      exact List.mem_append_right _ (List.mem_singleton_self _)
    have sameConfig : (reactionStep (reactionRun ⟨ReactionService.new config, []⟩ before) now
        (.commit callID)).service.config = config :=
      reactionStep_frame.1.trans (reactionRun_frame before _).1
    have kept := reactionRun_keeps_reaction after _
      (Nat.lt_of_lt_of_le (bound.allocated _ _ held) reactionStep_frame.2) committed
      fun event member cleanup => by
        rw [sameConfig]
        exact unswept event member cleanup
    obtain ⟨history, removed, reach⟩ := reactionRun_heap_reachable config
      (before ++ (now, .commit callID) :: after) flight.ref
    rw [reactionRun_append] at reach
    refine ⟨flight.ref, reactionRun_keeps_binding after _ noDeleteAfter
      (reactionStep_keeps_binding (show (ReactionEvent.commit callID).deletes = false from rfl) held), kept, ?_⟩
    rw [getUserReactions, reach.roomLedger.userReactions]
    exact List.mem_filter.mpr ⟨kept, decide_eq_true rfl⟩

/-- Two first likes from alice in `r1` at once: both calls look the room up
before it exists, the first creates it and the second finds it; the first
call's check passes. -/
def concurrentFirstLikes : List (Int × ReactionEvent) :=
  [(1, .send 0 aliceLike), (2, .send 1 aliceLike), (3, .check 0)]

/-- After the first call's append at 4: a `CreateReactionRoom` of `r1`, refused,
and a sweep. -/
def createAndSweep : List (Int × ReactionEvent) :=
  [(5, .create "r1"), (6, .cleanup)]

/-- The two guarantees on that run, where the first call, checked and holding
the object bound to `r1`, is ready to append. -/
theorem first_likes_share_room :
    (∀ event ∈ concurrentFirstLikes ++ createAndSweep, event.2.deletes = false) ∧
    ((reactionRun ⟨ReactionService.new defaultReactionConfig, []⟩ concurrentFirstLikes).inFlight.find?
        (fun flight => flight.callID = 0 && flight.checked)).map
      (fun flight => (flight.call.userID, flight.ref)) = some ("alice", 0) ∧
    (∀ name ref,
      (reactionRun ⟨ReactionService.new defaultReactionConfig, []⟩ concurrentFirstLikes).service.rooms.lookup
          name = some ref →
        (reactionRun ⟨ReactionService.new defaultReactionConfig, []⟩
          (concurrentFirstLikes ++ createAndSweep)).service.rooms.lookup name = some ref) ∧
    ∀ now callID flight,
      (reactionRun ⟨ReactionService.new defaultReactionConfig, []⟩ concurrentFirstLikes).inFlight.find?
          (fun flight => flight.callID = callID && flight.checked) = some flight →
      (∀ event ∈ createAndSweep, event.2 = .cleanup →
        event.1 - defaultReactionConfig.reactionTTL < now) →
      ∃ ref,
        (reactionRun ⟨ReactionService.new defaultReactionConfig, []⟩
            (concurrentFirstLikes ++ (now, .commit callID) :: createAndSweep)).service.rooms.lookup
            flight.call.roomName = some ref ∧
        newReaction now flight.call ∈ ((reactionRun ⟨ReactionService.new defaultReactionConfig, []⟩
            (concurrentFirstLikes ++ (now, .commit callID) :: createAndSweep)).service.heap ref).reactions ∧
        newReaction now flight.call ∈ getUserReactions flight.call.userID
          ((reactionRun ⟨ReactionService.new defaultReactionConfig, []⟩
            (concurrentFirstLikes ++ (now, .commit callID) :: createAndSweep)).service.heap ref) :=
  have noDelete : ∀ event ∈ concurrentFirstLikes ++ createAndSweep, event.2.deletes = false := by
    decide
  ⟨noDelete, by decide,
    lazy_room_creation_loses_nothing defaultReactionConfig concurrentFirstLikes createAndSweep noDelete⟩

end LiveStreaming.Reactions
