import LiveStreaming.Reactions.Service

/-!
# Rate limiting under concurrent calls

A `SendReaction` call checks its user's rate limit under the room's read lock
and appends under the write lock, with the locks released in between. A call
alone is limited as intended: whatever state the check passes, the append that
follows it leaves the user's window count within `MaxReactionsPerMinute` and
the new reaction at least `time.Second / MaxReactionsPerSecond` after the
previous one (`appendReaction_after_checkRateLimit`). Two calls of one user
whose checks both run before either append both pass on the same old record,
so both append: the limit bounds each call, not the user.

A run keeps the calls between their critical sections in `inFlight`; its
events let any of them take its next section.
-/

namespace LiveStreaming.Reactions

/-- A `SendReaction` call that has found its room and may have passed its
rate-limit check. -/
structure InFlight where
  callID : Nat
  call : ReactionCall
  ref : RoomRef
  checked : Bool

/-- The service with the calls in flight. -/
structure ReactionSystem where
  service : ReactionService
  inFlight : List InFlight

/-- One critical section of a `SendReaction` call, or one other method. -/
inductive ReactionEvent where
  | send (callID : Nat) (call : ReactionCall)
  | check (callID : Nat)
  | commit (callID : Nat)
  | create (roomName : RoomName)
  | delete (roomName : RoomName)
  | cleanup

/-- The calls in flight with call `callID` marked as checked. -/
def markChecked (callID : Nat) (inFlight : List InFlight) : List InFlight :=
  inFlight.map fun flight => if flight.callID = callID then { flight with checked := true } else flight

/-- One event at clock reading `now`. A call ID names one call: `send` of an ID
in flight, and `check` or `commit` of a call not at that stage, change nothing.
A call whose check fails returns its error and leaves the run. -/
def reactionStep (system : ReactionSystem) (now : Int) : ReactionEvent → ReactionSystem
  | .send callID call =>
      if system.inFlight.any (·.callID = callID) then system
      else
        let (ref, service) := resolveReactionRoom now call.roomName system.service
        ⟨service, system.inFlight ++ [⟨callID, call, ref, false⟩]⟩
  | .check callID =>
      match system.inFlight.find? (fun flight => flight.callID = callID && !flight.checked) with
      | none => system
      | some flight =>
          let passed := !system.service.config.enableRateLimit ||
            (checkRateLimit system.service.config now (system.service.heap flight.ref)
              flight.call.userID).isOk
          if passed then { system with inFlight := markChecked callID system.inFlight }
          else { system with inFlight := system.inFlight.filter (·.callID ≠ callID) }
  | .commit callID =>
      match system.inFlight.find? (fun flight => flight.callID = callID && flight.checked) with
      | none => system
      | some flight =>
          let room := (appendReaction system.service.config now flight.call
            (system.service.heap flight.ref)).2
          ⟨system.service.write flight.ref room, system.inFlight.filter (·.callID ≠ callID)⟩
  | .create roomName => { system with service := (createReactionRoom now roomName system.service).2 }
  | .delete roomName => { system with service := deleteReactionRoom roomName system.service }
  | .cleanup => { system with service := (cleanupOldReactions now system.service).2 }

/-- A run of timed events. -/
def reactionRun : ReactionSystem → List (Int × ReactionEvent) → ReactionSystem
  | system, [] => system
  | system, (now, event) :: rest => reactionRun (reactionStep system now event) rest

/-! ## One call alone -/

section Alone

variable {config : ReactionConfig} {now : Int} {call : ReactionCall} {room : ReactionRoom}

@[simp]
theorem updateTopReactors_rateLimits (config : ReactionConfig) (room : ReactionRoom) :
    (updateTopReactors config room).rateLimits = room.rateLimits := by
  unfold updateTopReactors; split <;> rfl

theorem appendReaction_rateLimits (recentNonnegative : 0 ≤ config.maxRecentReactions) :
    (appendReaction config now call room).2.rateLimits =
      updateRateLimit now call.userID room.rateLimits := by
  have noPanic : ¬(config.maxRecentReactions < (newReaction now call :: room.stats.recentReactions).length ∧
      config.maxRecentReactions < 0) := fun ⟨_, negative⟩ => by omega
  simp only [appendReaction, if_neg noPanic, updateTopReactors_rateLimits]

@[simp]
theorem updateRateLimit_self (userID : ParticipantIdentity)
    (rateLimits : ParticipantIdentity → Option RateLimit) :
    updateRateLimit now userID rateLimits userID =
      let rateLimit := (rateLimits userID).getD ⟨now, 0, now⟩
      if minute ≤ now - rateLimit.windowStart then some ⟨now, 1, now⟩
      else some ⟨now, rateLimit.count + 1, rateLimit.windowStart⟩ := by
  simp only [updateRateLimit, Function.update_same]
  split_ifs <;> rfl

/-- A call alone is limited as intended: if its check passed at `checkedAt`
and it appends at a later `now` to the room as the check saw it, its user's
window count stays within `MaxReactionsPerMinute`, and the new reaction comes
at least `time.Second / MaxReactionsPerSecond` after the user's previous one. -/
theorem appendReaction_after_checkRateLimit (perMinute : 1 ≤ config.maxReactionsPerMinute)
    (recentNonnegative : 0 ≤ config.maxRecentReactions) {checkedAt : Int}
    (passed : checkRateLimit config checkedAt room call.userID = .ok ()) (later : checkedAt ≤ now) :
    ∃ count windowStart,
      (appendReaction config now call room).2.rateLimits call.userID =
        some ⟨now, count, windowStart⟩ ∧ count ≤ config.maxReactionsPerMinute ∧
      ∀ previous, room.rateLimits call.userID = some previous →
        second.tdiv config.maxReactionsPerSecond ≤ now - previous.lastReaction := by
  rw [appendReaction_rateLimits recentNonnegative, updateRateLimit_self]
  unfold checkRateLimit at passed
  cases recorded : room.rateLimits call.userID with
  | none =>
      simp only [Option.getD_none, Int.sub_self]
      exact ⟨1, now, by simp [show ¬minute ≤ 0 by decide], perMinute, fun _ absent => by cases absent⟩
  | some previous =>
      simp only [recorded] at passed
      split_ifs at passed with divides spaced windowFull
      have gap : second.tdiv config.maxReactionsPerSecond ≤ now - previous.lastReaction := by omega
      simp only [Option.getD_some]
      split_ifs with expired
      · exact ⟨1, now, rfl, perMinute, fun _ same => Option.some.inj same ▸ gap⟩
      · refine ⟨previous.count + 1, previous.windowStart, rfl, ?_,
          fun _ same => Option.some.inj same ▸ gap⟩
        simp only [not_and_or, not_lt, not_le] at windowFull expired
        omega

end Alone

/-! ## Two calls at once -/

/-- The default configuration with one reaction a minute. -/
def oneReactionPerMinute : ReactionConfig :=
  { defaultReactionConfig with maxReactionsPerMinute := 1 }

/-- A like from alice in room `r1`. -/
def aliceLike : ReactionCall := ⟨"r1", "alice", "Alice", "like", none⟩

/-- With one reaction a minute, alice sends two likes at once: both calls find
the room at 1 and 2, both checks pass at 3 and 4 on the record as it was, and
both append, at 5 and 6. -/
def twoConcurrentLikes : ReactionSystem :=
  reactionRun ⟨ReactionService.new oneReactionPerMinute, []⟩
    [(1, .send 0 aliceLike), (2, .send 1 aliceLike), (3, .check 0), (4, .check 1),
      (5, .commit 0), (6, .commit 1)]

/-- Room `r1` ends with two reactions of alice one nanosecond apart, and her
window count at 2. -/
theorem concurrent_sends_both_pass_the_limit :
    ((twoConcurrentLikes.service.rooms.lookup "r1").map fun ref =>
      let room := twoConcurrentLikes.service.heap ref
      (room.reactions.map fun reaction => (reaction.userID, reaction.timestamp),
        (room.rateLimits "alice").map RateLimit.count)) =
      some ([("alice", 5), ("alice", 6)], some 2) := by
  decide

end LiveStreaming.Reactions
