import LiveStreaming.Reactions.Binding

/-!
# Pacing of one user's reactions

Each user has a rate-limit record per room object: the reading of the user's
last reaction, the start of the user's current one-minute window and the
number of reactions in it. `checkRateLimit` refuses a reaction less than
`time.Second / MaxReactionsPerSecond` after the last one, or one more while the
window is still open and full; `updateRateLimit` opens a new window once a
minute has passed since the current one opened.

When every `SendReaction` runs its three critical sections back to back
(`sendReaction`, which is the interleaved model's three events in a row:
`reactionRun_backToBack`), the record tells the truth about the user's accepted
reactions in that room object (`UserPace`): its count is the number since the
window opened, the window opened with one of them, fewer than
`MaxReactionsPerMinute` fall in the minute before the window, and no half-open
minute holds more than `2 * MaxReactionsPerMinute - 1` of them. The windows are
fixed, not sliding: a minute that straddles two windows may hold nearly twice
the per-minute limit (`sequential_reactions_paced`).
-/

namespace LiveStreaming.Reactions

/-! ## Counting reactions in a span -/

/-- How many of the reactions are stamped in `[start, stop)`. -/
def countIn (reactions : List Reaction) (start stop : Int) : Nat :=
  reactions.countP fun reaction => decide (start ≤ reaction.timestamp ∧ reaction.timestamp < stop)

/-- The reactions of one user in a list of reactions, in order. -/
def sentBy (userID : ParticipantIdentity) (reactions : List Reaction) : List Reaction :=
  reactions.filter fun reaction => decide (reaction.userID = userID)

section Counting

variable (reactions : List Reaction)

theorem countIn_append_singleton (reaction : Reaction) (start stop : Int) :
    countIn (reactions ++ [reaction]) start stop =
      countIn reactions start stop +
        if start ≤ reaction.timestamp ∧ reaction.timestamp < stop then 1 else 0 := by
  simp only [countIn, List.countP_append, List.countP_cons, List.countP_nil, decide_eq_true_eq,
    Nat.zero_add]

/-- Cutting a span in two splits its count. -/
theorem countIn_split {start middle stop : Int} (first : start ≤ middle) (second : middle ≤ stop) :
    countIn reactions start stop = countIn reactions start middle + countIn reactions middle stop := by
  induction reactions with
  | nil => rfl
  | cons reaction rest inductionHypothesis =>
      simp only [countIn, List.countP_cons, decide_eq_true_eq] at inductionHypothesis ⊢
      rw [inductionHypothesis]
      split_ifs <;> omega

theorem countIn_mono {start stop start' stop' : Int} (earlier : start' ≤ start) (later : stop ≤ stop') :
    countIn reactions start stop ≤ countIn reactions start' stop' :=
  List.countP_mono_left fun reaction _ => by
    simp only [decide_eq_true_eq]
    omega

/-- Past the latest reaction a span's end no longer matters. -/
theorem countIn_of_latest {latest : Int} (below : ∀ reaction ∈ reactions, reaction.timestamp ≤ latest)
    {start stop : Int} (beyond : latest < stop) :
    countIn reactions start stop = countIn reactions start (latest + 1) :=
  List.countP_congr fun reaction member => by
    have := below reaction member
    simp only [decide_eq_true_eq]
    omega

/-- A span starting after every reaction counts none. -/
theorem countIn_of_before {latest start stop : Int}
    (below : ∀ reaction ∈ reactions, reaction.timestamp ≤ latest) (after : latest < start) :
    countIn reactions start stop = 0 :=
  List.countP_eq_zero.mpr fun reaction member => by
    have := below reaction member
    simp only [decide_eq_true_eq, not_and, not_lt]
    omega

/-- A reaction stamped at `start` makes the span from `start` count one more
than the span from just after it. -/
theorem countIn_opener {start stop : Int} (within : start < stop)
    (opener : ∃ reaction ∈ reactions, reaction.timestamp = start) :
    countIn reactions (start + 1) stop + 1 ≤ countIn reactions start stop := by
  obtain ⟨reaction, member, stamp⟩ := opener
  rw [countIn_split reactions (Int.le_add_one le_rfl) (by omega : start + 1 ≤ stop)]
  have : 0 < countIn reactions start (start + 1) :=
    List.countP_pos_iff.mpr ⟨reaction, member, by simp [stamp]⟩
  omega

end Counting

/-- Appending a reaction stamped `now` keeps the burst bound when every minute
around `now` held one reaction fewer than the bound allows. -/
theorem burst_append {sent : List Reaction} {bound now : Int} (reaction : Reaction)
    (stamp : reaction.timestamp = now)
    (burst : ∀ opening, (countIn sent opening (opening + minute) : Int) + 1 ≤ bound)
    (around : ∀ opening, opening ≤ now → now < opening + minute →
      (countIn sent opening (opening + minute) : Int) + 2 ≤ bound) (opening : Int) :
    (countIn (sent ++ [reaction]) opening (opening + minute) : Int) + 1 ≤ bound := by
  rw [countIn_append_singleton, stamp]
  split_ifs with span
  · have := around opening span.1 span.2
    push_cast
    omega
  · simpa using burst opening

/-! ## What a record says about its user -/

/-- What one user's rate-limit record says about the user's accepted reactions
`sent` in a room object, oldest first: the record's last reaction is the
latest of them, its window opened with one of them and is still current, and
its count is the number of them since the window opened, within
`MaxReactionsPerMinute`. Fewer than `MaxReactionsPerMinute` of them fall in the
minute before the window, any two in a row are `time.Second /
MaxReactionsPerSecond` apart, and no half-open minute holds more than
`2 * MaxReactionsPerMinute - 1` of them. -/
structure UserPace (config : ReactionConfig) (sent : List Reaction) (record : RateLimit) : Prop where
  last : sent.getLast?.map Reaction.timestamp = some record.lastReaction
  latest : ∀ reaction ∈ sent, reaction.timestamp ≤ record.lastReaction
  opener : ∃ reaction ∈ sent, reaction.timestamp = record.windowStart
  current : record.lastReaction - record.windowStart < minute
  counted : record.count = countIn sent record.windowStart (record.lastReaction + 1)
  capped : record.count ≤ config.maxReactionsPerMinute
  before : (countIn sent (record.windowStart - minute + 1) record.windowStart : Int) + 1 ≤
    config.maxReactionsPerMinute
  spaced : sent.Chain' fun earlier later =>
    second.tdiv config.maxReactionsPerSecond ≤ later.timestamp - earlier.timestamp
  burst : ∀ opening, (countIn sent opening (opening + minute) : Int) + 1 ≤
    2 * config.maxReactionsPerMinute

/-- The record's last reaction is one of the user's accepted reactions. -/
theorem UserPace.lastReaction_sent {config : ReactionConfig} {sent : List Reaction} {record : RateLimit}
    (pace : UserPace config sent record) : ∃ reaction ∈ sent, reaction.timestamp = record.lastReaction := by
  obtain ⟨reaction, last, stamp⟩ := Option.map_eq_some'.mp pace.last
  exact ⟨reaction, List.mem_of_getLast?_eq_some last, stamp⟩

section Record

variable {config : ReactionConfig} (perMinute : 1 ≤ config.maxReactionsPerMinute)
include perMinute

/-- A user's first reaction in a room object opens the user's first window. -/
theorem userPace_first (reaction : Reaction) :
    UserPace config [reaction] ⟨reaction.timestamp, 1, reaction.timestamp⟩ where
  last := rfl
  latest := by simp
  opener := ⟨reaction, List.mem_singleton_self _, rfl⟩
  current := by simp
  counted := by simp [countIn]
  capped := perMinute
  before := by simp [countIn]; omega
  spaced := List.chain'_singleton _
  burst := fun opening => by
    have : countIn [reaction] opening (opening + minute) ≤ 1 := List.countP_le_length _
    omega

/-- A reaction that passed the check, appended at `now`, keeps the record
truthful: it opens a new window once a minute has passed since the current one
opened, else it is counted in the current one. -/
theorem UserPace.extend {sent : List Reaction} {record : RateLimit} (pace : UserPace config sent record)
    {now : Int} (spaced : second.tdiv config.maxReactionsPerSecond ≤ now - record.lastReaction)
    (room : now - record.windowStart < minute → record.count < config.maxReactionsPerMinute)
    (later : record.lastReaction ≤ now) (reaction : Reaction) (stamp : reaction.timestamp = now) :
    UserPace config (sent ++ [reaction])
      (if minute ≤ now - record.windowStart then ⟨now, 1, now⟩
        else ⟨now, record.count + 1, record.windowStart⟩) := by
  obtain ⟨last, latest, opener, current, counted, capped, before, chain, burst⟩ := pace
  have minuteValue := minute_eq
  have opened : record.windowStart ≤ record.lastReaction := by
    obtain ⟨first, member, same⟩ := opener
    exact same ▸ latest first member
  have extended : ∀ x ∈ sent ++ [reaction], x.timestamp ≤ now := by
    intro x member
    rcases List.mem_append.mp member with old | new
    · exact (latest x old).trans later
    · rw [List.mem_singleton.mp new, stamp]
  have chained : (sent ++ [reaction]).Chain' fun earlier later =>
      second.tdiv config.maxReactionsPerSecond ≤ later.timestamp - earlier.timestamp := by
    refine List.chain'_append.mpr ⟨chain, List.chain'_singleton _, fun x lastMember y headMember => ?_⟩
    obtain rfl : reaction = y := by simpa using headMember
    have : x.timestamp = record.lastReaction := by simpa [Option.mem_def.mp lastMember] using last
    rw [stamp, this]
    exact spaced
  -- the reactions since the window opened, the opener apart, and those of a
  -- minute around `now` from before the last one
  have afterOpener := countIn_opener sent (show record.windowStart < record.lastReaction + 1 by omega)
    opener
  have recent : ∀ opening, now < opening + minute →
      countIn sent opening (opening + minute) = countIn sent opening (record.lastReaction + 1) :=
    fun opening ends => countIn_of_latest sent latest (by omega)
  split_ifs with expired
  · -- a new window opens with this reaction
    have stale : record.lastReaction < now := by omega
    have sinceOpener : ∀ opening, now - minute < opening →
        countIn sent opening (record.lastReaction + 1) ≤
          countIn sent (record.windowStart + 1) (record.lastReaction + 1) :=
      fun opening starts => countIn_mono sent (by omega) le_rfl
    refine ⟨?last, ?latest, ?opener, ?current, ?counted, ?capped, ?before, ?spaced, ?burst⟩
    case last => simp [stamp]
    case latest => exact extended
    case opener => exact ⟨reaction, by simp, stamp⟩
    case current => dsimp only; omega
    case counted => simp [countIn_append_singleton, countIn_of_before sent latest stale, stamp]
    case capped => exact perMinute
    case before =>
      have := sinceOpener (now - minute + 1) (by omega)
      dsimp only
      rw [countIn_append_singleton, countIn_of_latest sent latest stale]
      simp only [stamp, lt_irrefl, and_false, if_false, Nat.add_zero]
      omega
    case spaced => exact chained
    case burst =>
      refine burst_append reaction stamp burst fun opening starts ends => ?_
      have := sinceOpener opening (by omega)
      rw [recent opening ends]
      omega
  · -- the reaction is counted in the current window
    have full := room (by omega)
    refine ⟨?last, ?latest, ?opener, ?current, ?counted, ?capped, ?before, ?spaced, ?burst⟩
    case last => simp [stamp]
    case latest => exact extended
    case opener =>
      obtain ⟨first, member, same⟩ := opener
      exact ⟨first, List.mem_append_left _ member, same⟩
    case current => dsimp only; omega
    case counted =>
      dsimp only
      rw [countIn_append_singleton, countIn_of_latest sent latest (by omega : record.lastReaction < now + 1)]
      rw [if_pos (by omega : record.windowStart ≤ reaction.timestamp ∧ reaction.timestamp < now + 1)]
      push_cast
      omega
    case capped => dsimp only; omega
    case before =>
      dsimp only
      rw [countIn_append_singleton]
      simp only [stamp, show ¬now < record.windowStart by omega, and_false, if_false, Nat.add_zero]
      exact before
    case spaced => exact chained
    case burst =>
      refine burst_append reaction stamp burst fun opening starts ends => ?_
      have inside : countIn sent opening (record.lastReaction + 1) ≤
          countIn sent (record.windowStart - minute + 1) (record.lastReaction + 1) :=
        countIn_mono sent (by omega) le_rfl
      rw [countIn_split sent (by omega : record.windowStart - minute + 1 ≤ record.windowStart)
        (by omega : record.windowStart ≤ record.lastReaction + 1)] at inside
      rw [recent opening ends]
      omega

end Record

/-- What a passed check says about a user with a record: the reaction comes at
least `time.Second / MaxReactionsPerSecond` after the last one, and the window
is not full while it is open. -/
theorem checkRateLimit_passed {config : ReactionConfig} {checkedAt : Int} {room : ReactionRoom}
    {userID : ParticipantIdentity} {record : RateLimit} (recorded : room.rateLimits userID = some record)
    (passed : checkRateLimit config checkedAt room userID = .ok ()) :
    second.tdiv config.maxReactionsPerSecond ≤ checkedAt - record.lastReaction ∧
      (checkedAt - record.windowStart < minute → record.count < config.maxReactionsPerMinute) := by
  simp only [checkRateLimit, recorded] at passed
  split_ifs at passed with divides spaced full
  exact ⟨by omega, fun open_ => by simp only [not_and, not_le] at full; exact full open_⟩

/-! ## One room object -/

/-- The rate-limit records of a room object against the reactions accepted in
it so far (`history`, oldest first, none after `clock`): a user without a
record has no accepted reaction, and every record is truthful (`UserPace`)
about its user's. -/
structure Paced (config : ReactionConfig) (rateLimits : ParticipantIdentity → Option RateLimit)
    (history : List Reaction) (clock : Int) : Prop where
  stamped : ∀ reaction ∈ history, reaction.timestamp ≤ clock
  unrecorded : ∀ userID, rateLimits userID = none → sentBy userID history = []
  recorded : ∀ userID record, rateLimits userID = some record →
    UserPace config (sentBy userID history) record

@[simp]
theorem newReaction_userID (now : Int) (call : ReactionCall) : (newReaction now call).userID = call.userID :=
  rfl

@[simp]
theorem newReaction_timestamp (now : Int) (call : ReactionCall) :
    (newReaction now call).timestamp = now :=
  rfl

theorem sentBy_append_singleton (userID : ParticipantIdentity) (history : List Reaction)
    (reaction : Reaction) :
    sentBy userID (history ++ [reaction]) =
      if reaction.userID = userID then sentBy userID history ++ [reaction] else sentBy userID history := by
  unfold sentBy
  split_ifs with same <;> simp [List.filter_append, same]

theorem paced_fresh (config : ReactionConfig) (clock : Int) : Paced config (fun _ => none) [] clock where
  stamped := by simp
  unrecorded := fun _ _ => rfl
  recorded := fun _ _ absent => by cases absent

theorem Paced.later {config : ReactionConfig} {rateLimits : ParticipantIdentity → Option RateLimit}
    {history : List Reaction} {clock clock' : Int} (paced : Paced config rateLimits history clock)
    (later : clock ≤ clock') : Paced config rateLimits history clock' :=
  ⟨fun reaction member => (paced.stamped reaction member).trans later, paced.unrecorded, paced.recorded⟩

/-- A reaction appended at `now` after a passed check keeps the room object's
records truthful. -/
theorem Paced.append {config : ReactionConfig} {room : ReactionRoom} {history : List Reaction}
    {clock : Int} (paced : Paced config room.rateLimits history clock)
    (perMinute : 1 ≤ config.maxReactionsPerMinute) (recentNonnegative : 0 ≤ config.maxRecentReactions)
    {checkedAt now : Int} (call : ReactionCall)
    (passed : checkRateLimit config checkedAt room call.userID = .ok ()) (checkedBefore : checkedAt ≤ now)
    (later : clock ≤ now) :
    Paced config (appendReaction config now call room).2.rateLimits (history ++ [newReaction now call]) now := by
  obtain ⟨stamped, unrecorded, recorded⟩ := paced
  rw [appendReaction_rateLimits recentNonnegative]
  refine ⟨fun reaction member => ?_, fun userID absent => ?_, fun userID record present => ?_⟩
  · rcases List.mem_append.mp member with old | new
    · exact (stamped reaction old).trans later
    · rw [List.mem_singleton.mp new]; rfl
  · have other : call.userID ≠ userID := by
      rintro rfl
      simp only [updateRateLimit_self] at absent
      split_ifs at absent
    rw [updateRateLimit, Function.update_noteq other.symm] at absent
    rw [sentBy_append_singleton, newReaction_userID, if_neg other]
    exact unrecorded userID absent
  · rw [sentBy_append_singleton, newReaction_userID]
    by_cases same : call.userID = userID
    · subst same
      rw [if_pos rfl]
      simp only [updateRateLimit_self] at present
      cases previous : room.rateLimits call.userID with
      | none =>
          simp only [previous, Option.getD_none, Int.sub_self, show ¬minute ≤ 0 by decide, if_false,
            Option.some.injEq] at present
          subst present
          rw [unrecorded call.userID previous]
          exact userPace_first perMinute (newReaction now call)
      | some earlier =>
          have pace := recorded call.userID earlier previous
          obtain ⟨spaced, room⟩ := checkRateLimit_passed previous passed
          have lastStamped : earlier.lastReaction ≤ clock := by
            obtain ⟨last, member, stamp⟩ := pace.lastReaction_sent
            exact stamp ▸ stamped last (List.mem_filter.mp member).1
          simp only [previous, Option.getD_some] at present
          rw [← Option.some.inj ((apply_ite some _ _ _).trans present)]
          exact pace.extend perMinute (by omega) (fun open_ => room (by omega)) (by omega) _ rfl
    · rw [updateRateLimit, Function.update_noteq (Ne.symm same)] at present
      rw [if_neg same]
      exact recorded userID record present

/-! ## `SendReaction` without interleaving -/

/-- `SendReaction` with its three critical sections back to back: find or
create the room, check the user's rate limit if it is enabled, append. -/
def sendReaction (now : Int) (call : ReactionCall) (service : ReactionService) :
    Except ReactionError Reaction × ReactionService :=
  let resolved := resolveReactionRoom now call.roomName service
  let checked := if resolved.2.config.enableRateLimit then
    checkRateLimit resolved.2.config now (resolved.2.heap resolved.1) call.userID else .ok ()
  match checked with
  | .error error => (.error error, resolved.2)
  | .ok () =>
      let appended := appendReaction resolved.2.config now call (resolved.2.heap resolved.1)
      (appended.1, resolved.2.write resolved.1 appended.2)

/-- An append that does not panic returns the reaction it built. -/
theorem appendReaction_result {config : ReactionConfig} (recentNonnegative : 0 ≤ config.maxRecentReactions)
    (now : Int) (call : ReactionCall) (room : ReactionRoom) :
    (appendReaction config now call room).1 = .ok (newReaction now call) := by
  have noPanic : ¬(config.maxRecentReactions < (newReaction now call :: room.stats.recentReactions).length ∧
      config.maxRecentReactions < 0) := fun ⟨_, negative⟩ => by omega
  simp only [appendReaction, if_neg noPanic]

/-- `sendReaction` is the interleaved model's `send`, `check` and `commit` of
one call with no event in between. -/
theorem reactionRun_backToBack (service : ReactionService) (callID : Nat) (call : ReactionCall)
    (now : Int) :
    reactionRun ⟨service, []⟩ [(now, .send callID call), (now, .check callID), (now, .commit callID)] =
      ⟨(sendReaction now call service).2, []⟩ := by
  have configured : (resolveReactionRoom now call.roomName service).2.config = service.config :=
    (resolveReactionRoom_frame now call.roomName).1
  simp only [reactionRun, reactionStep, sendReaction, List.any_nil, Bool.false_eq_true, if_false,
    List.nil_append, List.find?_cons, List.find?_nil, decide_True, Bool.not_false, Bool.and_true]
  generalize resolveReactionRoom now call.roomName service = resolved at configured ⊢
  rw [configured]
  cases service.config.enableRateLimit <;>
    cases checkRateLimit service.config now (resolved.2.heap resolved.1) call.userID <;>
    simp [markChecked, Except.isOk, Except.toBool, configured]

/-- The methods of the reaction service, each run alone. -/
inductive SequentialEvent where
  | send (call : ReactionCall)
  | create (roomName : RoomName)
  | delete (roomName : RoomName)
  | cleanup

/-- One method at clock reading `now`, with a ghost log of every accepted
reaction and the room object it went to. -/
def sequentialStep (state : ReactionService × List (RoomRef × Reaction)) (now : Int) :
    SequentialEvent → ReactionService × List (RoomRef × Reaction)
  | .send call =>
      let sent := sendReaction now call state.1
      match sent.1 with
      | .ok reaction => (sent.2, state.2 ++ [((resolveReactionRoom now call.roomName state.1).1, reaction)])
      | .error _ => (sent.2, state.2)
  | .create roomName => ((createReactionRoom now roomName state.1).2, state.2)
  | .delete roomName => (deleteReactionRoom roomName state.1, state.2)
  | .cleanup => ((cleanupOldReactions now state.1).2, state.2)

/-- A run of timed methods. -/
def sequentialRun : ReactionService × List (RoomRef × Reaction) → List (Int × SequentialEvent) →
    ReactionService × List (RoomRef × Reaction)
  | state, [] => state
  | state, (now, event) :: rest => sequentialRun (sequentialStep state now event) rest

/-- The reactions the log holds for the room object `ref`, oldest first. -/
def historyAt (ref : RoomRef) (log : List (RoomRef × Reaction)) : List Reaction :=
  (log.filter fun entry => decide (entry.1 = ref)).map Prod.snd

theorem historyAt_append_singleton (ref target : RoomRef) (log : List (RoomRef × Reaction))
    (reaction : Reaction) :
    historyAt ref (log ++ [(target, reaction)]) =
      if target = ref then historyAt ref log ++ [reaction] else historyAt ref log := by
  unfold historyAt
  split_ifs with same <;> simp [List.filter_append, same]

theorem historyAt_of_unlogged {ref : RoomRef} {log : List (RoomRef × Reaction)}
    (unlogged : ∀ entry ∈ log, entry.1 < ref) : historyAt ref log = [] := by
  simp only [historyAt, List.map_eq_nil_iff, List.filter_eq_nil_iff, decide_eq_true_eq]
  exact fun entry member same => (same ▸ unlogged entry member).false

/-- A send that passes the check appends at the resolved room object and logs
the reaction there; one that fails leaves only the resolution. -/
theorem sequentialStep_send {service : ReactionService} (log : List (RoomRef × Reaction)) (now : Int)
    (call : ReactionCall) (enabled : service.config.enableRateLimit = true)
    (recentNonnegative : 0 ≤ service.config.maxRecentReactions) :
    sequentialStep (service, log) now (.send call) =
      let resolved := resolveReactionRoom now call.roomName service
      if (checkRateLimit service.config now (resolved.2.heap resolved.1) call.userID).isOk then
        (resolved.2.write resolved.1 (appendReaction service.config now call (resolved.2.heap resolved.1)).2,
          log ++ [(resolved.1, newReaction now call)])
      else (resolved.2, log) := by
  have configured : (resolveReactionRoom now call.roomName service).2.config = service.config :=
    (resolveReactionRoom_frame now call.roomName).1
  simp only [sequentialStep, sendReaction]
  generalize resolveReactionRoom now call.roomName service = resolved at configured ⊢
  simp only [configured, enabled, if_true]
  cases checkRateLimit service.config now (resolved.2.heap resolved.1) call.userID with
  | error => rfl
  | ok => simp [Except.isOk, Except.toBool, appendReaction_result recentNonnegative]

/-! ## Every room object over a run -/

/-- The runs' pacing invariant: the configuration is `config`; each room
object's records are truthful about the reactions the log holds for it, and its
reaction list is drawn from them; the log and the bindings name only allocated
objects. -/
structure PacedService (config : ReactionConfig) (service : ReactionService)
    (log : List (RoomRef × Reaction)) (clock : Int) : Prop where
  configured : service.config = config
  paced : ∀ ref, Paced config (service.heap ref).rateLimits (historyAt ref log) clock
  held : ∀ ref, (service.heap ref).reactions.Sublist (historyAt ref log)
  logged : ∀ entry ∈ log, entry.1 < service.allocated
  bound : ∀ name ref, service.rooms.lookup name = some ref → ref < service.allocated

theorem pacedService_new (config : ReactionConfig) (clock : Int) :
    PacedService config (ReactionService.new config) [] clock where
  configured := rfl
  paced := fun _ => paced_fresh config clock
  held := fun _ => List.Sublist.slnil
  logged := by simp
  bound := fun _ _ found => by simp [ReactionService.new] at found

section Run

variable {config : ReactionConfig} {service : ReactionService} {log : List (RoomRef × Reaction)}
  {clock : Int}

theorem PacedService.later (reach : PacedService config service log clock) {clock' : Int}
    (later : clock ≤ clock') : PacedService config service log clock' :=
  { reach with paced := fun ref => (reach.paced ref).later later }

theorem PacedService.allocate (reach : PacedService config service log clock) (now : Int)
    (roomName : RoomName) :
    PacedService config (service.allocate roomName (newReactionRoom now roomName)).2 log clock := by
  obtain ⟨configured, paced, held, logged, bound⟩ := reach
  refine ⟨configured, fun ref => ?_, fun ref => ?_,
    fun entry member => Nat.lt_succ_of_lt (logged entry member), fun name ref found => ?_⟩
  · by_cases same : ref = service.allocated
    · subst same
      simpa [ReactionService.allocate, newReactionRoom, historyAt_of_unlogged logged] using
        paced_fresh config clock
    · simpa [ReactionService.allocate, Function.update_noteq same] using paced ref
  · by_cases same : ref = service.allocated
    · subst same
      simp [ReactionService.allocate, newReactionRoom]
    · simpa [ReactionService.allocate, Function.update_noteq same] using held ref
  · rw [ReactionService.allocate_lookup] at found
    split_ifs at found
    · cases found
      exact Nat.lt_succ_self _
    · exact Nat.lt_succ_of_lt (bound name ref found)

/-- Resolving a name keeps the invariant and returns an allocated object. -/
theorem PacedService.resolve (reach : PacedService config service log clock) (now : Int)
    (roomName : RoomName) :
    PacedService config (resolveReactionRoom now roomName service).2 log clock ∧
      (resolveReactionRoom now roomName service).1 < (resolveReactionRoom now roomName service).2.allocated := by
  rcases @resolveReactionRoom_cases service now roomName with ⟨found, same⟩ | ⟨_, allocated⟩
  · rw [same]
    exact ⟨reach, reach.bound roomName _ found⟩
  · rw [allocated]
    exact ⟨reach.allocate now roomName, Nat.lt_succ_self _⟩

/-- Replacing a room object by one with the same records and a part of its
reaction list keeps the invariant. -/
theorem PacedService.write (reach : PacedService config service log clock) {ref : RoomRef}
    {room : ReactionRoom} (records : room.rateLimits = (service.heap ref).rateLimits)
    (part : room.reactions.Sublist (service.heap ref).reactions) :
    PacedService config (service.write ref room) log clock := by
  refine { reach with paced := fun other => ?_, held := fun other => ?_ } <;>
    simp only [ReactionService.write, Function.update_apply] <;> split_ifs with same
  · subst same
    exact records ▸ reach.paced other
  · exact reach.paced other
  · subst same
    exact part.trans (reach.held other)
  · exact reach.held other

theorem PacedService.sweepEntries (cutoff : Int) :
    ∀ (entries : List (Σ _ : RoomName, RoomRef)) (swept : Nat × ReactionService),
      PacedService config swept.2 log clock →
      PacedService config (entries.foldl (sweepEntry cutoff) swept).2 log clock
  | [], _, reach => reach
  | _ :: rest, _, reach =>
      PacedService.sweepEntries cutoff rest _ (reach.write rfl (List.filter_sublist _))

variable (enabled : config.enableRateLimit = true) (perMinute : 1 ≤ config.maxReactionsPerMinute)
  (recentNonnegative : 0 ≤ config.maxRecentReactions)
include enabled perMinute recentNonnegative

/-- A send at `now`, after every earlier event, keeps the invariant. -/
theorem PacedService.send (reach : PacedService config service log clock) {now : Int}
    (later : clock ≤ now) (call : ReactionCall) :
    PacedService config (sequentialStep (service, log) now (.send call)).1
      (sequentialStep (service, log) now (.send call)).2 now := by
  have configured := reach.configured
  rw [sequentialStep_send log now call (configured ▸ enabled) (configured ▸ recentNonnegative)]
  obtain ⟨resolvedReach, allocated⟩ := (reach.later later).resolve now call.roomName
  generalize resolveReactionRoom now call.roomName service = resolved at resolvedReach allocated ⊢
  obtain ⟨ref, resolved⟩ := resolved
  dsimp only
  rw [configured]
  cases passed : checkRateLimit config now (resolved.heap ref) call.userID with
  | error => exact resolvedReach
  | ok =>
      obtain ⟨configured, paced, held, logged, bound⟩ := resolvedReach
      simp only [Except.isOk, Except.toBool, if_true]
      refine ⟨configured, fun other => ?_, fun other => ?_, fun entry member => ?_, bound⟩
      · rw [historyAt_append_singleton]
        by_cases same : ref = other
        · subst same
          simpa [ReactionService.write] using
            (paced ref).append perMinute recentNonnegative call passed le_rfl le_rfl
        · simpa [ReactionService.write, Function.update_noteq (Ne.symm same), same] using paced other
      · rw [historyAt_append_singleton]
        by_cases same : ref = other
        · subst same
          simpa [ReactionService.write, appendReaction_ledger.1] using (held ref).append_right [newReaction now call]
        · simpa [ReactionService.write, Function.update_noteq (Ne.symm same), same] using held other
      · rcases List.mem_append.mp member with old | new
        · exact logged entry old
        · rw [List.mem_singleton.mp new]
          exact allocated

/-- Every method at `now`, after every earlier event, keeps the invariant. -/
theorem PacedService.step (reach : PacedService config service log clock) {now : Int}
    (later : clock ≤ now) :
    ∀ event, PacedService config (sequentialStep (service, log) now event).1
      (sequentialStep (service, log) now event).2 now
  | .send call => reach.send enabled perMinute recentNonnegative later call
  | .create roomName => by
      rcases @createReactionRoom_cases service now roomName with same | ⟨_, allocated⟩
      · simpa [sequentialStep, same] using reach.later later
      · simpa [sequentialStep, allocated] using (reach.later later).allocate now roomName
  | .delete roomName => by
      refine { reach.later later with bound := fun name ref found => reach.bound name ref ?_ }
      simp only [sequentialStep, deleteReactionRoom] at found
      by_cases same : name = roomName
      · rw [same, AList.lookup_erase] at found
        cases found
      · rwa [AList.lookup_erase_ne same] at found
  | .cleanup => by
      simpa [sequentialStep, cleanupOldReactions_eq_foldl] using
        PacedService.sweepEntries _ _ (0, service) (reach.later later)

theorem PacedService.run :
    ∀ (events : List (Int × SequentialEvent)) (state : ReactionService × List (RoomRef × Reaction))
      {clock finish : Int}, PacedService config state.1 state.2 clock → ClockFrom clock events finish →
      PacedService config (sequentialRun state events).1 (sequentialRun state events).2 finish
  | [], _, _, _, reach, ordered => reach.later ordered
  | (_, event) :: rest, _, _, _, reach, ⟨later, ordered⟩ =>
      PacedService.run rest _ (reach.step enabled perMinute recentNonnegative later event) ordered

end Run

/-- A truthful room object's accepted reactions by one user are spaced and
bounded in every half-open minute. -/
theorem Paced.sentBy_paced {config : ReactionConfig} {rateLimits : ParticipantIdentity → Option RateLimit}
    {history : List Reaction} {clock : Int} (paced : Paced config rateLimits history clock)
    (perMinute : 1 ≤ config.maxReactionsPerMinute) (userID : ParticipantIdentity) :
    (sentBy userID history).Chain' (fun earlier later =>
        second.tdiv config.maxReactionsPerSecond ≤ later.timestamp - earlier.timestamp) ∧
      ∀ opening, (countIn (sentBy userID history) opening (opening + minute) : Int) ≤
        2 * config.maxReactionsPerMinute - 1 := by
  cases recorded : rateLimits userID with
  | none =>
      rw [paced.unrecorded userID recorded]
      exact ⟨List.chain'_nil, fun _ => by simp [countIn]; omega⟩
  | some record =>
      have pace := paced.recorded userID record recorded
      exact ⟨pace.spaced, fun opening => by have := pace.burst opening; omega⟩

/-- Over every run of the service's methods from `NewReactionService` with the
rate limit enabled, each method run alone and the clock never going back:
every room object's reaction list is drawn from the reactions accepted into it,
and each user's accepted reactions in one room object are
`time.Second / MaxReactionsPerSecond` apart, with no half-open minute holding
more than `2 * MaxReactionsPerMinute - 1` of them. -/
theorem sequential_reactions_paced {config : ReactionConfig} (enabled : config.enableRateLimit = true)
    (perMinute : 1 ≤ config.maxReactionsPerMinute) (recentNonnegative : 0 ≤ config.maxRecentReactions)
    {start finish : Int} {events : List (Int × SequentialEvent)} (ordered : ClockFrom start events finish)
    (ref : RoomRef) (userID : ParticipantIdentity) :
    let final := sequentialRun (ReactionService.new config, []) events
    (final.1.heap ref).reactions.Sublist (historyAt ref final.2) ∧
      (sentBy userID (historyAt ref final.2)).Chain' (fun earlier later =>
        second.tdiv config.maxReactionsPerSecond ≤ later.timestamp - earlier.timestamp) ∧
      ∀ opening, (countIn (sentBy userID (historyAt ref final.2)) opening (opening + minute) : Int) ≤
        2 * config.maxReactionsPerMinute - 1 :=
  have reach := PacedService.run enabled perMinute recentNonnegative events _
    (pacedService_new config start) ordered
  ⟨reach.held ref, (reach.paced ref).sentBy_paced perMinute userID⟩

/-- Two reactions a minute. -/
def twoPerMinute : ReactionConfig := { defaultReactionConfig with maxReactionsPerMinute := 2 }

/-- Alice likes at the start of a window and a second before its end, then
twice at the start of the next window; a fifth like in that window is refused. -/
def straddlingLikes : List (Int × SequentialEvent) :=
  [(0, .send aliceLike), (59 * second, .send aliceLike), (minute, .send aliceLike),
    (minute + second / 2, .send aliceLike), (minute + second, .send aliceLike)]

/-- The bound is reached: the minute from one second on holds three of Alice's
likes under a limit of two a minute. -/
theorem straddling_minute_holds_three :
    (twoPerMinute.enableRateLimit = true ∧ 1 ≤ twoPerMinute.maxReactionsPerMinute ∧
      0 ≤ twoPerMinute.maxRecentReactions ∧ ClockFrom 0 straddlingLikes (minute + second)) ∧
    (let final := sequentialRun (ReactionService.new twoPerMinute, []) straddlingLikes
    (final.1.heap 0).reactions.Sublist (historyAt 0 final.2) ∧
      (sentBy "alice" (historyAt 0 final.2)).Chain' (fun earlier later =>
        second.tdiv twoPerMinute.maxReactionsPerSecond ≤ later.timestamp - earlier.timestamp) ∧
      ∀ opening, (countIn (sentBy "alice" (historyAt 0 final.2)) opening (opening + minute) : Int) ≤
        2 * twoPerMinute.maxReactionsPerMinute - 1) ∧
    countIn (sentBy "alice" (historyAt 0 (sequentialRun (ReactionService.new twoPerMinute, [])
      straddlingLikes).2)) second (second + minute) = 3 :=
  have ordered : ClockFrom 0 straddlingLikes (minute + second) := by
    simp only [straddlingLikes, ClockFrom, second, minute]
    decide
  ⟨⟨rfl, by decide, by decide, ordered⟩,
    sequential_reactions_paced rfl (by decide) (by decide) ordered 0 "alice", by decide⟩

end LiveStreaming.Reactions
