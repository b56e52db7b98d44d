import LiveStreaming.Basic
import Mathlib.Data.List.AList

/-!
# The reaction service

`ReactionService` maps each room name to a `ReactionRoom` object; a call of
`SendReaction` holds a pointer to its room across three critical sections (the
service lock to find or create the room, the room's read lock to check the
rate limit, the room's write lock to append), so other calls run in between.
The model keeps the objects in a heap indexed by allocation order and maps
room names to heap references, so that a call keeps writing to the object it
found even after the name is deleted or bound to a new room.

A room keeps its reactions in append order, each user's reactions (iterated
by the leaderboard and the sweep, so an association list; Go iterates maps in
no fixed order, the model in the list's), and each user's rate-limit record.

Go panics where `time.Second` is divided by a zero `MaxReactionsPerSecond`
and where a slice bound is negative; `net/http` recovers a handler's panic, so
the model returns an error at that point and keeps the writes made before it.
Within one critical section the model reads the clock once.
-/

namespace LiveStreaming.Reactions

structure ReactionPosition where
  x : Float
  y : Float

/-- `Reaction`, with the fields the service writes. -/
structure Reaction where
  id : String
  roomName : RoomName
  userID : ParticipantIdentity
  userName : String
  reactionType : ReactionType
  timestamp : Int
  position : Option ReactionPosition

structure TopReactor where
  userID : ParticipantIdentity
  userName : String
  reactionCount : Int
  deriving DecidableEq, Repr

structure ReactionStats where
  roomName : RoomName
  totalReactions : Int
  reactionCounts : ReactionType → Int
  topReactors : List TopReactor
  recentReactions : List Reaction
  lastUpdated : Int

/-- `RateLimit`: one user's rate-limit record in a room. -/
structure RateLimit where
  lastReaction : Int
  count : Int
  windowStart : Int
  deriving DecidableEq, Repr

/-- Each user's reactions in a room, in append order. -/
abbrev UserReactionMap := AList fun _ : ParticipantIdentity => List Reaction

structure ReactionRoom where
  roomName : RoomName
  reactions : List Reaction
  stats : ReactionStats
  userReactions : UserReactionMap
  rateLimits : ParticipantIdentity → Option RateLimit
  createdAt : Int

/-- `ReactionConfig`, with the fields the service reads. -/
structure ReactionConfig where
  maxReactionsPerMinute : Int
  maxReactionsPerSecond : Int
  reactionTTL : Int
  enableRateLimit : Bool
  maxRecentReactions : Int
  enableLeaderboard : Bool
  deriving DecidableEq, Repr

/-- The configuration `NewReactionService` installs when it is given none. -/
def defaultReactionConfig : ReactionConfig where
  maxReactionsPerMinute := 60
  maxReactionsPerSecond := 3
  reactionTTL := 5 * minute
  enableRateLimit := true
  maxRecentReactions := 100
  enableLeaderboard := true

/-- A reference to a room object in the heap. -/
abbrev RoomRef := Nat

/-- `ReactionService`: the room map over a heap of room objects, `allocated`
of them so far. -/
structure ReactionService where
  rooms : AList fun _ : RoomName => RoomRef
  heap : RoomRef → ReactionRoom
  allocated : Nat
  config : ReactionConfig

/-- The errors of the reaction service, by their text, and the two runtime
panics. -/
inductive ReactionError where
  | reactionRoomAlreadyExists
  | reactionRoomNotFound
  | tooManyPerSecond
  | tooManyPerMinute
  | integerDivideByZero
  | sliceBoundsOutOfRange
  deriving DecidableEq, Repr

/-- The error text. -/
def ReactionError.text : ReactionError → String
  | reactionRoomAlreadyExists => "reaction room already exists"
  | reactionRoomNotFound => "reaction room not found"
  | tooManyPerSecond => "rate limit exceeded: too many reactions per second"
  | tooManyPerMinute => "rate limit exceeded: too many reactions per minute"
  | integerDivideByZero => "runtime error: integer divide by zero"
  | sliceBoundsOutOfRange => "runtime error: slice bounds out of range"

/-- The room object `CreateReactionRoom` and `SendReaction` build. -/
def newReactionRoom (now : Int) (roomName : RoomName) : ReactionRoom where
  roomName := roomName
  reactions := []
  stats := ⟨roomName, 0, fun _ => 0, [], [], now⟩
  userReactions := ∅
  rateLimits := fun _ => none
  createdAt := now

def ReactionService.new (config : ReactionConfig) : ReactionService where
  rooms := ∅
  heap := fun _ => newReactionRoom 0 ""
  allocated := 0
  config := config

/-- Store `room` as a new heap object bound to `roomName`. -/
def ReactionService.allocate (roomName : RoomName) (room : ReactionRoom)
    (service : ReactionService) : RoomRef × ReactionService :=
  (service.allocated,
    { service with
      rooms := service.rooms.insert roomName service.allocated
      heap := Function.update service.heap service.allocated room
      allocated := service.allocated + 1 })

/-- Replace the heap object `ref`. -/
def ReactionService.write (ref : RoomRef) (room : ReactionRoom) (service : ReactionService) :
    ReactionService :=
  { service with heap := Function.update service.heap ref room }

/-! ## Rooms -/

def createReactionRoom (now : Int) (roomName : RoomName) (service : ReactionService) :
    Except ReactionError RoomRef × ReactionService :=
  match service.rooms.lookup roomName with
  | some _ => (.error .reactionRoomAlreadyExists, service)
  | none =>
      let (ref, service) := service.allocate roomName (newReactionRoom now roomName)
      (.ok ref, service)

/-- The first critical section of `SendReaction`: the room bound to the name,
created if there is none (the double-checked creation under the write lock). -/
def resolveReactionRoom (now : Int) (roomName : RoomName) (service : ReactionService) :
    RoomRef × ReactionService :=
  match service.rooms.lookup roomName with
  | some ref => (ref, service)
  | none => service.allocate roomName (newReactionRoom now roomName)

/-- `DeleteReactionRoom`: unbind the name; the object stays for the calls that
hold it. -/
def deleteReactionRoom (roomName : RoomName) (service : ReactionService) : ReactionService :=
  { service with rooms := service.rooms.erase roomName }

/-! ## Rate limits -/

/-- `checkRateLimit` at `now`, under the room's read lock. -/
def checkRateLimit (config : ReactionConfig) (now : Int) (room : ReactionRoom)
    (userID : ParticipantIdentity) : Except ReactionError Unit :=
  match room.rateLimits userID with
  | none => .ok ()
  | some rateLimit =>
      if config.maxReactionsPerSecond = 0 then .error .integerDivideByZero
      else if now - rateLimit.lastReaction < second.tdiv config.maxReactionsPerSecond then
        .error .tooManyPerSecond
      else if now - rateLimit.windowStart < minute ∧ config.maxReactionsPerMinute ≤ rateLimit.count then
        .error .tooManyPerMinute
      else .ok ()

/-- `updateRateLimit` at `now`: open a new window after a minute, then count the
reaction. -/
def updateRateLimit (now : Int) (userID : ParticipantIdentity)
    (rateLimits : ParticipantIdentity → Option RateLimit) : ParticipantIdentity → Option RateLimit :=
  let rateLimit := (rateLimits userID).getD ⟨now, 0, now⟩
  let windowed := if minute ≤ now - rateLimit.windowStart then
    { rateLimit with windowStart := now, count := 0 } else rateLimit
  Function.update rateLimits userID
    (some { windowed with lastReaction := now, count := windowed.count + 1 })

/-! ## The leaderboard -/

/-- `topReactors[i], topReactors[j] = topReactors[j], topReactors[i]`. -/
def swapReactors (i j : Nat) (reactors : List TopReactor) : List TopReactor :=
  (reactors.set i (reactors.getD j ⟨"", "", 0⟩)).set j (reactors.getD i ⟨"", "", 0⟩)

/-- The inner loop of the leaderboard sort: for `j` from `i + 1`, move a larger
count into position `i`. -/
def sortPass (i : Nat) (reactors : List TopReactor) : List TopReactor :=
  (List.range' (i + 1) (reactors.length - (i + 1))).foldl
    (fun reactors j =>
      if (reactors.getD i ⟨"", "", 0⟩).reactionCount < (reactors.getD j ⟨"", "", 0⟩).reactionCount
      then swapReactors i j reactors else reactors)
    reactors

/-- The nested swap loop of `updateTopReactors`. -/
def sortReactors (reactors : List TopReactor) : List TopReactor :=
  (List.range reactors.length).foldl (fun reactors i => sortPass i reactors) reactors

/-- `updateTopReactors`: every user of the per-user index with the length of
its list, sorted by the swap loop, the first ten kept. -/
def updateTopReactors (config : ReactionConfig) (room : ReactionRoom) : ReactionRoom :=
  if !config.enableLeaderboard then room
  else
    let reactors := room.userReactions.entries.map fun entry =>
      ({ userID := entry.1
         userName := (entry.2.head?.map (·.userName)).getD ""
         reactionCount := entry.2.length } : TopReactor)
    { room with stats := { room.stats with topReactors := (sortReactors reactors).take 10 } }

/-! ## Sending -/

/-- The arguments of one `SendReaction` call. -/
structure ReactionCall where
  roomName : RoomName
  userID : ParticipantIdentity
  userName : String
  reactionType : ReactionType
  position : Option ReactionPosition

/-- The reaction the last critical section of `SendReaction` creates at `now`. -/
def newReaction (now : Int) (call : ReactionCall) : Reaction where
  id := "reaction-" ++ toString now ++ "-" ++ call.userID
  roomName := call.roomName
  userID := call.userID
  userName := call.userName
  reactionType := call.reactionType
  timestamp := now
  position := call.position

/-- The last critical section of `SendReaction`, under the room's write lock:
append the reaction to the room and to its user's list, update the counts and
the recent list, then the leaderboard and the user's rate limit. A negative
`MaxRecentReactions` panics after the recent list was extended. -/
def appendReaction (config : ReactionConfig) (now : Int) (call : ReactionCall)
    (room : ReactionRoom) : Except ReactionError Reaction × ReactionRoom :=
  let reaction := newReaction now call
  let recent := reaction :: room.stats.recentReactions
  let appended :=
    { room with
      reactions := room.reactions ++ [reaction]
      userReactions := room.userReactions.insert call.userID
        ((room.userReactions.lookup call.userID).getD [] ++ [reaction])
      stats := { room.stats with
        totalReactions := room.stats.totalReactions + 1
        reactionCounts := Function.update room.stats.reactionCounts call.reactionType
          (room.stats.reactionCounts call.reactionType + 1)
        recentReactions := recent } }
  if config.maxRecentReactions < recent.length ∧ config.maxRecentReactions < 0 then
    (.error .sliceBoundsOutOfRange, appended)
  else
    let trimmed := { appended with
      stats := { appended.stats with
        recentReactions := if config.maxRecentReactions < recent.length then
          recent.take config.maxRecentReactions.toNat else recent
        lastUpdated := now } }
    let ranked := updateTopReactors config trimmed
    (.ok reaction, { ranked with rateLimits := updateRateLimit now call.userID ranked.rateLimits })

/-! ## Reading and the sweep -/

/-- `GetRecentReactions`: the last `limit` reactions, newest first. -/
def getRecentReactions (limit : Int) (room : ReactionRoom) : List Reaction :=
  room.reactions.reverse.take limit.toNat

def getUserReactions (userID : ParticipantIdentity) (room : ReactionRoom) : List Reaction :=
  (room.userReactions.lookup userID).getD []

/-- `GetTopReactors`: the first `limit` leaders; a negative `limit` below the
list's length panics. -/
def getTopReactors (limit : Int) (room : ReactionRoom) : Except ReactionError (List TopReactor) :=
  if limit < room.stats.topReactors.length then
    if limit < 0 then .error .sliceBoundsOutOfRange
    else .ok (room.stats.topReactors.take limit.toNat)
  else .ok room.stats.topReactors

/-- The room of `roomName`, or `reaction room not found`. -/
def lookupReactionRoom (roomName : RoomName) (service : ReactionService) :
    Except ReactionError ReactionRoom :=
  match service.rooms.lookup roomName with
  | none => .error .reactionRoomNotFound
  | some ref => .ok (service.heap ref)

/-- One room under `CleanupOldReactions` with cutoff `cutoff`: the reactions
after the cutoff, in each list; the result counts the reactions dropped from
the room's list. -/
def sweepRoom (cutoff : Int) (room : ReactionRoom) : Nat × ReactionRoom :=
  let fresh := fun (reaction : Reaction) => decide (cutoff < reaction.timestamp)
  ((room.reactions.filter fun reaction => !fresh reaction).length,
    { room with
      reactions := room.reactions.filter fresh
      userReactions :=
        ⟨room.userReactions.entries.map fun entry => ⟨entry.1, entry.2.filter fresh⟩, by
          unfold List.NodupKeys List.keys
          rw [List.map_map]
          exact room.userReactions.nodupKeys⟩ })

/-- `CleanupOldReactions`: sweep every bound room; the result is the number of
reactions dropped. -/
def cleanupOldReactions (now : Int) (service : ReactionService) : Nat × ReactionService :=
  let cutoff := now - service.config.reactionTTL
  service.rooms.entries.foldl
    (fun (swept : Nat × ReactionService) entry =>
      let (dropped, room) := sweepRoom cutoff (swept.2.heap entry.2)
      (swept.1 + dropped, swept.2.write entry.2 room))
    (0, service)

end LiveStreaming.Reactions
