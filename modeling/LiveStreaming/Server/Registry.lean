import LiveStreaming.Basic
import Mathlib.Data.List.AList

/-!
# The live stream registry

The server keeps the streams that are live in `activeStreams`, a map from a
stream's ID to its `StreamInfo`, behind a lock. `handleRegisterStream` stores
a decoded `StreamInfo` under its own ID, refusing one without an ID;
`handleUnregisterStream` deletes the decoded ID; `handleListStreams` returns
every stored stream. Each handler answers an `OPTIONS` preflight with an empty
200 and touches nothing; the two writers refuse any method but `POST` and a body
that does not decode. The map is iterated, so it is an association list, whose
order stands for Go's random iteration order; a response is its status and
body, the CORS headers apart.

Over every run of requests the map stores each stream under its own, nonempty
ID (`RegistryInvariant`), so the list names every live stream once, and it is
exactly the streams whose last successful registration was not followed by a
successful unregistration of their ID (`registry_lists_live_streams`).
-/

namespace LiveStreaming.Server

structure StreamInfo where
  id : String
  title : String
  streamer : String
  avatar : String
  viewers : Int
  startTime : Int
  deriving DecidableEq, Repr

/-- The server's `activeStreams` map, each live stream under its ID. -/
abbrev StreamRegistry := AList fun _ : String => StreamInfo

/-- A request as a handler reads it: its method and what `json.Decoder.Decode`
makes of its body, the decoder's error text or the decoded value. -/
structure HandlerRequest (α : Type) where
  method : String
  body : Except String α

/-- What a handler writes: the status and the body. -/
structure HandlerResponse where
  status : Nat
  body : String
  deriving DecidableEq, Repr

/-- `http.Error`: the message on a line of its own, under the status. -/
def httpError (message : String) (status : Nat) : HandlerResponse :=
  ⟨status, message ++ "\n"⟩

/-- The empty 200 of a handler that returns before writing. -/
def emptyResponse : HandlerResponse := ⟨200, ""⟩

def handleRegisterStream (request : HandlerRequest StreamInfo) (activeStreams : StreamRegistry) :
    HandlerResponse × StreamRegistry :=
  if request.method = "OPTIONS" then (emptyResponse, activeStreams)
  else if request.method ≠ "POST" then (httpError "Method not allowed" 405, activeStreams)
  else
    match request.body with
    | .error text => (httpError text 400, activeStreams)
    | .ok info =>
        if info.id = "" then (httpError "Missing stream ID" 400, activeStreams)
        else (⟨200, "\x7b\"status\":\"registered\"\x7d"⟩, activeStreams.insert info.id info)

/-- `handleUnregisterStream`; the body is the `id` field of the request. -/
def handleUnregisterStream (request : HandlerRequest String) (activeStreams : StreamRegistry) :
    HandlerResponse × StreamRegistry :=
  if request.method = "OPTIONS" then (emptyResponse, activeStreams)
  else if request.method ≠ "POST" then (httpError "Method not allowed" 405, activeStreams)
  else
    match request.body with
    | .error text => (httpError text 400, activeStreams)
    | .ok id => (⟨200, "\x7b\"status\":\"unregistered\"\x7d"⟩, activeStreams.erase id)

/-- `handleListStreams`: nothing for a preflight, else every stored stream, for
any method. -/
def handleListStreams (method : String) (activeStreams : StreamRegistry) : Option (List StreamInfo) :=
  if method = "OPTIONS" then none else some (activeStreams.entries.map (·.2))

/-! ## Runs -/

/-- A request to one of the two writers. -/
inductive RegistryRequest where
  | register (request : HandlerRequest StreamInfo)
  | unregister (request : HandlerRequest String)

/-- The registry after one request. -/
def registryStep (activeStreams : StreamRegistry) : RegistryRequest → StreamRegistry
  | .register request => (handleRegisterStream request activeStreams).2
  | .unregister request => (handleUnregisterStream request activeStreams).2

/-- The registry after a run of requests. -/
def registryRun (activeStreams : StreamRegistry) (requests : List RegistryRequest) : StreamRegistry :=
  requests.foldl registryStep activeStreams

/-- What one request does to the stream registered under `id`: a successful
registration of a stream with that ID replaces it, a successful
unregistration of the ID removes it. -/
def liveStep (id : String) (live : Option StreamInfo) : RegistryRequest → Option StreamInfo
  | .register ⟨"POST", .ok info⟩ => if info.id = id ∧ id ≠ "" then some info else live
  | .unregister ⟨"POST", .ok other⟩ => if other = id then none else live
  | _ => live

/-- What the registry should hold after a run, read off the requests: for
each ID, the last registration that succeeded, unless a successful
unregistration of the ID came after it. -/
def liveStream (requests : List RegistryRequest) (id : String) : Option StreamInfo :=
  requests.foldl (liveStep id) none

/-- Every stream is stored under its own, nonempty ID. -/
def RegistryInvariant (activeStreams : StreamRegistry) : Prop :=
  ∀ id info, activeStreams.lookup id = some info → info.id = id ∧ id ≠ ""

section Registry

variable {activeStreams : StreamRegistry}

/-- One request changes the stream under an ID as `liveStep` says. -/
theorem registryStep_lookup (id : String) (request : RegistryRequest) :
    (registryStep activeStreams request).lookup id = liveStep id (activeStreams.lookup id) request := by
  rcases request with ⟨method, body⟩ | ⟨method, body⟩
  · by_cases post : method = "POST"
    · subst post
      rcases body with text | info
      · rfl
      · simp only [registryStep, handleRegisterStream, liveStep]
        by_cases unnamed : info.id = ""
        · simp only [unnamed, if_true, show ("POST" : String) ≠ "OPTIONS" by decide, if_false,
            ne_eq, not_true_eq_false]
          split_ifs with same
          · exact absurd same.1.symm same.2
          · rfl
        · simp only [unnamed, if_false, show ("POST" : String) ≠ "OPTIONS" by decide, ne_eq,
            not_true_eq_false, not_false_eq_true]
          by_cases same : info.id = id
          · subst same
            simp [AList.lookup_insert, unnamed]
          · simp [AList.lookup_insert_ne (Ne.symm same), same]
    · simp only [registryStep, handleRegisterStream, liveStep]
      split_ifs <;> simp_all
  · by_cases post : method = "POST"
    · subst post
      rcases body with text | other
      · rfl
      · simp only [registryStep, handleUnregisterStream, liveStep,
          show ("POST" : String) ≠ "OPTIONS" by decide, if_false, ne_eq, not_true_eq_false]
        by_cases same : other = id
        · subst same
          simp [AList.lookup_erase]
        · simp [AList.lookup_erase_ne (Ne.symm same), same]
    · simp only [registryStep, handleUnregisterStream, liveStep]
      split_ifs <;> simp_all

theorem registryRun_lookup (id : String) :
    ∀ (requests : List RegistryRequest) (activeStreams : StreamRegistry),
      (registryRun activeStreams requests).lookup id =
        requests.foldl (liveStep id) (activeStreams.lookup id)
  | [], _ => rfl
  | request :: rest, activeStreams => by
      rw [List.foldl_cons, ← registryStep_lookup]
      exact registryRun_lookup id rest _

end Registry

/-- A stream a request leaves under an ID was there before, or was just
registered under that ID, which is not empty. -/
theorem liveStep_eq_some {id : String} {live : Option StreamInfo} {request : RegistryRequest}
    {info : StreamInfo} (found : liveStep id live request = some info) :
    live = some info ∨ (info.id = id ∧ id ≠ "") := by
  unfold liveStep at found
  split at found
  · split_ifs at found with registered
    · cases found
      exact .inr registered
    · exact .inl found
  · split_ifs at found
    exact .inl found
  · exact .inl found

theorem registryRun_invariant (requests : List RegistryRequest) :
    RegistryInvariant (registryRun ∅ requests) := by
  intro id info found
  rw [registryRun_lookup] at found
  suffices kept : ∀ (rest : List RegistryRequest) (live : Option StreamInfo),
      (∀ info, live = some info → info.id = id ∧ id ≠ "") →
      rest.foldl (liveStep id) live = some info → info.id = id ∧ id ≠ "" from
    kept requests _ (fun _ absent => by cases absent) found
  intro rest
  induction rest with
  | nil => exact fun live named found => named info found
  | cons request rest inductionHypothesis =>
      refine fun live named => inductionHypothesis _ fun other stepped => ?_
      rcases liveStep_eq_some stepped with before | registered
      · exact named other before
      · exact registered

/-- Over every run of requests from the empty registry, a list the server
answers names each stream once, under a nonempty ID, and holds exactly the
streams whose last successful registration was not followed by a successful
unregistration of their ID. -/
theorem registry_lists_live_streams (requests : List RegistryRequest) {method : String}
    {listed : List StreamInfo} (answered : handleListStreams method (registryRun ∅ requests) = some listed) :
    (listed.map StreamInfo.id).Nodup ∧ (∀ info ∈ listed, info.id ≠ "") ∧
      ∀ info, info ∈ listed ↔ liveStream requests info.id = some info := by
  simp only [handleListStreams] at answered
  split_ifs at answered
  cases answered
  have invariant := registryRun_invariant requests
  have stored : ∀ entry ∈ (registryRun ∅ requests).entries,
      (registryRun ∅ requests).lookup entry.1 = some entry.2 :=
    fun entry member => AList.mem_lookup_iff.mpr member
  have keys : ((registryRun ∅ requests).entries.map (·.2)).map StreamInfo.id =
      (registryRun ∅ requests).entries.map (·.1) := by
    rw [List.map_map]
    exact List.map_congr_left fun entry member => (invariant _ _ (stored entry member)).1
  have live : ∀ id, (registryRun ∅ requests).lookup id = liveStream requests id :=
    fun id => registryRun_lookup id requests ∅
  refine ⟨keys ▸ (registryRun ∅ requests).nodupKeys, fun info member => ?_, fun info => ⟨fun member => ?_,
    fun registered => ?_⟩⟩
  · obtain ⟨entry, inEntries, rfl⟩ := List.mem_map.mp member
    exact (invariant _ _ (stored entry inEntries)).1 ▸ (invariant _ _ (stored entry inEntries)).2
  · obtain ⟨entry, inEntries, rfl⟩ := List.mem_map.mp member
    rw [← live, (invariant _ _ (stored entry inEntries)).1]
    exact stored entry inEntries
  · rw [← live] at registered
    exact List.mem_map.mpr ⟨⟨info.id, info⟩, AList.mem_lookup_iff.mp registered, rfl⟩

/-- Alice's stream. -/
def alphaStream : StreamInfo := ⟨"s1", "Alpha", "alice", "", 0, 100⟩

/-- Alice's stream is registered twice, Bob's is registered and unregistered,
and a `GET` registration and a registration without an ID are refused. -/
def registryRequests : List RegistryRequest :=
  [.register ⟨"POST", .ok alphaStream⟩, .register ⟨"POST", .ok ⟨"s2", "Beta", "bob", "", 0, 200⟩⟩,
    .register ⟨"POST", .ok { alphaStream with viewers := 7 }⟩, .unregister ⟨"POST", .ok "s2"⟩,
    .register ⟨"GET", .ok ⟨"s3", "Gamma", "carol", "", 0, 300⟩⟩,
    .register ⟨"POST", .ok ⟨"", "Untitled", "dave", "", 0, 400⟩⟩]

/-- The list after these requests holds Alice's stream once, as last registered. -/
theorem registry_lists_alpha_once :
    handleListStreams "GET" (registryRun ∅ registryRequests) = some [{ alphaStream with viewers := 7 }] ∧
    (([{ alphaStream with viewers := 7 }].map StreamInfo.id).Nodup ∧
      (∀ info ∈ [{ alphaStream with viewers := 7 }], info.id ≠ "") ∧
      ∀ info, info ∈ [{ alphaStream with viewers := 7 }] ↔ liveStream registryRequests info.id = some info) :=
  have answered : handleListStreams "GET" (registryRun ∅ registryRequests) =
      some [{ alphaStream with viewers := 7 }] := by decide
  ⟨answered, registry_lists_live_streams registryRequests answered⟩

end LiveStreaming.Server
