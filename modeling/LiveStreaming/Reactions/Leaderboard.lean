import LiveStreaming.Reactions.Service
import Mathlib.Data.List.Nodup

/-!
# The leaderboard

`updateTopReactors` lists every user of the room's per-user index with the
length of the user's list, sorts the list with a nested swap loop, and keeps
the first ten. For `i` from the front, the inner loop compares the reactor at
`i` with each later one and swaps in any larger count, so position `i` ends
with the largest count from `i` on. On the part of the list from `i` on, that
pass is `carryMax`: carry the larger count forward, leaving the others in order
(`sortPass_eq_carryMax`). After the passes over the first `m` positions those
hold the `m` largest counts in non-increasing order, above every count after
them, and the list is a permutation of the input (`sortReactors_prefix`). So
the swap loop sorts by count, descending, for every input order
(`sortReactors_ranked`), and the leaderboard is a correct top ten
(`leaderboard_is_top_ten`).
-/

namespace LiveStreaming.Reactions

/-- Counts in non-increasing order. -/
def RankedByCount (reactors : List TopReactor) : Prop :=
  reactors.Pairwise fun a b => b.reactionCount ≤ a.reactionCount

/-! ## One pass as a fold -/

/-- One comparison of the inner loop, on the reactor at position `i` so far and
the reactors passed over: a larger count takes position `i`, and the reactor it
displaces goes where it was. -/
def carryStep (carried : TopReactor × List TopReactor) (next : TopReactor) :
    TopReactor × List TopReactor :=
  if carried.1.reactionCount < next.reactionCount then (next, carried.2 ++ [carried.1])
  else (carried.1, carried.2 ++ [next])

/-- The inner loop on the part of the list from position `i` on. -/
def carryMax (head : TopReactor) (rest : List TopReactor) : TopReactor × List TopReactor :=
  rest.foldl carryStep (head, [])

theorem foldl_carryStep_length :
    ∀ (rest : List TopReactor) (carried : TopReactor × List TopReactor),
      (rest.foldl carryStep carried).2.length = carried.2.length + rest.length
  | [], _ => rfl
  | next :: rest, carried => by
      rw [List.foldl_cons, foldl_carryStep_length rest]
      unfold carryStep
      split_ifs <;>
        simp only [List.length_append, List.length_singleton, List.length_cons, List.length_nil] <;> omega

theorem foldl_carryStep_perm :
    ∀ (rest : List TopReactor) (carried : TopReactor × List TopReactor),
      ((rest.foldl carryStep carried).1 :: (rest.foldl carryStep carried).2).Perm
        (carried.1 :: (carried.2 ++ rest))
  | [], carried => by rw [List.append_nil]; rfl
  | next :: rest, carried => by
      rw [List.foldl_cons]
      refine (foldl_carryStep_perm rest _).trans ?_
      unfold carryStep
      split_ifs
      · calc List.Perm (next :: ((carried.2 ++ [carried.1]) ++ rest))
              (next :: carried.1 :: (carried.2 ++ rest)) := by
                rw [List.append_assoc, List.singleton_append]; exact List.perm_middle.cons _
          List.Perm _ (carried.1 :: next :: (carried.2 ++ rest)) := List.Perm.swap _ _ _
          List.Perm _ (carried.1 :: (carried.2 ++ next :: rest)) := (List.perm_middle.cons _).symm
      · simp

/-- The carried reactor's count is at least every count passed over. -/
theorem foldl_carryStep_max :
    ∀ (rest : List TopReactor) (carried : TopReactor × List TopReactor),
      (∀ passed ∈ carried.2, passed.reactionCount ≤ carried.1.reactionCount) →
      ∀ passed ∈ (rest.foldl carryStep carried).2,
        passed.reactionCount ≤ (rest.foldl carryStep carried).1.reactionCount
  | [], _, below => below
  | next :: rest, carried, below => by
      rw [List.foldl_cons]
      refine foldl_carryStep_max rest _ ?_
      unfold carryStep
      split_ifs with larger
      · intro passed member
        rcases List.mem_append.mp member with earlier | displaced
        · exact le_trans (below passed earlier) larger.le
        · rw [List.mem_singleton.mp displaced]
          exact larger.le
      · intro passed member
        rcases List.mem_append.mp member with earlier | new
        · exact below passed earlier
        · rw [List.mem_singleton.mp new]
          exact not_lt.mp larger

/-! ## The index loop -/

/-- One comparison of the source's inner loop, at positions `i` and `j`. -/
def compareAt (i : Nat) (reactors : List TopReactor) (j : Nat) : List TopReactor :=
  if (reactors.getD i ⟨"", "", 0⟩).reactionCount < (reactors.getD j ⟨"", "", 0⟩).reactionCount then
    swapReactors i j reactors
  else reactors

theorem sortPass_eq_foldl (i : Nat) (reactors : List TopReactor) :
    sortPass i reactors =
      (List.range' (i + 1) (reactors.length - (i + 1))).foldl (compareAt i) reactors :=
  rfl

theorem getD_at_length {α : Type} (front : List α) (position : Nat) (here : position = front.length)
    (a : α) (back : List α) (fallback : α) : (front ++ a :: back).getD position fallback = a := by
  subst here
  induction front with
  | nil => rfl
  | cons _ _ inductionHypothesis => exact inductionHypothesis

theorem set_at_length {α : Type} (front : List α) (position : Nat) (here : position = front.length)
    (a : α) (back : List α) (x : α) : (front ++ a :: back).set position x = front ++ x :: back := by
  subst here
  rw [List.set_append_right _ _ le_rfl, Nat.sub_self]
  rfl

/-- A comparison at position `i`, holding the carried reactor, and the first
position after the reactors passed over is one `carryStep`. -/
theorem compareAt_carry (front : List TopReactor) (carried : TopReactor × List TopReactor)
    (next : TopReactor) (back : List TopReactor) :
    compareAt front.length (front ++ carried.1 :: (carried.2 ++ next :: back))
        (front.length + 1 + carried.2.length) =
      front ++ (carryStep carried next).1 :: ((carryStep carried next).2 ++ back) := by
  have regroup : ∀ x : TopReactor, front ++ x :: (carried.2 ++ next :: back) =
      (front ++ x :: carried.2) ++ next :: back := fun _ => by simp
  have position : front.length + 1 + carried.2.length = (front ++ carried.1 :: carried.2).length := by
    simp only [List.length_append, List.length_cons]; omega
  unfold compareAt swapReactors carryStep
  rw [getD_at_length front _ rfl, regroup,
    getD_at_length _ _ position, ← regroup]
  split_ifs
  · rw [set_at_length front _ rfl, regroup,
      set_at_length _ _ (by simp only [List.length_append, List.length_cons]; omega)]
    simp
  · simp

/-- The inner loop over the first `k` positions after `i` is `carryStep` over
the first `k` reactors after position `i`. -/
theorem foldl_compareAt (front : List TopReactor) (head : TopReactor) (rest : List TopReactor) :
    ∀ k, k ≤ rest.length →
      (List.range' (front.length + 1) k).foldl (compareAt front.length) (front ++ head :: rest) =
        front ++ ((rest.take k).foldl carryStep (head, [])).1 ::
          (((rest.take k).foldl carryStep (head, [])).2 ++ rest.drop k)
  | 0, _ => by simp
  | k + 1, within => by
      have passed := foldl_carryStep_length (rest.take k) (head, [])
      rw [List.range'_concat, List.foldl_append, foldl_compareAt front head rest k (by omega),
        List.drop_eq_getElem_cons (show k < rest.length by omega), List.take_succ,
        List.getElem?_eq_getElem (show k < rest.length by omega), Option.toList_some,
        List.foldl_append, List.foldl_cons, List.foldl_nil, List.foldl_cons, List.foldl_nil,
        show front.length + 1 + 1 * k =
          front.length + 1 + ((rest.take k).foldl carryStep (head, [])).2.length by
            rw [passed, List.length_take]; simp; omega]
      exact compareAt_carry front _ _ _

/-- A pass at position `i` leaves the first `i` reactors and is `carryMax` on
the rest. -/
theorem sortPass_eq_carryMax (front : List TopReactor) (head : TopReactor) (rest : List TopReactor) :
    sortPass front.length (front ++ head :: rest) =
      front ++ (carryMax head rest).1 :: (carryMax head rest).2 := by
  have remaining : (front ++ head :: rest).length - (front.length + 1) = rest.length := by
    simp only [List.length_append, List.length_cons]; omega
  rw [sortPass_eq_foldl, remaining, foldl_compareAt front head rest rest.length le_rfl,
    List.take_of_length_le le_rfl, List.drop_of_length_le le_rfl, List.append_nil]
  rfl

/-! ## The outer loop -/

/-- After the passes over the first `m` positions, those hold reactors in
non-increasing order of count, none below a count after them, and the list is
a permutation of the input. -/
theorem sortReactors_prefix (reactors : List TopReactor) :
    ∀ m, m ≤ reactors.length →
      ∃ ranked pending,
        (List.range m).foldl (fun reactors i => sortPass i reactors) reactors = ranked ++ pending ∧
        ranked.length = m ∧ RankedByCount ranked ∧
        (∀ top ∈ ranked, ∀ other ∈ pending, other.reactionCount ≤ top.reactionCount) ∧
        (ranked ++ pending).Perm reactors
  | 0, _ => ⟨[], reactors, rfl, rfl, List.Pairwise.nil, fun _ absent => (nomatch absent),
      List.Perm.refl _⟩
  | m + 1, within => by
      obtain ⟨ranked, pending, sorted, length, ordered, above, perm⟩ :=
        sortReactors_prefix reactors m (by omega)
      obtain ⟨head, rest, rfl⟩ : ∃ head rest, pending = head :: rest := by
        cases pending with
        | nil =>
            have sameLength := perm.length_eq
            simp only [List.append_nil] at sameLength
            omega
        | cons head rest => exact ⟨head, rest, rfl⟩
      have carried : ((carryMax head rest).1 :: (carryMax head rest).2).Perm (head :: rest) :=
        foldl_carryStep_perm rest (head, [])
      have fromPending : ∀ {reactor}, reactor ∈ (carryMax head rest).1 :: (carryMax head rest).2 →
          ∀ top ∈ ranked, reactor.reactionCount ≤ top.reactionCount :=
        fun member top ranked => above top ranked _ (carried.subset member)
      refine ⟨ranked ++ [(carryMax head rest).1], (carryMax head rest).2, ?_, ?_, ?_, ?_, ?_⟩
      · rw [List.range_succ, List.foldl_append, sorted, List.foldl_cons, List.foldl_nil, ← length,
          sortPass_eq_carryMax, List.append_assoc, List.singleton_append]
      · rw [List.length_append, length, List.length_singleton]
      · refine List.pairwise_append.mpr ⟨ordered, List.pairwise_singleton _ _, fun top member _ new => ?_⟩
        rw [List.mem_singleton.mp new]
        exact fromPending (List.mem_cons_self _ _) top member
      · intro top member other passed
        rcases List.mem_append.mp member with earlier | new
        · exact fromPending (List.mem_cons_of_mem _ passed) top earlier
        · rw [List.mem_singleton.mp new]
          exact foldl_carryStep_max rest (head, []) (fun _ absent => (nomatch absent)) other passed
      · rw [List.append_assoc, List.singleton_append]
        exact (carried.append_left ranked).trans perm

/-- The nested swap loop sorts every list by count, descending, and only
reorders it. -/
theorem sortReactors_ranked (reactors : List TopReactor) :
    (sortReactors reactors).Perm reactors ∧ RankedByCount (sortReactors reactors) := by
  obtain ⟨ranked, pending, sorted, length, ordered, -, perm⟩ :=
    sortReactors_prefix reactors reactors.length le_rfl
  have drained : pending = [] := by
    have sameLength := perm.length_eq
    rw [List.length_append, length] at sameLength
    exact List.eq_nil_of_length_eq_zero (by omega)
  subst drained
  rw [List.append_nil] at sorted perm
  rw [sortReactors, sorted]
  exact ⟨perm, ordered⟩

/-! ## The top ten -/

/-- The reactor `updateTopReactors` lists for one entry of the per-user index. -/
def topReactorOf (entry : Σ _ : ParticipantIdentity, List Reaction) : TopReactor where
  userID := entry.1
  userName := (entry.2.head?.map (·.userName)).getD ""
  reactionCount := entry.2.length

theorem updateTopReactors_topReactors {config : ReactionConfig} (room : ReactionRoom)
    (enabled : config.enableLeaderboard = true) :
    (updateTopReactors config room).stats.topReactors =
      (sortReactors (room.userReactions.entries.map topReactorOf)).take 10 := by
  simp only [updateTopReactors, enabled, Bool.not_true, Bool.false_eq_true, if_false]
  rfl

theorem topReactorOf_of_mem {room : ReactionRoom} {reactor : TopReactor}
    (listed : reactor ∈ room.userReactions.entries.map topReactorOf) :
    reactor.userID ∈ room.userReactions ∧
      reactor.reactionCount = (getUserReactions reactor.userID room).length := by
  obtain ⟨⟨userID, reactions⟩, present, rfl⟩ := List.mem_map.mp listed
  have found : room.userReactions.lookup userID = some reactions :=
    AList.mem_lookup_iff.mpr present
  exact ⟨AList.lookup_isSome.mp (by simp only [topReactorOf, found, Option.isSome_some]),
    by simp [getUserReactions, found, topReactorOf]⟩

/-- For every room whose configuration enables the leaderboard, whatever the
order of its per-user index: `updateTopReactors` lists `min 10 n` of the `n`
users, each once, each with the length of the user's list, in non-increasing
order of count, and no user left out has a count above the last one listed;
the swap loop itself sorts every list by count, descending, as a permutation. -/
theorem leaderboard_is_top_ten {config : ReactionConfig} (room : ReactionRoom)
    (enabled : config.enableLeaderboard = true) :
    (updateTopReactors config room).stats.topReactors.length =
        min 10 room.userReactions.entries.length ∧
      ((updateTopReactors config room).stats.topReactors.map TopReactor.userID).Nodup ∧
      (∀ reactor ∈ (updateTopReactors config room).stats.topReactors,
        reactor.userID ∈ room.userReactions ∧
          reactor.reactionCount = (getUserReactions reactor.userID room).length) ∧
      RankedByCount (updateTopReactors config room).stats.topReactors ∧
      (∀ userID ∈ room.userReactions,
        userID ∉ (updateTopReactors config room).stats.topReactors.map TopReactor.userID →
        ∀ last ∈ (updateTopReactors config room).stats.topReactors.getLast?,
          ((getUserReactions userID room).length : Int) ≤ last.reactionCount) ∧
      ∀ reactors : List TopReactor,
        (sortReactors reactors).Perm reactors ∧ RankedByCount (sortReactors reactors) := by
  rw [updateTopReactors_topReactors room enabled]
  obtain ⟨perm, ranked⟩ := sortReactors_ranked (room.userReactions.entries.map topReactorOf)
  have keys : ((room.userReactions.entries.map topReactorOf).map TopReactor.userID).Nodup := by
    rw [List.map_map]
    exact room.userReactions.nodupKeys
  have split := List.take_append_drop 10 (sortReactors (room.userReactions.entries.map topReactorOf))
  refine ⟨by simp [perm.length_eq], ((perm.map _).nodup_iff.mpr keys).sublist
      ((List.take_sublist _ _).map _), fun reactor member => topReactorOf_of_mem
        (perm.subset (List.mem_of_mem_take member)), ranked.sublist (List.take_sublist _ _),
      fun userID indexed unlisted last isLast => ?_, sortReactors_ranked⟩
  obtain ⟨reactions, found⟩ := Option.isSome_iff_exists.mp (AList.lookup_isSome.mpr indexed)
  have sorted := perm.symm.subset (List.mem_map_of_mem topReactorOf (AList.mem_lookup_iff.mp found))
  rw [← split] at sorted ranked
  rcases List.mem_append.mp sorted with listed | later
  · exact absurd (List.mem_map_of_mem TopReactor.userID listed) unlisted
  · have below := (List.pairwise_append.mp ranked).2.2 last (List.mem_of_getLast?_eq_some isLast) _
      later
    simpa [getUserReactions, found, topReactorOf] using below

/-- Bob's heart at 1, then two likes of alice's at 2 and 3, under the default
configuration. -/
def leaderboardRoom : ReactionRoom :=
  (appendReaction defaultReactionConfig 3 ⟨"r1", "alice", "Alice", "like", none⟩
    (appendReaction defaultReactionConfig 2 ⟨"r1", "alice", "Alice", "like", none⟩
      (appendReaction defaultReactionConfig 1 ⟨"r1", "bob", "Bob", "heart", none⟩
        (newReactionRoom 0 "r1")).2).2).2

/-- The default configuration enables the leaderboard, which ranks alice above
bob there. -/
theorem leaderboard_ranks_alice_first :
    defaultReactionConfig.enableLeaderboard = true ∧
    leaderboardRoom.stats.topReactors.map (fun reactor => (reactor.userID, reactor.reactionCount)) =
      [("alice", 2), ("bob", 1)] ∧
    ((updateTopReactors defaultReactionConfig leaderboardRoom).stats.topReactors.length =
        min 10 leaderboardRoom.userReactions.entries.length ∧
      ((updateTopReactors defaultReactionConfig leaderboardRoom).stats.topReactors.map
        TopReactor.userID).Nodup ∧
      (∀ reactor ∈ (updateTopReactors defaultReactionConfig leaderboardRoom).stats.topReactors,
        reactor.userID ∈ leaderboardRoom.userReactions ∧
          reactor.reactionCount = (getUserReactions reactor.userID leaderboardRoom).length) ∧
      RankedByCount (updateTopReactors defaultReactionConfig leaderboardRoom).stats.topReactors ∧
      (∀ userID ∈ leaderboardRoom.userReactions,
        userID ∉ (updateTopReactors defaultReactionConfig leaderboardRoom).stats.topReactors.map
          TopReactor.userID →
        ∀ last ∈ (updateTopReactors defaultReactionConfig leaderboardRoom).stats.topReactors.getLast?,
          ((getUserReactions userID leaderboardRoom).length : Int) ≤ last.reactionCount) ∧
      ∀ reactors : List TopReactor,
        (sortReactors reactors).Perm reactors ∧ RankedByCount (sortReactors reactors)) :=
  ⟨rfl, by decide, leaderboard_is_top_ten leaderboardRoom rfl⟩

end LiveStreaming.Reactions
