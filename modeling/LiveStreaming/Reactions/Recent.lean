import LiveStreaming.Reactions.Room

/-!
# The two views of recent reactions

`SendReaction` keeps `Stats.RecentReactions` by prepending each new reaction and
cutting the list to `MaxRecentReactions`; `GetRecentReactions` reads the room's
list backwards. `CleanupOldReactions` filters the room's list by timestamp and
leaves `RecentReactions` alone. The room's list stays a suffix of everything
ever appended as long as the appends came at non-decreasing clock readings,
since each reaction is stamped with the reading of its append and a filter by
a cutoff then keeps a suffix. Along every such run the recent list is the last
`MaxRecentReactions` appends, newest first, and every read of at most that many
reactions is a prefix of it (`recent_reactions_agree`).
-/

namespace LiveStreaming.Reactions

/-- Reactions in order of their timestamps. -/
def StampOrdered (reactions : List Reaction) : Prop :=
  reactions.Pairwise fun a b => a.timestamp ≤ b.timestamp

/-- The recent list and the room's list against the history of appends. -/
structure RecentLedger (config : ReactionConfig) (room : ReactionRoom) (history : List Reaction) :
    Prop where
  recent : room.stats.recentReactions = history.reverse.take config.maxRecentReactions.toNat
  suffix : room.reactions <:+ history

section Append

variable {config : ReactionConfig} {now : Int} {call : ReactionCall} {room : ReactionRoom}

@[simp]
theorem updateTopReactors_recentReactions :
    (updateTopReactors config room).stats.recentReactions = room.stats.recentReactions := by
  unfold updateTopReactors; split <;> rfl

/-- With a nonnegative `MaxRecentReactions` the append cuts the extended recent
list to that length. -/
theorem appendReaction_recentReactions (recentNonnegative : 0 ≤ config.maxRecentReactions) :
    (appendReaction config now call room).2.stats.recentReactions =
      (newReaction now call :: room.stats.recentReactions).take config.maxRecentReactions.toNat := by
  have noPanic : ¬(config.maxRecentReactions <
      (newReaction now call :: room.stats.recentReactions).length ∧
      config.maxRecentReactions < 0) := fun ⟨_, negative⟩ => by omega
  simp only [appendReaction, if_neg noPanic, updateTopReactors_recentReactions]
  split_ifs with longer
  · rfl
  · exact (List.take_of_length_le (by omega)).symm

end Append

theorem take_cons_take {α : Type} (n : Nat) (a : α) (l : List α) :
    (a :: l.take n).take n = (a :: l).take n := by
  cases n with
  | zero => rfl
  | succ n => simp [List.take_take]

/-- A cutoff filter keeps a suffix of a list in timestamp order. -/
theorem filter_after_suffix (cutoff : Int) :
    ∀ {reactions : List Reaction}, StampOrdered reactions →
      reactions.filter (fun reaction => decide (cutoff < reaction.timestamp)) <:+ reactions
  | [], _ => List.suffix_refl _
  | reaction :: rest, ordered => by
      rw [StampOrdered, List.pairwise_cons] at ordered
      by_cases fresh : cutoff < reaction.timestamp
      · have kept : rest.filter (fun reaction => decide (cutoff < reaction.timestamp)) = rest :=
          List.filter_eq_self.mpr fun later member =>
            decide_eq_true (lt_of_lt_of_le fresh (ordered.1 later member))
        rw [List.filter_cons, if_pos (decide_eq_true fresh), kept]
      · rw [List.filter_cons, if_neg (by simpa using fresh)]
        exact (filter_after_suffix cutoff ordered.2).trans (List.suffix_cons _ _)

theorem recentLedger_newReactionRoom (config : ReactionConfig) (now : Int) (roomName : RoomName) :
    RecentLedger config (newReactionRoom now roomName) [] :=
  ⟨by simp [newReactionRoom], List.suffix_refl _⟩

theorem RecentLedger.append {config : ReactionConfig} {room : ReactionRoom}
    {history : List Reaction} (ledger : RecentLedger config room history)
    (recentNonnegative : 0 ≤ config.maxRecentReactions) (now : Int) (call : ReactionCall) :
    RecentLedger config (appendReaction config now call room).2 (history ++ [newReaction now call]) := by
  obtain ⟨reactions, -⟩ := @appendReaction_ledger config now call room
  refine ⟨?_, ?_⟩
  · rw [appendReaction_recentReactions recentNonnegative, ledger.recent, take_cons_take,
      List.reverse_append, List.reverse_singleton, List.singleton_append]
  · obtain ⟨earlier, appended⟩ := ledger.suffix
    exact ⟨earlier, by rw [reactions, ← List.append_assoc, appended]⟩

theorem RecentLedger.sweep {config : ReactionConfig} {room : ReactionRoom}
    {history : List Reaction} (ledger : RecentLedger config room history)
    (ordered : StampOrdered history) (cutoff : Int) :
    RecentLedger config (sweepRoom cutoff room).2 history :=
  ⟨ledger.recent, (filter_after_suffix cutoff (ordered.sublist ledger.suffix.sublist)).trans
    ledger.suffix⟩

/-- Every room object built by these moves from appends in timestamp order
keeps the two views in step. -/
theorem RoomReachable.recentLedger {config : ReactionConfig} {room : ReactionRoom}
    {history : List Reaction} {removed : Nat} (reach : RoomReachable config room history removed)
    (recentNonnegative : 0 ≤ config.maxRecentReactions) :
    StampOrdered history → RecentLedger config room history := by
  induction reach with
  | created now roomName => exact fun _ => recentLedger_newReactionRoom config now roomName
  | append now call _ inductionHypothesis =>
      exact fun ordered =>
        (inductionHypothesis (ordered.sublist (List.sublist_append_left _ _))).append
          recentNonnegative now call
  | sweep cutoff _ inductionHypothesis =>
      exact fun ordered => (inductionHypothesis ordered).sweep ordered cutoff

/-- Along every run of one room object whose appends came at non-decreasing
clock readings, with `MaxRecentReactions` nonnegative: `RecentReactions` is the
last `min MaxRecentReactions n` of the `n` reactions ever appended, newest
first; the room's list is a suffix of all appends; and `GetRecentReactions` of
any limit up to `MaxRecentReactions` is a prefix of `RecentReactions`. -/
theorem recent_reactions_agree {config : ReactionConfig} {room : ReactionRoom}
    {history : List Reaction} {removed : Nat} (reach : RoomReachable config room history removed)
    (ordered : StampOrdered history) (recentNonnegative : 0 ≤ config.maxRecentReactions) :
    room.stats.recentReactions =
        (history.drop (history.length - config.maxRecentReactions.toNat)).reverse ∧
      room.stats.recentReactions.length = min config.maxRecentReactions.toNat history.length ∧
      room.reactions <:+ history ∧
      ∀ limit : Int, limit ≤ config.maxRecentReactions →
        getRecentReactions limit room <+: room.stats.recentReactions := by
  have ledger := reach.recentLedger recentNonnegative ordered
  refine ⟨by rw [ledger.recent, List.take_reverse], by simp [ledger.recent], ledger.suffix,
    fun limit within => ?_⟩
  rw [ledger.recent, List.prefix_take_iff]
  refine ⟨(List.take_prefix _ _).trans (List.IsSuffix.reverse ledger.suffix), ?_⟩
  simp only [getRecentReactions, List.length_take]
  omega

/-- The default configuration with a recent list of two. -/
def recentConfig : ReactionConfig := { defaultReactionConfig with maxRecentReactions := 2 }

/-- The appends of `recentRoom`. -/
def recentHistory : List Reaction :=
  [newReaction 1 aliceLike, newReaction 2 ⟨"r1", "bob", "Bob", "heart", none⟩,
    newReaction 3 aliceLike]

/-- A room under that configuration after alice's like at 1, bob's heart at 2
and alice's like at 3, then a sweep with cutoff 1. -/
def recentRoom : ReactionRoom :=
  (sweepRoom 1 (appendReaction recentConfig 3 aliceLike
    (appendReaction recentConfig 2 ⟨"r1", "bob", "Bob", "heart", none⟩
      (appendReaction recentConfig 1 aliceLike (newReactionRoom 0 "r1")).2).2).2).2

/-- The two views agree on that room. -/
theorem recent_views_after_sweep :
    (RoomReachable recentConfig recentRoom recentHistory
        (0 + (sweepRoom 1 (appendReaction recentConfig 3 aliceLike
          (appendReaction recentConfig 2 ⟨"r1", "bob", "Bob", "heart", none⟩
            (appendReaction recentConfig 1 aliceLike (newReactionRoom 0 "r1")).2).2).2).1) ∧
      StampOrdered recentHistory ∧ 0 ≤ recentConfig.maxRecentReactions) ∧
    (recentRoom.stats.recentReactions =
        (recentHistory.drop (recentHistory.length - recentConfig.maxRecentReactions.toNat)).reverse ∧
      recentRoom.stats.recentReactions.length =
        min recentConfig.maxRecentReactions.toNat recentHistory.length ∧
      recentRoom.reactions <:+ recentHistory ∧
      ∀ limit : Int, limit ≤ recentConfig.maxRecentReactions →
        getRecentReactions limit recentRoom <+: recentRoom.stats.recentReactions) :=
  have reach : RoomReachable recentConfig recentRoom recentHistory
      (0 + (sweepRoom 1 (appendReaction recentConfig 3 aliceLike
        (appendReaction recentConfig 2 ⟨"r1", "bob", "Bob", "heart", none⟩
          (appendReaction recentConfig 1 aliceLike (newReactionRoom 0 "r1")).2).2).2).1) :=
    ((((RoomReachable.created 0 "r1").append 1 aliceLike).append 2 _).append 3 aliceLike).sweep 1
  have ordered : StampOrdered recentHistory := by
    simp [StampOrdered, recentHistory, newReaction]
  ⟨⟨reach, ordered, by decide⟩, recent_reactions_agree reach ordered (by decide)⟩

end LiveStreaming.Reactions
