import Eth2Libp2p.PeerDB.OpenPeers

/-! # Which negative gossipsub scores are ignored

`update_gossipsub_scores` ranks the connected peers that have a gossipsub score,
best first, and walks the ranking with a budget of `to_ignore_negative_peers`
peers whose negative score is ignored, spent one by one on the negative scores it
meets. The ranking holds each such peer once, with its record and its score
(`PeerDB.mem_gossipsubRanking`, `PeerDB.gossipsubRanking_keys_nodup`). It is
sorted by score only, so among equal scores `sort_unstable_by` may take any
order; the facts about the walk hold for every ranking sorted best first
(`PeerDB.ignoreFlags_spares_best`).

The main result, `PeerDB.updateGossipsubScores_ignores_best_negative`: the
calls to `update_gossipsub_score` (`PeerDB.gossipsubScoreCalls`) are one for each
connected peer with a gossipsub score, and the database returned holds each of
them; exactly as many peers are passed `ignore = true` as the budget allows, up
to the number of connected peers with a negative score; each of them has a
negative score, and none has a lower score than a negative-scored peer passed
`ignore = false`. The peers spared are the best of the negative ones, as the
source's comment says. The score transitions carried out after the update
change no score (`PeerDB.foldl_applyScoreTransition_score`): a ban reaches only
a peer whose new score is banned, so `update_connection_state` adds no penalty.
-/

namespace Eth2Libp2p

namespace PeerDB

/-- The peers ranked with their scores, the ignore flag dropped. -/
def unflagged (flagged : List (PeerId × PeerInfo × Int × Bool)) : List (PeerId × PeerInfo × Int) :=
  flagged.map fun (peerId, info, score, _) => (peerId, info, score)

/-- The number of ranked peers with a negative score. -/
def negativeCount (ranked : List (PeerId × PeerInfo × Int)) : Nat :=
  (ranked.filter fun (_, _, score) => decide (score < 0)).length

/-- The number of peers passed `ignore = true`. -/
def ignoredCount (flagged : List (PeerId × PeerInfo × Int × Bool)) : Nat :=
  (flagged.filter fun (_, _, _, ignore) => ignore).length

variable (toIgnore : Nat) (ranked : List (PeerId × PeerInfo × Int))

/-- The walk flags the ranking in order, one flag for each peer. -/
theorem unflagged_ignoreFlags : unflagged (ignoreFlags toIgnore ranked) = ranked := by
  induction ranked generalizing toIgnore with
  | nil => rfl
  | cons head rest ih =>
    obtain ⟨peerId, info, score⟩ := head
    simp only [ignoreFlags, unflagged, List.map_cons] at ih ⊢
    rw [ih]

/-- With no budget left, no score is ignored. -/
theorem ignoreFlags_zero : ∀ flag ∈ ignoreFlags 0 ranked, flag.2.2.2 = false := by
  induction ranked with
  | nil => simp [ignoreFlags]
  | cons head rest ih =>
    obtain ⟨peerId, info, score⟩ := head
    intro flag member
    simp only [ignoreFlags, Nat.lt_irrefl, decide_False, Bool.and_false, Bool.false_eq_true, if_false,
      List.mem_cons] at member
    rcases member with rfl | later
    · rfl
    · exact ih flag later

/-- The budget is spent on negative scores only, up to the number of them. -/
theorem ignoredCount_ignoreFlags : ignoredCount (ignoreFlags toIgnore ranked) = min toIgnore (negativeCount ranked) := by
  induction ranked generalizing toIgnore with
  | nil => simp [ignoreFlags, ignoredCount, negativeCount]
  | cons head rest ih =>
    obtain ⟨peerId, info, score⟩ := head
    have later := ih (if decide (score < 0) && decide (0 < toIgnore) then toIgnore - 1 else toIgnore)
    unfold ignoredCount negativeCount at later ⊢
    by_cases negative : score < 0 <;> by_cases spent : 0 < toIgnore <;>
      simp only [ignoreFlags, negative, spent, decide_True, decide_False, Bool.and_self, Bool.and_false,
        Bool.false_and, if_true, if_false, Bool.false_eq_true, List.filter_cons, List.length_cons] at later ⊢ <;>
      omega

/-- Every ignored score is negative. -/
theorem ignoreFlags_negative : ∀ flag ∈ ignoreFlags toIgnore ranked, flag.2.2.2 = true → flag.2.2.1 < 0 := by
  induction ranked generalizing toIgnore with
  | nil => simp [ignoreFlags]
  | cons head rest ih =>
    obtain ⟨peerId, info, score⟩ := head
    intro flag member ignored
    simp only [ignoreFlags, List.mem_cons] at member
    rcases member with rfl | later
    · simp only [Bool.and_eq_true, decide_eq_true_eq] at ignored
      exact ignored.1
    · exact ih _ flag later ignored

/-- Over a ranking sorted best first, no negative-scored peer passed
`ignore = false` has a lower score than a peer passed `ignore = true`. -/
theorem ignoreFlags_spares_best (sorted : ranked.Pairwise fun a b => b.2.2 ≤ a.2.2) :
    ∀ ignored ∈ ignoreFlags toIgnore ranked, ∀ counted ∈ ignoreFlags toIgnore ranked,
      ignored.2.2.2 = true → counted.2.2.2 = false → counted.2.2.1 < 0 → counted.2.2.1 ≤ ignored.2.2.1 := by
  induction ranked generalizing toIgnore with
  | nil => simp [ignoreFlags]
  | cons head rest ih =>
    obtain ⟨peerId, info, score⟩ := head
    obtain ⟨below, sorted⟩ := List.pairwise_cons.mp sorted
    have scoreAbove : ∀ flag ∈ ignoreFlags (if decide (score < 0) && decide (0 < toIgnore) then toIgnore - 1
        else toIgnore) rest, flag.2.2.1 ≤ score := fun flag member => by
      have listed : (flag.1, flag.2.1, flag.2.2.1) ∈ rest := by
        rw [← unflagged_ignoreFlags _ rest]
        exact List.mem_map_of_mem _ member
      exact below _ listed
    intro ignored first counted second ignoredFlag countedFlag negative
    simp only [ignoreFlags, List.mem_cons] at first second
    rcases first with rfl | first <;> rcases second with rfl | second
    · exact absurd (ignoredFlag.symm.trans countedFlag) (by decide)
    · exact scoreAbove counted second
    · by_cases spent : 0 < toIgnore
      · simp only at countedFlag negative
        simp [negative, spent] at countedFlag
      · obtain rfl : toIgnore = 0 := by omega
        simp only [Nat.lt_irrefl, decide_False, Bool.and_false, Bool.false_eq_true, if_false] at first
        exact absurd ((ignoreFlags_zero rest ignored first).symm.trans ignoredFlag) (by decide)
    · exact ih _ sorted ignored first counted second ignoredFlag countedFlag negative

/-- The ranking is sorted best first (`sort_unstable_by` on the descending comparator). -/
theorem gossipsubRanking_sorted (db : PeerDB) (gossipsubScores : List (PeerId × Int)) :
    (db.gossipsubRanking gossipsubScores).Pairwise fun a b => b.2.2 ≤ a.2.2 := by
  unfold gossipsubRanking
  refine (List.sorted_mergeSort (fun _ _ _ first second => ?_) (fun a b => ?_) _).imp fun ordered => ?_ <;>
    simp only [decide_eq_true_eq, Bool.or_eq_true] at * <;> omega

/-! ## What the score transitions keep -/

/-- No transition of the connection state changes the score. -/
theorem transition_score (info : PeerInfo) (dc : Nat) (counts : BannedPeersCount)
    (newState : NewConnectionState) (now : Instant) :
    (transition info dc counts newState now).1.score = info.score := by
  unfold transition
  cases newState with
  | dialing =>
    dsimp only
    unfold PeerInfo.setDialingPeer
    split <;> split <;> rfl
  | _ => dsimp only; first | rfl | (split <;> rfl)

/-- `update_connection_state` writes the record of its peer only. -/
theorem updateConnectionState_lookup_ne (db : PeerDB) {peerId other : PeerId} (ne : other ≠ peerId)
    (newState : NewConnectionState) (now : Instant) :
    (db.updateConnectionState peerId newState now).1.peers.lookup other = db.peers.lookup other := by
  simp [updateConnectionState, AList.lookup_insert_ne ne]

/-- The record it writes has the score of the record it starts from. -/
theorem updateConnectionState_score (db : PeerDB) (peerId : PeerId) (newState : NewConnectionState)
    (now : Instant) : ∃ info, (db.updateConnectionState peerId newState now).1.peers.lookup peerId = some info ∧
      info.score = (db.banAdjusted peerId newState).score :=
  ⟨_, by simp [updateConnectionState], transition_score _ db.disconnectedPeers db.bannedPeersCount newState now⟩

/-- The fatal penalty of a ban is added only to a score not yet banned. -/
theorem banAdjusted_score {db : PeerDB} {peerId : PeerId} {info : PeerInfo}
    (found : db.peers.lookup peerId = some info) (newState : NewConnectionState)
    (banned : newState = .banned → info.scoreState = .banned) :
    (db.banAdjusted peerId newState).score = info.score := by
  have current : db.entry peerId = info := by simp [entry, found]
  unfold banAdjusted
  rw [current]
  cases newState
  case banned => simp [banned rfl]
  all_goals rfl

/-- A score transition asks for a ban only for a score that is banned. -/
theorem handleScoreTransition_banned {previousState : ScoreState} {info : PeerInfo}
    (banned : handleScoreTransition previousState info = .banned) : info.scoreState = .banned := by
  unfold handleScoreTransition at banned
  split at banned
  all_goals first | assumption | ((repeat' split at banned) <;> cases banned)

theorem applyScoreTransition_lookup_ne (db : PeerDB) {peerId other : PeerId} (ne : other ≠ peerId)
    (now : Instant) (result : ScoreTransitionResult) :
    (db.applyScoreTransition peerId now result).1.peers.lookup other = db.peers.lookup other := by
  cases result <;> simp only [applyScoreTransition, updateConnectionState_lookup_ne db ne]

/-- A score transition keeps its peer's score, unless it is a ban of a peer whose
score is not banned. -/
theorem applyScoreTransition_score {db : PeerDB} {peerId : PeerId} {info : PeerInfo}
    (found : db.peers.lookup peerId = some info) (now : Instant) (result : ScoreTransitionResult)
    (banned : result = .banned → info.scoreState = .banned) :
    ∃ info', (db.applyScoreTransition peerId now result).1.peers.lookup peerId = some info' ∧
      info'.score = info.score := by
  cases result with
  | noAction => exact ⟨info, found, rfl⟩
  | banned | disconnected | unbanned =>
    obtain ⟨info', written, score⟩ := db.updateConnectionState_score peerId _ now
    exact ⟨info', written, score.trans (banAdjusted_score found _ fun same => banned (by cases same <;> rfl))⟩

/-- The score transitions of distinct peers, in order, leave each peer's score
as it was, as long as a ban reaches only a peer whose score is banned. -/
theorem foldl_applyScoreTransition_score {α : Type} (now : Instant)
    (step : PeerDB × α → PeerId × ScoreTransitionResult → PeerDB × α)
    (stepped : ∀ state action, (step state action).1 = (state.1.applyScoreTransition action.1 now action.2).1) :
    ∀ (actions : List (PeerId × ScoreTransitionResult)) (state : PeerDB × α),
      (actions.map Prod.fst).Nodup → ∀ {peerId : PeerId} {info : PeerInfo}, state.1.peers.lookup peerId = some info →
      (∀ action ∈ actions, action.1 = peerId → action.2 = .banned → info.scoreState = .banned) →
      ∃ info', (actions.foldl step state).1.peers.lookup peerId = some info' ∧ info'.score = info.score
  | [], _, _, _, info, found, _ => ⟨info, found, rfl⟩
  | (other, action) :: rest, state, distinct, peerId, info, found, banned => by
    rw [List.map_cons, List.nodup_cons] at distinct
    obtain ⟨fresh, distinct⟩ := distinct
    rw [List.foldl_cons]
    by_cases same : peerId = other
    · subst same
      obtain ⟨info', written, score⟩ := applyScoreTransition_score found now action
        (banned _ (List.mem_cons_self _ _) rfl)
      have kept : (step state (peerId, action)).1.peers.lookup peerId = some info' := by
        rw [stepped]
        exact written
      obtain ⟨info'', final, score'⟩ := foldl_applyScoreTransition_score now step stepped rest _ distinct kept
        fun later member same => absurd (List.mem_map.mpr ⟨later, member, same⟩) fresh
      exact ⟨info'', final, score'.trans score⟩
    · have kept : (step state (other, action)).1.peers.lookup peerId = some info := by
        rw [stepped]
        exact (state.1.applyScoreTransition_lookup_ne same now action).trans found
      exact foldl_applyScoreTransition_score now step stepped rest _ distinct kept
        fun later member => banned later (List.mem_cons_of_mem _ member)

/-! ## The ranking -/

section Ranking

variable (db : PeerDB) (gossipsubScores : List (PeerId × Int))

/-- The ranking holds each connected peer with a gossipsub score, with its
record and that score, and nothing else. -/
theorem mem_gossipsubRanking {peerId : PeerId} {info : PeerInfo} {score : Int} :
    (peerId, info, score) ∈ db.gossipsubRanking gossipsubScores ↔
      db.peers.lookup peerId = some info ∧ info.isConnected = true ∧ gossipsubScores.lookup peerId = some score := by
  unfold gossipsubRanking
  rw [(List.mergeSort_perm _ _).mem_iff]
  simp only [List.mem_filterMap, List.mem_filter, Option.map_eq_some', Prod.mk.injEq]
  constructor
  · rintro ⟨⟨key, record⟩, ⟨member, connected⟩, found, scored, rfl, rfl, rfl⟩
    exact ⟨AList.mem_lookup_iff.mpr member, connected, scored⟩
  · rintro ⟨found, connected, scored⟩
    exact ⟨⟨peerId, info⟩, ⟨AList.mem_lookup_iff.mp found, connected⟩, score, scored, rfl, rfl, rfl⟩

/-- A `filterMap` that keeps each record's key keeps the keys distinct. -/
theorem keys_filterMap_nodup {γ : Type} (g : (Sigma fun _ : PeerId => PeerInfo) → Option γ) (key : γ → PeerId)
    (keyed : ∀ entry found, g entry = some found → key found = entry.1) :
    ∀ entries : List (Sigma fun _ : PeerId => PeerInfo), (entries.map Sigma.fst).Nodup →
      ((entries.filterMap g).map key).Nodup
  | [], _ => List.nodup_nil
  | entry :: rest, distinct => by
    rw [List.map_cons, List.nodup_cons] at distinct
    rw [List.filterMap_cons]
    cases kept : g entry with
    | none => exact keys_filterMap_nodup g key keyed rest distinct.2
    | some found =>
      rw [List.map_cons, List.nodup_cons]
      refine ⟨fun listed => distinct.1 ?_, keys_filterMap_nodup g key keyed rest distinct.2⟩
      obtain ⟨other, member, same⟩ := List.mem_map.mp listed
      obtain ⟨later, member, keptLater⟩ := List.mem_filterMap.mp member
      rw [keyed entry found kept, keyed later other keptLater] at same
      exact same ▸ List.mem_map_of_mem Sigma.fst member

/-- The ranking lists each peer once. -/
theorem gossipsubRanking_keys_nodup : ((db.gossipsubRanking gossipsubScores).map (·.1)).Nodup := by
  unfold gossipsubRanking
  refine (((List.mergeSort_perm _ _).map _).nodup_iff).mpr
    (keys_filterMap_nodup _ _ (fun entry found kept => ?_) _ ?_)
  · obtain ⟨score, -, rfl⟩ := Option.map_eq_some'.mp kept
    rfl
  · exact db.peers.nodupKeys.sublist (List.filter_sublist _)

/-- The ranking has one negative score for each connected peer with a negative
gossipsub score. -/
theorem negativeCount_gossipsubRanking :
    negativeCount (db.gossipsubRanking gossipsubScores) =
      (db.peers.entries.filter fun entry =>
        entry.2.isConnected && (gossipsubScores.lookup entry.1).any fun score => decide (score < 0)).length := by
  unfold negativeCount gossipsubRanking
  rw [((List.mergeSort_perm _ _).filter _).length_eq]
  generalize db.peers.entries = entries
  induction entries with
  | nil => rfl
  | cons entry rest ih =>
    cases connected : entry.2.isConnected
    · simpa [List.filter_cons, connected] using ih
    cases scored : gossipsubScores.lookup entry.1 with
    | none => simpa [List.filter_cons, List.filterMap_cons, connected, scored] using ih
    | some score =>
      by_cases negative : score < 0 <;> simp [List.filter_cons, List.filterMap_cons, connected, scored, negative, ih]

end Ranking

/-! ## The calls and the database returned -/

/-- The walk flags the ranked peers, in order. -/
theorem keys_ignoreFlags : (ignoreFlags toIgnore ranked).map (·.1) = ranked.map (·.1) := by
  conv_rhs => rw [← unflagged_ignoreFlags toIgnore ranked]
  simp only [unflagged, List.map_map]
  rfl

/-- A peer is flagged exactly when it is ranked, with its record and score. -/
theorem mem_ignoreFlags {peerId : PeerId} {info : PeerInfo} {score : Int} :
    (∃ ignore, (peerId, info, score, ignore) ∈ ignoreFlags toIgnore ranked) ↔ (peerId, info, score) ∈ ranked := by
  conv_rhs => rw [← unflagged_ignoreFlags toIgnore ranked]
  simp only [unflagged, List.mem_map, Prod.exists, Prod.mk.injEq]
  constructor
  · rintro ⟨ignore, member⟩
    exact ⟨_, _, _, ignore, member, rfl, rfl, rfl⟩
  · rintro ⟨_, _, _, ignore, member, rfl, rfl, rfl⟩
    exact ⟨ignore, member⟩

/-- In a list with distinct keys, the first element with an element's key is that element. -/
theorem find_key_eq_of_mem {α : Type} {l : List (PeerId × α)} (distinct : (l.map (·.1)).Nodup)
    {x : PeerId × α} (member : x ∈ l) : l.find? (·.1 = x.1) = some x := by
  induction l with
  | nil => cases member
  | cons y rest ih =>
    rw [List.map_cons, List.nodup_cons] at distinct
    rcases List.mem_cons.mp member with rfl | later
    · simp [List.find?_cons]
    · have other : y.1 ≠ x.1 := fun same => distinct.1 (same ▸ List.mem_map_of_mem _ later)
      simp [List.find?_cons, other, ih distinct.2 later]

/-- **`update_gossipsub_scores` spares the best negative scores.** The calls to
`update_gossipsub_score` are one for each connected peer with a gossipsub score,
with its record and that score, and the database returned holds each peer with
its new score and flag; exactly `min k n` of them are passed `ignore = true`,
where `k` is the budget and `n` the number of connected peers with a negative
score; each of them has a negative score, and no negative-scored peer passed
`ignore = false` has a higher score than one passed `ignore = true`. -/
theorem updateGossipsubScores_ignores_best_negative (db : PeerDB) (toIgnoreNegativePeers : Nat)
    (gossipsubScores : List (PeerId × Int)) (now : Instant) :
    let calls := db.gossipsubScoreCalls toIgnoreNegativePeers gossipsubScores
    (∀ peerId info score, (∃ ignore, (peerId, info, score, ignore) ∈ calls) ↔
      db.peers.lookup peerId = some info ∧ info.isConnected = true ∧ gossipsubScores.lookup peerId = some score) ∧
    (calls.map (·.1)).Nodup ∧
    (∀ call ∈ calls, ∃ info,
      (db.updateGossipsubScores toIgnoreNegativePeers gossipsubScores now).1.peers.lookup call.1 = some info ∧
        info.score = call.2.1.score.updateGossipsubScore call.2.2.1 call.2.2.2) ∧
    ignoredCount calls = min toIgnoreNegativePeers
      (db.peers.entries.filter fun entry =>
        entry.2.isConnected && (gossipsubScores.lookup entry.1).any fun score => decide (score < 0)).length ∧
    (∀ call ∈ calls, call.2.2.2 = true → call.2.2.1 < 0) ∧
    ∀ ignored ∈ calls, ∀ counted ∈ calls,
      ignored.2.2.2 = true → counted.2.2.2 = false → counted.2.2.1 < 0 → counted.2.2.1 ≤ ignored.2.2.1 := by
  intro calls
  have distinct : (calls.map (·.1)).Nodup := by
    simp only [calls, gossipsubScoreCalls, keys_ignoreFlags]
    exact gossipsubRanking_keys_nodup db gossipsubScores
  refine ⟨fun peerId info score => (mem_ignoreFlags _ _).trans (mem_gossipsubRanking db gossipsubScores),
    distinct, fun call member => ?_, ?_, ignoreFlags_negative _ _,
    ignoreFlags_spares_best _ _ (gossipsubRanking_sorted db gossipsubScores)⟩
  · obtain ⟨peerId, info, score, ignore⟩ := call
    obtain ⟨found, -, -⟩ := (mem_gossipsubRanking db gossipsubScores).mp ((mem_ignoreFlags _ _).mp ⟨ignore, member⟩)
    unfold updateGossipsubScores
    dsimp only
    refine @foldl_applyScoreTransition_score _ now _ (fun _ _ => ?_) _ _ ?_ peerId
      { info with score := info.score.updateGossipsubScore score ignore } ?_ ?_
    · rfl
    · rw [List.map_map]
      exact distinct
    · simp only [PeerMap.lookup_mapValues, found, Option.map_some']
      have first := find_key_eq_of_mem distinct member
      simp only [calls] at first
      rw [first]
    · intro action listed same banned
      obtain ⟨other, otherMember, rfl⟩ := List.mem_map.mp listed
      obtain rfl := List.inj_on_of_nodup_map distinct otherMember member same
      exact handleScoreTransition_banned banned
  · simp only [calls, gossipsubScoreCalls]
    rw [ignoredCount_ignoreFlags, negativeCount_gossipsubRanking]

end PeerDB

end Eth2Libp2p
