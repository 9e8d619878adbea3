import Eth2Libp2p.PeerManager.Discovery

/-! # The temporary bans

The peer manager keeps its temporary bans in an `LRUTimeCache`: a set of peers,
each with the time it entered, oldest first. The model keeps a list of pairs,
which stands for the cache only while no peer is in it twice
(`PeerManager.TemporaryBansDistinct`). A new temporary ban renews the peer's
entry (`raw_insert`), a permanent ban removes it (`raw_remove`) and the heartbeat
drops the entries whose timeout has passed (`remove_expired`); every other
handler leaves the list alone. So every move of the swarm keeps the list free of
repeats (`Swarm.Step.temporaryBansDistinct`), and so does every run
(`Swarm.temporaryBansDistinct_run`).
-/

namespace Eth2Libp2p

namespace PeerManager

/-- No peer is temporarily banned twice. -/
def TemporaryBansDistinct (pm : PeerManager) : Prop :=
  (pm.temporaryBannedPeers.map Prod.fst).Nodup

section Handlers

variable (pm : PeerManager)

@[simp] theorem push_temporaryBannedPeers (event : PeerManagerEvent) :
    (pm.push event).temporaryBannedPeers = pm.temporaryBannedPeers := rfl

@[simp] theorem dialPeer_temporaryBannedPeers (peerId : PeerId) :
    (pm.dialPeer peerId).temporaryBannedPeers = pm.temporaryBannedPeers := by
  unfold dialPeer
  split <;> rfl

@[simp] theorem injectPeerConnection_temporaryBannedPeers (peerId : PeerId) (now : Instant)
    (connecting : ConnectingType) :
    (pm.injectPeerConnection peerId now connecting).temporaryBannedPeers = pm.temporaryBannedPeers := by
  cases connecting <;> rfl

@[simp] theorem maintainPeerCount_temporaryBannedPeers (limits : DiscoveryLimits) (dialingPeers : Nat) :
    (pm.maintainPeerCount limits dialingPeers).temporaryBannedPeers = pm.temporaryBannedPeers := by
  unfold maintainPeerCount
  split <;> rfl

@[simp] theorem foldl_dialPeer_temporaryBannedPeers (peerIds : List PeerId) :
    (peerIds.foldl (fun pm peerId => pm.dialPeer peerId) pm).temporaryBannedPeers = pm.temporaryBannedPeers := by
  induction peerIds generalizing pm with
  | nil => rfl
  | cons peerId rest ih => rw [List.foldl_cons, ih, dialPeer_temporaryBannedPeers]

@[simp] theorem foldl_disconnectPeer_temporaryBannedPeers (reason : GoodbyeReason) (now : Instant)
    (peerIds : List PeerId) :
    (peerIds.foldl (fun pm peerId => pm.disconnectPeer peerId reason now) pm).temporaryBannedPeers =
      pm.temporaryBannedPeers := by
  induction peerIds generalizing pm with
  | nil => rfl
  | cons peerId rest ih => exact ih _

@[simp] theorem peersDiscovered_temporaryBannedPeers (limits : DiscoveryLimits)
    (results : List (PeerId × Option Instant)) :
    (pm.peersDiscovered limits results).temporaryBannedPeers = pm.temporaryBannedPeers := by
  have walk := DiscoveryWalk.foldl_discoverPeer (Nat.le_max_left pm.maxPeers limits.maxPriorityPeers) results []
    (pm, 0) (fun _ _ _ => Nat.le_max_right _ _) (discoveryWalk_start pm _)
  have same := (congrArg PeerManager.temporaryBannedPeers walk.frame :)
  unfold peersDiscovered
  dsimp only
  split
  · exact same
  · rw [maintainPeerCount_temporaryBannedPeers]
    exact same

end Handlers

variable {pm : PeerManager}

/-- Dropping entries keeps the peers distinct. -/
theorem TemporaryBansDistinct.filter (distinct : pm.TemporaryBansDistinct) (keep : PeerId × Instant → Bool) :
    ((pm.temporaryBannedPeers.filter keep).map Prod.fst).Nodup :=
  distinct.sublist ((List.filter_sublist _).map _)

/-- A change that leaves the temporary bans alone keeps them distinct. -/
theorem TemporaryBansDistinct.of_eq (distinct : pm.TemporaryBansDistinct) {pm' : PeerManager}
    (same : pm'.temporaryBannedPeers = pm.temporaryBannedPeers) : pm'.TemporaryBansDistinct := by
  unfold TemporaryBansDistinct
  rw [same]
  exact distinct

theorem TemporaryBansDistinct.handleBanOperation (distinct : pm.TemporaryBansDistinct) (peerId : PeerId)
    (now : Instant) (reason : Option GoodbyeReason) (operation : BanOperation) :
    (pm.handleBanOperation peerId now reason operation).TemporaryBansDistinct := by
  cases operation with
  | temporaryBan =>
    simp only [PeerManager.handleBanOperation]
    split
    · have renewed : peerId ∉ (pm.temporaryBannedPeers.filter (·.1 ≠ peerId)).map Prod.fst := by
        simp only [List.mem_map, List.mem_filter, decide_eq_true_eq]
        rintro ⟨banned, ⟨-, other⟩, same⟩
        exact other same
      unfold TemporaryBansDistinct
      rw [List.map_append]
      exact List.nodup_append.mpr ⟨distinct.filter _, List.nodup_singleton _,
        List.disjoint_singleton.mpr renewed⟩
    · exact distinct
  | readyToBan bannedIps =>
    simp only [PeerManager.handleBanOperation]
    split
    · exact distinct.filter _
    · exact distinct
  | disconnectThePeer | peerDisconnecting => exact distinct

theorem TemporaryBansDistinct.handleScoreAction (distinct : pm.TemporaryBansDistinct) (peerId : PeerId)
    (now : Instant) (reason : Option GoodbyeReason) (result : ScoreUpdateResult) :
    (pm.handleScoreAction peerId now reason result).TemporaryBansDistinct := by
  cases result with
  | ban operation => exact distinct.handleBanOperation peerId now reason operation
  | disconnect | unbanned => exact distinct
  | noAction => exact distinct

theorem TemporaryBansDistinct.foldl_handleScoreAction (now : Instant) :
    ∀ (actions : List (PeerId × ScoreUpdateResult)) {pm : PeerManager}, pm.TemporaryBansDistinct →
      (actions.foldl (fun pm action => pm.handleScoreAction action.1 now none action.2) pm).TemporaryBansDistinct
  | [], _, distinct => distinct
  | action :: rest, _, distinct =>
    foldl_handleScoreAction now rest (distinct.handleScoreAction action.1 now none action.2)

theorem TemporaryBansDistinct.reportPeer (distinct : pm.TemporaryBansDistinct) (peerId : PeerId)
    (action : PeerAction) (reason : Option GoodbyeReason) (now : Instant) :
    (pm.reportPeer peerId action reason now).TemporaryBansDistinct := by
  unfold PeerManager.reportPeer
  apply TemporaryBansDistinct.handleScoreAction
  exact distinct

theorem TemporaryBansDistinct.injectDisconnect (distinct : pm.TemporaryBansDistinct) (peerId : PeerId)
    (now : Instant) : (pm.injectDisconnect peerId now).TemporaryBansDistinct := by
  unfold PeerManager.injectDisconnect
  dsimp only
  split
  · apply TemporaryBansDistinct.handleBanOperation
    exact distinct
  · exact distinct

theorem TemporaryBansDistinct.onConnectionClosed (distinct : pm.TemporaryBansDistinct) (peerId : PeerId)
    (remainingEstablished : Nat) (now : Instant) :
    (pm.onConnectionClosed peerId remainingEstablished now).TemporaryBansDistinct := by
  unfold PeerManager.onConnectionClosed
  split
  · exact distinct
  · dsimp only
    split
    · exact @TemporaryBansDistinct.injectDisconnect (pm.push _) distinct peerId now
    · exact distinct.injectDisconnect peerId now

theorem TemporaryBansDistinct.onDialFailure (distinct : pm.TemporaryBansDistinct) (peerId : Option PeerId)
    (now : Instant) : (pm.onDialFailure peerId now).TemporaryBansDistinct := by
  unfold PeerManager.onDialFailure
  split
  · split
    · exact distinct
    · exact distinct.injectDisconnect _ now
  · exact distinct

theorem TemporaryBansDistinct.onConnectionEstablished (distinct : pm.TemporaryBansDistinct) (peerId : PeerId)
    (now : Instant) (endpoint : ConnectedPoint) :
    (pm.onConnectionEstablished peerId now endpoint).TemporaryBansDistinct := by
  cases endpoint <;> exact distinct

/-- Every handler run on a request keeps the temporary bans distinct. -/
theorem Handles.temporaryBansDistinct {now : Instant} {pm' : PeerManager} (handled : pm.Handles now pm')
    (distinct : pm.TemporaryBansDistinct) : pm'.TemporaryBansDistinct := by
  cases handled with
  | unchanged => exact distinct
  | dialPeer => exact distinct.of_eq (dialPeer_temporaryBannedPeers _ _)
  | disconnectPeer => exact distinct
  | reportPeer => exact distinct.reportPeer _ _ _ _
  | updateGossipsubScores => exact @TemporaryBansDistinct.foldl_handleScoreAction now _ { pm with db := _ } distinct
  | markDialing => exact distinct.of_eq (injectPeerConnection_temporaryBannedPeers _ _ _ _)

/-- The heartbeat renews, removes and drops entries only. -/
theorem TemporaryBansDistinct.heartbeat (distinct : pm.TemporaryBansDistinct) (limits : DiscoveryLimits)
    (now elapsed : Nat) (peersToPrune : List PeerId) :
    ((pm.beforePruning limits now elapsed).afterPruning now peersToPrune).TemporaryBansDistinct := by
  have before : (pm.beforePruning limits now elapsed).TemporaryBansDistinct := by
    unfold beforePruning
    exact TemporaryBansDistinct.foldl_handleScoreAction now _
      (distinct.of_eq (by simp only [foldl_dialPeer_temporaryBannedPeers, maintainPeerCount_temporaryBannedPeers]))
  unfold afterPruning
  exact (before.of_eq (foldl_disconnectPeer_temporaryBannedPeers _ _ _ _)).filter _

end PeerManager

namespace Swarm

variable {sw sw' : Swarm}

/-- Every move of the swarm keeps the temporary bans distinct. -/
theorem Step.temporaryBansDistinct (move : Step sw sw') (distinct : sw.pm.TemporaryBansDistinct) :
    sw'.pm.TemporaryBansDistinct := by
  cases move with
  | notify _ now op stepped =>
    cases moves_of_step _ stepped with
    | establish _ peerId endpoint dialing => exact distinct.onConnectionEstablished peerId now endpoint
    | close peerId => exact distinct.onConnectionClosed peerId _ now
    | deliver => exact distinct
    | dialFailure | outboundFailure => exact distinct.onDialFailure _ now
    | popFailure peerId =>
      refine PeerManager.TemporaryBansDistinct.onDialFailure ?_ _ now
      exact distinct
    | handle _ pm dialing handled => exact handled.temporaryBansDistinct distinct
  | heartbeat limits now elapsed peersToPrune => exact distinct.heartbeat limits now elapsed peersToPrune
  | discovered limits results => exact distinct.of_eq (PeerManager.peersDiscovered_temporaryBannedPeers _ _ _)

/-- Every run of the swarm keeps the temporary bans distinct. -/
theorem temporaryBansDistinct_run (distinct : sw.pm.TemporaryBansDistinct)
    (moves : Relation.ReflTransGen Step sw sw') : sw'.pm.TemporaryBansDistinct := by
  induction moves with
  | refl => exact distinct
  | tail _ move reached => exact move.temporaryBansDistinct reached

end Swarm

end Eth2Libp2p
