import Eth2Libp2p.PeerDB.Eviction

/-! # The peer database over runs

Runs of operations from `PeerDB::new`. The banned counter bounds the banned
peers in every reachable state (`PeerDB.run_bannedBounded`), so after every
`inject_disconnect` at most `MAX_BANNED_PEERS` peers are banned, whatever the
configuration (`PeerDB.injectDisconnect_within_limits`). The disconnected
counter is exact as long as no peer is ever trusted
(`PeerDB.run_disconnectedAgree`), and then at most `MAX_DC_PEERS` peers are
disconnected after every disconnect.

Trusted peers break both: the eviction loop skips them but lowers the counter
anyway. With scoring disabled every new peer is created trusted, and 501
disconnects of fresh peers leave 501 disconnected peers behind a counter of 500
(`PeerDB.freshDisconnects_disconnectedPeers`): the 501st disconnect returns with
more than `MAX_DC_PEERS` disconnected peers (`PeerDB.injectDisconnect_exceeds_limit`),
which the docstring of `shrink_to_fit` promises it never does.
-/

namespace Eth2Libp2p

namespace PeerDB

section Start

/-- A weight that vanishes on the trusted record vanishes on a new database. -/
theorem weight_new (f : PeerInfo → Nat) (onTrusted : f PeerInfo.trustedPeerInfo = 0)
    (trustedPeers : List PeerId) (disablePeerScoring : Bool) :
    weight f (new trustedPeers disablePeerScoring).peers = 0 := by
  suffices kept : ∀ (trustedPeers : List PeerId) (peers : PeerMap), weight f peers = 0 →
      weight f (trustedPeers.foldl (fun peers peerId => peers.insert peerId PeerInfo.trustedPeerInfo)
        peers) = 0 from kept trustedPeers ∅ (weight_empty f)
  intro trustedPeers
  induction trustedPeers with
  | nil => exact fun _ zero => zero
  | cons peerId rest ih =>
    intro peers zero
    have inserted := weight_insert f peers peerId PeerInfo.trustedPeerInfo
    rw [zero, onTrusted] at inserted
    exact ih _ (by dsimp only; omega)

theorem new_countersAgree (trustedPeers : List PeerId) (disablePeerScoring : Bool) :
    (new trustedPeers disablePeerScoring).CountersAgree :=
  ⟨(weight_new _ rfl _ _).symm, (weight_new _ rfl _ _).symm, fun _ => (weight_new _ rfl _ _).symm⟩

theorem new_noTrusted : (new [] false).NoTrusted :=
  ⟨rfl, fun _ member => absurd member (List.not_mem_nil _)⟩

end Start

section Steps

/-- `set_trusted_peer` writes one record and keeps its footprint. -/
theorem setTrustedPeer_eq_insert (db : PeerDB) (peerId : PeerId) :
    ∃ info, SameFootprint (db.entry peerId) info ∧
      db.setTrustedPeer peerId = { db with peers := db.peers.insert peerId info } := by
  unfold setTrustedPeer
  split
  · next info found =>
    exact ⟨_, by simp only [SameFootprint, entry, found, Option.getD_some, and_self], rfl⟩
  · next found => exact ⟨_, sameFootprint_entry_of_lookup_none found _ rfl rfl, rfl⟩

theorem step_bannedBounded {db : PeerDB} (now : Instant) (op : PeerDBOp) (bounded : db.BannedBounded) :
    (db.step now op).BannedBounded := by
  refine kept_bannedBounded.step now op (fun peerId inject => ?_) (fun peerId trust => ?_) bounded
  · subst inject
    exact injectDisconnect_bannedBounded peerId now bounded
  · subst trust
    obtain ⟨info, same, written⟩ := setTrustedPeer_eq_insert db peerId
    show (db.setTrustedPeer peerId).BannedBounded
    rw [written]
    exact bounded.insert_sameFootprint same

/-- Without `set_trusted_peer`, a database with no trusted peer keeps none, and
its disconnected counter stays exact. -/
theorem step_disconnectedAgree {db : PeerDB} (now : Instant) (op : PeerDBOp)
    (notTrust : ∀ peerId, op ≠ .setTrustedPeer peerId) (holds : db.NoTrusted)
    (agree : db.DisconnectedAgree) :
    (db.step now op).NoTrusted ∧ (db.step now op).DisconnectedAgree := by
  have trust : ∀ {P : PeerDB → Prop} peerId, op = .setTrustedPeer peerId → P (db.step now op) :=
    fun peerId same => absurd same (notTrust peerId)
  refine ⟨kept_noTrusted.step now op (fun peerId inject => ?_) trust holds,
    kept_disconnectedAgree.step now op (fun peerId inject => ?_) trust agree⟩
  · subst inject
    exact injectDisconnect_noTrusted peerId now holds
  · subst inject
    exact injectDisconnect_disconnectedAgree peerId now agree
      (kept_noTrusted.transition db peerId .disconnected now holds).untrustedDisconnected

end Steps

section Runs

theorem run_bannedBounded :
    ∀ (ops : List (Instant × PeerDBOp)) (db : PeerDB), db.BannedBounded → (db.run ops).BannedBounded
  | [], _, bounded => bounded
  | op :: ops, _, bounded => run_bannedBounded ops _ (step_bannedBounded op.1 op.2 bounded)

theorem run_disconnectedAgree :
    ∀ (ops : List (Instant × PeerDBOp)), (∀ op ∈ ops, ∀ peerId, op.2 ≠ .setTrustedPeer peerId) →
      ∀ db : PeerDB, db.NoTrusted → db.DisconnectedAgree →
        (db.run ops).NoTrusted ∧ (db.run ops).DisconnectedAgree
  | [], _, _, holds, agree => ⟨holds, agree⟩
  | op :: ops, notTrust, _, holds, agree =>
    have stepped := step_disconnectedAgree op.1 op.2 (notTrust op (List.mem_cons_self _ _)) holds agree
    run_disconnectedAgree ops (fun op member => notTrust op (List.mem_cons_of_mem _ member)) _
      stepped.1 stepped.2

/-- After every disconnect at most `MAX_BANNED_PEERS` peers are banned; when no
peer is ever trusted, at most `MAX_DC_PEERS` peers are disconnected. -/
theorem injectDisconnect_within_limits (trustedPeers : List PeerId) (disablePeerScoring : Bool)
    (ops : List (Instant × PeerDBOp)) (peerId : PeerId) (now : Instant) :
    let db := (((new trustedPeers disablePeerScoring).run ops).injectDisconnect peerId now).1
    count PeerInfo.isBanned db.peers ≤ MAX_BANNED_PEERS ∧
      (trustedPeers = [] → disablePeerScoring = false →
        (∀ op ∈ ops, ∀ peerId, op.2 ≠ .setTrustedPeer peerId) →
        count PeerInfo.isDisconnected db.peers ≤ MAX_DC_PEERS) := by
  intro db
  refine ⟨(injectDisconnect_bannedBounded peerId now (run_bannedBounded ops _
    (new_countersAgree _ _).bannedBounded)).trans (shrinkToFit_bannedPeers_le _),
    fun noneListed enabled notTrust => ?_⟩
  subst noneListed enabled
  obtain ⟨holds, agree⟩ :=
    run_disconnectedAgree ops notTrust _ new_noTrusted (new_countersAgree _ _).disconnectedAgree
  exact (injectDisconnect_disconnectedAgree peerId now agree (kept_noTrusted.transition _ peerId
    .disconnected now holds).untrustedDisconnected).symm.le.trans (shrinkToFit_disconnectedPeers_le _)

theorem injectDisconnect_within_limits_after_ban :
    let ops := [(0, .connectIngoing 1 (some 7)), (1, .reportPeer 1 .fatal)]
    let db := (((new [] false).run ops).injectDisconnect 1 2).1
    count PeerInfo.isBanned db.peers ≤ MAX_BANNED_PEERS ∧
      count PeerInfo.isDisconnected db.peers ≤ MAX_DC_PEERS :=
  ⟨(injectDisconnect_within_limits [] false _ 1 2).1,
    (injectDisconnect_within_limits [] false _ 1 2).2 rfl rfl (by simp)⟩

end Runs

section FreshDisconnects

/-- Disconnects of the fresh peers `0, 1, …, n - 1`, all at time zero. -/
def freshDisconnects (n : Nat) : List (Instant × PeerDBOp) :=
  (List.range n).map fun peerId => (0, .injectDisconnect peerId)

/-- The database after `n` fresh disconnects with scoring disabled: `n`
disconnected peers, all trusted, and a counter stuck at `MAX_DC_PEERS`. -/
structure FreshDisconnected (n : Nat) (db : PeerDB) : Prop where
  disabled : db.disablePeerScoring = true
  noneBanned : db.bannedPeersCount.bannedPeers = 0
  counter : db.disconnectedPeers = min n MAX_DC_PEERS
  disconnected : count PeerInfo.isDisconnected db.peers = n
  records : ∀ entry ∈ db.peers.entries, entry.1 < n ∧ entry.2.isTrusted = true

theorem untrustedDisconnectedSince_eq_nil {peers : PeerMap}
    (trusted : ∀ entry ∈ peers.entries, entry.2.isTrusted = true) : untrustedDisconnectedSince peers = [] := by
  unfold untrustedDisconnectedSince
  rw [List.filter_eq_nil_iff.mpr fun entry member => by simp [trusted entry member]]
  rfl

/-- With every record trusted, the second loop only lowers its counter. -/
theorem dropOldestDisconnected_of_trusted {db : PeerDB}
    (trusted : ∀ entry ∈ db.peers.entries, entry.2.isTrusted = true) :
    db.dropOldestDisconnected = { db with disconnectedPeers := db.disconnectedPeers - 1 } := by
  unfold dropOldestDisconnected
  rw [untrustedDisconnectedSince_eq_nil trusted]
  rfl

/-- With every record trusted, the second loop evicts nobody and only brings its
counter down to `MAX_DC_PEERS`. -/
theorem removeExcessDisconnected_of_trusted {db : PeerDB}
    (trusted : ∀ entry ∈ db.peers.entries, entry.2.isTrusted = true) :
    db.removeExcessDisconnected = { db with disconnectedPeers := min db.disconnectedPeers MAX_DC_PEERS } := by
  obtain ⟨k, result, floor, within⟩ := removeExcessDisconnected_induction
    (fun cur => ∃ k, cur = { db with disconnectedPeers := k } ∧
      min db.disconnectedPeers MAX_DC_PEERS ≤ k ∧ k ≤ db.disconnectedPeers)
    (fun _ ⟨k, same, floor, within⟩ over => by
      subst same
      have over : MAX_DC_PEERS < k := over
      rw [@dropOldestDisconnected_of_trusted { db with disconnectedPeers := k } trusted]
      exact ⟨k - 1, rfl, by omega, by omega⟩)
    db ⟨db.disconnectedPeers, rfl, Nat.min_le_left _ _, le_rfl⟩
  have stopped := removeExcessDisconnected_disconnectedPeers_le db
  rw [result] at stopped ⊢
  rw [show k = min db.disconnectedPeers MAX_DC_PEERS from Nat.le_antisymm (Nat.le_min.mpr ⟨within, stopped⟩) floor]

theorem FreshDisconnected.inject {n : Nat} {db : PeerDB} (fresh : FreshDisconnected n db) :
    FreshDisconnected (n + 1) (db.injectDisconnect n 0).1 := by
  have absent : db.peers.lookup n = none := by
    cases found : db.peers.lookup n with
    | none => rfl
    | some info => exact absurd (fresh.records ⟨n, info⟩ (AList.mem_lookup_iff.mp found)).1 (Nat.lt_irrefl n)
  have created : db.entry n = PeerInfo.trustedPeerInfo := by
    rw [entry, absent, Option.getD_none, fresh.disabled]; rfl
  let info := { PeerInfo.trustedPeerInfo with connectionStatus := .disconnected 0 }
  have transitioned : (db.updateConnectionState n .disconnected 0).1 =
      db.write n info (db.disconnectedPeers + 1) db.bannedPeersCount := by
    unfold updateConnectionState banAdjusted
    rw [created]
    rfl
  let written := db.write n info (db.disconnectedPeers + 1) db.bannedPeersCount
  have counted := weight_insert (fun info => info.isDisconnected.toNat) db.peers n info
  simp only [entryWeight, absent, Option.map_none', Option.getD_none] at counted
  have disconnected : count PeerInfo.isDisconnected written.peers = n + 1 := by
    have one : info.isDisconnected.toNat = 1 := rfl
    have before := fresh.disconnected
    unfold count at before
    show weight (fun info => info.isDisconnected.toNat) (db.peers.insert n info) = n + 1
    omega
  have records : ∀ entry ∈ written.peers.entries, entry.1 < n + 1 ∧ entry.2.isTrusted = true := by
    intro entry member
    rw [write_peers, AList.insert_entries] at member
    rcases List.mem_cons.mp member with rfl | member
    · exact ⟨Nat.lt_succ_self n, rfl⟩
    · have old := fresh.records entry ((List.kerase_sublist _ _).subset member)
      exact ⟨Nat.lt_succ_of_lt old.1, old.2⟩
  have banned : written.bannedPeersCount.bannedPeers ≤ MAX_BANNED_PEERS := by
    rw [show written.bannedPeersCount = db.bannedPeersCount from rfl, fresh.noneBanned]
    exact Nat.zero_le _
  have counter : written.disconnectedPeers = min n 500 + 1 := congrArg (· + 1) fresh.counter
  unfold injectDisconnect shrinkToFit
  dsimp only
  rw [transitioned, removeExcessBanned_of_le [] banned,
    removeExcessDisconnected_of_trusted fun entry member => (records entry member).2]
  exact ⟨fresh.disabled, fresh.noneBanned, show min written.disconnectedPeers 500 = min (n + 1) 500 by omega,
    disconnected, records⟩

theorem freshDisconnects_state : ∀ n, FreshDisconnected n ((new [] true).run (freshDisconnects n))
  | 0 => ⟨rfl, rfl, rfl, weight_new _ rfl _ _, fun _ member => absurd member (List.not_mem_nil _)⟩
  | n + 1 => by
    rw [freshDisconnects, List.range_succ, List.map_append, run_append]
    exact (freshDisconnects_state n).inject

/-- With scoring disabled, 501 disconnects of fresh peers leave 501 disconnected
peers and a disconnected counter of 500. -/
theorem freshDisconnects_disconnectedPeers :
    ((new [] true).run (freshDisconnects 501)).disconnectedPeers = 500 ∧
      count PeerInfo.isDisconnected ((new [] true).run (freshDisconnects 501)).peers = 501 :=
  ⟨(freshDisconnects_state 501).counter, (freshDisconnects_state 501).disconnected⟩

/-- The 501st fresh disconnect leaves more than `MAX_DC_PEERS` disconnected peers. -/
theorem injectDisconnect_exceeds_limit :
    MAX_DC_PEERS <
      count PeerInfo.isDisconnected (((new [] true).run (freshDisconnects 500)).injectDisconnect 500 0).1.peers := by
  rw [(freshDisconnects_state 500).inject.disconnected]
  decide

end FreshDisconnects

end PeerDB

end Eth2Libp2p
