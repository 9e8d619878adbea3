import Eth2Libp2p.PeerDB.Invariants

/-! # Bounds after eviction

What `inject_disconnect` guarantees once its eviction loops have run. Both loops
stop on their counters (`PeerDB.shrinkToFit_bannedPeers_le`,
`PeerDB.shrinkToFit_disconnectedPeers_le`). The banned counter always bounds
the banned peers (`PeerDB.run_bannedBounded`), so after every disconnect at most
`MAX_BANNED_PEERS` peers are banned. The disconnected counter counts the
disconnected peers only while no disconnected peer is trusted: the second loop
never drops a trusted peer, yet lowers the counter on every iteration
(`PeerDB.run_disconnectedAgree`).
-/

namespace Eth2Libp2p

namespace PeerDB

section Loops

/-- What every iteration of the first eviction loop keeps, the loop keeps. -/
theorem removeExcessBanned_induction (P : PeerDB → Prop)
    (step : ∀ (db : PeerDB) unbannedPeers, P db →
      MAX_BANNED_PEERS < db.bannedPeersCount.bannedPeers → P (db.dropOldestBanned unbannedPeers).1)
    (db : PeerDB) (unbannedPeers : List (PeerId × List IpAddr)) (holds : P db) :
    P (db.removeExcessBanned unbannedPeers).1 := by
  unfold removeExcessBanned
  generalize db.bannedPeersCount.bannedPeers = fuel
  induction fuel generalizing db unbannedPeers with
  | zero => exact holds
  | succ fuel ih =>
    rw [removeExcessBannedFuel]
    split
    · next over => exact ih _ _ (step db unbannedPeers holds over)
    · exact holds

/-- What every iteration of the second eviction loop keeps, the loop keeps. -/
theorem removeExcessDisconnected_induction (P : PeerDB → Prop)
    (step : ∀ db : PeerDB, P db → MAX_DC_PEERS < db.disconnectedPeers → P db.dropOldestDisconnected)
    (db : PeerDB) (holds : P db) : P db.removeExcessDisconnected := by
  unfold removeExcessDisconnected
  generalize db.disconnectedPeers = fuel
  induction fuel generalizing db with
  | zero => exact holds
  | succ fuel ih =>
    rw [removeExcessDisconnectedFuel]
    split
    · next over => exact ih _ (step db holds over)
    · exact holds

/-- The first loop stops within its limit. -/
theorem removeExcessBanned_bannedPeers_le (db : PeerDB) (unbannedPeers : List (PeerId × List IpAddr)) :
    (db.removeExcessBanned unbannedPeers).1.bannedPeersCount.bannedPeers ≤ MAX_BANNED_PEERS := by
  suffices bounded : ∀ fuel (db : PeerDB) unbannedPeers, db.bannedPeersCount.bannedPeers ≤ fuel →
      (removeExcessBannedFuel fuel db unbannedPeers).1.bannedPeersCount.bannedPeers ≤ MAX_BANNED_PEERS from
    bounded _ db unbannedPeers le_rfl
  intro fuel
  induction fuel with
  | zero => intro db _ spent; simp only [removeExcessBannedFuel]; omega
  | succ fuel ih =>
    intro db unbannedPeers spent
    rw [removeExcessBannedFuel]
    split
    · next over =>
      have lower := dropOldestBanned_bannedPeers_lt unbannedPeers over
      exact ih _ _ (by omega)
    · next within => exact Nat.le_of_not_lt within

/-- The second loop stops within its limit. -/
theorem removeExcessDisconnected_disconnectedPeers_le (db : PeerDB) :
    db.removeExcessDisconnected.disconnectedPeers ≤ MAX_DC_PEERS := by
  suffices bounded : ∀ fuel (db : PeerDB), db.disconnectedPeers ≤ fuel →
      (removeExcessDisconnectedFuel fuel db).disconnectedPeers ≤ MAX_DC_PEERS from bounded _ db le_rfl
  intro fuel
  induction fuel with
  | zero => intro db spent; simp only [removeExcessDisconnectedFuel]; omega
  | succ fuel ih =>
    intro db spent
    rw [removeExcessDisconnectedFuel]
    split
    · exact ih _ (by simp only [dropOldestDisconnected]; omega)
    · next within => exact Nat.le_of_not_lt within

theorem removeExcessDisconnected_bannedPeersCount (db : PeerDB) :
    db.removeExcessDisconnected.bannedPeersCount = db.bannedPeersCount :=
  removeExcessDisconnected_induction (fun later => later.bannedPeersCount = db.bannedPeersCount)
    (fun _ same _ => same) db rfl

end Loops

section Shrink

variable {db : PeerDB}

theorem shrinkToFit_bannedPeers_le (db : PeerDB) :
    db.shrinkToFit.1.bannedPeersCount.bannedPeers ≤ MAX_BANNED_PEERS := by
  unfold shrinkToFit
  rw [removeExcessDisconnected_bannedPeersCount]
  exact removeExcessBanned_bannedPeers_le db []

theorem shrinkToFit_disconnectedPeers_le (db : PeerDB) :
    db.shrinkToFit.1.disconnectedPeers ≤ MAX_DC_PEERS :=
  removeExcessDisconnected_disconnectedPeers_le _

theorem shrinkToFit_bannedBounded (bounded : db.BannedBounded) : db.shrinkToFit.1.BannedBounded :=
  removeExcessDisconnected_induction _ (fun _ holds _ => dropOldestDisconnected_bannedBounded holds) _
    (removeExcessBanned_induction _ (fun _ unbannedPeers holds _ =>
      dropOldestBanned_bannedBounded unbannedPeers holds) db [] bounded)

/-- Eviction keeps the disconnected counter exact when no disconnected peer is trusted. -/
theorem shrinkToFit_disconnectedAgree (agree : db.DisconnectedAgree)
    (untrusted : db.UntrustedDisconnected) : db.shrinkToFit.1.DisconnectedAgree := by
  have banned := removeExcessBanned_induction (fun db => db.DisconnectedAgree ∧ db.UntrustedDisconnected)
    (fun _ unbannedPeers holds _ => ⟨dropOldestBanned_disconnectedAgree unbannedPeers holds.1,
      dropOldestBanned_untrustedDisconnected unbannedPeers holds.2⟩) db [] ⟨agree, untrusted⟩
  exact (removeExcessDisconnected_induction (fun db => db.DisconnectedAgree ∧ db.UntrustedDisconnected)
    (fun _ holds over => ⟨dropOldestDisconnected_disconnectedAgree holds.1 holds.2 over,
      dropOldestDisconnected_untrustedDisconnected holds.2⟩) _ banned).1

theorem injectDisconnect_bannedBounded (peerId : PeerId) (now : Instant) (bounded : db.BannedBounded) :
    (db.injectDisconnect peerId now).1.BannedBounded :=
  shrinkToFit_bannedBounded (updateConnectionState_bannedBounded peerId .disconnected now bounded)

theorem injectDisconnect_disconnectedAgree (peerId : PeerId) (now : Instant) (agree : db.DisconnectedAgree)
    (untrusted : (db.updateConnectionState peerId .disconnected now).1.UntrustedDisconnected) :
    (db.injectDisconnect peerId now).1.DisconnectedAgree :=
  shrinkToFit_disconnectedAgree (updateConnectionState_disconnectedAgree peerId .disconnected now agree)
    untrusted

end Shrink

section Trust

theorem transition_isTrusted (info : PeerInfo) (dc : Nat) (counts : BannedPeersCount)
    (newState : NewConnectionState) (now : Instant) :
    (transition info dc counts newState now).1.isTrusted = info.isTrusted := by
  unfold transition PeerInfo.connect PeerInfo.setDialingPeer PeerInfo.setConnectionStatus
    PeerInfo.clearSubnets
  cases newState <;> dsimp only <;> split <;> (try split) <;> rfl

/-- No record is trusted, and an unknown peer gets a record that is not trusted. -/
def NoTrusted (db : PeerDB) : Prop :=
  db.disablePeerScoring = false ∧ ∀ entry ∈ db.peers.entries, entry.2.isTrusted = false

variable {db : PeerDB}

theorem NoTrusted.untrustedDisconnected (holds : db.NoTrusted) : db.UntrustedDisconnected :=
  fun entry member _ => holds.2 entry member

theorem NoTrusted.entry_isTrusted (holds : db.NoTrusted) (peerId : PeerId) :
    (db.entry peerId).isTrusted = false := by
  unfold entry
  cases found : db.peers.lookup peerId with
  | none => rw [Option.getD_none, holds.1]; rfl
  | some info => exact holds.2 ⟨peerId, info⟩ (AList.mem_lookup_iff.mp found)

theorem NoTrusted.write (holds : db.NoTrusted) {peerId : PeerId} {info : PeerInfo}
    (untrusted : info.isTrusted = false) (dc : Nat) (counts : BannedPeersCount) :
    (db.write peerId info dc counts).NoTrusted := by
  refine ⟨holds.1, fun entry member => ?_⟩
  rw [write_peers, AList.insert_entries] at member
  rcases List.mem_cons.mp member with rfl | member
  · exact untrusted
  · exact holds.2 entry ((List.kerase_sublist _ _).subset member)

theorem kept_noTrusted : Kept NoTrusted where
  transition db peerId newState now holds := by
    rw [updateConnectionState_fst]
    exact holds.write (by rw [transition_isTrusted, banAdjusted_isTrusted, holds.entry_isTrusted]) _ _
  write db peerId info holds _ trust := by
    refine holds.write (Bool.eq_false_iff.mpr fun trusted => ?_) db.disconnectedPeers db.bannedPeersCount
    have entryTrusted := trust trusted
    rw [holds.entry_isTrusted] at entryTrusted
    cases entryTrusted
  mapValues db f holds same := by
    refine ⟨holds.1, fun entry member => ?_⟩
    obtain ⟨⟨key, record⟩, present, rfl⟩ := List.mem_map.mp member
    rw [(same key record).2]
    exact holds.2 _ present

theorem shrinkToFit_noTrusted (holds : db.NoTrusted) : db.shrinkToFit.1.NoTrusted := by
  have erase : ∀ {db : PeerDB} {peers : PeerMap}, db.NoTrusted → List.Sublist peers.entries db.peers.entries →
      NoTrusted { db with peers } := fun holds sub =>
    ⟨holds.1, fun entry member => holds.2 entry (sub.subset member)⟩
  refine removeExcessDisconnected_induction _ (fun db holds _ => ?_) _
    (removeExcessBanned_induction _ (fun db _ holds _ => ?_) db [] holds)
  · unfold dropOldestDisconnected
    split
    · exact erase holds (List.kerase_sublist _ _)
    · exact holds.1 ▸ erase holds (List.Sublist.refl _)
  · unfold dropOldestBanned
    split
    · exact erase holds (List.kerase_sublist _ _)
    · exact holds

theorem injectDisconnect_noTrusted (peerId : PeerId) (now : Instant) (holds : db.NoTrusted) :
    (db.injectDisconnect peerId now).1.NoTrusted :=
  shrinkToFit_noTrusted (kept_noTrusted.transition db peerId .disconnected now holds)

end Trust

end PeerDB

end Eth2Libp2p
