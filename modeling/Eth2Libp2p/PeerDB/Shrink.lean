import Mathlib.Data.List.MinMax
import Eth2Libp2p.PeerDB.Transition

/-! # Bounded eviction

`PeerDB::shrink_to_fit` and `PeerDB::inject_disconnect`. After each disconnect
the database drops its oldest banned peers while the banned counter exceeds
`MAX_BANNED_PEERS`, and then its oldest non-trusted disconnected peers while the
disconnected counter exceeds `MAX_DC_PEERS`. Both loops are driven by the
counters, not by the map: the first one resets the counters when it finds no
banned peer, and the second one decrements its counter on every iteration,
whether or not it found a peer to remove.

`min_by_key` returns the first minimal element in iteration order, as
`List.argmin` does.
-/

namespace Eth2Libp2p

namespace PeerDB

/-- The banned peers with their ban times. -/
def bannedSince (peers : PeerMap) : List (PeerId × PeerInfo × Instant) :=
  peers.entries.filterMap fun entry =>
    match entry.2.connectionStatus with
    | .banned since => some (entry.1, entry.2, since)
    | _ => none

/-- The non-trusted disconnected peers with their disconnection times. -/
def untrustedDisconnectedSince (peers : PeerMap) : List (PeerId × Instant) :=
  (peers.entries.filter fun entry => entry.2.isDisconnected && !entry.2.isTrusted).filterMap
    fun entry =>
      match entry.2.connectionStatus with
      | .disconnected since => some (entry.1, since)
      | _ => none

/-- One iteration of the first loop of `shrink_to_fit`: drop the oldest banned
peer, collecting its addresses that are no longer banned; with no banned peer
(a coding error in the source) reset the counters, which ends the loop. -/
def dropOldestBanned (db : PeerDB) (unbannedPeers : List (PeerId × List IpAddr)) :
    PeerDB × List (PeerId × List IpAddr) :=
  match (bannedSince db.peers).argmin (·.2.2) with
  | some (toDrop, info, _) =>
    let counts := db.bannedPeersCount.removeBannedPeer info.seenIpAddresses
    let unbannedIps := info.seenIpAddresses.filter fun ip => !counts.ipIsBanned ip
    ({ db with peers := db.peers.erase toDrop, bannedPeersCount := counts },
      unbannedPeers ++ [(toDrop, unbannedIps)])
  | none => ({ db with bannedPeersCount := .default }, unbannedPeers)

/-- One iteration of the second loop of `shrink_to_fit`: drop the oldest
non-trusted disconnected peer if there is one, and decrement the counter in any
case. -/
def dropOldestDisconnected (db : PeerDB) : PeerDB :=
  let peers := match (untrustedDisconnectedSince db.peers).argmin (·.2) with
    | some (toDrop, _) => db.peers.erase toDrop
    | none => db.peers
  { db with peers, disconnectedPeers := db.disconnectedPeers - 1 }

/-- The first loop, run for at most `fuel` iterations. -/
def removeExcessBannedFuel : Nat → PeerDB → List (PeerId × List IpAddr) →
    PeerDB × List (PeerId × List IpAddr)
  | 0, db, unbannedPeers => (db, unbannedPeers)
  | fuel + 1, db, unbannedPeers =>
    if MAX_BANNED_PEERS < db.bannedPeersCount.bannedPeers then
      removeExcessBannedFuel fuel (db.dropOldestBanned unbannedPeers).1
        (db.dropOldestBanned unbannedPeers).2
    else (db, unbannedPeers)

/-- The second loop, run for at most `fuel` iterations. -/
def removeExcessDisconnectedFuel : Nat → PeerDB → PeerDB
  | 0, db => db
  | fuel + 1, db =>
    if MAX_DC_PEERS < db.disconnectedPeers then removeExcessDisconnectedFuel fuel db.dropOldestDisconnected
    else db

/-- The first loop of `shrink_to_fit`: `while banned_peers > MAX_BANNED_PEERS`.
Every iteration lowers the banned counter, so the counter bounds the number of
iterations (`removeExcessBanned_eq` is the loop's unfolding). -/
def removeExcessBanned (db : PeerDB) (unbannedPeers : List (PeerId × List IpAddr)) :
    PeerDB × List (PeerId × List IpAddr) :=
  removeExcessBannedFuel db.bannedPeersCount.bannedPeers db unbannedPeers

/-- The second loop of `shrink_to_fit`: `while disconnected_peers > MAX_DC_PEERS`.
Every iteration lowers the counter, so the counter bounds the number of
iterations (`removeExcessDisconnected_eq` is the loop's unfolding). -/
def removeExcessDisconnected (db : PeerDB) : PeerDB :=
  removeExcessDisconnectedFuel db.disconnectedPeers db

/-- `shrink_to_fit`: both eviction loops; returns the purged banned peers with
their unbanned addresses. -/
def shrinkToFit (db : PeerDB) : PeerDB × List (PeerId × List IpAddr) :=
  let banned := db.removeExcessBanned []
  (banned.1.removeExcessDisconnected, banned.2)

/-- `inject_disconnect`: the transition to `Disconnected`, then `shrink_to_fit`. -/
def injectDisconnect (db : PeerDB) (peerId : PeerId) (now : Instant) :
    PeerDB × Option BanOperation × List (PeerId × List IpAddr) :=
  let disconnected := db.updateConnectionState peerId .disconnected now
  let shrunk := disconnected.1.shrinkToFit
  (shrunk.1, disconnected.2, shrunk.2)

theorem dropOldestBanned_bannedPeers_lt {db : PeerDB} (unbannedPeers : List (PeerId × List IpAddr))
    (over : MAX_BANNED_PEERS < db.bannedPeersCount.bannedPeers) :
    (db.dropOldestBanned unbannedPeers).1.bannedPeersCount.bannedPeers <
      db.bannedPeersCount.bannedPeers := by
  unfold dropOldestBanned
  split <;> simp only [BannedPeersCount.removeBannedPeer_bannedPeers, BannedPeersCount.default] <;>
    omega

/-- Past the counter, more fuel changes nothing. -/
theorem removeExcessBannedFuel_succ :
    ∀ (fuel : Nat) (db : PeerDB) (unbannedPeers : List (PeerId × List IpAddr)),
      db.bannedPeersCount.bannedPeers ≤ fuel →
      removeExcessBannedFuel (fuel + 1) db unbannedPeers = removeExcessBannedFuel fuel db unbannedPeers
  | 0, db, unbannedPeers, enough => by
    have zero : db.bannedPeersCount.bannedPeers = 0 := Nat.le_zero.mp enough
    simp only [removeExcessBannedFuel, zero, Nat.not_lt_zero, if_false]
  | fuel + 1, db, unbannedPeers, enough => by
    by_cases over : MAX_BANNED_PEERS < db.bannedPeersCount.bannedPeers
    · have lower := dropOldestBanned_bannedPeers_lt unbannedPeers over
      simp only [removeExcessBannedFuel, over, if_true]
      exact removeExcessBannedFuel_succ fuel _ _ (by omega)
    · simp only [removeExcessBannedFuel, over, if_false]

theorem removeExcessBannedFuel_add (db : PeerDB) (unbannedPeers : List (PeerId × List IpAddr))
    (fuel : Nat) (enough : db.bannedPeersCount.bannedPeers ≤ fuel) :
    ∀ extra, removeExcessBannedFuel (fuel + extra) db unbannedPeers =
      removeExcessBannedFuel fuel db unbannedPeers
  | 0 => rfl
  | extra + 1 => by
    rw [← Nat.add_assoc, removeExcessBannedFuel_succ _ _ _ (by omega),
      removeExcessBannedFuel_add db unbannedPeers fuel enough extra]

/-- The first loop of `shrink_to_fit` is the `while` loop. -/
theorem removeExcessBanned_eq (db : PeerDB) (unbannedPeers : List (PeerId × List IpAddr)) :
    db.removeExcessBanned unbannedPeers =
      if MAX_BANNED_PEERS < db.bannedPeersCount.bannedPeers then
        (db.dropOldestBanned unbannedPeers).1.removeExcessBanned
          (db.dropOldestBanned unbannedPeers).2
      else (db, unbannedPeers) := by
  unfold removeExcessBanned
  by_cases over : MAX_BANNED_PEERS < db.bannedPeersCount.bannedPeers
  · have lower := dropOldestBanned_bannedPeers_lt unbannedPeers over
    obtain ⟨spent, counter⟩ : ∃ spent, db.bannedPeersCount.bannedPeers = spent + 1 :=
      ⟨db.bannedPeersCount.bannedPeers - 1, by omega⟩
    rw [if_pos over, counter, removeExcessBannedFuel, if_pos (counter ▸ over)]
    obtain ⟨extra, fuel⟩ := Nat.exists_eq_add_of_le (Nat.le_of_lt_succ (counter ▸ lower))
    rw [fuel, removeExcessBannedFuel_add _ _ _ le_rfl]
  · rw [if_neg over]
    cases counter : db.bannedPeersCount.bannedPeers with
    | zero => rfl
    | succ spent => rw [removeExcessBannedFuel, if_neg (counter ▸ over)]

theorem removeExcessDisconnectedFuel_succ :
    ∀ (fuel : Nat) (db : PeerDB), db.disconnectedPeers ≤ fuel →
      removeExcessDisconnectedFuel (fuel + 1) db = removeExcessDisconnectedFuel fuel db
  | 0, db, enough => by
    have zero : db.disconnectedPeers = 0 := Nat.le_zero.mp enough
    simp only [removeExcessDisconnectedFuel, zero, Nat.not_lt_zero, if_false]
  | fuel + 1, db, enough => by
    by_cases over : MAX_DC_PEERS < db.disconnectedPeers
    · simp only [removeExcessDisconnectedFuel, over, if_true]
      exact removeExcessDisconnectedFuel_succ fuel _ (by simp only [dropOldestDisconnected]; omega)
    · simp only [removeExcessDisconnectedFuel, over, if_false]

theorem removeExcessDisconnectedFuel_add (db : PeerDB) (fuel : Nat)
    (enough : db.disconnectedPeers ≤ fuel) :
    ∀ extra, removeExcessDisconnectedFuel (fuel + extra) db = removeExcessDisconnectedFuel fuel db
  | 0 => rfl
  | extra + 1 => by
    rw [← Nat.add_assoc, removeExcessDisconnectedFuel_succ _ _ (by omega),
      removeExcessDisconnectedFuel_add db fuel enough extra]

/-- The second loop of `shrink_to_fit` is the `while` loop. -/
theorem removeExcessDisconnected_eq (db : PeerDB) :
    db.removeExcessDisconnected =
      if MAX_DC_PEERS < db.disconnectedPeers then db.dropOldestDisconnected.removeExcessDisconnected
      else db := by
  unfold removeExcessDisconnected
  by_cases over : MAX_DC_PEERS < db.disconnectedPeers
  · have lower : db.dropOldestDisconnected.disconnectedPeers + 1 = db.disconnectedPeers := by
      simp only [dropOldestDisconnected]; omega
    rw [if_pos over, ← lower, removeExcessDisconnectedFuel, if_pos (lower ▸ over)]
  · rw [if_neg over]
    cases counter : db.disconnectedPeers with
    | zero => rfl
    | succ spent => rw [removeExcessDisconnectedFuel, if_neg (counter ▸ over)]

theorem removeExcessBanned_of_le {db : PeerDB} (unbannedPeers : List (PeerId × List IpAddr))
    (within : db.bannedPeersCount.bannedPeers ≤ MAX_BANNED_PEERS) :
    db.removeExcessBanned unbannedPeers = (db, unbannedPeers) := by
  rw [removeExcessBanned_eq, if_neg (Nat.not_lt.mpr within)]

theorem removeExcessDisconnected_of_le {db : PeerDB} (within : db.disconnectedPeers ≤ MAX_DC_PEERS) :
    db.removeExcessDisconnected = db := by
  rw [removeExcessDisconnected_eq, if_neg (Nat.not_lt.mpr within)]

end PeerDB

end Eth2Libp2p
