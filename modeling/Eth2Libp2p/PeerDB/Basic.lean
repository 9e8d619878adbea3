import Mathlib.Algebra.BigOperators.Group.List
import Mathlib.Algebra.Order.Ring.Nat
import Mathlib.Data.List.AList
import Eth2Libp2p.PeerDB.PeerInfo

/-! # The peer database

The state of `PeerDB` in `peerdb.rs`: the map from peer ids to records, the
counter of disconnected peers and the banned-peer counters
(`BannedPeersCount`), with the read-only queries the transitions and the peer
manager use.

The `HashMap` of records is an association list (`AList`), whose order stands
for the map's iteration order: a statement over every database is then a
statement over every iteration order. The per-IP `HashMap` of banned-peer
counts is a function that is zero off the map's keys, which is how the source
reads it ("0 when absent").

The counting lemmas at the end (`PeerDB.weight_insert`, `PeerDB.weight_erase`)
say how a sum over the records changes when one record is written or removed;
every counter invariant is derived from them.
-/

namespace Eth2Libp2p

/-- Max number of disconnected nodes to remember. -/
def MAX_DC_PEERS : Nat := 500

/-- The maximum number of banned nodes to remember. -/
def MAX_BANNED_PEERS : Nat := 1000

/-- We ban an IP if there are more than `BANNED_PEERS_PER_IP_THRESHOLD` banned peers with this IP. -/
def BANNED_PEERS_PER_IP_THRESHOLD : Nat := 5

/-- Counts banned peers in total and per IP (`BannedPeersCount`). -/
structure BannedPeersCount where
  bannedPeers : Nat
  bannedPeersPerIp : IpAddr → Nat

namespace BannedPeersCount

/-- `BannedPeersCount::default()`. -/
def default : BannedPeersCount := ⟨0, fun _ => 0⟩

/-- `remove_banned_peer`: saturating decrements of the total and of each address's count. -/
def removeBannedPeer (c : BannedPeersCount) (ipAddresses : List IpAddr) : BannedPeersCount where
  bannedPeers := c.bannedPeers - 1
  bannedPeersPerIp := ipAddresses.foldl
    (fun perIp address => Function.update perIp address (perIp address - 1)) c.bannedPeersPerIp

/-- `add_banned_peer`: increments of the total and of each address's count. -/
def addBannedPeer (c : BannedPeersCount) (ipAddresses : List IpAddr) : BannedPeersCount where
  bannedPeers := c.bannedPeers + 1
  bannedPeersPerIp := ipAddresses.foldl
    (fun perIp address => Function.update perIp address (perIp address + 1)) c.bannedPeersPerIp

/-- `ip_is_banned`, and membership in `banned_ips()`. -/
def ipIsBanned (c : BannedPeersCount) (ip : IpAddr) : Bool :=
  BANNED_PEERS_PER_IP_THRESHOLD < c.bannedPeersPerIp ip

theorem foldl_decrement_apply (ipAddresses : List IpAddr) (perIp : IpAddr → Nat) (ip : IpAddr) :
    ipAddresses.foldl (fun perIp address => Function.update perIp address (perIp address - 1))
      perIp ip = perIp ip - ipAddresses.count ip := by
  induction ipAddresses generalizing perIp with
  | nil => rfl
  | cons address rest ih =>
    rw [List.foldl_cons, ih]
    by_cases same : ip = address
    · subst same
      simp only [Function.update_same, List.count_cons_self, Nat.sub_sub, Nat.add_comm]
    · simp only [Function.update_noteq same, List.count_cons_of_ne same]

theorem foldl_increment_apply (ipAddresses : List IpAddr) (perIp : IpAddr → Nat) (ip : IpAddr) :
    ipAddresses.foldl (fun perIp address => Function.update perIp address (perIp address + 1))
      perIp ip = perIp ip + ipAddresses.count ip := by
  induction ipAddresses generalizing perIp with
  | nil => rfl
  | cons address rest ih =>
    rw [List.foldl_cons, ih]
    by_cases same : ip = address
    · subst same
      simp only [Function.update_same, List.count_cons_self]
      omega
    · simp only [Function.update_noteq same, List.count_cons_of_ne same]

@[simp] theorem removeBannedPeer_bannedPeersPerIp (c : BannedPeersCount) (ipAddresses : List IpAddr)
    (ip : IpAddr) :
    (c.removeBannedPeer ipAddresses).bannedPeersPerIp ip =
      c.bannedPeersPerIp ip - ipAddresses.count ip :=
  foldl_decrement_apply ipAddresses _ ip

@[simp] theorem addBannedPeer_bannedPeersPerIp (c : BannedPeersCount) (ipAddresses : List IpAddr)
    (ip : IpAddr) :
    (c.addBannedPeer ipAddresses).bannedPeersPerIp ip =
      c.bannedPeersPerIp ip + ipAddresses.count ip :=
  foldl_increment_apply ipAddresses _ ip

@[simp] theorem removeBannedPeer_bannedPeers (c : BannedPeersCount) (ipAddresses : List IpAddr) :
    (c.removeBannedPeer ipAddresses).bannedPeers = c.bannedPeers - 1 := rfl

@[simp] theorem addBannedPeer_bannedPeers (c : BannedPeersCount) (ipAddresses : List IpAddr) :
    (c.addBannedPeer ipAddresses).bannedPeers = c.bannedPeers + 1 := rfl

end BannedPeersCount

/-- The map of peer records. -/
abbrev PeerMap := AList fun _ : PeerId => PeerInfo

/-- Storage of known peers, their reputation and information (`PeerDB`). -/
structure PeerDB where
  peers : PeerMap
  disconnectedPeers : Nat
  bannedPeersCount : BannedPeersCount
  disablePeerScoring : Bool

/-- Why a peer is refused (`BanResult`). -/
inductive BanResult where
  | badScore
  | bannedIp (ip : IpAddr)
  deriving DecidableEq, Repr

namespace PeerDB

/-- `PeerDB::new`: the trusted peers, each with a trusted record, and zero counters. -/
def new (trustedPeers : List PeerId) (disablePeerScoring : Bool) : PeerDB where
  peers := trustedPeers.foldl (fun peers peerId => peers.insert peerId PeerInfo.trustedPeerInfo) ∅
  disconnectedPeers := 0
  bannedPeersCount := .default
  disablePeerScoring := disablePeerScoring

/-- `peer_info`. -/
def peerInfo (db : PeerDB) (peerId : PeerId) : Option PeerInfo := db.peers.lookup peerId

/-- `connection_status`. -/
def connectionStatus (db : PeerDB) (peerId : PeerId) : Option PeerConnectionStatus :=
  (db.peerInfo peerId).map PeerInfo.connectionStatus

/-- `is_connected`. -/
def isConnected (db : PeerDB) (peerId : PeerId) : Bool :=
  match db.connectionStatus peerId with
  | some (.connected ..) => true
  | _ => false

/-- `is_connected_or_disconnecting`. -/
def isConnectedOrDisconnecting (db : PeerDB) (peerId : PeerId) : Bool :=
  match db.connectionStatus peerId with
  | some (.connected ..) | some (.disconnecting ..) => true
  | _ => false

/-- `is_ip_banned`. -/
def isIpBanned (db : PeerDB) (ip : IpAddr) : Bool := db.bannedPeersCount.ipIsBanned ip

/-- `ip_is_banned`: the first of the peer's seen addresses that is banned. -/
def ipIsBanned (db : PeerDB) (peer : PeerInfo) : Option IpAddr :=
  peer.seenIpAddresses.find? db.isIpBanned

/-- `ban_status`: the peer's score state, then its addresses; not its connection status. -/
def banStatus (db : PeerDB) (peerId : PeerId) : Option BanResult :=
  (db.peerInfo peerId).bind fun peer =>
    match peer.scoreState with
    | .banned => some .badScore
    | _ => (db.ipIsBanned peer).map .bannedIp

/-- The record `update_connection_state` starts from: the stored one, or a new
one, trusted when peer scoring is disabled. -/
def entry (db : PeerDB) (peerId : PeerId) : PeerInfo :=
  (db.peers.lookup peerId).getD
    (if db.disablePeerScoring then PeerInfo.trustedPeerInfo else PeerInfo.default)

/-- The sum of `f` over the records of the map. -/
def weight (f : PeerInfo → Nat) (peers : PeerMap) : Nat :=
  (peers.entries.map fun entry => f entry.2).sum

/-- The value of `f` at one record, zero when the peer is absent. -/
def entryWeight (f : PeerInfo → Nat) (peers : PeerMap) (peerId : PeerId) : Nat :=
  ((peers.lookup peerId).map f).getD 0

/-- The number of records satisfying `p`. -/
def count (p : PeerInfo → Bool) (peers : PeerMap) : Nat := weight (fun info => (p info).toNat) peers

theorem sum_kerase (f : PeerInfo → Nat) (peerId : PeerId) :
    ∀ entries : List (Sigma fun _ : PeerId => PeerInfo),
      ((entries.kerase peerId).map fun entry => f entry.2).sum +
          ((entries.dlookup peerId).map f).getD 0 =
        (entries.map fun entry => f entry.2).sum
  | [] => rfl
  | ⟨key, info⟩ :: rest => by
    by_cases same : peerId = key
    · subst same
      simp only [List.kerase_cons_eq, List.dlookup_cons_eq, List.map_cons, List.sum_cons,
        Option.map_some', Option.getD_some]
      omega
    · have ih := sum_kerase f peerId rest
      have kept : List.kerase peerId (⟨key, info⟩ :: rest) = ⟨key, info⟩ :: rest.kerase peerId :=
        List.kerase_cons_ne same
      have found : List.dlookup peerId (⟨key, info⟩ :: rest) = rest.dlookup peerId :=
        List.dlookup_cons_ne rest ⟨key, info⟩ same
      simp only [kept, found, List.map_cons, List.sum_cons]
      omega

/-- Removing a record takes its value out of the sum. -/
theorem weight_erase (f : PeerInfo → Nat) (peers : PeerMap) (peerId : PeerId) :
    weight f (peers.erase peerId) + entryWeight f peers peerId = weight f peers :=
  sum_kerase f peerId peers.entries

/-- Writing a record replaces the old record's value in the sum by the new one's. -/
theorem weight_insert (f : PeerInfo → Nat) (peers : PeerMap) (peerId : PeerId) (info : PeerInfo) :
    weight f (peers.insert peerId info) + entryWeight f peers peerId = weight f peers + f info := by
  have erased := sum_kerase f peerId peers.entries
  simp only [weight, entryWeight, AList.insert_entries, List.map_cons, List.sum_cons] at erased ⊢
  change _ + ((peers.entries.dlookup peerId).map f).getD 0 = _
  omega

theorem weight_empty (f : PeerInfo → Nat) : weight f ∅ = 0 := rfl

end PeerDB

end Eth2Libp2p
