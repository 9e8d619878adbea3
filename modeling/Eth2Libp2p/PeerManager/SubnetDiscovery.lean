import Eth2Libp2p.PeerDB.OpenPeers

/-! # Subnet discovery and the long-lived sync committee subnets

When the node needs peers on a subnet (a validator duty), the service asks for
them with `discover_subnet_peers`: each request first keeps the connected peers
already on the subnet until the request's time (`extend_peers_on_subnet`) and,
for a sync committee subnet, records the subnet among the peer manager's
long-lived ones (`add_sync_subnet`); the requests of the subnets with fewer
good peers than `target_subnet_peers` then go to discovery. At every heartbeat
`maintain_sync_committee_peers` drops the long-lived subnets whose time has
passed and asks again for the others that are short of good peers.

The main results:
* `SubnetState.heartbeat_requests_iff`: after any run of requests, heartbeats no
  later than `now` and changes to the peer database, the heartbeat at `now` asks
  for a sync committee subnet exactly when the latest time requested for it is
  after `now` and it has fewer good peers than the target, and it asks until
  that latest time;
* `SubnetState.discoverSubnetPeers_keeps_peers`: after `discover_subnet_peers`,
  every connected peer on a requested subnet has a duty until the request's
  time, whatever the requests after it;
* `SubnetState.discoverSubnetPeers_heartbeat_requests`: when the service hands
  the heartbeat's request back to `discover_subnet_peers` (`inject_pm_event`),
  the long-lived sync committee subnets stay as the heartbeat left them.

Which peers a peer's metadata puts on a subnet (`on_subnet_metadata`) and whether
its gossipsub score is good (`is_good_gossipsub_peer`) are read in
`peer_info.rs`, which is not among the sources: they are a parameter
(`SubnetView`). `dial_cached_enrs_in_subnet` (dialing the discovery's cached
records on the subnet) and the logs are left out; the dials only reach peers
that are not connected, so they change neither the good peers counted nor the
peers whose time is extended.
-/

namespace Eth2Libp2p

/-- A request for peers on a subnet (`SubnetDiscovery`): until when they are
wanted, if the request says. -/
structure SubnetDiscovery where
  subnet : Subnet
  minTtl : Option Instant
  deriving DecidableEq, Repr

/-- The time a request asks peers on a sync committee subnet for: its time, if it
is for that subnet and has one. -/
def SubnetDiscovery.syncDeadline (subnetId : Nat) (request : SubnetDiscovery) : Option Instant :=
  if request.subnet = .syncCommittee subnetId then request.minTtl else none

/-- What `peer_info.rs` tells about a peer on a subnet: whether its metadata
puts it there (`on_subnet_metadata`) and whether its gossipsub score is good
(`is_good_gossipsub_peer`). -/
structure SubnetView where
  onSubnetMetadata : PeerId → Subnet → Bool
  isGoodGossipsubPeer : PeerInfo → Bool

namespace PeerInfo

/-- `on_subnet_gossipsub`: the peer is subscribed to the subnet's topic. -/
def onSubnetGossipsub (subnet : Subnet) (info : PeerInfo) : Bool := info.subnets.contains subnet

/-- The update of `extend_peers_on_subnet`: the peer is kept until `minTtl` if it
had no time or an earlier one (`Some(&min_ttl) > info.min_ttl()`). -/
def raiseMinTtl (minTtl : Instant) (info : PeerInfo) : PeerInfo :=
  match info.minTtl with
  | some current => if current < minTtl then { info with minTtl := some minTtl } else info
  | none => { info with minTtl := some minTtl }

@[simp] theorem connectionStatus_raiseMinTtl (minTtl : Instant) (info : PeerInfo) :
    (info.raiseMinTtl minTtl).connectionStatus = info.connectionStatus := by
  unfold raiseMinTtl
  split <;> [split <;> rfl; rfl]

@[simp] theorem subnets_raiseMinTtl (minTtl : Instant) (info : PeerInfo) :
    (info.raiseMinTtl minTtl).subnets = info.subnets := by
  unfold raiseMinTtl
  split <;> [split <;> rfl; rfl]

/-- After the update the peer is kept at least until `minTtl`, and at least until
any time it was kept until before. -/
theorem minTtl_raiseMinTtl (minTtl : Instant) (info : PeerInfo) :
    ∃ kept, (info.raiseMinTtl minTtl).minTtl = some kept ∧ minTtl ≤ kept ∧
      ∀ current, info.minTtl = some current → current ≤ kept := by
  unfold raiseMinTtl
  split
  case h_1 current before =>
    simp only [before, Option.some.injEq, forall_eq']
    split
    · exact ⟨minTtl, rfl, le_rfl, Nat.le_of_lt ‹_›⟩
    · exact ⟨current, before, Nat.le_of_not_lt ‹_›, le_rfl⟩
  case h_2 before => simp [before]

end PeerInfo

namespace PeerDB

/-- `good_peers_on_subnet`: the connected peers on the subnet by their metadata
and by their gossipsub subscriptions, whose gossipsub score is good. -/
def goodPeersOnSubnet (view : SubnetView) (subnet : Subnet) (db : PeerDB) : List PeerId :=
  (db.peers.entries.filter fun entry =>
    entry.2.isConnected && view.onSubnetMetadata entry.1 subnet &&
      entry.2.onSubnetGossipsub subnet && view.isGoodGossipsubPeer entry.2).map (·.1)

/-- `extend_peers_on_subnet`: every connected peer on the subnet by its metadata
and its gossipsub subscriptions is kept at least until `minTtl`. -/
def extendPeersOnSubnet (view : SubnetView) (subnet : Subnet) (minTtl : Instant) (db : PeerDB) :
    PeerDB :=
  { db with peers := db.peers.mapValues fun peerId info =>
      if info.isConnected && view.onSubnetMetadata peerId subnet && info.onSubnetGossipsub subnet then
        info.raiseMinTtl minTtl
      else info }

end PeerDB

/-- The peer manager's `sync_committee_subnets`: for each long-lived sync
committee subnet, the time until which peers on it are wanted. -/
abbrev SyncCommitteeSubnets := AList fun _ : Nat => Instant

namespace SyncCommitteeSubnets

/-- `add_sync_subnet`: a new subnet is added with its time; a known one takes the
new time only if it is later. -/
def addSyncSubnet (subnetId : Nat) (minTtl : Instant) (subnets : SyncCommitteeSubnets) :
    SyncCommitteeSubnets :=
  match subnets.lookup subnetId with
  | none => subnets.insert subnetId minTtl
  | some old => if old < minTtl then subnets.insert subnetId minTtl else subnets

/-- `HashMap::retain`: the subnets whose entry passes `keep`. -/
def retain (keep : Nat → Instant → Bool) (subnets : SyncCommitteeSubnets) : SyncCommitteeSubnets :=
  ⟨subnets.entries.filter fun entry => keep entry.1 entry.2,
    subnets.nodupKeys.sublist (List.filter_sublist _)⟩

/-- A known subnet keeps the later of its two times. -/
theorem lookup_addSyncSubnet (subnetId other : Nat) (minTtl : Instant)
    (subnets : SyncCommitteeSubnets) :
    (addSyncSubnet subnetId minTtl subnets).lookup other =
      if other = subnetId then some (((subnets.lookup subnetId).map (max · minTtl)).getD minTtl)
      else subnets.lookup other := by
  unfold addSyncSubnet
  by_cases same : other = subnetId
  · subst same
    cases present : subnets.lookup other with
    | none => simp
    | some old =>
      by_cases later : old < minTtl
      · simp [later, max_eq_right (Nat.le_of_lt later)]
      · simp [later, present, max_eq_left (Nat.le_of_not_lt later)]
  · cases subnets.lookup subnetId with
    | none => simp [AList.lookup_insert_ne same, same]
    | some old => by_cases later : old < minTtl <;> simp [later, AList.lookup_insert_ne same, same]

theorem lookup_retain (keep : Nat → Instant → Bool) (subnets : SyncCommitteeSubnets) (subnetId : Nat) :
    (retain keep subnets).lookup subnetId = (subnets.lookup subnetId).filter (keep subnetId) := by
  refine Option.ext fun deadline => ?_
  rw [Option.mem_filter_iff, AList.mem_lookup_iff, AList.mem_lookup_iff]
  simp [retain, and_comm]

end SyncCommitteeSubnets

/-- The state the subnet requests work on: the peer database and the peer
manager's long-lived sync committee subnets. -/
structure SubnetState where
  db : PeerDB
  syncCommitteeSubnets : SyncCommitteeSubnets

namespace SubnetState

variable (view : SubnetView) (targetSubnetPeers : Nat)

/-- What the closure `discover_subnet_peers` filters its requests with does to the
state: a request with a time extends the peers on its subnet and, for a sync
committee subnet, adds the subnet to the long-lived ones. -/
def applyRequest (s : SubnetState) (request : SubnetDiscovery) : SubnetState :=
  match request.minTtl with
  | some minTtl =>
    ⟨s.db.extendPeersOnSubnet view request.subnet minTtl,
      match request.subnet with
      | .syncCommittee subnetId => s.syncCommitteeSubnets.addSyncSubnet subnetId minTtl
      | _ => s.syncCommitteeSubnets⟩
  | none => s

/-- The closure `discover_subnet_peers` filters its requests with: the request is
applied, and kept for discovery when its subnet then has fewer good peers than
the target. -/
def filterRequest (s : SubnetState) (request : SubnetDiscovery) : SubnetState × Bool :=
  let s := s.applyRequest view request
  (s, (s.db.goodPeersOnSubnet view request.subnet).length < targetSubnetPeers)

/-- The requests in order, each filtered in the state the ones before it left. -/
def filterRequests (s : SubnetState) : List SubnetDiscovery → SubnetState × List SubnetDiscovery
  | [] => (s, [])
  | request :: requests =>
    let (s', keep) := s.filterRequest view targetSubnetPeers request
    let (s'', kept) := s'.filterRequests requests
    (s'', if keep then request :: kept else kept)

/-- `Network::discover_subnet_peers`: nothing when discovery has not started;
otherwise the requests are filtered and the ones kept, if any, are passed to
discovery. -/
def discoverSubnetPeers (started : Bool) (requests : List SubnetDiscovery) (s : SubnetState) :
    SubnetState × Option (List SubnetDiscovery) :=
  if started then
    let (s, filtered) := s.filterRequests view targetSubnetPeers requests
    (s, if filtered.isEmpty then none else some filtered)
  else (s, none)

/-- `maintain_sync_committee_peers` at time `now`: the subnets whose time has
passed are dropped, and each remaining subnet with fewer good peers than the
target is asked for until its time. The request
(`PeerManagerEvent::DiscoverSubnetPeers`) is made only if there is a subnet to
ask for. -/
def maintainSyncCommitteePeers (now : Instant) (s : SubnetState) :
    SubnetState × Option (List SubnetDiscovery) :=
  let subnets := s.syncCommitteeSubnets.retain fun _ deadline => now < deadline
  let subnetsToDiscover := subnets.entries.filterMap fun entry =>
    if (s.db.goodPeersOnSubnet view (.syncCommittee entry.1)).length < targetSubnetPeers then
      some ⟨.syncCommittee entry.1, some entry.2⟩
    else none
  (⟨s.db, subnets⟩, if subnetsToDiscover.isEmpty then none else some subnetsToDiscover)

/-- What happens to the subnet state: a call of `discover_subnet_peers` with the
discovery started or not, a heartbeat at a time, or any change of the peer
database by the rest of the peer manager and the swarm. -/
inductive Event where
  | discoverSubnetPeers (started : Bool) (requests : List SubnetDiscovery)
  | heartbeat (now : Instant)
  | peerDB (db : PeerDB)

/-- One event, with the subnet request it makes. -/
def step (s : SubnetState) : Event → SubnetState × Option (List SubnetDiscovery)
  | .discoverSubnetPeers started requests => s.discoverSubnetPeers view targetSubnetPeers started requests
  | .heartbeat now => s.maintainSyncCommitteePeers view targetSubnetPeers now
  | .peerDB db => (⟨db, s.syncCommitteeSubnets⟩, none)

/-- A run of events, the requests dropped. -/
def run (s : SubnetState) (events : List Event) : SubnetState :=
  events.foldl (fun s event => (s.step view targetSubnetPeers event).1) s

/-! ## The long-lived sync committee subnets over a run -/

/-- The times an event requests for a sync committee subnet: those of the
requests of a call of `discover_subnet_peers` with discovery started that are for
that subnet and carry a time. -/
def Event.syncDeadlines (subnetId : Nat) : Event → List Instant
  | .discoverSubnetPeers true requests => requests.flatMap fun request => (request.syncDeadline subnetId).toList
  | _ => []

/-- The long-lived sync committee subnets against the times requested for them,
seen from time `now`: the time recorded for a subnet is one requested for it, and
every time requested for it after `now` is recorded or exceeded. -/
structure Tracks (now : Instant) (requested : Nat → List Instant) (subnets : SyncCommitteeSubnets) :
    Prop where
  recorded : ∀ subnetId deadline, subnets.lookup subnetId = some deadline → deadline ∈ requested subnetId
  covered : ∀ subnetId, ∀ deadline ∈ requested subnetId, now < deadline →
    ∃ kept, subnets.lookup subnetId = some kept ∧ deadline ≤ kept

theorem tracks_empty (now : Instant) : Tracks now (fun _ => []) ∅ :=
  ⟨fun _ _ absent => by simp at absent, fun _ _ absent => absurd absent (List.not_mem_nil _)⟩

/-- Adding a subnet with a time records it as requested. -/
theorem Tracks.addSyncSubnet {now : Instant} {requested : Nat → List Instant}
    {subnets : SyncCommitteeSubnets} (tracks : Tracks now requested subnets) (subnetId : Nat)
    (minTtl : Instant) :
    Tracks now (fun other => requested other ++ if other = subnetId then [minTtl] else [])
      (subnets.addSyncSubnet subnetId minTtl) := by
  constructor
  · intro other deadline recorded
    rw [SyncCommitteeSubnets.lookup_addSyncSubnet] at recorded
    split at recorded
    case isTrue same =>
      subst same
      cases present : subnets.lookup other with
      | none => simp_all
      | some old =>
        simp only [present, Option.map_some', Option.getD_some, Option.some.injEq] at recorded
        rcases max_choice old minTtl with kept | kept <;> rw [kept] at recorded <;> subst recorded
        · simp [tracks.recorded other _ present]
        · simp
    case isFalse other_ne => simpa [other_ne] using tracks.recorded other deadline recorded
  · intro other deadline requested' after
    rw [SyncCommitteeSubnets.lookup_addSyncSubnet]
    split
    case isTrue same =>
      subst same
      simp only [List.mem_append, if_true, List.mem_singleton] at requested'
      refine ⟨_, rfl, ?_⟩
      rcases requested' with earlier | rfl
      · obtain ⟨kept, present, le⟩ := tracks.covered other deadline earlier after
        simpa [present] using le_trans le (le_max_left kept minTtl)
      · cases subnets.lookup other <;> simp
    case isFalse other_ne =>
      exact tracks.covered other deadline (by simpa [other_ne] using requested') after

/-- Dropping the subnets whose time is not after an earlier time keeps every
subnet still requested after `now`. -/
theorem Tracks.retain {now past : Instant} {requested : Nat → List Instant}
    {subnets : SyncCommitteeSubnets} (tracks : Tracks now requested subnets) (before : past ≤ now) :
    Tracks now requested (subnets.retain fun _ deadline => past < deadline) := by
  constructor
  · intro subnetId deadline kept
    rw [SyncCommitteeSubnets.lookup_retain, Option.filter_eq_some] at kept
    exact tracks.recorded subnetId deadline kept.1
  · intro subnetId deadline requested' after
    obtain ⟨kept, present, le⟩ := tracks.covered subnetId deadline requested' after
    refine ⟨kept, ?_, le⟩
    rw [SyncCommitteeSubnets.lookup_retain, present]
    simpa using Nat.lt_of_le_of_lt before (Nat.lt_of_lt_of_le after le)

/-- A request records its time for its sync committee subnet. -/
theorem Tracks.request {now : Instant} {requested : Nat → List Instant} {s : SubnetState}
    (tracks : Tracks now requested s.syncCommitteeSubnets) (request : SubnetDiscovery) :
    Tracks now (fun subnetId => requested subnetId ++ (request.syncDeadline subnetId).toList)
      (s.applyRequest view request).syncCommitteeSubnets := by
  obtain ⟨subnet, minTtl⟩ := request
  cases minTtl with
  | none => simpa [SubnetDiscovery.syncDeadline, applyRequest] using tracks
  | some minTtl =>
    cases subnet with
    | syncCommittee subnetId =>
      simpa [SubnetDiscovery.syncDeadline, applyRequest, eq_comm, apply_ite Option.toList] using
        tracks.addSyncSubnet subnetId minTtl
    | _ => simpa [SubnetDiscovery.syncDeadline, applyRequest] using tracks

/-- The state `discover_subnet_peers` leaves is that of its requests applied in
order. -/
theorem filterRequests_fst (s : SubnetState) (requests : List SubnetDiscovery) :
    (s.filterRequests view targetSubnetPeers requests).1 = requests.foldl (applyRequest view) s := by
  induction requests generalizing s with
  | nil => rfl
  | cons request requests ih => simp [filterRequests, filterRequest, ih]

theorem Tracks.requests {now : Instant} {requested : Nat → List Instant} {s : SubnetState}
    (tracks : Tracks now requested s.syncCommitteeSubnets) (requests : List SubnetDiscovery) :
    Tracks now (fun subnetId => requested subnetId ++
        requests.flatMap fun request => (request.syncDeadline subnetId).toList)
      (requests.foldl (applyRequest view) s).syncCommitteeSubnets := by
  induction requests generalizing s requested with
  | nil => simpa using tracks
  | cons request requests ih => simpa using ih (tracks.request view request)

/-- One event records the times it requests, provided a heartbeat in it is not
after `now`. -/
theorem Tracks.step {now : Instant} {requested : Nat → List Instant} {s : SubnetState}
    (tracks : Tracks now requested s.syncCommitteeSubnets) (event : Event)
    (clock : ∀ past, event = .heartbeat past → past ≤ now) :
    Tracks now (fun subnetId => requested subnetId ++ event.syncDeadlines subnetId)
      (s.step view targetSubnetPeers event).1.syncCommitteeSubnets := by
  cases event with
  | discoverSubnetPeers started requests =>
    cases started
    · simpa [SubnetState.step, discoverSubnetPeers, Event.syncDeadlines] using tracks
    · simpa [SubnetState.step, discoverSubnetPeers, Event.syncDeadlines, filterRequests_fst] using
        tracks.requests view requests
  | heartbeat past =>
    simpa [SubnetState.step, maintainSyncCommitteePeers, Event.syncDeadlines] using
      tracks.retain (clock past rfl)
  | peerDB db => simpa [SubnetState.step, Event.syncDeadlines] using tracks

/-- Over a run whose heartbeats are not after `now`, the long-lived sync committee
subnets track every time requested in it. -/
theorem Tracks.run {now : Instant} {requested : Nat → List Instant} {s : SubnetState}
    (tracks : Tracks now requested s.syncCommitteeSubnets) (events : List Event)
    (clock : ∀ past, .heartbeat past ∈ events → past ≤ now) :
    Tracks now (fun subnetId => requested subnetId ++ events.flatMap (·.syncDeadlines subnetId))
      (s.run view targetSubnetPeers events).syncCommitteeSubnets := by
  induction events generalizing s requested with
  | nil => simpa [SubnetState.run] using tracks
  | cons event events ih =>
    have first := tracks.step view targetSubnetPeers event fun past same =>
      clock past (same ▸ List.mem_cons_self _ _)
    simpa [SubnetState.run] using ih first fun past later => clock past (List.mem_cons_of_mem _ later)

/-- Seen from `now`, a subnet is recorded with a later time exactly when that time
is the latest requested for it. -/
theorem Tracks.lookup_eq_some_iff {now deadline : Instant} {requested : Nat → List Instant}
    {subnets : SyncCommitteeSubnets} (tracks : Tracks now requested subnets) (subnetId : Nat)
    (after : now < deadline) :
    subnets.lookup subnetId = some deadline ↔
      deadline ∈ requested subnetId ∧ ∀ other ∈ requested subnetId, other ≤ deadline := by
  constructor
  · intro recorded
    refine ⟨tracks.recorded subnetId deadline recorded, fun other requested' => ?_⟩
    by_cases later : now < other
    · obtain ⟨kept, present, le⟩ := tracks.covered subnetId other requested' later
      rw [recorded, Option.some.injEq] at present
      exact present ▸ le
    · exact Nat.le_of_lt (Nat.lt_of_le_of_lt (Nat.le_of_not_lt later) after)
  · rintro ⟨requested', latest⟩
    obtain ⟨kept, present, le⟩ := tracks.covered subnetId deadline requested' after
    rw [present, Nat.le_antisymm (latest kept (tracks.recorded subnetId kept present)) le]

/-- The subnets a heartbeat asks for are those it keeps with fewer good peers than
the target, each until its time. -/
theorem mem_maintainSyncCommitteePeers {now : Instant} {s : SubnetState} {request : SubnetDiscovery} :
    request ∈ (s.maintainSyncCommitteePeers view targetSubnetPeers now).2.getD [] ↔
      ∃ subnetId deadline, request = ⟨.syncCommittee subnetId, some deadline⟩ ∧
        s.syncCommitteeSubnets.lookup subnetId = some deadline ∧ now < deadline ∧
        (s.db.goodPeersOnSubnet view (.syncCommittee subnetId)).length < targetSubnetPeers := by
  have requests : ∀ subnetsToDiscover : List SubnetDiscovery,
      (if subnetsToDiscover.isEmpty then none else some subnetsToDiscover).getD [] = subnetsToDiscover :=
    fun subnetsToDiscover => by cases subnetsToDiscover <;> rfl
  simp only [maintainSyncCommitteePeers, requests, List.mem_filterMap, SyncCommitteeSubnets.retain,
    List.mem_filter, decide_eq_true_eq]
  constructor
  · rintro ⟨⟨subnetId, deadline⟩, ⟨recorded, after⟩, asked⟩
    split at asked
    case isTrue short =>
      exact ⟨subnetId, deadline, (Option.some.inj asked).symm, AList.mem_lookup_iff.mpr recorded, after, short⟩
    case isFalse => cases asked
  · rintro ⟨subnetId, deadline, rfl, recorded, after, short⟩
    exact ⟨⟨subnetId, deadline⟩, ⟨AList.mem_lookup_iff.mp recorded, after⟩, by simp [short]⟩

/-- **The heartbeat asks for the sync committee subnets still wanted.** After any
run of calls of `discover_subnet_peers`, heartbeats no later than `now` and
changes to the peer database, from no long-lived sync committee subnet, the
heartbeat at `now` asks discovery for a subnet exactly when the latest time
requested for it is after `now` and it has fewer good peers than the target; it
asks for the peers until that latest time. -/
theorem heartbeat_requests_iff (db : PeerDB) (events : List Event) (now : Instant)
    (clock : ∀ past, .heartbeat past ∈ events → past ≤ now) (request : SubnetDiscovery) :
    request ∈ ((SubnetState.run view targetSubnetPeers ⟨db, ∅⟩ events).step view targetSubnetPeers
        (.heartbeat now)).2.getD [] ↔
      ∃ subnetId deadline, request = ⟨.syncCommittee subnetId, some deadline⟩ ∧ now < deadline ∧
        deadline ∈ events.flatMap (·.syncDeadlines subnetId) ∧
        (∀ other ∈ events.flatMap (·.syncDeadlines subnetId), other ≤ deadline) ∧
        ((SubnetState.run view targetSubnetPeers ⟨db, ∅⟩ events).db.goodPeersOnSubnet view
          (.syncCommittee subnetId)).length < targetSubnetPeers := by
  have tracks := @Tracks.run view targetSubnetPeers now _ ⟨db, ∅⟩ (tracks_empty now) events clock
  simp only [List.nil_append] at tracks
  simp only [SubnetState.step, mem_maintainSyncCommitteePeers]
  constructor
  · rintro ⟨subnetId, deadline, rfl, recorded, after, short⟩
    exact ⟨subnetId, deadline, rfl, after, (tracks.lookup_eq_some_iff subnetId after).mp recorded |>.1,
      (tracks.lookup_eq_some_iff subnetId after).mp recorded |>.2, short⟩
  · rintro ⟨subnetId, deadline, rfl, after, requested, latest, short⟩
    exact ⟨subnetId, deadline, rfl, (tracks.lookup_eq_some_iff subnetId after).mpr ⟨requested, latest⟩,
      after, short⟩

/-- Subnet 1 requested until 20, a heartbeat at 5, then subnet 1 requested again
until 12: with no good peer, the heartbeat at 10 still asks for it until 20. -/
theorem heartbeat_requests_latest_deadline :
    (∀ past, Event.heartbeat past ∈ [.discoverSubnetPeers true [⟨.syncCommittee 1, some 20⟩],
        .heartbeat 5, .discoverSubnetPeers true [⟨.syncCommittee 1, some 12⟩]] → past ≤ 10) ∧
      ⟨.syncCommittee 1, some 20⟩ ∈ ((SubnetState.run ⟨fun _ _ => true, fun _ => true⟩ 2
        ⟨PeerDB.new [] false, ∅⟩ [.discoverSubnetPeers true [⟨.syncCommittee 1, some 20⟩],
          .heartbeat 5, .discoverSubnetPeers true [⟨.syncCommittee 1, some 12⟩]]).step
        ⟨fun _ _ => true, fun _ => true⟩ 2 (.heartbeat 10)).2.getD [] := by
  have clock : ∀ past, Event.heartbeat past ∈ [.discoverSubnetPeers true [⟨.syncCommittee 1, some 20⟩],
      .heartbeat 5, .discoverSubnetPeers true [⟨.syncCommittee 1, some 12⟩]] → past ≤ 10 := by
    intro past mem
    simp only [List.mem_cons, List.mem_singleton, reduceCtorEq, Event.heartbeat.injEq, false_or,
      or_false, List.not_mem_nil] at mem
    subst mem
    decide
  exact ⟨clock, (heartbeat_requests_iff _ 2 _ _ 10 clock _).mpr ⟨1, 20, rfl, by decide, by decide, by decide,
    by decide⟩⟩

/-! ## The peers kept for a subnet -/

/-- From one peer database to another no peer appears, and every peer keeps its
connection status and its subnets and is kept at least until any time it was
kept until before. -/
def RaisesDuties (db db' : PeerDB) : Prop :=
  ∀ peerId info', db'.peers.lookup peerId = some info' → ∃ info, db.peers.lookup peerId = some info ∧
    info'.connectionStatus = info.connectionStatus ∧ info'.subnets = info.subnets ∧
    ∀ kept, info.minTtl = some kept → ∃ kept', info'.minTtl = some kept' ∧ kept ≤ kept'

theorem RaisesDuties.refl (db : PeerDB) : RaisesDuties db db :=
  fun _ info found => ⟨info, found, rfl, rfl, fun kept same => ⟨kept, same, le_rfl⟩⟩

theorem RaisesDuties.trans {db db' db'' : PeerDB} (first : RaisesDuties db db')
    (second : RaisesDuties db' db'') : RaisesDuties db db'' := by
  intro peerId info'' found
  obtain ⟨info', found', status', subnets', raised'⟩ := second peerId info'' found
  obtain ⟨info, found, status, subnets, raised⟩ := first peerId info' found'
  refine ⟨info, found, status'.trans status, subnets'.trans subnets, fun kept same => ?_⟩
  obtain ⟨kept', same', le'⟩ := raised kept same
  obtain ⟨kept'', same'', le''⟩ := raised' kept' same'
  exact ⟨kept'', same'', le_trans le' le''⟩

theorem raisesDuties_extendPeersOnSubnet (subnet : Subnet) (minTtl : Instant) (db : PeerDB) :
    RaisesDuties db (db.extendPeersOnSubnet view subnet minTtl) := by
  intro peerId info' found
  simp only [PeerDB.extendPeersOnSubnet, PeerMap.lookup_mapValues, Option.map_eq_some'] at found
  obtain ⟨info, found, rfl⟩ := found
  refine ⟨info, found, ?_⟩
  split
  · obtain ⟨kept', same', -, raised⟩ := info.minTtl_raiseMinTtl minTtl
    exact ⟨by simp, by simp, fun kept same => ⟨kept', same', raised kept same⟩⟩
  · exact ⟨rfl, rfl, fun kept same => ⟨kept, same, le_rfl⟩⟩

/-- After `extend_peers_on_subnet`, every connected peer on the subnet is kept at
least until the given time. -/
theorem extendPeersOnSubnet_keeps {subnet : Subnet} {minTtl : Instant} {db : PeerDB} {peerId : PeerId}
    {info : PeerInfo} (found : (db.extendPeersOnSubnet view subnet minTtl).peers.lookup peerId = some info)
    (connected : info.isConnected = true) (metadata : view.onSubnetMetadata peerId subnet = true)
    (gossipsub : info.onSubnetGossipsub subnet = true) :
    ∃ kept, info.minTtl = some kept ∧ minTtl ≤ kept := by
  simp only [PeerDB.extendPeersOnSubnet, PeerMap.lookup_mapValues, Option.map_eq_some'] at found
  obtain ⟨before, -, rfl⟩ := found
  by_cases onSubnet : (before.isConnected && view.onSubnetMetadata peerId subnet &&
      before.onSubnetGossipsub subnet) = true
  · rw [if_pos onSubnet]
    obtain ⟨kept, same, le, -⟩ := before.minTtl_raiseMinTtl minTtl
    exact ⟨kept, same, le⟩
  · rw [if_neg onSubnet] at connected gossipsub
    exact absurd (by simp [connected, metadata, gossipsub]) onSubnet

theorem raisesDuties_applyRequest (s : SubnetState) (request : SubnetDiscovery) :
    RaisesDuties s.db (s.applyRequest view request).db := by
  unfold applyRequest
  split
  · exact raisesDuties_extendPeersOnSubnet view _ _ _
  · exact RaisesDuties.refl _

theorem raisesDuties_foldl_applyRequest (s : SubnetState) (requests : List SubnetDiscovery) :
    RaisesDuties s.db (requests.foldl (applyRequest view) s).db := by
  induction requests generalizing s with
  | nil => exact RaisesDuties.refl _
  | cons request requests ih => exact (raisesDuties_applyRequest view s request).trans (ih _)

/-- Every connected peer on the subnet of a request with a time, after the
requests are applied in order, is kept at least until that time. -/
theorem foldl_applyRequest_keeps (s : SubnetState) {requests : List SubnetDiscovery}
    {request : SubnetDiscovery} (requested : request ∈ requests) {deadline : Instant}
    (timed : request.minTtl = some deadline) {peerId : PeerId} {info : PeerInfo}
    (found : (requests.foldl (applyRequest view) s).db.peers.lookup peerId = some info)
    (connected : info.isConnected = true) (metadata : view.onSubnetMetadata peerId request.subnet = true)
    (gossipsub : info.onSubnetGossipsub request.subnet = true) :
    ∃ kept, info.minTtl = some kept ∧ deadline ≤ kept := by
  induction requests generalizing s with
  | nil => cases requested
  | cons first rest ih =>
    rw [List.foldl_cons] at found
    rcases List.mem_cons.mp requested with rfl | later
    · obtain ⟨extended, found', status, subnets, raised⟩ :=
        raisesDuties_foldl_applyRequest view _ rest peerId info found
      simp only [applyRequest, timed] at found'
      obtain ⟨kept, same, le⟩ := extendPeersOnSubnet_keeps view found'
        (by unfold PeerInfo.isConnected at connected ⊢; rwa [← status])
        metadata (by unfold PeerInfo.onSubnetGossipsub at gossipsub ⊢; rwa [← subnets])
      obtain ⟨kept', same', le'⟩ := raised kept same
      exact ⟨kept', same', le_trans le le'⟩
    · exact ih _ later found

/-- **`discover_subnet_peers` keeps the peers on each requested subnet.** After a
call with discovery started, every connected peer that its metadata and its
gossipsub subscriptions put on the subnet of a request with a time has a duty
(`has_future_duty`) at every time before that request's time, whatever the
requests after it ask. -/
theorem discoverSubnetPeers_keeps_peers (s : SubnetState) (requests : List SubnetDiscovery)
    {request : SubnetDiscovery} (requested : request ∈ requests) {deadline : Instant}
    (timed : request.minTtl = some deadline) {peerId : PeerId} {info : PeerInfo}
    (found : (s.discoverSubnetPeers view targetSubnetPeers true requests).1.db.peers.lookup peerId =
      some info)
    (connected : info.isConnected = true) (metadata : view.onSubnetMetadata peerId request.subnet = true)
    (gossipsub : info.onSubnetGossipsub request.subnet = true) (now : Instant) (before : now < deadline) :
    info.hasFutureDuty now = true := by
  simp only [discoverSubnetPeers, if_true, filterRequests_fst] at found
  obtain ⟨kept, same, le⟩ :=
    foldl_applyRequest_keeps view s requested timed found connected metadata gossipsub
  simpa [PeerInfo.hasFutureDuty, same] using Nat.lt_of_lt_of_le before le

/-- Peer 3, connected inbound and subscribed to sync committee subnet 1. -/
def syncSubnetPeerDB : PeerDB :=
  { PeerDB.new [] false with
    peers := (∅ : PeerMap).insert 3
      { PeerInfo.default with connectionStatus := .connected 1 0, subnets := [.syncCommittee 1] } }

/-- Peer 3, on sync committee subnet 1 requested until 20 and then until 12, still
has a duty at time 15. -/
theorem discoverSubnetPeers_keeps_peers_after_shorter_request :
    ∃ info, (SubnetState.discoverSubnetPeers ⟨fun _ _ => true, fun _ => true⟩ 2 true
        [⟨.syncCommittee 1, some 20⟩, ⟨.syncCommittee 1, some 12⟩] ⟨syncSubnetPeerDB, ∅⟩).1.db.peers.lookup 3 =
        some info ∧ info.hasFutureDuty 15 = true :=
  ⟨_, rfl, @discoverSubnetPeers_keeps_peers ⟨fun _ _ => true, fun _ => true⟩ 2 ⟨syncSubnetPeerDB, ∅⟩
    [⟨.syncCommittee 1, some 20⟩, ⟨.syncCommittee 1, some 12⟩] _ (List.mem_cons_self _ _) _ rfl 3 _ rfl
    (by decide) rfl (by decide) 15 (by decide)⟩

/-! ## The heartbeat's requests handed back to the service

`inject_pm_event` passes the heartbeat's `PeerManagerEvent::DiscoverSubnetPeers`
to `discover_subnet_peers`, which applies each request again before it asks
discovery. -/

/-- Adding a subnet again with the time it has changes nothing. -/
theorem addSyncSubnet_of_lookup {subnets : SyncCommitteeSubnets} {subnetId : Nat} {deadline : Instant}
    (recorded : subnets.lookup subnetId = some deadline) :
    subnets.addSyncSubnet subnetId deadline = subnets := by
  simp [SyncCommitteeSubnets.addSyncSubnet, recorded]

/-- Requests for sync committee subnets with the times they have leave the
long-lived subnets as they are. -/
theorem foldl_applyRequest_of_recorded (s : SubnetState) {requests : List SubnetDiscovery}
    (recorded : ∀ request ∈ requests, ∃ subnetId deadline,
      request = ⟨.syncCommittee subnetId, some deadline⟩ ∧ s.syncCommitteeSubnets.lookup subnetId = some deadline) :
    (requests.foldl (applyRequest view) s).syncCommitteeSubnets = s.syncCommitteeSubnets := by
  induction requests generalizing s with
  | nil => rfl
  | cons request requests ih =>
    obtain ⟨subnetId, deadline, rfl, present⟩ := recorded request (List.mem_cons_self _ _)
    have same : (s.applyRequest view ⟨.syncCommittee subnetId, some deadline⟩).syncCommitteeSubnets =
        s.syncCommitteeSubnets := addSyncSubnet_of_lookup present
    rw [List.foldl_cons, ih _ fun other later => same ▸ recorded other (List.mem_cons_of_mem _ later), same]

/-- **The service's handling of the heartbeat's request keeps the long-lived
subnets.** Handing the subnets the heartbeat asks for to `discover_subnet_peers`,
with discovery started or not, neither drops a long-lived sync committee subnet
nor moves its time: they stay as the heartbeat left them. -/
theorem discoverSubnetPeers_heartbeat_requests (s : SubnetState) (now : Instant) (started : Bool) :
    ((s.maintainSyncCommitteePeers view targetSubnetPeers now).1.discoverSubnetPeers view targetSubnetPeers
        started ((s.maintainSyncCommitteePeers view targetSubnetPeers now).2.getD [])).1.syncCommitteeSubnets =
      (s.maintainSyncCommitteePeers view targetSubnetPeers now).1.syncCommitteeSubnets := by
  cases started
  · rfl
  · simp only [discoverSubnetPeers, if_true, filterRequests_fst]
    refine foldl_applyRequest_of_recorded view _ fun request asked => ?_
    obtain ⟨subnetId, deadline, rfl, present, after, -⟩ := (mem_maintainSyncCommitteePeers view targetSubnetPeers).mp asked
    refine ⟨subnetId, deadline, rfl, ?_⟩
    simp [maintainSyncCommitteePeers, SyncCommitteeSubnets.lookup_retain, present, after]

end SubnetState

end Eth2Libp2p
