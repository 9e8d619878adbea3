import Eth2Libp2p.PeerDB.Eviction

/-! # Which peers `shrink_to_fit` drops

The first loop of `shrink_to_fit` drops the banned peer banned earliest, while
the banned counter is above `MAX_BANNED_PEERS`; the second drops the non-trusted
disconnected peer disconnected earliest, while the disconnected counter is above
`MAX_DC_PEERS`. With both counters exact when it starts
(`PeerDB.shrinkToFit_evicts_oldest`), `shrink_to_fit` drops exactly the banned
peers beyond `MAX_BANNED_PEERS`, and exactly the disconnected peers beyond
`MAX_DC_PEERS` as long as that many of them are not trusted (all the non-trusted
ones otherwise). Each peer it drops is dated no later than every peer of its
kind it keeps, it drops no peer of any other status, and it changes no record.

Both loops are the same step for a different dating of the records
(`PeerInfo.bannedAt`, `PeerInfo.untrustedDisconnectedAt`): remove one record
dated no later than every dated record left. `PeerDB.EvictsOldest` is what that
step keeps (`PeerDB.EvictsOldest.erase`); `PeerDB.BannedLoop` and
`PeerDB.DisconnectedLoop` add the counting of each loop.
-/

namespace Eth2Libp2p

namespace PeerInfo

/-- When the peer was banned, if it is banned. -/
def bannedAt (info : PeerInfo) : Option Instant :=
  match info.connectionStatus with
  | .banned since => some since
  | _ => none

/-- The peers the second loop of `shrink_to_fit` ranges over:
`info.is_disconnected() && !info.is_trusted()`. -/
def isUntrustedDisconnected (info : PeerInfo) : Bool :=
  info.isDisconnected && !info.isTrusted

/-- When the peer was disconnected, if it is disconnected and not trusted. -/
def untrustedDisconnectedAt (info : PeerInfo) : Option Instant :=
  if info.isTrusted then none
  else
    match info.connectionStatus with
    | .disconnected since => some since
    | _ => none

theorem bannedAt_isSome (info : PeerInfo) : info.bannedAt.isSome = info.isBanned := by
  unfold bannedAt isBanned
  cases info.connectionStatus <;> rfl

theorem untrustedDisconnectedAt_isSome (info : PeerInfo) :
    info.untrustedDisconnectedAt.isSome = info.isUntrustedDisconnected := by
  unfold untrustedDisconnectedAt isUntrustedDisconnected isDisconnected
  cases info.isTrusted <;> cases info.connectionStatus <;> rfl

/-- No record is dated by both loops. -/
theorem bannedAt_eq_none_or (info : PeerInfo) : info.bannedAt = none ∨ info.untrustedDisconnectedAt = none := by
  unfold bannedAt untrustedDisconnectedAt
  cases info.isTrusted <;> cases info.connectionStatus <;> first | exact .inl rfl | exact .inr rfl

end PeerInfo

namespace PeerDB

/-- The records that the first loop ranges over are the banned ones. -/
theorem mem_bannedSince {peers : PeerMap} {peerId : PeerId} {info : PeerInfo} {since : Instant} :
    (peerId, info, since) ∈ bannedSince peers ↔
      (⟨peerId, info⟩ : Sigma fun _ : PeerId => PeerInfo) ∈ peers.entries ∧ info.bannedAt = some since := by
  unfold bannedSince PeerInfo.bannedAt
  constructor
  · intro listed
    obtain ⟨⟨key, record⟩, present, found⟩ := List.mem_filterMap.mp listed
    dsimp only at found
    split at found
    · next banned => cases found; exact ⟨present, by rw [banned]⟩
    · cases found
  · rintro ⟨present, banned⟩
    refine List.mem_filterMap.mpr ⟨_, present, ?_⟩
    dsimp only
    split at banned
    · next status => cases banned; simp only [status]
    · cases banned

/-- The records that the second loop ranges over are the non-trusted disconnected ones. -/
theorem mem_untrustedDisconnectedSince {peers : PeerMap} {peerId : PeerId} {since : Instant} :
    (peerId, since) ∈ untrustedDisconnectedSince peers ↔
      ∃ info, (⟨peerId, info⟩ : Sigma fun _ : PeerId => PeerInfo) ∈ peers.entries ∧
        info.untrustedDisconnectedAt = some since := by
  unfold untrustedDisconnectedSince PeerInfo.untrustedDisconnectedAt
  simp only [List.mem_filterMap, List.mem_filter, Bool.and_eq_true, Bool.not_eq_true']
  constructor
  · rintro ⟨⟨key, record⟩, ⟨present, disconnected, untrusted⟩, found⟩
    dsimp only at found disconnected untrusted
    split at found
    · next status => cases found; exact ⟨record, present, by rw [untrusted, status]; rfl⟩
    · cases found
  · rintro ⟨info, present, dated⟩
    split at dated
    · cases dated
    · next untrusted =>
      split at dated
      · next status =>
        cases dated
        refine ⟨_, ⟨present, by simp only [PeerInfo.isDisconnected, status], Bool.eq_false_iff.mpr untrusted⟩, ?_⟩
        dsimp only
        rw [status]
      · cases dated

/-- A count over records none of which satisfies the predicate. -/
theorem count_eq_zero_of_forall {p : PeerInfo → Bool} {peers : PeerMap}
    (none : ∀ entry ∈ peers.entries, p entry.2 = false) : count p peers = 0 := by
  unfold count weight
  refine List.sum_eq_zero fun n member => ?_
  obtain ⟨entry, present, rfl⟩ := List.mem_map.mp member
  simp only [none entry present, Bool.toNat_false]

section Evicting

variable {dated : PeerInfo → Option Instant}

/-- Every record of `start` that `dated` dates and `kept` lacks is dated no
later than every dated record of `kept`. -/
def OldestFirst (dated : PeerInfo → Option Instant) (start kept : PeerMap) : Prop :=
  ∀ evicted ∈ start.entries, evicted ∉ kept.entries → ∀ entry ∈ kept.entries, ∀ a b,
    dated evicted.2 = some a → dated entry.2 = some b → a ≤ b

/-- `kept` is `start` without some of the records `dated` dates, oldest first:
what every iteration of an eviction loop keeps. -/
structure EvictsOldest (dated : PeerInfo → Option Instant) (start kept : PeerMap) : Prop where
  sublist : kept.entries.Sublist start.entries
  keeps : ∀ entry ∈ start.entries, dated entry.2 = none → entry ∈ kept.entries
  oldest : OldestFirst dated start kept

theorem EvictsOldest.refl (dated : PeerInfo → Option Instant) (peers : PeerMap) :
    EvictsOldest dated peers peers :=
  ⟨List.Sublist.refl _, fun _ member _ => member, fun _ _ missing _ => absurd ‹_› missing⟩

/-- A record of a map stays in it when another key is erased. -/
theorem mem_erase_of_ne {peers : PeerMap} {entry : Sigma fun _ : PeerId => PeerInfo} {toDrop : PeerId}
    (member : entry ∈ peers.entries) (other : entry.1 ≠ toDrop) : entry ∈ (peers.erase toDrop).entries :=
  AList.mem_lookup_iff.mp ((AList.lookup_erase_ne other).trans (AList.mem_lookup_iff.mpr member))

/-- Two records of one key in a map are the same. -/
theorem eq_of_mem_entries {peers : PeerMap} {peerId : PeerId} {info : PeerInfo}
    {entry : Sigma fun _ : PeerId => PeerInfo} (member : entry ∈ peers.entries)
    (present : (⟨peerId, info⟩ : Sigma fun _ : PeerId => PeerInfo) ∈ peers.entries) (same : entry.1 = peerId) :
    entry = ⟨peerId, info⟩ :=
  peers.nodupKeys.eq_of_fst_eq member present same

/-- Removing a dated record dated no later than every dated record left keeps
the eviction oldest first. -/
theorem EvictsOldest.erase {start kept : PeerMap} (evicts : EvictsOldest dated start kept) {toDrop : PeerId}
    {info : PeerInfo} {since : Instant} (present : (⟨toDrop, info⟩ : Sigma fun _ : PeerId => PeerInfo) ∈ kept.entries)
    (dropped : dated info = some since) (earliest : ∀ entry ∈ kept.entries, ∀ b, dated entry.2 = some b → since ≤ b) :
    EvictsOldest dated start (kept.erase toDrop) := by
  have dropsOnly : ∀ entry ∈ kept.entries, entry ∉ (kept.erase toDrop).entries → entry = ⟨toDrop, info⟩ :=
    fun entry member missing =>
      eq_of_mem_entries member present (Classical.not_not.mp fun other => missing (mem_erase_of_ne member other))
  refine ⟨(List.kerase_sublist _ _).trans evicts.sublist, fun entry member undated => ?_, ?_⟩
  · have kept' := evicts.keeps entry member undated
    by_contra missing
    rw [dropsOnly entry kept' missing] at undated
    rw [undated] at dropped
    cases dropped
  · intro evicted member missing entry left a b evictedAt entryAt
    have left' := List.kerase_sublist _ _ |>.subset left
    by_cases before : evicted ∈ kept.entries
    · rw [dropsOnly evicted before missing] at evictedAt
      rw [dropped] at evictedAt
      cases evictedAt
      exact earliest entry left' b entryAt
    · exact evicts.oldest evicted member before entry left' a b evictedAt entryAt

end Evicting

section Loops

/-- What the first loop keeps, from the database `db` it starts on: the banned
peers go oldest first, and the counter counts those left, never fewer than
`MAX_BANNED_PEERS` of them or all. -/
structure BannedLoop (db cur : PeerDB) : Prop where
  evicts : EvictsOldest PeerInfo.bannedAt db.peers cur.peers
  agree : cur.bannedPeersCount.bannedPeers = count PeerInfo.isBanned cur.peers
  floor : min (count PeerInfo.isBanned db.peers) MAX_BANNED_PEERS ≤ count PeerInfo.isBanned cur.peers
  ceiling : count PeerInfo.isBanned cur.peers ≤ count PeerInfo.isBanned db.peers
  untrusted : count PeerInfo.isUntrustedDisconnected cur.peers = count PeerInfo.isUntrustedDisconnected db.peers
  disconnected : cur.disconnectedPeers = db.disconnectedPeers

theorem BannedLoop.start {db : PeerDB} (agree : db.bannedPeersCount.bannedPeers = count PeerInfo.isBanned db.peers) :
    BannedLoop db db :=
  ⟨.refl _ _, agree, Nat.min_le_left _ _, le_rfl, rfl, rfl⟩

/-- An iteration of the first loop over its limit drops the oldest banned peer. -/
theorem BannedLoop.step {db cur : PeerDB} (loop : BannedLoop db cur) (unbannedPeers : List (PeerId × List IpAddr))
    (over : MAX_BANNED_PEERS < cur.bannedPeersCount.bannedPeers) :
    BannedLoop db (cur.dropOldestBanned unbannedPeers).1 := by
  have agree := loop.agree
  have floor := loop.floor
  have ceiling := loop.ceiling
  have untrustedBefore := loop.untrusted
  unfold dropOldestBanned
  split
  · next toDrop info since found =>
    obtain ⟨present, dropped⟩ := mem_bannedSince.mp (List.argmin_mem found)
    have earliest : ∀ entry ∈ cur.peers.entries, ∀ b, entry.2.bannedAt = some b → since ≤ b :=
      fun entry member b entryAt =>
        List.le_of_mem_argmin (mem_bannedSince.mpr ⟨member, entryAt⟩) found
    have banned := count_erase_of_mem PeerInfo.isBanned present
    have untrusted := count_erase_of_mem PeerInfo.isUntrustedDisconnected present
    rw [← PeerInfo.bannedAt_isSome, dropped, Option.isSome_some, Bool.toNat_true] at banned
    rw [← PeerInfo.untrustedDisconnectedAt_isSome,
      (PeerInfo.bannedAt_eq_none_or info).resolve_left (by rw [dropped]; exact Option.some_ne_none _),
      Option.isSome_none, Bool.toNat_false] at untrusted
    refine ⟨loop.evicts.erase present dropped earliest, ?_, ?_, ?_, ?_, loop.disconnected⟩ <;>
      dsimp only <;> (try rw [BannedPeersCount.removeBannedPeer_bannedPeers]) <;> omega
  · next none =>
    rw [count_isBanned_of_bannedSince_nil (List.argmin_eq_none.mp none)] at agree
    exact absurd over (by omega)

/-- What the second loop keeps, from the database `start` it starts on: the
non-trusted disconnected peers go oldest first, one for each iteration as long
as there is one, and the counter goes down by one in each iteration. -/
structure DisconnectedLoop (start cur : PeerDB) : Prop where
  evicts : EvictsOldest PeerInfo.untrustedDisconnectedAt start.peers cur.peers
  within : cur.disconnectedPeers ≤ start.disconnectedPeers
  floor : min start.disconnectedPeers MAX_DC_PEERS ≤ cur.disconnectedPeers
  evicted : count PeerInfo.isUntrustedDisconnected cur.peers +
      min (start.disconnectedPeers - cur.disconnectedPeers) (count PeerInfo.isUntrustedDisconnected start.peers) =
    count PeerInfo.isUntrustedDisconnected start.peers
  banned : count PeerInfo.isBanned cur.peers = count PeerInfo.isBanned start.peers

theorem DisconnectedLoop.start (db : PeerDB) : DisconnectedLoop db db :=
  ⟨.refl _ _, le_rfl, Nat.min_le_left _ _, by rw [Nat.sub_self, Nat.zero_min, Nat.add_zero], rfl⟩

/-- An iteration of the second loop over its limit drops the oldest non-trusted
disconnected peer, if there is one. -/
theorem DisconnectedLoop.step {start cur : PeerDB} (loop : DisconnectedLoop start cur)
    (over : MAX_DC_PEERS < cur.disconnectedPeers) : DisconnectedLoop start cur.dropOldestDisconnected := by
  have within := loop.within
  have floor := loop.floor
  have evicted := loop.evicted
  unfold dropOldestDisconnected
  dsimp only
  split
  · next toDrop since found =>
    obtain ⟨info, present, dropped⟩ := mem_untrustedDisconnectedSince.mp (List.argmin_mem found)
    have earliest : ∀ entry ∈ cur.peers.entries, ∀ b, entry.2.untrustedDisconnectedAt = some b → since ≤ b :=
      fun entry member b entryAt =>
        List.le_of_mem_argmin (mem_untrustedDisconnectedSince.mpr ⟨entry.2, member, entryAt⟩) found
    have untrusted := count_erase_of_mem PeerInfo.isUntrustedDisconnected present
    have banned := count_erase_of_mem PeerInfo.isBanned present
    rw [← PeerInfo.untrustedDisconnectedAt_isSome, dropped, Option.isSome_some, Bool.toNat_true] at untrusted
    rw [← PeerInfo.bannedAt_isSome, (PeerInfo.bannedAt_eq_none_or info).resolve_right (by rw [dropped]; exact Option.some_ne_none _),
      Option.isSome_none, Bool.toNat_false] at banned
    exact ⟨loop.evicts.erase present dropped earliest, by dsimp only; omega, by dsimp only; omega,
      by dsimp only; omega, by dsimp only; rw [← loop.banned]; omega⟩
  · next none =>
    have nothing : count PeerInfo.isUntrustedDisconnected cur.peers = 0 :=
      count_eq_zero_of_forall fun entry member => by
        have trusted := isTrusted_of_untrustedDisconnectedSince_nil (List.argmin_eq_none.mp none) entry member
        unfold PeerInfo.isUntrustedDisconnected
        cases disconnected : entry.2.isDisconnected
        · rfl
        · rw [trusted disconnected]; rfl
    exact ⟨loop.evicts, by dsimp only; omega, by dsimp only; omega, by dsimp only; omega, loop.banned⟩

end Loops

/-- What `shrink_to_fit` leaves of the peer map of `db`: a part of it that keeps
every peer neither banned nor disconnected and untrusted, drops the banned peers
beyond `MAX_BANNED_PEERS` and the non-trusted disconnected peers beyond
`MAX_DC_PEERS` (as many of them as there are), each dated no later than every
peer of its kind that is kept. -/
structure Shrunk (db : PeerDB) (peers : PeerMap) : Prop where
  sublist : peers.entries.Sublist db.peers.entries
  keeps : ∀ entry ∈ db.peers.entries, entry.2.isBanned = false → entry.2.isUntrustedDisconnected = false →
    entry ∈ peers.entries
  banned : count PeerInfo.isBanned peers + (count PeerInfo.isBanned db.peers - MAX_BANNED_PEERS) = count PeerInfo.isBanned db.peers
  disconnected : count PeerInfo.isUntrustedDisconnected peers +
      min (count PeerInfo.isDisconnected db.peers - MAX_DC_PEERS) (count PeerInfo.isUntrustedDisconnected db.peers) =
    count PeerInfo.isUntrustedDisconnected db.peers
  bannedOldest : OldestFirst PeerInfo.bannedAt db.peers peers
  disconnectedOldest : OldestFirst PeerInfo.untrustedDisconnectedAt db.peers peers

/-- The two loops, each run to its limit, shrink the map as `shrink_to_fit` should. -/
theorem shrunk_of_loops {db cur final : PeerDB} (first : BannedLoop db cur)
    (firstStopped : cur.bannedPeersCount.bannedPeers ≤ MAX_BANNED_PEERS) (second : DisconnectedLoop cur final)
    (secondStopped : final.disconnectedPeers ≤ MAX_DC_PEERS) (agree : db.DisconnectedAgree) :
    Shrunk db final.peers := by
  have undatedBoth : ∀ info : PeerInfo, info.isBanned = false → info.bannedAt = none := fun info banned => by
    rw [← Option.not_isSome_iff_eq_none, PeerInfo.bannedAt_isSome, banned]
    exact Bool.false_ne_true
  refine ⟨second.evicts.sublist.trans first.evicts.sublist, fun entry member banned untrusted => ?_, ?_, ?_,
    fun evicted member missing entry left a b evictedAt entryAt => ?_,
    fun evicted member missing entry left a b evictedAt entryAt => ?_⟩
  · refine second.evicts.keeps entry (first.evicts.keeps entry member (undatedBoth _ banned)) ?_
    rw [← Option.not_isSome_iff_eq_none, PeerInfo.untrustedDisconnectedAt_isSome, untrusted]
    exact Bool.false_ne_true
  · have := first.agree
    have := first.floor
    have := first.ceiling
    rw [second.banned]
    omega
  · have evicted := second.evicted
    have within := second.within
    have floor := second.floor
    have counted : cur.disconnectedPeers = count PeerInfo.isDisconnected db.peers := first.disconnected.trans agree
    rw [first.untrusted, counted] at evicted
    rw [counted] at within floor
    omega
  · have left' := second.evicts.sublist.subset left
    by_cases before : evicted ∈ cur.peers.entries
    · have undated := (PeerInfo.bannedAt_eq_none_or evicted.2).resolve_left (by rw [evictedAt]; exact Option.some_ne_none _)
      exact absurd (second.evicts.keeps evicted before undated) missing
    · exact first.evicts.oldest evicted member before entry left' a b evictedAt entryAt
  · have undated := (PeerInfo.bannedAt_eq_none_or evicted.2).resolve_right (by rw [evictedAt]; exact Option.some_ne_none _)
    exact second.evicts.oldest evicted (first.evicts.keeps evicted member undated) missing entry left a b evictedAt
      entryAt

/-- With both counters exact, `shrink_to_fit` drops exactly the banned peers
beyond `MAX_BANNED_PEERS`, oldest ban first, and then exactly the disconnected
peers beyond `MAX_DC_PEERS` among the non-trusted ones, oldest disconnection
first; it drops no other peer and changes no record. -/
theorem shrinkToFit_evicts_oldest {db : PeerDB}
    (bannedAgree : db.bannedPeersCount.bannedPeers = count PeerInfo.isBanned db.peers) (disconnectedAgree : db.DisconnectedAgree) :
    Shrunk db db.shrinkToFit.1.peers :=
  shrunk_of_loops
    (removeExcessBanned_induction (BannedLoop db) (fun _ unbannedPeers loop over => loop.step unbannedPeers over)
      db [] (.start bannedAgree))
    (removeExcessBanned_bannedPeers_le db [])
    (removeExcessDisconnected_induction _ (fun _ loop over => loop.step over) _ (.start _))
    (removeExcessDisconnected_disconnectedPeers_le _) disconnectedAgree

/-- Peers `0, …, n - 1`, each disconnected at the time of its id. -/
def disconnectedRange (n : Nat) : PeerMap :=
  ⟨(List.range n).map fun id => ⟨id, { PeerInfo.default with connectionStatus := .disconnected id }⟩, by
    simp only [List.NodupKeys, List.keys, List.map_map, Function.comp_def, List.map_id', List.nodup_range]⟩

/-- A predicate that reads no disconnection time counts every peer of the range or none. -/
theorem count_disconnectedRange_of_constant (p : PeerInfo → Bool) (n : Nat) (b : Bool)
    (constant : ∀ id, p { PeerInfo.default with connectionStatus := .disconnected id } = b) :
    count p (disconnectedRange n) = n * b.toNat := by
  simp only [count, weight, disconnectedRange, List.map_map, Function.comp_def, constant, List.map_const',
    List.sum_replicate, List.length_range]
  rfl

/-- With 501 untrusted disconnected peers the second loop has one peer to evict,
and it evicts the one disconnected earliest. -/
theorem shrinkToFit_evicts_oldest_of_overfull :
    let db : PeerDB := { new [] false with peers := disconnectedRange 501, disconnectedPeers := 501 }
    db.bannedPeersCount.bannedPeers = count PeerInfo.isBanned db.peers ∧ db.DisconnectedAgree ∧
      MAX_DC_PEERS < count PeerInfo.isDisconnected db.peers ∧ Shrunk db db.shrinkToFit.1.peers := by
  have banned : count PeerInfo.isBanned (disconnectedRange 501) = 0 :=
    count_disconnectedRange_of_constant _ 501 false fun _ => rfl
  have disconnected : count PeerInfo.isDisconnected (disconnectedRange 501) = 501 :=
    count_disconnectedRange_of_constant _ 501 true fun _ => rfl
  refine ⟨banned.symm, disconnected.symm, ?_, ?_⟩
  · rw [disconnected]
    decide
  · exact shrinkToFit_evicts_oldest banned.symm disconnected.symm

end PeerDB

end Eth2Libp2p
