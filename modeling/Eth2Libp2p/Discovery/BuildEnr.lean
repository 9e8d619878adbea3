import Eth2Libp2p.Discovery.Enr
import Eth2Libp2p.PeerManager.MetaData

/-! # Building the local ENR

`build_enr` builds the node's record from the network configuration: the
addresses and UDP ports as configured, the TCP and QUIC ports as configured or
else those the node listens on (QUIC only when it is enabled), the fork id, the
default subnet bitfields and, once the PeerDAS fork epoch is set, the custody
subnet count. Peers read that count back with `custody_subnet_count`.

The main results:
* `buildOrLoadEnr_custodySubnetCount`: the record a start advertises, built or
  loaded from disk, gives `custody_subnet_count` the count the configuration
  chooses, provided the chain config's custody requirement does not exceed its
  number of data column subnets;
* `restart_advertises_same_record`: a start that builds the same record as the
  start before it, whose record was written, advertises that start's record
  again and neither re-signs nor rewrites it.

The encodings of the entries (SSZ of the fork id and of the bitfields, RLP of the
count) and the signing key are not among the sources: the encoded fork id and
bitfields are given as bytes, the count's codec (`EnrEncoding`) carries its
round trip, and signing is a function that may fail, as in `Enr.setSeq`. The
client information of EIP-7636 (`client_info`, skipped for a `private` node)
is left out with the rest of the record `Enr` does not keep.
-/

namespace Eth2Libp2p

/-- The ports of a listening address (`ListenAddr`), `u16` values. -/
structure ListenAddr where
  tcpPort : Nat
  quicPort : Nat
  deriving DecidableEq, Repr

/-- The part of `NetworkConfig` `build_enr` reads. A configured ENR port is a
`NonZeroU16`. -/
structure NetworkConfig where
  enrAddress : Option Nat × Option Nat
  enrUdp4Port : Option Nat
  enrUdp6Port : Option Nat
  enrQuic4Port : Option Nat
  enrQuic6Port : Option Nat
  enrTcp4Port : Option Nat
  enrTcp6Port : Option Nat
  disableQuicSupport : Bool
  listenV4 : Option ListenAddr
  listenV6 : Option ListenAddr
  subscribeAllDataColumnSubnets : Bool
  deriving DecidableEq, Repr

/-- `port.try_into().ok()` into a `NonZeroU16`. -/
def nonZeroPort (port : Nat) : Option Nat := if port = 0 then none else some port

/-- What encodes the entries of the local ENR, outside the sources: the SSZ bytes
of the default attestation and sync committee bitfields, and the RLP codec of a
`u64`, whose decoding reads back what it encodes. -/
structure EnrEncoding where
  defaultAttnets : List Nat
  defaultSyncnets : List Nat
  encodeU64 : Nat → List Nat
  decodeU64 : List Nat → Option Nat
  decode_encode : ∀ value, decodeU64 (encodeU64 value) = some value

/-- The custody subnet count `build_enr` writes once the PeerDAS fork epoch is
set: all data column subnets for a node subscribed to all of them, the custody
requirement otherwise. -/
def NetworkConfig.custodySubnetCount (spec : ChainSpec) (config : NetworkConfig) : Nat :=
  if config.subscribeAllDataColumnSubnets then spec.dataColumnSidecarSubnetCount
  else spec.custodyRequirement

/-- The record `build_enr`'s builder holds before it is signed, at sequence
number 1, on the SSZ bytes of the fork id. -/
def unsignedEnr (spec : ChainSpec) (encoding : EnrEncoding) (nodeId : Nat) (config : NetworkConfig)
    (enrForkId : List Nat) : Enr :=
  let quic4 := if config.disableQuicSupport then none
    else config.enrQuic4Port.or (config.listenV4.bind fun addr => nonZeroPort addr.quicPort)
  let quic6 := if config.disableQuicSupport then none
    else config.enrQuic6Port.or (config.listenV6.bind fun addr => nonZeroPort addr.quicPort)
  let tcp4 := config.enrTcp4Port.or (config.listenV4.bind fun addr => nonZeroPort addr.tcpPort)
  let tcp6 := config.enrTcp6Port.or (config.listenV6.bind fun addr => nonZeroPort addr.tcpPort)
  let csc := if spec.isEip7594ForkEpochSet then some (encoding.encodeU64 (config.custodySubnetCount spec))
    else none
  { seq := 1, nodeId := nodeId, ip4 := config.enrAddress.1, ip6 := config.enrAddress.2,
    tcp4 := tcp4, tcp6 := tcp6, quic4 := quic4, quic6 := quic6,
    udp4 := config.enrUdp4Port, udp6 := config.enrUdp6Port, eth2 := some enrForkId,
    attnets := some encoding.defaultAttnets, syncnets := some encoding.defaultSyncnets, csc := csc,
    signature := [], seq_le := by decide }

/-- `build_enr` with the node's id and signing key: the builder's record signed,
or the signer's error. -/
def buildEnr (spec : ChainSpec) (encoding : EnrEncoding) (nodeId : Nat)
    (sign : Enr → Except String (List Nat)) (config : NetworkConfig) (enrForkId : List Nat) :
    Except String Enr :=
  let unsigned := unsignedEnr spec encoding nodeId config enrForkId
  match sign unsigned with
  | .ok signature => .ok { unsigned with signature := signature }
  | .error e => .error ("Could not build Local ENR: " ++ e)

/-- `Eth2Enr::custody_subnet_count`: the count the record carries, if it decodes
and lies between the custody requirement and the number of data column
subnets. -/
def Enr.custodySubnetCount (decodeU64 : List Nat → Option Nat) (spec : ChainSpec) (enr : Enr) :
    Except String Nat :=
  match enr.csc with
  | none => .error "ENR custody subnet count non-existent"
  | some bytes =>
    match decodeU64 bytes with
    | none => .error "Could not decode the ENR custody subnet count"
    | some csc =>
      if spec.custodyRequirement ≤ csc ∧ csc ≤ spec.dataColumnSidecarSubnetCount then .ok csc
      else .error "Invalid custody subnet count in ENR"

/-- The record `build_enr` returns carries the count it writes. -/
theorem buildEnr_csc {spec : ChainSpec} {encoding : EnrEncoding} {nodeId : Nat}
    {sign : Enr → Except String (List Nat)} {config : NetworkConfig} {enrForkId : List Nat} {enr : Enr}
    (built : buildEnr spec encoding nodeId sign config enrForkId = .ok enr) :
    enr.csc = if spec.isEip7594ForkEpochSet then some (encoding.encodeU64 (config.custodySubnetCount spec))
      else none := by
  unfold buildEnr at built
  dsimp only at built
  split at built
  · cases built
    rfl
  · cases built

/-- A record carrying the custody subnet count `build_enr` writes gives it back
to `custody_subnet_count`, provided the custody requirement does not exceed the
number of data column subnets. -/
theorem Enr.custodySubnetCount_of_csc {spec : ChainSpec} {encoding : EnrEncoding} {config : NetworkConfig}
    {enr : Enr}
    (written : enr.csc = if spec.isEip7594ForkEpochSet then
      some (encoding.encodeU64 (config.custodySubnetCount spec)) else none)
    (bounds : spec.custodyRequirement ≤ spec.dataColumnSidecarSubnetCount) :
    enr.custodySubnetCount encoding.decodeU64 spec =
      if spec.isEip7594ForkEpochSet then .ok (config.custodySubnetCount spec)
      else .error "ENR custody subnet count non-existent" := by
  have within : spec.custodyRequirement ≤ config.custodySubnetCount spec ∧
      config.custodySubnetCount spec ≤ spec.dataColumnSidecarSubnetCount := by
    unfold NetworkConfig.custodySubnetCount
    split <;> omega
  unfold Enr.custodySubnetCount
  rw [written]
  cases spec.isEip7594ForkEpochSet <;> simp [encoding.decode_encode, within]

/-! ## Restarting with the same record -/

/-- `compare_enr` accepts a record against itself. -/
theorem compareEnr_self (enr : Enr) : compareEnr enr enr = true := by
  simp [compareEnr]

/-- Re-signing at another sequence number changes nothing `compare_enr` reads. -/
theorem compareEnr_setSeq {enr updated : Enr} {seq : Nat} {fits : seq ≤ U64_MAX}
    {sign : Enr → Except String (List Nat)} (signed : enr.setSeq seq fits sign = .ok updated) :
    compareEnr enr updated = true := by
  unfold Enr.setSeq at signed
  dsimp only at signed
  split at signed
  · cases signed
    simp [compareEnr]
  · cases signed

/-- A successful `use_or_load_enr` leaves a record of the built record's node
that `compare_enr` accepts against it, and when it does not go on to write it,
that record is the one on disk. -/
theorem useOrLoadEnr_compareEnr {sign : Enr → Except String (List Nat)} {built : Enr}
    {onDisk : Option Enr} {result : Enr} {saved : Bool}
    (loaded : useOrLoadEnr sign built onDisk = .ok (result, saved)) :
    result.nodeId = built.nodeId ∧ compareEnr built result = true ∧
      (saved = false → onDisk = some result) := by
  unfold useOrLoadEnr at loaded
  split at loaded
  case h_1 diskEnr =>
    split at loaded
    case isTrue sameNode =>
      split at loaded
      case isTrue same =>
        cases loaded
        exact ⟨sameNode.symm, same, fun _ => rfl⟩
      case isFalse =>
        split at loaded
        · cases signed : built.setSeq (diskEnr.seq + 1) ‹_› sign with
          | error e => rw [signed] at loaded; cases loaded
          | ok updated =>
            rw [signed] at loaded
            cases loaded
            exact ⟨(Enr.setSeq_ok signed).2, compareEnr_setSeq signed, fun absurd => by cases absurd⟩
        · cases loaded
    case isFalse =>
      cases loaded
      exact ⟨rfl, compareEnr_self _, fun absurd => by cases absurd⟩
  case h_2 =>
    cases loaded
    exact ⟨rfl, compareEnr_self _, fun absurd => by cases absurd⟩

/-- **A restart with the same record changes nothing.** If a start whose record
gets written advertises a record, the next start that builds the same record
advertises that record again, without re-signing it, and the file still holds
it. -/
theorem restart_advertises_same_record {sign : Enr → Except String (List Nat)} {onDisk : Option Enr}
    {built adv : Enr} (first : (Start.run sign onDisk ⟨built, true⟩).1 = some adv) :
    Start.run sign (Start.run sign onDisk ⟨built, true⟩).2 ⟨built, true⟩ = (some adv, some adv) := by
  unfold Start.run at first
  split at first
  case h_2 => cases first
  case h_1 result saved loaded =>
    cases first
    dsimp only at loaded
    obtain ⟨sameNode, same, kept⟩ := useOrLoadEnr_compareEnr loaded
    -- the first start leaves its record in the file, written or found there
    have file : (Start.run sign onDisk ⟨built, true⟩).2 = some adv := by
      cases saved
      · simpa [Start.run, loaded] using kept rfl
      · simp [Start.run, loaded]
    rw [file]
    simp [Start.run, useOrLoadEnr, sameNode, same]

/-- The file holds the node's record at sequence number 3 on TCP port 9001; the
node now listens on 9000, so its first start re-signs at 4, and the restart
advertises that record again. -/
theorem restart_advertises_same_record_after_port_change :
    ∃ built adv : Enr, adv.seq = 4 ∧
      (Start.run (fun _ => .ok []) (some ⟨3, 0, none, none, some 9001, none, none, none, none, none, none,
        none, none, none, [], by decide⟩) ⟨built, true⟩).1 = some adv ∧
      Start.run (fun _ => .ok []) (Start.run (fun _ => .ok []) (some ⟨3, 0, none, none, some 9001, none,
        none, none, none, none, none, none, none, none, [], by decide⟩) ⟨built, true⟩).2 ⟨built, true⟩ =
        (some adv, some adv) :=
  ⟨⟨1, 0, none, none, some 9000, none, none, none, none, none, none, none, none, none, [], by decide⟩, _,
    rfl, rfl, restart_advertises_same_record rfl⟩

/-! ## The custody subnet count advertised -/

/-- A record on disk that `compare_enr` accepts carries the built record's custody
subnet count. -/
theorem compareEnr_csc {localEnr diskEnr : Enr} (same : compareEnr localEnr diskEnr = true) :
    diskEnr.csc = localEnr.csc := by
  simp only [compareEnr, Bool.and_eq_true, beq_iff_eq] at same
  exact same.2.symm

/-- **A record loaded from disk advertises the configured custody subnet
count.** Whatever the ENR file holds, the record a start advertises, built or
loaded, gives peers' `custody_subnet_count` the count the current configuration
chooses, as the record `build_enr` builds does: `compare_enr` keeps a record from
disk only with the same count, and re-signing keeps the built one's. -/
theorem buildOrLoadEnr_custodySubnetCount {spec : ChainSpec} {encoding : EnrEncoding} {nodeId : Nat}
    {sign : Enr → Except String (List Nat)} {config : NetworkConfig} {enrForkId : List Nat} {built : Enr}
    (builtOk : buildEnr spec encoding nodeId sign config enrForkId = .ok built)
    (bounds : spec.custodyRequirement ≤ spec.dataColumnSidecarSubnetCount) {onDisk : Option Enr}
    {written : Bool} {adv : Enr} (advertisedRecord : (Start.run sign onDisk ⟨built, written⟩).1 = some adv) :
    adv.custodySubnetCount encoding.decodeU64 spec =
      if spec.isEip7594ForkEpochSet then .ok (config.custodySubnetCount spec)
      else .error "ENR custody subnet count non-existent" := by
  unfold Start.run at advertisedRecord
  split at advertisedRecord
  case h_2 => cases advertisedRecord
  case h_1 result saved loaded =>
    cases advertisedRecord
    refine Enr.custodySubnetCount_of_csc ?_ bounds
    rw [compareEnr_csc (useOrLoadEnr_compareEnr loaded).2.1]
    exact buildEnr_csc builtOk

/-- Node 7's record at sequence number 3, written when it custodied all 128 data
column subnets. -/
def custodyAllEnr : Enr :=
  ⟨3, 7, some 1, none, some 9000, none, some 9001, none, none, none, some [2], some [0], some [0], some [128],
    [], by decide⟩

/-- With `custodyAllEnr` on disk and the node now custodying the requirement, the
start re-signs its record and peers read 4. -/
theorem buildOrLoadEnr_custodySubnetCount_after_custody_change :
    ∃ built adv, buildEnr ⟨some 5, 4, 128⟩ ⟨[0], [0], fun value => [value], List.head?, fun _ => rfl⟩ 7
        (fun _ => .ok []) ⟨(some 1, none), none, none, none, none, none, none, false,
          some ⟨9000, 9001⟩, none, false⟩ [2] = .ok built ∧
      (Start.run (fun _ => .ok []) (some custodyAllEnr) ⟨built, true⟩).1 = some adv ∧
      adv.seq = 4 ∧ adv.custodySubnetCount List.head? ⟨some 5, 4, 128⟩ = .ok 4 :=
  ⟨_, _, rfl, rfl, rfl, (@buildOrLoadEnr_custodySubnetCount ⟨some 5, 4, 128⟩
    ⟨[0], [0], fun value => [value], List.head?, fun _ => rfl⟩ 7 (fun _ => .ok [])
    ⟨(some 1, none), none, none, none, none, none, none, false, some ⟨9000, 9001⟩, none, false⟩ [2] _ rfl
    (by decide) (some custodyAllEnr) true _ rfl).trans rfl⟩

end Eth2Libp2p
