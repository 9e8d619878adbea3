import Eth2Libp2p.PeerManager.Swarm

/-! # Peer metadata: pings, pongs and metadata responses

A node advertises its metadata (`MetaData`: a sequence number, its subnet
bitfields and, from version 3, its custody subnet count) and learns its peers'
by pinging them. A ping or a pong carries the sender's sequence number;
`ping_request` and `pong_response` queue a metadata request
(`PeerManagerEvent::MetaData`) for a known peer whose number is newer than that
of the metadata stored for it, or whose metadata is unknown
(`Node.pingRequest_metaDataEvents`, `Node.pongResponse_metaDataEvents`).
`meta_data_response` stores what the peer sends whatever its sequence number
(`Node.metaDataResponse_metaData`); once the PeerDAS fork epoch is set it also
derives the peer's custody subnets from the custody subnet count the metadata
carries, and says goodbye to the peer when they cannot be computed
(`Node.metaDataResponse_sw`). The service (`inject_rpc_event`) answers a ping
with a pong carrying the node's own sequence number and a metadata request of
a connected peer with the node's metadata, in the version the request asked
for (`Node.injectRpcEvent_answer`).

The handlers work on a `Node`: the swarm and peer manager of this model, with
what `PeerInfo`, `PeerManager` and `PeerManagerEvent` leave out: the fields of a
peer's record the exchange uses (`PeerRecord`), the two ping timer sets and the
queued metadata events. `peer_id_to_node_id`, the computation of custody
subnets and the conversions of metadata between versions are not among the
sources and are parameters (`Custody`, `MetaDataCodec`). The timers
themselves, the rate limiting of the RPC behaviour, the logs and the metadata
file are left out.
-/

namespace Eth2Libp2p

/-- A subnet bitfield (`EnrAttestationBitfield`, `EnrSyncCommitteeBitfield`). -/
abbrev Bitfield := List Bool

/-- A node's metadata (`MetaData`): version 1 holds the sequence number and the
attestation bitfield, version 2 adds the sync committee bitfield, version 3 the
custody subnet count. -/
inductive MetaData where
  | v1 (seqNumber : Nat) (attnets : Bitfield)
  | v2 (seqNumber : Nat) (attnets syncnets : Bitfield)
  | v3 (seqNumber : Nat) (attnets syncnets : Bitfield) (custodySubnetCount : Nat)
  deriving DecidableEq, Repr

namespace MetaData

/-- `seq_number`. -/
def seqNumber : MetaData → Nat
  | .v1 seqNumber _ | .v2 seqNumber _ _ | .v3 seqNumber _ _ _ => seqNumber

/-- `custody_subnet_count`: only version 3 has one. -/
def custodySubnetCount : MetaData → Option Nat
  | .v3 _ _ _ custodySubnetCount => some custodySubnetCount
  | _ => none

/-- The write of `update_metadata_bitfields`: the sequence number one up
(`+= 1`), the attestation bitfield of the local ENR, and its sync committee
bitfield where the version has one. -/
def updateBitfields (attnets syncnets : Bitfield) : MetaData → MetaData
  | .v1 seqNumber _ => .v1 (seqNumber + 1) attnets
  | .v2 seqNumber _ _ => .v2 (seqNumber + 1) attnets syncnets
  | .v3 seqNumber _ _ custodySubnetCount => .v3 (seqNumber + 1) attnets syncnets custodySubnetCount

@[simp] theorem seqNumber_updateBitfields (attnets syncnets : Bitfield) (metaData : MetaData) :
    (metaData.updateBitfields attnets syncnets).seqNumber = metaData.seqNumber + 1 := by
  cases metaData <;> rfl

end MetaData

/-- The version of a metadata request (`MetadataRequest`). -/
inductive MetadataVersion where
  | v1
  | v2
  | v3
  deriving DecidableEq, Repr

/-- How the RPC codec sends metadata in the version a request asked for
(`metadata_v1`, `metadata_v2`, `metadata_v3` of `methods.rs`, which are not
among the sources): any conversion that keeps the sequence number. -/
structure MetaDataCodec where
  toVersion : MetadataVersion → MetaData → MetaData
  seqNumber_toVersion : ∀ version metaData, (toVersion version metaData).seqNumber = metaData.seqNumber

attribute [simp] MetaDataCodec.seqNumber_toVersion

/-- The part of the chain spec the metadata handlers read (`ChainSpec`): the
PeerDAS fork epoch, if set, and the bounds of a custody subnet count. -/
structure ChainSpec where
  eip7594ForkEpoch : Option Nat
  custodyRequirement : Nat
  dataColumnSidecarSubnetCount : Nat
  deriving DecidableEq, Repr

/-- `is_eip7594_fork_epoch_set`. -/
def ChainSpec.isEip7594ForkEpochSet (spec : ChainSpec) : Bool := spec.eip7594ForkEpoch.isSome

/-- The version `send_meta_data_request` asks for: version 3 once the PeerDAS
fork epoch is set, version 2 before. -/
def ChainSpec.metaDataRequestVersion (spec : ChainSpec) : MetadataVersion :=
  if spec.isEip7594ForkEpochSet then .v3 else .v2

/-- What custody subnets are computed from, defined outside the repository's
sources: the chain spec, a peer's node id (`peer_id_to_node_id`, which fails
for a key without one), a node's custody subnets for a count
(`compute_custody_subnets`) and those of the custody requirement
(`compute_custody_requirement_subnets`). -/
structure Custody where
  spec : ChainSpec
  peerIdToNodeId : PeerId → Except String Nat
  computeCustodySubnets : Nat → Nat → Except String (List Nat)
  computeCustodyRequirementSubnets : Nat → List Nat

/-- `compute_peer_custody_subnets`: the peer's custody subnets for a count
between the custody requirement and the number of data column subnets, falling
back to those of the custody requirement when the computation fails. -/
def Custody.computePeerCustodySubnets (custody : Custody) (peerId : PeerId)
    (custodySubnetCount : Nat) : Except String (List Nat) :=
  match custody.peerIdToNodeId peerId with
  | .error err => .error err
  | .ok nodeId =>
    if custody.spec.custodyRequirement ≤ custodySubnetCount ∧
        custodySubnetCount ≤ custody.spec.dataColumnSidecarSubnetCount then
      match custody.computeCustodySubnets nodeId custodySubnetCount with
      | .ok subnets => .ok subnets
      | .error _ => .ok (custody.computeCustodyRequirementSubnets nodeId)
    else .error "Invalid custody subnet count in metadata: out of range"

/-- The computation fails exactly for a peer without a node id or a count out
of range. -/
theorem Custody.computePeerCustodySubnets_ok_iff (custody : Custody) (peerId : PeerId)
    (custodySubnetCount : Nat) :
    (∃ subnets, custody.computePeerCustodySubnets peerId custodySubnetCount = .ok subnets) ↔
      (∃ nodeId, custody.peerIdToNodeId peerId = .ok nodeId) ∧
        custody.spec.custodyRequirement ≤ custodySubnetCount ∧
        custodySubnetCount ≤ custody.spec.dataColumnSidecarSubnetCount := by
  unfold computePeerCustodySubnets
  split
  · simp [*]
  · split
    · split <;> simp_all
    · simp_all

/-- The fields of a peer's record (`PeerInfo`) that the metadata handlers read
and write and that `PeerInfo` of this model leaves out: the direction of its
connection, the metadata it last sent and its custody subnets. -/
structure PeerRecord where
  connectionDirection : Option ConnectionDirection
  metaData : Option MetaData
  custodySubnets : List Nat
  deriving DecidableEq, Repr

/-- The record of a new peer (`PeerInfo::default`). -/
def PeerRecord.new : PeerRecord := ⟨none, none, []⟩

/-- A node as the metadata exchange sees it: its swarm and peer manager, the
metadata fields of each peer's record, the peers of the two ping timers
(`inbound_ping_peers`, `outbound_ping_peers`, earliest expiry first), the
peers of the `MetaData` events queued for the service, and the node's own
metadata (`local_metadata`). -/
structure Node where
  sw : Swarm
  records : PeerId → PeerRecord
  inboundPingPeers : List PeerId
  outboundPingPeers : List PeerId
  metaDataEvents : List PeerId
  localMetaData : MetaData

/-- `HashSetDelay::insert`: the peer goes last, its timer renewed. -/
def insertPingPeer (peers : List PeerId) (peerId : PeerId) : List PeerId :=
  peers.filter (· ≠ peerId) ++ [peerId]

/-- The messages of the exchange: a ping or a pong with the sender's sequence
number (`Ping`), a metadata request of a version, and a metadata response. -/
inductive Body where
  | ping (seq : Nat)
  | pong (seq : Nat)
  | metaDataRequest (version : MetadataVersion)
  | metaDataResponse (metaData : MetaData)
  deriving DecidableEq, Repr

namespace Node

variable (node : Node)

/-- Replace a peer's record. -/
def setRecord (peerId : PeerId) (record : PeerRecord) : Node :=
  { node with records := Function.update node.records peerId record }

/-- `goodbye_peer`, on the node's peer manager. -/
def goodbyePeer (peerId : PeerId) (reason : GoodbyeReason) (now : Instant) : Node :=
  { node with sw := { node.sw with pm := node.sw.pm.goodbyePeer peerId reason now } }

/-- Queue `PeerManagerEvent::MetaData`. -/
def pushMetaData (peerId : PeerId) : Node :=
  { node with metaDataEvents := node.metaDataEvents ++ [peerId] }

/-- The check `ping_request` and `pong_response` share: a metadata request for
the peer when the sequence number it reports is newer than that of its
metadata, or its metadata is unknown. -/
def requestMetaDataIfNewer (peerId : PeerId) (seq : Nat) : Node :=
  match (node.records peerId).metaData with
  | some metaData => if metaData.seqNumber < seq then node.pushMetaData peerId else node
  | none => node.pushMetaData peerId

/-- `ping_request`: a ping of a known peer renews the ping timer of its
connection's direction and is checked for newer metadata; one of an unknown
peer is only logged. -/
def pingRequest (peerId : PeerId) (seq : Nat) : Node :=
  match node.sw.pm.db.peerInfo peerId with
  | none => node
  | some _ =>
    let node := match (node.records peerId).connectionDirection with
      | some .incoming => { node with inboundPingPeers := insertPingPeer node.inboundPingPeers peerId }
      | some .outgoing => { node with outboundPingPeers := insertPingPeer node.outboundPingPeers peerId }
      | none => node
    node.requestMetaDataIfNewer peerId seq

/-- `pong_response`. -/
def pongResponse (peerId : PeerId) (seq : Nat) : Node :=
  match node.sw.pm.db.peerInfo peerId with
  | none => node
  | some _ => node.requestMetaDataIfNewer peerId seq

/-- `meta_data_response`: the metadata of a known peer is stored, also when it
is older than the one stored ("to prevent storing incorrect `attnets/syncnets`");
once the PeerDAS fork epoch is set, its custody subnet count gives the peer's
custody subnets, or a goodbye (`GoodbyeReason::Fault`) when they cannot be
computed. -/
def metaDataResponse (custody : Custody) (peerId : PeerId) (metaData : MetaData) (now : Instant) :
    Node :=
  match node.sw.pm.db.peerInfo peerId with
  | none => node
  | some _ =>
    let node := node.setRecord peerId { node.records peerId with metaData := some metaData }
    match custody.spec.isEip7594ForkEpochSet, metaData.custodySubnetCount with
    | true, some custodySubnetCount =>
      match custody.computePeerCustodySubnets peerId custodySubnetCount with
      | .ok custodySubnets =>
        node.setRecord peerId { node.records peerId with custodySubnets := custodySubnets }
      | .error _ => node.goodbyePeer peerId .fault now
    | _, _ => node

/-- `inject_rpc_event` on a message of the exchange from `src`, with the answer
the node sends back. A request of a peer that is not connected is ignored. The
RPC behaviour answers a ping itself, before the service sees it, with a pong
carrying the node's sequence number (`update_seq_number` keeps it that of the
local metadata); the service answers a metadata request with the local
metadata, which the codec sends in the version asked for. -/
def injectRpcEvent (custody : Custody) (codec : MetaDataCodec) (src : PeerId) (now : Instant) :
    Body → Node × Option Body
  | .ping seq =>
    (if node.sw.pm.db.isConnected src then node.pingRequest src seq else node,
      some (.pong node.localMetaData.seqNumber))
  | .pong seq => (node.pongResponse src seq, none)
  | .metaDataRequest version =>
    (node, if node.sw.pm.db.isConnected src then
      some (.metaDataResponse (codec.toVersion version node.localMetaData)) else none)
  | .metaDataResponse metaData => (node.metaDataResponse custody src metaData now, none)

section Fields

variable (peerId : PeerId) (seq : Nat)

@[simp] theorem setRecord_records (record : PeerRecord) :
    (node.setRecord peerId record).records = Function.update node.records peerId record := rfl

@[simp] theorem setRecord_localMetaData (record : PeerRecord) :
    (node.setRecord peerId record).localMetaData = node.localMetaData := rfl

@[simp] theorem setRecord_metaDataEvents (record : PeerRecord) :
    (node.setRecord peerId record).metaDataEvents = node.metaDataEvents := rfl

@[simp] theorem requestMetaDataIfNewer_records :
    (node.requestMetaDataIfNewer peerId seq).records = node.records := by
  unfold requestMetaDataIfNewer
  split <;> (try split) <;> rfl

@[simp] theorem requestMetaDataIfNewer_localMetaData :
    (node.requestMetaDataIfNewer peerId seq).localMetaData = node.localMetaData := by
  unfold requestMetaDataIfNewer
  split <;> (try split) <;> rfl

@[simp] theorem requestMetaDataIfNewer_sw : (node.requestMetaDataIfNewer peerId seq).sw = node.sw := by
  unfold requestMetaDataIfNewer
  split <;> (try split) <;> rfl

/-- A request is queued exactly when the peer's metadata is unknown or older
than `seq`. -/
theorem requestMetaDataIfNewer_metaDataEvents :
    (node.requestMetaDataIfNewer peerId seq).metaDataEvents = node.metaDataEvents ++
      if (node.records peerId).metaData.all (·.seqNumber < seq) then [peerId] else [] := by
  unfold requestMetaDataIfNewer
  split
  · rename_i known
    simp only [known, Option.all_some, decide_eq_true_eq]
    split <;> simp [pushMetaData]
  · rename_i unknown
    simp [unknown, pushMetaData]

@[simp] theorem pingRequest_records : (node.pingRequest peerId seq).records = node.records := by
  unfold pingRequest
  split
  · rfl
  · split <;> exact requestMetaDataIfNewer_records ..

@[simp] theorem pingRequest_localMetaData :
    (node.pingRequest peerId seq).localMetaData = node.localMetaData := by
  unfold pingRequest
  split
  · rfl
  · split <;> exact requestMetaDataIfNewer_localMetaData ..

@[simp] theorem pingRequest_sw : (node.pingRequest peerId seq).sw = node.sw := by
  unfold pingRequest
  split
  · rfl
  · split <;> exact requestMetaDataIfNewer_sw ..

/-- `ping_request` queues a metadata request for a known peer whose metadata is
unknown or older than the ping's sequence number, and for no other. -/
theorem pingRequest_metaDataEvents :
    (node.pingRequest peerId seq).metaDataEvents = node.metaDataEvents ++
      if (node.sw.pm.db.peerInfo peerId).isSome ∧ (node.records peerId).metaData.all (·.seqNumber < seq)
      then [peerId] else [] := by
  unfold pingRequest
  split
  · simp_all
  · split <;> simp_all [requestMetaDataIfNewer_metaDataEvents]

@[simp] theorem pongResponse_records : (node.pongResponse peerId seq).records = node.records := by
  unfold pongResponse
  split <;> simp only [requestMetaDataIfNewer_records]

@[simp] theorem pongResponse_localMetaData :
    (node.pongResponse peerId seq).localMetaData = node.localMetaData := by
  unfold pongResponse
  split <;> simp only [requestMetaDataIfNewer_localMetaData]

@[simp] theorem pongResponse_sw : (node.pongResponse peerId seq).sw = node.sw := by
  unfold pongResponse
  split <;> simp only [requestMetaDataIfNewer_sw]

/-- `pong_response` queues a metadata request exactly as `ping_request` does. -/
theorem pongResponse_metaDataEvents :
    (node.pongResponse peerId seq).metaDataEvents = node.metaDataEvents ++
      if (node.sw.pm.db.peerInfo peerId).isSome ∧ (node.records peerId).metaData.all (·.seqNumber < seq)
      then [peerId] else [] := by
  unfold pongResponse
  split
  · simp_all
  · simp_all [requestMetaDataIfNewer_metaDataEvents]

end Fields

section Response

variable (custody : Custody) (peerId : PeerId) (metaData : MetaData) (now : Instant)

/-- What `meta_data_response` does to the node besides the peer's record: a
goodbye to the peer when its custody subnets cannot be computed, nothing else. -/
theorem metaDataResponse_sw :
    (node.metaDataResponse custody peerId metaData now).sw =
      if (node.sw.pm.db.peerInfo peerId).isSome ∧ custody.spec.isEip7594ForkEpochSet ∧
          metaData.custodySubnetCount.any fun count => !(custody.computePeerCustodySubnets peerId count).toBool
      then { node.sw with pm := node.sw.pm.goodbyePeer peerId .fault now }
      else node.sw := by
  unfold metaDataResponse
  split
  · simp_all
  · split
    · split <;> simp_all [goodbyePeer, setRecord, Except.toBool]
    · rename_i unset
      refine (if_neg ?_).symm
      rintro ⟨-, set, rejected⟩
      cases carried : metaData.custodySubnetCount with
      | none => rw [carried] at rejected; cases rejected
      | some count => exact unset count set carried

/-- `meta_data_response` stores the metadata of a known peer, whatever its
sequence number, and no other. -/
theorem metaDataResponse_metaData (other : PeerId) :
    ((node.metaDataResponse custody peerId metaData now).records other).metaData =
      if other = peerId ∧ (node.sw.pm.db.peerInfo peerId).isSome then some metaData
      else (node.records other).metaData := by
  unfold metaDataResponse
  split
  · simp_all
  · split <;> (try split) <;> by_cases same : other = peerId <;>
      simp_all [setRecord, goodbyePeer, Function.update_apply]

@[simp] theorem metaDataResponse_localMetaData :
    (node.metaDataResponse custody peerId metaData now).localMetaData = node.localMetaData := by
  unfold metaDataResponse
  split <;> (try split) <;> (try split) <;> rfl

@[simp] theorem metaDataResponse_metaDataEvents :
    (node.metaDataResponse custody peerId metaData now).metaDataEvents = node.metaDataEvents := by
  unfold metaDataResponse
  split <;> (try split) <;> (try split) <;> rfl

end Response

section Service

variable (custody : Custody) (codec : MetaDataCodec) (src : PeerId) (now : Instant)

@[simp] theorem injectRpcEvent_localMetaData (body : Body) :
    (node.injectRpcEvent custody codec src now body).1.localMetaData = node.localMetaData := by
  cases body <;> simp only [injectRpcEvent] <;> (try split) <;>
    simp only [pingRequest_localMetaData, pongResponse_localMetaData, metaDataResponse_localMetaData]

/-- A node only ever answers with its own sequence number, or its own metadata
in the version asked for. -/
theorem injectRpcEvent_answer (body reply : Body)
    (answered : (node.injectRpcEvent custody codec src now body).2 = some reply) :
    reply = .pong node.localMetaData.seqNumber ∨
      ∃ version, body = .metaDataRequest version ∧
        reply = .metaDataResponse (codec.toVersion version node.localMetaData) := by
  cases body with
  | ping seq => exact .inl (Option.some_injective _ answered).symm
  | pong seq => cases answered
  | metaDataRequest version =>
    simp only [injectRpcEvent] at answered
    split at answered
    · exact .inr ⟨version, rfl, (Option.some_injective _ answered).symm⟩
    · cases answered
  | metaDataResponse metaData => cases answered

/-- Receiving a message stores no metadata but that of a response from the
sender. -/
theorem injectRpcEvent_metaData (body : Body) (peerId : PeerId) (metaData : MetaData)
    (stored : ((node.injectRpcEvent custody codec src now body).1.records peerId).metaData = some metaData) :
    (node.records peerId).metaData = some metaData ∨
      (peerId = src ∧ body = .metaDataResponse metaData) := by
  cases body with
  | ping seq =>
    simp only [injectRpcEvent] at stored
    split at stored <;> simp_all
  | pong seq => simp_all [injectRpcEvent]
  | metaDataRequest version => exact .inl stored
  | metaDataResponse response =>
    simp only [injectRpcEvent, metaDataResponse_metaData] at stored
    split at stored
    · rename_i known
      exact .inr ⟨known.1, by rw [Option.some_injective _ stored]⟩
    · exact .inl stored

end Service

end Node

end Eth2Libp2p
