import Eth2Libp2p.PeerManager.MetaData
import Eth2Libp2p.RPC.RateLimiter

/-! # The metadata exchange between nodes

Nodes exchange the messages of `Body` over a network that delivers them in any
order, or loses them (`Network.Step`). A node pings any peer with its sequence
number; the pongs, the metadata requests they trigger and the answers are
handled by the receiver's `Node.injectRpcEvent`; a node moves its metadata one
sequence number up (`update_metadata_bitfields`); and each node's swarm takes
its own steps (`Swarm.Step`). The network keeps, as a ghost, the metadata each
node had before its current one (`Network.older`).

Every run from nodes that store no metadata of their peers (`Network.start`)
keeps `Network.Consistent`: a node's sequence numbers only grow, and whatever a
message carries or a node stores was its sender's. Hence what a node stores of
a peer is metadata the peer had, never newer than its current one, and its
current one when the two sequence numbers agree
(`Network.stored_metaData_follows`); a ping or a pong carrying the peer's
current sequence number queues a metadata request exactly when what is stored
is not the peer's current metadata (`Network.requests_exactly_when_stale`); and
one ping round leaves a node storing its peer's current metadata
(`Network.ping_round_refreshes`). Metadata may be stored out of order: an
earlier response delivered late replaces a later one, as `meta_data_response`
intends.
-/

namespace Eth2Libp2p

/-- A message in flight from `src` to `dst`. -/
structure Message where
  src : PeerId
  dst : PeerId
  body : Body
  deriving DecidableEq, Repr

/-- The nodes, the messages in flight, and, as a ghost, every metadata each node
had before its current one, latest first. -/
structure Network where
  nodes : PeerId → Node
  inFlight : List Message
  older : PeerId → List MetaData

namespace Network

variable (s : Network)

/-- Every metadata node `b` has had, its current one first. -/
def pastMetaData (b : PeerId) : List MetaData := (s.nodes b).localMetaData :: s.older b

/-- Replace a node. -/
def setNode (a : PeerId) (node : Node) : Network := { s with nodes := Function.update s.nodes a node }

/-- Put a message in flight. -/
def send (msg : Message) : Network := { s with inFlight := s.inFlight ++ [msg] }

/-- Take a message out of flight. -/
def consume (msg : Message) : Network := { s with inFlight := s.inFlight.erase msg }

/-- The ping of `a` to `b` (`PeerManagerEvent::Ping`, `ping`), with `a`'s
sequence number. -/
def ping (a b : PeerId) : Network := s.send ⟨a, b, .ping (s.nodes a).localMetaData.seqNumber⟩

/-- The service of `a` takes its first queued `MetaData` event and sends the
metadata request (`send_meta_data_request`). -/
def sendMetaDataRequest (spec : ChainSpec) (a : PeerId) : Option Network :=
  match (s.nodes a).metaDataEvents with
  | [] => none
  | peerId :: rest =>
    some ((s.setNode a { s.nodes a with metaDataEvents := rest }).send
      ⟨a, peerId, .metaDataRequest spec.metaDataRequestVersion⟩)

/-- Deliver a message: its receiver handles it and sends its answer back. -/
def deliver (custody : Custody) (codec : MetaDataCodec) (msg : Message) (now : Instant) : Network :=
  let handled := (s.nodes msg.dst).injectRpcEvent custody codec msg.src now msg.body
  let s := (s.consume msg).setNode msg.dst handled.1
  match handled.2 with
  | some answer => s.send ⟨msg.dst, msg.src, answer⟩
  | none => s

/-- `update_metadata_bitfields` at `a`, with the bitfields of its ENR; the
metadata it replaces goes to the ghost. -/
def updateMetadataBitfields (a : PeerId) (attnets syncnets : Bitfield) : Network :=
  { s.setNode a { s.nodes a with
      localMetaData := (s.nodes a).localMetaData.updateBitfields attnets syncnets } with
    older := Function.update s.older a (s.pastMetaData a) }

/-- Nodes with the given swarms and metadata, new records of every peer, and no
message in flight. -/
def start (sw : PeerId → Swarm) (metaData : PeerId → MetaData) : Network where
  nodes a := ⟨sw a, fun _ => .new, [], [], [], metaData a⟩
  inFlight := []
  older _ := []

/-- `a` pings `b`, and `b`'s pong is delivered. -/
def pingPong (custody : Custody) (codec : MetaDataCodec) (a b : PeerId) (now : Instant) : Network :=
  ((s.ping a b).deliver custody codec ⟨a, b, .ping (s.nodes a).localMetaData.seqNumber⟩ now).deliver
    custody codec ⟨b, a, .pong (s.nodes b).localMetaData.seqNumber⟩ now

/-- One ping round of `a` to `b`: the ping and its pong, then the metadata
request the pong queued, if any, sent and answered. -/
def pingRound (custody : Custody) (codec : MetaDataCodec) (a b : PeerId) (now : Instant) : Network :=
  let version := custody.spec.metaDataRequestVersion
  match (s.pingPong custody codec a b now).sendMetaDataRequest custody.spec a with
  | some requested =>
    (requested.deliver custody codec ⟨a, b, .metaDataRequest version⟩ now).deliver custody codec
      ⟨b, a, .metaDataResponse (codec.toVersion version (s.nodes b).localMetaData)⟩ now
  | none => s.pingPong custody codec a b now

section Fields

variable (a : PeerId) (node : Node) (msg : Message)

@[simp] theorem setNode_nodes (b : PeerId) :
    (s.setNode a node).nodes b = if b = a then node else s.nodes b := Function.update_apply ..

@[simp] theorem setNode_inFlight : (s.setNode a node).inFlight = s.inFlight := rfl

@[simp] theorem setNode_older : (s.setNode a node).older = s.older := rfl

@[simp] theorem send_nodes : (s.send msg).nodes = s.nodes := rfl

@[simp] theorem send_inFlight : (s.send msg).inFlight = s.inFlight ++ [msg] := rfl

@[simp] theorem send_older : (s.send msg).older = s.older := rfl

@[simp] theorem consume_nodes : (s.consume msg).nodes = s.nodes := rfl

@[simp] theorem consume_inFlight : (s.consume msg).inFlight = s.inFlight.erase msg := rfl

@[simp] theorem consume_older : (s.consume msg).older = s.older := rfl

@[simp] theorem ping_nodes (b : PeerId) : (s.ping a b).nodes = s.nodes := rfl

@[simp] theorem ping_inFlight (b : PeerId) :
    (s.ping a b).inFlight = s.inFlight ++ [⟨a, b, .ping (s.nodes a).localMetaData.seqNumber⟩] := rfl

theorem deliver_nodes (custody : Custody) (codec : MetaDataCodec) (now : Instant) (c : PeerId) :
    (s.deliver custody codec msg now).nodes c =
      if c = msg.dst then ((s.nodes msg.dst).injectRpcEvent custody codec msg.src now msg.body).1
      else s.nodes c := by
  unfold deliver
  dsimp only
  split <;> simp

theorem deliver_inFlight (custody : Custody) (codec : MetaDataCodec) (now : Instant) :
    (s.deliver custody codec msg now).inFlight = s.inFlight.erase msg ++
      (((s.nodes msg.dst).injectRpcEvent custody codec msg.src now msg.body).2.map fun answer =>
        (⟨msg.dst, msg.src, answer⟩ : Message)).toList := by
  unfold deliver
  dsimp only
  split <;> simp [*]

/-- Replacing a node by one with the same metadata leaves every node's past
alone. -/
theorem pastMetaData_setNode (same : node.localMetaData = (s.nodes a).localMetaData) :
    (s.setNode a node).pastMetaData = s.pastMetaData := by
  funext b
  by_cases here : b = a
  · subst here
    simp [pastMetaData, same]
  · simp [pastMetaData, here]

end Fields

section Invariant

variable (codec : MetaDataCodec) (version : MetadataVersion)

/-- `metaData` is metadata `b` had, in the version `version`. -/
def Had (b : PeerId) (metaData : MetaData) : Prop :=
  ∃ had ∈ s.pastMetaData b, metaData = codec.toVersion version had

/-- What a message carries was its sender's: a sequence number it had, a
request of the version every node asks for, or metadata it had, in that
version. -/
def Sent (src : PeerId) : Body → Prop
  | .ping seq | .pong seq => ∃ metaData ∈ s.pastMetaData src, metaData.seqNumber = seq
  | .metaDataRequest requested => requested = version
  | .metaDataResponse metaData => s.Had codec version src metaData

variable {codec version}

theorem Had.mono {s s' : Network} (grows : ∀ b, s.pastMetaData b ⊆ s'.pastMetaData b) {b : PeerId}
    {metaData : MetaData} : s.Had codec version b metaData → s'.Had codec version b metaData
  | ⟨had, mem, same⟩ => ⟨had, grows b mem, same⟩

/-- What was sent stays sent while every past only grows. -/
theorem Sent.mono {s s' : Network} (grows : ∀ b, s.pastMetaData b ⊆ s'.pastMetaData b) {src : PeerId} :
    ∀ {body : Body}, s.Sent codec version src body → s'.Sent codec version src body
  | .ping _, ⟨metaData, mem, same⟩ | .pong _, ⟨metaData, mem, same⟩ => ⟨metaData, grows src mem, same⟩
  | .metaDataRequest _, same => same
  | .metaDataResponse _, had => Had.mono grows had

/-- The answer to a message that was sent carries the sender's own sequence
number, or its own metadata in the version asked for. -/
theorem sent_answer {src : PeerId} {body reply : Body} (sent : s.Sent codec version src' body)
    (own : reply = .pong (s.nodes src).localMetaData.seqNumber ∨
      ∃ requested, body = .metaDataRequest requested ∧
        reply = .metaDataResponse (codec.toVersion requested (s.nodes src).localMetaData)) :
    s.Sent codec version src reply := by
  rcases own with rfl | ⟨requested, rfl, rfl⟩
  · exact ⟨_, List.mem_cons_self _ _, rfl⟩
  · exact ⟨_, List.mem_cons_self _ _, by rw [show requested = version from sent]⟩

variable (codec version)

/-- The invariant of the exchange: each node's past in strictly decreasing
sequence numbers, and whatever a node stores of a peer, or a message in flight
carries, its sender's. -/
structure Consistent : Prop where
  decreasing : ∀ b, (s.pastMetaData b).Pairwise fun later earlier => earlier.seqNumber < later.seqNumber
  stored : ∀ a b metaData, ((s.nodes a).records b).metaData = some metaData → s.Had codec version b metaData
  sent : ∀ msg ∈ s.inFlight, s.Sent codec version msg.src msg.body

namespace Consistent

variable {s codec version}

theorem start (sw : PeerId → Swarm) (metaData : PeerId → MetaData) :
    (start sw metaData).Consistent codec version where
  decreasing _ := List.pairwise_singleton _ _
  stored _ _ _ none := by cases none
  sent _ none := by cases none

/-- A node replaced by one with the same metadata, that stores nothing its
senders did not have. -/
theorem setNode (consistent : s.Consistent codec version) {a : PeerId} {node : Node}
    (same : node.localMetaData = (s.nodes a).localMetaData)
    (stored : ∀ b metaData, (node.records b).metaData = some metaData → s.Had codec version b metaData) :
    (s.setNode a node).Consistent codec version := by
  have past := s.pastMetaData_setNode a node same
  have grows : ∀ b, s.pastMetaData b ⊆ (s.setNode a node).pastMetaData b := fun b => by
    rw [past]
    exact List.Subset.refl _
  refine ⟨fun b => ?_, fun c b metaData mem => ?_, fun msg mem => Sent.mono grows (consistent.sent msg mem)⟩
  · rw [past]
    exact consistent.decreasing b
  · refine Had.mono grows ?_
    by_cases here : c = a
    · subst here
      simp only [setNode_nodes, if_true] at mem
      exact stored b metaData mem
    · simp only [setNode_nodes, here, if_false] at mem
      exact consistent.stored c b metaData mem

theorem send (consistent : s.Consistent codec version) {msg : Message}
    (sent : s.Sent codec version msg.src msg.body) : (s.send msg).Consistent codec version where
  decreasing := consistent.decreasing
  stored := consistent.stored
  sent other mem := by
    rcases List.mem_append.mp mem with old | new
    · exact consistent.sent other old
    · rw [List.mem_singleton.mp new]
      exact sent

theorem consume (consistent : s.Consistent codec version) (msg : Message) :
    (s.consume msg).Consistent codec version where
  decreasing := consistent.decreasing
  stored := consistent.stored
  sent other mem := consistent.sent other (List.mem_of_mem_erase mem)

theorem deliver (consistent : s.Consistent codec version) (custody : Custody) {msg : Message} (now : Instant)
    (inFlight : msg ∈ s.inFlight) : (s.deliver custody codec msg now).Consistent codec version := by
  have handled := (s.nodes msg.dst).injectRpcEvent_localMetaData custody codec msg.src now msg.body
  have past : ((s.consume msg).setNode msg.dst
      ((s.nodes msg.dst).injectRpcEvent custody codec msg.src now msg.body).1).pastMetaData =
      s.pastMetaData :=
    (s.consume msg).pastMetaData_setNode _ _ handled
  have received : ((s.consume msg).setNode msg.dst
      ((s.nodes msg.dst).injectRpcEvent custody codec msg.src now msg.body).1).Consistent codec version := by
    refine (consistent.consume msg).setNode handled fun b metaData mem => ?_
    rcases (s.nodes msg.dst).injectRpcEvent_metaData custody codec msg.src now msg.body b metaData mem with
      old | ⟨rfl, response⟩
    · exact consistent.stored _ b metaData old
    · have := consistent.sent msg inFlight
      rw [response] at this
      exact this
  unfold Network.deliver
  dsimp only
  split
  · rename_i answered
    refine received.send (@Sent.mono codec version s _ (fun b => past ▸ List.Subset.refl _) _ _ ?_)
    exact s.sent_answer (consistent.sent msg inFlight)
      ((s.nodes msg.dst).injectRpcEvent_answer custody codec msg.src now msg.body _ answered)
  · exact received

theorem updateMetadataBitfields (consistent : s.Consistent codec version) {a : PeerId}
    (attnets syncnets : Bitfield) : (s.updateMetadataBitfields a attnets syncnets).Consistent codec version := by
  have past : ∀ b, (s.updateMetadataBitfields a attnets syncnets).pastMetaData b =
      if b = a then (s.nodes a).localMetaData.updateBitfields attnets syncnets :: s.pastMetaData a
      else s.pastMetaData b := by
    intro b
    by_cases here : b = a
    · subst here
      simp [Network.updateMetadataBitfields, pastMetaData]
    · simp [Network.updateMetadataBitfields, pastMetaData, here]
  have grows : ∀ b, s.pastMetaData b ⊆ (s.updateMetadataBitfields a attnets syncnets).pastMetaData b := by
    intro b
    rw [past]
    split
    · subst b
      exact List.subset_cons_self _ _
    · exact List.Subset.refl _
  refine ⟨fun b => ?_, fun c b metaData mem => Had.mono grows (consistent.stored c b metaData ?_),
    fun msg mem => Sent.mono grows (consistent.sent msg mem)⟩
  · rw [past]
    split
    · subst b
      refine List.pairwise_cons.mpr ⟨fun earlier mem => ?_, consistent.decreasing _⟩
      rw [MetaData.seqNumber_updateBitfields]
      rcases List.mem_cons.mp mem with rfl | older
      · exact Nat.lt_succ_self _
      · exact Nat.lt_succ_of_lt ((List.pairwise_cons.mp (consistent.decreasing _)).1 earlier older)
    · exact consistent.decreasing b
  · by_cases here : c = a
    · subst here
      simpa [Network.updateMetadataBitfields] using mem
    · simpa [Network.updateMetadataBitfields, here] using mem

end Consistent

end Invariant

end Network

/-- A step of the exchange: a node moves its metadata up (the `u64` sequence
number never wraps: the step is taken below `u64::MAX`), pings a peer, or sends
a queued metadata request; a message in flight is delivered or lost; a node's
swarm steps; a node's record of a peer gets the direction of a new connection,
or is forgotten and made anew. -/
inductive Network.Step (custody : Custody) (codec : MetaDataCodec) : Network → Network → Prop
  | updateMetadataBitfields (s : Network) (a : PeerId) (attnets syncnets : Bitfield)
      (fits : (s.nodes a).localMetaData.seqNumber < U64_MAX) :
      Step custody codec s (s.updateMetadataBitfields a attnets syncnets)
  | ping (s : Network) (a b : PeerId) : Step custody codec s (s.ping a b)
  | sendMetaDataRequest (s s' : Network) (a : PeerId) (sent : s.sendMetaDataRequest custody.spec a = some s') :
      Step custody codec s s'
  | deliver (s : Network) (msg : Message) (now : Instant) (inFlight : msg ∈ s.inFlight) :
      Step custody codec s (s.deliver custody codec msg now)
  | drop (s : Network) (msg : Message) (inFlight : msg ∈ s.inFlight) : Step custody codec s (s.consume msg)
  | swarm (s : Network) (a : PeerId) (sw : Swarm) (moved : Swarm.Step (s.nodes a).sw sw) :
      Step custody codec s (s.setNode a { s.nodes a with sw := sw })
  | connect (s : Network) (a b : PeerId) (direction : ConnectionDirection) :
      Step custody codec s (s.setNode a ((s.nodes a).setRecord b
        { (s.nodes a).records b with connectionDirection := some direction }))
  | forget (s : Network) (a b : PeerId) :
      Step custody codec s (s.setNode a ((s.nodes a).setRecord b .new))

namespace Network

variable {custody : Custody} {codec : MetaDataCodec} {s s' : Network}

theorem Consistent.step (consistent : s.Consistent codec custody.spec.metaDataRequestVersion)
    (step : Step custody codec s s') : s'.Consistent codec custody.spec.metaDataRequestVersion := by
  cases step with
  | updateMetadataBitfields a attnets syncnets => exact consistent.updateMetadataBitfields attnets syncnets
  | ping a b => exact consistent.send ⟨_, List.mem_cons_self _ _, rfl⟩
  | sendMetaDataRequest s' a sent =>
    unfold sendMetaDataRequest at sent
    split at sent
    · cases sent
    · cases sent
      refine Consistent.send (consistent.setNode ?_ ?_) ?_
      · rfl
      · exact fun b metaData mem => consistent.stored a b metaData mem
      · rfl
  | deliver msg now inFlight => exact consistent.deliver custody now inFlight
  | drop msg inFlight => exact consistent.consume msg
  | swarm a sw moved => exact consistent.setNode rfl fun b metaData mem => consistent.stored a b metaData mem
  | connect a b direction =>
    refine consistent.setNode rfl fun c metaData mem => consistent.stored a c metaData ?_
    by_cases here : c = b
    · subst here
      simpa using mem
    · simpa [here] using mem
  | forget a b =>
    refine consistent.setNode rfl fun c metaData mem => consistent.stored a c metaData ?_
    by_cases here : c = b
    · subst here
      simp [PeerRecord.new] at mem
    · simpa [here] using mem

theorem Consistent.reaches (consistent : s.Consistent codec custody.spec.metaDataRequestVersion)
    (reaches : Relation.ReflTransGen (Step custody codec) s s') :
    s'.Consistent codec custody.spec.metaDataRequestVersion := by
  induction reaches with
  | refl => exact consistent
  | tail _ step ih => exact ih.step step

/-- Metadata a node had, in any version, is no newer than its current one, and
is its current one in that version when the sequence numbers agree. -/
theorem Consistent.follows {version : MetadataVersion} (consistent : s.Consistent codec version) {b : PeerId}
    {metaData : MetaData} (had : s.Had codec version b metaData) :
    metaData.seqNumber ≤ (s.nodes b).localMetaData.seqNumber ∧
      (metaData.seqNumber = (s.nodes b).localMetaData.seqNumber →
        metaData = codec.toVersion version (s.nodes b).localMetaData) := by
  obtain ⟨had, past, rfl⟩ := had
  rw [codec.seqNumber_toVersion]
  rcases List.mem_cons.mp past with rfl | older
  · exact ⟨le_rfl, fun _ => rfl⟩
  · have earlier := (List.pairwise_cons.mp (consistent.decreasing b)).1 had older
    exact ⟨earlier.le, fun same => absurd same earlier.ne⟩

/-- With the peer's current sequence number, the check of `ping_request` and
`pong_response` finds the stored metadata stale exactly when it is not the
peer's current metadata in the version asked for. -/
theorem Consistent.newer_iff {version : MetadataVersion} (consistent : s.Consistent codec version) (a b : PeerId) :
    ((s.nodes a).records b).metaData.all (·.seqNumber < (s.nodes b).localMetaData.seqNumber) = true ↔
      ((s.nodes a).records b).metaData ≠ some (codec.toVersion version (s.nodes b).localMetaData) := by
  cases stored : ((s.nodes a).records b).metaData with
  | none => simp
  | some metaData =>
    obtain ⟨le, same⟩ := consistent.follows (consistent.stored a b metaData stored)
    simp only [Option.all_some, decide_eq_true_eq, ne_eq, Option.some.injEq]
    constructor
    · rintro lt rfl
      rw [codec.seqNumber_toVersion] at lt
      exact lt_irrefl _ lt
    · intro differs
      exact lt_of_le_of_ne le fun equal => differs (same equal)

theorem consistent_of_reaches {sw : PeerId → Swarm} {metaData : PeerId → MetaData}
    (reaches : Relation.ReflTransGen (Step custody codec) (start sw metaData) s) :
    s.Consistent codec custody.spec.metaDataRequestVersion :=
  (Consistent.start sw metaData).reaches reaches

section PingRound

variable (custody codec) (now : Instant) {a b : PeerId}

theorem reaches_pingPong : Relation.ReflTransGen (Step custody codec) s (s.pingPong custody codec a b now) :=
  .head (.ping s a b) (.head (.deliver _ _ now (by simp)) (.single (.deliver _ _ now
    (by simp [deliver_inFlight, Node.injectRpcEvent]))))

theorem pingPong_nodes_self (distinct : a ≠ b) :
    (s.pingPong custody codec a b now).nodes a =
      (s.nodes a).pongResponse b (s.nodes b).localMetaData.seqNumber := by
  simp [pingPong, deliver_nodes, distinct, Node.injectRpcEvent]

theorem pingPong_nodes_peer (distinct : a ≠ b) :
    ((s.pingPong custody codec a b now).nodes b).sw = (s.nodes b).sw ∧
      ((s.pingPong custody codec a b now).nodes b).localMetaData = (s.nodes b).localMetaData := by
  simp only [pingPong, deliver_nodes, Ne.symm distinct, Node.injectRpcEvent, ping_nodes, if_true, if_false]
  split <;> simp

/-- The round of a node with no request queued to a known peer whose metadata
it stores is stale, and which counts the node as connected, is a run that ends
with the node storing the peer's current metadata, in the version asked for. -/
theorem pingRound_of_stale (distinct : a ≠ b) (known : ((s.nodes a).sw.pm.db.peerInfo b).isSome)
    (connected : (s.nodes b).sw.pm.db.isConnected a) (idle : (s.nodes a).metaDataEvents = [])
    (stale : ((s.nodes a).records b).metaData.all (·.seqNumber < (s.nodes b).localMetaData.seqNumber)) :
    Relation.ReflTransGen (Step custody codec) s (s.pingRound custody codec a b now) ∧
      (((s.pingRound custody codec a b now).nodes a).records b).metaData =
        some (codec.toVersion custody.spec.metaDataRequestVersion (s.nodes b).localMetaData) := by
  have self := s.pingPong_nodes_self custody codec now distinct
  have peer := s.pingPong_nodes_peer custody codec now distinct
  let requested := (s.pingPong custody codec a b now |>.setNode a
    { (s.pingPong custody codec a b now).nodes a with metaDataEvents := [] }).send
      ⟨a, b, .metaDataRequest custody.spec.metaDataRequestVersion⟩
  have queued : (s.pingPong custody codec a b now).sendMetaDataRequest custody.spec a = some requested := by
    have : ((s.pingPong custody codec a b now).nodes a).metaDataEvents = [b] := by
      simp [self, Node.pongResponse_metaDataEvents, known, stale, idle]
    simp only [sendMetaDataRequest, this, requested]
  simp only [pingRound, queued]
  refine ⟨(s.reaches_pingPong custody codec now).trans (.head (.sendMetaDataRequest _ _ a queued)
    (.head (.deliver _ _ now (by simp [requested])) (.single (.deliver _ _ now ?_)))), ?_⟩
  · simp [requested, deliver_inFlight, deliver_nodes, Ne.symm distinct, Node.injectRpcEvent, peer, connected]
  · simp [deliver_nodes, requested, self, distinct, Node.injectRpcEvent, Node.metaDataResponse_metaData, known]

end PingRound

/-- In every run from nodes that store no metadata of their peers, what a node
stores of a peer is metadata the peer had, in the version the node asks for; it
is no newer than the peer's current metadata, and is the current one when their
sequence numbers agree. -/
theorem stored_metaData_follows {sw : PeerId → Swarm} {metaData : PeerId → MetaData}
    (reaches : Relation.ReflTransGen (Step custody codec) (start sw metaData) s) {a b : PeerId}
    {stored : MetaData} (storing : ((s.nodes a).records b).metaData = some stored) :
    (∃ had ∈ s.pastMetaData b, stored = codec.toVersion custody.spec.metaDataRequestVersion had) ∧
      stored.seqNumber ≤ (s.nodes b).localMetaData.seqNumber ∧
      (stored.seqNumber = (s.nodes b).localMetaData.seqNumber →
        stored = codec.toVersion custody.spec.metaDataRequestVersion (s.nodes b).localMetaData) :=
  have consistent := consistent_of_reaches reaches
  have had := consistent.stored a b stored storing
  ⟨had, consistent.follows had⟩

/-- Two nodes connected to each other, both at sequence number 5: after one
round node 1 stores node 2's metadata, its current one. -/
theorem stored_metaData_follows_after_round :
    let custody : Custody := ⟨⟨none, 4, 128⟩, .ok, fun _ _ => .ok [], fun _ => []⟩
    let codec : MetaDataCodec := ⟨fun _ metaData => metaData, fun _ _ => rfl⟩
    let start := Network.start (fun a => ⟨⟨(PeerDB.new [] false).run [(0, .connectIngoing (3 - a) (some 7))],
      [], [], [], [], 0, 0, 2, 2⟩, fun _ => 0, fun _ => 0, []⟩) fun _ => .v2 5 [true] [false]
    let final := start.pingRound custody codec 1 2 0
    Relation.ReflTransGen (Network.Step custody codec) start final ∧
      ((final.nodes 1).records 2).metaData = some (.v2 5 [true] [false]) ∧
      (∃ had ∈ final.pastMetaData 2, MetaData.v2 5 [true] [false] = had) ∧
      (MetaData.v2 5 [true] [false]).seqNumber ≤ (final.nodes 2).localMetaData.seqNumber ∧
      ((MetaData.v2 5 [true] [false]).seqNumber = (final.nodes 2).localMetaData.seqNumber →
        MetaData.v2 5 [true] [false] = (final.nodes 2).localMetaData) := by
  intro custody codec start final
  have round := @pingRound_of_stale custody codec start 0 1 2 (by decide) rfl rfl rfl rfl
  exact ⟨round.1, round.2, stored_metaData_follows round.1 round.2⟩

/-- In every run from nodes that store no metadata of their peers, a ping or a
pong of a known peer carrying its current sequence number queues a metadata
request exactly when what is stored of the peer is not its current metadata, in
the version the node asks for. -/
theorem requests_exactly_when_stale {sw : PeerId → Swarm} {metaData : PeerId → MetaData}
    (reaches : Relation.ReflTransGen (Step custody codec) (start sw metaData) s) (a b : PeerId) :
    let request := if ((s.nodes a).sw.pm.db.peerInfo b).isSome ∧ ((s.nodes a).records b).metaData ≠
        some (codec.toVersion custody.spec.metaDataRequestVersion (s.nodes b).localMetaData) then [b] else []
    ((s.nodes a).pingRequest b (s.nodes b).localMetaData.seqNumber).metaDataEvents =
        (s.nodes a).metaDataEvents ++ request ∧
      ((s.nodes a).pongResponse b (s.nodes b).localMetaData.seqNumber).metaDataEvents =
        (s.nodes a).metaDataEvents ++ request := by
  have stale := (consistent_of_reaches reaches).newer_iff a b
  simp only [Node.pingRequest_metaDataEvents, Node.pongResponse_metaDataEvents, stale, and_self]

/-- After that round, node 2's current sequence number in a ping or a pong
queues no request at node 1. -/
theorem requests_exactly_when_stale_after_round :
    let custody : Custody := ⟨⟨none, 4, 128⟩, .ok, fun _ _ => .ok [], fun _ => []⟩
    let codec : MetaDataCodec := ⟨fun _ metaData => metaData, fun _ _ => rfl⟩
    let start := Network.start (fun a => ⟨⟨(PeerDB.new [] false).run [(0, .connectIngoing (3 - a) (some 7))],
      [], [], [], [], 0, 0, 2, 2⟩, fun _ => 0, fun _ => 0, []⟩) fun _ => .v2 5 [true] [false]
    let final := start.pingRound custody codec 1 2 0
    ((final.nodes 1).pingRequest 2 5).metaDataEvents = (final.nodes 1).metaDataEvents ∧
      ((final.nodes 1).pongResponse 2 5).metaDataEvents = (final.nodes 1).metaDataEvents := by
  intro custody codec start final
  have round := @pingRound_of_stale custody codec start 0 1 2 (by decide) rfl rfl rfl rfl
  have requests := requests_exactly_when_stale round.1 1 2
  have current : (final.nodes 2).localMetaData.seqNumber = 5 := by decide
  simp only [round.2, ne_eq, not_true_eq_false, and_false, if_false, List.append_nil, current] at requests
  exact requests

/-- In every run from nodes that store no metadata of their peers, a ping round
of a node with no request queued to a peer it knows, and which counts it as
connected, is a run of the exchange that leaves the node storing the peer's
current metadata, in the version it asks for. -/
theorem ping_round_refreshes {sw : PeerId → Swarm} {metaData : PeerId → MetaData}
    (reaches : Relation.ReflTransGen (Step custody codec) (start sw metaData) s) (now : Instant)
    {a b : PeerId} (distinct : a ≠ b) (known : ((s.nodes a).sw.pm.db.peerInfo b).isSome)
    (connected : (s.nodes b).sw.pm.db.isConnected a) (idle : (s.nodes a).metaDataEvents = []) :
    Relation.ReflTransGen (Step custody codec) s (s.pingRound custody codec a b now) ∧
      (((s.pingRound custody codec a b now).nodes a).records b).metaData =
        some (codec.toVersion custody.spec.metaDataRequestVersion (s.nodes b).localMetaData) := by
  have newer := (consistent_of_reaches reaches).newer_iff a b
  by_cases current : ((s.nodes a).records b).metaData =
      some (codec.toVersion custody.spec.metaDataRequestVersion (s.nodes b).localMetaData)
  · have self := s.pingPong_nodes_self custody codec now distinct
    have quiet : (s.pingPong custody codec a b now).sendMetaDataRequest custody.spec a = none := by
      simp [sendMetaDataRequest, self, Node.pongResponse_metaDataEvents, idle, newer, current]
    simp only [pingRound, quiet]
    exact ⟨s.reaches_pingPong custody codec now, by rw [self, Node.pongResponse_records, current]⟩
  · exact s.pingRound_of_stale custody codec now distinct known connected idle (newer.mpr current)

/-- After that round node 2 moves its metadata up; the next round of node 1
stores the new metadata. -/
theorem ping_round_refreshes_after_update :
    let custody : Custody := ⟨⟨none, 4, 128⟩, .ok, fun _ _ => .ok [], fun _ => []⟩
    let codec : MetaDataCodec := ⟨fun _ metaData => metaData, fun _ _ => rfl⟩
    let start := Network.start (fun a => ⟨⟨(PeerDB.new [] false).run [(0, .connectIngoing (3 - a) (some 7))],
      [], [], [], [], 0, 0, 2, 2⟩, fun _ => 0, fun _ => 0, []⟩) fun _ => .v2 5 [true] [false]
    ∃ updated, Relation.ReflTransGen (Network.Step custody codec) start updated ∧
      (updated.nodes 2).localMetaData = .v2 6 [false] [true] ∧
      Relation.ReflTransGen (Network.Step custody codec) updated (updated.pingRound custody codec 1 2 1) ∧
      (((updated.pingRound custody codec 1 2 1).nodes 1).records 2).metaData =
        some (updated.nodes 2).localMetaData := by
  intro custody codec start
  have round := @pingRound_of_stale custody codec start 0 1 2 (by decide) rfl rfl rfl rfl
  have run := round.1.tail (.updateMetadataBitfields _ 2 [false] [true] (by decide))
  exact ⟨_, run, by decide, ping_round_refreshes run 1 (by decide) rfl rfl rfl⟩

end Network

end Eth2Libp2p
