import Mathlib.Data.List.Dedup

/-! # Peer records

The record the peer database keeps for each peer: its connection status, its
score, the IP addresses it was seen on, its long-lived subnets, the deadline of
a validator duty it serves and whether it is trusted.

`peer_info.rs` and `score.rs` are not among the repository sources. The
definitions of this module that stand for them are modelled from the spec
(section 3, "PeerInfo", and section 4.1, "Scoring"), and keep only what
`peerdb.rs` and the peer manager read. Scores are `f64` in the source; they are
integers here, since every modelled function only compares them with each other
and with fixed thresholds.
-/

namespace Eth2Libp2p

/-- Peer identities; only their equality is used. -/
abbrev PeerId := Nat

/-- IP addresses; only their equality is used. -/
abbrev IpAddr := Nat

/-- Points of the monotonic clock, as a count of elapsed time units. -/
abbrev Instant := Nat

/-- Modelled from the spec: a multiaddr, kept only as the IP address it starts
with (`none` for an address without one, such as `Multiaddr::empty()`). -/
abbrev Multiaddr := Option IpAddr

/-- The connection status of a peer (`PeerConnectionStatus`). -/
inductive PeerConnectionStatus where
  | unknown
  | dialing (since : Instant)
  | connected (nIn nOut : Nat)
  | disconnecting (toBan : Bool)
  | disconnected (since : Instant)
  | banned (since : Instant)
  deriving DecidableEq, Repr

/-- The direction of a new connection (`ConnectionDirection`). -/
inductive ConnectionDirection where
  | incoming
  | outgoing
  deriving DecidableEq, Repr

/-- A long-lived gossip subnet (`Subnet`). -/
inductive Subnet where
  | attestation (id : Nat)
  | syncCommittee (id : Nat)
  | dataColumn (id : Nat)
  deriving DecidableEq, Repr

/-- The three states a score maps to (`ScoreState`). -/
inductive ScoreState where
  | healthy
  | forcedDisconnect
  | banned
  deriving DecidableEq, Repr

/-- The penalties a report can apply (`PeerAction`). -/
inductive PeerAction where
  | fatal
  | lowToleranceError
  | midToleranceError
  | highToleranceError
  deriving DecidableEq, Repr

/-- Modelled from the spec: the upper bound of a real score. -/
def MAX_SCORE : Int := 100

/-- Modelled from the spec: the lower bound of a real score. -/
def MIN_SCORE : Int := -100

/-- Modelled from the spec: at or below this score a peer is disconnected. -/
def MIN_SCORE_BEFORE_DISCONNECT : Int := -20

/-- Modelled from the spec: at or below this score a peer is banned. -/
def MIN_SCORE_BEFORE_BAN : Int := -50

/-- Modelled from the spec: a real score, made of the locally reported part and
the gossipsub part, whose negative values may be ignored for a round. -/
structure RealScore where
  lighthouseScore : Int
  gossipsubScore : Int
  ignoreNegativeGossipsubScore : Bool
  deriving DecidableEq, Repr

namespace RealScore

/-- The combined score: the gossipsub part counts unless it is negative and
ignored this round. -/
def score (s : RealScore) : Int :=
  if s.ignoreNegativeGossipsubScore ∧ s.gossipsubScore < 0 then s.lighthouseScore
  else s.lighthouseScore + s.gossipsubScore

end RealScore

/-- Modelled from the spec: a peer's score. A trusted peer's score is pinned at
the maximum (`max`); every other peer has a real score. -/
inductive Score where
  | max
  | real (s : RealScore)
  deriving DecidableEq, Repr

namespace Score

/-- `Score::default()`: a real score of zero. -/
def default : Score := .real ⟨0, 0, false⟩

/-- `Score::max_score()`. -/
def maxScore : Score := .max

/-- The numeric score compared by the peer manager. -/
def score : Score → Int
  | .max => MAX_SCORE
  | .real s => s.score

/-- The score state, by the two fixed thresholds. -/
def scoreState : Score → ScoreState
  | .max => .healthy
  | .real s =>
    if s.score ≤ MIN_SCORE_BEFORE_BAN then .banned
    else if s.score ≤ MIN_SCORE_BEFORE_DISCONNECT then .forcedDisconnect
    else .healthy

/-- The additive penalty of a report; a fatal report sends the score to its minimum. -/
def applyPeerAction (action : PeerAction) : Score → Score
  | .max => .max
  | .real s =>
    let lighthouseScore := match action with
      | .fatal => MIN_SCORE
      | .lowToleranceError => s.lighthouseScore - 10
      | .midToleranceError => s.lighthouseScore - 5
      | .highToleranceError => s.lighthouseScore - 1
    .real { s with lighthouseScore := Max.max MIN_SCORE lighthouseScore }

/-- The periodic decay: the reported part drifts towards zero by `elapsed`. -/
def update (elapsed : Nat) : Score → Score
  | .max => .max
  | .real s =>
    let v := s.lighthouseScore
    .real { s with lighthouseScore := if v < 0 then Min.min 0 (v + elapsed) else Max.max 0 (v - elapsed) }

/-- A new gossipsub score, with the flag saying whether to ignore it if negative. -/
def updateGossipsubScore (newScore : Int) (ignore : Bool) : Score → Score
  | .max => .max
  | .real s => .real { s with gossipsubScore := newScore, ignoreNegativeGossipsubScore := ignore }

@[simp] theorem scoreState_max : scoreState .max = .healthy := rfl

@[simp] theorem applyPeerAction_max (action : PeerAction) : applyPeerAction action .max = .max :=
  rfl

end Score

/-- Modelled from the spec: the record of one peer (`PeerInfo`), with the
fields the modelled functions read. -/
structure PeerInfo where
  connectionStatus : PeerConnectionStatus
  score : Score
  seenIpAddresses : List IpAddr
  subnets : List Subnet
  minTtl : Option Instant
  isTrusted : Bool
  deriving DecidableEq, Repr

namespace PeerInfo

/-- `PeerInfo::default()`: an unknown peer with the default score. -/
def default : PeerInfo :=
  ⟨.unknown, Score.default, [], [], none, false⟩

/-- `PeerInfo::trusted_peer_info()`: an unknown, trusted peer with the maximal score. -/
def trustedPeerInfo : PeerInfo :=
  ⟨.unknown, Score.maxScore, [], [], none, true⟩

/-- The state of the peer's score. -/
def scoreState (info : PeerInfo) : ScoreState := info.score.scoreState

def isConnected (info : PeerInfo) : Bool :=
  match info.connectionStatus with
  | .connected .. => true
  | _ => false

def isDialing (info : PeerInfo) : Bool :=
  match info.connectionStatus with
  | .dialing .. => true
  | _ => false

def isDisconnected (info : PeerInfo) : Bool :=
  match info.connectionStatus with
  | .disconnected .. => true
  | _ => false

def isBanned (info : PeerInfo) : Bool :=
  match info.connectionStatus with
  | .banned .. => true
  | _ => false

def isConnectedOrDialing (info : PeerInfo) : Bool := info.isConnected || info.isDialing

/-- Connected through outgoing connections only. -/
def isOutboundOnly (info : PeerInfo) : Bool :=
  match info.connectionStatus with
  | .connected nIn nOut => nIn == 0 && 0 < nOut
  | _ => false

/-- The peer's duty deadline is in the future. -/
def hasFutureDuty (now : Instant) (info : PeerInfo) : Bool :=
  match info.minTtl with
  | some ttl => now < ttl
  | none => false

/-- The long-lived subnets, as a set. -/
def longLivedSubnets (info : PeerInfo) : List Subnet := info.subnets.dedup

def hasLongLivedSubnet (info : PeerInfo) : Bool := !info.subnets.isEmpty

def longLivedSubnetCount (info : PeerInfo) : Nat := info.longLivedSubnets.length

/-- A new connection in direction `direction`, seen on `seenAddress`; the
status counts the connections per direction. -/
def connect (direction : ConnectionDirection) (seenAddress : Multiaddr) (info : PeerInfo) :
    PeerInfo :=
  let status := match info.connectionStatus, direction with
    | .connected nIn nOut, .incoming => .connected (nIn + 1) nOut
    | .connected nIn nOut, .outgoing => .connected nIn (nOut + 1)
    | _, .incoming => .connected 1 0
    | _, .outgoing => .connected 0 1
  let seen := match seenAddress with
    | some ip => info.seenIpAddresses.insert ip
    | none => info.seenIpAddresses
  { info with connectionStatus := status, seenIpAddresses := seen }

/-- `set_dialing_peer`: refused (`none`) while connected, dialing or disconnecting,
the states the caller warns about. -/
def setDialingPeer (now : Instant) (info : PeerInfo) : Option PeerInfo :=
  match info.connectionStatus with
  | .connected .. | .dialing .. | .disconnecting .. => none
  | _ => some { info with connectionStatus := .dialing now }

def setConnectionStatus (status : PeerConnectionStatus) (info : PeerInfo) : PeerInfo :=
  { info with connectionStatus := status }

def clearSubnets (info : PeerInfo) : PeerInfo := { info with subnets := [] }

/-- Reports leave a trusted peer's score alone. -/
def applyPeerActionToScore (action : PeerAction) (info : PeerInfo) : PeerInfo :=
  if info.isTrusted then info else { info with score := info.score.applyPeerAction action }

@[simp] theorem applyPeerActionToScore_connectionStatus (action : PeerAction) (info : PeerInfo) :
    (info.applyPeerActionToScore action).connectionStatus = info.connectionStatus := by
  unfold applyPeerActionToScore
  split <;> rfl

@[simp] theorem applyPeerActionToScore_seenIpAddresses (action : PeerAction) (info : PeerInfo) :
    (info.applyPeerActionToScore action).seenIpAddresses = info.seenIpAddresses := by
  unfold applyPeerActionToScore
  split <;> rfl

@[simp] theorem applyPeerActionToScore_isTrusted (action : PeerAction) (info : PeerInfo) :
    (info.applyPeerActionToScore action).isTrusted = info.isTrusted := by
  unfold applyPeerActionToScore
  split <;> rfl

end PeerInfo

end Eth2Libp2p
