import Eth2Libp2p.RPC.Errors
import Eth2Libp2p.RPC.Refusals

/-! # The per-protocol rate limiter

`RPCRateLimiter` keeps one `Limiter` per protocol, fourteen in all. `allows`
charges a request to the limiter of its protocol, `max_responses` tokens and at
least one; `prune`, which `poll` runs every thirty seconds, prunes ten of them at
the time elapsed since the limiter was made. The four light-client limiters are
never pruned (`RPCRateLimiter.prune_limiter`): a light-client limiter keeps
every peer it has answered, through every run of requests and prunes (`RPCRateLimiter.run_keeps_light_client_keys`), its TAT long past
(`RPCRateLimiter.prune_keeps_stale_light_client_key`).
-/

namespace Eth2Libp2p

/-- The light-client protocols. -/
def Protocol.isLightClient : Protocol → Bool
  | .lightClientBootstrap | .lightClientOptimisticUpdate | .lightClientFinalityUpdate
    | .lightClientUpdatesByRange => true
  | _ => false

/-- The limiters of `RPCRateLimiter`, one per protocol. The prune interval, the
creation time and the fork context are left out: a time is the time elapsed
since the creation, and a request comes with its protocol and its number of
responses. -/
structure RPCRateLimiter where
  goodbyeRl : Limiter PeerId
  pingRl : Limiter PeerId
  metadataRl : Limiter PeerId
  statusRl : Limiter PeerId
  bbrangeRl : Limiter PeerId
  bbrootsRl : Limiter PeerId
  blbrangeRl : Limiter PeerId
  blbrootRl : Limiter PeerId
  dcbrootRl : Limiter PeerId
  dcbrangeRl : Limiter PeerId
  lcBootstrapRl : Limiter PeerId
  lcOptimisticUpdateRl : Limiter PeerId
  lcFinalityUpdateRl : Limiter PeerId
  lcUpdatesByRangeRl : Limiter PeerId

/-- A request never removes a key from a limiter. -/
theorem Limiter.isSome_allows_tatPerKey {Key : Type} [DecidableEq Key] (lim : Limiter Key) (time : Nat) (key : Key)
    (tokens : Nat) {other : Key} (present : (lim.tatPerKey other).isSome) :
    ((lim.allows time key tokens).1.tatPerKey other).isSome := by
  by_cases same : other = key
  · subst same
    rcases Limiter.allows_cases lim time other tokens with ⟨-, refused⟩ | ⟨-, -, refused⟩ | ⟨-, -, accepted⟩ <;>
      simp only [*, Function.update_same, Option.isSome_some]
  · rwa [Limiter.allows_tatPerKey_of_ne _ _ _ same]

namespace RPCRateLimiter

/-- The limiter of a protocol: the match of `allows`. -/
def limiter (rl : RPCRateLimiter) : Protocol → Limiter PeerId
  | .ping => rl.pingRl
  | .status => rl.statusRl
  | .metaData => rl.metadataRl
  | .goodbye => rl.goodbyeRl
  | .blocksByRange => rl.bbrangeRl
  | .blocksByRoot => rl.bbrootsRl
  | .blobsByRange => rl.blbrangeRl
  | .blobsByRoot => rl.blbrootRl
  | .dataColumnsByRoot => rl.dcbrootRl
  | .dataColumnsByRange => rl.dcbrangeRl
  | .lightClientBootstrap => rl.lcBootstrapRl
  | .lightClientOptimisticUpdate => rl.lcOptimisticUpdateRl
  | .lightClientFinalityUpdate => rl.lcFinalityUpdateRl
  | .lightClientUpdatesByRange => rl.lcUpdatesByRangeRl

/-- The limiter of a protocol replaced: the write `allows` makes through its
`&mut`. -/
def setLimiter (rl : RPCRateLimiter) (lim : Limiter PeerId) : Protocol → RPCRateLimiter
  | .ping => { rl with pingRl := lim }
  | .status => { rl with statusRl := lim }
  | .metaData => { rl with metadataRl := lim }
  | .goodbye => { rl with goodbyeRl := lim }
  | .blocksByRange => { rl with bbrangeRl := lim }
  | .blocksByRoot => { rl with bbrootsRl := lim }
  | .blobsByRange => { rl with blbrangeRl := lim }
  | .blobsByRoot => { rl with blbrootRl := lim }
  | .dataColumnsByRoot => { rl with dcbrootRl := lim }
  | .dataColumnsByRange => { rl with dcbrangeRl := lim }
  | .lightClientBootstrap => { rl with lcBootstrapRl := lim }
  | .lightClientOptimisticUpdate => { rl with lcOptimisticUpdateRl := lim }
  | .lightClientFinalityUpdate => { rl with lcFinalityUpdateRl := lim }
  | .lightClientUpdatesByRange => { rl with lcUpdatesByRangeRl := lim }

/-- `RPCRateLimiter::allows`: a request of `protocol` with `maxResponses`
responses, at `timeSinceStart`. -/
def allows (rl : RPCRateLimiter) (timeSinceStart : Nat) (peerId : PeerId) (protocol : Protocol)
    (maxResponses : Nat) : RPCRateLimiter × Except RateLimitedErr Unit :=
  let tokens := max maxResponses 1
  let checked := (rl.limiter protocol).allows timeSinceStart peerId tokens
  (rl.setLimiter checked.1 protocol, checked.2)

/-- `RPCRateLimiter::prune`: ten of the limiters, in the source's order. -/
def prune (rl : RPCRateLimiter) (timeSinceStart : Nat) : RPCRateLimiter :=
  { rl with
    pingRl := rl.pingRl.prune timeSinceStart
    statusRl := rl.statusRl.prune timeSinceStart
    metadataRl := rl.metadataRl.prune timeSinceStart
    goodbyeRl := rl.goodbyeRl.prune timeSinceStart
    bbrangeRl := rl.bbrangeRl.prune timeSinceStart
    bbrootsRl := rl.bbrootsRl.prune timeSinceStart
    blbrangeRl := rl.blbrangeRl.prune timeSinceStart
    blbrootRl := rl.blbrootRl.prune timeSinceStart
    dcbrangeRl := rl.dcbrangeRl.prune timeSinceStart
    dcbrootRl := rl.dcbrootRl.prune timeSinceStart }

/-- A call on the rate limiter: a request, or the periodic prune. -/
inductive Call where
  | allows (timeSinceStart : Nat) (peerId : PeerId) (protocol : Protocol) (maxResponses : Nat)
  | prune (timeSinceStart : Nat)

/-- A run of calls: the final rate limiter. -/
def run (rl : RPCRateLimiter) : List Call → RPCRateLimiter
  | [] => rl
  | .allows timeSinceStart peerId protocol maxResponses :: calls =>
    (rl.allows timeSinceStart peerId protocol maxResponses).1.run calls
  | .prune timeSinceStart :: calls => (rl.prune timeSinceStart).run calls

@[simp] theorem limiter_setLimiter_self (rl : RPCRateLimiter) (lim : Limiter PeerId) (protocol : Protocol) :
    (rl.setLimiter lim protocol).limiter protocol = lim := by
  cases protocol <;> rfl

theorem limiter_setLimiter_ne (rl : RPCRateLimiter) (lim : Limiter PeerId) {protocol other : Protocol}
    (different : other ≠ protocol) : (rl.setLimiter lim protocol).limiter other = rl.limiter other := by
  cases protocol <;> cases other <;> first | rfl | exact absurd rfl different

/-- A request goes to the limiter of its protocol only. -/
theorem allows_limiter (rl : RPCRateLimiter) (timeSinceStart : Nat) (peerId : PeerId) (protocol : Protocol)
    (maxResponses : Nat) (other : Protocol) :
    (rl.allows timeSinceStart peerId protocol maxResponses).1.limiter other =
      if other = protocol then ((rl.limiter protocol).allows timeSinceStart peerId (max maxResponses 1)).1
      else rl.limiter other := by
  unfold allows
  split
  · next same => rw [same, limiter_setLimiter_self]
  · next different => exact limiter_setLimiter_ne _ _ different

/-- The prune reaches the ten limiters other than the light-client ones. -/
theorem prune_limiter (rl : RPCRateLimiter) (timeSinceStart : Nat) (protocol : Protocol) :
    (rl.prune timeSinceStart).limiter protocol =
      if protocol.isLightClient then rl.limiter protocol else (rl.limiter protocol).prune timeSinceStart := by
  cases protocol <;> rfl

/-- A light-client limiter keeps every peer it holds through every run of
requests and prunes: nothing ever removes a key from it. -/
theorem run_keeps_light_client_keys {protocol : Protocol} (lightClient : protocol.isLightClient = true)
    {peerId : PeerId} :
    ∀ (calls : List Call) (rl : RPCRateLimiter), ((rl.limiter protocol).tatPerKey peerId).isSome →
      (((rl.run calls).limiter protocol).tatPerKey peerId).isSome
  | [], _, present => present
  | .allows timeSinceStart requester requested maxResponses :: calls, rl, present => by
    refine run_keeps_light_client_keys lightClient calls _ ?_
    rw [allows_limiter]
    split
    · next same => exact Limiter.isSome_allows_tatPerKey _ _ _ _ (same ▸ present)
    · exact present
  | .prune timeSinceStart :: calls, rl, present => by
    refine run_keeps_light_client_keys lightClient calls _ ?_
    rwa [prune_limiter, if_pos lightClient]

/-- A peer held by the `LightClientBootstrap` limiter stays in it through prunes
long after its TAT and requests of other peers. -/
theorem run_keeps_light_client_keys_bootstrap :
    let lim : Limiter PeerId := ⟨10000000000, 10000000000, fun _ => none⟩
    let served : Limiter PeerId := ⟨10000000000, 10000000000, fun peerId => if peerId = 1 then some 10000000000 else none⟩
    let rl : RPCRateLimiter := ⟨lim, lim, lim, lim, lim, lim, lim, lim, lim, lim, served, lim, lim, lim⟩
    ((rl.limiter .lightClientBootstrap).tatPerKey 1).isSome = true ∧
      (((rl.run [.prune 30000000000, .allows 40000000000 2 .lightClientBootstrap 1, .prune 90000000000]).limiter
        .lightClientBootstrap).tatPerKey 1).isSome = true := by
  intro lim served rl
  exact ⟨rfl, @run_keeps_light_client_keys .lightClientBootstrap rfl 1 _ rl rfl⟩

/-- With every limiter at one token every ten seconds, a `LightClientBootstrap`
request at time zero leaves its peer a TAT of ten seconds, and the prune at
thirty seconds keeps it; the same request on `Ping` is forgotten. -/
theorem prune_keeps_stale_light_client_key :
    let lim : Limiter PeerId := ⟨10000000000, 10000000000, fun _ => none⟩
    let rl : RPCRateLimiter := ⟨lim, lim, lim, lim, lim, lim, lim, lim, lim, lim, lim, lim, lim, lim⟩
    (((rl.allows 0 1 .lightClientBootstrap 1).1.prune 30000000000).limiter .lightClientBootstrap).tatPerKey 1 =
        some 10000000000 ∧
      (((rl.allows 0 1 .ping 1).1.prune 30000000000).limiter .ping).tatPerKey 1 = none :=
  ⟨rfl, rfl⟩

end RPCRateLimiter

end Eth2Libp2p
