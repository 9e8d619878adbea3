import Eth2Libp2p.RPC.RPCRateLimiter

/-! # Building the per-protocol rate limiter

`RPCRateLimiterBuilder` collects a quota per protocol (`set_quota`), and `build`
makes from them the fourteen limiters of `RPCRateLimiter`: it fails on the first
protocol without a quota, in the order it asks for them, and then on the first
quota `Limiter::from_quota` rejects. It succeeds exactly when every protocol has
a quota from which `from_quota` makes that protocol's limiter
(`RPCRateLimiterBuilder.build_eq_ok_iff`). `RPCRateLimiter::new_with_config`
sets the quota of every protocol from the configuration, so it never fails for
a missing quota, and builds for every protocol the limiter `from_quota` makes
from its configured quota (`RPCRateLimiter.newWithConfig_ok_iff`); the
limiters it builds hold no peer, and accept the first request of any peer that
fits in its protocol's quota (`RPCRateLimiter.newWithConfig_allows_first_request`).

The prune interval and the creation time are left out, with them the
"prune time overflow" of a clock past its end.
-/

namespace Eth2Libp2p

/-- `Quota::one_every`: one token every `seconds` (`Duration::from_secs`, in
nanoseconds). -/
def Quota.oneEvery (seconds : Nat) : Quota := ⟨seconds * 1000000000, 1, Nat.one_pos⟩

/-- `Quota::n_every`: `n` tokens every `seconds`. -/
def Quota.nEvery (n : Nat) (nonZero : 0 < n) (seconds : Nat) : Quota := ⟨seconds * 1000000000, n, nonZero⟩

/-- `Option::ok_or`. -/
def okOr {α : Type} (value : Option α) (err : String) : Except String α :=
  match value with
  | some value => .ok value
  | none => .error err

@[simp] theorem okOr_eq_ok {α : Type} {value : Option α} {err : String} {a : α} :
    okOr value err = .ok a ↔ value = some a := by
  cases value <;> simp [okOr]

/-- A chain of fallible steps succeeds exactly when each step does. -/
theorem bind_eq_ok {ε α β : Type} {x : Except ε α} {f : α → Except ε β} {b : β} :
    x >>= f = .ok b ↔ ∃ a, x = .ok a ∧ f a = .ok b := by
  cases x <;> simp [bind, Except.bind]

/-- `RPCRateLimiterBuilder`: the quota of each protocol, if set. -/
structure RPCRateLimiterBuilder where
  goodbyeQuota : Option Quota
  pingQuota : Option Quota
  metadataQuota : Option Quota
  statusQuota : Option Quota
  bbrangeQuota : Option Quota
  bbrootsQuota : Option Quota
  blbrangeQuota : Option Quota
  blbrootQuota : Option Quota
  dcbrootQuota : Option Quota
  dcbrangeQuota : Option Quota
  lcbootstrapQuota : Option Quota
  lcOptimisticUpdateQuota : Option Quota
  lcFinalityUpdateQuota : Option Quota
  lcUpdatesByRangeQuota : Option Quota

/-- The quotas of the fourteen protocols (`RateLimiterConfig`). -/
structure RateLimiterConfig where
  pingQuota : Quota
  metaDataQuota : Quota
  statusQuota : Quota
  goodbyeQuota : Quota
  blocksByRangeQuota : Quota
  blocksByRootQuota : Quota
  blobsByRangeQuota : Quota
  blobsByRootQuota : Quota
  dataColumnsByRootQuota : Quota
  dataColumnsByRangeQuota : Quota
  lightClientBootstrapQuota : Quota
  lightClientOptimisticUpdateQuota : Quota
  lightClientFinalityUpdateQuota : Quota
  lightClientUpdatesByRangeQuota : Quota

namespace RPCRateLimiterBuilder

/-- `RPCRateLimiter::builder`: no quota set (`Default`). -/
def default : RPCRateLimiterBuilder :=
  ⟨none, none, none, none, none, none, none, none, none, none, none, none, none, none⟩

/-- The quota set for a protocol: the field `set_quota` writes. -/
def quota (builder : RPCRateLimiterBuilder) : Protocol → Option Quota
  | .ping => builder.pingQuota
  | .status => builder.statusQuota
  | .metaData => builder.metadataQuota
  | .goodbye => builder.goodbyeQuota
  | .blocksByRange => builder.bbrangeQuota
  | .blocksByRoot => builder.bbrootsQuota
  | .blobsByRange => builder.blbrangeQuota
  | .blobsByRoot => builder.blbrootQuota
  | .dataColumnsByRoot => builder.dcbrootQuota
  | .dataColumnsByRange => builder.dcbrangeQuota
  | .lightClientBootstrap => builder.lcbootstrapQuota
  | .lightClientOptimisticUpdate => builder.lcOptimisticUpdateQuota
  | .lightClientFinalityUpdate => builder.lcFinalityUpdateQuota
  | .lightClientUpdatesByRange => builder.lcUpdatesByRangeQuota

/-- `set_quota`. -/
def setQuota (builder : RPCRateLimiterBuilder) (protocol : Protocol) (quota : Quota) : RPCRateLimiterBuilder :=
  let q := some quota
  match protocol with
  | .ping => { builder with pingQuota := q }
  | .status => { builder with statusQuota := q }
  | .metaData => { builder with metadataQuota := q }
  | .goodbye => { builder with goodbyeQuota := q }
  | .blocksByRange => { builder with bbrangeQuota := q }
  | .blocksByRoot => { builder with bbrootsQuota := q }
  | .blobsByRange => { builder with blbrangeQuota := q }
  | .blobsByRoot => { builder with blbrootQuota := q }
  | .dataColumnsByRoot => { builder with dcbrootQuota := q }
  | .dataColumnsByRange => { builder with dcbrangeQuota := q }
  | .lightClientBootstrap => { builder with lcbootstrapQuota := q }
  | .lightClientOptimisticUpdate => { builder with lcOptimisticUpdateQuota := q }
  | .lightClientFinalityUpdate => { builder with lcFinalityUpdateQuota := q }
  | .lightClientUpdatesByRange => { builder with lcUpdatesByRangeQuota := q }

/-- `build`: the quotas, in the order it asks for them, then the limiters, in
the order it makes them. -/
def build (builder : RPCRateLimiterBuilder) : Except String RPCRateLimiter := do
  let pingQuota ← okOr builder.pingQuota "Ping quota not specified"
  let metadataQuota ← okOr builder.metadataQuota "MetaData quota not specified"
  let statusQuota ← okOr builder.statusQuota "Status quota not specified"
  let goodbyeQuota ← okOr builder.goodbyeQuota "Goodbye quota not specified"
  let bbrootsQuota ← okOr builder.bbrootsQuota "BlocksByRoot quota not specified"
  let bbrangeQuota ← okOr builder.bbrangeQuota "BlocksByRange quota not specified"
  let lcBootstrapQuota ← okOr builder.lcbootstrapQuota "LightClientBootstrap quota not specified"
  let lcOptimisticUpdateQuota ←
    okOr builder.lcOptimisticUpdateQuota "LightClientOptimisticUpdate quota not specified"
  let lcFinalityUpdateQuota ←
    okOr builder.lcFinalityUpdateQuota "LightClientFinalityUpdate quota not specified"
  let lcUpdatesByRangeQuota ←
    okOr builder.lcUpdatesByRangeQuota "LightClientUpdatesByRange quota not specified"
  let blbrangeQuota ← okOr builder.blbrangeQuota "BlobsByRange quota not specified"
  let blbrootsQuota ← okOr builder.blbrootQuota "BlobsByRoot quota not specified"
  let dcbrootQuota ← okOr builder.dcbrootQuota "DataColumnsByRoot quota not specified"
  let dcbrangeQuota ← okOr builder.dcbrangeQuota "DataColumnsByRange quota not specified"
  let pingRl ← Limiter.fromQuota pingQuota
  let metadataRl ← Limiter.fromQuota metadataQuota
  let statusRl ← Limiter.fromQuota statusQuota
  let goodbyeRl ← Limiter.fromQuota goodbyeQuota
  let bbrootsRl ← Limiter.fromQuota bbrootsQuota
  let bbrangeRl ← Limiter.fromQuota bbrangeQuota
  let blbrangeRl ← Limiter.fromQuota blbrangeQuota
  let blbrootRl ← Limiter.fromQuota blbrootsQuota
  let dcbrootRl ← Limiter.fromQuota dcbrootQuota
  let dcbrangeRl ← Limiter.fromQuota dcbrangeQuota
  let lcBootstrapRl ← Limiter.fromQuota lcBootstrapQuota
  let lcOptimisticUpdateRl ← Limiter.fromQuota lcOptimisticUpdateQuota
  let lcFinalityUpdateRl ← Limiter.fromQuota lcFinalityUpdateQuota
  let lcUpdatesByRangeRl ← Limiter.fromQuota lcUpdatesByRangeQuota
  pure ⟨goodbyeRl, pingRl, metadataRl, statusRl, bbrangeRl, bbrootsRl, blbrangeRl, blbrootRl, dcbrootRl,
    dcbrangeRl, lcBootstrapRl, lcOptimisticUpdateRl, lcFinalityUpdateRl, lcUpdatesByRangeRl⟩

/-- `set_quota` writes the quota of its protocol and no other. -/
theorem quota_setQuota (builder : RPCRateLimiterBuilder) (protocol : Protocol) (quota : Quota)
    (other : Protocol) :
    (builder.setQuota protocol quota).quota other = if other = protocol then some quota else builder.quota other := by
  cases protocol <;> cases other <;> rfl

/-- `build` succeeds exactly when every protocol has a quota from which
`from_quota` makes the limiter of that protocol. -/
theorem build_eq_ok_iff (builder : RPCRateLimiterBuilder) (rl : RPCRateLimiter) :
    builder.build = .ok rl ↔
      ∀ protocol, ∃ quota, builder.quota protocol = some quota ∧
        Limiter.fromQuota quota = .ok (rl.limiter protocol) := by
  simp only [build, bind_eq_ok, okOr_eq_ok, pure, Except.pure, Except.ok.injEq]
  constructor
  · -- the quotas in the order `build` asks for them, then the limiters
    intro built
    obtain ⟨_, _, _, _, _, _, _, _, _, _, _, _, _, _, built⟩ := built
    obtain ⟨_, _, _, _, _, _, _, _, _, _, _, _, _, _, built⟩ := built
    obtain ⟨_, _, _, _, _, _, _, _, _, _, _, _, _, _, built⟩ := built
    obtain ⟨_, _, _, _, _, _, _, _, _, _, _, _, _, _, built⟩ := built
    subst built
    intro protocol
    cases protocol <;> exact ⟨_, by assumption, by assumption⟩
  · intro made
    obtain ⟨_, ping, pingRl⟩ := made .ping
    obtain ⟨_, metadata, metadataRl⟩ := made .metaData
    obtain ⟨_, status, statusRl⟩ := made .status
    obtain ⟨_, goodbye, goodbyeRl⟩ := made .goodbye
    obtain ⟨_, bbroots, bbrootsRl⟩ := made .blocksByRoot
    obtain ⟨_, bbrange, bbrangeRl⟩ := made .blocksByRange
    obtain ⟨_, lcBootstrap, lcBootstrapRl⟩ := made .lightClientBootstrap
    obtain ⟨_, lcOptimisticUpdate, lcOptimisticUpdateRl⟩ := made .lightClientOptimisticUpdate
    obtain ⟨_, lcFinalityUpdate, lcFinalityUpdateRl⟩ := made .lightClientFinalityUpdate
    obtain ⟨_, lcUpdatesByRange, lcUpdatesByRangeRl⟩ := made .lightClientUpdatesByRange
    obtain ⟨_, blbrange, blbrangeRl⟩ := made .blobsByRange
    obtain ⟨_, blbroot, blbrootRl⟩ := made .blobsByRoot
    obtain ⟨_, dcbroot, dcbrootRl⟩ := made .dataColumnsByRoot
    obtain ⟨_, dcbrange, dcbrangeRl⟩ := made .dataColumnsByRange
    exact ⟨_, ping, _, metadata, _, status, _, goodbye, _, bbroots, _, bbrange, _, lcBootstrap,
      _, lcOptimisticUpdate, _, lcFinalityUpdate, _, lcUpdatesByRange, _, blbrange, _, blbroot, _, dcbroot,
      _, dcbrange, _, pingRl, _, metadataRl, _, statusRl, _, goodbyeRl, _, bbrootsRl, _, bbrangeRl,
      _, blbrangeRl, _, blbrootRl, _, dcbrootRl, _, dcbrangeRl, _, lcBootstrapRl, _, lcOptimisticUpdateRl,
      _, lcFinalityUpdateRl, _, lcUpdatesByRangeRl, rfl⟩

end RPCRateLimiterBuilder

/-- The configured quota of each protocol. -/
def RateLimiterConfig.quota (config : RateLimiterConfig) : Protocol → Quota
  | .ping => config.pingQuota
  | .metaData => config.metaDataQuota
  | .status => config.statusQuota
  | .goodbye => config.goodbyeQuota
  | .blocksByRange => config.blocksByRangeQuota
  | .blocksByRoot => config.blocksByRootQuota
  | .blobsByRange => config.blobsByRangeQuota
  | .blobsByRoot => config.blobsByRootQuota
  | .dataColumnsByRoot => config.dataColumnsByRootQuota
  | .dataColumnsByRange => config.dataColumnsByRangeQuota
  | .lightClientBootstrap => config.lightClientBootstrapQuota
  | .lightClientOptimisticUpdate => config.lightClientOptimisticUpdateQuota
  | .lightClientFinalityUpdate => config.lightClientFinalityUpdateQuota
  | .lightClientUpdatesByRange => config.lightClientUpdatesByRangeQuota

/-- `RPCRateLimiter::new_with_config`: the quota of every protocol set from the
configuration, then `build`. -/
def RPCRateLimiter.newWithConfig (config : RateLimiterConfig) : Except String RPCRateLimiter :=
  (RPCRateLimiterBuilder.default
    |>.setQuota .ping config.pingQuota
    |>.setQuota .metaData config.metaDataQuota
    |>.setQuota .status config.statusQuota
    |>.setQuota .goodbye config.goodbyeQuota
    |>.setQuota .blocksByRange config.blocksByRangeQuota
    |>.setQuota .blocksByRoot config.blocksByRootQuota
    |>.setQuota .blobsByRange config.blobsByRangeQuota
    |>.setQuota .blobsByRoot config.blobsByRootQuota
    |>.setQuota .dataColumnsByRoot config.dataColumnsByRootQuota
    |>.setQuota .dataColumnsByRange config.dataColumnsByRangeQuota
    |>.setQuota .lightClientBootstrap config.lightClientBootstrapQuota
    |>.setQuota .lightClientOptimisticUpdate config.lightClientOptimisticUpdateQuota
    |>.setQuota .lightClientFinalityUpdate config.lightClientFinalityUpdateQuota
    |>.setQuota .lightClientUpdatesByRange config.lightClientUpdatesByRangeQuota).build

/-- `new_with_config` never fails for a missing quota: it builds, for every
protocol, the limiter `from_quota` makes from the quota configured for that
protocol, and fails exactly when `from_quota` rejects one of them. -/
theorem RPCRateLimiter.newWithConfig_ok_iff (config : RateLimiterConfig) (rl : RPCRateLimiter) :
    newWithConfig config = .ok rl ↔
      ∀ protocol, Limiter.fromQuota (config.quota protocol) = .ok (rl.limiter protocol) := by
  rw [newWithConfig, RPCRateLimiterBuilder.build_eq_ok_iff]
  refine forall_congr' fun protocol => ⟨fun ⟨quota, set, made⟩ => ?_, fun made => ⟨_, ?_, made⟩⟩
  · cases protocol <;> (obtain rfl := Option.some_injective _ set; exact made)
  · cases protocol <;> rfl

/-- A rate limiter fresh from `new_with_config` holds no peer. -/
theorem RPCRateLimiter.newWithConfig_fresh {config : RateLimiterConfig} {rl : RPCRateLimiter}
    (built : newWithConfig config = .ok rl) (protocol : Protocol) (peerId : PeerId) :
    (rl.limiter protocol).tatPerKey peerId = none :=
  (Limiter.fromQuota_eq_ok ((newWithConfig_ok_iff config rl).mp built protocol)).2.2.2 peerId

/-- A rate limiter fresh from `new_with_config` accepts, at any time, the first
request of any peer whose responses fit in the quota configured for its
protocol. -/
theorem RPCRateLimiter.newWithConfig_allows_first_request {config : RateLimiterConfig} {rl : RPCRateLimiter}
    (built : newWithConfig config = .ok rl) (timeSinceStart : Nat) (peerId : PeerId) (protocol : Protocol)
    {maxResponses : Nat} (within : maxResponses ≤ (config.quota protocol).maxTokens) :
    (rl.allows timeSinceStart peerId protocol maxResponses).2 = .ok () :=
  Limiter.fromQuota_allows_fresh_of_le ((newWithConfig_ok_iff config rl).mp built protocol) timeSinceStart
    (newWithConfig_fresh built protocol peerId) (max_le within (config.quota protocol).maxTokens_pos)

/-- With one request every ten seconds on every protocol but `BlocksByRange`,
which takes 1024 blocks every ten seconds, a fresh rate limiter accepts a first
request of 64 blocks. -/
theorem RPCRateLimiter.newWithConfig_allows_first_blocks_request :
    let one := Quota.oneEvery 10
    let config : RateLimiterConfig :=
      ⟨one, one, one, one, .nEvery 1024 (by decide) 10, one, one, one, one, one, one, one, one, one⟩
    ∃ rl, newWithConfig config = .ok rl ∧ (rl.allows 0 1 .blocksByRange 64).2 = .ok () := by
  intro one config
  obtain ⟨rl, built⟩ : ∃ rl, newWithConfig config = .ok rl := by
    simp only [config, one]
    exact ⟨_, rfl⟩
  exact ⟨rl, built, newWithConfig_allows_first_request built 0 1 .blocksByRange
    (by simp only [config, one]; decide)⟩

end Eth2Libp2p
