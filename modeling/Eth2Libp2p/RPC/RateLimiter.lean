import Mathlib.Logic.Function.Basic
import Mathlib.Algebra.Order.Ring.Nat

/-! # The GCRA rate limiter

`Limiter` of `rpc/rate_limiter.rs`: per key, the theoretical arrival time (TAT)
of the generic cell rate algorithm. A request of `n` tokens costs `t * n`
nanoseconds of replenishing; it is accepted when the key's TAT, pushed by that
cost, is at most `tau` ahead of the current time, and the TAT then moves to the
later of the current time and itself, plus the cost. `prune` forgets the keys
whose TAT has passed.

Times are counts of nanoseconds: `Nanosecs` values are `u64`, with the
source's saturating arithmetic, a `Duration` is its `as_nanos`, and
`as_nanos() as u64` keeps its low 64 bits. The map of TATs is a function to
`Option`: the limiter only looks keys up, inserts them and retains some of them.

`Limiter.allows_cases` lists what one request can do; the window bound and
the invisibility of pruning are proved from it in the modules that follow.
-/

namespace Eth2Libp2p

/-- `u64::MAX`. -/
def U64_MAX : Nat := 2 ^ 64 - 1

/-- `Duration::as_nanos() as u64`: the cast keeps the low 64 bits. -/
def asNanosU64 (d : Nat) : Nat := d % 2 ^ 64

/-- `u64::saturating_add`. -/
def saturatingAdd (a b : Nat) : Nat := min (a + b) U64_MAX

/-- `u64::saturating_mul`. -/
def saturatingMul (a b : Nat) : Nat := min (a * b) U64_MAX

/-- User-facing parameters (`Quota`): `max_tokens` tokens every
`replenish_all_every`. -/
structure Quota where
  replenishAllEvery : Nat
  maxTokens : Nat
  maxTokens_pos : 0 < maxTokens

/-- Why a request is refused (`RateLimitedErr`). -/
inductive RateLimitedErr where
  | tooLarge
  | tooSoon (wait : Nat)
  deriving DecidableEq, Repr

/-- The per-key limiter (`Limiter`). -/
structure Limiter (Key : Type) where
  tau : Nat
  t : Nat
  tatPerKey : Key → Option Nat

namespace Limiter

variable {Key : Type}

/-- `Limiter::from_quota`. -/
def fromQuota (quota : Quota) : Except String (Limiter Key) :=
  let tau := quota.replenishAllEvery
  if tau = 0 then .error "Replenish time must be positive"
  else
    let t := tau / quota.maxTokens
    if 2 ^ 64 ≤ t then .error "total replenish time is too long"
    else if 2 ^ 64 ≤ tau then .error "total replenish time is too long"
    else .ok { tau, t, tatPerKey := fun _ => none }

/-- `Limiter::prune`: keep the keys whose TAT is not before the limit. -/
def prune (lim : Limiter Key) (timeLimit : Nat) : Limiter Key :=
  { lim with tatPerKey := fun key => (lim.tatPerKey key).filter fun tat => asNanosU64 timeLimit ≤ tat }

@[simp] theorem prune_tau (lim : Limiter Key) (timeLimit : Nat) : (lim.prune timeLimit).tau = lim.tau :=
  rfl

@[simp] theorem prune_t (lim : Limiter Key) (timeLimit : Nat) : (lim.prune timeLimit).t = lim.t :=
  rfl

variable [DecidableEq Key]

/-- `Limiter::allows`: the new limiter and the answer. A request for an unknown
key is measured against a full bucket, and the key is inserted unless the
request is too large. -/
def allows (lim : Limiter Key) (timeSinceStart : Nat) (key : Key) (tokens : Nat) :
    Limiter Key × Except RateLimitedErr Unit :=
  let timeSinceStart := asNanosU64 timeSinceStart
  let additionalTime := saturatingMul lim.t tokens
  if lim.tau < additionalTime then (lim, .error .tooLarge)
  else
    let tat := (lim.tatPerKey key).getD timeSinceStart
    let earliestTime := saturatingAdd tat additionalTime - lim.tau
    if timeSinceStart < earliestTime then
      ({ lim with tatPerKey := Function.update lim.tatPerKey key (some tat) },
        .error (.tooSoon (earliestTime - timeSinceStart)))
    else
      ({ lim with
          tatPerKey := Function.update lim.tatPerKey key
            (some (saturatingAdd (max timeSinceStart tat) additionalTime)) },
        .ok ())

/-- Everything one request can do: refuse a batch costlier than `tau`; refuse a
request that comes before the earliest time, keeping the key's TAT; or accept it
and move the TAT. -/
theorem allows_cases (lim : Limiter Key) (time : Nat) (key : Key) (tokens : Nat) :
    let now := asNanosU64 time
    let cost := saturatingMul lim.t tokens
    let tat := (lim.tatPerKey key).getD now
    (lim.tau < cost ∧ lim.allows time key tokens = (lim, .error .tooLarge)) ∨
    (cost ≤ lim.tau ∧ now < saturatingAdd tat cost - lim.tau ∧
      lim.allows time key tokens =
        ({ lim with tatPerKey := Function.update lim.tatPerKey key (some tat) },
          .error (.tooSoon (saturatingAdd tat cost - lim.tau - now)))) ∨
    (cost ≤ lim.tau ∧ saturatingAdd tat cost - lim.tau ≤ now ∧
      lim.allows time key tokens =
        ({ lim with
            tatPerKey := Function.update lim.tatPerKey key (some (saturatingAdd (max now tat) cost)) },
          .ok ())) := by
  intro now cost tat
  by_cases large : lim.tau < cost
  · exact .inl ⟨large, if_pos large⟩
  · by_cases soon : now < saturatingAdd tat cost - lim.tau
    · exact .inr (.inl ⟨Nat.le_of_not_lt large, soon, by simp only [allows, if_neg large, if_pos soon]⟩)
    · exact .inr (.inr ⟨Nat.le_of_not_lt large, Nat.le_of_not_lt soon,
        by simp only [allows, if_neg large, if_neg soon]⟩)

theorem allows_of_tau_lt {lim : Limiter Key} (time : Nat) (key : Key) {tokens : Nat}
    (large : lim.tau < saturatingMul lim.t tokens) : lim.allows time key tokens = (lim, .error .tooLarge) :=
  if_pos large

@[simp] theorem allows_tau (lim : Limiter Key) (time : Nat) (key : Key) (tokens : Nat) :
    (lim.allows time key tokens).1.tau = lim.tau := by
  rcases allows_cases lim time key tokens with ⟨-, same⟩ | ⟨-, -, same⟩ | ⟨-, -, same⟩ <;> rw [same]

@[simp] theorem allows_t (lim : Limiter Key) (time : Nat) (key : Key) (tokens : Nat) :
    (lim.allows time key tokens).1.t = lim.t := by
  rcases allows_cases lim time key tokens with ⟨-, same⟩ | ⟨-, -, same⟩ | ⟨-, -, same⟩ <;> rw [same]

/-- A request leaves the other keys alone. -/
theorem allows_tatPerKey_of_ne (lim : Limiter Key) (time : Nat) {key other : Key} (tokens : Nat)
    (ne : other ≠ key) : (lim.allows time key tokens).1.tatPerKey other = lim.tatPerKey other := by
  rcases allows_cases lim time key tokens with ⟨-, same⟩ | ⟨-, -, same⟩ | ⟨-, -, same⟩ <;>
    simp only [same, Function.update_noteq ne]

/-- Two limiters with the same parameters and the same TAT for `key` answer a
request for `key` alike, and give `key` the same TAT. -/
theorem allows_congr {lim other : Limiter Key} (time : Nat) (key : Key) (tokens : Nat)
    (tau : lim.tau = other.tau) (t : lim.t = other.t) (tat : lim.tatPerKey key = other.tatPerKey key) :
    (lim.allows time key tokens).2 = (other.allows time key tokens).2 ∧
      (lim.allows time key tokens).1.tatPerKey key = (other.allows time key tokens).1.tatPerKey key := by
  simp only [allows, tau, t, tat]
  split <;> (try split) <;> simp only [Function.update_same, tat, and_self]

/-- A request to the limiter. -/
structure Request (Key : Type) where
  timeSinceStart : Nat
  key : Key
  tokens : Nat

/-- A call on the limiter: a request, or a prune. -/
inductive LimiterCall (Key : Type) where
  | allows (request : Request Key)
  | prune (timeLimit : Nat)

/-- A run of calls: the final limiter, and every request with its answer, in order. -/
def run (lim : Limiter Key) :
    List (LimiterCall Key) → Limiter Key × List (Request Key × Except RateLimitedErr Unit)
  | [] => (lim, [])
  | .allows request :: calls =>
    let answered := lim.allows request.timeSinceStart request.key request.tokens
    let rest := answered.1.run calls
    (rest.1, (request, answered.2) :: rest.2)
  | .prune timeLimit :: calls => (lim.prune timeLimit).run calls

end Limiter

end Eth2Libp2p
