import Eth2Libp2p.RPC.RateLimiter

/-! # What a refusal of the rate limiter means

`Limiter::allows` refuses a request without touching the limiter
(`Limiter.allows_refusal_exact`): a batch costlier than `tau` never reaches
the map, and a key the map does not hold is measured against a full bucket, so
it is never too soon. A `TooSoon(d)` is exact: as long as no call removes or
moves the key's TAT (a request for another key, or a prune at a limit no later
than the retry), the same request is accepted at `now + d` and refused, with the
remaining wait, at every earlier time from `now` on.

`Limiter::from_quota` rounds the replenishing time of one token down
(`t = tau / max_tokens`), so a key the limiter has not seen is granted a batch
exactly when `t * n` (saturated) is at most `tau` (`Limiter.fromQuota_allows_fresh_iff`):
every batch of up to `max_tokens` tokens, and larger ones as well when
`max_tokens` does not divide `tau` (`Limiter.fromQuota_accepts_larger_batch`).
-/

namespace Eth2Libp2p

/-- The cast of a later time stays `d` ahead while it does not reach `2^64`. -/
theorem asNanosU64_add {time d : Nat} (fits : asNanosU64 time + d < 2 ^ 64) :
    asNanosU64 (time + d) = asNanosU64 time + d := by
  unfold asNanosU64 at fits ⊢
  rw [Nat.add_mod, Nat.mod_eq_of_lt (Nat.lt_of_le_of_lt (Nat.le_add_left d _) fits), Nat.mod_eq_of_lt fits]

theorem saturatingAdd_le_U64_MAX (a b : Nat) : saturatingAdd a b ≤ U64_MAX := Nat.min_le_right _ _

namespace Limiter

variable {Key : Type}

/-- A call that leaves the TAT of `key` alone when it is at least `bound`: a
request for another key, or a prune at a limit no later than `bound`. -/
def Spares (key : Key) (bound : Nat) : LimiterCall Key → Prop
  | .allows request => request.key ≠ key
  | .prune timeLimit => asNanosU64 timeLimit ≤ bound

variable [DecidableEq Key]

/-- Calls that spare `key` keep its TAT and the limiter's parameters. -/
theorem run_spares {key : Key} {bound tat : Nat} (kept : bound ≤ tat) :
    ∀ (calls : List (LimiterCall Key)) (lim : Limiter Key), (∀ call ∈ calls, Spares key bound call) →
      lim.tatPerKey key = some tat →
      (lim.run calls).1.tau = lim.tau ∧ (lim.run calls).1.t = lim.t ∧ (lim.run calls).1.tatPerKey key = some tat
  | [], _, _, found => ⟨rfl, rfl, found⟩
  | .allows request :: calls, lim, spared, found => by
    have other : key ≠ request.key := (spared _ (List.mem_cons_self _ _)).symm
    have rest := run_spares kept calls (lim.allows request.timeSinceStart request.key request.tokens).1
      (fun call member => spared call (List.mem_cons_of_mem _ member))
      (by rw [allows_tatPerKey_of_ne _ _ _ other, found])
    simp only [run, rest, allows_tau, allows_t, and_self]
  | .prune timeLimit :: calls, lim, spared, found => by
    have before : asNanosU64 timeLimit ≤ tat := (spared _ (List.mem_cons_self _ _)).trans kept
    have rest := run_spares kept calls (lim.prune timeLimit)
      (fun call member => spared call (List.mem_cons_of_mem _ member))
      (by simp only [prune, found, Option.filter_some, decide_eq_true before, if_true])
    simp only [run, rest, prune_tau, prune_t, and_self]

omit [DecidableEq Key] in
/-- A key the map does not hold is never too soon: its TAT is the current time,
and a cost within `tau` puts the earliest time no later than now. -/
theorem earliest_le_of_fresh {lim : Limiter Key} {key : Key} {now tokens : Nat}
    (fits : saturatingMul lim.t tokens ≤ lim.tau) (fresh : lim.tatPerKey key = none) :
    saturatingAdd ((lim.tatPerKey key).getD now) (saturatingMul lim.t tokens) - lim.tau ≤ now := by
  rw [fresh, Option.getD_none]
  unfold saturatingAdd
  omega

/-- For a key the map holds and a cost within `tau`, the answer depends only on
whether the earliest time `tat + t * tokens - tau` has come. -/
theorem allows_answer_of_found {lim : Limiter Key} {key : Key} {tat tokens : Nat} (found : lim.tatPerKey key = some tat)
    (fits : saturatingMul lim.t tokens ≤ lim.tau) (time : Nat) :
    (lim.allows time key tokens).2 =
      if asNanosU64 time < saturatingAdd tat (saturatingMul lim.t tokens) - lim.tau then
        .error (.tooSoon (saturatingAdd tat (saturatingMul lim.t tokens) - lim.tau - asNanosU64 time))
      else .ok () := by
  unfold allows
  simp only [found, Option.getD_some, if_neg (Nat.not_lt_of_le fits)]
  split <;> rfl

/-- A refused request leaves the limiter unchanged; a `TooSoon(d)` is answered
only for a key the map holds, and is exact: with no call in between that removes
or moves the key's TAT, the request is accepted at `now + d` and refused, with
the wait left, at every time in `[now, now + d)`. -/
theorem allows_refusal_exact (lim : Limiter Key) (time : Nat) (key : Key) (tokens : Nat) :
    (∀ err, (lim.allows time key tokens).2 = .error err → (lim.allows time key tokens).1 = lim) ∧
    ∀ wait, (lim.allows time key tokens).2 = .error (.tooSoon wait) →
      (lim.tatPerKey key).isSome ∧
      ∀ calls : List (LimiterCall Key), (∀ call ∈ calls, Spares key (asNanosU64 time + wait) call) →
        let later := ((lim.allows time key tokens).1.run calls).1
        (later.allows (time + wait) key tokens).2 = .ok () ∧
        ∀ retry, time ≤ retry → retry < time + wait →
          (later.allows retry key tokens).2 = .error (.tooSoon (time + wait - retry)) := by
  rcases allows_cases lim time key tokens with ⟨-, tooLarge⟩ | ⟨fits, soon, tooSoon⟩ | ⟨-, -, accepted⟩
  · refine ⟨fun _ _ => by rw [tooLarge], fun wait refused => ?_⟩
    rw [tooLarge] at refused
    cases refused
  · obtain ⟨tat, found⟩ : ∃ tat, lim.tatPerKey key = some tat := by
      cases fresh : lim.tatPerKey key with
      | none => exact absurd (earliest_le_of_fresh fits fresh) (Nat.not_le_of_lt soon)
      | some tat => exact ⟨tat, rfl⟩
    have unchanged : (lim.allows time key tokens).1 = lim := by
      rw [tooSoon, found, Option.getD_some, ← found, Function.update_eq_self]
    rw [found, Option.getD_some] at soon tooSoon
    refine ⟨fun _ _ => unchanged, fun wait refused => ⟨by rw [found]; rfl, fun calls spared => ?_⟩⟩
    rw [tooSoon] at refused
    injection refused with refused
    injection refused with refused
    have bounded := saturatingAdd_le_U64_MAX tat (saturatingMul lim.t tokens)
    have atMost : saturatingAdd tat (saturatingMul lim.t tokens) - lim.tau ≤ tat := by
      unfold saturatingAdd
      omega
    rw [unchanged]
    dsimp only
    obtain ⟨tau, t, kept⟩ := run_spares (by unfold U64_MAX at bounded; omega) calls lim spared found
    have answer := allows_answer_of_found kept (by rw [tau, t]; exact fits)
    rw [tau, t] at answer
    have retryAt : ∀ retry, time ≤ retry → retry ≤ time + wait →
        asNanosU64 retry = asNanosU64 time + (retry - time) := fun retry early late => by
      rw [show retry = time + (retry - time) by omega, Nat.add_sub_cancel_left]
      exact asNanosU64_add (by unfold U64_MAX at bounded; omega)
    refine ⟨?_, fun retry early late => ?_⟩
    · rw [answer, retryAt _ (Nat.le_add_right _ _) le_rfl, if_neg (by omega)]
    · rw [answer, retryAt retry early late.le, if_pos (by omega)]
      congr 2
      omega
  · refine ⟨fun err refused => ?_, fun wait refused => ?_⟩ <;> rw [accepted] at refused <;> cases refused

theorem allows_refusal_exact_retry :
    let lim : Limiter Nat := ⟨10, 10, fun key => if key = 0 then some 10 else none⟩
    (lim.allows 5 0 1).2 = .error (.tooSoon 5) ∧ ((lim.allows 5 0 1).1.allows 10 0 1).2 = .ok () := by
  intro lim
  have refused : (lim.allows 5 0 1).2 = .error (.tooSoon 5) := rfl
  exact ⟨refused, ((allows_refusal_exact lim 5 0 1).2 5 refused).2 [] (fun _ absurd => (List.not_mem_nil _ absurd).elim) |>.1⟩

omit [DecidableEq Key] in
/-- A limiter `from_quota` builds: `tau` is the replenishing time, below
`2^64`, `t` its share of one token rounded down, and the map is empty. -/
theorem fromQuota_eq_ok {quota : Quota} {lim : Limiter Key} (built : fromQuota quota = .ok lim) :
    lim.tau = quota.replenishAllEvery ∧ lim.t = quota.replenishAllEvery / quota.maxTokens ∧
      lim.tau < 2 ^ 64 ∧ ∀ key, lim.tatPerKey key = none := by
  unfold fromQuota at built
  dsimp only at built
  split at built
  · cases built
  split at built
  · cases built
  split at built
  · cases built
  next short => cases built; exact ⟨rfl, rfl, Nat.lt_of_not_le short, fun _ => rfl⟩

/-- For a quota `from_quota` accepts, a key the limiter has not seen is granted
`tokens` tokens exactly when `t * tokens`, saturated at `u64::MAX`, is at most
`tau`, where `tau` is the replenishing time and `t = tau / max_tokens`. -/
theorem fromQuota_allows_fresh_iff {quota : Quota} {lim : Limiter Key} (built : fromQuota quota = .ok lim)
    (time : Nat) {key : Key} (fresh : lim.tatPerKey key = none) (tokens : Nat) :
    (lim.allows time key tokens).2 = .ok () ↔
      saturatingMul (quota.replenishAllEvery / quota.maxTokens) tokens ≤ quota.replenishAllEvery := by
  obtain ⟨tau, t, -, -⟩ := fromQuota_eq_ok built
  rw [← t, ← tau]
  rcases allows_cases lim time key tokens with ⟨large, refused⟩ | ⟨fits, soon, -⟩ | ⟨fits, -, accepted⟩
  · rw [refused]
    exact ⟨fun granted => (nomatch granted), fun fits => absurd fits (Nat.not_le_of_lt large)⟩
  · exact absurd (earliest_le_of_fresh fits fresh) (Nat.not_le_of_lt soon)
  · rw [accepted]
    exact ⟨fun _ => fits, fun _ => rfl⟩

/-- Every batch of at most `max_tokens` tokens is granted to a key the limiter
has not seen. -/
theorem fromQuota_allows_fresh_of_le {quota : Quota} {lim : Limiter Key} (built : fromQuota quota = .ok lim)
    (time : Nat) {key : Key} (fresh : lim.tatPerKey key = none) {tokens : Nat} (within : tokens ≤ quota.maxTokens) :
    (lim.allows time key tokens).2 = .ok () :=
  (fromQuota_allows_fresh_iff built time fresh tokens).mpr <| by
    unfold saturatingMul
    calc min (quota.replenishAllEvery / quota.maxTokens * tokens) U64_MAX
        ≤ quota.replenishAllEvery / quota.maxTokens * quota.maxTokens :=
          (Nat.min_le_left _ _).trans (Nat.mul_le_mul_left _ within)
      _ ≤ quota.replenishAllEvery := Nat.div_mul_le_self _ _

/-- A quota of two tokens every three nanoseconds grants a key it has not seen
a batch of three tokens: `t = 3 / 2` is rounded down to one. -/
theorem fromQuota_accepts_larger_batch :
    let quota : Quota := ⟨3, 2, by decide⟩
    ∃ lim : Limiter Nat, fromQuota quota = .ok lim ∧ quota.maxTokens < 3 ∧ (lim.allows 0 7 3).2 = .ok () :=
  ⟨_, rfl, by decide, rfl⟩

end Limiter

end Eth2Libp2p
