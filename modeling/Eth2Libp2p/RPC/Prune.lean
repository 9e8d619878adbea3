import Eth2Libp2p.RPC.RateLimiter

/-! # Pruning is invisible

`Limiter::prune(lim)` forgets the keys whose TAT is before `lim`. A key whose
TAT has passed answers like an unknown key, which the limiter measures against
a full bucket; so pruning changes no answer to requests made at `lim` or later
(`Limiter.prune_invisible`). The argument is a simulation: `Limiter.PrunedAgree`
relates the pruned limiter with the original one, and every request from `lim`
on keeps it and gets the same answer from both.

Times reach the limiter through `as u64`, which keeps the low 64 bits of a
`Duration`; the source manages times only up to `u64::MAX` nanoseconds after its
start (`Nanosecs`, about five hundred years), and the result is stated for
requests within that horizon.
-/

namespace Eth2Libp2p

namespace Limiter

variable {Key : Type}

/-- The pruned limiter agrees with the original one on every key from `limit`
on: same parameters, and each key has the same TAT in both, or is missing from
the pruned one and has a TAT before `limit` in the original. -/
structure PrunedAgree (limit : Nat) (pruned lim : Limiter Key) : Prop where
  tau : pruned.tau = lim.tau
  t : pruned.t = lim.t
  tat : ∀ key, pruned.tatPerKey key = lim.tatPerKey key ∨
    (pruned.tatPerKey key = none ∧ ∃ tat, lim.tatPerKey key = some tat ∧ tat < limit)

theorem prunedAgree_prune (lim : Limiter Key) (timeLimit : Nat) :
    PrunedAgree (asNanosU64 timeLimit) (lim.prune timeLimit) lim := by
  refine ⟨rfl, rfl, fun key => ?_⟩
  dsimp only [prune]
  cases found : lim.tatPerKey key with
  | none => exact .inl rfl
  | some tat =>
    by_cases kept : asNanosU64 timeLimit ≤ tat
    · exact .inl (by simp [kept])
    · exact .inr ⟨by simp [Nat.lt_of_not_le kept], tat, rfl, Nat.lt_of_not_le kept⟩

variable [DecidableEq Key]

/-- A request whose TAT has passed is accepted, and moves the TAT to the
current time plus the cost. -/
theorem allows_of_tat_le {lim : Limiter Key} {time : Nat} {key : Key} {tokens : Nat}
    (passed : (lim.tatPerKey key).getD (asNanosU64 time) ≤ asNanosU64 time)
    (fits : saturatingMul lim.t tokens ≤ lim.tau) :
    lim.allows time key tokens =
      ({ lim with
          tatPerKey := Function.update lim.tatPerKey key
            (some (saturatingAdd (asNanosU64 time) (saturatingMul lim.t tokens))) },
        .ok ()) := by
  rcases allows_cases lim time key tokens with ⟨large, -⟩ | ⟨-, soon, -⟩ | ⟨-, -, accepted⟩
  · exact absurd large (Nat.not_lt_of_le fits)
  · unfold saturatingAdd at soon
    omega
  · rw [accepted, Nat.max_eq_left passed]

theorem PrunedAgree.tat_of_ne {limit : Nat} {pruned lim : Limiter Key}
    (agree : PrunedAgree limit pruned lim) (time : Nat) {key other : Key} (tokens : Nat)
    (ne : other ≠ key) :
    (pruned.allows time key tokens).1.tatPerKey other = (lim.allows time key tokens).1.tatPerKey other ∨
      ((pruned.allows time key tokens).1.tatPerKey other = none ∧
        ∃ tat, (lim.allows time key tokens).1.tatPerKey other = some tat ∧ tat < limit) := by
  rw [allows_tatPerKey_of_ne _ _ _ ne, allows_tatPerKey_of_ne _ _ _ ne]
  exact agree.tat other

/-- One request from `limit` on gets the same answer from both limiters, and
keeps them in agreement. -/
theorem PrunedAgree.allows {limit : Nat} {pruned lim : Limiter Key} (agree : PrunedAgree limit pruned lim)
    (time : Nat) (key : Key) (tokens : Nat) (after : limit ≤ asNanosU64 time) :
    (pruned.allows time key tokens).2 = (lim.allows time key tokens).2 ∧
      PrunedAgree limit (pruned.allows time key tokens).1 (lim.allows time key tokens).1 := by
  rcases agree.tat key with same | ⟨missing, tat, found, stale⟩
  · obtain ⟨answer, updated⟩ := allows_congr time key tokens agree.tau agree.t same
    refine ⟨answer, by simp only [allows_tau, allows_t, agree.tau, agree.t], by simp only [allows_t, agree.t],
      fun other => ?_⟩
    by_cases ne : other = key
    · exact .inl (ne ▸ updated)
    · exact agree.tat_of_ne time tokens ne
  · by_cases fits : saturatingMul lim.t tokens ≤ lim.tau
    · have prunedFits : saturatingMul pruned.t tokens ≤ pruned.tau := by rw [agree.t, agree.tau]; exact fits
      rw [allows_of_tat_le (by rw [missing]; exact Nat.le_refl _) prunedFits,
        allows_of_tat_le (by rw [found, Option.getD_some]; omega) fits]
      refine ⟨rfl, agree.tau, agree.t, fun other => ?_⟩
      by_cases ne : other = key
      · subst ne
        exact .inl (by simp only [Function.update_same, agree.t])
      · simp only [Function.update_noteq ne]
        exact agree.tat other
    · have large : lim.tau < saturatingMul lim.t tokens := Nat.lt_of_not_le fits
      have prunedLarge : pruned.tau < saturatingMul pruned.t tokens := by rw [agree.t, agree.tau]; exact large
      rw [allows_of_tau_lt time key large, allows_of_tau_lt time key prunedLarge]
      exact ⟨rfl, agree⟩

/-- Requests from `limit` on get the same answers from both limiters. -/
theorem PrunedAgree.run {limit : Nat} {pruned lim : Limiter Key} (agree : PrunedAgree limit pruned lim) :
    ∀ requests : List (Request Key), (∀ request ∈ requests, limit ≤ asNanosU64 request.timeSinceStart) →
      (pruned.run (requests.map .allows)).2 = (lim.run (requests.map .allows)).2
  | [], _ => rfl
  | request :: requests, after => by
    obtain ⟨answer, next⟩ :=
      agree.allows request.timeSinceStart request.key request.tokens (after request (List.mem_cons_self _ _))
    simp only [List.map_cons, Limiter.run, answer,
      next.run requests fun later member => after later (List.mem_cons_of_mem _ member)]

/-- Pruning at `timeLimit` changes no answer to requests made at `timeLimit` or
later, within the `u64` horizon of the limiter's clock. -/
theorem prune_invisible (lim : Limiter Key) (timeLimit : Nat) (requests : List (Request Key))
    (after : ∀ request ∈ requests, timeLimit ≤ request.timeSinceStart ∧ request.timeSinceStart < 2 ^ 64) :
    ((lim.prune timeLimit).run (requests.map .allows)).2 = (lim.run (requests.map .allows)).2 :=
  (prunedAgree_prune lim timeLimit).run requests fun request member => by
    obtain ⟨later, within⟩ := after request member
    unfold asNanosU64
    rw [Nat.mod_eq_of_lt within, Nat.mod_eq_of_lt (Nat.lt_of_le_of_lt later within)]
    exact later

theorem prune_invisible_after_request :
    let lim : Limiter Nat := { tau := 10, t := 10, tatPerKey := fun key => if key = 0 then some 10 else none }
    let requests : List (Request Nat) := [⟨20, 0, 1⟩, ⟨25, 1, 1⟩]
    ((lim.prune 11).run (requests.map .allows)).2 = (lim.run (requests.map .allows)).2 :=
  prune_invisible _ 11 _ (by decide)

end Limiter

end Eth2Libp2p
