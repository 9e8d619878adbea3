import Eth2Libp2p.RPC.Prune

/-! # The window bound of the limiter

The GCRA promise of `Quota`: over any window of time `[a, b]`, the requests for
one key that a limiter accepts cost at most `tau + (b - a)`, that is, at most a
full bucket plus what is replenished during the window
(`Limiter.allows_window_bound`).

The proof follows the key's TAT along the run. An accepted request moves the
TAT by its cost, and is accepted only if the TAT it leaves is at most `tau`
ahead of its time; so the cost accepted since `a` never exceeds the TAT minus
`a`, which is at most `b + tau` at the last accepted request of the window
(`Limiter.WindowInv`). A prune may forget the TAT, but only one that has passed
before the next request; the invariant keeps, instead of the TAT, a clock that
no later request precedes.

The run must be in time order, and no `u64` operation of an accepted request may
saturate.
-/

namespace Eth2Libp2p

namespace Limiter

variable {Key : Type}

/-- The time of a call: a request's time, or a prune's limit. -/
def LimiterCall.time : LimiterCall Key → Nat
  | .allows request => request.timeSinceStart
  | .prune timeLimit => timeLimit

/-- The times of the requests among the calls. -/
def requestTimes (calls : List (LimiterCall Key)) : List Nat :=
  calls.filterMap fun
    | .allows request => some request.timeSinceStart
    | .prune _ => none

/-- Calls in time order: no request comes before the time of an earlier call.
Requests come at non-decreasing times, and a prune's limit is no later than the
next request. -/
def Ordered : List (LimiterCall Key) → Prop
  | [] => True
  | call :: calls => (∀ time ∈ requestTimes calls, call.time ≤ time) ∧ Ordered calls

instance decidableOrdered : ∀ calls : List (LimiterCall Key), Decidable (Ordered calls)
  | [] => isTrue trivial
  | _ :: calls =>
    haveI := decidableOrdered calls
    inferInstanceAs (Decidable (_ ∧ _))

/-- What the run has accepted so far for `key` in `[a, b]`, as a cost `spent`:
within the bound, and, once positive, at most the key's TAT minus `a`; a key
forgotten by a prune counts as having the TAT `clock`, a time no later request
precedes. -/
def WindowInv (key : Key) (a b : Nat) (lim : Limiter Key) (spent clock : Nat) : Prop :=
  spent ≤ lim.tau + (b - a) ∧ (spent = 0 ∨ a + spent ≤ (lim.tatPerKey key).getD clock)

theorem getD_le_getD (tat : Option Nat) {clock later : Nat} (le : clock ≤ later) :
    tat.getD clock ≤ tat.getD later := by
  cases tat <;> simp [le]

theorem WindowInv.prune {key : Key} {a b : Nat} {lim : Limiter Key} {spent clock : Nat}
    (inv : WindowInv key a b lim spent clock) (timeLimit : Nat) :
    WindowInv key a b (lim.prune timeLimit) spent (max clock timeLimit) := by
  refine ⟨inv.1, inv.2.imp_right fun below => ?_⟩
  have limit : asNanosU64 timeLimit ≤ max clock timeLimit :=
    Nat.le_trans (Nat.mod_le _ _) (Nat.le_max_right _ _)
  dsimp only [Limiter.prune]
  cases found : lim.tatPerKey key with
  | none =>
    rw [found] at below
    exact Nat.le_trans below (Nat.le_max_left _ _)
  | some tat =>
    rw [found, Option.getD_some] at below
    by_cases kept : asNanosU64 timeLimit ≤ tat
    · simpa only [Option.filter_some, decide_eq_true_eq, kept, if_true, Option.getD_some] using below
    · simp only [Option.filter_some, decide_eq_true_eq, kept, if_false, Option.getD_none]
      omega

variable [DecidableEq Key]

/-- No `u64` conversion or saturating operation of a run loses anything: request
times fit in 64 bits, and a request within the size limit computes its cost and
its new TAT without saturating. -/
def NoSaturation : Limiter Key → List (LimiterCall Key) → Prop
  | _, [] => True
  | lim, .allows request :: calls =>
    let tat := (lim.tatPerKey request.key).getD request.timeSinceStart
    (request.timeSinceStart < 2 ^ 64 ∧
      (saturatingMul lim.t request.tokens ≤ lim.tau →
        lim.t * request.tokens ≤ U64_MAX ∧
        max request.timeSinceStart tat + lim.t * request.tokens ≤ U64_MAX)) ∧
      NoSaturation (lim.allows request.timeSinceStart request.key request.tokens).1 calls
  | lim, .prune timeLimit :: calls => NoSaturation (lim.prune timeLimit) calls

instance decidableNoSaturation : ∀ (lim : Limiter Key) (calls : List (LimiterCall Key)),
    Decidable (NoSaturation lim calls)
  | _, [] => isTrue trivial
  | lim, .allows request :: calls =>
    haveI := decidableNoSaturation (lim.allows request.timeSinceStart request.key request.tokens).1 calls
    inferInstanceAs (Decidable (_ ∧ _))
  | lim, .prune timeLimit :: calls => decidableNoSaturation (lim.prune timeLimit) calls

/-- The tokens of the requests for `key` accepted at times in `[a, b]`. -/
def acceptedTokens (key : Key) (a b : Nat) (answers : List (Request Key × Except RateLimitedErr Unit)) :
    Nat :=
  ((answers.filter fun answer =>
      answer.1.key = key ∧ a ≤ answer.1.timeSinceStart ∧ answer.1.timeSinceStart ≤ b ∧
        answer.2.toBool).map (·.1.tokens)).sum

@[simp] theorem acceptedTokens_nil (key : Key) (a b : Nat) : acceptedTokens key a b [] = 0 := rfl

theorem acceptedTokens_cons (key : Key) (a b : Nat) (request : Request Key)
    (answer : Except RateLimitedErr Unit) (answers : List (Request Key × Except RateLimitedErr Unit)) :
    acceptedTokens key a b ((request, answer) :: answers) =
      (if request.key = key ∧ a ≤ request.timeSinceStart ∧ request.timeSinceStart ≤ b ∧
          answer.toBool then request.tokens else 0) + acceptedTokens key a b answers := by
  unfold acceptedTokens
  rw [List.filter_cons]
  split <;> simp_all

/-- One request keeps the invariant, its cost counted when it is an accepted
request for `key` inside the window. -/
theorem WindowInv.allows {key : Key} {a b : Nat} {lim : Limiter Key} {spent clock : Nat}
    (inv : WindowInv key a b lim spent clock) (request : Request Key) (after : clock ≤ request.timeSinceStart)
    (within : request.timeSinceStart < 2 ^ 64)
    (exact : saturatingMul lim.t request.tokens ≤ lim.tau →
      lim.t * request.tokens ≤ U64_MAX ∧
      max request.timeSinceStart ((lim.tatPerKey request.key).getD request.timeSinceStart) +
        lim.t * request.tokens ≤ U64_MAX) :
    let answered := lim.allows request.timeSinceStart request.key request.tokens
    WindowInv key a b answered.1
      (spent + if request.key = key ∧ a ≤ request.timeSinceStart ∧ request.timeSinceStart ≤ b ∧
          answered.2.toBool then lim.t * request.tokens else 0) request.timeSinceStart := by
  intro answered
  obtain ⟨time, target, tokens⟩ := request
  dsimp only at after within exact ⊢
  have now : asNanosU64 time = time := Nat.mod_eq_of_lt within
  have moved : spent = 0 ∨ a + spent ≤ (lim.tatPerKey key).getD time :=
    inv.2.imp_right fun below => Nat.le_trans below (getD_le_getD _ after)
  rcases allows_cases lim time target tokens with ⟨-, refused⟩ | ⟨-, -, refused⟩ | ⟨fits, accepted, answer⟩
  · simp only [answered, refused, Except.toBool, Bool.false_eq_true, and_false, if_false, Nat.add_zero]
    exact ⟨inv.1, moved⟩
  · simp only [answered, refused, Except.toBool, Bool.false_eq_true, and_false, if_false, Nat.add_zero]
    refine ⟨inv.1, moved.imp_right fun below => ?_⟩
    by_cases same : key = target
    · subst same; simpa only [Function.update_same, now] using below
    · simpa only [Function.update_noteq same] using below
  · obtain ⟨small, fresh⟩ := exact fits
    have cost : saturatingMul lim.t tokens = lim.t * tokens := Nat.min_eq_left small
    simp only [answered, answer, Except.toBool, and_true]
    rw [now, cost] at accepted ⊢
    unfold saturatingAdd at accepted ⊢
    have bound := inv.1
    by_cases same : target = key
    · subst same
      simp only [WindowInv, Function.update_same, Option.getD_some]
      split <;> omega
    · simp only [WindowInv, same, false_and, if_false, Nat.add_zero, Function.update_noteq (Ne.symm same)]
      exact ⟨bound, moved⟩

/-- The window bound over a run, from a limiter in which the run has already
accepted `spent` of the window. -/
theorem WindowInv.run (key : Key) (a b : Nat) :
    ∀ (calls : List (LimiterCall Key)) (lim : Limiter Key) (spent clock : Nat),
      Ordered calls → (∀ time ∈ requestTimes calls, clock ≤ time) → NoSaturation lim calls →
      WindowInv key a b lim spent clock →
      spent + lim.t * acceptedTokens key a b (lim.run calls).2 ≤ lim.tau + (b - a)
  | [], _, _, _, _, _, _, inv => inv.1
  | .prune timeLimit :: calls, lim, spent, clock, ordered, later, exact, inv =>
    WindowInv.run key a b calls (lim.prune timeLimit) spent (max clock timeLimit) ordered.2
      (fun time member => Nat.max_le.mpr ⟨later time member, ordered.1 time member⟩) exact
      (inv.prune timeLimit)
  | .allows request :: calls, lim, spent, clock, ordered, later, exact, inv => by
    have first : clock ≤ request.timeSinceStart := later _ (List.mem_cons_self _ _)
    have rest := WindowInv.run key a b calls _ _ _ ordered.2 ordered.1 exact.2
      (inv.allows request first exact.1.1 exact.1.2)
    simp only [Limiter.run, acceptedTokens_cons, allows_t, allows_tau, Nat.mul_add] at rest ⊢
    split
    · next counted => rw [if_pos counted] at rest; omega
    · next skipped => rw [if_neg skipped] at rest; omega

/-- Over every window `[a, b]`, the requests for one key that a limiter accepts
in a run in time order, with no `u64` saturation, cost at most `tau + (b - a)`. -/
theorem allows_window_bound (lim : Limiter Key) (calls : List (LimiterCall Key)) (ordered : Ordered calls)
    (exact : NoSaturation lim calls) (key : Key) (a b : Nat) :
    lim.t * acceptedTokens key a b (lim.run calls).2 ≤ lim.tau + (b - a) := by
  simpa using WindowInv.run key a b calls lim 0 0 ordered (fun _ _ => Nat.zero_le _) exact
    ⟨Nat.zero_le _, .inl rfl⟩

theorem allows_window_bound_burst :
    let lim : Limiter Nat := { tau := 2000000000, t := 500000000, tatPerKey := fun _ => none }
    let calls : List (LimiterCall Nat) := [.allows ⟨0, 0, 4⟩, .allows ⟨100000000, 0, 1⟩,
      .prune 100000000, .allows ⟨1000000000, 0, 1⟩]
    Ordered calls ∧ NoSaturation lim calls ∧
      lim.t * acceptedTokens 0 0 1000000000 (lim.run calls).2 ≤ lim.tau + (1000000000 - 0) :=
  ⟨by decide, by decide, allows_window_bound _ _ (by decide) (by decide) 0 0 1000000000⟩

end Limiter

end Eth2Libp2p
