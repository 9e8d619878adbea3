import Mathlib.Data.List.Nodup

/-! # Gossipsub topic subscriptions across a fork

The network service keeps the set of gossip topics it is subscribed to
(`network_globals.gossipsub_subscriptions`). A topic is a gossip kind, an
encoding and a fork digest; `subscribe_kind` and `unsubscribe_kind` use the
digest of the current fork. Around a fork, `subscribe_new_fork_topics`
subscribes every topic again under the new digest, with the new fork's core
topics, and `unsubscribe_from_fork_topics_except` later drops every topic of
another digest.

The main result, `GossipState.forkTransition_subscriptions`: after the two
calls the node is subscribed exactly to its former topics under the new digest
and to the new fork's core topics.

The set is updated before gossipsub is called and whatever gossipsub answers;
gossipsub itself, the topic weights (`remove_topic_weight_except`), the metrics
registration and the logs are left out. The gossip kinds and the core topics of
a fork (`fork_core_topics`) are not among the sources: the kinds are a type
parameter and the core topics a list.
-/

namespace Eth2Libp2p

/-- A fork digest; only its equality is used. -/
abbrev ForkDigest := Nat

/-- `GossipEncoding`: the only encoding is SSZ with Snappy compression. -/
inductive GossipEncoding where
  | sszSnappy
  deriving DecidableEq, Repr

/-- `GossipTopic`: a kind of gossip message under an encoding and a fork digest. -/
structure GossipTopic (Kind : Type) where
  kind : Kind
  encoding : GossipEncoding
  forkDigest : ForkDigest
  deriving DecidableEq, Repr

/-- A `HashSet` of topics: a list without repetition, in insertion order. -/
structure TopicSet (Kind : Type) where
  topics : List (GossipTopic Kind)
  nodup : topics.Nodup

namespace TopicSet

variable {Kind : Type} [DecidableEq Kind]

/-- `HashSet::insert`. -/
def insert (topic : GossipTopic Kind) (set : TopicSet Kind) : TopicSet Kind :=
  if member : topic ∈ set.topics then set
  else ⟨set.topics ++ [topic], set.nodup.append (List.nodup_singleton topic)
    (List.disjoint_singleton.mpr member)⟩

/-- `HashSet::remove`. -/
def remove (topic : GossipTopic Kind) (set : TopicSet Kind) : TopicSet Kind :=
  ⟨set.topics.erase topic, set.nodup.erase topic⟩

@[simp] theorem mem_insert {topic other : GossipTopic Kind} {set : TopicSet Kind} :
    other ∈ (set.insert topic).topics ↔ other = topic ∨ other ∈ set.topics := by
  unfold insert
  split
  · constructor
    · exact .inr
    · rintro (rfl | member) <;> assumption
  · simp [or_comm]

@[simp] theorem mem_remove {topic other : GossipTopic Kind} {set : TopicSet Kind} :
    other ∈ (set.remove topic).topics ↔ other ≠ topic ∧ other ∈ set.topics :=
  set.nodup.mem_erase_iff

end TopicSet

/-- What the service keeps for its subscriptions: the set of topics and the
fork digest of its ENR (`enr_fork_id.fork_digest`). -/
structure GossipState (Kind : Type) where
  subscriptions : TopicSet Kind
  forkDigest : ForkDigest

namespace GossipState

variable {Kind : Type} [DecidableEq Kind]

/-- `Network::subscribe`, on the set: the topic is added. -/
def subscribe (topic : GossipTopic Kind) (state : GossipState Kind) : GossipState Kind :=
  { state with subscriptions := state.subscriptions.insert topic }

/-- `Network::unsubscribe`, on the set: the topic is removed. -/
def unsubscribe (topic : GossipTopic Kind) (state : GossipState Kind) : GossipState Kind :=
  { state with subscriptions := state.subscriptions.remove topic }

/-- `subscribe_kind`: the kind under the default encoding and the current digest. -/
def subscribeKind (kind : Kind) (state : GossipState Kind) : GossipState Kind :=
  state.subscribe ⟨kind, .sszSnappy, state.forkDigest⟩

/-- `unsubscribe_kind`: the kind under the default encoding and the current digest. -/
def unsubscribeKind (kind : Kind) (state : GossipState Kind) : GossipState Kind :=
  state.unsubscribe ⟨kind, .sszSnappy, state.forkDigest⟩

/-- `subscribe_new_fork_topics`: every topic of a copy of the set is subscribed
again under the new digest, then every core topic of the new fork. -/
def subscribeNewForkTopics (coreTopics : List Kind) (newForkDigest : ForkDigest)
    (state : GossipState Kind) : GossipState Kind :=
  let subscriptions := state.subscriptions.topics
  let state := subscriptions.foldl
    (fun state topic => state.subscribe { topic with forkDigest := newForkDigest }) state
  coreTopics.foldl (fun state kind => state.subscribe ⟨kind, .sszSnappy, newForkDigest⟩) state

/-- `unsubscribe_from_fork_topics_except`: every topic of a copy of the set with
another digest is unsubscribed. -/
def unsubscribeFromForkTopicsExcept (except : ForkDigest) (state : GossipState Kind) :
    GossipState Kind :=
  (state.subscriptions.topics.filter (·.forkDigest ≠ except)).foldl
    (fun state topic => state.unsubscribe topic) state

/-- `update_fork_version`, on the digest the service uses. -/
def updateForkVersion (forkDigest : ForkDigest) (state : GossipState Kind) : GossipState Kind :=
  { state with forkDigest := forkDigest }

theorem mem_foldl_subscribe {α : Type} (topicOf : α → GossipTopic Kind) (items : List α)
    (state : GossipState Kind) (topic : GossipTopic Kind) :
    topic ∈ (items.foldl (fun state item => state.subscribe (topicOf item)) state).subscriptions.topics ↔
      topic ∈ state.subscriptions.topics ∨ ∃ item ∈ items, topic = topicOf item := by
  induction items generalizing state with
  | nil => simp
  | cons item items ih =>
    rw [List.foldl_cons, ih]
    simp only [subscribe, TopicSet.mem_insert, List.mem_cons, exists_eq_or_imp, or_assoc, or_left_comm]

theorem mem_foldl_unsubscribe (items : List (GossipTopic Kind)) (state : GossipState Kind)
    (topic : GossipTopic Kind) :
    topic ∈ (items.foldl (fun state item => state.unsubscribe item) state).subscriptions.topics ↔
      topic ∈ state.subscriptions.topics ∧ topic ∉ items := by
  induction items generalizing state with
  | nil => simp
  | cons item items ih =>
    rw [List.foldl_cons, ih]
    simp only [unsubscribe, TopicSet.mem_remove, List.mem_cons, not_or, and_assoc, and_left_comm]

/-- `subscribe_new_fork_topics` keeps every topic and adds each one under the new
digest, with the new fork's core topics. -/
theorem mem_subscribeNewForkTopics (coreTopics : List Kind) (newForkDigest : ForkDigest)
    (state : GossipState Kind) (topic : GossipTopic Kind) :
    topic ∈ (state.subscribeNewForkTopics coreTopics newForkDigest).subscriptions.topics ↔
      topic ∈ state.subscriptions.topics ∨
        (∃ old ∈ state.subscriptions.topics, topic = { old with forkDigest := newForkDigest }) ∨
        (topic.kind ∈ coreTopics ∧ topic.encoding = .sszSnappy ∧ topic.forkDigest = newForkDigest) := by
  simp only [subscribeNewForkTopics, mem_foldl_subscribe, or_assoc]
  refine or_congr_right (or_congr_right ⟨?_, ?_⟩)
  · rintro ⟨kind, core, rfl⟩
    simpa using core
  · rintro ⟨core, encoding, digest⟩
    exact ⟨topic.kind, core, by cases topic; simp_all⟩

/-- `unsubscribe_from_fork_topics_except` keeps exactly the topics of the digest. -/
theorem mem_unsubscribeFromForkTopicsExcept (except : ForkDigest) (state : GossipState Kind)
    (topic : GossipTopic Kind) :
    topic ∈ (state.unsubscribeFromForkTopicsExcept except).subscriptions.topics ↔
      topic ∈ state.subscriptions.topics ∧ topic.forkDigest = except := by
  simp only [unsubscribeFromForkTopicsExcept, mem_foldl_unsubscribe, List.mem_filter,
    decide_eq_true_eq, not_and, not_not]
  exact ⟨fun ⟨member, kept⟩ => ⟨member, kept member⟩, fun ⟨member, kept⟩ => ⟨member, fun _ => kept⟩⟩

/-- **A fork transition moves every subscription to the new fork.** After
`subscribe_new_fork_topics` and then `unsubscribe_from_fork_topics_except` with
the same digest, the node is subscribed exactly to the topics it was subscribed
to, each under the new digest, and to the new fork's core topics. -/
theorem forkTransition_subscriptions (coreTopics : List Kind) (newForkDigest : ForkDigest)
    (state : GossipState Kind) (topic : GossipTopic Kind) :
    topic ∈ ((state.subscribeNewForkTopics coreTopics newForkDigest).unsubscribeFromForkTopicsExcept
        newForkDigest).subscriptions.topics ↔
      (∃ old ∈ state.subscriptions.topics, topic = { old with forkDigest := newForkDigest }) ∨
        (topic.kind ∈ coreTopics ∧ topic.encoding = .sszSnappy ∧ topic.forkDigest = newForkDigest) := by
  rw [mem_unsubscribeFromForkTopicsExcept, mem_subscribeNewForkTopics]
  constructor
  · rintro ⟨old | moved | core, digest⟩
    · exact .inl ⟨topic, old, by cases topic; simp_all⟩
    · exact .inl moved
    · exact .inr core
  · rintro (⟨old, member, rfl⟩ | core)
    · exact ⟨.inr (.inl ⟨old, member, rfl⟩), rfl⟩
    · exact ⟨.inr (.inr core), core.2.2⟩

end GossipState

end Eth2Libp2p
