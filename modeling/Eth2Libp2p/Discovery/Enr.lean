import Eth2Libp2p.RPC.RateLimiter

/-! # Reloading the local ENR at start-up

`build_or_load_enr` builds the local ENR from the configuration and the node's
key, and `use_or_load_enr` reconciles it with the ENR file of the network
directory. When the file decodes to a record of the same node, the record on
disk is used as it is if `compare_enr` finds no difference that matters, and
otherwise the built record is re-signed one sequence number above it; the record
the call leaves is then written back to the file.

Over one call, the record left never comes before the one on disk in sequence
number order, and shares its sequence number only by being that record
(`useOrLoadEnr_ok`); the call fails only on a record on disk at `u64::MAX` or
when re-signing fails (`useOrLoadEnr_error`). Over a run of starts that each
write their record (`Start`, `advertised`), every record advertised follows the
record first on disk and every record advertised before it
(`follows_advertised`, `advertised_pairwise`). `save_enr_to_disk` only logs a
failed write, and after one a later start can advertise another record under a
sequence number already used (`advertised_reuses_seq_after_failed_write`).
-/

namespace Eth2Libp2p

/-- The part of an ENR that `use_or_load_enr` and `compare_enr` read: the
sequence number, a `u64`, the node id, the addresses and ports, and the
`eth2`, `attnets`, `syncnets` and `csc` entries as the bytes they decode to
(`get_decodable::<Bytes>`, `none` when the entry is absent). `signature` is what
`set_seq` recomputes; the public key and the client information are left out. -/
structure Enr where
  seq : Nat
  nodeId : Nat
  ip4 : Option Nat
  ip6 : Option Nat
  tcp4 : Option Nat
  tcp6 : Option Nat
  quic4 : Option Nat
  quic6 : Option Nat
  udp4 : Option Nat
  udp6 : Option Nat
  eth2 : Option (List Nat)
  attnets : Option (List Nat)
  syncnets : Option (List Nat)
  csc : Option (List Nat)
  signature : List Nat
  seq_le : seq ≤ U64_MAX
  deriving DecidableEq

namespace Enr

/-- `later` comes at or after `earlier` in sequence number order, and shares its
sequence number only by being the same record. -/
def Follows (earlier later : Enr) : Prop :=
  earlier.seq ≤ later.seq ∧ (later.seq = earlier.seq → later = earlier)

theorem Follows.refl (enr : Enr) : enr.Follows enr := ⟨le_rfl, fun _ => rfl⟩

theorem Follows.trans {first second third : Enr} (before : first.Follows second) (after : second.Follows third) :
    first.Follows third := by
  refine ⟨before.1.trans after.1, fun same => ?_⟩
  have middle : second.seq = first.seq := by
    have := before.1
    have := after.1
    omega
  rw [after.2 (same.trans middle.symm), before.2 middle]

/-- `Enr::set_seq` with the node's key: the record at the new sequence number,
signed by `sign`, whose error `use_or_load_enr` reports. -/
def setSeq (enr : Enr) (seq : Nat) (fits : seq ≤ U64_MAX) (sign : Enr → Except String (List Nat)) :
    Except String Enr :=
  let unsigned := { enr with seq := seq, seq_le := fits }
  match sign unsigned with
  | .ok signature => .ok { unsigned with signature := signature }
  | .error e => .error ("Could not update ENR sequence number: " ++ e)

/-- A successful `set_seq` changes the sequence number and keeps the node id. -/
theorem setSeq_ok {enr updated : Enr} {seq : Nat} {fits : seq ≤ U64_MAX} {sign : Enr → Except String (List Nat)}
    (signed : enr.setSeq seq fits sign = .ok updated) : updated.seq = seq ∧ updated.nodeId = enr.nodeId := by
  unfold setSeq at signed
  dsimp only at signed
  split at signed
  · cases signed
    exact ⟨rfl, rfl⟩
  · cases signed

/-- A failed `set_seq` reports the key's error. -/
theorem setSeq_error {enr : Enr} {seq : Nat} {fits : seq ≤ U64_MAX} {sign : Enr → Except String (List Nat)}
    {err : String} (failed : enr.setSeq seq fits sign = .error err) :
    ∃ e, sign { enr with seq := seq, seq_le := fits } = .error e ∧ err = "Could not update ENR sequence number: " ++ e := by
  unfold setSeq at failed
  dsimp only at failed
  split at failed
  · cases failed
  · next e signError =>
    cases failed
    exact ⟨e, signError, rfl⟩

end Enr

/-- `compare_enr`: whether the record on disk is used in place of the one built.
An IP address or UDP port the built record does not set is taken from disk; the
TCP and QUIC ports, the fork id and the three subnet entries must match. -/
def compareEnr (localEnr diskEnr : Enr) : Bool :=
  (localEnr.ip4.isNone || localEnr.ip4 == diskEnr.ip4) &&
    (localEnr.ip6.isNone || localEnr.ip6 == diskEnr.ip6) &&
    localEnr.tcp4 == diskEnr.tcp4 && localEnr.tcp6 == diskEnr.tcp6 &&
    localEnr.quic4 == diskEnr.quic4 && localEnr.quic6 == diskEnr.quic6 &&
    localEnr.eth2 == diskEnr.eth2 &&
    (localEnr.udp4.isNone || localEnr.udp4 == diskEnr.udp4) &&
    (localEnr.udp6.isNone || localEnr.udp6 == diskEnr.udp6) &&
    localEnr.attnets == diskEnr.attnets && localEnr.syncnets == diskEnr.syncnets &&
    localEnr.csc == diskEnr.csc

/-- `use_or_load_enr` on the record `diskEnr` the ENR file decodes to (`none`
when there is no network directory, no file, or a file that cannot be read or
decoded): the local ENR it leaves, and whether it goes on to
`save_enr_to_disk`. -/
def useOrLoadEnr (sign : Enr → Except String (List Nat)) (localEnr : Enr) (diskEnr : Option Enr) :
    Except String (Enr × Bool) :=
  match diskEnr with
  | some diskEnr =>
    if localEnr.nodeId = diskEnr.nodeId then
      if compareEnr localEnr diskEnr then .ok (diskEnr, false)
      else if fits : diskEnr.seq + 1 ≤ U64_MAX then
        (localEnr.setSeq (diskEnr.seq + 1) fits sign).map fun updated => (updated, true)
      else .error "ENR sequence number on file is too large. Remove it to generate a new NodeId"
    else .ok (localEnr, true)
  | none => .ok (localEnr, true)

section SameNode

variable {sign : Enr → Except String (List Nat)} {localEnr diskEnr : Enr}
  (sameNode : localEnr.nodeId = diskEnr.nodeId)
include sameNode

/-- On a record of the same node, a successful call leaves the record on disk
when `compare_enr` holds, without writing it, and otherwise the built record one
sequence number above it, to be written. -/
theorem useOrLoadEnr_ok {result : Enr} {saved : Bool}
    (loaded : useOrLoadEnr sign localEnr (some diskEnr) = .ok (result, saved)) :
    result.nodeId = localEnr.nodeId ∧ diskEnr.Follows result ∧
      (compareEnr localEnr diskEnr = true → result = diskEnr ∧ saved = false) ∧
      (compareEnr localEnr diskEnr = false → result.seq = diskEnr.seq + 1 ∧ saved = true) := by
  simp only [useOrLoadEnr, if_pos sameNode] at loaded
  split at loaded
  · next same =>
    cases loaded
    exact ⟨sameNode.symm, Enr.Follows.refl _, fun _ => ⟨rfl, rfl⟩,
      fun differs => absurd (differs.symm.trans same) Bool.false_ne_true⟩
  · next differs =>
    simp only [Bool.not_eq_true] at differs
    split at loaded
    · cases signed : localEnr.setSeq (diskEnr.seq + 1) ‹_› sign with
      | error e => rw [signed] at loaded; cases loaded
      | ok updated =>
        rw [signed] at loaded
        cases loaded
        obtain ⟨seq, node⟩ := Enr.setSeq_ok signed
        exact ⟨node, ⟨by omega, fun same => absurd same (by omega)⟩,
          fun same => absurd (differs.symm.trans same) Bool.false_ne_true, fun _ => ⟨seq, rfl⟩⟩
    · cases loaded

/-- On a record of the same node, the call fails only when `compare_enr` does
not hold and either the record on disk is at `u64::MAX` or re-signing fails. -/
theorem useOrLoadEnr_error {err : String} (failed : useOrLoadEnr sign localEnr (some diskEnr) = .error err) :
    compareEnr localEnr diskEnr = false ∧
      (diskEnr.seq = U64_MAX ∧ err = "ENR sequence number on file is too large. Remove it to generate a new NodeId" ∨
        ∃ fits e, sign { localEnr with seq := diskEnr.seq + 1, seq_le := fits } = .error e ∧
          err = "Could not update ENR sequence number: " ++ e) := by
  simp only [useOrLoadEnr, if_pos sameNode] at failed
  split at failed
  · cases failed
  · next differs =>
    refine ⟨by simpa using differs, ?_⟩
    split at failed
    · next fits =>
      cases signed : localEnr.setSeq (diskEnr.seq + 1) fits sign with
      | ok updated => rw [signed] at failed; cases failed
      | error e =>
        rw [signed] at failed
        cases failed
        exact .inr ⟨fits, Enr.setSeq_error signed⟩
    · next tooLarge =>
      cases failed
      exact .inl ⟨by have := diskEnr.seq_le; omega, rfl⟩

end SameNode

/-- One start of the node: the record `build_enr` builds from the configuration
and the node's key, and whether the ENR file gets written (the node has a
network directory and the write succeeds; `save_enr_to_disk` only logs a
failure). -/
structure Start where
  built : Enr
  written : Bool

/-- A start: the record advertised, `none` when `build_or_load_enr` fails, and
the record the next start finds in the file. -/
def Start.run (sign : Enr → Except String (List Nat)) (onDisk : Option Enr) (start : Start) :
    Option Enr × Option Enr :=
  match useOrLoadEnr sign start.built onDisk with
  | .ok (advertised, saved) => (some advertised, if saved && start.written then some advertised else onDisk)
  | .error _ => (none, onDisk)

/-- The records advertised over a run of starts, in order. -/
def advertised (sign : Enr → Except String (List Nat)) : Option Enr → List Start → List Enr
  | _, [] => []
  | onDisk, start :: starts =>
    (start.run sign onDisk).1.toList ++ advertised sign (start.run sign onDisk).2 starts

section Starts

variable {sign : Enr → Except String (List Nat)} {node : Nat}

/-- A start whose record gets written leaves in the file the record it
advertises, of its own node, following the one it found there. -/
theorem Start.run_spec {start : Start} (own : start.built.nodeId = node ∧ start.written = true)
    {onDisk : Option Enr} (ownFile : ∀ enr ∈ onDisk, enr.nodeId = node) :
    (start.run sign onDisk).2 = (start.run sign onDisk).1.or onDisk ∧
      ∀ adv ∈ (start.run sign onDisk).1, adv.nodeId = node ∧ ∀ enr ∈ onDisk, enr.Follows adv := by
  unfold Start.run
  split
  · next adv saved loaded =>
    cases onDisk with
    | none =>
      simp only [useOrLoadEnr, Except.ok.injEq, Prod.mk.injEq] at loaded
      obtain ⟨rfl, rfl⟩ := loaded
      simp [own.1, own.2]
    | some diskEnr =>
      have sameNode : start.built.nodeId = diskEnr.nodeId := own.1.trans (ownFile diskEnr rfl).symm
      obtain ⟨node', follows, kept, moved⟩ := useOrLoadEnr_ok sameNode loaded
      refine ⟨?_, fun enr found => ?_⟩
      · cases same : compareEnr start.built diskEnr
        · obtain ⟨-, rfl⟩ := moved same
          rw [own.2]
          rfl
        · obtain ⟨rfl, rfl⟩ := kept same
          rfl
      · cases found
        exact ⟨node'.trans own.1, fun _ found => Option.some.inj found ▸ follows⟩
  · simp

/-- Over a run of starts that each write their record, every record advertised
follows every record the file held before. -/
theorem follows_advertised :
    ∀ {starts : List Start}, (∀ start ∈ starts, start.built.nodeId = node ∧ start.written = true) →
      ∀ {onDisk : Option Enr}, (∀ enr ∈ onDisk, enr.nodeId = node) →
        ∀ enr ∈ onDisk, ∀ later ∈ advertised sign onDisk starts, enr.Follows later
  | [], _, _, _, _, _, _, later => by simp [advertised] at later
  | start :: starts, own, onDisk, ownFile, enr, found, later, listed => by
    obtain ⟨file, advertisedOwn⟩ := @Start.run_spec sign _ start (own start (.head _)) onDisk ownFile
    have rest := @follows_advertised starts (fun s member => own s (.tail _ member))
    simp only [advertised, List.mem_append, Option.mem_toList] at listed
    cases first : (start.run sign onDisk).1 with
    | none =>
      rw [first, Option.none_or] at file
      rw [first, file] at listed
      simp only [Option.not_mem_none, false_or] at listed
      exact rest ownFile enr found later listed
    | some adv =>
      rw [first, Option.or_some] at file
      obtain ⟨advOwn, advFollows⟩ := advertisedOwn adv first
      rw [first, file, Option.mem_some_iff] at listed
      rcases listed with rfl | listed
      · exact advFollows enr found
      · exact (advFollows enr found).trans (rest (fun _ found => Option.some.inj found ▸ advOwn) adv rfl later listed)

/-- Over a run of starts that each write their record, every record advertised
follows every record advertised before it. -/
theorem advertised_pairwise :
    ∀ {starts : List Start}, (∀ start ∈ starts, start.built.nodeId = node ∧ start.written = true) →
      ∀ {onDisk : Option Enr}, (∀ enr ∈ onDisk, enr.nodeId = node) → (advertised sign onDisk starts).Pairwise Enr.Follows
  | [], _, _, _ => List.Pairwise.nil
  | start :: starts, own, onDisk, ownFile => by
    obtain ⟨file, advertisedOwn⟩ := @Start.run_spec sign _ start (own start (.head _)) onDisk ownFile
    have tailOwn : ∀ s ∈ starts, s.built.nodeId = node ∧ s.written = true := fun s member => own s (.tail _ member)
    unfold advertised
    cases first : (start.run sign onDisk).1 with
    | none =>
      rw [first, Option.none_or] at file
      rw [file]
      exact advertised_pairwise tailOwn ownFile
    | some adv =>
      rw [first, Option.or_some] at file
      obtain ⟨advOwn, -⟩ := advertisedOwn adv first
      have advFile : ∀ enr ∈ some adv, enr.nodeId = node := fun _ found => Option.some.inj found ▸ advOwn
      rw [file, Option.toList_some, List.singleton_append, List.pairwise_cons]
      exact ⟨follows_advertised tailOwn advFile adv rfl, advertised_pairwise tailOwn advFile⟩

end Starts

/-- Over one call on a record of the same node, the record left follows the one
on disk: it is that record when `compare_enr` holds and one sequence number
above it otherwise, and the call fails only on a record on disk at `u64::MAX` or
when re-signing fails. Over a run of starts of one node that each write their
record, every record advertised follows every record the file held before and
every record advertised before it. -/
theorem useOrLoadEnr_never_reuses_seq (sign : Enr → Except String (List Nat)) :
    (∀ localEnr diskEnr : Enr, localEnr.nodeId = diskEnr.nodeId →
      (∀ result saved, useOrLoadEnr sign localEnr (some diskEnr) = .ok (result, saved) →
        diskEnr.seq ≤ result.seq ∧ (result.seq = diskEnr.seq → result = diskEnr) ∧
          (compareEnr localEnr diskEnr = true → result = diskEnr) ∧
          (compareEnr localEnr diskEnr = false → result.seq = diskEnr.seq + 1)) ∧
      ∀ err, useOrLoadEnr sign localEnr (some diskEnr) = .error err →
        compareEnr localEnr diskEnr = false ∧
          (diskEnr.seq = U64_MAX ∨ ∃ fits e, sign { localEnr with seq := diskEnr.seq + 1, seq_le := fits } = .error e)) ∧
    ∀ (node : Nat) (onDisk : Option Enr) (starts : List Start), (∀ enr ∈ onDisk, enr.nodeId = node) →
      (∀ start ∈ starts, start.built.nodeId = node ∧ start.written = true) →
        (∀ enr ∈ onDisk, ∀ later ∈ advertised sign onDisk starts, enr.Follows later) ∧
          (advertised sign onDisk starts).Pairwise Enr.Follows := by
  refine ⟨fun localEnr diskEnr sameNode => ⟨fun result saved loaded => ?_, fun err failed => ?_⟩,
    fun node onDisk starts ownFile own => ⟨follows_advertised own ownFile, advertised_pairwise own ownFile⟩⟩
  · obtain ⟨-, follows, kept, moved⟩ := useOrLoadEnr_ok sameNode loaded
    exact ⟨follows.1, follows.2, fun same => (kept same).1, fun differs => (moved differs).1⟩
  · obtain ⟨differs, cause⟩ := useOrLoadEnr_error sameNode failed
    exact ⟨differs, cause.imp And.left fun ⟨fits, e, signError, _⟩ => ⟨fits, e, signError⟩⟩

/-- A start whose write fails leaves no record in the file, and the next start,
on another TCP port, advertises a different record under the same sequence
number. -/
theorem advertised_reuses_seq_after_failed_write :
    let built : Enr := ⟨1, 0, none, none, some 9000, none, none, none, none, none, none, none, none, none, [], by decide⟩
    let moved : Enr := { built with tcp4 := some 9001 }
    advertised (fun _ => .ok []) none [⟨built, false⟩, ⟨moved, true⟩] = [built, moved] ∧
      built.seq = moved.seq ∧ built ≠ moved :=
  ⟨rfl, rfl, by decide⟩

end Eth2Libp2p
