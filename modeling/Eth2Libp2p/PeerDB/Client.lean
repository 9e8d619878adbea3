import Mathlib.Data.List.Basic
import Mathlib.Data.String.Basic

/-! # Client fingerprints from the identify agent string

A peer's client (`Client`) is read off the agent string its identify response
carries (`client_from_agent_version`). The string is split at every `/`; its
first piece names the client, and the pieces after it, or after one build
piece for Teku, Prysm and Nimbus, are the client's version and OS. A field the
string does not reach, and every field of a client whose format is not known,
is `"unknown"`.

The main results say what the fingerprint can return and that it reads back
the pieces a known client writes:
* `clientFromAgentVersion_fields`: whatever the agent string, the version and
  the OS are `"unknown"` or pieces of the string, so they hold no `/`;
* `clientFromAgentVersion_intercalate`: an agent string joined from a known
  client name, its build piece where the format has one, a version, an OS and
  any further pieces, none holding a `/`, gives back that version and OS.

`Display` of a client and of a kind is kept as the texts the source writes
(`Client.toString`, `ClientKind.asRef`). Of libp2p's identify `Info` only the
two fields `from_identify_info` reads are kept.
-/

namespace Eth2Libp2p

/-- The clients the fingerprint tells apart (`ClientKind`). -/
inductive ClientKind where
  | grandine | lighthouse | nimbus | teku | prysm | lodestar | caplin | unknown
  deriving DecidableEq, Repr

/-- A kind's name (`AsRefStr`), which is also what its `Display` writes. -/
def ClientKind.asRef : ClientKind → String
  | .grandine => "Grandine"
  | .lighthouse => "Lighthouse"
  | .nimbus => "Nimbus"
  | .teku => "Teku"
  | .prysm => "Prysm"
  | .lodestar => "Lodestar"
  | .caplin => "Caplin"
  | .unknown => "Unknown"

/-- What is known of a peer's client (`Client`). -/
structure Client where
  kind : ClientKind
  version : String
  osVersion : String
  protocolVersion : String
  agentString : Option String
  deriving DecidableEq, Repr

/-- `Client::default`: an unknown client, before any identify response. -/
def Client.default : Client := ⟨.unknown, "unknown", "unknown", "unknown", none⟩

/-- The fields of libp2p's identify `Info` that `from_identify_info` reads. -/
structure IdentifyInfo where
  protocolVersion : String
  agentVersion : String
  deriving DecidableEq, Repr

/-- The version and OS pieces that follow a client's name: the next piece of the
split is the version and the one after it the OS, each left `"unknown"` when the
split has no more pieces. -/
def versionAndOs : List String → String × String
  | [] => ("unknown", "unknown")
  | [version] => (version, "unknown")
  | version :: osVersion :: _ => (version, osVersion)

/-- The shapes of the arms of `client_from_agent_version`'s match: the version and
OS read from the next two pieces, read after one build piece, not read at all,
and Erigon's arm, which looks for Caplin in the next piece. -/
inductive AgentArm where
  | versioned (kind : ClientKind)
  | versionedAfterBuild (kind : ClientKind)
  | unversioned (kind : ClientKind)
  | erigon
  deriving DecidableEq, Repr

/-- The arm of `client_from_agent_version`'s match that an agent string's first
piece selects, with the kind that arm returns. -/
def agentArm : String → AgentArm
  | "Grandine" => .versioned .grandine
  | "Lighthouse" => .versioned .lighthouse
  | "teku" => .versionedAfterBuild .teku
  | "github.com" => .unversioned .prysm
  | "Prysm" => .versionedAfterBuild .prysm
  | "nimbus" => .versionedAfterBuild .nimbus
  | "nim-libp2p" => .versioned .nimbus
  | "js-libp2p" | "lodestar" => .versioned .lodestar
  | "erigon" => .erigon
  | _ => .unversioned .unknown

/-- `client_from_agent_version` over the pieces of the split, in the order
`agent_split.next()` yields them. An arm that drops a build piece first
(`agent_split.next().is_some()`) reads the fields from `rest.tail`: when there is
no build piece that is empty and both fields stay `"unknown"`, as in the
source. -/
def clientFromPieces : List String → ClientKind × String × String
  | [] => (.unknown, "unknown", "unknown")
  | name :: rest =>
    match agentArm name with
    | .versioned kind => (kind, versionAndOs rest)
    | .versionedAfterBuild kind => (kind, versionAndOs rest.tail)
    | .unversioned kind => (kind, "unknown", "unknown")
    | .erigon => (if rest.head? = some "caplin" then .caplin else .unknown, "unknown", "unknown")

/-- `client_from_agent_version`: the kind, version and OS read off an agent
string split at every `/` (`agent_version.split('/')`). -/
def clientFromAgentVersion (agentVersion : String) : ClientKind × String × String :=
  clientFromPieces (agentVersion.split (· == '/'))

/-- `Client::from_identify_info`. -/
def Client.fromIdentifyInfo (info : IdentifyInfo) : Client :=
  let (kind, version, osVersion) := clientFromAgentVersion info.agentVersion
  ⟨kind, version, osVersion, info.protocolVersion, some info.agentVersion⟩

/-- `Display` of a client. -/
def Client.toString (client : Client) : String :=
  match client.kind with
  | .grandine => "Grandine: version: " ++ client.version ++ ", os_version: " ++ client.osVersion
  | .lighthouse =>
      "Lighthouse: version: " ++ client.version ++ ", os_version: " ++ client.osVersion
  | .teku => "Teku: version: " ++ client.version ++ ", os_version: " ++ client.osVersion
  | .nimbus => "Nimbus: version: " ++ client.version ++ ", os_version: " ++ client.osVersion
  | .prysm => "Prysm: version: " ++ client.version ++ ", os_version: " ++ client.osVersion
  | .lodestar => "Lodestar: version: " ++ client.version
  | .caplin => "Caplin"
  | .unknown =>
      match client.agentString with
      | some agentString => "Unknown: " ++ agentString
      | none => "Unknown"

/-! ## Splitting at `/` -/

/-- No piece of a split holds a character the split is made at. -/
theorem forall_mem_splitOnP {α : Type} (p : α → Bool) (xs : List α) :
    ∀ piece ∈ xs.splitOnP p, ∀ x ∈ piece, p x = false := by
  induction xs with
  | nil => simp
  | cons x xs ih =>
    rw [List.splitOnP_cons]
    split
    case isTrue => simpa using ih
    case isFalse kept =>
      obtain ⟨first, rest, pieces⟩ := List.exists_cons_of_ne_nil (List.splitOnP_ne_nil p xs)
      rw [pieces] at ih ⊢
      simp only [List.modifyHead_cons, List.mem_cons, forall_eq_or_imp] at ih ⊢
      exact ⟨⟨by simpa using kept, ih.1⟩, ih.2⟩

/-- The pieces of an agent string split at `/` hold no `/`. -/
theorem slash_not_mem_of_mem_split {agentVersion piece : String}
    (mem : piece ∈ agentVersion.split (· == '/')) : '/' ∉ piece.data := by
  rw [String.split_of_valid] at mem
  obtain ⟨chars, split, rfl⟩ := List.mem_map.mp mem
  intro slash
  simpa using forall_mem_splitOnP _ _ chars split '/' slash

/-- Joining with a separator writes the first piece and then, for each further
piece, the separator and that piece. -/
theorem intercalate_cons_eq {α : Type} (sep first : List α) (rest : List (List α)) :
    sep.intercalate (first :: rest) = first ++ (rest.map (sep ++ ·)).flatten := by
  induction rest generalizing first with
  | nil => simp [List.intercalate]
  | cons second rest ih =>
    simp only [List.intercalate, List.intersperse_cons₂, List.flatten_cons] at ih ⊢
    simp [ih]

/-- The characters of a string joined by `String.intercalate`, in the same form. -/
theorem data_intercalate_go (acc sep : String) (rest : List String) :
    (String.intercalate.go acc sep rest).data =
      acc.data ++ (rest.map (sep.data ++ ·.data)).flatten := by
  induction rest generalizing acc with
  | nil => simp [String.intercalate.go]
  | cons piece rest ih => simp [String.intercalate.go, ih]

/-- Splitting at `/` undoes joining with `/`, for a nonempty list of pieces none
of which holds a `/`. -/
theorem split_intercalate_slash {pieces : List String} (nonempty : pieces ≠ [])
    (slashFree : ∀ piece ∈ pieces, '/' ∉ piece.data) :
    (String.intercalate "/" pieces).split (· == '/') = pieces := by
  obtain ⟨first, rest, rfl⟩ := List.exists_cons_of_ne_nil nonempty
  have joined : (String.intercalate "/" (first :: rest)).data =
      ['/'].intercalate ((first :: rest).map String.data) := by
    simp [String.intercalate, data_intercalate_go, intercalate_cons_eq, Function.comp_def]
  have split : (['/'].intercalate ((first :: rest).map String.data)).splitOn '/' =
      (first :: rest).map String.data :=
    List.splitOn_intercalate _ '/' (by simpa using slashFree) (by simp)
  rw [String.split_of_valid, joined]
  exact (congrArg (List.map String.mk) split).trans (by simp [Function.comp_def])

/-! ## The fingerprint -/

/-- Both fields `versionAndOs` returns are `"unknown"` or pieces it was given. -/
theorem versionAndOs_subset (rest : List String) :
    [(versionAndOs rest).1, (versionAndOs rest).2] ⊆ "unknown" :: rest := by
  match rest with
  | [] | [_] | _ :: _ :: _ => simp [versionAndOs, List.subset_def]

/-- Both fields `clientFromPieces` returns are `"unknown"` or one of its pieces. -/
theorem clientFromPieces_subset (pieces : List String) :
    [(clientFromPieces pieces).2.1, (clientFromPieces pieces).2.2] ⊆ "unknown" :: pieces := by
  cases pieces with
  | nil => simp [clientFromPieces]
  | cons name rest =>
    have direct := List.Subset.trans (versionAndOs_subset rest)
      (List.cons_subset_cons _ (List.subset_cons_self name rest))
    have skipped := List.Subset.trans (versionAndOs_subset rest.tail)
      (List.cons_subset_cons _ (List.Subset.trans (List.tail_sublist rest).subset (List.subset_cons_self name rest)))
    have unknowns : ["unknown", "unknown"] ⊆ "unknown" :: name :: rest := by
      simp only [List.cons_subset, List.mem_cons_self, List.nil_subset, and_self]
    simp only [clientFromPieces]
    cases agentArm name
    case versioned => exact direct
    case versionedAfterBuild => exact skipped
    all_goals exact unknowns

/-- **What the fingerprint returns.** Whatever the agent string, the version and
the OS `client_from_agent_version` returns are each `"unknown"` or one of the
string's `/`-separated pieces, so neither holds a `/`. -/
theorem clientFromAgentVersion_fields (agentVersion : String) :
    [(clientFromAgentVersion agentVersion).2.1, (clientFromAgentVersion agentVersion).2.2] ⊆
        "unknown" :: agentVersion.split (· == '/') ∧
      '/' ∉ (clientFromAgentVersion agentVersion).2.1.data ∧
      '/' ∉ (clientFromAgentVersion agentVersion).2.2.data := by
  have fields := clientFromPieces_subset (agentVersion.split (· == '/'))
  have slashFree : ∀ field ∈ "unknown" :: agentVersion.split (· == '/'), '/' ∉ field.data := by
    intro field field_mem
    rcases List.mem_cons.mp field_mem with rfl | piece
    · decide
    · exact slash_not_mem_of_mem_split piece
  exact ⟨fields, slashFree _ (fields (List.mem_cons_self _ _)),
    slashFree _ (fields (List.mem_cons_of_mem _ (List.mem_cons_self _ _)))⟩

/-- **Reading back a known client's agent string.** An agent string joined with
`/` from a name whose arm reads a version and an OS, the build piece that arm
drops first if it drops one, a version, an OS and any further pieces, none of
them holding a `/`, is fingerprinted as that arm's kind with that version and
OS. -/
theorem clientFromAgentVersion_intercalate {name version osVersion : String}
    {build more : List String} {kind : ClientKind}
    (slashFree : ∀ piece ∈ name :: build ++ version :: osVersion :: more, '/' ∉ piece.data)
    (arm : agentArm name = .versioned kind ∧ build = [] ∨
      agentArm name = .versionedAfterBuild kind ∧ build.length = 1) :
    clientFromAgentVersion (String.intercalate "/" (name :: build ++ version :: osVersion :: more)) =
      (kind, version, osVersion) := by
  unfold clientFromAgentVersion
  rw [@split_intercalate_slash (name :: build ++ version :: osVersion :: more) (List.cons_ne_nil _ _)
    slashFree]
  rcases arm with ⟨arm, rfl⟩ | ⟨arm, oneBuild⟩
  · simp [clientFromPieces, arm, versionAndOs]
  · obtain ⟨_, rfl⟩ := List.length_eq_one.mp oneBuild
    simp [clientFromPieces, arm, versionAndOs]

/-- A Teku agent string, with its build piece, read back. -/
theorem clientFromAgentVersion_intercalate_teku :
    clientFromAgentVersion (String.intercalate "/" ["teku", "teku", "v24.1.0", "linux-x86_64", "java-21"]) =
      (.teku, "v24.1.0", "linux-x86_64") :=
  @clientFromAgentVersion_intercalate "teku" "v24.1.0" "linux-x86_64" ["teku"] ["java-21"] .teku
    (by decide) (.inr ⟨rfl, rfl⟩)

end Eth2Libp2p
