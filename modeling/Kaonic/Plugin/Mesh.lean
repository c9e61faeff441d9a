import Kaonic.Base.Flood
import Kaonic.Net.AddressHash
import Kaonic.Plugin.SeenCommands

/-!
# The mesh control channel

Plugin nodes, the diagnostic links between them and the commands in flight. A task that has applied
a command still has to send it: `relaying` and `announcing` hold what the control task and the local
request handler are about to send.
-/

namespace Kaonic.Plugin

open Kaonic.Net (AddressHash)

inductive LinkEvent where
  | activated
  | closed
  | data (payload : List UInt8)
  | proof
  deriving DecidableEq

/-- One link event at the `network_control` task, with the command it goes on to broadcast. -/
def networkControl (s : DiagnosticState) (peerHashes : Finset AddressHash) (source : AddressHash)
    (event : LinkEvent) (now : SystemTime) :
    DiagnosticState × Finset AddressHash × Option DiagnosticCommand :=
  if source ∉ peerHashes then (s, peerHashes, none)
  else
    match event with
    | .activated | .proof => (s, peerHashes, none)
    | .closed => (s, peerHashes.erase source, none)
    | .data payload =>
      match DiagnosticCommand.parse payload with
      | .ok command =>
        let r := s.applyOnceAt command now
        (r.1, peerHashes, if r.2 then some command else none)
      | .error _ => (s, peerHashes, none)

def DiagnosticCommand.new (id : String) :
    DiagnosticAction → Except DiagnosticCommandError DiagnosticCommand
  | .enable seconds => enable id seconds
  | .disable => disable id

/-- An enable or disable request up to its broadcast, as `handle_local_diagnostic_request` takes it.
A refused command changes nothing. -/
def localControl (s : DiagnosticState) (action : DiagnosticAction) (id : String)
    (now : SystemTime) : DiagnosticState × Option DiagnosticCommand :=
  match DiagnosticCommand.new id action with
  | .ok command => ((s.applyOnceAt command now).1, some command)
  | .error _ => (s, none)

structure MeshNode where
  state : DiagnosticState
  peerHashes : Finset AddressHash
  clock : SystemTime
  relaying : Option DiagnosticCommand := none
  announcing : Option DiagnosticCommand := none
  /-- The commands that `apply_once` answered with `true`, with the clock at that time. -/
  applied : List (DiagnosticCommand × SystemTime) := []
  sent : List DiagnosticCommand := []

structure Mesh (ι : Type) where
  node : ι → MeshNode
  chan : ι → ι → List (List UInt8)
  issued : List DiagnosticCommand

/-- The destination of each node, and the destinations it holds a link to. -/
structure MeshNet (ι : Type) where
  address : ι → AddressHash
  peers : ι → Finset AddressHash

/-- What the first node sends to its in-links reaches the second. -/
def MeshNet.Link {ι : Type} (net : MeshNet ι) (m n : ι) : Prop := net.address m ∈ net.peers n

instance {ι : Type} (net : MeshNet ι) : DecidableRel net.Link :=
  fun m n => inferInstanceAs (Decidable (net.address m ∈ net.peers n))

inductive MeshEvent (ι : Type) where
  | issue (n : ι) (action : DiagnosticAction) (id : String) (now : SystemTime)
  | announce (n : ι)
  | deliver (m n : ι) (now : SystemTime)
  | relay (n : ι)
  | query (n : ι) (op : DiagnosticState.Op)

namespace Mesh

variable {ι : Type}

def start (net : MeshNet ι) (maxRecords : ι → Nat) (clock : ι → SystemTime) : Mesh ι where
  node n := { state := .new (maxRecords n), peerHashes := net.peers n, clock := clock n }
  chan _ _ := []
  issued := []

variable [DecidableEq ι]

def setNode (s : Mesh ι) (n : ι) (node : MeshNode) : Mesh ι :=
  { s with node := Function.update s.node n node }

/-- `send_to_in_links`. -/
def sendToInLinks (s : Mesh ι) (net : MeshNet ι) (n : ι) (payload : List UInt8) : Mesh ι :=
  { s with chan := fun m k => if m = n ∧ net.Link m k then s.chan m k ++ [payload] else s.chan m k }

def take (s : Mesh ι) (m n : ι) (rest : List (List UInt8)) : Mesh ι :=
  { s with chan := Function.update s.chan m (Function.update (s.chan m) n rest) }

def step (net : MeshNet ι) (s : Mesh ι) : MeshEvent ι → Option (Mesh ι)
  | .issue n action id now =>
    let node := s.node n
    if node.announcing = none then
      let r := localControl node.state action id now
      match r.2 with
      | some command =>
        let fresh := (node.state.applyOnceAt command now).2
        some { s.setNode n { node with
            state := r.1
            clock := now
            announcing := some command
            applied := if fresh then node.applied ++ [(command, now)] else node.applied } with
          issued := s.issued ++ [command] }
      | none => some s
    else none
  | .announce n =>
    let node := s.node n
    match node.announcing with
    | some command =>
      some ((s.setNode n { node with announcing := none, sent := node.sent ++ [command] }).sendToInLinks
        net n command.encode)
    | none => none
  | .deliver m n now =>
    let node := s.node n
    match node.relaying, s.chan m n with
    | none, payload :: rest =>
      let r := networkControl node.state node.peerHashes (net.address m) (.data payload) now
      some ((s.take m n rest).setNode n { node with
        state := r.1
        peerHashes := r.2.1
        clock := now
        relaying := r.2.2
        applied := node.applied ++ r.2.2.toList.map fun command => (command, now) })
    | _, _ => none
  | .relay n =>
    let node := s.node n
    match node.relaying with
    | some command =>
      some ((s.setNode n { node with relaying := none, sent := node.sent ++ [command] }).sendToInLinks
        net n command.encode)
    | none => none
  | .query n op =>
    let node := s.node n
    match op with
    | .applyOnce _ _ => none
    | op => some (s.setNode n { node with
        state := (DiagnosticState.machine.step node.state op).1, clock := op.now })

/-- One node issues, with new ids, up to 2048 commands; every clock goes forward; a command reaches
a node again no later than a day after the node applied it. -/
def Expected (issuer : ι) (s : Mesh ι) : MeshEvent ι → Prop
  | .issue n _ id now => n = issuer ∧ (s.node n).clock ≤ now ∧ id ∉ s.issued.map (·.id) ∧
      s.issued.length < 2048
  | .deliver m n now => (s.node n).clock ≤ now ∧ ∀ payload ∈ (s.chan m n).head?,
      ∀ command ∈ (DiagnosticCommand.parse payload).toOption, ∀ earlier ∈ (s.node n).applied,
        earlier.1.id = command.id →
          now.nanos ≤ earlier.2.nanos + Duration.fromSecs (24 * 60 * 60)
  | .query n op => (s.node n).clock ≤ op.now
  | .announce _ | .relay _ => True

instance (issuer : ι) (s : Mesh ι) : DecidablePred (s.Expected issuer)
  | .issue .. | .deliver .. | .query .. | .announce _ | .relay _ => by
    dsimp only [Expected]
    infer_instance

inductive Run (net : MeshNet ι) (issuer : ι) : Mesh ι → Prop where
  | start (maxRecords : ι → Nat) (clock : ι → SystemTime) :
      Run net issuer (start net maxRecords clock)
  | step {s s' : Mesh ι} {event : MeshEvent ι} (run : Run net issuer s)
      (expected : s.Expected issuer event) (stepped : s.step net event = some s') :
      Run net issuer s'

def play (net : MeshNet ι) (issuer : ι) (s : Mesh ι) : List (MeshEvent ι) → Option (Mesh ι)
  | [] => some s
  | event :: rest =>
    if s.Expected issuer event then (s.step net event).bind fun s' => play net issuer s' rest
    else none

theorem Run.play {net : MeshNet ι} {issuer : ι} {s s' : Mesh ι} (run : Run net issuer s)
    {events : List (MeshEvent ι)} (played : s.play net issuer events = some s') :
    Run net issuer s' := by
  induction events generalizing s with
  | nil =>
    obtain rfl := Option.some.inj played
    exact run
  | cons event rest ih =>
    unfold Mesh.play at played
    split at played
    · rename_i expected
      obtain ⟨_, stepped, played⟩ := Option.bind_eq_some_iff.mp played
      exact ih (run.step expected stepped) played
    · cases played

/-- Nothing is in flight: the links are empty and no task is about to send. -/
structure Quiet (s : Mesh ι) : Prop where
  links : ∀ m n, s.chan m n = []
  tasks : ∀ n, (s.node n).relaying = none ∧ (s.node n).announcing = none

def commands (s : Mesh ι) (n : ι) : List DiagnosticCommand := (s.node n).applied.map Prod.fst

end Mesh

end Kaonic.Plugin
