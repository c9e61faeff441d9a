import Kaonic.Base.SelectLoop

/-!
# The radio receive task

`rx_task` of `KaonicCtrlInterface::spawn`. The reassembly network and the packet parser are
parameters; the task feeds the network with the frames of its module and forwards what comes out.
-/

namespace Kaonic.Radio

structure ReceiveModule where
  module : Nat
  frame : List UInt8
  deriving DecidableEq

/-- What a broadcast receiver answers instead of a value. -/
inductive RecvError where
  | lagged (skipped : UInt64)
  | closed
  deriving DecidableEq

inductive InterfaceErrorKind where
  | rxLdpcDecode | rxReassembly | rxDeserialize
  deriving DecidableEq

inductive KaonicNetError where
  | tryAgain | other
  deriving DecidableEq

/-- `kaonic_net::Network`. A packet that `process` hands out leaves its queue. -/
structure RadioNetwork where
  State : Type
  build : State
  receive : State → Nat → List UInt8 → State × Except KaonicNetError Unit
  process : State → Nat → State × Except KaonicNetError (List UInt8)
  queued : State → Nat
  queued_lt : ∀ s time s' assembled, process s time = (s', .ok assembled) → queued s' < queued s

inductive RxOutput (P : Type) where
  | forwarded (packet : P)
  | failed (kind : InterfaceErrorKind)
  deriving DecidableEq

namespace ReceiveTask

variable {P : Type} (net : RadioNetwork) (deserialize : List UInt8 → Option P) (module : Nat)

/-- The inner loop, until the network has nothing left or fails. -/
def drain (time : Nat) (s : net.State) : net.State × List (RxOutput P) :=
  match _h : net.process s time with
  | (s', .ok assembled) =>
    let output := match deserialize assembled with
      | some packet => .forwarded packet
      | none => .failed .rxDeserialize
    let r := drain time s'
    (r.1, output :: r.2)
  | (s', .error .tryAgain) => (s', [])
  | (s', .error .other) => (s', [.failed .rxReassembly])
  termination_by net.queued s
  decreasing_by exact net.queued_lt s time s' assembled _h

structure State where
  network : net.State := net.build
  handed : List (List UInt8) := []
  outputs : List (RxOutput P) := []

def onReceive (s : State (P := P) net) (r : ReceiveModule × Nat) : State (P := P) net :=
  if r.1.module = module then
    match net.receive s.network r.2 r.1.frame with
    | (network, .error _) =>
      { network, handed := s.handed ++ [r.1.frame], outputs := s.outputs ++ [.failed .rxLdpcDecode] }
    | (network, .ok _) =>
      let drained := drain net deserialize r.2 network
      { network := drained.1, handed := s.handed ++ [r.1.frame], outputs := s.outputs ++ drained.2 }
  else s

/-- A result of `rx_recv.recv()` with the clock reading at which it arrives. -/
abbrev Received := Except RecvError ReceiveModule × Nat

/-- The branch `Ok(recv_module) = rx_recv.recv()`. -/
def matched (v : Received) : Option (ReceiveModule × Nat) :=
  v.1.toOption.map fun recv => (recv, v.2)

def run (events : List (SelectLoop.Event Received)) : State (P := P) net :=
  (SelectLoop.run matched (onReceive net deserialize module) ⟨{}, .listening⟩ events).data

def ownFrame (v : Received) : Option (List UInt8) :=
  match v.1 with
  | .ok recv => if recv.module = module then some recv.frame else none
  | .error _ => none

variable {net deserialize module}

theorem onReceive_handed (s : State (P := P) net) (r : ReceiveModule × Nat) :
    (onReceive net deserialize module s r).handed =
      s.handed ++ if r.1.module = module then [r.1.frame] else [] := by
  unfold onReceive
  split
  · split <;> rfl
  · simp

theorem foldl_handed (s : State (P := P) net) (values : List Received) :
    ((values.filterMap matched).foldl (onReceive net deserialize module) s).handed =
      s.handed ++ values.filterMap (ownFrame module) := by
  induction values generalizing s with
  | nil => simp
  | cons v rest ih =>
    obtain ⟨result, time⟩ := v
    cases result with
    | error e => exact ih s
    | ok recv =>
      have step := ih (onReceive net deserialize module s (recv, time))
      rw [onReceive_handed] at step
      by_cases own : recv.module = module <;>
        simpa [matched, ownFrame, Except.toOption, own] using step

theorem run_handed (values : List Received) (later : List (SelectLoop.Event Received)) :
    (run net deserialize module (values.map .ready ++ .cancelled :: later)).handed =
      (values.takeWhile fun v => (matched v).isSome).filterMap (ownFrame module) := by
  unfold run
  rw [SelectLoop.run_ready, foldl_handed]
  rfl

/-- Every own frame reaches the network exactly when none follows a result that is no frame: the
task hears nothing after its receiver has once lagged. -/
theorem run_hands_all_iff (values : List Received) (later : List (SelectLoop.Event Received)) :
    (run net deserialize module (values.map .ready ++ .cancelled :: later)).handed =
        values.filterMap (ownFrame module) ↔
      ∀ v ∈ values.dropWhile fun v => v.1.toOption.isSome, ownFrame module v = none := by
  have matches_ : (fun v : Received => (matched v).isSome) = fun v => v.1.toOption.isSome := by
    funext v
    simp [matched]
  rw [run_handed, SelectLoop.takeWhile_filterMap_eq_iff, matches_]

def silentNetwork : RadioNetwork where
  State := Unit
  build := ()
  receive _ _ _ := ((), .ok ())
  process _ _ := ((), .error .tryAgain)
  queued _ := 0
  queued_lt := by
    intro _ _ _ _ same
    cases same

theorem run_lagged_loses_frame :
    let values : List Received := [(.error (.lagged 1), 0), (.ok ⟨0, [1]⟩, 1)]
    (run silentNetwork (fun bytes => some bytes) 0 (values.map .ready ++ [.cancelled])).handed = [] ∧
    values.filterMap (ownFrame 0) = [[1]] := by
  refine ⟨?_, rfl⟩
  rw [run_handed]
  rfl

end ReceiveTask

end Kaonic.Radio
