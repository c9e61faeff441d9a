import Kaonic.Base.Tasks

/-!
# The radio transmit tasks

`transmit_message` of the interfaces' transmit tasks, and `transmit_test_frame` beside them. All of
them share one client, which a task holds for as long as it transmits. The encoding network and the
packet serializer are parameters.
-/

namespace Kaonic.Radio

/-- The part of `InterfaceErrorKind` that transmitting brings about. -/
inductive TxErrorKind where
  | txLdpcEncode | txTransmit | txSerialize
  deriving DecidableEq

/-- `kaonic_net::Network` where it encodes, with the draw of `OsRng`, and `Packet::serialize`. -/
structure TransmitNetwork (P : Type) where
  State : Type
  build : State
  serialize : P → Option (List UInt8)
  transmit : State → Nat → List UInt8 → State × Except Unit (List (List UInt8))

/-- The checks of `transmit_test_frame` before it turns to the client. -/
def testFrameRefusal (radioFrameSize : Nat) (backend : Bool) (module : Nat) (payload : List UInt8) :
    Option String :=
  let maxLen := min radioFrameSize 2047
  if module > 1 then some ("radio module " ++ toString module ++ " not found")
  else if payload.isEmpty then some "message is required"
  else if payload.length > maxLen then some ("message exceeds " ++ toString maxLen ++ " bytes")
  else if backend then none
  else some "radio backend unavailable"

/-- A frame that the radio has taken or that an observer is shown. -/
structure AirFrame where
  test : Bool
  module : Nat
  frame : List UInt8
  deriving DecidableEq

/-- What a task transmits while it holds the client. -/
structure Sending where
  test : Bool
  module : Nat
  sent : List (List UInt8) := []
  rest : List (List UInt8)
  refused : Bool := false
  deriving DecidableEq

def Sending.onAir (x : Sending) : List AirFrame := x.sent.map fun frame => ⟨x.test, x.module, frame⟩

namespace TransmitTask

variable {ι P : Type}

/-- The client with its holder, what the radio has taken and what the observers have been shown, and
all that was transmitted in turn. -/
structure Shared (ι : Type) (N : Type) where
  holder : Option ι := none
  network : ι → N
  air : List AirFrame := []
  observed : List AirFrame := []
  errors : List (Nat × TxErrorKind) := []
  finished : List Sending := []
  current : Option Sending := none

/-- The access a task makes next. -/
inductive Phase (P : Type) where
  | idle
  -- `transmit_message`
  | encoding (packet : P)
  | notifying (kind : TxErrorKind)
  | waiting (frames : List (List UInt8))
  | sending (rest : List (List UInt8))
  | observing (frame : List UInt8) (rest : List (List UInt8))
  | failing
  -- `transmit_test_frame`
  | testWaiting (module : Nat) (payload : List UInt8)
  | testSending (module : Nat) (payload : List UInt8)
  | testObserving (module : Nat) (payload : List UInt8)
  -- any other request to the client
  | asking
  | asked

def Phase.isIdle : Phase P → Bool
  | idle => true
  | _ => false

/-- The phases that hold the client. -/
def Phase.inside : Phase P → Bool
  | sending _ | observing _ _ | failing | testSending _ _ | asked => true
  | _ => false

inductive Call (P : Type) where
  | message (packet : P)
  | testFrame (backend : Bool) (module : Nat) (payload : List UInt8)
  | request

/-- Whether the radio takes the frame, and the draw of `OsRng`. -/
structure Input where
  taken : Bool := true
  random : Nat := 0

structure Config (ι P : Type) where
  radioFrameSize : Nat
  module : ι → Nat
  net : TransmitNetwork P

def Call.begin (radioFrameSize : Nat) : Call P → Phase P
  | message packet => .encoding packet
  | testFrame backend module payload =>
    match testFrameRefusal radioFrameSize backend module payload with
    | none => .testWaiting module payload
    | some _ => .idle
  | request => .asking

section

variable [DecidableEq ι] (c : Config ι P)

def Shared.take (s : Shared ι c.net.State) (i : ι) (current : Option Sending) :
    Shared ι c.net.State := { s with holder := some i, current }

def Shared.release (s : Shared ι c.net.State) (done : List Sending) : Shared ι c.net.State :=
  { s with holder := none, current := none, finished := s.finished ++ done }

/-- One access of a task. One that needs the client waits while another task holds it. -/
def advance (i : ι) (input : Input) (s : Shared ι c.net.State) :
    Phase P → Shared ι c.net.State × Phase P
  | .idle => (s, .idle)
  | .encoding packet =>
    match c.net.serialize packet with
    | none => (s, .notifying .txSerialize)
    | some bytes =>
      match c.net.transmit (s.network i) input.random bytes with
      | (state, .ok frames) =>
        ({ s with network := Function.update s.network i state }, .waiting frames)
      | (state, .error _) =>
        ({ s with network := Function.update s.network i state }, .notifying .txLdpcEncode)
  | .notifying kind => ({ s with errors := s.errors ++ [(c.module i, kind)] }, .idle)
  | .waiting frames =>
    if s.holder.isSome then (s, .waiting frames)
    else
      (s.take c i (some { test := false, module := c.module i, rest := frames }), .sending frames)
  | .sending [] => (s.release c s.current.toList, .idle)
  | .sending (frame :: rest) =>
    if input.taken then
      ({ s with
          air := s.air ++ [⟨false, c.module i, frame⟩]
          current := s.current.map fun x => { x with sent := x.sent ++ [frame], rest } },
        .observing frame rest)
    else ({ s with current := s.current.map fun x => { x with refused := true } }, .failing)
  | .observing frame rest =>
    ({ s with observed := s.observed ++ [⟨false, c.module i, frame⟩] }, .sending rest)
  | .failing =>
    ({ s.release c s.current.toList with errors := s.errors ++ [(c.module i, .txTransmit)] }, .idle)
  | .testWaiting module payload =>
    if s.holder.isSome then (s, .testWaiting module payload)
    else (s.take c i (some { test := true, module, rest := [payload] }), .testSending module payload)
  | .testSending module payload =>
    -- the client is free again before the observer is shown the frame
    if input.taken then
      ({ s.release c [{ test := true, module, sent := [payload], rest := [] }] with
          air := s.air ++ [⟨true, module, payload⟩] }, .testObserving module payload)
    else
      (s.release c [{ test := true, module, rest := [payload], refused := true }], .idle)
  | .testObserving module payload =>
    ({ s with observed := s.observed ++ [⟨true, module, payload⟩] }, .idle)
  | .asking => if s.holder.isSome then (s, .asking) else (s.take c i none, .asked)
  | .asked => (s.release c [], .idle)

def tasks : TaskSystem ι (Shared ι c.net.State) (Phase P) (Call P) Input where
  idle := Phase.isIdle
  call _ op := op.begin c.radioFrameSize
  advance := advance c

abbrev State := TaskSystem.State ι (Shared ι c.net.State) (Phase P)

def start : State c where
  shared := { network := fun _ => c.net.build }
  phase _ := .idle

end

/-! ### What is asserted -/

def messages (frames : List AirFrame) : List AirFrame := frames.filter fun f => !f.test

theorem messages_append (a b : List AirFrame) : messages (a ++ b) = messages a ++ messages b :=
  List.filter_append ..

/-- The frames are those of a packet, as the network has encoded it. -/
def Encoded (c : Config ι P) (frames : List (List UInt8)) : Prop :=
  ∃ packet bytes state random state', c.net.serialize packet = some bytes ∧
    c.net.transmit state random bytes = (state', .ok frames)

/-- A turn that is over: either everything is out, or the radio has refused the next frame. -/
structure Sending.Finished (c : Config ι P) (x : Sending) : Prop where
  cut : x.refused = true ↔ x.rest ≠ []
  message : x.test = false → Encoded c (x.sent ++ x.rest)
  test : x.test = true → ∃ payload, x.sent ++ x.rest = [payload] ∧
    testFrameRefusal c.radioFrameSize true x.module payload = none

/-- The error notifications for what was cut. -/
def cuts (done : List Sending) : List (Nat × TxErrorKind) :=
  (done.filter fun x => !x.test && x.refused).map fun x => (x.module, .txTransmit)

structure Kept (c : Config ι P) (s : Shared ι c.net.State) : Prop where
  air : s.air = (s.finished ++ s.current.toList).flatMap Sending.onAir
  finished : ∀ x ∈ s.finished, Sending.Finished c x
  errors : s.errors.filter (fun e => e.2 = .txTransmit) = cuts s.finished
  free : s.holder = none → s.current = none ∧ messages s.observed = messages s.air

/-- What a task knows where it stands. -/
def Doing (c : Config ι P) (s : Shared ι c.net.State) (i : ι) : Phase P → Prop
  | .notifying kind => kind ≠ .txTransmit
  | .waiting frames => Encoded c frames
  | .sending rest =>
    (∃ sent, s.current = some { test := false, module := c.module i, sent, rest } ∧
      Encoded c (sent ++ rest)) ∧ messages s.observed = messages s.air
  | .observing frame rest =>
    (∃ sent, s.current = some { test := false, module := c.module i, sent := sent ++ [frame], rest } ∧
      Encoded c (sent ++ [frame] ++ rest)) ∧
        messages s.observed ++ [⟨false, c.module i, frame⟩] = messages s.air
  | .failing =>
    (∃ sent rest, s.current = some { test := false, module := c.module i, sent, rest, refused := true } ∧
      rest ≠ [] ∧ Encoded c (sent ++ rest)) ∧ messages s.observed = messages s.air
  | .testWaiting module payload => testFrameRefusal c.radioFrameSize true module payload = none
  | .testSending module payload =>
    s.current = some { test := true, module, rest := [payload] } ∧
      testFrameRefusal c.radioFrameSize true module payload = none ∧
        messages s.observed = messages s.air
  | .asked => s.current = none ∧ messages s.observed = messages s.air
  | .idle | .encoding _ | .testObserving _ _ | .asking => True

def Local (c : Config ι P) (s : Shared ι c.net.State) (i : ι) (p : Phase P) : Prop :=
  (p.inside = true ↔ s.holder = some i) ∧ Doing c s i p

section

variable {c : Config ι P} {s s' : Shared ι c.net.State} {i j : ι} {p : Phase P} {input : Input}

theorem Doing.congr (doing : Doing c s i p) (current : s'.current = s.current)
    (air : messages s'.air = messages s.air)
    (observed : messages s'.observed = messages s.observed) : Doing c s' i p := by
  cases p with
  | sending rest | observing frame rest | failing | testSending module payload | asked =>
    unfold Doing at doing ⊢
    rw [current, air, observed]
    exact doing
  | _ => exact doing

theorem Doing.of_outside (doing : Doing c s i p) (outside : p.inside = false) : Doing c s' i p := by
  cases p with
  | sending rest | observing frame rest | failing | testSending module payload | asked =>
    cases outside
  | _ => exact doing

theorem testFrameRefusal_backend {size module : Nat} {backend : Bool} {payload : List UInt8}
    (fine : testFrameRefusal size backend module payload = none) :
    testFrameRefusal size true module payload = none := by
  unfold testFrameRefusal at fine ⊢
  dsimp only at fine ⊢
  split at fine
  · cases fine
  split at fine
  · cases fine
  split at fine
  · cases fine
  · rename_i known some_ short
    rw [if_neg known, if_neg some_, if_neg short, if_pos rfl]

variable [DecidableEq ι]

/-- A task outside does nothing to the client, the air or the frames of messages that were shown. -/
theorem advance_outside (outside : p.inside = false) (held : s.holder.isSome = true) :
    let s' := (advance c i input s p).1
    s'.holder = s.holder ∧ s'.current = s.current ∧ s'.air = s.air ∧
      messages s'.observed = messages s.observed := by
  cases p with
  | sending rest | observing frame rest | failing | testSending module payload | asked =>
    cases outside
  | idle => exact ⟨rfl, rfl, rfl, rfl⟩
  | encoding packet =>
    dsimp only [advance]
    split
    · exact ⟨rfl, rfl, rfl, rfl⟩
    · split <;> exact ⟨rfl, rfl, rfl, rfl⟩
  | notifying kind => exact ⟨rfl, rfl, rfl, rfl⟩
  | waiting frames | testWaiting module payload | asking =>
    dsimp only [advance]
    rw [if_pos held]
    exact ⟨rfl, rfl, rfl, rfl⟩
  | testObserving module payload =>
    refine ⟨rfl, rfl, rfl, ?_⟩
    show messages (s.observed ++ [_]) = _
    rw [messages_append]
    exact List.append_nil _

theorem advance_holder : (advance c i input s p).1.holder = s.holder ∨
    (advance c i input s p).1.holder = some i ∨ (advance c i input s p).1.holder = none := by
  cases p with
  | sending rest =>
    cases rest with
    | nil => exact Or.inr (Or.inr rfl)
    | cons frame rest =>
      left
      dsimp only [advance]
      split <;> rfl
  | encoding packet =>
    left
    dsimp only [advance]
    split
    · rfl
    · split <;> rfl
  | waiting frames | testWaiting module payload | asking =>
    dsimp only [advance]
    split
    · exact Or.inl rfl
    · exact Or.inr (Or.inl rfl)
  | failing | asked => exact Or.inr (Or.inr rfl)
  | testSending module payload =>
    right
    right
    dsimp only [advance]
    split <;> rfl
  | idle | notifying _ | observing _ _ | testObserving _ _ => exact Or.inl rfl

/-- Nobody disturbs a task, inside or outside. -/
theorem local_undisturbed {q : Phase P} (other : j ≠ i) (own : Local c s i p) (theirs : Local c s j q) :
    Local c (advance c i input s p).1 j q := by
  obtain ⟨inside, doing⟩ := theirs
  cases here : q.inside with
  | true =>
    have holds := inside.mp here
    have outside : p.inside = false := by
      cases entered : p.inside with
      | false => rfl
      | true =>
        rw [own.1.mp entered] at holds
        exact (other (Option.some.inj holds).symm).elim
    obtain ⟨holder, current, air, observed⟩ :=
      @advance_outside ι P c s i p input _ outside (by rw [holds]; rfl)
    exact ⟨iff_of_true here (holder.trans holds), doing.congr current (by rw [air]) observed⟩
  | false =>
    refine ⟨?_, doing.of_outside here⟩
    have away : s.holder ≠ some j := by
      intro holds
      rw [inside.mpr holds] at here
      cases here
    rw [here]
    refine iff_of_false Bool.false_ne_true ?_
    rcases @advance_holder ι P c s i p input _ with same | taken | free
    · rw [same]
      exact away
    · rw [taken]
      exact fun same => other (Option.some.inj same).symm
    · rw [free]
      exact Option.some_ne_none j |>.symm

/-! ### One access -/

omit [DecidableEq ι]

theorem Kept.congr (kept : Kept c s) (holder : s'.holder = s.holder) (current : s'.current = s.current)
    (air : s'.air = s.air) (finished : s'.finished = s.finished)
    (errors : s'.errors.filter (fun e => e.2 = .txTransmit) =
      s.errors.filter fun e => e.2 = .txTransmit)
    (observed : messages s'.observed = messages s.observed) : Kept c s' := by
  refine ⟨?_, ?_, ?_, ?_⟩
  · rw [air, finished, current]
    exact kept.air
  · rw [finished]
    exact kept.finished
  · rw [errors, finished]
    exact kept.errors
  · rw [holder, current, air, observed]
    exact kept.free

/-- A turn begins, if it is one to transmit with nothing on the air yet. -/
theorem Kept.take (kept : Kept c s) (free : s.holder = none) (i : ι) {current : Option Sending}
    (silent : current.toList.flatMap Sending.onAir = []) : Kept c (s.take c i current) := by
  obtain ⟨none_, _⟩ := kept.free free
  refine ⟨?_, kept.finished, kept.errors, fun taken => by cases taken⟩
  show s.air = (s.finished ++ current.toList).flatMap Sending.onAir
  rw [kept.air, none_, List.flatMap_append, List.flatMap_append, silent]
  rfl

/-- A turn ends with what was transmitted in it. -/
theorem Kept.release (kept : Kept c s) {done : List Sending} {more : List (Nat × TxErrorKind)}
    {air : List AirFrame} (onAir : air = (s.finished ++ done).flatMap Sending.onAir)
    (ended : ∀ x ∈ done, Sending.Finished c x)
    (errors : more.filter (fun e => e.2 = .txTransmit) = cuts done)
    (shown : messages s.observed = messages air) :
    Kept c { s.release c done with air, errors := s.errors ++ more } := by
  refine ⟨?_, ?_, ?_, ?_⟩
  · simpa [Shared.release] using onAir
  · intro x member
    exact (List.mem_append.mp member).elim (kept.finished x) (ended x)
  · show (s.errors ++ more).filter _ = cuts (s.finished ++ done)
    rw [List.filter_append, kept.errors, errors]
    simp [cuts]
  · exact fun _ => ⟨rfl, shown⟩

theorem Kept.release_quiet (kept : Kept c s) {done : List Sending} {air : List AirFrame}
    (onAir : air = (s.finished ++ done).flatMap Sending.onAir)
    (ended : ∀ x ∈ done, Sending.Finished c x) (uncut : cuts done = [])
    (shown : messages s.observed = messages air) : Kept c { s.release c done with air } := by
  have released := @Kept.release ι P c s kept done [] air onAir ended uncut.symm shown
  rwa [List.append_nil] at released

theorem finished_message {sent rest : List (List UInt8)} {module : Nat} {refused : Bool}
    (encoded : Encoded c (sent ++ rest)) (cut : refused = true ↔ rest ≠ []) :
    Sending.Finished c { test := false, module, sent, rest, refused } :=
  ⟨cut, fun _ => encoded, fun test => (by cases test)⟩

theorem finished_test {module : Nat} {payload : List UInt8} {sent rest : List (List UInt8)}
    {refused : Bool} (fine : testFrameRefusal c.radioFrameSize true module payload = none)
    (whole : sent ++ rest = [payload]) (cut : refused = true ↔ rest ≠ []) :
    Sending.Finished c { test := true, module, sent, rest, refused } :=
  ⟨cut, fun message => (by cases message), fun _ => ⟨payload, whole, fine⟩⟩

theorem outside_local {q : Phase P} (holder : s.holder ≠ some i) (outside : q.inside = false)
    (doing : Doing c s i q) : Local c s i q :=
  ⟨by simp [outside, holder], doing⟩

theorem inside_local {q : Phase P} (holder : s.holder = some i) (inside : q.inside = true)
    (doing : Doing c s i q) : Local c s i q :=
  ⟨by simp [inside, holder], doing⟩

theorem free_of_not_isSome (free : ¬ s.holder.isSome = true) : s.holder = none :=
  Option.not_isSome_iff_eq_none.mp free

variable [DecidableEq ι]

/-- Whatever a task goes on to do, it does it inside exactly if it holds the client. -/
theorem advance_kept (kept : Kept c s) (own : Local c s i p) :
    Kept c (advance c i input s p).1 ∧
      Local c (advance c i input s p).1 i (advance c i input s p).2 := by
  obtain ⟨inside, doing⟩ := own
  have away : p.inside = false → s.holder ≠ some i := by
    intro outside holds
    rw [inside.mpr holds] at outside
    cases outside
  cases p with
  | idle => exact ⟨kept, inside, doing⟩
  | encoding packet =>
    dsimp only [advance]
    cases written : c.net.serialize packet with
    | none => exact ⟨kept, outside_local (away rfl) rfl TxErrorKind.noConfusion⟩
    | some bytes =>
      dsimp only
      cases encoded : c.net.transmit (s.network i) input.random bytes with
      | mk state result =>
        cases result with
        | ok frames =>
          exact ⟨kept.congr rfl rfl rfl rfl rfl rfl, outside_local (away rfl) rfl
            ⟨packet, bytes, s.network i, input.random, state, written, encoded⟩⟩
        | error _ =>
          exact ⟨kept.congr rfl rfl rfl rfl rfl rfl,
            outside_local (away rfl) rfl TxErrorKind.noConfusion⟩
  | notifying kind =>
    have other : kind ≠ .txTransmit := doing
    refine ⟨kept.congr rfl rfl rfl rfl ?_ rfl, outside_local (away rfl) rfl trivial⟩
    show (s.errors ++ [(c.module i, kind)]).filter _ = _
    simp [other]
  | waiting frames =>
    dsimp only [advance]
    split
    · exact ⟨kept, inside, doing⟩
    · rename_i free
      have holder := free_of_not_isSome free
      refine ⟨kept.take holder i rfl, inside_local rfl rfl ⟨⟨[], rfl, doing⟩, ?_⟩⟩
      exact (kept.free holder).2
  | sending rest =>
    obtain ⟨⟨sent, current, encoded⟩, shown⟩ := doing
    have onAir := kept.air
    rw [current] at onAir
    cases rest with
    | nil =>
      dsimp only [advance]
      rw [current]
      refine ⟨kept.release_quiet onAir ?_ rfl shown, outside_local nofun rfl trivial⟩
      intro x member
      rw [List.mem_singleton.mp member]
      exact finished_message encoded (by simp)
    | cons frame rest =>
      dsimp only [advance]
      split
      · have more : s.air ++ [(⟨false, c.module i, frame⟩ : AirFrame)] =
            (s.finished ++ [(⟨false, c.module i, sent ++ [frame], rest, false⟩ : Sending)]).flatMap
              Sending.onAir := by
          rw [onAir]
          simp [Sending.onAir]
        rw [current]
        refine ⟨⟨more, kept.finished, kept.errors, ?_⟩, inside_local (inside.mp rfl) rfl ?_⟩
        · intro free
          have holds := inside.mp rfl
          rw [show s.holder = none from free] at holds
          cases holds
        · refine ⟨⟨sent, rfl, by simpa using encoded⟩, ?_⟩
          show messages s.observed ++ _ = messages (s.air ++ _)
          rw [messages_append, shown]
          rfl
      · rw [current]
        have same : s.air = (s.finished ++
            [(⟨false, c.module i, sent, frame :: rest, true⟩ : Sending)]).flatMap Sending.onAir := by
          rw [onAir]
          simp [Sending.onAir]
        refine ⟨⟨same, kept.finished, kept.errors, ?_⟩, inside_local (inside.mp rfl) rfl ?_⟩
        · intro free
          have holds := inside.mp rfl
          rw [show s.holder = none from free] at holds
          cases holds
        · exact ⟨⟨sent, frame :: rest, rfl, List.cons_ne_nil _ _, encoded⟩, shown⟩
  | observing frame rest =>
    obtain ⟨⟨sent, current, encoded⟩, behind⟩ := doing
    have level : messages (s.observed ++ [(⟨false, c.module i, frame⟩ : AirFrame)]) =
        messages s.air := by
      rw [messages_append]
      exact behind
    refine ⟨⟨kept.air, kept.finished, kept.errors, fun free => ⟨(kept.free free).1, level⟩⟩, ?_⟩
    exact inside_local (inside.mp rfl) rfl ⟨⟨sent ++ [frame], current, encoded⟩, level⟩
  | failing =>
    obtain ⟨⟨sent, rest, current, some_, encoded⟩, shown⟩ := doing
    have onAir := kept.air
    rw [current] at onAir
    dsimp only [advance]
    rw [current]
    refine ⟨kept.release onAir ?_ ?_ shown, outside_local nofun rfl trivial⟩
    · intro x member
      rw [List.mem_singleton.mp member]
      exact finished_message encoded (by simp [some_])
    · simp [cuts]
  | testWaiting module payload =>
    dsimp only [advance]
    split
    · exact ⟨kept, inside, doing⟩
    · rename_i free
      have holder := free_of_not_isSome free
      exact ⟨kept.take holder i rfl, inside_local rfl rfl ⟨rfl, doing, (kept.free holder).2⟩⟩
  | testSending module payload =>
    obtain ⟨current, fine, shown⟩ := doing
    have onAir := kept.air
    rw [current] at onAir
    dsimp only [advance]
    split
    · have more : s.air ++ [(⟨true, module, payload⟩ : AirFrame)] =
          (s.finished ++ [({ test := true, module, sent := [payload], rest := [] } : Sending)]).flatMap
            Sending.onAir := by
        rw [onAir]
        simp [Sending.onAir]
      refine ⟨kept.release_quiet more ?_ rfl ?_, outside_local nofun rfl trivial⟩
      · intro x member
        rw [List.mem_singleton.mp member]
        exact finished_test fine rfl (by simp)
      · rw [messages_append, shown]
        exact (List.append_nil _).symm
    · refine ⟨kept.release_quiet ?_ ?_ rfl shown, outside_local nofun rfl trivial⟩
      · rw [onAir]
        simp [Sending.onAir]
      · intro x member
        rw [List.mem_singleton.mp member]
        exact finished_test fine rfl (by simp)
  | testObserving module payload =>
    refine ⟨kept.congr rfl rfl rfl rfl rfl ?_, outside_local (away rfl) rfl trivial⟩
    show messages (s.observed ++ [_]) = _
    rw [messages_append]
    exact List.append_nil _
  | asking =>
    dsimp only [advance]
    split
    · exact ⟨kept, inside, doing⟩
    · rename_i free
      have holder := free_of_not_isSome free
      exact ⟨kept.take holder i rfl, inside_local rfl rfl ⟨rfl, (kept.free holder).2⟩⟩
  | asked =>
    obtain ⟨current, shown⟩ := doing
    have onAir := kept.air
    rw [current] at onAir
    refine ⟨kept.release_quiet onAir ?_ rfl shown, outside_local nofun rfl trivial⟩
    intro x member
    cases member

theorem outline : TaskSystem.Outline (tasks c) (Kept c) (Local c) := by
  refine ⟨?_, ?_, ?_⟩
  · intro s i p op idle kept own
    have outside : p.inside = false := by
      cases p with
      | idle => rfl
      | _ => cases idle
    have away : s.holder ≠ some i := by
      intro holds
      rw [own.1.mpr holds] at outside
      cases outside
    cases op with
    | message packet => exact outside_local away rfl trivial
    | request => exact outside_local away rfl trivial
    | testFrame backend module payload =>
      show Local c s i ((Call.testFrame backend module payload).begin c.radioFrameSize)
      unfold Call.begin
      dsimp only
      split
      · rename_i checked
        exact outside_local away rfl (testFrameRefusal_backend checked)
      · exact outside_local away rfl trivial
  · exact fun s i p input _ kept own => advance_kept kept own
  · exact fun s i p input j q other _ _ own theirs => local_undisturbed other own theirs

omit [DecidableEq ι] in
theorem start_asserted : TaskSystem.Asserted (Kept c) (Local c) (start c) := by
  refine ⟨⟨rfl, ?_, rfl, fun _ => ⟨rfl, rfl⟩⟩, fun i => outside_local nofun rfl trivial⟩
  intro x member
  cases member

end

/-- However the tasks take turns, the air carries what was transmitted in one turn after the other: a
packet's frames in one piece, whole or cut where the radio has refused one, and every cut packet is
notified once. With nobody inside, the observers have been shown the frames of all packets in the
order on the air. -/
theorem packets_on_air [DecidableEq ι] (c : Config ι P) (events : List (TaskSystem.Event ι (Call P) Input))
    (s : State c) (path : TaskSystem.Path (tasks c) (fun _ _ => True) (start c) events s) :
    s.shared.air = (s.shared.finished ++ s.shared.current.toList).flatMap Sending.onAir ∧
      (∀ x ∈ s.shared.finished, Sending.Finished c x) ∧
      s.shared.errors.filter (fun e => e.2 = .txTransmit) = cuts s.shared.finished ∧
      ((∀ i, (s.phase i).inside = false) →
        s.shared.current = none ∧ messages s.shared.observed = messages s.shared.air) := by
  obtain ⟨kept, places⟩ : TaskSystem.Asserted (Kept c) (Local c) s :=
    path.kept _ (fun _ _ _ asserted _ stepped => outline.step asserted stepped) start_asserted
  refine ⟨kept.air, kept.finished, kept.errors, ?_⟩
  intro outside
  refine kept.free ?_
  cases holder : s.shared.holder with
  | none => rfl
  | some i =>
    have inside := (places i).1.mpr holder
    rw [outside i] at inside
    cases inside

/-- Encodes a byte string as itself and its length. -/
def plainConfig : Config Nat (List UInt8) where
  radioFrameSize := 8
  module := id
  net :=
    { State := Unit
      build := ()
      serialize := fun bytes => if bytes.isEmpty then none else some bytes
      transmit := fun _ _ bytes => ((), .ok [bytes, [.ofNat bytes.length]]) }

/-- Two messages and a test frame; the radio refuses the second frame of the second message. -/
def crowded : List (TaskSystem.Event Nat (Call (List UInt8)) Input) :=
  [.call 0 (.message [1, 2]), .call 1 (.message [3]), .call 2 (.testFrame true 1 [9]),
    .step 0 {}, .step 1 {}, .step 0 {}, .step 1 {}, .step 2 {}, .step 0 {}, .step 1 {}, .step 0 {},
    .step 0 {}, .step 2 {}, .step 0 {}, .step 0 {}, .step 1 {}, .step 2 {}, .step 1 {},
    .step 1 {}, .step 1 { taken := false }, .step 2 {}, .step 1 {}, .step 2 {}, .step 2 {}]

theorem packets_on_air_crowded : ∃ s : State plainConfig,
    TaskSystem.play (tasks plainConfig) (fun _ _ => True) (start plainConfig) crowded = some s ∧
      s.shared.air =
        [⟨false, 0, [1, 2]⟩, ⟨false, 0, [2]⟩, ⟨false, 1, [3]⟩, ⟨true, 1, [9]⟩] ∧
      s.shared.errors.filter (fun e => e.2 = .txTransmit) = cuts s.shared.finished := by
  have seen : (TaskSystem.play (tasks plainConfig) (fun _ _ => True) (start plainConfig) crowded).map
      (fun s => s.shared.air) =
        some [⟨false, 0, [1, 2]⟩, ⟨false, 0, [2]⟩, ⟨false, 1, [3]⟩, ⟨true, 1, [9]⟩] := by
    decide
  obtain ⟨s, played, air⟩ := Option.map_eq_some_iff.mp seen
  exact ⟨s, played, air, (packets_on_air plainConfig crowded s (.of_play played)).2.2.1⟩

end TransmitTask

end Kaonic.Radio
