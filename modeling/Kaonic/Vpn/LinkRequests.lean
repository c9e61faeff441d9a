import Kaonic.Base.Tasks
import Kaonic.Vpn.Peer

/-!
# Link requests

Requests for an out-link to one peer, the events of its out-links and the rescue in the watchdog, as
tasks. A step is one access to the peer, to a registry or under the lock of a link, or one section
under the lock of the transport. The transport, the registry of peers and the policy answer as they
will.
-/

namespace Kaonic.Vpn.LinkRequests

inductive LinkStatus where
  | pending | handshake | active | stale | closed
  deriving DecidableEq

def linkPendingTimeoutSecs : Nat := 10

def linkReconnectCooldownSecs : Nat := 3

def shouldReuseExistingOutLink : Option LinkStatus → Bool
  | some .pending | some .handshake | some .active | some .stale => true
  | some .closed | none => false

def outLinkNeedsReset (status : LinkStatus) (linkAgeSecs : Nat) : Bool :=
  match status with
  | .pending | .handshake => decide (linkPendingTimeoutSecs ≤ linkAgeSecs)
  | .stale | .closed | .active => false

/-- The peer, its link in `runtime.out_links`, and the task that has the transport. -/
structure Shared (ι : Type) where
  peer : Peer
  outLink : Option Nat := none
  transport : Option ι := none

/-- The accesses that only write to the peer. -/
inductive Write where
  | state (state : LinkState)
  | countAttempt
  | clearAttempts
  | markLinkAttempt
  | clearLinkAttempt
  | finishLinkRequest
  | setReconnectCooldown (delaySecs : Nat)
  | clearReconnectCooldown

def Write.apply (now : Nat) : Write → Peer → Peer
  | state st, peer => { peer with linkState := st }
  | countAttempt, peer =>
    { peer with reconnectAttempts := (peer.reconnectAttempts + 1) % 2 ^ 32 }
  | clearAttempts, peer => { peer with reconnectAttempts := 0 }
  | markLinkAttempt, peer => { peer with linkAttemptTs := now }
  | clearLinkAttempt, peer => { peer with linkAttemptTs := 0 }
  | finishLinkRequest, peer => { peer with linkRequestInFlight := false }
  | setReconnectCooldown delaySecs, peer =>
    { peer with reconnectCooldownUntilTs := min (now + delaySecs) (2 ^ 64 - 1) }
  | clearReconnectCooldown, peer => { peer with reconnectCooldownUntilTs := 0 }

def syncPeerLinkState : LinkStatus → List Write
  | .active =>
    [.state .active, .clearLinkAttempt, .finishLinkRequest, .clearReconnectCooldown, .clearAttempts]
  | .pending | .handshake | .stale => [.state .pending]
  | .closed => [.state .closed, .finishLinkRequest]

/-- The events that change the state of a link. -/
inductive LinkEvent where
  | activated | closed
  deriving DecidableEq

def LinkEvent.state : LinkEvent → LinkState
  | activated => .active
  | closed => .closed

def LinkEvent.writes : LinkEvent → List Write
  | activated => [.clearLinkAttempt, .finishLinkRequest, .clearReconnectCooldown, .clearAttempts]
  | closed =>
    [.clearLinkAttempt, .finishLinkRequest, .setReconnectCooldown linkReconnectCooldownSecs]

/-- The access a task makes next. -/
inductive Phase where
  | idle
  -- `request_out_link`, with whether it holds the peer and so goes by the guard
  | requesting
  | refusing
  | looking
  | locating (guarded : Bool)
  | inspecting (guarded : Bool) (link : Nat)
  | reusing (link : Nat)
  | cooling
  | beginning
  | linking (guarded : Bool)
  | opening (guarded : Bool)
  | storing (guarded : Bool) (link : Nat)
  | finishing
  -- an event
  | stating (event : LinkEvent)
  | removing (event : LinkEvent)
  | settling (event : LinkEvent)
  | fetching
  | keeping (link : Nat)
  | greeting
  -- the watchdog
  | rescuing
  | rating
  | closing
  | dropping
  -- all of them
  | writing (w : Write) (writes : List Write) (next : Phase)

/-- The phase that makes some writes and goes on. -/
def Phase.after : List Write → Phase → Phase
  | [], next => next
  | w :: writes, next => .writing w writes next

def Phase.isIdle : Phase → Bool
  | idle => true
  | _ => false

inductive Call where
  | requestOutLink
  | outLinkEvent (event : LinkEvent)
  | watchdog

def Call.begin : Call → Phase
  | requestOutLink => .requesting
  | outLinkEvent event => .stating event
  | watchdog => .rescuing

/-- What an access finds outside the peer: the clock, `peer_allowed`, whether `peers.get` has the
peer, `find_out_link`, the status and the age of a link, whether `link_close` succeeds, and the link
that `link` opens. -/
structure Input where
  now : Nat := 0
  peerAllowed : Bool := true
  registered : Bool := true
  outLink : Option Nat := none
  status : LinkStatus := .closed
  linkAgeSecs : Nat := 0
  closes : Bool := true
  link : Nat := 0

variable {ι : Type}

namespace Shared

def write (s : Shared ι) (now : Nat) (w : Write) : Shared ι := { s with peer := w.apply now s.peer }

/-- One access of a task. One that needs the transport waits while another task has it. -/
def advance (i : ι) (input : Input) (s : Shared ι) : Phase → Shared ι × Phase
  | .idle => (s, .idle)
  | .requesting => (s, if input.peerAllowed then .looking else .refusing)
  | .refusing => ({ s with outLink := none }, .idle)
  | .looking => (s, .locating input.registered)
  | .locating guarded =>
    if s.transport.isSome then (s, .locating guarded)
    else
      match input.outLink with
      | some link => (s, .inspecting guarded link)
      | none => (s, if guarded then .cooling else .linking false)
  | .inspecting guarded link =>
    if shouldReuseExistingOutLink (some input.status) then (s, .reusing link)
    else (s, if guarded then .cooling else .linking false)
  | .reusing link => ({ s with outLink := some link }, .idle)
  | .cooling => (s, if input.now < s.peer.reconnectCooldownUntilTs then .idle else .beginning)
  | .beginning =>
    if s.peer.linkRequestInFlight then (s, .idle)
    else
      ({ s with peer := { s.peer with linkRequestInFlight := true } },
        .after [.state .pending, .countAttempt, .markLinkAttempt] (.linking true))
  | .linking guarded =>
    if s.transport.isSome then (s, .linking guarded)
    else ({ s with transport := some i }, .opening guarded)
  | .opening guarded => ({ s with transport := none }, .storing guarded input.link)
  | .storing guarded link =>
    ({ s with outLink := some link }, if guarded then .finishing else .idle)
  | .finishing => (s.write input.now .finishLinkRequest, .idle)
  | .stating event =>
    (s, if input.registered then .after [.state event.state] (.removing event) else .removing event)
  | .removing .activated => (s, .settling .activated)
  | .removing .closed => ({ s with outLink := none }, .settling .closed)
  | .settling event =>
    let rest := match event with
      | .activated => .fetching
      | .closed => .idle
    (s, if input.registered then .after event.writes rest else rest)
  | .fetching =>
    if s.transport.isSome then (s, .fetching)
    else
      match input.outLink with
      | some link => (s, .keeping link)
      | none => (s, .greeting)
  | .keeping link => ({ s with outLink := some link }, .greeting)
  | .greeting => if s.transport.isSome then (s, .greeting) else (s, .idle)
  | .rescuing =>
    if s.transport.isSome then (s, .rescuing)
    else (s, if input.outLink.isSome then .rating else .idle)
  | .rating =>
    (s, .after (syncPeerLinkState input.status)
      (if outLinkNeedsReset input.status input.linkAgeSecs then .closing else .idle))
  | .closing =>
    if s.transport.isSome then (s, .closing)
    else (s, if input.closes then .dropping else .idle)
  | .dropping =>
    ({ s with outLink := none },
      .after [.state .closed, .clearLinkAttempt, .finishLinkRequest,
        .setReconnectCooldown linkReconnectCooldownSecs] .idle)
  | .writing w writes next => (s.write input.now w, .after writes next)

end Shared

def linkTasks : TaskSystem ι (Shared ι) Phase Call Input where
  idle := Phase.isIdle
  call _ op := op.begin
  advance := Shared.advance

/-- From `try_begin_link_request` on, until `link` returns. -/
def Phase.outstanding : Phase → Bool
  | linking guarded | opening guarded => guarded
  | writing _ _ next => next.outstanding
  | _ => false

/-- From `try_begin_link_request` on, until the request clears the flag again. -/
def Phase.holds : Phase → Bool
  | linking guarded | opening guarded | storing guarded _ => guarded
  | finishing => true
  | writing _ _ next => next.holds
  | _ => false

/-- An event or the watchdog is about to clear the flag. -/
def Phase.clears : Phase → Bool
  | writing .finishLinkRequest _ _ => true
  | _ => false

theorem holds_of_outstanding {p : Phase} (out : p.outstanding = true) : p.holds = true := by
  induction p with
  | linking guarded | opening guarded => exact out
  | writing w writes next ih => exact ih out
  | _ => cases out

theorem holds_after (writes : List Write) (next : Phase) :
    (Phase.after writes next).holds = next.holds := by
  cases writes <;> rfl

def guard : Guard (Shared ι) Phase where
  flag s := s.peer.linkRequestInFlight
  inside := Phase.holds

theorem flag_write (s : Shared ι) (now : Nat) (w : Write) :
    (s.write now w).peer.linkRequestInFlight =
      match w with
      | .finishLinkRequest => false
      | _ => s.peer.linkRequestInFlight := by
  cases w <;> rfl

/-- An access moves the guard as a request does, unless it clears the flag for one. -/
theorem advance_move (i : ι) (input : Input) (s : Shared ι) (p : Phase)
    (own : p.clears = true → s.peer.linkRequestInFlight = false) :
    guard.Move s p (s.advance i input p).1 (s.advance i input p).2 := by
  cases p with
  | beginning =>
    dsimp only [Shared.advance]
    split
    · exact .keep rfl rfl
    · rename_i free
      exact .take (Bool.not_eq_true _ ▸ free) rfl rfl
  | finishing => exact .release rfl rfl rfl
  | writing w writes next =>
    refine .keep ?_ (holds_after writes next)
    dsimp only [Shared.advance, guard]
    rw [flag_write]
    split
    · exact (own rfl).symm
    · rfl
  | storing guarded link => cases guarded <;> exact .keep rfl rfl
  | settling event =>
    refine .keep rfl ?_
    dsimp only [Shared.advance, guard]
    cases event <;> split <;> rfl
  | rating =>
    refine .keep rfl ?_
    dsimp only [Shared.advance, guard]
    rw [holds_after]
    split <;> rfl
  | removing event => cases event <;> exact .keep rfl rfl
  | locating guarded | inspecting guarded =>
    dsimp only [Shared.advance]
    cases guarded <;> repeat' split
    all_goals exact .keep rfl rfl
  | idle | refusing | looking | reusing | opening | keeping | dropping => exact .keep rfl rfl
  | requesting | cooling | linking | fetching | greeting | rescuing | closing | stating =>
    dsimp only [Shared.advance]
    repeat' split
    all_goals exact .keep rfl rfl

section Runs

abbrev State (ι : Type) := TaskSystem.State ι (Shared ι) Phase
abbrev Event (ι : Type) := TaskSystem.Event ι Call Input

/-- An event or the watchdog clears the flag only when it is clear. -/
def Undisturbed (s : State ι) : Event ι → Prop
  | .call _ _ => True
  | .step i _ => (s.phase i).clears = true → s.shared.peer.linkRequestInFlight = false

/-- What clears a set flag takes it from a request that has yet to clear it. -/
theorem disturbed_takes {s : State ι} {e : Event ι} (owned : guard.Owned s)
    (disturbed : ¬Undisturbed s e) : ∃ i, (s.phase i).holds = true := by
  cases e with
  | call i op => exact (disturbed trivial).elim
  | step i input =>
    refine owned.taken ?_
    cases flag : s.shared.peer.linkRequestInFlight with
    | true => exact flag
    | false => exact (disturbed fun _ => flag).elim

variable [DecidableEq ι]

theorem owned_step {s s' : State ι} {e : Event ι} (owned : guard.Owned s) (ok : Undisturbed s e)
    (stepped : linkTasks.step s e = some s') : guard.Owned s' := by
  refine owned.step ?_ ?_ ?_ stepped
  · intro p idle
    cases p with
    | idle => rfl
    | _ => cases idle
  · intro _ op
    cases op <;> rfl
  · rintro i input rfl
    exact advance_move i input s.shared (s.phase i) ok

/-- All tasks idle, on a peer that has just been made. -/
def start (ι : Type) (peer : Peer) : State ι where
  shared := { peer }
  phase _ := .idle

/-- In every run in which events and the watchdog come to clear the flag only when it is clear, at
most one request has its `link` outstanding, and the flag is set as long as it has. -/
theorem link_requests_exclusive (hash : Net.AddressHash) (tunnelIp : Net.Ipv4Addr)
    (state : LinkState) (events : List (Event ι)) (s : State ι)
    (path : TaskSystem.Path linkTasks Undisturbed (start ι (.new hash tunnelIp state)) events s) :
    (∀ i j, (s.phase i).outstanding = true → (s.phase j).outstanding = true → i = j) ∧
      ∀ i, (s.phase i).outstanding = true → s.shared.peer.linkRequestInFlight = true := by
  have owned : guard.Owned s := by
    refine path.kept guard.Owned (fun _ _ _ => owned_step) ⟨none, rfl, ?_⟩
    exact fun _ => ⟨fun inside => (by cases inside), fun none_ => (by cases none_)⟩
  refine ⟨?_, ?_⟩
  · intro i j first second
    exact owned.exclusive (holds_of_outstanding first) (holds_of_outstanding second)
  · intro i out
    exact owned.set (holds_of_outstanding out)

instance (s : State ι) : DecidablePred (Undisturbed s)
  | .call _ _ => inferInstanceAs (Decidable True)
  | .step i _ => inferInstanceAs (Decidable ((s.phase i).clears = true →
      s.shared.peer.linkRequestInFlight = false))

end Runs

/-! ### Two requests and the watchdog -/

section Sample

def samplePeer : Peer := .new (.repeated 1) (.new 10 20 0 2) .discovered

/-- Steps of one task that find the same. -/
def turns (i n : Nat) (input : Input) : List (Event Nat) := List.replicate n (.step i input)

/-- A request, the events of the link it has opened, and another request. -/
def laterRequest : List (Event Nat) :=
  .call 1 .requestOutLink :: turns 1 12 { now := 100, link := 7 } ++
    .call 0 (.outLinkEvent .activated) :: turns 0 11 { now := 101, outLink := some 7 } ++
      .call 0 (.outLinkEvent .closed) :: turns 0 7 { now := 110 } ++
        .call 2 .requestOutLink :: turns 2 5 { now := 113 }

theorem link_requests_exclusive_later : ∃ s,
    linkTasks.play Undisturbed (start Nat samplePeer) laterRequest = some s ∧
      (s.phase 2).outstanding = true ∧
        (∀ i j, (s.phase i).outstanding = true → (s.phase j).outstanding = true → i = j) ∧
          ∀ i, (s.phase i).outstanding = true → s.shared.peer.linkRequestInFlight = true := by
  have seen : (linkTasks.play Undisturbed (start Nat samplePeer) laterRequest).map
      (fun s => (s.phase 2).outstanding) = some true := by decide
  obtain ⟨s, played, out⟩ := Option.map_eq_some_iff.mp seen
  exact ⟨s, played, out, link_requests_exclusive (.repeated 1) (.new 10 20 0 2) .discovered
    laterRequest s (.of_play played)⟩

/-- Two requests and the watchdog find the old link closed; the first request begins, and the
watchdog clears its flag for the old link; the second one begins. -/
def crossedRequests : List (Event Nat) :=
  .call 1 .requestOutLink :: turns 1 4 { now := 100, outLink := some 7 } ++
    .call 2 .requestOutLink :: turns 2 4 { now := 100, outLink := some 7 } ++
      .call 0 .watchdog :: turns 0 2 { now := 100, outLink := some 7 } ++
        turns 1 5 { now := 100 } ++ turns 0 2 { now := 100 } ++ turns 2 5 { now := 100 }

theorem link_requests_cross : ∃ s,
    linkTasks.run (start Nat samplePeer) crossedRequests = some s ∧
      ¬((∀ i j, (s.phase i).outstanding = true → (s.phase j).outstanding = true → i = j) ∧
        ∀ i, (s.phase i).outstanding = true → s.shared.peer.linkRequestInFlight = true) := by
  have seen : (linkTasks.run (start Nat samplePeer) crossedRequests).map
      (fun s => ((s.phase 1).outstanding, (s.phase 2).outstanding)) = some (true, true) := by decide
  obtain ⟨s, ran, observed⟩ := Option.map_eq_some_iff.mp seen
  obtain ⟨first, second⟩ := Prod.mk.inj observed
  refine ⟨s, ran, ?_⟩
  rintro ⟨exclusive, _⟩
  cases exclusive 1 2 first second

end Sample

end Kaonic.Vpn.LinkRequests
