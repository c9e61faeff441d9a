import Kaonic.Base.Tasks
import Kaonic.Vpn.Expiry

/-!
# The tasks of the VPN

Announces, control frames, policy changes and watchdog ticks as tasks on one runtime. A step is one
access under one lock, or to one atomic; the clock is read with the access after it. Peers are
shared by reference, so that a task can hold one that the registry has given up.
-/

namespace Kaonic.Vpn
open Net

/-- What the tasks go by. -/
structure TaskEnv extends VpnEnv where
  arcs : HashMap.IterOrder AddressHash Nat := default
  hex : Text.Codec AddressHash
  ctrlBody : List UInt8 → Except String Ctrl

/-- The part of the runtime that the tasks share, less what only `sync_routes` reads and writes.
The registry holds references into the heap. -/
structure Shared where
  destination : AddressHash
  network : Ipv4Cidr
  localTunnelIp : Ipv4Addr
  allowAllPeers : Bool
  allowedPeers : Finset AddressHash
  lastError : Option String := none
  registry : HashMap AddressHash Nat
  heap : Nat → Peer
  allocated : Nat
  outLinks : LinkRegistry := ∅
  router : RouteTable

namespace Shared

def peerAllowed (s : Shared) (hash : AddressHash) : Bool :=
  if hash = s.destination then false else s.allowAllPeers || decide (hash ∈ s.allowedPeers)

def policy (s : Shared) : AccessPolicy := ⟨s.allowAllPeers, s.allowedPeers⟩

/-- The references that `PeerRegistry::all` hands out, and what is behind them. -/
def all (env : TaskEnv) (s : Shared) : List Nat := (env.arcs.order s.registry).map Prod.snd

def peers (env : TaskEnv) (s : Shared) : List Peer := (s.all env).map s.heap

def put (s : Shared) (peer : Peer) : Shared :=
  { s with
    registry := AList.insert peer.hash s.allocated s.registry
    heap := Function.update s.heap s.allocated peer
    allocated := s.allocated + 1 }

def modify (s : Shared) (id : Nat) (f : Peer → Peer) : Shared :=
  { s with heap := Function.update s.heap id (f (s.heap id)) }

end Shared

/-- The accesses to one peer by which an announce or a control frame renews it. -/
inductive PeerWrite where
  | desc (desc : DestinationDesc)
  | seen
  | expiry
  | routes (routes : List Ipv4Cidr)
  | clearError

def PeerWrite.apply (now : Nat) : PeerWrite → Peer → Peer
  | desc d, peer => { peer with desc := some d }
  | seen, peer => { peer with lastSeenTs := now }
  | expiry, peer => { peer with routeExpiresTs := now + routeGraceSecs }
  | routes rs, peer => { peer with routes := rs }
  | clearError, peer => { peer with lastError := none }

/-- A ping marks the peer as seen; a frame that does not decode leaves its error. -/
def note (now : Nat) : Option String → Peer → Peer
  | none, peer => { peer with lastSeenTs := now }
  | some err, peer => { peer with lastError := some err }

/-- The locals of a `rebuild_router`, the policy change it is part of, if it is, and which of all
rebuilds it is. -/
structure Rebuild where
  change : Option AccessPolicy
  ticket : Nat
  now : Nat
  building : RouteTable.Building := {}
  todo : List Nat

/-- Where a task stands: the access it makes next, with the locals it still needs. -/
inductive Phase where
  | idle
  -- `handle_peer_announce`
  | announced (desc : DestinationDesc) (routes : List Ipv4Cidr)
  | finding (desc : DestinationDesc) (routes : List Ipv4Cidr) (tunnelIp : Ipv4Addr)
  | creating (desc : DestinationDesc) (routes : List Ipv4Cidr) (tunnelIp : Ipv4Addr)
  -- a control frame
  | heard (hash : AddressHash) (writes : List PeerWrite)
  | noting (hash : AddressHash) (err : Option String)
  | marking (peer : Nat) (err : Option String)
  -- both
  | writing (peer : Nat) (writes : List PeerWrite)
  -- `replace_peer_policy`
  | changing (policy : AccessPolicy) (todo : List AddressHash)
  | seeding (policy : AccessPolicy) (todo : List AddressHash)
  | inserting (policy : AccessPolicy) (hash : AddressHash) (tunnelIp : Ipv4Addr)
      (todo : List AddressHash)
  | listing (policy : AccessPolicy)
  | evicting (policy : AccessPolicy) (todo : List AddressHash)
  | unlinking (policy : AccessPolicy) (hash : AddressHash) (todo : List AddressHash)
  -- the routes in the watchdog
  | ticking (now : Nat)
  | expiring (now : Nat) (routesChanged : Bool) (todo : List Nat)
  | inspecting (now : Nat) (routesChanged : Bool) (peer : Nat) (todo : List Nat)
  | clearing (now : Nat) (peer : Nat) (todo : List Nat)
  -- `rebuild_router` and `sync_routes`
  | rebuilding (change : Option AccessPolicy)
  | reading (r : Rebuild)
  | routing (r : Rebuild) (peer : Nat) (expires : Nat)
  | syncing (change : Option AccessPolicy)

def Phase.isIdle : Phase → Bool
  | idle => true
  | _ => false

theorem idle_of_isIdle {p : Phase} (idle : p.isIdle = true) : p = .idle := by
  cases p with
  | idle => rfl
  | _ => cases idle

inductive Call where
  | announce (desc : DestinationDesc) (routes : List Ipv4Cidr)
  | ctrl (hash : AddressHash) (data : List UInt8)
  | replacePeerPolicy (allowAllPeers : Bool) (peers : List String)
  | watchdog (now : Nat)

/-- A call up to its first access. The order of the peers stands for that of the set. -/
def Call.begin (env : TaskEnv) (s : Shared) : Call → Phase
  | announce desc routes =>
    if desc.addressHash = s.destination then .idle else .announced desc routes
  | ctrl hash data =>
    match decodeCtrl env.ctrlBody data with
    | .ok (.hello routes) | .ok (.routes routes) =>
      .heard hash [.seen, .expiry, .routes (routes.filterMap fun s => s.toCidr.toOption)]
    | .ok .ping => .noting hash none
    | .error err => .noting hash (some err.display)
  | replacePeerPolicy allowAllPeers peers =>
    match parseConfiguredPeers env.hex peers with
    | .ok hashes => .changing ⟨allowAllPeers, hashes.toFinset⟩ hashes.dedup
    | .error _ => .idle
  | watchdog now => .ticking now

def announceWrites (desc : DestinationDesc) (routes : List Ipv4Cidr) : List PeerWrite :=
  [.desc desc, .seen, .expiry, .routes routes, .clearError]

def Rebuild.add (s : Shared) (r : Rebuild) (peer : Peer) : RouteTable.Building :=
  RouteTable.addPeer r.now s.destination s.localTunnelIp r.building peer

/-- One access of a task. -/
def Shared.advance (env : TaskEnv) (ticket now : Nat) (s : Shared) : Phase → Shared × Phase
  | .idle => (s, .idle)
  | .announced desc routes =>
    if s.peerAllowed desc.addressHash then
      match deriveTunnelIp env.toVpnEnv s.network desc.addressHash with
      | .ok tunnelIp => (s, .finding desc routes tunnelIp)
      | .error _ => (s, .idle)
    else (s, .idle)
  | .finding desc routes tunnelIp =>
    match s.registry.lookup desc.addressHash with
    | some peer => (s, .writing peer (announceWrites desc routes))
    | none => (s, .creating desc routes tunnelIp)
  | .creating desc routes tunnelIp =>
    match s.registry.lookup desc.addressHash with
    | some peer => (s, .writing peer (announceWrites desc routes))
    | none => (s.put (.new desc.addressHash tunnelIp .discovered),
        .writing s.allocated (announceWrites desc routes))
  | .heard hash writes =>
    match s.registry.lookup hash with
    | some peer => (s, .writing peer writes)
    | none => (s, .rebuilding none)
  | .noting hash err =>
    match s.registry.lookup hash with
    | some peer => (s, .marking peer err)
    | none => (s, .idle)
  | .marking peer err => (s.modify peer (note now err), .idle)
  | .writing _ [] => (s, .rebuilding none)
  | .writing peer (w :: writes) => (s.modify peer (w.apply now), .writing peer writes)
  | .changing policy todo =>
    ({ s with
        allowAllPeers := policy.allowAllPeers
        allowedPeers := policy.allowedPeers
        lastError := none }, .seeding policy todo)
  | .seeding policy [] =>
    (s, if policy.allowAllPeers then .rebuilding (some policy) else .listing policy)
  | .seeding policy (hash :: todo) =>
    if hash = s.destination ∨ (s.registry.lookup hash).isSome then (s, .seeding policy todo)
    else
      match deriveTunnelIp env.toVpnEnv s.network hash with
      | .ok tunnelIp => (s, .inserting policy hash tunnelIp todo)
      | .error _ => (s, .idle)
  | .inserting policy hash tunnelIp todo =>
    (s.put (.new hash tunnelIp .configured), .seeding policy todo)
  | .listing policy => (s, .evicting policy ((s.peers env).map Peer.hash))
  | .evicting policy [] => (s, .rebuilding (some policy))
  | .evicting policy (hash :: todo) =>
    if hash = s.destination ∨ hash ∈ policy.allowedPeers then (s, .evicting policy todo)
    else ({ s with registry := AList.erase hash s.registry }, .unlinking policy hash todo)
  | .unlinking policy hash todo =>
    ({ s with outLinks := AList.erase hash s.outLinks }, .evicting policy todo)
  | .ticking tick => (s, .expiring tick false (s.all env))
  | .expiring _ routesChanged [] => (s, if routesChanged then .rebuilding none else .idle)
  | .expiring tick routesChanged (id :: todo) =>
    let peer := s.heap id
    if peer.hash = s.destination then (s, .expiring tick routesChanged todo)
    else if peer.routeExpiresTs ≠ 0 ∧ peer.routeExpiresTs ≤ tick then
      (s, .inspecting tick routesChanged id todo)
    else (s, .expiring tick routesChanged todo)
  | .inspecting tick routesChanged id todo =>
    if (s.heap id).routes ≠ [] then (s, .clearing tick id todo)
    else (s, .expiring tick routesChanged todo)
  | .clearing tick id todo =>
    (s.modify id fun peer => { peer with routes := [] }, .expiring tick true todo)
  | .rebuilding change => (s, .reading { change, ticket, now, todo := s.all env })
  | .reading r =>
    match r.todo with
    | [] => ({ s with router := r.building.finish env.claimed }, .syncing r.change)
    | id :: todo =>
      let peer := s.heap id
      -- The routes of the local peer and of one that has expired are not looked at.
      if peer.hash = s.destination ∨ (peer.routeExpiresTs ≠ 0 ∧ peer.routeExpiresTs ≤ r.now) then
        (s, .reading { r with building := r.add s peer, todo })
      else (s, .routing { r with todo } id peer.routeExpiresTs)
  | .routing r id expires =>
    (s, .reading { r with building := r.add s { s.heap id with routeExpiresTs := expires } })
  | .syncing _ => (s, .idle)

/-- The shared state with what a run has seen so far, which no access reads: how many rebuilds have
begun and their clock readings, the task whose change put the policy in force, its rebuild once the
table is in place, and the change that has returned since, if one has. -/
structure Logged (ι : Type) extends Shared where
  begun : Nat := 0
  clocks : List Nat
  inForce : Option ι := none
  floor : Nat := 0
  settled : Option AccessPolicy := none

section System

variable {ι : Type} [DecidableEq ι]

def Logged.log (i : ι) (now : Nat) (s : Logged ι) : Phase → Logged ι
  | .rebuilding _ => { s with begun := s.begun + 1, clocks := s.clocks ++ [now] }
  | .changing _ _ => { s with inForce := some i, floor := 0, settled := none }
  | .reading { change := some _, ticket, todo := [], .. } =>
    if s.inForce = some i then { s with floor := ticket } else s
  | .syncing (some policy) => { s with settled := some policy }
  | _ => s

def tasks (env : TaskEnv) : TaskSystem ι (Logged ι) Phase Call Nat where
  idle := Phase.isIdle
  call s op := op.begin env s.toShared
  advance i now s p :=
    let r := s.toShared.advance env (s.begun + 1) now p
    ({ s.log i now p with toShared := r.1 }, r.2)

abbrev TaskState (ι : Type) := TaskSystem.State ι (Logged ι) Phase
abbrev TaskEvent (ι : Type) := TaskSystem.Event ι Call Nat

/-- The state after an access. -/
def TaskState.after (env : TaskEnv) (s : TaskState ι) (i : ι) (now : Nat) : TaskState ι :=
  ⟨((tasks env).advance i now s.shared (s.phase i)).1,
    Function.update s.phase i ((tasks env).advance i now s.shared (s.phase i)).2⟩

variable {env : TaskEnv}

theorem after_phase (s : TaskState ι) (i j : ι) (now : Nat) :
    (s.after env i now).phase j =
      if j = i then (s.shared.toShared.advance env (s.shared.begun + 1) now (s.phase i)).2
      else s.phase j := by
  dsimp only [TaskState.after]
  split
  · rename_i same
    rw [same, Function.update_self]
    rfl
  · rename_i other
    rw [Function.update_of_ne other]

theorem after_own (s : TaskState ι) (i : ι) (now : Nat) :
    (s.after env i now).phase i =
      (s.shared.toShared.advance env (s.shared.begun + 1) now (s.phase i)).2 := by
  rw [after_phase, if_pos rfl]

theorem after_other (s : TaskState ι) {i j : ι} (other : j ≠ i) (now : Nat) :
    (s.after env i now).phase j = s.phase j := by
  rw [after_phase, if_neg other]

/-- A task that takes on a call leaves the busy ones alone. -/
theorem update_busy {s : TaskState ι} {i j : ι} (idle : s.phase i = .idle) (p : Phase)
    (busy : s.phase j ≠ .idle) : Function.update s.phase i p j = s.phase j := by
  refine Function.update_of_ne ?_ p s.phase
  rintro rfl
  exact busy idle

/-- An idle task takes on a call, or a busy one makes its next access. -/
theorem tasks_step {s s' : TaskState ι} {e : TaskEvent ι}
    (stepped : (tasks env).step s e = some s') :
    (∃ i op, e = .call i op ∧ s.phase i = .idle ∧
      s' = { s with phase := Function.update s.phase i (op.begin env s.shared.toShared) }) ∨
    ∃ i now, e = .step i now ∧ s' = s.after env i now := by
  obtain ⟨i, op, rfl, idle, rfl⟩ | ⟨i, now, rfl, _, rfl⟩ := TaskSystem.step_cases stepped
  · exact Or.inl ⟨i, op, rfl, idle_of_isIdle idle, rfl⟩
  · exact Or.inr ⟨i, now, rfl, rfl⟩

end System

/-! ### What an access can do -/

/-- The accesses, one rule for each outcome. -/
inductive Access (env : TaskEnv) (ticket now : Nat) (s : Shared) :
    Phase → Shared → Phase → Prop where
  | idle : Access env ticket now s .idle s .idle
  | accept {desc : DestinationDesc} (routes : List Ipv4Cidr) {tunnelIp : Ipv4Addr}
      (allowed : s.peerAllowed desc.addressHash = true)
      (derived : deriveTunnelIp env.toVpnEnv s.network desc.addressHash = .ok tunnelIp) :
      Access env ticket now s (.announced desc routes) s (.finding desc routes tunnelIp)
  | refuse {desc : DestinationDesc} (routes : List Ipv4Cidr)
      (refused : s.peerAllowed desc.addressHash = true →
        ∃ err, deriveTunnelIp env.toVpnEnv s.network desc.addressHash = .error err) :
      Access env ticket now s (.announced desc routes) s .idle
  | find {desc : DestinationDesc} (routes : List Ipv4Cidr) (tunnelIp : Ipv4Addr) {peer : Nat}
      (known : s.registry.lookup desc.addressHash = some peer) :
      Access env ticket now s (.finding desc routes tunnelIp) s
        (.writing peer (announceWrites desc routes))
  | miss {desc : DestinationDesc} (routes : List Ipv4Cidr) (tunnelIp : Ipv4Addr)
      (absent : s.registry.lookup desc.addressHash = none) :
      Access env ticket now s (.finding desc routes tunnelIp) s (.creating desc routes tunnelIp)
  | join {desc : DestinationDesc} (routes : List Ipv4Cidr) (tunnelIp : Ipv4Addr) {peer : Nat}
      (known : s.registry.lookup desc.addressHash = some peer) :
      Access env ticket now s (.creating desc routes tunnelIp) s
        (.writing peer (announceWrites desc routes))
  | create {desc : DestinationDesc} (routes : List Ipv4Cidr) (tunnelIp : Ipv4Addr)
      (absent : s.registry.lookup desc.addressHash = none) :
      Access env ticket now s (.creating desc routes tunnelIp)
        (s.put (.new desc.addressHash tunnelIp .discovered))
        (.writing s.allocated (announceWrites desc routes))
  | hear {hash : AddressHash} (writes : List PeerWrite) {peer : Nat}
      (known : s.registry.lookup hash = some peer) :
      Access env ticket now s (.heard hash writes) s (.writing peer writes)
  | overhear {hash : AddressHash} (writes : List PeerWrite)
      (absent : s.registry.lookup hash = none) :
      Access env ticket now s (.heard hash writes) s (.rebuilding none)
  | note {hash : AddressHash} (err : Option String) {peer : Nat}
      (known : s.registry.lookup hash = some peer) :
      Access env ticket now s (.noting hash err) s (.marking peer err)
  | ignore {hash : AddressHash} (err : Option String) (absent : s.registry.lookup hash = none) :
      Access env ticket now s (.noting hash err) s .idle
  | mark (peer : Nat) (err : Option String) :
      Access env ticket now s (.marking peer err) (s.modify peer (Vpn.note now err)) .idle
  | renew (peer : Nat) (w : PeerWrite) (writes : List PeerWrite) :
      Access env ticket now s (.writing peer (w :: writes)) (s.modify peer (w.apply now))
        (.writing peer writes)
  | renewed (peer : Nat) : Access env ticket now s (.writing peer []) s (.rebuilding none)
  | change (policy : AccessPolicy) (todo : List AddressHash) :
      Access env ticket now s (.changing policy todo)
        { s with
          allowAllPeers := policy.allowAllPeers
          allowedPeers := policy.allowedPeers
          lastError := none }
        (.seeding policy todo)
  | pass {policy : AccessPolicy} {hash : AddressHash} (todo : List AddressHash)
      (known : hash = s.destination ∨ (s.registry.lookup hash).isSome) :
      Access env ticket now s (.seeding policy (hash :: todo)) s (.seeding policy todo)
  | seed {policy : AccessPolicy} {hash : AddressHash} {tunnelIp : Ipv4Addr}
      (todo : List AddressHash)
      (absent : ¬(hash = s.destination ∨ (s.registry.lookup hash).isSome))
      (derived : deriveTunnelIp env.toVpnEnv s.network hash = .ok tunnelIp) :
      Access env ticket now s (.seeding policy (hash :: todo)) s
        (.inserting policy hash tunnelIp todo)
  | fail {policy : AccessPolicy} {hash : AddressHash} (todo : List AddressHash)
      {err : VpnRuntimeError}
      (failed : deriveTunnelIp env.toVpnEnv s.network hash = .error err) :
      Access env ticket now s (.seeding policy (hash :: todo)) s .idle
  | insert (policy : AccessPolicy) (hash : AddressHash) (tunnelIp : Ipv4Addr)
      (todo : List AddressHash) :
      Access env ticket now s (.inserting policy hash tunnelIp todo)
        (s.put (.new hash tunnelIp .configured)) (.seeding policy todo)
  | seeded {policy : AccessPolicy} (closed : policy.allowAllPeers = false) :
      Access env ticket now s (.seeding policy []) s (.listing policy)
  | opened {policy : AccessPolicy} (all : policy.allowAllPeers = true) :
      Access env ticket now s (.seeding policy []) s (.rebuilding (some policy))
  | list (policy : AccessPolicy) :
      Access env ticket now s (.listing policy) s
        (.evicting policy ((s.peers env).map Peer.hash))
  | keep {policy : AccessPolicy} {hash : AddressHash} (todo : List AddressHash)
      (listed : hash = s.destination ∨ hash ∈ policy.allowedPeers) :
      Access env ticket now s (.evicting policy (hash :: todo)) s (.evicting policy todo)
  | evict {policy : AccessPolicy} {hash : AddressHash} (todo : List AddressHash)
      (unlisted : ¬(hash = s.destination ∨ hash ∈ policy.allowedPeers)) :
      Access env ticket now s (.evicting policy (hash :: todo))
        { s with registry := AList.erase hash s.registry } (.unlinking policy hash todo)
  | unlink (policy : AccessPolicy) (hash : AddressHash) (todo : List AddressHash) :
      Access env ticket now s (.unlinking policy hash todo)
        { s with outLinks := AList.erase hash s.outLinks } (.evicting policy todo)
  | evicted (policy : AccessPolicy) :
      Access env ticket now s (.evicting policy []) s (.rebuilding (some policy))
  | tick (tick : Nat) :
      Access env ticket now s (.ticking tick) s (.expiring tick false (s.all env))
  | live {tick : Nat} (routesChanged : Bool) {id : Nat} (todo : List Nat)
      (kept : (s.heap id).hash = s.destination ∨
        ¬((s.heap id).routeExpiresTs ≠ 0 ∧ (s.heap id).routeExpiresTs ≤ tick)) :
      Access env ticket now s (.expiring tick routesChanged (id :: todo)) s
        (.expiring tick routesChanged todo)
  | lapse {tick : Nat} (routesChanged : Bool) {id : Nat} (todo : List Nat)
      (remote : (s.heap id).hash ≠ s.destination)
      (late : (s.heap id).routeExpiresTs ≠ 0 ∧ (s.heap id).routeExpiresTs ≤ tick) :
      Access env ticket now s (.expiring tick routesChanged (id :: todo)) s
        (.inspecting tick routesChanged id todo)
  | empty (tick : Nat) (routesChanged : Bool) {id : Nat} (todo : List Nat)
      (none_ : (s.heap id).routes = []) :
      Access env ticket now s (.inspecting tick routesChanged id todo) s
        (.expiring tick routesChanged todo)
  | due (tick : Nat) (routesChanged : Bool) {id : Nat} (todo : List Nat)
      (some_ : (s.heap id).routes ≠ []) :
      Access env ticket now s (.inspecting tick routesChanged id todo) s (.clearing tick id todo)
  | clear (tick id : Nat) (todo : List Nat) :
      Access env ticket now s (.clearing tick id todo)
        (s.modify id fun peer => { peer with routes := [] }) (.expiring tick true todo)
  | expired (tick : Nat) : Access env ticket now s (.expiring tick true []) s (.rebuilding none)
  | unchanged (tick : Nat) : Access env ticket now s (.expiring tick false []) s .idle
  | begin (change : Option AccessPolicy) :
      Access env ticket now s (.rebuilding change) s
        (.reading { change, ticket, now, todo := s.all env })
  | skip {r : Rebuild} {id : Nat} {todo : List Nat} (next : r.todo = id :: todo)
      (unread : (s.heap id).hash = s.destination ∨
        ((s.heap id).routeExpiresTs ≠ 0 ∧ (s.heap id).routeExpiresTs ≤ r.now)) :
      Access env ticket now s (.reading r) s
        (.reading { r with building := r.add s (s.heap id), todo })
  | look {r : Rebuild} {id : Nat} {todo : List Nat} (next : r.todo = id :: todo)
      (read : ¬((s.heap id).hash = s.destination ∨
        ((s.heap id).routeExpiresTs ≠ 0 ∧ (s.heap id).routeExpiresTs ≤ r.now))) :
      Access env ticket now s (.reading r) s (.routing { r with todo } id (s.heap id).routeExpiresTs)
  | take (r : Rebuild) (id expires : Nat) :
      Access env ticket now s (.routing r id expires) s
        (.reading { r with building := r.add s { s.heap id with routeExpiresTs := expires } })
  | swap {r : Rebuild} (done : r.todo = []) :
      Access env ticket now s (.reading r) { s with router := r.building.finish env.claimed }
        (.syncing r.change)
  | sync (change : Option AccessPolicy) : Access env ticket now s (.syncing change) s .idle

theorem advance_access (env : TaskEnv) (ticket now : Nat) (s : Shared) (p : Phase) :
    Access env ticket now s p (s.advance env ticket now p).1 (s.advance env ticket now p).2 := by
  cases p with
  | idle => exact .idle
  | announced desc routes =>
    dsimp only [Shared.advance]
    split
    · rename_i allowed
      split
      · rename_i derived
        exact .accept routes allowed derived
      · rename_i failed
        exact .refuse routes fun _ => ⟨_, failed⟩
    · rename_i unlisted
      exact .refuse routes fun allowed => (unlisted allowed).elim
  | finding desc routes tunnelIp =>
    dsimp only [Shared.advance]
    split
    · rename_i known
      exact .find routes tunnelIp known
    · rename_i absent
      exact .miss routes tunnelIp absent
  | creating desc routes tunnelIp =>
    dsimp only [Shared.advance]
    split
    · rename_i known
      exact .join routes tunnelIp known
    · rename_i absent
      exact .create routes tunnelIp absent
  | heard hash writes =>
    dsimp only [Shared.advance]
    split
    · rename_i known
      exact .hear writes known
    · rename_i absent
      exact .overhear writes absent
  | noting hash err =>
    dsimp only [Shared.advance]
    split
    · rename_i known
      exact .note err known
    · rename_i absent
      exact .ignore err absent
  | marking peer err => exact .mark peer err
  | writing peer writes =>
    cases writes with
    | nil => exact .renewed peer
    | cons w writes => exact .renew peer w writes
  | changing policy todo => exact .change policy todo
  | seeding policy todo =>
    cases todo with
    | nil =>
      dsimp only [Shared.advance]
      split
      · rename_i all
        exact .opened all
      · rename_i closed
        exact .seeded (Bool.not_eq_true _ ▸ closed)
    | cons hash todo =>
      dsimp only [Shared.advance]
      split
      · rename_i known
        exact .pass todo known
      · rename_i absent
        split
        · rename_i derived
          exact .seed todo absent derived
        · rename_i failed
          exact .fail todo failed
  | inserting policy hash tunnelIp todo => exact .insert policy hash tunnelIp todo
  | listing policy => exact .list policy
  | evicting policy todo =>
    cases todo with
    | nil => exact .evicted policy
    | cons hash todo =>
      dsimp only [Shared.advance]
      split
      · rename_i listed
        exact .keep todo listed
      · rename_i unlisted
        exact .evict todo unlisted
  | unlinking policy hash todo => exact .unlink policy hash todo
  | ticking tick => exact .tick tick
  | expiring tick routesChanged todo =>
    cases todo with
    | nil =>
      cases routesChanged with
      | true => exact .expired tick
      | false => exact .unchanged tick
    | cons id todo =>
      dsimp only [Shared.advance]
      split
      · rename_i own
        exact .live routesChanged todo (Or.inl own)
      · rename_i remote
        split
        · rename_i late
          exact .lapse routesChanged todo remote late
        · rename_i early
          exact .live routesChanged todo (Or.inr early)
  | inspecting tick routesChanged id todo =>
    dsimp only [Shared.advance]
    split
    · rename_i some_
      exact .due tick routesChanged todo some_
    · rename_i none_
      exact .empty tick routesChanged todo (not_not.mp none_)
  | clearing tick id todo => exact .clear tick id todo
  | rebuilding change => exact .begin change
  | reading r =>
    dsimp only [Shared.advance]
    split
    · rename_i done
      exact .swap done
    · rename_i next
      split
      · rename_i unread
        exact .skip next unread
      · rename_i read
        exact .look next read
  | routing r id expires => exact .take r id expires
  | syncing change => exact .sync change

section Effects

variable {env : TaskEnv} {s s' : Shared} {ticket now : Nat} {p q : Phase}

/-- The accesses that write, by phase. -/
inductive Effect (env : TaskEnv) (s : Shared) : Phase → Shared → Prop where
  | read (p : Phase) : Effect env s p s
  | modify (p : Phase) (id : Nat) {f : Peer → Peer} (identity : ∀ peer, (f peer).hash = peer.hash) :
      Effect env s p (s.modify id f)
  | create {desc : DestinationDesc} (routes : List Ipv4Cidr) (tunnelIp : Ipv4Addr)
      (absent : s.registry.lookup desc.addressHash = none) :
      Effect env s (.creating desc routes tunnelIp)
        (s.put (.new desc.addressHash tunnelIp .discovered))
  | insert (policy : AccessPolicy) (hash : AddressHash) (tunnelIp : Ipv4Addr)
      (todo : List AddressHash) :
      Effect env s (.inserting policy hash tunnelIp todo) (s.put (.new hash tunnelIp .configured))
  | change (policy : AccessPolicy) (todo : List AddressHash) :
      Effect env s (.changing policy todo)
        { s with
          allowAllPeers := policy.allowAllPeers
          allowedPeers := policy.allowedPeers
          lastError := none }
  | evict {policy : AccessPolicy} {hash : AddressHash} (todo : List AddressHash)
      (unlisted : ¬(hash = s.destination ∨ hash ∈ policy.allowedPeers)) :
      Effect env s (.evicting policy (hash :: todo))
        { s with registry := AList.erase hash s.registry }
  | unlink (p : Phase) (outLinks : LinkRegistry) : Effect env s p { s with outLinks }
  | swap {r : Rebuild} (done : r.todo = []) :
      Effect env s (.reading r) { s with router := r.building.finish env.claimed }

theorem PeerWrite.apply_hash (w : PeerWrite) (peer : Peer) : (w.apply now peer).hash = peer.hash := by
  cases w <;> rfl

theorem note_hash (err : Option String) (peer : Peer) : (note now err peer).hash = peer.hash := by
  cases err <;> rfl

theorem Access.effect (access : Access env ticket now s p s' q) : Effect env s p s' := by
  cases access with
  | create routes tunnelIp absent => exact .create routes tunnelIp absent
  | mark peer err => exact .modify _ peer (note_hash err)
  | renew peer w => exact .modify _ peer w.apply_hash
  | clear tick peer =>
    exact .modify _ peer (f := fun peer => { peer with routes := [] }) fun _ => rfl
  | change policy todo => exact .change policy todo
  | insert policy hash tunnelIp todo => exact .insert policy hash tunnelIp todo
  | evict todo unlisted => exact .evict todo unlisted
  | unlink => exact .unlink _ _
  | swap done => exact .swap done
  | _ => exact .read _

/-- What stays: where the node is, and whose a peer is once it has been made. -/
structure Frame (s s' : Shared) : Prop where
  destination : s'.destination = s.destination
  network : s'.network = s.network
  localTunnelIp : s'.localTunnelIp = s.localTunnelIp
  allocated : s.allocated ≤ s'.allocated
  identity : ∀ id < s.allocated, (s'.heap id).hash = (s.heap id).hash

/-- Every registered peer exists and is filed under its own hash. -/
def Shared.Filed (s : Shared) : Prop :=
  ∀ hash id, s.registry.lookup hash = some id → id < s.allocated ∧ (s.heap id).hash = hash

theorem put_frame (s : Shared) (peer : Peer) : Frame s (s.put peer) := by
  refine ⟨rfl, rfl, rfl, Nat.le_succ _, ?_⟩
  intro id old
  dsimp only [Shared.put]
  rw [Function.update_of_ne (Nat.ne_of_lt old)]

theorem modify_identity (s : Shared) (id : Nat) {f : Peer → Peer}
    (identity : ∀ peer, (f peer).hash = peer.hash) (other : Nat) :
    ((s.modify id f).heap other).hash = (s.heap other).hash := by
  dsimp only [Shared.modify]
  by_cases same : other = id
  · rw [same, Function.update_self, identity]
  · rw [Function.update_of_ne same]

theorem Effect.frame (effect : Effect env s p s') : Frame s s' := by
  cases effect with
  | read | change | evict | unlink | swap =>
    exact ⟨rfl, rfl, rfl, Nat.le_refl _, fun _ _ => rfl⟩
  | modify _ id identity =>
    exact ⟨rfl, rfl, rfl, Nat.le_refl _, fun other _ => modify_identity s id identity other⟩
  | create | insert => exact put_frame s _

theorem put_filed (filed : s.Filed) (peer : Peer) : (s.put peer).Filed := by
  intro hash id found
  dsimp only [Shared.put] at found ⊢
  rw [HashMap.lookup_insert_eq] at found
  split at found
  · rename_i same
    obtain rfl := Option.some.inj found
    rw [Function.update_self]
    exact ⟨Nat.lt_succ_self _, same.symm⟩
  · obtain ⟨old, filed⟩ := filed hash id found
    rw [Function.update_of_ne (Nat.ne_of_lt old)]
    exact ⟨Nat.lt_succ_of_lt old, filed⟩

theorem Effect.filed (effect : Effect env s p s') (filed : s.Filed) : s'.Filed := by
  cases effect with
  | read | change | unlink | swap => exact filed
  | modify _ id identity =>
    intro hash other found
    obtain ⟨old, filed⟩ := filed hash other found
    exact ⟨old, (modify_identity s id identity other).trans filed⟩
  | create | insert => exact put_filed filed _
  | evict =>
    intro hash id found
    dsimp only at found
    rw [HashMap.lookup_erase_eq] at found
    split at found
    · cases found
    · exact filed hash id found

theorem mem_all {id : Nat} :
    id ∈ s.all env ↔ ∃ hash, s.registry.lookup hash = some id := by
  unfold Shared.all
  rw [List.mem_map]
  refine ⟨?_, ?_⟩
  · rintro ⟨⟨hash, _⟩, member, rfl⟩
    exact ⟨hash, env.arcs.mem_order.mp member⟩
  · rintro ⟨hash, found⟩
    exact ⟨(hash, id), env.arcs.mem_order.mpr found, rfl⟩

/-- What is behind the references that a rebuild goes through. -/
theorem Shared.Filed.listed (filed : s.Filed) {id : Nat} (member : id ∈ s.all env) :
    id < s.allocated ∧ s.registry.lookup (s.heap id).hash = some id := by
  obtain ⟨hash, found⟩ := mem_all.mp member
  obtain ⟨old, same⟩ := filed hash id found
  rw [same]
  exact ⟨old, found⟩

theorem deriveTunnelIp_valid (valid : validateNetwork env.toVpnEnv s.network = .ok ())
    (hash : AddressHash) :
    deriveTunnelIp env.toVpnEnv s.network hash = .ok (tunnelIp s.network hash) := by
  unfold deriveTunnelIp
  rw [valid]

/-- The hash that a phase is about to register a peer under. -/
def Phase.registers : Phase → Option AddressHash
  | .announced desc _ | .finding desc _ _ | .creating desc _ _ => some desc.addressHash
  | .inserting _ hash _ _ => some hash
  | _ => none

theorem put_absent {peer : Peer} {hash : AddressHash} (other : hash ≠ peer.hash)
    (absent : s.registry.lookup hash = none) : (s.put peer).registry.lookup hash = none := by
  dsimp only [Shared.put]
  rw [HashMap.lookup_insert_eq, if_neg other]
  exact absent

theorem Effect.remote (effect : Effect env s p s')
    (other : ∀ hash ∈ p.registers, hash ≠ s.destination)
    (remote : s.registry.lookup s.destination = none) :
    s'.registry.lookup s'.destination = none := by
  cases effect with
  | read | change | unlink | swap | modify => exact remote
  | create routes tunnelIp => exact put_absent (other _ rfl).symm remote
  | insert _ hash => exact put_absent (other hash rfl).symm remote
  | evict =>
    dsimp only
    rw [HashMap.lookup_erase_eq, remote, ite_self]

/-- Only the last access of a rebuild puts a table in place. -/
theorem Effect.router (effect : Effect env s p s') :
    s'.router = s.router ∨
      ∃ r, p = .reading r ∧ r.todo = [] ∧ s'.router = r.building.finish env.claimed := by
  cases effect with
  | read | modify | create | insert | change | evict | unlink => exact Or.inl rfl
  | swap done => exact Or.inr ⟨_, rfl, done, rfl⟩

/-- The rebuild that a task is in, and the references it has yet to look behind. -/
def Phase.rebuild : Phase → Option Rebuild
  | .reading r | .routing r _ _ => some r
  | _ => none

def Phase.ahead : Phase → List Nat
  | .reading r => r.todo
  | .routing r id _ => id :: r.todo
  | _ => []

/-- A rebuild begins, passes a peer over, looks at the expiry of one, or takes its routes. -/
inductive ReadStep (env : TaskEnv) (ticket now : Nat) (s : Shared) : Phase → Phase → Prop where
  | begin (change : Option AccessPolicy) :
      ReadStep env ticket now s (.rebuilding change)
        (.reading { change, ticket, now, todo := s.all env })
  | pass {r : Rebuild} {id : Nat} {todo : List Nat} (next : r.todo = id :: todo) :
      ReadStep env ticket now s (.reading r)
        (.reading { r with building := r.add s (s.heap id), todo })
  | look {r : Rebuild} {id : Nat} {todo : List Nat} (next : r.todo = id :: todo) :
      ReadStep env ticket now s (.reading r)
        (.routing { r with todo } id (s.heap id).routeExpiresTs)
  | take (r : Rebuild) (id expires : Nat) :
      ReadStep env ticket now s (.routing r id expires)
        (.reading { r with building := r.add s { s.heap id with routeExpiresTs := expires } })

theorem Access.reads (access : Access env ticket now s p s' q) (reads : q.rebuild.isSome) :
    ReadStep env ticket now s p q := by
  cases access with
  | begin change => exact .begin change
  | skip next => exact .pass next
  | look next => exact .look next
  | take r id expires => exact .take r id expires
  | _ => cases reads

/-- Where a call begins. -/
inductive Begun (s : Shared) : Phase → Prop where
  | idle : Begun s .idle
  | announced {desc : DestinationDesc} (routes : List Ipv4Cidr)
      (other : desc.addressHash ≠ s.destination) : Begun s (.announced desc routes)
  | heard (hash : AddressHash) (writes : List PeerWrite) : Begun s (.heard hash writes)
  | noting (hash : AddressHash) (err : Option String) : Begun s (.noting hash err)
  | changing (policy : AccessPolicy) (todo : List AddressHash) : Begun s (.changing policy todo)
  | ticking (tick : Nat) : Begun s (.ticking tick)

theorem Call.begun (env : TaskEnv) (s : Shared) (op : Call) : Begun s (op.begin env s) := by
  cases op with
  | announce desc routes =>
    dsimp only [Call.begin]
    split
    · exact .idle
    · rename_i other
      exact .announced routes other
  | ctrl hash data =>
    dsimp only [Call.begin]
    split
    · exact .heard hash _
    · exact .heard hash _
    · exact .noting hash none
    · exact .noting hash _
  | replacePeerPolicy allowAllPeers peers =>
    dsimp only [Call.begin]
    split
    · exact .changing _ _
    · exact .idle
  | watchdog tick => exact .ticking tick

theorem Begun.rebuild (begun : Begun s p) : p.rebuild = none := by
  cases begun <;> rfl

/-- What is known of the rebuilds in progress stays as it is when a task takes on a call. -/
theorem forall_rebuild_update {ι : Type} [DecidableEq ι] {phase : ι → Phase}
    {P : Phase → Rebuild → Prop} (known : ∀ j, ∀ r ∈ (phase j).rebuild, P (phase j) r) {i : ι}
    {p : Phase} (reads : p.rebuild = none) :
    ∀ j, ∀ r ∈ (Function.update phase i p j).rebuild, P (Function.update phase i p j) r := by
  refine (Function.forall_update_iff phase fun _ p => ∀ r ∈ p.rebuild, P p r).mpr
    ⟨?_, fun j _ => known j⟩
  rw [reads]
  exact fun _ none_ => (by cases none_)

theorem ReadStep.numbered (step : ReadStep env ticket now s p q) {r' : Rebuild}
    (member : r' ∈ q.rebuild) :
    (∃ change, p = .rebuilding change ∧ r'.ticket = ticket) ∨
      ∃ r ∈ p.rebuild, r'.ticket = r.ticket := by
  cases step with
  | begin change =>
    obtain rfl := Option.some.inj member
    exact Or.inl ⟨change, rfl, rfl⟩
  | pass | look | take =>
    obtain rfl := Option.some.inj member
    exact Or.inr ⟨_, rfl, rfl⟩

theorem ReadStep.ahead (step : ReadStep env ticket now s p q) {id : Nat}
    (member : id ∈ q.ahead) : id ∈ s.all env ∨ id ∈ p.ahead := by
  cases step with
  | begin => exact Or.inl member
  | @pass r _ _ next =>
    have ahead : Phase.ahead (.reading r) = _ := next
    rw [ahead]
    exact Or.inr (List.mem_cons_of_mem _ member)
  | @look r _ _ next =>
    have ahead : Phase.ahead (.reading r) = _ := next
    rw [ahead]
    exact Or.inr member
  | take r other => exact Or.inr (List.mem_cons_of_mem other member)

theorem ReadStep.allocated (step : ReadStep env ticket now s p q) (filed : s.Filed)
    (before : ∀ id ∈ p.ahead, id < s.allocated) : ∀ id ∈ q.ahead, id < s.allocated := by
  intro id member
  rcases step.ahead member with listed | ahead
  · exact (filed.listed listed).1
  · exact before id ahead

/-- A task never comes to register the node itself. -/
theorem Access.registers (access : Access env ticket now s p s' q) {hash : AddressHash}
    (registers : hash ∈ q.registers) : hash ∈ p.registers ∨ hash ≠ s.destination := by
  cases access with
  | accept | miss => exact Or.inl registers
  | seed todo absent =>
    obtain rfl := Option.some.inj registers
    exact Or.inr fun own => absent (Or.inl own)
  | _ => cases registers

end Effects

/-! ### What holds throughout -/

section Throughout

variable {ι : Type} {env : TaskEnv} {s : Logged ι}

structure Sound (env : TaskEnv) (s : Logged ι) : Prop where
  valid : validateNetwork env.toVpnEnv s.network = .ok ()
  filed : s.Filed
  remote : s.registry.lookup s.destination = none

/-- What a task relies on between its steps, whatever the others do. -/
structure Placed (s : Logged ι) (p : Phase) : Prop where
  others : ∀ hash ∈ p.registers, hash ≠ s.destination
  ticket : ∀ r ∈ p.rebuild, r.ticket ≤ s.begun
  ahead : ∀ id ∈ p.ahead, id < s.allocated

theorem Placed.mono {s' : Logged ι} {p : Phase} (placed : Placed s p)
    (frame : Frame s.toShared s'.toShared) (begun : s.begun ≤ s'.begun) : Placed s' p := by
  refine ⟨?_, ?_, ?_⟩
  · rw [frame.destination]
    exact placed.others
  · exact fun r member => Nat.le_trans (placed.ticket r member) begun
  · exact fun id member => Nat.lt_of_lt_of_le (placed.ahead id member) frame.allocated

theorem Placed.free {p : Phase} (others : ∀ hash ∈ p.registers, hash ≠ s.destination)
    (reads : p.rebuild = none) : Placed s p := by
  refine ⟨others, ?_, ?_⟩
  · rw [reads]
    exact fun r member => by cases member
  · intro id member
    cases p with
    | reading | routing => cases reads
    | _ => cases member

theorem Begun.placed {p : Phase} (begun : Begun s.toShared p) : Placed s p := by
  refine .free ?_ begun.rebuild
  cases begun with
  | announced routes other =>
    rintro _ ⟨⟩
    exact other
  | _ =>
    intro hash member
    cases member

variable [DecidableEq ι]

theorem tasks_access (env : TaskEnv) (i : ι) (now : Nat) (s : Logged ι) (p : Phase) :
    Access env (s.begun + 1) now s.toShared p ((tasks env).advance i now s p).1.toShared
      ((tasks env).advance i now s p).2 :=
  advance_access env (s.begun + 1) now s.toShared p

/-- What the step of a task did. -/
theorem TaskState.access (env : TaskEnv) (s : TaskState ι) (i : ι) (now : Nat) :
    Access env (s.shared.begun + 1) now s.shared.toShared (s.phase i)
      (s.after env i now).shared.toShared ((s.after env i now).phase i) := by
  rw [after_own]
  exact tasks_access env i now s.shared (s.phase i)

theorem log_begun (i : ι) (now : Nat) (p : Phase) : s.begun ≤ (s.log i now p).begun := by
  unfold Logged.log
  repeat' split
  all_goals first | exact Nat.le_succ _ | exact Nat.le_refl _

theorem Sound.advance (sound : Sound env s) (i : ι) (now : Nat) {p : Phase} (placed : Placed s p) :
    Sound env ((tasks env).advance i now s p).1 := by
  have effect := (tasks_access env i now s p).effect
  refine ⟨?_, effect.filed sound.filed, effect.remote placed.others sound.remote⟩
  have network : ((tasks env).advance i now s p).1.network = s.network := effect.frame.network
  rw [network]
  exact sound.valid

theorem Placed.advance (sound : Sound env s) (i : ι) (now : Nat) {p : Phase}
    (placed : Placed s p) :
    Placed ((tasks env).advance i now s p).1 ((tasks env).advance i now s p).2 := by
  have access := tasks_access env i now s p
  have frame := access.effect.frame
  have others : ∀ hash ∈ ((tasks env).advance i now s p).2.registers,
      hash ≠ ((tasks env).advance i now s p).1.destination := by
    intro hash member
    have destination : ((tasks env).advance i now s p).1.destination = s.destination :=
      frame.destination
    rw [destination]
    exact (access.registers member).elim (placed.others hash) id
  cases reads : ((tasks env).advance i now s p).2.rebuild with
  | none => exact .free others reads
  | some r =>
    have begun := log_begun (s := s) i now p
    have step := access.reads (Option.isSome_of_mem reads)
    refine ⟨others, ?_, ?_⟩
    · intro r member
      rcases step.numbered member with ⟨change, rfl, ticket⟩ | ⟨old, before, ticket⟩
      · exact Nat.le_of_eq ticket
      · rw [ticket]
        exact Nat.le_trans (placed.ticket old before) begun
    · intro id member
      exact Nat.lt_of_lt_of_le (step.allocated sound.filed placed.ahead id member) frame.allocated

theorem sound_outline (env : TaskEnv) :
    (tasks env).Outline (Sound env) fun (s : Logged ι) _ p => Placed s p where
  called s _ _ op _ _ _ := (op.begun env s.toShared).placed
  advanced _ i _ now _ sound placed := ⟨sound.advance i now placed, placed.advance sound i now⟩
  undisturbed _ i p now _ _ _ _ _ _ placed :=
    placed.mono (advance_access _ _ _ _ p).effect.frame (log_begun i now p)

end Throughout

/-! ### From a started runtime -/

theorem nodupKeys_mapIdx (entries : List (Σ _ : AddressHash, Peer)) (distinct : entries.NodupKeys) :
    (entries.mapIdx fun i e => (⟨e.1, i⟩ : Σ _ : AddressHash, Nat)).NodupKeys := by
  have keys : (entries.mapIdx fun i e => (⟨e.1, i⟩ : Σ _ : AddressHash, Nat)).keys =
      entries.keys := by
    refine List.ext_getElem (by simp [List.keys]) ?_
    intro i left right
    simp [List.keys]
  rw [List.NodupKeys, keys]
  exact distinct

/-- The peers of a runtime, each behind a reference of its own. -/
def Shared.ofRuntime (rt : VpnRuntime) : Shared where
  destination := rt.destination
  network := rt.network
  localTunnelIp := rt.localTunnelIp
  allowAllPeers := rt.allowAllPeers
  allowedPeers := rt.allowedPeers
  lastError := rt.lastError
  registry := ⟨rt.peers.entries.mapIdx fun i e => ⟨e.1, i⟩,
    nodupKeys_mapIdx rt.peers.entries rt.peers.nodupKeys⟩
  heap id := (rt.peers.entries[id]?.map Sigma.snd).getD
    (.new rt.destination rt.localTunnelIp .configured)
  allocated := rt.peers.entries.length
  outLinks := rt.outLinks
  router := rt.router

/-- All tasks idle on a runtime whose table is of the time `now`. -/
def startTasks (ι : Type) (rt : VpnRuntime) (now : Nat) :
    TaskSystem.State ι (Logged ι) Phase where
  shared := { Shared.ofRuntime rt with clocks := [now] }
  phase _ := .idle

section Start

variable {ι : Type} {env : TaskEnv} {rt : VpnRuntime}

theorem heap_ofRuntime {id : Nat} {e : Σ _ : AddressHash, Peer}
    (here : rt.peers.entries[id]? = some e) : (Shared.ofRuntime rt).heap id = e.2 := by
  dsimp only [Shared.ofRuntime]
  rw [here]
  rfl

theorem lookup_ofRuntime {hash : AddressHash} {id : Nat} :
    (Shared.ofRuntime rt).registry.lookup hash = some id ↔
      ∃ peer, rt.peers.entries[id]? = some ⟨hash, peer⟩ := by
  rw [← Option.mem_def, AList.mem_lookup_iff]
  dsimp only [Shared.ofRuntime]
  rw [List.mem_mapIdx]
  refine ⟨?_, ?_⟩
  · rintro ⟨i, bound, same⟩
    obtain ⟨rfl, rfl⟩ := Sigma.mk.inj same
    exact ⟨_, List.getElem?_eq_getElem bound⟩
  · rintro ⟨peer, here⟩
    obtain ⟨bound, same⟩ := List.getElem?_eq_some_iff.mp here
    exact ⟨id, bound, by rw [same]⟩

variable {boot : VpnRuntime.Boot} {config : VpnConfig} {host : Host} {after : VpnRuntime × Host}

theorem start_table
    (started : VpnRuntime.start env.toVpnEnv env.hex boot config host = .ok after) :
    validateNetwork env.toVpnEnv after.1.network = .ok () ∧
      after.1.router = RouteTable.build env.claimed (PeerRegistry.all env.registry after.1.peers)
        boot.now after.1.destination after.1.localTunnelIp := by
  obtain ⟨_, rt, _, derived, network, destination, _, rfl⟩ := VpnRuntime.start_built started
  obtain ⟨_, _, _, _, same⟩ := VpnRuntime.syncRoutes_frame env.toVpnEnv boot.platform
    (rt.rebuildRouter env.toVpnEnv boot.now) host
  rw [same]
  refine ⟨?_, rfl⟩
  have valid : rt.network = config.network := network
  dsimp only [VpnRuntime.rebuildRouter]
  rw [valid]
  unfold deriveTunnelIp at derived
  split at derived
  · cases derived
  · rename_i ok
    exact ok

theorem startTasks_sound
    (started : VpnRuntime.start env.toVpnEnv env.hex boot config host = .ok after) (now : Nat) :
    TaskSystem.Asserted (Sound env) (fun (s : Logged ι) _ p => Placed s p)
      (startTasks ι after.1 now) := by
  have backed := (VpnRuntime.Tracked.start started).backed
  refine ⟨⟨(start_table started).1, ?_, ?_⟩, fun i => .free (fun _ member => by cases member) rfl⟩
  · intro hash id found
    obtain ⟨peer, here⟩ := lookup_ofRuntime.mp found
    obtain ⟨bound, same⟩ := List.getElem?_eq_some_iff.mp here
    refine ⟨bound, ?_⟩
    have filed : after.1.peers.get hash = some peer := by
      rw [PeerRegistry.get, ← Option.mem_def, AList.mem_lookup_iff, ← same]
      exact List.getElem_mem bound
    exact (congrArg Peer.hash (heap_ofRuntime here)).trans (backed.created.filed hash peer filed)
  · cases found : (Shared.ofRuntime after.1).registry.lookup after.1.destination with
    | none => exact found
    | some id =>
      obtain ⟨peer, here⟩ := lookup_ofRuntime.mp found
      have listed : after.1.peers.get after.1.destination = some peer := by
        rw [PeerRegistry.get, ← Option.mem_def, AList.mem_lookup_iff]
        exact List.mem_of_getElem? here
      rw [backed.remote] at listed
      cases listed

end Start

/-! ### A start without configuration -/

def plainTasks : TaskEnv :=
  { SyncCall.plainEnv with
    hex := AddressHash.hexCodec
    ctrlBody _ := .error "unexpected end of input" }

def steps {ι : Type} (i : ι) (n now : Nat) : List (TaskEvent ι) := List.replicate n (.step i now)

end Kaonic.Vpn
