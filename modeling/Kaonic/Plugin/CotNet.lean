import Kaonic.Plugin.Bridge

/-!
# Nodes that bridge the same channels

The plugin nodes of one Reticulum network, beside the ATAK applications of their LANs and beside
hosts of other kinds. What a node sends may arrive at any time, in any order, often or never, and
what it multicasts may be heard by other nodes on its LAN. Every channel of a node sees the link
events and announces of all channels.
-/

namespace Kaonic.Plugin

open Kaonic.Net (AddressHash)

/-! ### One lane -/

section

variable {ι : Type} {env : BridgeEnv ι} {source : PacketSource} {lane lane' : Lane}
  {payload : List UInt8}

def Lane.handled (lane : Lane) : List (List UInt8) := lane.attempted ++ lane.phase.pending

theorem acceptPayload_handled {data : List UInt8} {remotePeerHash : Option String}
    (member : payload ∈ (acceptPayload env data remotePeerHash lane).handled) :
    payload ∈ lane.handled ∨ data = payload ∧
      (env.valid payload = true ∨ env.allowUnvalidatedPayloads = true) := by
  have split : payload ∈ lane.attempted ∨
      payload ∈ (acceptPayload env data remotePeerHash lane).phase.pending := by
    rcases List.mem_append.mp member with before | held
    · left
      unfold acceptPayload at before
      split at before
      · split at before <;> exact before
      · exact before
    · exact Or.inr held
  rcases split with before | held
  · exact Or.inl (List.mem_append_left _ before)
  right
  unfold acceptPayload at held
  cases parsed : env.reader.parseCotPayload data with
  | ok event =>
    have valid : env.valid data = true := by rw [BridgeEnv.valid, parsed]; rfl
    rw [parsed] at held
    cases remotePeerHash with
    | none =>
      obtain rfl := List.mem_singleton.mp held
      exact ⟨rfl, Or.inl valid⟩
    | some peerHash =>
      obtain rfl := List.mem_singleton.mp held
      exact ⟨rfl, Or.inl valid⟩
  | error err =>
    rw [parsed] at held
    cases allowed : env.allowUnvalidatedPayloads with
    | true =>
      rw [allowed] at held
      obtain rfl := List.mem_singleton.mp held
      exact ⟨rfl, Or.inr rfl⟩
    | false =>
      rw [allowed] at held
      cases held

theorem advance_handled {n : ι} {updatedAt now : SystemTime} {sent : Bool} {stores stores' : Stores}
    (advanced : advance env n source updatedAt now sent lane stores = some (lane', stores')) :
    lane'.handled = lane.handled := by
  unfold advance at advanced
  unfold Lane.handled
  cases phase : lane.phase with
  | idle => rw [phase] at advanced; cases advanced
  | closing peer => rw [phase] at advanced; cases advanced
  | locating data event =>
    rw [phase] at advanced
    obtain ⟨rfl, rfl⟩ := Prod.mk.inj (Option.some.inj advanced)
    dsimp only
    split <;> rfl
  | forwarding data =>
    rw [phase] at advanced
    obtain ⟨rfl, rfl⟩ := Prod.mk.inj (Option.some.inj advanced)
    simp [Lane.attempted, Phase.pending]
  | diagnosing data event peerHash =>
    rw [phase] at advanced
    obtain ⟨rfl, rfl⟩ := Prod.mk.inj (Option.some.inj advanced)
    rfl
  | counting data =>
    rw [phase] at advanced
    obtain ⟨rfl, rfl⟩ := Prod.mk.inj (Option.some.inj advanced)
    rfl

/-- A lane hands on nothing but what it has taken in. -/
theorem LaneStep.handled {input : Option (List UInt8)} (step : LaneStep env source lane input lane')
    (member : payload ∈ lane'.handled) : payload ∈ lane.handled ∨ input = some payload ∧
      (env.valid payload = true ∨ env.allowUnvalidatedPayloads = true) := by
  cases step with
  | stay => exact Or.inl member
  | arrive idle data remotePeerHash =>
    rcases acceptPayload_handled member with before | ⟨rfl, accepted⟩
    · exact Or.inl before
    · exact Or.inr ⟨rfl, accepted⟩
  | advance outcome advanced => exact Or.inl (advance_handled advanced ▸ member)
  | close quiet free =>
    left
    unfold Lane.handled at member ⊢
    rw [quiet]
    rw [free] at member
    exact member

theorem delivered_handled (member : payload ∈ lane.delivered) : payload ∈ lane.handled := by
  obtain ⟨send, kept, rfl⟩ := List.mem_map.mp member
  exact List.mem_append_left _ (List.mem_map_of_mem (List.mem_of_mem_filter kept))

/-- A channel tracks only peers that have announced themselves with its tag, and not itself. -/
theorem Bridge.step_peers [DecidableEq ι] {s s' : Bridge ι} {e : BridgeEvent ι}
    (stepped : s.step env e = some s') {n : ι} {peer : AddressHash}
    (member : peer ∈ s'.peerHashes n) :
    peer ∈ s.peerHashes n ∨
      e = .announce n (portTag (env.port n)) peer ∧ peer ≠ env.destination n := by
  cases e with
  | udp m data =>
    unfold step at stepped
    dsimp only at stepped
    split at stepped
    · obtain rfl := Option.some.inj stepped
      exact Or.inl member
    · cases stepped
  | link m source event =>
    unfold step at stepped
    dsimp only at stepped
    split at stepped
    · split at stepped
      · obtain rfl := Option.some.inj stepped
        exact Or.inl member
      · cases event with
        | activated | closed | data | proof =>
          obtain rfl := Option.some.inj stepped
          exact Or.inl member
    · cases stepped
  | advance m source updatedAt now sent =>
    obtain ⟨⟨lane, stores⟩, _, rfl⟩ := Option.map_eq_some_iff.mp stepped
    exact Or.inl member
  | close m =>
    unfold step at stepped
    dsimp only at stepped
    split at stepped
    · obtain rfl := Option.some.inj stepped
      left
      by_cases same : n = m
      · subst same
        simp only [setPeers, Function.update_self] at member
        exact Finset.mem_of_mem_erase member
      · simpa [setPeers, setLane, same] using member
    · cases stepped
  | announce m appData announced =>
    unfold step at stepped
    dsimp only at stepped
    split at stepped
    · obtain rfl := Option.some.inj stepped
      exact Or.inl member
    · rename_i tagged
      split at stepped
      · obtain rfl := Option.some.inj stepped
        exact Or.inl member
      · rename_i other
        obtain rfl := Option.some.inj stepped
        by_cases same : n = m
        · subst same
          simp only [setPeers, Function.update_self] at member
          rcases Finset.mem_insert.mp member with rfl | before
          · exact Or.inr ⟨by rw [not_not.mp tagged], other⟩
          · exact Or.inl before
        · left
          simpa [setPeers, same] using member
  | diagnostics op =>
    obtain rfl := Option.some.inj stepped
    exact Or.inl member

end

theorem portTag_injective : Function.Injective portTag := by
  intro a b same
  obtain ⟨high, rest⟩ := List.cons.inj same
  obtain ⟨low, _⟩ := List.cons.inj rest
  have shifted : ∀ x : UInt16, (x >>> 8).toUInt8.toNat = x.toNat / 256 % 256 := by
    intro x
    rw [UInt16.toNat_toUInt8, UInt16.toNat_shiftRight, Nat.shiftRight_eq_div_pow]
    rfl
  have high := congrArg UInt8.toNat high
  have low := congrArg UInt8.toNat low
  rw [shifted, shifted] at high
  rw [UInt16.toNat_toUInt8, UInt16.toNat_toUInt8] at low
  have small_a := a.toNat_lt
  have small_b := b.toNat_lt
  apply UInt16.toNat.inj
  omega

theorem input_udp [DecidableEq ι] {s : Bridge ι} {c n : ι} {source : PacketSource}
    {data payload : List UInt8}
    (taken : (BridgeEvent.udp c data).input s n source = some payload) :
    c = n ∧ source = .localUdp ∧ data = payload := by
  dsimp only [BridgeEvent.input] at taken
  split at taken
  · rename_i here
    exact ⟨here.1, here.2, Option.some.inj taken⟩
  · cases taken

theorem input_link [DecidableEq ι] {s : Bridge ι} {c n : ι} {source : PacketSource}
    {peer : AddressHash} {event : LinkEvent} {payload : List UInt8}
    (taken : (BridgeEvent.link c peer event).input s n source = some payload) :
    c = n ∧ source = .remoteReticulum ∧ peer ∈ s.peerHashes n ∧ event = .data payload := by
  cases event with
  | data data =>
    dsimp only [BridgeEvent.input] at taken
    split at taken
    · rename_i here
      exact ⟨here.1, here.2.1, here.2.2, congrArg _ (Option.some.inj taken)⟩
    · cases taken
  | activated => cases taken
  | closed => cases taken
  | proof => cases taken

/-! ### The network -/

/-- Nodes with the same channels. Destinations are not shared: they are hashes of the identity of
their node and the name of their channel. -/
structure CotNet (ν ι : Type) where
  env : ν → BridgeEnv ι
  port : ι → UInt16
  same_port : ∀ k, (env k).port = port
  port_injective : Function.Injective port
  destination_injective : ∀ k n k' n', (env k).destination n = (env k').destination n' →
    k = k' ∧ n = n'

namespace CotNet

variable {ν ι : Type}

inductive Event (ν ι : Type) where
  /-- A datagram of an application on the LAN of a node. -/
  | datagram (m : ν) (n : ι) (data : List UInt8)
  /-- What node `k` has multicast. -/
  | overheard (m k : ν) (n : ι) (i : Nat)
  /-- What channel `n` of node `k` has sent to its in-links, at the task of channel `c`. -/
  | data (m : ν) (c : ι) (k : ν) (n : ι) (i : Nat)
  | activated (m : ν) (c : ι) (k : ν) (n : ι)
  | closed (m : ν) (c : ι) (k : ν) (n : ι)
  | announce (m : ν) (c : ι) (k : ν) (n : ι)
  -- of a host that is none of the nodes
  | foreignLink (m : ν) (c : ι) (peer : AddressHash) (event : LinkEvent)
  | foreignAnnounce (m : ν) (c : ι) (appData : List UInt8) (peer : AddressHash)
  -- accesses of the node's tasks
  | advance (m : ν) (n : ι) (source : PacketSource) (updatedAt now : SystemTime) (sent : Bool)
  | close (m : ν) (n : ι)
  | diagnostics (m : ν) (op : DiagnosticState.Op)

/-- The node that an event happens at, and what it sees. -/
def seen (net : CotNet ν ι) (s : ν → Bridge ι) : Event ν ι → Option (ν × BridgeEvent ι)
  | .datagram m n data => some (m, .udp n data)
  | .overheard m k n i =>
    ((s k).lane n .remoteReticulum).delivered[i]?.map fun data => (m, .udp n data)
  | .data m c k n i =>
    ((s k).lane n .localUdp).delivered[i]?.map fun data =>
      (m, .link c ((net.env k).destination n) (.data data))
  | .activated m c k n => some (m, .link c ((net.env k).destination n) .activated)
  | .closed m c k n => some (m, .link c ((net.env k).destination n) .closed)
  | .announce m c k n => some (m, .announce c (portTag (net.port n)) ((net.env k).destination n))
  | .foreignLink m c peer event => some (m, .link c peer event)
  | .foreignAnnounce m c appData peer => some (m, .announce c appData peer)
  | .advance m n source updatedAt now sent => some (m, .advance n source updatedAt now sent)
  | .close m n => some (m, .close n)
  | .diagnostics m op => some (m, .diagnostics op)

variable [DecidableEq ν] [DecidableEq ι]

def step (net : CotNet ν ι) (s : ν → Bridge ι) (e : Event ν ι) : Option (ν → Bridge ι) :=
  (net.seen s e).bind fun at_ =>
    ((s at_.1).step (net.env at_.1) at_.2).map (Function.update s at_.1)

def run (net : CotNet ν ι) (s : ν → Bridge ι) (events : List (Event ν ι)) :
    Option (ν → Bridge ι) := events.foldlM net.step s

def start (stores : ν → Stores) : ν → Bridge ι := fun m => Bridge.start (stores m)

/-- No host has the destination of a node that it is not. -/
def Event.Honest (net : CotNet ν ι) : Event ν ι → Prop
  | .foreignLink _ _ peer _ | .foreignAnnounce _ _ _ peer =>
    ∀ k n, (net.env k).destination n ≠ peer
  | _ => True

/-- How a payload gets into a lane: over hops from one node to another within the channel, of which
the first begins at an application, or at a host that has announced itself with the tag. -/
inductive Carried (net : CotNet ν ι) (events : List (Event ν ι)) (n : ι) (payload : List UInt8) :
    ν → PacketSource → Prop where
  | datagram {m : ν} (sent : .datagram m n payload ∈ events) : Carried net events n payload m .localUdp
  | overheard {m k : ν} {i : Nat} (heard : .overheard m k n i ∈ events)
      (carried : Carried net events n payload k .remoteReticulum) :
      Carried net events n payload m .localUdp
  | linked {m k : ν} {i : Nat} (arrived : .data m n k n i ∈ events) (other : k ≠ m)
      (carried : Carried net events n payload k .localUdp) :
      Carried net events n payload m .remoteReticulum
  | foreign {m : ν} {peer : AddressHash} (host : ∀ k c, (net.env k).destination c ≠ peer)
      (arrived : .foreignLink m n peer (.data payload) ∈ events)
      (announced : .foreignAnnounce m n (portTag (net.port n)) peer ∈ events) :
      Carried net events n payload m .remoteReticulum

/-- A payload that has come from applications, or a foreign host, over at most one hop. -/
def Direct (events : List (Event ν ι)) (n : ι) (payload : List UInt8) (m : ν) : PacketSource → Prop
  | .localUdp => .datagram m n payload ∈ events
  | .remoteReticulum => (∃ k, k ≠ m ∧ .datagram k n payload ∈ events) ∨
      ∃ peer, .foreignLink m n peer (.data payload) ∈ events

/-- The peers of a channel are that channel of other nodes, or hosts with its tag. -/
structure Sound (net : CotNet ν ι) (events : List (Event ν ι)) (s : ν → Bridge ι) : Prop where
  peers : ∀ m n peer, peer ∈ (s m).peerHashes n →
    (∃ k, k ≠ m ∧ peer = (net.env k).destination n) ∨
      (∀ k c, (net.env k).destination c ≠ peer) ∧
        .foreignAnnounce m n (portTag (net.port n)) peer ∈ events
  payloads : ∀ m n source payload, payload ∈ ((s m).lane n source).handled →
    net.Carried events n payload m source ∧
      ((net.env m).valid payload = true ∨ (net.env m).allowUnvalidatedPayloads = true)

section

omit [DecidableEq ν] [DecidableEq ι]
variable {net : CotNet ν ι} {events : List (Event ν ι)} {s : ν → Bridge ι}

theorem Carried.later {n : ι} {payload : List UInt8} {m : ν} {source : PacketSource}
    (carried : net.Carried events n payload m source) (more : List (Event ν ι)) :
    net.Carried (events ++ more) n payload m source := by
  induction carried with
  | datagram sent => exact .datagram (List.mem_append_left _ sent)
  | overheard heard _ ih => exact .overheard (List.mem_append_left _ heard) ih
  | linked arrived other _ ih => exact .linked (List.mem_append_left _ arrived) other ih
  | foreign host arrived announced =>
    exact .foreign host (List.mem_append_left _ arrived) (List.mem_append_left _ announced)

/-- Without overhearing what is handed on is at most one hop old. -/
theorem Carried.direct (apart : ∀ m k n i, .overheard m k n i ∉ events) {n : ι}
    {payload : List UInt8} {m : ν} {source : PacketSource}
    (carried : net.Carried events n payload m source) : Direct events n payload m source := by
  cases carried with
  | datagram sent => exact sent
  | overheard heard => exact (apart _ _ _ _ heard).elim
  | linked arrived other carried =>
    cases carried with
    | datagram sent => exact Or.inl ⟨_, other, sent⟩
    | overheard heard => exact (apart _ _ _ _ heard).elim
  | foreign host arrived announced => exact Or.inr ⟨_, arrived⟩

theorem Sound.start (stores : ν → Stores) : net.Sound [] (start stores) where
  peers := fun _ _ peer member => (Finset.notMem_empty peer member).elim
  payloads := fun _ _ _ _ member => (List.not_mem_nil member).elim

/-- A payload that a lane takes in has been carried there. -/
theorem Sound.input [DecidableEq ι] (sound : net.Sound events s) {e : Event ν ι}
    (honest : e.Honest net) {m : ν} {b : BridgeEvent ι} (at_ : net.seen s e = some (m, b)) {n : ι}
    {source : PacketSource} {payload : List UInt8} (taken : b.input (s m) n source = some payload) :
    net.Carried (events ++ [e]) n payload m source := by
  have last : e ∈ events ++ [e] := List.mem_append_right _ (List.mem_singleton_self _)
  cases e with
  | datagram k c data =>
    obtain ⟨rfl, rfl⟩ := Prod.mk.inj (Option.some.inj at_)
    obtain ⟨rfl, rfl, rfl⟩ := input_udp taken
    exact .datagram last
  | overheard m' k c i =>
    obtain ⟨data, sent, same⟩ := Option.map_eq_some_iff.mp at_
    obtain ⟨rfl, rfl⟩ := Prod.mk.inj same
    obtain ⟨rfl, rfl, rfl⟩ := input_udp taken
    have handled := delivered_handled (List.mem_of_getElem? sent)
    exact .overheard last ((sound.payloads k c .remoteReticulum data handled).1.later _)
  | data m' c k c' i =>
    obtain ⟨data, sent, same⟩ := Option.map_eq_some_iff.mp at_
    obtain ⟨rfl, rfl⟩ := Prod.mk.inj same
    obtain ⟨rfl, rfl, tracked, event⟩ := input_link taken
    obtain rfl := LinkEvent.data.inj event
    rcases sound.peers m' c _ tracked with ⟨k', other, here⟩ | ⟨foreign, _⟩
    · obtain ⟨rfl, rfl⟩ := net.destination_injective k c' k' c here
      have handled := delivered_handled (List.mem_of_getElem? sent)
      exact .linked last other ((sound.payloads k c' .localUdp data handled).1.later _)
    · exact (foreign k c' rfl).elim
  | foreignLink m' c peer event =>
    obtain ⟨rfl, rfl⟩ := Prod.mk.inj (Option.some.inj at_)
    obtain ⟨rfl, rfl, tracked, rfl⟩ := input_link taken
    rcases sound.peers m' c peer tracked with ⟨k, _, here⟩ | ⟨foreign, announced⟩
    · exact (honest k c here.symm).elim
    · exact .foreign foreign last (List.mem_append_left _ announced)
  | activated m' c k c' =>
    obtain ⟨rfl, rfl⟩ := Prod.mk.inj (Option.some.inj at_)
    cases taken
  | closed m' c k c' =>
    obtain ⟨rfl, rfl⟩ := Prod.mk.inj (Option.some.inj at_)
    cases taken
  | announce m' c k c' =>
    obtain ⟨rfl, rfl⟩ := Prod.mk.inj (Option.some.inj at_)
    cases taken
  | foreignAnnounce m' c appData peer =>
    obtain ⟨rfl, rfl⟩ := Prod.mk.inj (Option.some.inj at_)
    cases taken
  | advance m' c source updatedAt now sent =>
    obtain ⟨rfl, rfl⟩ := Prod.mk.inj (Option.some.inj at_)
    cases taken
  | close m' c =>
    obtain ⟨rfl, rfl⟩ := Prod.mk.inj (Option.some.inj at_)
    cases taken
  | diagnostics m' op =>
    obtain ⟨rfl, rfl⟩ := Prod.mk.inj (Option.some.inj at_)
    cases taken

/-- A peer that a channel begins to track is that channel of a node, or a host with its tag. -/
theorem seen_announce {e : Event ν ι} (honest : e.Honest net) {m : ν} {n : ι} {peer : AddressHash}
    (at_ : net.seen s e = some (m, .announce n (portTag (net.port n)) peer)) :
    (∃ k, peer = (net.env k).destination n) ∨
      (∀ k c, (net.env k).destination c ≠ peer) ∧
        e = .foreignAnnounce m n (portTag (net.port n)) peer := by
  cases e with
  | announce m' c k c' =>
    obtain ⟨rfl, same⟩ := Prod.mk.inj (Option.some.inj at_)
    obtain ⟨rfl, tags, rfl⟩ := BridgeEvent.announce.inj same
    obtain rfl := net.port_injective (portTag_injective tags)
    exact Or.inl ⟨k, rfl⟩
  | foreignAnnounce m' c appData peer' =>
    obtain ⟨rfl, same⟩ := Prod.mk.inj (Option.some.inj at_)
    obtain ⟨rfl, rfl, rfl⟩ := BridgeEvent.announce.inj same
    exact Or.inr ⟨honest, rfl⟩
  | overheard m' k c i =>
    obtain ⟨data, _, same⟩ := Option.map_eq_some_iff.mp at_
    cases (Prod.mk.inj same).2
  | data m' c k c' i =>
    obtain ⟨data, _, same⟩ := Option.map_eq_some_iff.mp at_
    cases (Prod.mk.inj same).2
  | datagram | activated | closed | foreignLink | advance | close | diagnostics =>
    cases (Prod.mk.inj (Option.some.inj at_)).2

end

section

variable {net : CotNet ν ι} {events : List (Event ν ι)} {s s' : ν → Bridge ι}

theorem Sound.step (sound : net.Sound events s) {e : Event ν ι} (honest : e.Honest net)
    (stepped : net.step s e = some s') : net.Sound (events ++ [e]) s' := by
  obtain ⟨⟨at_, b⟩, seen, moved⟩ := Option.bind_eq_some_iff.mp stepped
  obtain ⟨after, acted, rfl⟩ := Option.map_eq_some_iff.mp moved
  dsimp only at acted ⊢
  refine ⟨?_, ?_⟩
  · intro m n peer member
    have before : peer ∈ (s m).peerHashes n →
        (∃ k, k ≠ m ∧ peer = (net.env k).destination n) ∨
          (∀ k c, (net.env k).destination c ≠ peer) ∧
            .foreignAnnounce m n (portTag (net.port n)) peer ∈ events ++ [e] := by
      intro old
      rcases sound.peers m n peer old with node | ⟨foreign, announced⟩
      · exact Or.inl node
      · exact Or.inr ⟨foreign, List.mem_append_left _ announced⟩
    by_cases here : m = at_
    · subst here
      rw [Function.update_self] at member
      rcases Bridge.step_peers acted member with old | ⟨rfl, other⟩
      · exact before old
      · rw [net.same_port] at seen
        rcases seen_announce honest seen with ⟨k, rfl⟩ | ⟨foreign, rfl⟩
        · left
          refine ⟨k, ?_, rfl⟩
          rintro rfl
          exact other rfl
        · exact Or.inr ⟨foreign, List.mem_append_right _ (List.mem_singleton_self _)⟩
    · rw [Function.update_of_ne here] at member
      exact before member
  · intro m n source payload member
    have before : payload ∈ ((s m).lane n source).handled →
        net.Carried (events ++ [e]) n payload m source ∧
          ((net.env m).valid payload = true ∨ (net.env m).allowUnvalidatedPayloads = true) := by
      intro old
      obtain ⟨carried, accepted⟩ := sound.payloads m n source payload old
      exact ⟨carried.later _, accepted⟩
    by_cases here : m = at_
    · subst here
      rw [Function.update_self] at member
      rcases (Bridge.step_lane acted n source).handled member with old | ⟨taken, accepted⟩
      · exact before old
      · exact ⟨sound.input honest seen taken, accepted⟩
    · rw [Function.update_of_ne here] at member
      exact before member

theorem Sound.run (sound : net.Sound events s) {more : List (Event ν ι)}
    (honest : ∀ e ∈ more, e.Honest net) (ran : net.run s more = some s') :
    net.Sound (events ++ more) s' := by
  unfold CotNet.run at ran
  induction more generalizing s events with
  | nil =>
    obtain rfl := Option.some.inj ran
    rwa [List.append_nil]
  | cons e rest ih =>
    rw [List.foldlM_cons] at ran
    obtain ⟨mid, stepped, ran⟩ := Option.bind_eq_some_iff.mp ran
    have next := sound.step (honest e List.mem_cons_self) stepped
    have last := ih next (fun e member => honest e (List.mem_cons_of_mem _ member)) ran
    rwa [List.append_assoc] at last

end

def pairDestination (k n : Bool) : AddressHash :=
  .repeated ((if k then 1 else 2) + if n then 4 else 8)

theorem pairDestination_injective : ∀ k n k' n', pairDestination k n = pairDestination k' n' →
    k = k' ∧ n = n' := by decide

def pairPort (n : Bool) : UInt16 := if n then 6969 else 17012

theorem pairPort_injective : Function.Injective pairPort := by
  intro n n' same
  revert n n'
  decide

def pairNet : CotNet Bool Bool where
  env k :=
    { reader := sampleReader
      printHash _ := "/05050505050505050505050505050505/"
      order := .entries
      port := pairPort
      destination := pairDestination k
      allowUnvalidatedPayloads := false }
  port := pairPort
  same_port _ := rfl
  port_injective := pairPort_injective
  destination_injective := pairDestination_injective

def pairEvents : List (Event Bool Bool) :=
  [.announce false true true true, .announce false false true true,
    .datagram true true samplePayload,
    .advance true true .localUdp (.ofSecs 1) (.ofSecs 1) true,
    .advance true true .localUdp (.ofSecs 1) (.ofSecs 1) true,
    .data false false true true 0, .data false true true true 0,
    .advance false true .remoteReticulum (.ofSecs 2) (.ofSecs 2) true,
    .advance false true .remoteReticulum (.ofSecs 2) (.ofSecs 2) true,
    .advance false true .remoteReticulum (.ofSecs 2) (.ofSecs 2) true]

end CotNet

end Kaonic.Plugin
