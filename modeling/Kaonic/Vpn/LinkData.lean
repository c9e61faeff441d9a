import Kaonic.Vpn.Codec
import Kaonic.Vpn.KernelSync

/-!
# Frames from links

`handle_link_data` takes what arrives on a link: control frames go to the peer's record, packets to
the TUN if their sender is known.
-/

namespace Kaonic.Vpn
open Net

def routeGraceSecs : Nat := 45

inductive IpAddr where
  | v4 (ip : Ipv4Addr)
  | v6 (ip : BitVec 128)
  deriving DecidableEq

/-- What the runtime reads off frames with other crates: the addresses of an IP packet and the
body of a control frame. -/
structure FrameReader where
  ipSlice : List UInt8 → Option (IpAddr × IpAddr)
  ctrlBody : List UInt8 → Except String Ctrl

def FrameReader.packetSource (reader : FrameReader) (packet : List UInt8) : Option Ipv4Addr :=
  match reader.ipSlice packet with
  | some (.v4 ip, _) => some ip
  | some (.v6 _, _) | none => none

namespace VpnRuntime

/-- The registered peer behind a hash, named by the hash. -/
def registered (rt : VpnRuntime) (hash : AddressHash) : Option AddressHash :=
  if (rt.peers.get hash).isSome then some hash else none

/-- The peer that a packet is credited to: the sender the link names, or else the registered
owner of the source address. -/
def credited (reader : FrameReader) (rt : VpnRuntime) (senderHint : Option AddressHash)
    (data : List UInt8) : Option AddressHash :=
  (senderHint.bind rt.registered).or
    (((reader.packetSource data).bind rt.router.resolve).bind rt.registered)

/-- The branch of `handle_link_data` for control frames. -/
def handleCtrl (env : VpnEnv) (reader : FrameReader) (platform : Platform) (now : Nat)
    (hash : AddressHash) (data : List UInt8) (rt : VpnRuntime) (host : Host) : VpnRuntime × Host :=
  match decodeCtrl reader.ctrlBody data with
  | .ok (.hello routes) | .ok (.routes routes) =>
    let cidrs := routes.filterMap fun s => s.toCidr.toOption
    let rt := rt.updatePeer hash fun peer =>
      { peer with lastSeenTs := now, routeExpiresTs := now + routeGraceSecs, routes := cidrs }
    (rt.rebuildRouter env now).syncRoutes env platform host
  | .ok .ping => (rt.updatePeer hash fun peer => { peer with lastSeenTs := now }, host)
  | .error err => (rt.recordPeerError hash err.display, host)

/-- `handle_link_data`. `tunSend` is what the TUN answers to the frame. -/
def handleLinkData (env : VpnEnv) (reader : FrameReader) (platform : Platform)
    (tunSend : Except String Unit) (now : Nat) (senderHint : Option AddressHash)
    (data : List UInt8) (rt : VpnRuntime) (host : Host) : VpnRuntime × Host :=
  if isCtrl data then
    match senderHint with
    | none => (rt, host)
    | some hash => handleCtrl env reader platform now hash data rt host
  else
    let credited := rt.credited reader senderHint data
    if credited.isNone && (senderHint.isSome || !rt.allowAllPeers) then (rt.recordDrop, host)
    else
      let host := { host with frames := host.frames ++ [data] }
      match tunSend with
      | .ok _ =>
        let rt := { rt with metrics := rt.metrics.recordRx data.length now }
        match credited with
        | some hash => (rt.updatePeer hash fun peer =>
            { peer with metrics := peer.metrics.recordRx data.length now, lastSeenTs := now }, host)
        | none => (rt, host)
      | .error err => (rt.setError ("vpn tun send: " ++ err), host)

/-! ### The gate -/

section Gate

variable {env : VpnEnv} {reader : FrameReader} {platform : Platform} {tunSend : Except String Unit}
  {now : Nat} {senderHint : Option AddressHash} {data : List UInt8} {rt : VpnRuntime} {host : Host}

def SourceKnown (reader : FrameReader) (rt : VpnRuntime) (data : List UInt8) : Prop :=
  ∃ src owner, reader.packetSource data = some src ∧ rt.router.resolve src = some owner ∧
    (rt.peers.get owner).isSome

/-- The link names a registered peer, or names none and the policy or the source address stands
for the frame. -/
def Admitted (reader : FrameReader) (rt : VpnRuntime) (senderHint : Option AddressHash)
    (data : List UInt8) : Prop :=
  match senderHint with
  | some hash => (rt.peers.get hash).isSome
  | none => rt.allowAllPeers = true ∨ SourceKnown reader rt data

theorem registered_eq_some {hash owner : AddressHash} :
    rt.registered hash = some owner ↔ hash = owner ∧ (rt.peers.get hash).isSome := by
  unfold registered
  split <;> rename_i found
  · simp [found]
  · simp [found]

theorem sourceKnown_iff : SourceKnown reader rt data ↔
    (((reader.packetSource data).bind rt.router.resolve).bind rt.registered).isSome := by
  unfold SourceKnown
  rw [Option.isSome_iff_exists]
  simp only [Option.bind_eq_some_iff, registered_eq_some]
  refine ⟨?_, ?_⟩
  · intro ⟨src, owner, read, resolved, known⟩
    exact ⟨owner, owner, ⟨src, read, resolved⟩, rfl, known⟩
  · intro ⟨_, owner, ⟨src, read, resolved⟩, _, known⟩
    exact ⟨src, owner, read, resolved, known⟩

/-- A packet goes to the TUN if someone is credited, or nobody has to be. -/
theorem handleLinkData_frames (packet : isCtrl data = false) :
    (rt.handleLinkData env reader platform tunSend now senderHint data host).2.frames =
      if (rt.credited reader senderHint data).isSome ∨
          (senderHint = none ∧ rt.allowAllPeers = true) then host.frames ++ [data]
      else host.frames := by
  have plain : ¬ isCtrl data = true := by simp [packet]
  unfold handleLinkData
  rw [if_neg plain]
  dsimp only
  split
  · rename_i dropped
    rw [if_neg]
    intro admitted
    rcases admitted with someone | ⟨rfl, open_⟩
    · simp [Option.isSome_iff_ne_none.mp someone] at dropped
    · simp [open_] at dropped
  · rename_i kept
    rw [if_pos]
    · cases tunSend with
      | error err => rfl
      | ok _ => cases rt.credited reader senderHint data <;> rfl
    · by_contra out
      obtain ⟨nobody, closed⟩ := not_or.mp out
      apply kept
      rw [Bool.not_eq_true, Option.isSome_eq_false_iff] at nobody
      cases senderHint with
      | some hash => simp [nobody]
      | none =>
        have policy : rt.allowAllPeers = false := by simpa using closed
        simp [nobody, policy]

theorem handleLinkData_peers (packet : isCtrl data = false) {other : AddressHash}
    (uncredited : rt.credited reader senderHint data ≠ some other) :
    (rt.handleLinkData env reader platform tunSend now senderHint data host).1.peers.get other =
      rt.peers.get other := by
  have plain : ¬ isCtrl data = true := by simp [packet]
  unfold handleLinkData
  rw [if_neg plain]
  dsimp only
  split
  · rfl
  · cases tunSend with
    | error err => rfl
    | ok _ =>
      cases owner : rt.credited reader senderHint data with
      | none => rfl
      | some hash =>
        have apart : other ≠ hash := by
          intro same
          rw [owner, same] at uncredited
          exact uncredited rfl
        dsimp only
        rw [get_updatePeer, if_neg apart]

theorem credited_hint {hash : AddressHash} (known : (rt.peers.get hash).isSome) :
    rt.credited reader (some hash) data = some hash := by
  have found : rt.registered hash = some hash := registered_eq_some.mpr ⟨rfl, known⟩
  simp [credited, found]

theorem credited_fallback {hash : AddressHash} (unknown : rt.peers.get hash = none) :
    rt.credited reader (some hash) data =
      ((reader.packetSource data).bind rt.router.resolve).bind rt.registered := by
  have missing : rt.registered hash = none := by simp [registered, unknown]
  simp [credited, missing]

/-- Only the peer that a link names is credited, unless it is not registered and the source address
leads to one that is. -/
theorem credited_of_hint {hash other : AddressHash}
    (clean : ¬(rt.peers.get hash = none ∧ SourceKnown reader rt data))
    (owner : rt.credited reader (some hash) data = some other) :
    other = hash ∧ (rt.peers.get hash).isSome := by
  by_cases known : (rt.peers.get hash).isSome
  · rw [credited_hint known] at owner
    exact ⟨(Option.some.inj owner).symm, known⟩
  · have unknown : rt.peers.get hash = none := by simpa using known
    rw [credited_fallback unknown] at owner
    exact (clean ⟨unknown, sourceKnown_iff.mpr (by rw [owner]; rfl)⟩).elim

/-- The gate keeps unknown senders out, and credits nobody else, unless the link names a peer that
is not registered and the source address leads to one that is. -/
theorem handleLinkData_gate_iff (packet : isCtrl data = false) :
    (((rt.handleLinkData env reader platform tunSend now senderHint data host).2.frames =
        host.frames ++ [data] → Admitted reader rt senderHint data) ∧
      ∀ hash, senderHint = some hash → ∀ other ≠ hash,
        (rt.handleLinkData env reader platform tunSend now senderHint data host).1.peers.get other =
          rt.peers.get other) ↔
    ¬ ∃ hash, senderHint = some hash ∧ rt.peers.get hash = none ∧ SourceKnown reader rt data := by
  rw [handleLinkData_frames packet]
  refine ⟨?_, ?_⟩
  · intro ⟨gate, _⟩ ⟨hash, hint, unknown, source⟩
    subst hint
    have forwarded : (rt.credited reader (some hash) data).isSome := by
      rw [credited_fallback unknown]
      exact sourceKnown_iff.mp source
    rw [if_pos (Or.inl forwarded)] at gate
    have registered := gate rfl
    simp [Admitted, unknown] at registered
  · intro clean
    refine ⟨?_, ?_⟩
    · intro written
      have admitted : (rt.credited reader senderHint data).isSome ∨
          (senderHint = none ∧ rt.allowAllPeers = true) := by
        by_contra out
        rw [if_neg out] at written
        simp at written
      cases senderHint with
      | none =>
        rcases admitted with someone | ⟨_, open_⟩
        · exact Or.inr (sourceKnown_iff.mpr (by simpa [credited] using someone))
        · exact Or.inl open_
      | some hash =>
        rcases admitted with someone | ⟨none, _⟩
        · obtain ⟨other, owner⟩ := Option.isSome_iff_exists.mp someone
          exact (credited_of_hint (fun unknown => clean ⟨hash, rfl, unknown⟩) owner).2
        · cases none
    · intro hash hint other apart
      subst hint
      apply handleLinkData_peers packet
      intro owner
      exact apart (credited_of_hint (fun unknown => clean ⟨hash, rfl, unknown⟩) owner).1

end Gate

/-! ### A removed sender -/

/-- Reads the addresses where an IPv4 header has them. -/
def headerReader : FrameReader where
  ipSlice packet :=
    match packet.drop 12 with
    | a :: b :: c :: d :: e :: f :: g :: h :: _ => some (.v4 (.new a b c d), .v4 (.new e f g h))
    | _ => none
  ctrlBody _ := .error "invalid type"

def knownPeer : Peer := .new (.repeated 7) (.new 10 20 0 7) .active

/-- The policy lets in one peer, and the router knows its tunnel address. -/
def restrictedRuntime : VpnRuntime :=
  { SyncCall.attachedRuntime with
    allowAllPeers := false
    allowedPeers := {.repeated 7}
    peers := AList.insert (.repeated 7) knownPeer ∅
    router := { tunnelIps := AList.insert (.new 10 20 0 7) (.repeated 7) ∅ } }

def spoofed : List UInt8 :=
  [0x45, 0, 0, 20, 0, 0, 0, 0, 64, 17, 0, 0, 10, 20, 0, 7, 192, 168, 1, 2]

/-- The packet of the known peer itself passes the gate, and touches nobody else. -/
theorem handleLinkData_gate_known :
    ((restrictedRuntime.handleLinkData SyncCall.plainEnv headerReader SyncCall.working (.ok ()) 100
        (some (.repeated 7)) spoofed {}).2.frames = [] ++ [spoofed] →
      Admitted headerReader restrictedRuntime (some (.repeated 7)) spoofed) ∧
    ∀ hash, some (.repeated 7) = some hash → ∀ other ≠ hash,
      (restrictedRuntime.handleLinkData SyncCall.plainEnv headerReader SyncCall.working (.ok ()) 100
        (some (.repeated 7)) spoofed {}).1.peers.get other = restrictedRuntime.peers.get other := by
  refine (handleLinkData_gate_iff rfl).mpr ?_
  intro ⟨hash, hint, unknown, _⟩
  obtain rfl := Option.some.inj hint
  revert unknown
  decide

/-- The same packet on the link of a peer that is not registered is forwarded, and the known peer
gets the credit. -/
theorem handleLinkData_spoofed :
    let after := restrictedRuntime.handleLinkData SyncCall.plainEnv headerReader SyncCall.working
      (.ok ()) 100 (some (.repeated 9)) spoofed {}
    restrictedRuntime.peers.get (.repeated 9) = none ∧ after.2.frames = [spoofed] ∧
      ¬ Admitted headerReader restrictedRuntime (some (.repeated 9)) spoofed ∧
      (after.1.peers.get (.repeated 7)).map (·.metrics.rxPackets) = some 1 := by
  have unknown : restrictedRuntime.peers.get (.repeated 9) = none := by decide
  refine ⟨unknown, by decide, ?_, by decide⟩
  intro admitted
  simp [Admitted, unknown] at admitted

end VpnRuntime

end Kaonic.Vpn
