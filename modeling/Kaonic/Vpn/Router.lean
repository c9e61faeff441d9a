import Kaonic.Vpn.Peer

/-!
# Routing table

`build` threads three maps over the peers; `resolve` looks an address up in the result.
`resolve_build` says which owner comes out in terms of the peers alone.
-/

namespace Kaonic.Vpn
open Net

structure RouteTable where
  tunnelIps : HashMap Ipv4Addr AddressHash := ∅
  subnets : List (Ipv4Cidr × AddressHash) := []

namespace RouteTable

/-- The locals of `RouteTable::build`. -/
structure Building where
  tunnelIps : HashMap Ipv4Addr AddressHash := ∅
  claimed : HashMap Ipv4Cidr AddressHash := ∅
  conflicts : Finset Ipv4Cidr := ∅

def claimRoute (localTunnelIp : Ipv4Addr) (owner : AddressHash) (b : Building) (route : Ipv4Cidr) :
    Building :=
  if route.contains localTunnelIp then { b with conflicts := insert route b.conflicts }
  else
    match b.claimed.lookup route with
    | some existing =>
      if existing ≠ owner then { b with conflicts := insert route b.conflicts } else b
    | none => { b with claimed := b.claimed.insert route owner }

def addPeer (now : Nat) (localHash : AddressHash) (localTunnelIp : Ipv4Addr) (b : Building)
    (peer : Peer) : Building :=
  if peer.hash = localHash then b
  else
    let b := { b with tunnelIps := b.tunnelIps.insert peer.tunnelIp peer.hash }
    if peer.routeExpiresTs ≠ 0 ∧ peer.routeExpiresTs ≤ now then b
    else peer.routes.foldl (claimRoute localTunnelIp peer.hash) b

/-- The table from the maps once all peers are in them. -/
def Building.finish (it : HashMap.IterOrder Ipv4Cidr AddressHash) (b : Building) : RouteTable where
  tunnelIps := b.tunnelIps
  subnets := ((it.order b.claimed).filter fun e => decide (e.1 ∉ b.conflicts)).insertionSort
    fun x y => y.1.networkLength ≤ x.1.networkLength

def build (it : HashMap.IterOrder Ipv4Cidr AddressHash) (peers : List Peer) (now : Nat)
    (localHash : AddressHash) (localTunnelIp : Ipv4Addr) : RouteTable :=
  (peers.foldl (addPeer now localHash localTunnelIp) {}).finish it

def resolve (table : RouteTable) (ip : Ipv4Addr) : Option AddressHash :=
  match table.tunnelIps.lookup ip with
  | some hash => some hash
  | none => (table.subnets.find? fun e => e.1.contains ip).map Prod.snd

end RouteTable

/-! ### What the table is for -/

section
variable (peers : List Peer) (now : Nat) (localHash : AddressHash) (localTunnelIp : Ipv4Addr)

def Announcing (p : Peer) : Prop :=
  p.hash ≠ localHash ∧ (p.routeExpiresTs = 0 ∨ now < p.routeExpiresTs)

/-- Exactly one announcing peer, `owner`, advertises `route`, which leaves the node's own
tunnel address out. -/
structure Eligible (route : Ipv4Cidr) (owner : AddressHash) : Prop where
  sole : ∃ p ∈ peers, p.hash = owner ∧
    ∀ q ∈ peers, Announcing now localHash q ∧ route ∈ q.routes ↔ q = p
  foreign : route.contains localTunnelIp = false

def TunnelOwner (ip : Ipv4Addr) (owner : AddressHash) : Prop :=
  ∃ p ∈ peers, p.hash ≠ localHash ∧ p.tunnelIp = ip ∧ p.hash = owner

/-- The owner of `ip`: the peer with that tunnel address, else the longest eligible subnet's. -/
def ForwardsTo (ip : Ipv4Addr) (owner : AddressHash) : Prop :=
  TunnelOwner peers localHash ip owner ∨
    (∀ p ∈ peers, p.hash ≠ localHash → p.tunnelIp ≠ ip) ∧
    ∃ route, Eligible peers now localHash localTunnelIp route owner ∧ route.contains ip = true ∧
      ∀ other o, Eligible peers now localHash localTunnelIp other o → other.contains ip = true →
        other.networkLength ≤ route.networkLength

end

section

variable {peers others : List Peer} {now : Nat} {localHash : AddressHash}
  {localTunnelIp : Ipv4Addr}

theorem eligible_congr (same : ∀ p, p ∈ peers ↔ p ∈ others) (route : Ipv4Cidr)
    (owner : AddressHash) : Eligible peers now localHash localTunnelIp route owner ↔
      Eligible others now localHash localTunnelIp route owner := by
  refine ⟨?_, ?_⟩
  · intro ⟨sole, foreign⟩
    exact ⟨by simpa only [same] using sole, foreign⟩
  · intro ⟨sole, foreign⟩
    exact ⟨by simpa only [same] using sole, foreign⟩

/-- Who owns an address does not depend on the order of the peers. -/
theorem forwardsTo_congr (same : ∀ p, p ∈ peers ↔ p ∈ others) (ip : Ipv4Addr)
    (owner : AddressHash) : ForwardsTo peers now localHash localTunnelIp ip owner ↔
      ForwardsTo others now localHash localTunnelIp ip owner := by
  simp only [ForwardsTo, TunnelOwner, same, eligible_congr same]

end

namespace RouteTable

/-! ### The build loop -/

section
variable {now : Nat} {localHash : AddressHash} {localTunnelIp : Ipv4Addr}

def peerClaims (now : Nat) (localHash : AddressHash) (p : Peer) : Set (AddressHash × Ipv4Cidr) :=
  {c | Announcing now localHash p ∧ c.1 = p.hash ∧ c.2 ∈ p.routes}

/-- What `claimed` and `conflicts` say about the claims `S` seen so far. -/
structure Tracks (localTunnelIp : Ipv4Addr) (S : Set (AddressHash × Ipv4Cidr)) (b : Building) :
    Prop where
  owned : ∀ r o, b.claimed.lookup r = some o → (o, r) ∈ S ∧ r.contains localTunnelIp = false
  covered : ∀ r o, (o, r) ∈ S → r.contains localTunnelIp = false →
    ∃ first, b.claimed.lookup r = some first ∧ (o = first ∨ r ∈ b.conflicts)
  disputed : ∀ r ∈ b.conflicts, r.contains localTunnelIp = true ∨
    ∃ o o', o ≠ o' ∧ (o, r) ∈ S ∧ (o', r) ∈ S

theorem tracks_empty : Tracks localTunnelIp ∅ {} := ⟨by simp, by simp, by simp⟩

theorem Tracks.disputed_insert {S : Set (AddressHash × Ipv4Cidr)} {b : Building}
    {c : AddressHash × Ipv4Cidr} (h : Tracks localTunnelIp S b) {r : Ipv4Cidr}
    (member : r ∈ b.conflicts) : r.contains localTunnelIp = true ∨
      ∃ o o', o ≠ o' ∧ (o, r) ∈ insert c S ∧ (o', r) ∈ insert c S := by
  refine (h.disputed r member).imp_right ?_
  rintro ⟨o, o', different, left, right⟩
  exact ⟨o, o', different, Set.mem_insert_of_mem _ left, Set.mem_insert_of_mem _ right⟩

theorem Tracks.owned_insert {S : Set (AddressHash × Ipv4Cidr)} {b : Building}
    {c : AddressHash × Ipv4Cidr} (h : Tracks localTunnelIp S b) {r : Ipv4Cidr} {o : AddressHash}
    (read : b.claimed.lookup r = some o) :
    (o, r) ∈ insert c S ∧ r.contains localTunnelIp = false :=
  (h.owned r o read).imp_left (Set.mem_insert_of_mem _)

theorem Tracks.covered_insert {S : Set (AddressHash × Ipv4Cidr)} {b : Building} {owner : AddressHash}
    {route : Ipv4Cidr} (h : Tracks localTunnelIp S b)
    (cover : route.contains localTunnelIp = false →
      ∃ first, b.claimed.lookup route = some first ∧ (owner = first ∨ route ∈ b.conflicts)) :
    Tracks localTunnelIp (insert (owner, route) S) b := by
  refine ⟨?_, ?_, ?_⟩
  · exact fun r o read => h.owned_insert read
  · intro r o member foreign
    rcases member with same | member
    · obtain ⟨rfl, rfl⟩ := Prod.mk.inj same
      exact cover foreign
    · exact h.covered r o member foreign
  · exact fun r member => h.disputed_insert member

theorem Tracks.contest {S : Set (AddressHash × Ipv4Cidr)} {b : Building} {owner : AddressHash}
    {route : Ipv4Cidr} (h : Tracks localTunnelIp S b)
    (why : route.contains localTunnelIp = true ∨
      ∃ existing, b.claimed.lookup route = some existing ∧ existing ≠ owner) :
    Tracks localTunnelIp (insert (owner, route) S)
      { b with conflicts := insert route b.conflicts } := by
  refine ⟨?_, ?_, ?_⟩
  · exact fun r o read => h.owned_insert read
  · intro r o member foreign
    rcases member with same | member
    · obtain ⟨rfl, rfl⟩ := Prod.mk.inj same
      rcases why with own | ⟨existing, read, _⟩
      · rw [own] at foreign
        cases foreign
      · exact ⟨existing, read, Or.inr (Finset.mem_insert_self _ _)⟩
    · obtain ⟨first, read, cover⟩ := h.covered r o member foreign
      exact ⟨first, read, cover.imp_right fun m => Finset.mem_insert_of_mem m⟩
  · intro r member
    rcases Finset.mem_insert.mp member with rfl | member
    · refine why.imp_right ?_
      rintro ⟨existing, read, different⟩
      exact ⟨existing, owner, different, Set.mem_insert_of_mem _ (h.owned _ _ read).1,
        Set.mem_insert _ _⟩
    · exact h.disputed_insert member

theorem Tracks.claim {S : Set (AddressHash × Ipv4Cidr)} {b : Building} {owner : AddressHash}
    {route : Ipv4Cidr} (h : Tracks localTunnelIp S b) (foreign : route.contains localTunnelIp = false)
    (absent : b.claimed.lookup route = none) :
    Tracks localTunnelIp (insert (owner, route) S)
      { b with claimed := b.claimed.insert route owner } := by
  refine ⟨?_, ?_, ?_⟩
  · intro r o read
    rw [HashMap.lookup_insert_eq] at read
    split at read
    · rename_i same
      obtain rfl := Option.some.inj read
      rw [same]
      exact ⟨Set.mem_insert _ _, foreign⟩
    · exact h.owned_insert read
  · intro r o member apart
    by_cases same : r = route
    · refine ⟨owner, by rw [HashMap.lookup_insert_eq, if_pos same], Or.inl ?_⟩
      rcases member with new | member
      · exact (Prod.mk.inj new).1
      · obtain ⟨first, read, _⟩ := h.covered r o member apart
        rw [same, absent] at read
        cases read
    · rcases member with new | member
      · exact (same (Prod.mk.inj new).2).elim
      · obtain ⟨first, read, cover⟩ := h.covered r o member apart
        exact ⟨first, by rw [HashMap.lookup_insert_eq, if_neg same]; exact read, cover⟩
  · exact fun r member => h.disputed_insert member

theorem claimRoute_tracks {S : Set (AddressHash × Ipv4Cidr)} {b : Building} {owner : AddressHash}
    {route : Ipv4Cidr} (h : Tracks localTunnelIp S b) :
    Tracks localTunnelIp (insert (owner, route) S) (claimRoute localTunnelIp owner b route) := by
  unfold claimRoute
  split
  · rename_i own
    exact h.contest (Or.inl own)
  · rename_i foreign
    rw [Bool.not_eq_true] at foreign
    split
    · rename_i existing read
      split
      · rename_i different
        exact h.contest (Or.inr ⟨existing, read, different⟩)
      · rename_i same
        rw [ne_eq, not_not] at same
        exact h.covered_insert fun _ => ⟨existing, read, Or.inl same.symm⟩
    · rename_i absent
      exact h.claim foreign absent

theorem claimRoute_tunnelIps (b : Building) (owner : AddressHash) (route : Ipv4Cidr) :
    (claimRoute localTunnelIp owner b route).tunnelIps = b.tunnelIps := by
  unfold claimRoute
  repeat' split
  all_goals rfl

theorem claimRoutes_tunnelIps (routes : List Ipv4Cidr) (b : Building) (owner : AddressHash) :
    (routes.foldl (claimRoute localTunnelIp owner) b).tunnelIps = b.tunnelIps := by
  induction routes generalizing b with
  | nil => rfl
  | cons route rest ih => rw [List.foldl_cons, ih, claimRoute_tunnelIps]

theorem claimRoutes_tracks (routes : List Ipv4Cidr) {S : Set (AddressHash × Ipv4Cidr)}
    {b : Building} {owner : AddressHash} (h : Tracks localTunnelIp S b) :
    Tracks localTunnelIp ({c | c.1 = owner ∧ c.2 ∈ routes} ∪ S)
      (routes.foldl (claimRoute localTunnelIp owner) b) := by
  induction routes generalizing S b with
  | nil => simpa using h
  | cons route rest ih =>
    have step := ih (@claimRoute_tracks localTunnelIp _ _ owner route h)
    have same : {c | c.1 = owner ∧ c.2 ∈ route :: rest} ∪ S =
        {c | c.1 = owner ∧ c.2 ∈ rest} ∪ insert (owner, route) S := by
      ext ⟨o, r⟩
      simp only [Set.mem_union, Set.mem_ofPred_eq, List.mem_cons, Set.mem_insert_iff,
        Prod.mk.injEq]
      tauto
    rw [same]
    exact step

theorem addPeer_tracks {S : Set (AddressHash × Ipv4Cidr)} {b : Building} {peer : Peer}
    (h : Tracks localTunnelIp S b) :
    Tracks localTunnelIp (peerClaims now localHash peer ∪ S)
      (addPeer now localHash localTunnelIp b peer) := by
  have quiet : ¬ Announcing now localHash peer → peerClaims now localHash peer ∪ S = S := by
    intro silent
    ext c
    simp [peerClaims, silent]
  unfold addPeer
  split
  · rename_i own
    rw [quiet fun announcing => announcing.1 own]
    exact h
  · rename_i remote
    dsimp only
    split
    · rename_i expired
      rw [quiet fun announcing => by have := announcing.2; omega]
      exact ⟨h.owned, h.covered, h.disputed⟩
    · rename_i live
      have announcing : Announcing now localHash peer := ⟨remote, by omega⟩
      have same : peerClaims now localHash peer ∪ S =
          {c | c.1 = peer.hash ∧ c.2 ∈ peer.routes} ∪ S := by
        ext c
        simp [peerClaims, announcing]
      rw [same]
      exact claimRoutes_tracks _ ⟨h.owned, h.covered, h.disputed⟩

theorem addPeers_tracks (peers : List Peer) {S : Set (AddressHash × Ipv4Cidr)} {b : Building}
    (h : Tracks localTunnelIp S b) :
    Tracks localTunnelIp ({c | ∃ p ∈ peers, c ∈ peerClaims now localHash p} ∪ S)
      (peers.foldl (addPeer now localHash localTunnelIp) b) := by
  induction peers generalizing S b with
  | nil => simpa using h
  | cons p rest ih =>
    have step := ih (@addPeer_tracks now localHash localTunnelIp _ _ p h)
    have same : {c | ∃ q ∈ p :: rest, c ∈ peerClaims now localHash q} ∪ S =
        {c | ∃ q ∈ rest, c ∈ peerClaims now localHash q} ∪ (peerClaims now localHash p ∪ S) := by
      ext c
      simp only [Set.mem_union, Set.mem_ofPred_eq, List.mem_cons, exists_eq_or_imp]
      rw [or_comm (a := c ∈ peerClaims now localHash p), or_assoc]
    rw [same]
    exact step

theorem claimed_iff {peers : List Peer} (distinct : (peers.map Peer.hash).Nodup) (r : Ipv4Cidr)
    (o : AddressHash) :
    let b := peers.foldl (addPeer now localHash localTunnelIp) {}
    (b.claimed.lookup r = some o ∧ r ∉ b.conflicts) ↔
      Eligible peers now localHash localTunnelIp r o := by
  intro b
  have tracks : Tracks localTunnelIp _ b := addPeers_tracks peers tracks_empty
  simp only [Set.union_empty] at tracks
  refine ⟨?_, ?_⟩
  · intro ⟨read, calm⟩
    obtain ⟨⟨p, member, announcing, owner, route⟩, foreign⟩ := tracks.owned r o read
    refine ⟨⟨p, member, owner.symm, ?_⟩, foreign⟩
    intro q present
    refine ⟨?_, fun same => same ▸ ⟨announcing, route⟩⟩
    intro ⟨announced, advertised⟩
    obtain ⟨first, again, cover⟩ := tracks.covered r q.hash
      ⟨q, present, announced, rfl, advertised⟩ foreign
    rw [read] at again
    have hash : q.hash = p.hash :=
      ((cover.resolve_right calm).trans (Option.some.inj again).symm).trans owner
    exact List.inj_on_of_nodup_map distinct present member hash
  · intro ⟨⟨p, member, owner, sole⟩, foreign⟩
    have claims : ∀ o', (o', r) ∈ {c | ∃ q ∈ peers, c ∈ peerClaims now localHash q} → o' = o := by
      intro o' ⟨q, present, announced, hash, advertised⟩
      obtain rfl := (sole q present).mp ⟨announced, advertised⟩
      exact hash.trans owner
    obtain ⟨announcing, route⟩ := (sole p member).mpr rfl
    obtain ⟨first, read, _⟩ := tracks.covered r o ⟨p, member, announcing, owner.symm, route⟩
      foreign
    have known : first = o := claims first (tracks.owned r first read).1
    refine ⟨by rw [read, known], ?_⟩
    intro conflict
    rcases tracks.disputed r conflict with own | ⟨o₁, o₂, different, left, right⟩
    · rw [foreign] at own
      cases own
    · exact different ((claims o₁ left).trans (claims o₂ right).symm)

theorem mem_subnets_iff (it : HashMap.IterOrder Ipv4Cidr AddressHash) {peers : List Peer}
    (distinct : (peers.map Peer.hash).Nodup) (r : Ipv4Cidr) (o : AddressHash) :
    (r, o) ∈ (build it peers now localHash localTunnelIp).subnets ↔
      Eligible peers now localHash localTunnelIp r o := by
  simp only [build, Building.finish, List.mem_insertionSort, List.mem_filter, it.mem_order, decide_eq_true_eq]
  exact claimed_iff distinct r o

theorem subnets_sorted (it : HashMap.IterOrder Ipv4Cidr AddressHash) (peers : List Peer) :
    (build it peers now localHash localTunnelIp).subnets.Pairwise
      fun x y => y.1.networkLength ≤ x.1.networkLength := by
  have total : Std.Total fun x y : Ipv4Cidr × AddressHash => y.1.networkLength ≤ x.1.networkLength :=
    ⟨fun x y => Nat.le_total y.1.networkLength x.1.networkLength⟩
  have trans : IsTrans (Ipv4Cidr × AddressHash) fun x y => y.1.networkLength ≤ x.1.networkLength :=
    ⟨fun _ _ _ xy yz => Nat.le_trans yz xy⟩
  exact List.pairwise_insertionSort _ _

theorem addPeer_tunnelIps (b : Building) (p : Peer) (ip : Ipv4Addr) :
    (addPeer now localHash localTunnelIp b p).tunnelIps.lookup ip =
      if p.hash ≠ localHash ∧ p.tunnelIp = ip then some p.hash else b.tunnelIps.lookup ip := by
  unfold addPeer
  split
  · rename_i own
    simp [own]
  · rename_i remote
    have lookup : (b.tunnelIps.insert p.tunnelIp p.hash).lookup ip =
        if p.hash ≠ localHash ∧ p.tunnelIp = ip then some p.hash else b.tunnelIps.lookup ip := by
      rw [HashMap.lookup_insert_eq]
      simp [remote, eq_comm]
    dsimp only
    split
    · exact lookup
    · rw [claimRoutes_tunnelIps]
      exact lookup

theorem addPeers_tunnelIps {peers : List Peer} {b : Building} {ip : Ipv4Addr} {o : AddressHash}
    (distinct : (peers.map Peer.tunnelIp).Nodup) :
    (peers.foldl (addPeer now localHash localTunnelIp) b).tunnelIps.lookup ip = some o ↔
      TunnelOwner peers localHash ip o ∨
        (∀ p ∈ peers, p.hash ≠ localHash → p.tunnelIp ≠ ip) ∧ b.tunnelIps.lookup ip = some o := by
  induction peers generalizing b with
  | nil => simp [TunnelOwner]
  | cons p rest ih =>
    obtain ⟨fresh, distinct⟩ := List.nodup_cons.mp distinct
    rw [List.foldl_cons, ih distinct, addPeer_tunnelIps]
    simp only [TunnelOwner, List.mem_cons, exists_eq_or_imp, forall_eq_or_imp]
    by_cases mine : p.hash ≠ localHash ∧ p.tunnelIp = ip
    · obtain ⟨remote, here⟩ := mine
      have alone : ∀ q ∈ rest, q.hash ≠ localHash → q.tunnelIp ≠ ip := by
        intro q member _ same
        exact fresh (List.mem_map.mpr ⟨q, member, same.trans here.symm⟩)
      have none_left : ¬ ∃ q ∈ rest, q.hash ≠ localHash ∧ q.tunnelIp = ip ∧ q.hash = o :=
        fun ⟨q, member, distant, same, _⟩ => alone q member distant same
      simp only [remote, here, none_left, ne_eq, not_true_eq_false, not_false_eq_true, true_and,
        and_true, if_true, Option.some.injEq, false_or, or_false, forall_const, false_and]
      exact and_iff_right alone
    · rw [if_neg mine]
      have away : p.hash ≠ localHash → p.tunnelIp ≠ ip := fun remote here => mine ⟨remote, here⟩
      have not_head : ¬ (p.hash ≠ localHash ∧ p.tunnelIp = ip ∧ p.hash = o) :=
        fun ⟨remote, here, _⟩ => away remote here
      simp only [not_head, false_or, and_iff_right away]

theorem tunnelIps_build {it : HashMap.IterOrder Ipv4Cidr AddressHash} {peers : List Peer}
    {ip : Ipv4Addr} {o : AddressHash} (distinct : (peers.map Peer.tunnelIp).Nodup) :
    (build it peers now localHash localTunnelIp).tunnelIps.lookup ip = some o ↔
      TunnelOwner peers localHash ip o := by
  have fold := @addPeers_tunnelIps now localHash localTunnelIp peers {} ip o distinct
  simpa [build, Building.finish] using fold

/-! ### Lookup -/

theorem find?_subnets {it : HashMap.IterOrder Ipv4Cidr AddressHash} {peers : List Peer}
    {ip : Ipv4Addr} {o : AddressHash} (distinct : (peers.map Peer.hash).Nodup) :
    ((build it peers now localHash localTunnelIp).subnets.find? fun e => e.1.contains ip).map
        Prod.snd = some o ↔
      ∃ route, Eligible peers now localHash localTunnelIp route o ∧ route.contains ip = true ∧
        ∀ other p, Eligible peers now localHash localTunnelIp other p → other.contains ip = true →
          other.networkLength ≤ route.networkLength := by
  have sorted := @subnets_sorted now localHash localTunnelIp it peers
  have members := @mem_subnets_iff now localHash localTunnelIp it peers distinct
  generalize (build it peers now localHash localTunnelIp).subnets = subnets at sorted members
  let hits : Ipv4Cidr × AddressHash → Bool := fun e => e.1.contains ip
  refine ⟨?_, ?_⟩
  · intro found
    obtain ⟨⟨route, owner⟩, hit, rfl⟩ := Option.map_eq_some_iff.mp found
    have greatest := Block.find?_greatest sorted hit
    have holds : route.contains ip = true := List.find?_some (p := hits) hit
    exact ⟨route, (members _ _).mp (List.mem_of_find?_eq_some hit), holds,
      fun other p eligible holds => greatest (other, p) ((members _ _).mpr eligible) holds⟩
  · intro ⟨route, eligible, holds, longest⟩
    have present := (members _ _).mpr eligible
    cases hit : subnets.find? fun e => e.1.contains ip with
    | none =>
      have missed := List.find?_eq_none.mp hit (route, o) present
      exact (missed holds).elim
    | some e =>
      obtain ⟨r, p⟩ := e
      have greatest := Block.find?_greatest sorted hit
        (route, o) present holds
      have found := (members r p).mp (List.mem_of_find?_eq_some hit)
      have inside : r.contains ip = true := List.find?_some (p := hits) hit
      -- Equal lengths leave one network around `ip`, and an eligible network has one owner.
      have same : r = route :=
        Ipv4Cidr.eq_of_contains (Nat.le_antisymm (longest r p found inside) greatest) inside holds
      obtain ⟨q, member, owner, sole⟩ := found.sole
      obtain ⟨q', member', owner', sole'⟩ := eligible.sole
      rw [same] at sole
      have one : q = q' := (sole' q member).mp ((sole q member).mpr rfl)
      simp only [Option.map_some, Option.some.injEq]
      rw [← owner, ← owner', one]

/-- The table forwards an address to the peer that owns it and to no other. -/
theorem resolve_build (it : HashMap.IterOrder Ipv4Cidr AddressHash) (peers : List Peer)
    (now : Nat) (localHash : AddressHash) (localTunnelIp : Ipv4Addr) (ip : Ipv4Addr)
    (owner : AddressHash) (distinctHashes : (peers.map Peer.hash).Nodup)
    (distinctIps : (peers.map Peer.tunnelIp).Nodup) :
    (build it peers now localHash localTunnelIp).resolve ip = some owner ↔
      ForwardsTo peers now localHash localTunnelIp ip owner := by
  have tunnel : ∀ o, (build it peers now localHash localTunnelIp).tunnelIps.lookup ip = some o ↔
      TunnelOwner peers localHash ip o := fun o => tunnelIps_build distinctIps
  have subnet := @find?_subnets now localHash localTunnelIp it peers ip owner distinctHashes
  unfold resolve ForwardsTo
  cases direct : (build it peers now localHash localTunnelIp).tunnelIps.lookup ip with
  | some hash =>
    have known := (tunnel hash).mp direct
    dsimp only
    refine ⟨?_, ?_⟩
    · intro same
      obtain rfl := Option.some.inj same
      exact Or.inl known
    · intro forwards
      rcases forwards with owned | ⟨nobody, _⟩
      · exact direct.symm.trans ((tunnel owner).mpr owned)
      · obtain ⟨p, member, remote, here, _⟩ := known
        exact (nobody p member remote here).elim
  | none =>
    have unowned : ∀ o, ¬ TunnelOwner peers localHash ip o := by
      intro o owned
      have read := (tunnel o).mpr owned
      rw [direct] at read
      cases read
    have nobody : ∀ p ∈ peers, p.hash ≠ localHash → p.tunnelIp ≠ ip :=
      fun p member remote here => unowned p.hash ⟨p, member, remote, here, rfl⟩
    dsimp only
    rw [subnet]
    exact ⟨fun found => Or.inr ⟨nobody, found⟩,
      fun forwards => (forwards.resolve_left (unowned owner)).2⟩

end

/-! ### Who owns anything at all -/

section

variable {H : Set AddressHash} {now : Nat} {localHash : AddressHash} {localTunnelIp : Ipv4Addr}

/-- Only peers of the set own something. -/
structure Building.Within (H : Set AddressHash) (b : Building) : Prop where
  tunnelIps : ∀ ip hash, b.tunnelIps.lookup ip = some hash → hash ∈ H
  claimed : ∀ route hash, b.claimed.lookup route = some hash → hash ∈ H

structure Within (H : Set AddressHash) (table : RouteTable) : Prop where
  tunnelIps : ∀ ip hash, table.tunnelIps.lookup ip = some hash → hash ∈ H
  subnets : ∀ e ∈ table.subnets, e.2 ∈ H

theorem claimRoute_within {b : Building} (within : b.Within H) {owner : AddressHash}
    (member : owner ∈ H) (route : Ipv4Cidr) : (claimRoute localTunnelIp owner b route).Within H := by
  refine ⟨?_, ?_⟩
  · rw [claimRoute_tunnelIps]
    exact within.tunnelIps
  · unfold claimRoute
    split
    · exact within.claimed
    · split
      · split <;> exact within.claimed
      · intro other hash found
        dsimp only at found
        rw [HashMap.lookup_insert_eq] at found
        split at found
        · obtain rfl := Option.some.inj found
          exact member
        · exact within.claimed other hash found

theorem addPeer_within {b : Building} (within : b.Within H) {peer : Peer} (member : peer.hash ∈ H) :
    (addPeer now localHash localTunnelIp b peer).Within H := by
  unfold addPeer
  split
  · exact within
  · have added : Building.Within H
        { b with tunnelIps := b.tunnelIps.insert peer.tunnelIp peer.hash } := by
      refine ⟨?_, within.claimed⟩
      intro ip hash found
      dsimp only at found
      rw [HashMap.lookup_insert_eq] at found
      split at found
      · obtain rfl := Option.some.inj found
        exact member
      · exact within.tunnelIps ip hash found
    dsimp only
    split
    · exact added
    · exact List.foldlRecOn peer.routes _ added fun _ within route _ =>
        claimRoute_within within member route

theorem finish_within (it : HashMap.IterOrder Ipv4Cidr AddressHash) {b : Building}
    (within : b.Within H) : (b.finish it).Within H := by
  refine ⟨within.tunnelIps, ?_⟩
  intro e member
  have kept := (List.mem_insertionSort _).mp member
  have listed := it.mem_order.mp (List.mem_of_mem_filter kept)
  exact within.claimed e.1 e.2 listed

theorem resolve_within {table : RouteTable} (within : table.Within H) {ip : Ipv4Addr}
    {hash : AddressHash} (resolved : table.resolve ip = some hash) : hash ∈ H := by
  unfold resolve at resolved
  split at resolved
  · rename_i owner direct
    obtain rfl := Option.some.inj resolved
    exact within.tunnelIps ip owner direct
  · obtain ⟨e, found, rfl⟩ := Option.map_eq_some_iff.mp resolved
    exact within.subnets e (List.mem_of_find?_eq_some found)

end

/-! ### Two peers, one subnet inside the other -/

/-- Peers `0x11` and `0x22` behind `172.16.0.0/16` and `172.16.5.0/24`. -/
def nestedPeers : List Peer :=
  [{ hash := .repeated 0x11, tunnelIp := .new 10 20 0 10, linkState := .active,
     routes := [.net16 172 16] },
   { hash := .repeated 0x22, tunnelIp := .new 10 20 0 11, linkState := .active,
     routes := [.net24 172 16 5] }]

theorem resolve_build_nested :
    (build .entries nestedPeers 0 (.repeated 0) (.new 192 168 200 1)).resolve (.new 172 16 5 42) =
        some (.repeated 0x22) ↔
      ForwardsTo nestedPeers 0 (.repeated 0) (.new 192 168 200 1) (.new 172 16 5 42)
        (.repeated 0x22) :=
  resolve_build _ _ _ _ _ _ _ (by decide) (by decide)

example : (build .entries nestedPeers 0 (.repeated 0) (.new 192 168 200 1)).resolve
    (.new 172 16 5 42) = some (.repeated 0x22) := by decide

end RouteTable

end Kaonic.Vpn
