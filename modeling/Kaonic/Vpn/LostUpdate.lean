import Kaonic.Vpn.Tasks

/-!
# Tables that are overwritten

A rebuild reads the registry, builds its table without a lock and puts it in place whatever has
been put there since. Once no task is in progress the table is that of the registry if the last
rebuild to put its table in place was the last to begin.
-/

namespace Kaonic.Vpn
open Net

/-- Whether a task has a rebuild to begin. -/
def Phase.owes : Phase → Bool
  | .finding .. | .creating .. | .heard .. | .writing .. | .changing .. | .seeding .. | .inserting ..
  | .listing _ | .evicting .. | .unlinking .. | .clearing .. | .rebuilding _ => true
  | .expiring _ routesChanged _ | .inspecting _ routesChanged _ _ => routesChanged
  | .idle | .announced .. | .noting .. | .marking .. | .ticking _ | .reading _ | .routing ..
  | .syncing _ => false

/-- The rebuild whose table the next access puts in place. -/
def Phase.swaps : Phase → Option Rebuild
  | .reading r => if r.todo = [] then some r else none
  | _ => none

/-! ### What a rebuild reads -/

section Claims

variable {env : TaskEnv} {s s' : Shared} {ticket now : Nat}

def Peer.claims (p : Peer) : AddressHash × Ipv4Addr × Nat × List Ipv4Cidr :=
  (p.hash, p.tunnelIp, p.routeExpiresTs, p.routes)

theorem addPeer_claims {p q : Peer} (same : p.claims = q.claims) (localHash : AddressHash)
    (localTunnelIp : Ipv4Addr) (b : RouteTable.Building) :
    RouteTable.addPeer now localHash localTunnelIp b p =
      RouteTable.addPeer now localHash localTunnelIp b q := by
  obtain ⟨hash, tunnelIp, expires, routes⟩ : p.hash = q.hash ∧ p.tunnelIp = q.tunnelIp ∧
      p.routeExpiresTs = q.routeExpiresTs ∧ p.routes = q.routes := by simpa [Peer.claims] using same
  unfold RouteTable.addPeer
  rw [hash, tunnelIp, expires, routes]

/-- The registry holds the same references, and a rebuild finds the same behind them. -/
structure SameClaims (s s' : Shared) : Prop where
  destination : s'.destination = s.destination
  localTunnelIp : s'.localTunnelIp = s.localTunnelIp
  registry : s'.registry = s.registry
  claims : ∀ id, (s'.heap id).claims = (s.heap id).claims

theorem modify_claims (s : Shared) (id : Nat) {f : Peer → Peer}
    (kept : ∀ peer, (f peer).claims = peer.claims) : SameClaims s (s.modify id f) := by
  refine ⟨rfl, rfl, rfl, ?_⟩
  intro other
  dsimp only [Shared.modify]
  by_cases same : other = id
  · rw [same, Function.update_self, kept]
  · rw [Function.update_of_ne same]

/-- One turn of the loop in `RouteTable::build`. -/
def Shared.added (s : Shared) (now : Nat) (b : RouteTable.Building) (id : Nat) :
    RouteTable.Building :=
  RouteTable.addPeer now s.destination s.localTunnelIp b (s.heap id)

theorem SameClaims.added (same : SameClaims s s') (now : Nat) : s'.added now = s.added now := by
  funext b id
  unfold Shared.added
  rw [same.destination, same.localTunnelIp]
  exact addPeer_claims (same.claims id) _ _ _

theorem SameClaims.all (same : SameClaims s s') : s'.all env = s.all env := by
  unfold Shared.all
  rw [same.registry]

theorem note_claims (err : Option String) (peer : Peer) :
    (note now err peer).claims = peer.claims := by
  cases err <;> rfl

theorem SameClaims.refl (s : Shared) : SameClaims s s := ⟨rfl, rfl, rfl, fun _ => rfl⟩

variable {p q : Phase}

/-- An access leaves what a rebuild reads alone, or the task has a rebuild to begin. -/
theorem Access.claims (access : Access env ticket now s p s' q) :
    SameClaims s s' ∨ q.owes = true := by
  cases access with
  | create | renew | insert | evict | unlink | clear => exact Or.inr rfl
  | mark peer err => exact Or.inl (modify_claims s peer (note_claims err))
  | change | swap => exact Or.inl ⟨rfl, rfl, rfl, fun _ => rfl⟩
  | _ => exact Or.inl (.refl s)

/-- A task that has a rebuild to begin does so. -/
theorem Access.owes (access : Access env ticket now s p s' q)
    (valid : validateNetwork env.toVpnEnv s.network = .ok ()) (owes : p.owes = true) :
    q.owes = true ∨ ∃ change, p = .rebuilding change := by
  cases access with
  | begin change => exact Or.inr ⟨change, rfl⟩
  | fail todo failed =>
    rw [deriveTunnelIp_valid valid] at failed
    cases failed
  | live | lapse | empty => exact Or.inl owes
  | idle | accept | refuse | note | ignore | mark | tick | unchanged | skip | look | take | swap
  | sync =>
    cases owes
  | _ => exact Or.inl rfl

end Claims

/-! ### The last rebuild -/

section Order

variable {ι : Type} {env : TaskEnv}

/-- A table is put in place by the last rebuild to have begun, or while a task has one ahead. -/
def InOrder (s : TaskState ι) : TaskEvent ι → Prop
  | .call _ _ => True
  | .step i _ => ∀ r ∈ (s.phase i).swaps, r.ticket = s.shared.begun ∨
      ∃ j, j ≠ i ∧ ((s.phase j).owes = true ∨ (s.phase j).rebuild.isSome)

/-- A rebuild has added what is behind the references it has passed. -/
def Phase.Agrees (env : TaskEnv) (s : Logged ι) (p : Phase) : Prop :=
  (∀ r ∈ p.rebuild, r.now ∈ s.clocks ∧ ∃ seen, s.all env = seen ++ p.ahead ∧
    r.building = seen.foldl (s.added r.now) {}) ∧
  ∀ r id expires, p = .routing r id expires → expires = (s.heap id).routeExpiresTs

/-- The last rebuild to have begun agrees with the registry, as far as it is. -/
def Latest (env : TaskEnv) (s : TaskState ι) : Prop :=
  ∀ i, ∀ r ∈ (s.phase i).rebuild, r.ticket = s.shared.begun → (s.phase i).Agrees env s.shared

/-- The table is that of the registry. -/
def Current (env : TaskEnv) (s : Logged ι) : Prop :=
  ∃ now ∈ s.clocks, ∃ ids : List Nat, ids.Perm (s.all env) ∧
    s.router = (ids.foldl (s.added now) {}).finish env.claimed

/-- Either a rebuild has yet to begin, or the last one to begin is under way or has been put in
place. -/
def Upheld (env : TaskEnv) (s : TaskState ι) : Prop :=
  (∃ i, (s.phase i).owes = true) ∨
    (Latest env s ∧ (Current env s.shared ∨ ∃ i, (s.phase i).rebuild.isSome))

theorem Current.same {s s' : Logged ι} (current : Current env s)
    (same : SameClaims s.toShared s'.toShared) (clocks : s'.clocks = s.clocks)
    (router : s'.router = s.router) : Current env s' := by
  obtain ⟨now, member, ids, listed, table⟩ := current
  refine ⟨now, clocks ▸ member, ids, ?_, ?_⟩
  · rwa [same.all]
  · rw [router, table, same.added]

theorem Phase.Agrees.same {s s' : Logged ι} {p : Phase} (agrees : p.Agrees env s)
    (same : SameClaims s.toShared s'.toShared) (clocks : s'.clocks = s.clocks) :
    p.Agrees env s' := by
  refine ⟨?_, ?_⟩
  · intro r member
    rw [clocks, same.all, same.added]
    exact agrees.1 r member
  · intro r id expires here
    have read : (s'.heap id).routeExpiresTs = (s.heap id).routeExpiresTs :=
      congrArg (fun c => c.2.2.1) (same.claims id)
    rw [read]
    exact agrees.2 r id expires here

theorem Phase.Agrees.read {s : Logged ι} {ticket now : Nat} {p q : Phase}
    (agrees : p.Agrees env s) (step : ReadStep env ticket now s.toShared p q)
    (reads : p.rebuild.isSome) : q.Agrees env s := by
  cases step with
  | begin => cases reads
  | @pass r id todo next =>
    refine ⟨?_, fun _ _ _ same => by cases same⟩
    rintro _ ⟨⟩
    obtain ⟨clock, seen, all, building⟩ := agrees.1 r rfl
    have ahead : Phase.ahead (.reading r) = id :: todo := next
    refine ⟨clock, seen ++ [id], ?_, ?_⟩
    · rw [all, ahead, List.append_assoc]
      rfl
    · rw [List.foldl_append, ← building]
      rfl
  | @look r id todo next =>
    refine ⟨?_, ?_⟩
    · rintro _ ⟨⟩
      obtain ⟨clock, seen, all, building⟩ := agrees.1 r rfl
      exact ⟨clock, seen, all.trans (congrArg (seen ++ ·) next), building⟩
    · rintro _ _ _ ⟨⟩
      rfl
  | take r id expires =>
    refine ⟨?_, fun _ _ _ same => by cases same⟩
    rintro _ ⟨⟩
    obtain ⟨clock, seen, all, building⟩ := agrees.1 r rfl
    obtain rfl := agrees.2 r id expires rfl
    refine ⟨clock, seen ++ [id], ?_, ?_⟩
    · rw [all, List.append_assoc]
      rfl
    · rw [List.foldl_append, ← building]
      rfl

/-- A rebuild stays under way until it puts its table in place. -/
theorem Access.rebuild {s s' : Shared} {ticket now : Nat} {p q : Phase}
    (access : Access env ticket now s p s' q) (reads : p.rebuild.isSome) :
    q.rebuild.isSome ∨ ∃ r, p = .reading r ∧ r.todo = [] := by
  cases access with
  | skip | look | take => exact Or.inl rfl
  | swap done => exact Or.inr ⟨_, rfl, done⟩
  | _ => cases reads

variable [DecidableEq ι] {s s' : TaskState ι}

theorem log_of_not_begun (s : Logged ι) (i : ι) (now : Nat) {p : Phase}
    (other : ∀ change, p ≠ .rebuilding change) :
    (s.log i now p).begun = s.begun ∧ (s.log i now p).clocks = s.clocks := by
  unfold Logged.log
  split
  · exact (other _ rfl).elim
  · exact ⟨rfl, rfl⟩
  · split <;> exact ⟨rfl, rfl⟩
  · exact ⟨rfl, rfl⟩
  · exact ⟨rfl, rfl⟩

/-- An idle task takes on a call. -/
theorem Upheld.call (upheld : Upheld env s) {i : ι} (free : s.phase i = .idle) (op : Call) :
    Upheld env { s with phase := Function.update s.phase i (op.begin env s.shared.toShared) } := by
  rcases upheld with ⟨j, owes⟩ | ⟨latest, rest⟩
  · refine Or.inl ⟨j, ?_⟩
    dsimp only
    rwa [update_busy free _ fun same => by rw [same] at owes; cases owes]
  · refine Or.inr ⟨?_, rest.imp_right ?_⟩
    · exact forall_rebuild_update
        (P := fun p r => r.ticket = s.shared.begun → p.Agrees env s.shared) latest
        (op.begun env s.shared.toShared).rebuild
    · rintro ⟨j, reads⟩
      refine ⟨j, ?_⟩
      dsimp only
      rwa [update_busy free _ fun same => by rw [same] at reads; cases reads]

/-- A rebuild that begins is the last one. -/
theorem upheld_begin (placed : ∀ j, Placed s.shared (s.phase j)) {i : ι}
    {change : Option AccessPolicy} (here : s.phase i = .rebuilding change) (now : Nat) :
    Upheld env (s.after env i now) := by
  have phase : (s.after env i now).phase i =
      .reading ⟨change, s.shared.begun + 1, now, {}, s.shared.all env⟩ := by
    rw [after_own, here]
    rfl
  have shared : (s.after env i now).shared =
      { s.shared with begun := s.shared.begun + 1, clocks := s.shared.clocks ++ [now] } := by
    dsimp only [TaskState.after]
    rw [here]
    rfl
  refine Or.inr ⟨?_, Or.inr ⟨i, by rw [phase]; rfl⟩⟩
  intro j r member last
  by_cases same : j = i
  · rw [same, phase] at member ⊢
    refine ⟨?_, fun _ _ _ same => by cases same⟩
    rintro _ ⟨⟩
    rw [shared]
    exact ⟨List.mem_append_right _ (List.mem_singleton_self now), [], rfl, rfl⟩
  · rw [after_other s same] at member
    have older := (placed j).ticket r member
    rw [last, shared] at older
    exact (Nat.not_succ_le_self _ older).elim

/-- A rebuild that goes on agrees with the registry as long as that stays. -/
theorem Latest.after {i : ι} {now : Nat} (latest : Latest env s)
    (other : ∀ change, s.phase i ≠ .rebuilding change)
    (same : SameClaims s.shared.toShared (s.after env i now).shared.toShared) :
    Latest env (s.after env i now) := by
  obtain ⟨begun, clocks⟩ := log_of_not_begun s.shared i now other
  intro j r member last
  have last : r.ticket = s.shared.begun := last.trans begun
  by_cases here : j = i
  · rw [here] at member ⊢
    have step := (s.access env i now).reads (Option.isSome_of_mem member)
    rcases step.numbered member with ⟨change, here, _⟩ | ⟨old, under, ticket⟩
    · exact (other change here).elim
    · have agrees := latest i old under (ticket ▸ last)
      exact (agrees.read step (Option.isSome_of_mem under)).same same clocks
  · rw [after_other s here] at member ⊢
    exact (latest j r member last).same same clocks

/-- The last rebuild to have begun puts the table of the registry in place. -/
theorem Latest.current {i : ι} {now : Nat} {r : Rebuild} (latest : Latest env s)
    (here : s.phase i = .reading r) (done : r.todo = []) (last : r.ticket = s.shared.begun)
    (same : SameClaims s.shared.toShared (s.after env i now).shared.toShared)
    (clocks : (s.after env i now).shared.clocks = s.shared.clocks) :
    Current env (s.after env i now).shared := by
  obtain ⟨clock, seen, all, building⟩ := (latest i r (by rw [here]; rfl) last).1 r
    (by rw [here]; rfl)
  refine ⟨r.now, clocks ▸ clock, seen, ?_, ?_⟩
  · have ahead : (s.phase i).ahead = [] := by rw [here]; exact done
    rw [same.all, all, ahead, List.append_nil]
  · rw [same.added, ← building]
    dsimp only [TaskState.after, tasks]
    rw [here]
    dsimp only [Shared.advance]
    rw [done]

/-- No rebuild is to begin, before the access or after it. -/
theorem upheld_quiet {i : ι} {now : Nat} (ok : InOrder s (.step i now)) (latest : Latest env s)
    (rest : Current env s.shared ∨ ∃ j, (s.phase j).rebuild.isSome)
    (before : ∀ j, (s.phase j).owes = false)
    (after : ((s.after env i now).phase i).owes = false) : Upheld env (s.after env i now) := by
  have other : ∀ change, s.phase i ≠ .rebuilding change := by
    intro change same
    have quiet := before i
    rw [same] at quiet
    cases quiet
  have clocks := (log_of_not_begun s.shared i now other).2
  have same : SameClaims s.shared.toShared (s.after env i now).shared.toShared := by
    rcases (s.access env i now).claims with kept | owes
    · exact kept
    · rw [after] at owes
      cases owes
  refine Or.inr ⟨latest.after other same, ?_⟩
  by_cases swap : ∃ r, s.phase i = .reading r ∧ r.todo = []
  · obtain ⟨r, here, done⟩ := swap
    have swaps : r ∈ (s.phase i).swaps := by
      rw [here]
      exact if_pos done
    rcases ok r swaps with last | ⟨j, other, owes | reads⟩
    · exact Or.inl (latest.current here done last same clocks)
    · rw [before j] at owes
      cases owes
    · exact Or.inr ⟨j, by rwa [after_other s other]⟩
  · rcases rest with current | ⟨j, reads⟩
    · refine Or.inl (current.same same clocks ?_)
      exact (s.access env i now).effect.router.resolve_right fun ⟨r, here, done, _⟩ =>
        swap ⟨r, here, done⟩
    · refine Or.inr ⟨j, ?_⟩
      by_cases here : j = i
      · rw [here] at reads ⊢
        exact ((s.access env i now).rebuild reads).resolve_right swap
      · rwa [after_other s here]

theorem Upheld.step {e : TaskEvent ι}
    (asserted : TaskSystem.Asserted (Sound env) (fun s _ p => Placed s p) s)
    (upheld : Upheld env s) (ok : InOrder s e) (stepped : (tasks env).step s e = some s') :
    Upheld env s' := by
  obtain ⟨i, op, rfl, idle, rfl⟩ | ⟨i, now, rfl, rfl⟩ := tasks_step stepped
  · exact upheld.call idle op
  · by_cases owing : ∃ j, ((s.after env i now).phase j).owes = true
    · exact Or.inl owing
    have free : ∀ j, ((s.after env i now).phase j).owes = false :=
      fun j => Bool.not_eq_true _ ▸ fun owes => owing ⟨j, owes⟩
    cases own : (s.phase i).owes with
    | true =>
      rcases (s.access env i now).owes asserted.1.valid own with owes | ⟨change, here⟩
      · rw [free i] at owes
        cases owes
      · exact upheld_begin asserted.2 here now
    | false =>
      have before : ∀ j, (s.phase j).owes = false := by
        intro j
        by_cases same : j = i
        · rwa [same]
        · have quiet := free j
          rwa [after_other s same] at quiet
      rcases upheld with ⟨j, owes⟩ | ⟨latest, rest⟩
      · rw [before j] at owes
        cases owes
      · exact upheld_quiet ok latest rest before (free i)

end Order

section Announces

open VpnRuntime

instance {ι : Type} [Fintype ι] [DecidableEq ι] (s : TaskState ι) : DecidablePred (InOrder s)
  | .call _ _ => inferInstanceAs (Decidable True)
  | .step i _ => inferInstanceAs (Decidable (∀ r ∈ (s.phase i).swaps, r.ticket = s.shared.begun ∨
      ∃ j, j ≠ i ∧ ((s.phase j).owes = true ∨ (s.phase j).rebuild.isSome)))

end Announces

end Kaonic.Vpn
