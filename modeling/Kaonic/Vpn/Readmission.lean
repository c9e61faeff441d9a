import Kaonic.Vpn.Tasks

/-!
# Peers that come back

An announce checks the policy first and registers its peer later; a policy change writes the policy
first and evicts later. What a change enforces stays enforced if no peer is registered that the
policy in force keeps out once the change has listed the peers, and no older rebuild puts its table
over that of the change.
-/

namespace Kaonic.Vpn
open Net

/-- The policy that a task has written and not yet returned from. -/
def Phase.change : Phase → Option AccessPolicy
  | .seeding policy _ | .inserting policy _ _ _ | .listing policy | .evicting policy _
  | .unlinking policy _ _ => some policy
  | .rebuilding change | .reading { change, .. } | .routing { change, .. } _ _ | .syncing change =>
    change
  | _ => none

def Phase.aboutToChange : Phase → Bool
  | .changing _ _ => true
  | _ => false

/-- How far a policy change past its write has come; `done` also if there is none. -/
inductive Stage where
  | early
  | evicting (todo : List AddressHash)
  | due
  | building (ticket : Nat)
  | done
  deriving DecidableEq

def Phase.stage : Phase → Stage
  | .seeding _ _ | .inserting _ _ _ _ | .listing _ => .early
  | .evicting _ todo | .unlinking _ _ todo => .evicting todo
  | .rebuilding (some _) => .due
  | .reading { change := some _, ticket, .. } | .routing { change := some _, ticket, .. } _ _ =>
    .building ticket
  | _ => .done

section Orderly

variable {ι : Type}

/-- The policy in force lets a peer in, or the change that put it in force has yet to list the
peers. -/
def Admits (s : TaskState ι) (hash : AddressHash) : Prop :=
  s.shared.allowAllPeers = true ∨ hash ∈ s.shared.allowedPeers ∨
    ∃ i, s.shared.inForce = some i ∧ (s.phase i).stage = .early

/-- Peers are registered as they are admitted, no rebuild puts its table over that of a later
change, and the change that returns last is in force. -/
def Permits (s : TaskState ι) (i : ι) : Phase → Prop
  | .creating desc _ _ =>
    s.shared.registry.lookup desc.addressHash = none → Admits s desc.addressHash
  | .inserting _ hash _ _ => Admits s hash
  | .reading r => r.todo = [] → s.shared.floor ≤ r.ticket
  | .syncing (some _) => s.shared.inForce = some i ∨ ∃ j, j ≠ i ∧ (s.phase j).change.isSome
  | _ => True

/-- Anything goes while a change is about to be written. -/
def Orderly (s : TaskState ι) : TaskEvent ι → Prop
  | .call _ _ => True
  | .step i _ => (∃ j, (s.phase j).aboutToChange = true) ∨ Permits s i (s.phase i)

/-! ### What a change enforces -/

def Shared.KeysIn (s : Shared) (K : Finset AddressHash) : Prop :=
  ∀ hash id, s.registry.lookup hash = some id → hash ∈ K

/-- A rebuild uses allowed peers only, so far and from here on. -/
def Phase.Serves (s : Shared) (allowed : Finset AddressHash) (p : Phase) (r : Rebuild) : Prop :=
  r.building.Within ↑allowed ∧ ∀ id ∈ p.ahead, (s.heap id).hash ∈ allowed

def Served (s : TaskState ι) (allowed : Finset AddressHash) (first : Nat) : Prop :=
  ∀ i, ∀ r ∈ (s.phase i).rebuild, first ≤ r.ticket →
    (s.phase i).Serves s.shared.toShared allowed r

def Enforces (s : TaskState ι) (allowed : Finset AddressHash) : Stage → Prop
  | .early => True
  | .evicting todo => s.shared.KeysIn (allowed ∪ todo.toFinset)
  | .due => s.shared.KeysIn allowed
  | .building ticket => s.shared.KeysIn allowed ∧ Served s allowed ticket
  | .done => s.shared.KeysIn allowed ∧ Served s allowed s.shared.floor ∧
      s.shared.router.Within ↑allowed

/-- Unless a change is about to be written, the one in force enforces its policy as far as it has
come. -/
def Secured (s : TaskState ι) : Prop :=
  (∃ j, (s.phase j).aboutToChange = true) ∨
    ∀ i, s.shared.inForce = some i → s.shared.allowAllPeers = false →
      Enforces s s.shared.allowedPeers (s.phase i).stage

/-- A change that has returned is in force, unless another one is on its way. -/
def Linked (s : TaskState ι) : Prop :=
  ∀ policy, s.shared.settled = some policy →
    (∃ j, (s.phase j).aboutToChange = true ∨ (s.phase j).change.isSome) ∨
      (s.shared.policy = policy ∧ s.shared.inForce.isSome)

/-- The task whose change is in force has written what it goes by. -/
def Wrote (s : Logged ι) (i : ι) (p : Phase) : Prop :=
  s.inForce = some i → ∀ policy ∈ p.change, s.policy = policy

end Orderly

/-! ### The way of a change -/

section Change

variable {env : TaskEnv} {s s' : Shared} {ticket now : Nat} {p q : Phase}

/-- A change is past its write once it is written. -/
theorem Access.change_from (access : Access env ticket now s p s' q) {policy : AccessPolicy}
    (member : policy ∈ q.change) : policy ∈ p.change ∨ ∃ todo, p = .changing policy todo := by
  cases access with
  | change policy todo =>
    obtain rfl := Option.some.inj member
    exact Or.inr ⟨todo, rfl⟩
  | pass | seed | insert | seeded | opened | list | keep | evict | unlink | evicted | begin | skip
  | look | take | swap =>
    exact Or.inl member
  | _ => cases member

/-- And until it returns. -/
theorem Access.change_to (access : Access env ticket now s p s' q)
    (valid : validateNetwork env.toVpnEnv s.network = .ok ()) {policy : AccessPolicy}
    (member : policy ∈ p.change) : policy ∈ q.change ∨ p = .syncing (some policy) := by
  cases access with
  | sync change =>
    have same : change = some policy := member
    exact Or.inr (by rw [same])
  | fail todo failed =>
    rw [deriveTunnelIp_valid valid] at failed
    cases failed
  | pass | seed | insert | seeded | opened | list | keep | evict | unlink | evicted | begin | skip
  | look | take | swap =>
    exact Or.inl member
  | _ => cases member

/-- Where a change that closes the network passes on to its next stage. -/
theorem Access.stage (access : Access env ticket now s p s' q)
    (valid : validateNetwork env.toVpnEnv s.network = .ok ()) (written : p.aboutToChange = false)
    (closed : ∀ policy ∈ p.change, policy.allowAllPeers = false) :
    q.stage = p.stage ∨ (∃ policy, p = .listing policy) ∨
      (∃ policy todo, p = .evicting policy todo) ∨ (∃ policy, p = .rebuilding (some policy)) ∨
        ∃ r, p = .reading r ∧ r.change.isSome ∧ r.todo = [] := by
  cases access with
  | change => cases written
  | fail todo failed =>
    rw [deriveTunnelIp_valid valid] at failed
    cases failed
  | @opened policy all =>
    rw [closed policy rfl] at all
    cases all
  | list policy => exact Or.inr (Or.inl ⟨policy, rfl⟩)
  | keep | evict | evicted => exact Or.inr (Or.inr (Or.inl ⟨_, _, rfl⟩))
  | begin change =>
    cases change with
    | none => exact Or.inl rfl
    | some policy => exact Or.inr (Or.inr (Or.inr (Or.inl ⟨policy, rfl⟩)))
  | @swap r done =>
    obtain ⟨change, ticket, clock, building, todo⟩ := r
    cases change with
    | none => exact Or.inl rfl
    | some policy => exact Or.inr (Or.inr (Or.inr (Or.inr ⟨_, rfl, rfl, done⟩)))
  | @skip r | @look r | take r =>
    obtain ⟨change, ticket, clock, building, todo⟩ := r
    cases change <;> exact Or.inl rfl
  | _ => exact Or.inl rfl

theorem Access.policy (access : Access env ticket now s p s' q)
    (other : p.aboutToChange = false) : s'.policy = s.policy := by
  cases access with
  | change => cases other
  | _ => rfl

end Change

/-! ### What is in force -/

section InForce

variable {ι : Type} {env : TaskEnv} {s : Logged ι}

theorem Begun.change {s : Shared} {p : Phase} (begun : Begun s p) : p.change = none := by
  cases begun <;> rfl

theorem Begun.stage {s : Shared} {p : Phase} (begun : Begun s p) : p.stage = .done := by
  cases begun <;> rfl

theorem eq_changing {p : Phase} (about : p.aboutToChange = true) :
    ∃ policy todo, p = .changing policy todo := by
  cases p with
  | changing policy todo => exact ⟨policy, todo, rfl⟩
  | _ => cases about

variable [DecidableEq ι]

/-- Only the write of a change puts it in force. -/
theorem advance_inForce (i : ι) (now : Nat) {p : Phase} (other : p.aboutToChange = false) :
    ((tasks env).advance i now s p).1.inForce = s.inForce := by
  dsimp only [tasks, Logged.log]
  split
  · rfl
  · cases other
  · split <;> rfl
  · rfl
  · rfl

/-- A change that puts its table in place raises the floor. -/
theorem advance_floor (i : ι) (now : Nat) {p : Phase} (written : p.aboutToChange = false) :
    ((tasks env).advance i now s p).1.floor = s.floor ∨
      s.inForce = some i ∧ ∃ r, p = .reading r ∧ r.change.isSome ∧ r.todo = [] := by
  dsimp only [tasks, Logged.log]
  split
  · exact Or.inl rfl
  · cases written
  · split
    · rename_i own
      exact Or.inr ⟨own, _, rfl, rfl, rfl⟩
    · exact Or.inl rfl
  · exact Or.inl rfl
  · exact Or.inl rfl

theorem wrote_outline (env : TaskEnv) :
    (tasks env).Outline (fun _ => True) fun (s : Logged ι) i p => Wrote s i p where
  called s i p op _ _ _ := by
    intro _ policy member
    have none_ : policy ∈ (op.begin env s.toShared).change := member
    rw [(op.begun env s.toShared).change] at none_
    cases none_
  advanced s i p now _ _ wrote := by
    refine ⟨trivial, ?_⟩
    intro inForce policy member
    cases about : p.aboutToChange with
    | true =>
      obtain ⟨written, todo, rfl⟩ := eq_changing about
      obtain rfl := Option.some.inj member
      rfl
    | false =>
      rw [advance_inForce i now about] at inForce
      have same := (tasks_access env i now s p).policy about
      rw [same]
      rcases (tasks_access env i now s p).change_from member with before | ⟨todo, rfl⟩
      · exact wrote inForce policy before
      · cases about
  undisturbed s i p now j q other _ _ _ wrote := by
    intro inForce policy member
    cases about : p.aboutToChange with
    | true =>
      obtain ⟨written, todo, rfl⟩ := eq_changing about
      exact (other (Option.some.inj inForce).symm).elim
    | false =>
      rw [advance_inForce i now about] at inForce
      have same := (tasks_access env i now s p).policy about
      rw [same]
      exact wrote inForce policy member

/-! ### Changes that have returned -/

theorem advance_settled (i : ι) (now : Nat) {p : Phase} (other : p.aboutToChange = false)
    (under : ∀ policy, p ≠ .syncing (some policy)) :
    ((tasks env).advance i now s p).1.settled = s.settled := by
  dsimp only [tasks, Logged.log]
  split
  · rfl
  · cases other
  · split <;> rfl
  · exact (under _ rfl).elim
  · rfl

variable {t t' : TaskState ι} {i : ι} {now : Nat}

/-- An idle task takes on a call. -/
theorem Linked.call (linked : Linked t) {i : ι} (idle : t.phase i = .idle) (p : Phase) :
    Linked { t with phase := Function.update t.phase i p } := by
  intro policy settled
  rcases linked policy settled with ⟨j, under⟩ | settled
  · refine Or.inl ⟨j, ?_⟩
    have busy : t.phase j ≠ .idle := by
      intro same
      rw [same] at under
      rcases under with about | some_
      · cases about
      · cases some_
    dsimp only
    rwa [update_busy idle p busy]
  · exact Or.inr settled

/-- A change that returns is in force, or another one is on its way. -/
theorem linked_returned (ok : Orderly t (.step i now)) (wrote : Wrote t.shared i (t.phase i))
    {returned : AccessPolicy} (here : t.phase i = .syncing (some returned)) :
    (∃ j, ((t.after env i now).phase j).aboutToChange = true ∨
      ((t.after env i now).phase j).change.isSome) ∨
        (t.shared.policy = returned ∧ t.shared.inForce.isSome) := by
  rcases ok with ⟨j, late⟩ | ok
  · have other : j ≠ i := by
      rintro rfl
      rw [here] at late
      cases late
    exact Or.inl ⟨j, Or.inl (by rwa [after_other t other])⟩
  · rw [here] at ok
    rcases ok with own | ⟨j, other, under⟩
    · exact Or.inr ⟨wrote own returned (by rw [here]; rfl), by rw [own]; rfl⟩
    · exact Or.inl ⟨j, Or.inr (by rwa [after_other t other])⟩

/-- A change on its way stays so as long as it does not return. -/
theorem change_after (valid : validateNetwork env.toVpnEnv t.shared.network = .ok ())
    (about : (t.phase i).aboutToChange = false)
    (under : ∀ returned, t.phase i ≠ .syncing (some returned)) {j : ι}
    (before : (t.phase j).aboutToChange = true ∨ (t.phase j).change.isSome) :
    ((t.after env i now).phase j).aboutToChange = true ∨
      ((t.after env i now).phase j).change.isSome := by
  by_cases own : j = i
  · subst own
    have some_ := before.resolve_left fun late => by rw [about] at late; cases late
    obtain ⟨change, member⟩ := Option.isSome_iff_exists.mp some_
    rcases (t.access env j now).change_to valid member with after | here
    · exact Or.inr (Option.isSome_of_mem after)
    · exact (under change here).elim
  · rwa [after_other t own]

theorem Linked.after (linked : Linked t)
    (valid : validateNetwork env.toVpnEnv t.shared.network = .ok ())
    (wrote : Wrote t.shared i (t.phase i)) (ok : Orderly t (.step i now)) :
    Linked (t.after env i now) := by
  intro policy settled
  cases about : (t.phase i).aboutToChange with
  | true =>
    obtain ⟨written, todo, here⟩ := eq_changing about
    dsimp only [TaskState.after] at settled
    rw [here] at settled
    cases settled
  | false =>
    have kept := (t.access env i now).policy about
    have inForce : (t.after env i now).shared.inForce = t.shared.inForce :=
      advance_inForce i now about
    rw [kept, inForce]
    by_cases returning : ∃ returned, t.phase i = .syncing (some returned)
    · obtain ⟨returned, here⟩ := returning
      dsimp only [TaskState.after] at settled
      rw [here] at settled
      obtain rfl := Option.some.inj settled
      exact linked_returned ok wrote here
    · have under : ∀ returned, t.phase i ≠ .syncing (some returned) :=
        fun returned here => returning ⟨returned, here⟩
      have same : (t.after env i now).shared.settled = t.shared.settled :=
        advance_settled i now about under
      rw [same] at settled
      rcases linked policy settled with ⟨j, before⟩ | done
      · exact Or.inl ⟨j, change_after valid about under before⟩
      · exact Or.inr done

theorem Linked.step {e : TaskEvent ι}
    (asserted : TaskSystem.Asserted (Sound env) (fun s _ p => Placed s p) t)
    (wrote : ∀ i, Wrote t.shared i (t.phase i)) (ok : Orderly t e) (linked : Linked t)
    (stepped : (tasks env).step t e = some t') : Linked t' := by
  obtain ⟨i, op, rfl, idle, rfl⟩ | ⟨i, now, rfl, rfl⟩ := tasks_step stepped
  · exact linked.call idle _
  · exact linked.after asserted.1.valid (wrote i) ok

end InForce

/-! ### Enforcement is kept -/

section Kept

variable {env : TaskEnv}

/-- Only peers that belong there are registered. -/
theorem Shared.KeysIn.effect {s s' : Shared} {p : Phase} {K : Finset AddressHash}
    (keys : s.KeysIn K) (effect : Effect env s p s')
    (created : ∀ desc routes tunnelIp, p = .creating desc routes tunnelIp →
      s.registry.lookup desc.addressHash = none → desc.addressHash ∈ K)
    (inserted : ∀ policy hash tunnelIp todo, p = .inserting policy hash tunnelIp todo → hash ∈ K) :
    s'.KeysIn K := by
  have put : ∀ peer : Peer, peer.hash ∈ K → (s.put peer).KeysIn K := by
    intro peer member hash id found
    dsimp only [Shared.put] at found
    rw [HashMap.lookup_insert_eq] at found
    split at found
    · rename_i same
      exact same ▸ member
    · exact keys hash id found
  cases effect with
  | read | modify | change | unlink | swap => exact keys
  | create routes tunnelIp absent => exact put _ (created _ routes tunnelIp rfl absent)
  | insert => exact put _ (inserted _ _ _ _ rfl)
  | evict =>
    intro hash id found
    dsimp only at found
    rw [HashMap.lookup_erase_eq] at found
    split at found
    · cases found
    · exact keys hash id found

/-- One turn of the loop that evicts. -/
theorem Access.evicts {s s' : Shared} {ticket now : Nat} {q : Phase} {policy : AccessPolicy}
    {todo : List AddressHash}
    (access : Access env ticket now s (.evicting policy todo) s' q)
    (remote : s.registry.lookup s.destination = none)
    (keys : s.KeysIn (policy.allowedPeers ∪ todo.toFinset)) :
    (q.stage = .due ∧ s'.KeysIn policy.allowedPeers) ∨
      ∃ rest, q.stage = .evicting rest ∧ s'.KeysIn (policy.allowedPeers ∪ rest.toFinset) := by
  cases access with
  | evicted =>
    refine Or.inl ⟨rfl, ?_⟩
    intro hash id found
    simpa using keys hash id found
  | @keep _ next rest listed =>
    refine Or.inr ⟨rest, rfl, ?_⟩
    intro hash id found
    have member := keys hash id found
    rw [List.toFinset_cons, Finset.union_insert, Finset.mem_insert] at member
    rcases member with rfl | member
    · rcases listed with local_ | listed
      · rw [local_, remote] at found
        cases found
      · exact Finset.mem_union_left _ listed
    · exact member
  | evict rest =>
    refine Or.inr ⟨rest, rfl, ?_⟩
    intro hash id found
    dsimp only at found
    rw [HashMap.lookup_erase_eq] at found
    split at found
    · cases found
    · rename_i other
      have member := keys hash id found
      rw [List.toFinset_cons, Finset.union_insert, Finset.mem_insert] at member
      exact member.resolve_left other

theorem ReadStep.serves {s : Shared} {ticket now : Nat} {p q : Phase}
    {allowed : Finset AddressHash} {first : Nat} (step : ReadStep env ticket now s p q)
    (filed : s.Filed) (keys : s.KeysIn allowed)
    (serves : ∀ r ∈ p.rebuild, first ≤ r.ticket → p.Serves s allowed r) :
    ∀ r ∈ q.rebuild, first ≤ r.ticket → q.Serves s allowed r := by
  cases step with
  | begin change =>
    rintro _ ⟨⟩ _
    refine ⟨⟨fun _ _ found => (by cases found), fun _ _ found => by cases found⟩, ?_⟩
    exact fun id member => keys _ id (filed.listed member).2
  | @pass r id todo next =>
    rintro _ ⟨⟩ late
    obtain ⟨within, ahead⟩ := serves r rfl late
    have listed : Phase.ahead (.reading r) = id :: todo := next
    rw [listed] at ahead
    exact ⟨RouteTable.addPeer_within within (ahead id List.mem_cons_self),
      fun other member => ahead other (List.mem_cons_of_mem _ member)⟩
  | @look r id todo next =>
    rintro _ ⟨⟩ late
    obtain ⟨within, ahead⟩ := serves r rfl late
    have listed : Phase.ahead (.reading r) = id :: todo := next
    rw [listed] at ahead
    exact ⟨within, ahead⟩
  | take r id expires =>
    rintro _ ⟨⟩ late
    obtain ⟨within, ahead⟩ := serves r rfl late
    exact ⟨RouteTable.addPeer_within within (ahead id List.mem_cons_self),
      fun other member => ahead other (List.mem_cons_of_mem _ member)⟩

variable {ι : Type} {s : TaskState ι} {i k : ι} {now : Nat}

/-- A policy in force that is past its list admits allowed peers only. -/
theorem admits_allowed {hash : AddressHash} (admits : Admits s hash)
    (closed : s.shared.allowAllPeers = false) (inForce : s.shared.inForce = some i)
    (late : (s.phase i).stage ≠ .early) : hash ∈ s.shared.allowedPeers := by
  rcases admits with all | member | ⟨j, other, early⟩
  · rw [closed] at all
    cases all
  · exact member
  · obtain rfl := Option.some.inj (inForce.symm.trans other)
    exact (late early).elim

variable [DecidableEq ι]

theorem keysIn_after (ok : Orderly s (.step k now)) (quiet : ∀ j, (s.phase j).aboutToChange = false)
    (closed : s.shared.allowAllPeers = false) (inForce : s.shared.inForce = some i)
    (late : (s.phase i).stage ≠ .early) {K : Finset AddressHash} (within : s.shared.allowedPeers ⊆ K)
    (keys : s.shared.KeysIn K) : (s.after env k now).shared.KeysIn K := by
  have ok := ok.resolve_left fun ⟨j, about⟩ => by rw [quiet j] at about; cases about
  refine keys.effect (s.access env k now).effect ?_ ?_
  · intro desc routes tunnelIp here absent
    rw [here] at ok
    exact within (admits_allowed (ok absent) closed inForce late)
  · intro policy hash tunnelIp todo here
    rw [here] at ok
    exact within (admits_allowed ok closed inForce late)

/-- A rebuild that begins or goes on stays with allowed peers. -/
theorem served_after (asserted : TaskSystem.Asserted (Sound env) (fun s _ p => Placed s p) s)
    {allowed : Finset AddressHash} {first : Nat} (keys : s.shared.KeysIn allowed)
    (served : Served s allowed first) : Served (s.after env k now) allowed first := by
  have frame := (s.access env k now).effect.frame
  have moved : ∀ {p : Phase} {r : Rebuild}, (∀ id ∈ p.ahead, id < s.shared.allocated) →
      p.Serves s.shared.toShared allowed r →
        p.Serves (s.after env k now).shared.toShared allowed r := by
    intro p r old ⟨within, ahead⟩
    refine ⟨within, ?_⟩
    intro id member
    have identity : ((s.after env k now).shared.heap id).hash = (s.shared.heap id).hash :=
      frame.identity id (old id member)
    rw [identity]
    exact ahead id member
  intro j r member late
  by_cases here : j = k
  · rw [here] at member ⊢
    have step := (s.access env k now).reads (Option.isSome_of_mem member)
    exact moved (step.allocated asserted.1.filed (asserted.2 k).ahead)
      (step.serves asserted.1.filed keys (served k) r member late)
  · rw [after_other s here] at member ⊢
    exact moved (asserted.2 j).ahead (served j r member late)

/-- No older table is put in place. -/
theorem router_after (ok : Orderly s (.step k now))
    (quiet : ∀ j, (s.phase j).aboutToChange = false) {allowed : Finset AddressHash}
    (served : Served s allowed s.shared.floor) (router : s.shared.router.Within ↑allowed) :
    (s.after env k now).shared.router.Within ↑allowed := by
  have ok := ok.resolve_left fun ⟨j, about⟩ => by rw [quiet j] at about; cases about
  rcases (s.access env k now).effect.router with same | ⟨r, here, done, table⟩
  · rw [same]
    exact router
  · rw [table]
    rw [here] at ok
    exact RouteTable.finish_within env.claimed (served k r (by rw [here]; rfl) (ok done)).1

/-- What is enforced stays so, whichever task is next, but for the change in force itself. -/
theorem enforces_after (asserted : TaskSystem.Asserted (Sound env) (fun s _ p => Placed s p) s)
    (ok : Orderly s (.step k now)) (quiet : ∀ j, (s.phase j).aboutToChange = false)
    (closed : s.shared.allowAllPeers = false) (inForce : s.shared.inForce = some i)
    (floor : (s.phase i).stage = .done → (s.after env k now).shared.floor = s.shared.floor)
    (enforces : Enforces s s.shared.allowedPeers (s.phase i).stage) :
    Enforces (s.after env k now) s.shared.allowedPeers (s.phase i).stage := by
  have keys : (s.phase i).stage ≠ .early → ∀ {K}, s.shared.allowedPeers ⊆ K → s.shared.KeysIn K →
      (s.after env k now).shared.KeysIn K := fun late _ within keys =>
    keysIn_after ok quiet closed inForce late within keys
  cases stage : (s.phase i).stage with
  | early => trivial
  | evicting todo =>
    rw [stage] at enforces keys
    exact keys (by simp) Finset.subset_union_left enforces
  | due =>
    rw [stage] at enforces keys
    exact keys (by simp) (Finset.Subset.refl _) enforces
  | building ticket =>
    rw [stage] at enforces keys
    exact ⟨keys (by simp) (Finset.Subset.refl _) enforces.1,
      served_after asserted enforces.1 enforces.2⟩
  | done =>
    rw [stage] at enforces keys
    obtain ⟨within, served, router⟩ := enforces
    refine ⟨keys (by simp) (Finset.Subset.refl _) within, ?_, router_after ok quiet served router⟩
    rw [floor stage]
    exact served_after asserted within served

/-! ### The change in force itself -/

/-- All registered peers are listed. -/
theorem enforces_listed (filed : s.shared.Filed) (allowed : Finset AddressHash)
    {policy : AccessPolicy} (here : s.phase i = .listing policy) :
    Enforces (s.after env i now) allowed ((s.after env i now).phase i).stage := by
  rw [after_own, here]
  intro hash id found
  have before : s.shared.registry.lookup hash = some id := by
    dsimp only [TaskState.after] at found
    rw [here] at found
    exact found
  refine Finset.mem_union_right _ (List.mem_toFinset.mpr ?_)
  rw [← (filed hash id before).2]
  refine List.mem_map_of_mem ?_
  exact List.mem_map_of_mem (mem_all.mpr ⟨hash, before⟩)

/-- A listed peer that may not stay is taken away. -/
theorem enforces_evicted (own : s.shared.inForce = some i) (sound : Sound env s.shared)
    (wrote : Wrote s.shared i (s.phase i)) {policy : AccessPolicy} {todo : List AddressHash}
    (here : s.phase i = .evicting policy todo)
    (kept : Enforces s s.shared.allowedPeers (s.phase i).stage) :
    Enforces (s.after env i now) s.shared.allowedPeers ((s.after env i now).phase i).stage := by
  have written : s.shared.policy = policy := wrote own policy (by rw [here]; rfl)
  have allowed : s.shared.allowedPeers = policy.allowedPeers :=
    congrArg AccessPolicy.allowedPeers written
  have access := s.access env i now
  rw [here, allowed] at kept
  rw [here] at access
  rw [allowed]
  rcases access.evicts sound.remote kept with ⟨last, keys⟩ | ⟨rest, next, keys⟩
  · rw [last]
    exact keys
  · rw [next]
    exact keys

/-- Rebuilds are numbered in order, so that the one of the change is the last so far. -/
theorem enforces_begun (asserted : TaskSystem.Asserted (Sound env) (fun s _ p => Placed s p) s)
    {policy : AccessPolicy} (here : s.phase i = .rebuilding (some policy))
    (kept : Enforces s s.shared.allowedPeers (s.phase i).stage) :
    Enforces (s.after env i now) s.shared.allowedPeers ((s.after env i now).phase i).stage := by
  rw [here] at kept
  have shared : (s.after env i now).shared.toShared = s.shared.toShared := by
    dsimp only [TaskState.after]
    rw [here]
    rfl
  have phase : ∀ j, (s.after env i now).phase j = if j = i then
      .reading ⟨some policy, s.shared.begun + 1, now, {}, s.shared.all env⟩ else s.phase j := by
    intro j
    rw [after_phase, here]
    rfl
  rw [after_own, here]
  refine ⟨?_, ?_⟩
  · rw [shared]
    exact kept
  · intro j r member late
    rw [phase] at member ⊢
    split at member
    · rename_i own
      rw [if_pos own, shared]
      have step : ReadStep env (s.shared.begun + 1) now s.shared.toShared _ _ :=
        .begin (some policy)
      exact step.serves asserted.1.filed kept (fun _ none_ => by cases none_) r member late
    · have older := (asserted.2 j).ticket r member
      exact (Nat.not_succ_le_self _ (Nat.le_trans late older)).elim

/-- From its own table on, no older one is put in place. -/
theorem enforces_swapped (own : s.shared.inForce = some i)
    (asserted : TaskSystem.Asserted (Sound env) (fun s _ p => Placed s p) s) {r : Rebuild}
    (here : s.phase i = .reading r) (some_ : r.change.isSome) (done : r.todo = [])
    (kept : Enforces s s.shared.allowedPeers (s.phase i).stage) :
    Enforces (s.after env i now) s.shared.allowedPeers ((s.after env i now).phase i).stage := by
  obtain ⟨change, ticket, clock, building, todo⟩ := r
  obtain ⟨policy, rfl⟩ := Option.isSome_iff_exists.mp some_
  obtain rfl : todo = [] := done
  rw [here] at kept
  obtain ⟨keys, served⟩ := kept
  have floor : (s.after env i now).shared.floor = ticket := by
    dsimp only [TaskState.after, tasks, Logged.log]
    rw [here]
    dsimp only
    rw [if_pos own]
  have swapped : (s.after env i now).shared.toShared =
      { s.shared.toShared with router := building.finish env.claimed } := by
    dsimp only [TaskState.after]
    rw [here]
    rfl
  rw [after_own, here]
  refine ⟨?_, ?_, ?_⟩
  · rw [swapped]
    exact keys
  · rw [floor]
    exact served_after asserted keys served
  · have router : (s.after env i now).shared.router = building.finish env.claimed :=
      congrArg Shared.router swapped
    rw [router]
    exact RouteTable.finish_within env.claimed
      (served i _ (by rw [here]; rfl) (Nat.le_refl ticket)).1

/-! ### Every step -/

theorem enforces_call {allowed : Finset AddressHash} {stage : Stage}
    (enforces : Enforces s allowed stage) {p : Phase} (reads : p.rebuild = none) :
    Enforces { s with phase := Function.update s.phase k p } allowed stage := by
  have moved : ∀ {first}, Served s allowed first →
      Served { s with phase := Function.update s.phase k p } allowed first := by
    intro first served
    exact forall_rebuild_update
      (P := fun p r => first ≤ r.ticket → p.Serves s.shared.toShared allowed r) served reads
  cases stage with
  | early | evicting | due => exact enforces
  | building => exact ⟨enforces.1, moved enforces.2⟩
  | done => exact ⟨enforces.1, moved enforces.2.1, enforces.2.2⟩

/-- A step of the task whose change is in force. -/
theorem enforces_own (asserted : TaskSystem.Asserted (Sound env) (fun s _ p => Placed s p) s)
    (wrote : Wrote s.shared i (s.phase i)) (written : (s.phase i).aboutToChange = false)
    (closed : s.shared.allowAllPeers = false) (own : s.shared.inForce = some i)
    (before : Enforces s s.shared.allowedPeers (s.phase i).stage)
    (kept : Enforces (s.after env i now) s.shared.allowedPeers (s.phase i).stage) :
    Enforces (s.after env i now) s.shared.allowedPeers ((s.after env i now).phase i).stage := by
  have shut : ∀ policy ∈ (s.phase i).change, policy.allowAllPeers = false := by
    intro policy member
    rw [← wrote own policy member]
    exact closed
  rcases (s.access env i now).stage asserted.1.valid written shut with same | ⟨policy, here⟩ | ⟨policy, todo, here⟩ | ⟨policy, here⟩ | ⟨r, here, some_, done⟩
  · rw [same]
    exact kept
  · exact enforces_listed asserted.1.filed _ here
  · exact enforces_evicted own asserted.1 wrote here before
  · exact enforces_begun asserted here before
  · exact enforces_swapped own asserted here some_ done before

theorem Secured.call (secured : Secured s) (idle : s.phase k = .idle) (op : Call) :
    Secured { s with phase := Function.update s.phase k (op.begin env s.shared.toShared) } := by
  rcases secured with ⟨j, about⟩ | secured
  · refine Or.inl ⟨j, ?_⟩
    dsimp only
    rwa [update_busy idle _ fun same => by rw [same] at about; cases about]
  · refine Or.inr ?_
    intro i inForce closed
    have stage : (Function.update s.phase k (op.begin env s.shared.toShared) i).stage =
        (s.phase i).stage := by
      by_cases same : i = k
      · rw [same, Function.update_self, (op.begun env s.shared.toShared).stage, idle]
        rfl
      · rw [Function.update_of_ne same]
    dsimp only
    rw [stage]
    exact enforces_call (secured i inForce closed) (op.begun env s.shared.toShared).rebuild

/-- A change that is done has raised the floor before. -/
theorem floor_after (about : (s.phase k).aboutToChange = false) (inForce : s.shared.inForce = some i)
    (done : (s.phase i).stage = .done) :
    (s.after env k now).shared.floor = s.shared.floor := by
  rcases @advance_floor ι env s.shared _ k now _ about with kept | ⟨own, r, here, some_, _⟩
  · exact kept
  · obtain rfl := Option.some.inj (inForce.symm.trans own)
    obtain ⟨change, ticket, clock, building, todo⟩ := r
    obtain ⟨policy, rfl⟩ := Option.isSome_iff_exists.mp some_
    rw [here] at done
    cases done

/-- No change is about to be written, before the access or after it. -/
theorem secured_quiet (asserted : TaskSystem.Asserted (Sound env) (fun s _ p => Placed s p) s)
    (wrote : ∀ i, Wrote s.shared i (s.phase i)) (ok : Orderly s (.step k now))
    (secured : ∀ i, s.shared.inForce = some i → s.shared.allowAllPeers = false →
      Enforces s s.shared.allowedPeers (s.phase i).stage)
    (quiet : ∀ j, (s.phase j).aboutToChange = false) : Secured (s.after env k now) := by
  refine Or.inr ?_
  intro i inForce closed
  have same : (s.after env k now).shared.inForce = s.shared.inForce :=
    advance_inForce k now (quiet k)
  have policy := (s.access env k now).policy (quiet k)
  have allowed : (s.after env k now).shared.allowedPeers = s.shared.allowedPeers :=
    congrArg AccessPolicy.allowedPeers policy
  have shut : s.shared.allowAllPeers = false :=
    (congrArg AccessPolicy.allowAllPeers policy).symm.trans closed
  rw [same] at inForce
  have before := secured i inForce shut
  have kept := enforces_after asserted ok quiet shut inForce
    (fun done => floor_after (quiet k) inForce done) before
  rw [allowed]
  by_cases own : i = k
  · subst own
    exact enforces_own asserted (wrote i) (quiet i) shut inForce before kept
  · rwa [after_other s own]

theorem Secured.step {s' : TaskState ι} {e : TaskEvent ι}
    (asserted : TaskSystem.Asserted (Sound env) (fun s _ p => Placed s p) s)
    (wrote : ∀ i, Wrote s.shared i (s.phase i)) (ok : Orderly s e) (secured : Secured s)
    (stepped : (tasks env).step s e = some s') : Secured s' := by
  obtain ⟨k, op, rfl, idle, rfl⟩ | ⟨k, now, rfl, rfl⟩ := tasks_step stepped
  · exact secured.call idle op
  · by_cases later : ∃ j, ((s.after env k now).phase j).aboutToChange = true
    · exact Or.inl later
    cases about : (s.phase k).aboutToChange with
    | true =>
      obtain ⟨policy, todo, here⟩ := eq_changing about
      refine Or.inr ?_
      intro i inForce _
      dsimp only [TaskState.after] at inForce
      rw [here] at inForce
      obtain rfl := Option.some.inj inForce
      rw [after_own, here]
      trivial
    | false =>
      have quiet : ∀ j, (s.phase j).aboutToChange = false := by
        intro j
        by_cases same : j = k
        · rwa [same]
        · rw [← Bool.not_eq_true]
          intro soon
          exact later ⟨j, by rwa [after_other s same]⟩
      refine secured_quiet asserted wrote ok (secured.resolve_left ?_) quiet
      rintro ⟨j, soon⟩
      rw [quiet j] at soon
      cases soon

theorem stage_done {p : Phase} (free : p.change = none) : p.stage = .done := by
  cases p with
  | seeding | inserting | listing | evicting | unlinking => cases free
  | rebuilding change =>
    obtain rfl : change = none := free
    rfl
  | reading r | routing r =>
    obtain ⟨change, ticket, clock, building, todo⟩ := r
    obtain rfl : change = none := free
    rfl
  | _ => rfl

end Kept

/-- After a run of orderly steps, with no policy change in progress and a closed policy as the last
that has returned: only its peers are registered, and the router resolves to no others. -/
theorem policy_upheld {ι : Type} [DecidableEq ι] (env : TaskEnv) (boot : VpnRuntime.Boot)
    (config : VpnConfig) (host : Host) (after : VpnRuntime × Host)
    (started : VpnRuntime.start env.toVpnEnv env.hex boot config host = .ok after)
    (events : List (TaskEvent ι)) (s : TaskState ι)
    (path : TaskSystem.Path (tasks env) Orderly (startTasks ι after.1 boot.now) events s)
    (allowed : Finset AddressHash) (settled : s.shared.settled = some ⟨false, allowed⟩)
    (quiet : ∀ i, (s.phase i).aboutToChange = false ∧ (s.phase i).change = none) :
    (∀ hash, (s.shared.registry.lookup hash).isSome → hash ∈ allowed) ∧
      ∀ ip hash, s.shared.router.resolve ip = some hash → hash ∈ allowed := by
  obtain ⟨_, _, linked, secured⟩ := path.kept
    (fun s => TaskSystem.Asserted (Sound env) (fun s _ p => Placed s p) s ∧
      TaskSystem.Asserted (fun _ => True) (fun s i p => Wrote s i p) s ∧ Linked s ∧ Secured s)
    (fun _ _ _ ⟨asserted, wrote, linked, secured⟩ ok stepped =>
      ⟨(sound_outline env).step asserted stepped, (wrote_outline env).step wrote stepped,
        linked.step asserted wrote.2 ok stepped, secured.step asserted wrote.2 ok stepped⟩)
    ⟨startTasks_sound started boot.now, ⟨trivial, fun _ none_ => by cases none_⟩,
      fun _ none_ => (by cases none_), Or.inr fun _ none_ => by cases none_⟩
  rcases linked _ settled with ⟨j, about | under⟩ | ⟨policy, some_⟩
  · rw [(quiet j).1] at about
    cases about
  · rw [(quiet j).2] at under
    cases under
  · obtain ⟨i, inForce⟩ := Option.isSome_iff_exists.mp some_
    have closed : s.shared.allowAllPeers = false := congrArg AccessPolicy.allowAllPeers policy
    have same : s.shared.allowedPeers = allowed := congrArg AccessPolicy.allowedPeers policy
    have enforced := secured.resolve_left
      (fun ⟨j, about⟩ => by rw [(quiet j).1] at about; cases about) i inForce closed
    rw [stage_done (quiet i).2, same] at enforced
    obtain ⟨keys, _, router⟩ := enforced
    refine ⟨?_, fun ip hash resolved => RouteTable.resolve_within router resolved⟩
    intro hash some_
    obtain ⟨id, found⟩ := Option.isSome_iff_exists.mp some_
    exact keys hash id found

/-! ### An announce and a policy change -/

section Announce

open VpnRuntime

variable {ι : Type} [Fintype ι] [DecidableEq ι]

instance (s : TaskState ι) (hash : AddressHash) : Decidable (Admits s hash) :=
  inferInstanceAs (Decidable (_ ∨ _ ∨ _))

instance (s : TaskState ι) (i : ι) : DecidablePred (Permits s i)
  | .creating desc _ _ => inferInstanceAs (Decidable (_ → Admits s desc.addressHash))
  | .inserting _ hash _ _ => inferInstanceAs (Decidable (Admits s hash))
  | .reading r => inferInstanceAs (Decidable (r.todo = [] → s.shared.floor ≤ r.ticket))
  | .syncing (some _) => inferInstanceAs (Decidable (_ ∨ _))
  | .idle | .announced _ _ | .finding _ _ _ | .heard _ _ | .noting _ _ | .marking _ _
  | .writing _ _ | .changing _ _ | .seeding _ _ | .listing _ | .evicting _ _ | .unlinking _ _ _
  | .ticking _ | .expiring _ _ _ | .inspecting _ _ _ _ | .clearing _ _ _ | .rebuilding _
  | .routing _ _ _ | .syncing none => inferInstanceAs (Decidable True)

instance (s : TaskState ι) : DecidablePred (Orderly s)
  | .call _ _ => inferInstanceAs (Decidable True)
  | .step i _ => inferInstanceAs (Decidable (_ ∨ Permits s i (s.phase i)))

/-- A peer announces itself while the policy changes to that peer alone. -/
def allowedAnnounce : List (TaskEvent Bool) :=
  .call false (.announce ⟨shortHash 0 1⟩ []) :: steps false 2 100 ++
    .call true (.replacePeerPolicy false [(shortHash 0 1).toHexString]) :: steps true 12 101 ++
      steps false 12 102

theorem policy_upheld_allowed : ∃ after,
    start SyncCall.plainEnv AddressHash.hexCodec plainBoot transitConfig {} = .ok after ∧
      ∃ s, (tasks plainTasks).play Orderly (startTasks Bool after.1 0) allowedAnnounce = some s ∧
        (∀ hash, (s.shared.registry.lookup hash).isSome → hash ∈ ({shortHash 0 1} : Finset _)) ∧
          ∀ ip hash, s.shared.router.resolve ip = some hash →
            hash ∈ ({shortHash 0 1} : Finset _) := by
  have seen : ∃ after,
      start SyncCall.plainEnv AddressHash.hexCodec plainBoot transitConfig {} = .ok after ∧
        ((tasks plainTasks).play Orderly (startTasks Bool after.1 0) allowedAnnounce).map
          (fun s => (s.shared.settled, (s.phase false).isIdle, (s.phase true).isIdle)) =
        some (some ⟨false, {shortHash 0 1}⟩, true, true) := ⟨_, rfl, by decide⟩
  obtain ⟨after, started, seen⟩ := seen
  obtain ⟨s, played, observed⟩ := Option.map_eq_some_iff.mp seen
  simp only [Prod.mk.injEq] at observed
  obtain ⟨settled, first, second⟩ := observed
  refine ⟨after, started, s, played, ?_⟩
  refine policy_upheld plainTasks plainBoot transitConfig {} after started allowedAnnounce s
    (.of_play played) {shortHash 0 1} settled ?_
  intro i
  cases i
  · rw [idle_of_isIdle first]
    exact ⟨rfl, rfl⟩
  · rw [idle_of_isIdle second]
    exact ⟨rfl, rfl⟩

/-- A peer announces itself and passes the policy; the policy changes to no peers; the announce goes
on. -/
def evictedAnnounce : List (TaskEvent Bool) :=
  .call false (.announce ⟨shortHash 0 1⟩ []) :: steps false 2 100 ++
    .call true (.replacePeerPolicy false []) :: steps true 7 101 ++ steps false 12 102

/-- The peer is registered, and has its address, under a policy that allows none. -/
theorem peer_readmitted : ∃ after,
    start SyncCall.plainEnv AddressHash.hexCodec plainBoot transitConfig {} = .ok after ∧
      ∃ s, (tasks plainTasks).run (startTasks Bool after.1 0) evictedAnnounce = some s ∧
        s.shared.settled = some ⟨false, ∅⟩ ∧ (∀ i, (s.phase i).isIdle = true) ∧
          (s.shared.registry.lookup (shortHash 0 1)).isSome ∧
            s.shared.router.resolve (.new 10 20 0 2) = some (shortHash 0 1) := by
  have seen : ∃ after,
      start SyncCall.plainEnv AddressHash.hexCodec plainBoot transitConfig {} = .ok after ∧
        ((tasks plainTasks).run (startTasks Bool after.1 0) evictedAnnounce).map
          (fun s => (s.shared.settled, (s.phase false).isIdle, (s.phase true).isIdle,
            (s.shared.registry.lookup (shortHash 0 1)).isSome,
            s.shared.router.resolve (.new 10 20 0 2))) =
        some (some ⟨false, ∅⟩, true, true, true, some (shortHash 0 1)) := ⟨_, rfl, by decide⟩
  obtain ⟨after, started, seen⟩ := seen
  obtain ⟨s, ran, observed⟩ := Option.map_eq_some_iff.mp seen
  simp only [Prod.mk.injEq] at observed
  obtain ⟨settled, first, second, registered, resolved⟩ := observed
  refine ⟨after, started, s, ran, settled, ?_, registered, resolved⟩
  intro i
  cases i
  · exact first
  · exact second

end Announce

end Kaonic.Vpn
