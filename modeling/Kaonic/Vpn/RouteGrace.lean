import Kaonic.Vpn.Tasks

/-!
# Routes within their grace

The watchdog reads the deadline of a peer, then its routes, and then clears them; an announce or a
control frame stores a deadline, then the routes. Routes that are stored while a watchdog is on its
way from the one to the other do not last.
-/

namespace Kaonic.Vpn
open Net

/-- The clock that a watchdog goes by. -/
def Phase.tick : Phase → Option Nat
  | .ticking tick | .expiring tick _ _ | .inspecting tick _ _ _ | .clearing tick _ _ => some tick
  | _ => none

/-- A watchdog has found the deadline of a peer passed and has yet to leave it. -/
def Phase.wipes (id : Nat) : Phase → Bool
  | .inspecting _ _ peer _ | .clearing _ peer _ => decide (peer = id)
  | _ => false

/-- The next access stores the deadline of a peer. -/
def Phase.dates (id : Nat) : Phase → Bool
  | .writing peer (.expiry :: _) => decide (peer = id)
  | _ => false

/-- The next access stores the routes of a peer. -/
def Phase.stores (id : Nat) : Phase → Bool
  | .writing peer (.routes _ :: _) => decide (peer = id)
  | _ => false

/-- The peer that an announce or a control frame renews. -/
def Phase.renews : Phase → Option Nat
  | .writing peer _ => some peer
  | _ => none

section Accesses

variable {env : TaskEnv} {s s' : Shared} {ticket now id : Nat} {p q : Phase}

theorem heap_modify (s : Shared) (peer : Nat) (f : Peer → Peer) (id : Nat) :
    (s.modify peer f).heap id = if id = peer then f (s.heap peer) else s.heap id :=
  Function.update_apply s.heap peer (f (s.heap peer)) id

theorem heap_put (s : Shared) (peer : Peer) (old : id < s.allocated) :
    (s.put peer).heap id = s.heap id := by
  dsimp only [Shared.put]
  rw [Function.update_of_ne (Nat.ne_of_lt old)]

/-- What an access makes of the routes of a peer and of their deadline. -/
inductive Renewal (id now : Nat) (p : Phase) (old new : Peer) : Prop where
  | keep (routes : new.routes = old.routes) (expires : new.routeExpiresTs = old.routeExpiresTs)
  | date (dates : p.dates id = true) (routes : new.routes = old.routes)
      (expires : new.routeExpiresTs = now + routeGraceSecs)
  | store (stores : p.stores id = true) (expires : new.routeExpiresTs = old.routeExpiresTs)
  | wipe (wipes : p.wipes id = true) (expires : new.routeExpiresTs = old.routeExpiresTs)

theorem Access.renewal (access : Access env ticket now s p s' q) (old : id < s.allocated) :
    Renewal id now p (s.heap id) (s'.heap id) := by
  cases access with
  | create | insert =>
    rw [heap_put s _ old]
    exact .keep rfl rfl
  | mark peer err =>
    rw [heap_modify]
    split
    · rename_i same
      rw [same]
      cases err <;> exact .keep rfl rfl
    · exact .keep rfl rfl
  | renew peer w writes =>
    rw [heap_modify]
    split
    · rename_i same
      rw [same]
      cases w with
      | expiry => exact .date (decide_eq_true rfl) rfl rfl
      | routes rs => exact .store (decide_eq_true rfl) rfl
      | desc | seen | clearError => exact .keep rfl rfl
    · exact .keep rfl rfl
  | clear tick peer todo =>
    rw [heap_modify]
    split
    · rename_i same
      rw [same]
      exact .wipe (decide_eq_true rfl) rfl
    · exact .keep rfl rfl
  | _ => exact .keep rfl rfl

/-- A watchdog comes to wipe a peer only if the deadline has passed by its clock. -/
theorem Access.wipes (access : Access env ticket now s p s' q) (wipes : q.wipes id = true) :
    p.wipes id = true ∨ ∃ tick ∈ p.tick, (s.heap id).routeExpiresTs ≤ tick := by
  cases access with
  | @lapse tick _ peer _ _ late =>
    obtain rfl : peer = id := of_decide_eq_true wipes
    exact Or.inr ⟨tick, rfl, late.2⟩
  | due => exact Or.inl wipes
  | _ => cases wipes

theorem Access.tick_from (access : Access env ticket now s p s' q) {tick : Nat} (ticks : tick ∈ q.tick) :
    tick ∈ p.tick := by
  cases access with
  | tick | live | lapse | empty | due | clear => exact ticks
  | _ => cases ticks

theorem Access.renews (access : Access env ticket now s p s' q) (filed : s.Filed)
    (before : ∀ peer ∈ p.renews, peer < s.allocated) : ∀ peer ∈ q.renews, peer < s'.allocated := by
  cases access with
  | find _ _ known | join _ _ known | hear _ known =>
    rintro _ ⟨⟩
    exact (filed _ _ known).1
  | create =>
    rintro _ ⟨⟩
    exact Nat.lt_succ_self _
  | renew => exact before
  | _ =>
    intro peer member
    cases member

theorem Begun.renews (begun : Begun s p) : p.renews = none := by
  cases begun <;> rfl

theorem Begun.wipes (begun : Begun s p) : p.wipes id = false := by
  cases begun <;> rfl

/-- A call of the watchdog goes by the clock it begins at. -/
theorem Call.tick (op : Call) {tick : Nat} (ticks : tick ∈ (op.begin env s).tick) :
    op = .watchdog tick := by
  cases op with
  | watchdog now =>
    obtain rfl := Option.some.inj ticks
    rfl
  | announce | ctrl | replacePeerPolicy =>
    dsimp only [Call.begin] at ticks
    split at ticks <;> cases ticks

end Accesses

section Runs

variable {ι : Type}

/-- No watchdog begins once the clock has reached a bound. -/
def Before (bound : Nat) : TaskEvent ι → Prop
  | .call _ (.watchdog tick) => tick < bound
  | .call _ _ | .step _ _ => True

/-- Nor does an announce or a control frame date the routes of the peer back. -/
def Forward (t id : Nat) (s : TaskState ι) : TaskEvent ι → Prop
  | .call i op => Before (t + routeGraceSecs) (.call i op)
  | .step i now => (s.phase i).dates id = true → t ≤ now

/-- What may happen until a task goes on that has stored the deadline of `t`. -/
def Waits (t id : Nat) (i : ι) (s : TaskState ι) (e : TaskEvent ι) : Prop :=
  Forward t id s e ∧
    match e with
    | .call _ _ => True
    | .step j _ => j ≠ i

/-- What may happen as long as routes accepted at `t` stand: they are not replaced, and the clock
does not reach the end of their grace. -/
def Stands (t id : Nat) (s : TaskState ι) (e : TaskEvent ι) : Prop :=
  Forward t id s e ∧
    match e with
    | .call _ _ => True
    | .step i _ => (s.phase i).stores id = false

theorem Forward.before {t id : Nat} {s : TaskState ι} {e : TaskEvent ι} (forward : Forward t id s e) :
    Before (t + routeGraceSecs) e := by
  cases e with
  | call => exact forward
  | step => trivial

/-- No watchdog goes by a clock that has reached a bound, and the peers being renewed exist. -/
structure Early (bound : Nat) (s : TaskState ι) : Prop where
  ticks : ∀ i, ∀ tick ∈ (s.phase i).tick, tick < bound
  renews : ∀ i, ∀ id ∈ (s.phase i).renews, id < s.shared.allocated

/-- The deadline of a peer is that of `t` or later, and no watchdog is past it. -/
structure Timely (t id : Nat) (s : TaskState ι) : Prop where
  allocated : id < s.shared.allocated
  deadline : t + routeGraceSecs ≤ (s.shared.heap id).routeExpiresTs
  ticks : ∀ i, ∀ tick ∈ (s.phase i).tick, tick < t + routeGraceSecs

/-- The routes accepted at `t` are in place, and no watchdog is about to wipe them. -/
structure Kept (t id : Nat) (rs : List Ipv4Cidr) (s : TaskState ι) : Prop extends
    Timely t id s where
  routes : (s.shared.heap id).routes = rs
  unwatched : ∀ i, (s.phase i).wipes id = false

/-- A step of the watchdog stands. -/
theorem stands_of_wipes {s : TaskState ι} (t : Nat) {id : Nat} {j : ι}
    (wipes : (s.phase j).wipes id = true) (now : Nat) :
    Stands t id s (.step j now) ∧ (s.phase j).isIdle = false := by
  dsimp only [Stands, Forward]
  cases here : s.phase j with
  | inspecting | clearing => exact ⟨⟨fun dates => (by cases dates), rfl⟩, rfl⟩
  | _ =>
    rw [here] at wipes
    cases wipes

variable [DecidableEq ι] {env : TaskEnv} {s s' : TaskState ι} {e : TaskEvent ι} {t id : Nat}
  {rs : List Ipv4Cidr}

theorem ticks_step {bound : Nat} (ticks : ∀ i, ∀ tick ∈ (s.phase i).tick, tick < bound)
    (before : Before bound e) (stepped : (tasks env).step s e = some s') :
    ∀ i, ∀ tick ∈ (s'.phase i).tick, tick < bound := by
  refine TaskSystem.phases_step (P := fun p => ∀ tick ∈ p.tick, tick < bound) ticks
    (fun _ early => early) ?_ ?_ stepped
  · rintro i op rfl tick member
    obtain rfl := op.tick member
    exact before
  · rintro i now rfl early tick member
    exact early tick ((tasks_access env i now s.shared (s.phase i)).tick_from member)

theorem Early.step {bound : Nat}
    (asserted : TaskSystem.Asserted (Sound env) (fun s _ p => Placed s p) s) (early : Early bound s)
    (before : Before bound e) (stepped : (tasks env).step s e = some s') : Early bound s' := by
  refine ⟨ticks_step early.ticks before stepped, ?_⟩
  obtain ⟨i, op, rfl, _, rfl⟩ | ⟨i, now, rfl, rfl⟩ := tasks_step stepped
  · refine (Function.forall_update_iff s.phase fun _ p => ∀ id ∈ p.renews, id < _).mpr ⟨?_, ?_⟩
    · rw [(op.begun env s.shared.toShared).renews]
      exact fun _ none_ => (by cases none_)
    · exact fun j _ => early.renews j
  · have access := tasks_access env i now s.shared (s.phase i)
    refine (Function.forall_update_iff s.phase fun _ p => ∀ id ∈ p.renews, id < _).mpr ⟨?_, ?_⟩
    · exact access.renews asserted.1.filed (early.renews i)
    · intro j _ id member
      exact Nat.lt_of_lt_of_le (early.renews j id member) access.effect.frame.allocated

theorem Timely.step (timely : Timely t id s) (forward : Forward t id s e)
    (stepped : (tasks env).step s e = some s') : Timely t id s' := by
  have ticks := ticks_step timely.ticks forward.before stepped
  obtain ⟨i, op, rfl, idle, rfl⟩ | ⟨i, now, rfl, rfl⟩ := tasks_step stepped
  · exact ⟨timely.allocated, timely.deadline, ticks⟩
  · have access := s.access env i now
    refine ⟨Nat.lt_of_lt_of_le timely.allocated access.effect.frame.allocated, ?_, ticks⟩
    cases access.renewal timely.allocated with
    | date dates _ expires =>
      rw [expires]
      exact Nat.add_le_add_right (forward dates) _
    | keep _ expires | store _ expires | wipe _ expires =>
      rw [expires]
      exact timely.deadline

theorem Kept.step (kept : Kept t id rs s) (stands : Stands t id s e)
    (stepped : (tasks env).step s e = some s') : Kept t id rs s' := by
  refine ⟨kept.toTimely.step stands.1 stepped, ?_, ?_⟩
  · obtain ⟨i, op, rfl, _, rfl⟩ | ⟨i, now, rfl, rfl⟩ := tasks_step stepped
    · exact kept.routes
    · cases (s.access env i now).renewal kept.allocated with
      | keep routes | date _ routes => exact routes.trans kept.routes
      | store stores =>
        have own : (s.phase i).stores id = false := stands.2
        rw [own] at stores
        cases stores
      | wipe wipes =>
        rw [kept.unwatched i] at wipes
        cases wipes
  · refine TaskSystem.phases_step (P := fun p => p.wipes id = false) kept.unwatched
      (fun _ unwatched => unwatched) ?_ ?_ stepped
    · rintro i op rfl
      exact (op.begun env s.shared.toShared).wipes
    · rintro i now rfl unwatched
      rw [← Bool.not_eq_true]
      intro wipes
      rcases (tasks_access env i now s.shared (s.phase i)).wipes wipes with soon | ⟨tick, member, late⟩
      · rw [unwatched] at soon
        cases soon
      · have early := kept.ticks i tick member
        have deadline := kept.deadline
        omega

theorem step_busy {i : ι} (busy : (s.phase i).isIdle = false) (now : Nat) :
    (tasks env).step s (.step i now) = some (s.after env i now) :=
  if_neg (by rw [Bool.not_eq_true]; exact busy)

theorem Waits.phase {i : ι} (waits : Waits t id i s e) (busy : (s.phase i).isIdle = false)
    (stepped : (tasks env).step s e = some s') : s'.phase i = s.phase i := by
  obtain ⟨j, op, rfl, idle, rfl⟩ | ⟨j, now, rfl, rfl⟩ := tasks_step stepped
  · dsimp only
    refine update_busy idle _ ?_
    intro same
    rw [same] at busy
    cases busy
  · exact after_other s (Ne.symm waits.2) now

/-- A deadline that is stored at `t`. -/
theorem Early.dated {i : ι} {writes : List PeerWrite} (early : Early (t + routeGraceSecs) s)
    (here : s.phase i = .writing id (.expiry :: writes)) : Timely t id (s.after env i t) := by
  have old : id < s.shared.allocated := early.renews i id (by rw [here]; rfl)
  have access := s.access env i t
  refine ⟨Nat.lt_of_lt_of_le old access.effect.frame.allocated, ?_, ?_⟩
  · dsimp only [TaskState.after, tasks]
    rw [here]
    dsimp only [Shared.advance]
    rw [heap_modify, if_pos rfl]
    exact Nat.le_refl _
  · have stepped : (tasks env).step s (.step i t) = some (s.after env i t) :=
      step_busy (by rw [here]; rfl) t
    exact ticks_step early.ticks (by exact trivial) stepped

/-- Routes that are stored under such a deadline, with no watchdog past the one before. -/
theorem Timely.stored {i : ι} {writes : List PeerWrite} (timely : Timely t id s)
    (here : s.phase i = .writing id (.routes rs :: writes))
    (unwatched : ∀ j, (s.phase j).wipes id = false) (now : Nat) :
    Kept t id rs (s.after env i now) := by
  have undated : Forward t id s (.step i now) := by
    intro dates
    rw [here] at dates
    cases dates
  refine ⟨timely.step undated (step_busy (by rw [here]; rfl) now), ?_, ?_⟩
  · dsimp only [TaskState.after, tasks]
    rw [here]
    dsimp only [Shared.advance]
    rw [heap_modify, if_pos rfl]
    rfl
  · intro j
    by_cases same : j = i
    · rw [same, after_own, here]
      rfl
    · rw [after_other s same]
      exact unwatched j

/-- A watchdog on its way wipes what it finds. -/
theorem wiped {j : ι} (wipes : (s.phase j).wipes id = true)
    (some_ : (s.shared.heap id).routes ≠ []) (now : Nat) :
    ∃ events s', TaskSystem.Path (tasks env) (Stands t id) s events s' ∧
      (s'.shared.heap id).routes = [] := by
  have clears : ∀ s : TaskState ι, ∀ tick todo, s.phase j = .clearing tick id todo →
      ((s.after env j now).shared.heap id).routes = [] := by
    intro s tick todo here
    dsimp only [TaskState.after, tasks]
    rw [here]
    dsimp only [Shared.advance]
    rw [heap_modify, if_pos rfl]
  have first := stands_of_wipes t wipes now
  cases here : s.phase j with
  | clearing tick peer todo =>
    obtain rfl : peer = id := of_decide_eq_true (by rw [here] at wipes; exact wipes)
    exact ⟨_, _, .cons first.1 (step_busy first.2 now) (.nil _), clears s tick todo here⟩
  | inspecting tick changed peer todo =>
    obtain rfl : peer = id := of_decide_eq_true (by rw [here] at wipes; exact wipes)
    have next : (s.after env j now).phase j = .clearing tick peer todo := by
      rw [after_own, here]
      dsimp only [Shared.advance]
      rw [if_pos some_]
    have again : ((s.after env j now).phase j).wipes peer = true := by
      rw [next]
      exact decide_eq_true rfl
    have second := stands_of_wipes t again now
    exact ⟨_, _, .cons first.1 (step_busy first.2 now)
      (.cons second.1 (step_busy second.2 now) (.nil _)), clears _ tick todo next⟩
  | _ =>
    rw [here] at wipes
    cases wipes

end Runs

/-- A task that has stored the deadline of `t` stores a nonempty list of routes for the peer: they
stand in every run from there, if and only if no watchdog is then on its way to wipe the peer. -/
theorem routes_kept_iff {ι : Type} [DecidableEq ι] (env : TaskEnv) (boot : VpnRuntime.Boot)
    (config : VpnConfig) (host : Host) (after : VpnRuntime × Host)
    (started : VpnRuntime.start env.toVpnEnv env.hex boot config host = .ok after)
    (t id : Nat) (rs : List Ipv4Cidr) (nonempty : rs ≠ []) (i : ι) (rest : List PeerWrite)
    (events : List (TaskEvent ι)) (s₀ : TaskState ι)
    (path : TaskSystem.Path (tasks env) (fun _ => Before (t + routeGraceSecs))
      (startTasks ι after.1 boot.now) events s₀)
    (accepts : s₀.phase i = .writing id (.expiry :: .routes rs :: rest))
    (meanwhile : List (TaskEvent ι)) (s : TaskState ι)
    (waits : TaskSystem.Path (tasks env) (Waits t id i) (s₀.after env i t) meanwhile s) (now : Nat) :
    (∀ later s', TaskSystem.Path (tasks env) (Stands t id) (s.after env i now) later s' →
      (s'.shared.heap id).routes = rs) ↔ ∀ j, (s.phase j).wipes id = false := by
  obtain ⟨_, early⟩ := path.kept
    (fun s => TaskSystem.Asserted (Sound env) (fun s _ p => Placed s p) s ∧
      Early (t + routeGraceSecs) s)
    (fun _ _ _ inv before stepped =>
      ⟨(sound_outline env).step inv.1 stepped, inv.2.step inv.1 before stepped⟩)
    ⟨startTasks_sound started boot.now, fun _ _ none_ => (by cases none_),
      fun _ _ none_ => (by cases none_)⟩
  have renewed : (s₀.after env i t).phase i = .writing id (.routes rs :: rest) := by
    rw [after_own, accepts]
    rfl
  obtain ⟨timely, here⟩ := waits.kept
    (fun s => Timely t id s ∧ s.phase i = .writing id (.routes rs :: rest))
    (fun _ _ _ inv waits stepped =>
      ⟨inv.1.step waits.1 stepped, (waits.phase (by rw [inv.2]; rfl) stepped).trans inv.2⟩)
    ⟨early.dated accepts, renewed⟩
  refine ⟨?_, ?_⟩
  · intro stand j
    rw [← Bool.not_eq_true]
    intro wipes
    have other : j ≠ i := by
      rintro rfl
      rw [here] at wipes
      cases wipes
    have stored : ((s.after env i now).shared.heap id).routes = rs := stand [] _ (.nil _)
    obtain ⟨later, s', path, gone⟩ := wiped (t := t) (s := s.after env i now) (j := j)
      (by rw [after_other s other]; exact wipes) (by rw [stored]; exact nonempty) now
    exact nonempty ((stand later s' path).symm.trans gone)
  · intro unwatched later s' path
    have kept := path.kept (Kept t id rs) (fun _ _ _ kept stands => kept.step stands)
      (timely.stored here unwatched now)
    exact kept.routes

/-! ### A watchdog and an announce -/

section Announce

open VpnRuntime

variable {ι : Type} [DecidableEq ι]

instance (bound : Nat) : DecidablePred (@Before ι bound)
  | .call _ (.watchdog tick) => inferInstanceAs (Decidable (tick < bound))
  | .call _ (.announce _ _) | .call _ (.ctrl _ _) | .call _ (.replacePeerPolicy _ _) | .step _ _ =>
    inferInstanceAs (Decidable True)

instance (t id : Nat) (s : TaskState ι) : DecidablePred (Forward t id s)
  | .call i op => inferInstanceAs (Decidable (Before (t + routeGraceSecs) (.call i op)))
  | .step i now => inferInstanceAs (Decidable ((s.phase i).dates id = true → t ≤ now))

instance (t id : Nat) (i : ι) (s : TaskState ι) : DecidablePred (Waits t id i s)
  | .call j op => inferInstanceAs (Decidable (Forward t id s (.call j op) ∧ True))
  | .step j now => inferInstanceAs (Decidable (Forward t id s (.step j now) ∧ j ≠ i))

instance (t id : Nat) (s : TaskState ι) : DecidablePred (Stands t id s)
  | .call j op => inferInstanceAs (Decidable (Forward t id s (.call j op) ∧ True))
  | .step j now =>
    inferInstanceAs (Decidable (Forward t id s (.step j now) ∧ (s.phase j).stores id = false))

def homeRoutes : List Ipv4Cidr := [.net24 192 168 10]

/-- A peer announces itself. The watchdog begins at some time, and after two accesses the peer
announces itself again, up to the deadline it stores. -/
def announcedAgain (tick : Nat) : List (TaskEvent Bool) :=
  .call false (.announce ⟨shortHash 0 1⟩ homeRoutes) :: steps false 14 100 ++
    .call true (.watchdog tick) :: steps true 2 tick ++
      .call false (.announce ⟨shortHash 0 1⟩ homeRoutes) :: steps false 4 151

/-- The announce stores its deadline, the watchdog goes on, and the announce stores the routes. -/
def storedAgain (s : TaskState Bool) (n : Nat) : Option (TaskState Bool) :=
  (tasks plainTasks).play (Waits 151 0 false) (s.after plainTasks false 151) (steps true n 151)

/-- The watchdog is early for the deadline of the first announce. -/
theorem routes_kept_iff_early : ∃ after,
    start SyncCall.plainEnv AddressHash.hexCodec plainBoot transitConfig {} = .ok after ∧
      ∃ s₀, (tasks plainTasks).play (fun _ => Before (151 + routeGraceSecs))
          (startTasks Bool after.1 0) (announcedAgain 144) = some s₀ ∧
        ∃ s, storedAgain s₀ 1 = some s ∧
          ∀ later s', TaskSystem.Path (tasks plainTasks) (Stands 151 0)
            (TaskState.after plainTasks s false 152) later s' →
              (s'.shared.heap 0).routes = homeRoutes := by
  have seen : ∃ after,
      start SyncCall.plainEnv AddressHash.hexCodec plainBoot transitConfig {} = .ok after ∧
        ((tasks plainTasks).play (fun _ => Before (151 + routeGraceSecs))
          (startTasks Bool after.1 0) (announcedAgain 144)).map (fun s => (s.phase false,
            (storedAgain s 1).map fun s =>
              ((s.phase false).wipes 0, (s.phase true).wipes 0))) =
          some (.writing 0 [.expiry, .routes homeRoutes, .clearError], some (false, false)) :=
    ⟨_, rfl, rfl⟩
  obtain ⟨after, started, seen⟩ := seen
  obtain ⟨s₀, played, observed⟩ := Option.map_eq_some_iff.mp seen
  obtain ⟨accepts, observed⟩ := Prod.mk.inj observed
  obtain ⟨s, waits, unwatched⟩ := Option.map_eq_some_iff.mp observed
  obtain ⟨first, second⟩ := Prod.mk.inj unwatched
  refine ⟨after, started, s₀, played, s, waits, ?_⟩
  refine (routes_kept_iff plainTasks plainBoot transitConfig {} after started 151 0 homeRoutes
    (by decide) false [.clearError] (announcedAgain 144) s₀ (.of_play played) accepts
    (steps true 1 151) s (.of_play waits) 152).mpr ?_
  intro j
  cases j
  · exact first
  · exact second

/-- The watchdog finds the deadline of the first announce passed, and wipes the routes of the
second. -/
theorem routes_wiped : ∃ after,
    start SyncCall.plainEnv AddressHash.hexCodec plainBoot transitConfig {} = .ok after ∧
      ∃ s₀, (tasks plainTasks).play (fun _ => Before (151 + routeGraceSecs))
          (startTasks Bool after.1 0) (announcedAgain 150) = some s₀ ∧
        s₀.phase false = .writing 0 [.expiry, .routes homeRoutes, .clearError] ∧
          ∃ s, storedAgain s₀ 0 = some s ∧
            ∃ s', (tasks plainTasks).play (Stands 151 0) (TaskState.after plainTasks s false 151)
              (steps true 2 151) = some s' ∧ s'.shared.registry.lookup (shortHash 0 1) = some 0 ∧
                (s'.shared.heap 0).routes = [] := by
  have seen : ∃ after,
      start SyncCall.plainEnv AddressHash.hexCodec plainBoot transitConfig {} = .ok after ∧
        ((tasks plainTasks).play (fun _ => Before (151 + routeGraceSecs))
          (startTasks Bool after.1 0) (announcedAgain 150)).map (fun s => (s.phase false,
            (storedAgain s 0).map fun s =>
              ((tasks plainTasks).play (Stands 151 0) (TaskState.after plainTasks s false 151)
                (steps true 2 151)).map fun s =>
                  (s.shared.registry.lookup (shortHash 0 1), (s.shared.heap 0).routes))) =
          some (.writing 0 [.expiry, .routes homeRoutes, .clearError],
            some (some (some 0, []))) := ⟨_, rfl, rfl⟩
  obtain ⟨after, started, seen⟩ := seen
  obtain ⟨s₀, played, observed⟩ := Option.map_eq_some_iff.mp seen
  obtain ⟨accepts, observed⟩ := Prod.mk.inj observed
  obtain ⟨s, waits, observed⟩ := Option.map_eq_some_iff.mp observed
  obtain ⟨s', stands, observed⟩ := Option.map_eq_some_iff.mp observed
  obtain ⟨registered, gone⟩ := Prod.mk.inj observed
  exact ⟨after, started, s₀, played, accepts, s, waits, s', stands, registered, gone⟩

end Announce

end Kaonic.Vpn
