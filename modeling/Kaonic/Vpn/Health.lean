import Kaonic.Vpn.Snapshot

/-!
# Health

What the status of a runtime says of its TUN task once that has stopped.
-/

namespace Kaonic.Vpn
open Net

/-- Running, without an error. -/
def VpnSnapshot.Healthy (shown : VpnSnapshot) : Prop :=
  shown.status = "running" ∧ shown.lastError = none

/-- The step comes to a sync whose commands all succeed. -/
def Event.Clears (env : VpnEnv) (hex : Text.Codec AddressHash) (reader : FrameReader)
    (s : VpnSystem) (e : Event) : Prop :=
  ∃ o mid, e.resync env hex reader s = some (o, mid) ∧
    (o.rebuild env mid).SyncCompletes env o.platform

namespace VpnRuntime

/-- Beside a TUN, so that the status tells running from failed. -/
structure Attached (rt : VpnRuntime) : Prop where
  interface : rt.interfaceName.isSome = true
  status : rt.status ≠ .mock

def Running (rt : VpnRuntime) : Prop := rt.status = .running ∧ rt.lastError = none

def Failed (rt : VpnRuntime) : Prop := rt.status = .error ∧ rt.lastError.isSome = true

section

variable {env : VpnEnv} {hex : Text.Codec AddressHash} {reader : FrameReader} {rt rt' : VpnRuntime}
  {platform : Platform} {host : Host}

theorem healthy_iff (now : Nat) : (rt.snapshotBlocking env hex now).Healthy ↔ rt.Running := by
  refine and_congr_left fun _ => ?_
  show statusStr rt.status = "running" ↔ _
  cases rt.status <;> decide

theorem Failed.not_running (failed : rt.Failed) : ¬ rt.Running := by
  rintro ⟨running, _⟩
  rw [failed.1] at running
  cases running

/-- A sync beside a TUN ends running or failed, whatever was before. -/
theorem syncRoutes_health (attached : rt.Attached) :
    (rt.syncRoutes env platform host).1.Attached ∧
      if rt.SyncCompletes env platform then (rt.syncRoutes env platform host).1.Running
      else (rt.syncRoutes env platform host).1.Failed := by
  obtain ⟨name, found⟩ := Option.isSome_iff_exists.mp attached.interface
  have outcome := (@syncRoutes_eq env platform rt host name found).2
  split at outcome
  · rename_i completes
    have running : (rt.recordSynced env).status = .running := if_pos attached.status
    rw [if_pos completes, outcome]
    refine ⟨⟨attached.interface, ?_⟩, running, rfl⟩
    rw [running]
    decide
  · rename_i breaks
    obtain ⟨err, failed⟩ := outcome
    rw [if_neg breaks, failed]
    exact ⟨⟨attached.interface, fun mock => by cases mock⟩, rfl, rfl⟩

theorem Attached.quiet (attached : rt.Attached) (quiet : rt.Quiet rt') : rt'.Attached := by
  refine ⟨?_, ?_⟩
  · rw [quiet.fixed.interfaceName]
    exact attached.interface
  · rcases quiet.health with ⟨same, _⟩ | ⟨error, _⟩
    · rw [same]
      exact attached.status
    · rw [error]
      decide

theorem Failed.quiet (failed : rt.Failed) (quiet : rt.Quiet rt') : rt'.Failed := by
  rcases quiet.health with ⟨status, lastError⟩ | error
  · rw [Failed, status, lastError]
    exact failed
  · exact error

theorem Attached.rebuild {op : Op} {mid : VpnRuntime} (attached : rt.Attached)
    (comes : op.resyncs env hex reader rt = some mid) : (op.rebuild env mid).Attached := by
  obtain ⟨fixed, status, _⟩ := resyncs_fixed comes
  have same : (op.rebuild env mid).status = mid.status := by
    unfold Op.rebuild
    split <;> rfl
  refine ⟨?_, ?_⟩
  · rw [fixed_rebuild.interfaceName, fixed.interfaceName]
    exact attached.interface
  · rw [same, status]
    exact attached.status

theorem started_attached {boot : Boot} {config : VpnConfig} {after : VpnRuntime × Host}
    (started : start env hex boot config host = .ok after)
    (interface : after.1.interfaceName.isSome = true) : after.1.Attached := by
  obtain ⟨_, rt, _, _, _, _, status, rfl⟩ := start_built started
  have attached : rt.interfaceName.isSome = true := by
    rwa [(fixed_syncRoutes boot.platform).interfaceName] at interface
  rw [if_pos attached] at status
  have built : (rt.rebuildRouter env boot.now).Attached := by
    refine ⟨attached, ?_⟩
    show rt.status ≠ .mock
    rw [status]
    decide
  exact (syncRoutes_health built).1

end

end VpnRuntime

/-! ### Along a run -/

section

variable {env : VpnEnv} {hex : Text.Codec AddressHash} {reader : FrameReader} {msgpack : Msgpack}
  {s : VpnSystem}

/-- A step leaves the runtime running where it clears, and failed where it was failed and the step
does not clear. -/
theorem step_health (short : s.rt.network.networkLength ≤ 30) (attached : s.rt.Attached) (e : Event) :
    let rt' := ((system env hex reader msgpack).step s e).1.rt
    rt'.Attached ∧ (e.Clears env hex reader s → rt'.Running) ∧
      (¬ e.Clears env hex reader s → s.rt.Failed → rt'.Failed) := by
  intro rt'
  cases comes : e.resync env hex reader s with
  | none =>
    have quiet : s.rt.Quiet rt' := step_quiet comes
    refine ⟨attached.quiet quiet, ?_, fun _ failed => failed.quiet quiet⟩
    rintro ⟨_, _, some_, _⟩
    rw [comes] at some_
    cases some_
  | some r =>
    have synced : rt' = _ := step_resynced short comes
    have before := attached.rebuild (resync_eq_some.mp comes).2.2
    obtain ⟨after, outcome⟩ :=
      @VpnRuntime.syncRoutes_health env (r.1.rebuild env r.2) r.1.platform s.host before
    rw [synced]
    refine ⟨after, ?_, ?_⟩
    · rintro ⟨o, mid, same, completes⟩
      rw [comes] at same
      obtain rfl := Option.some.inj same
      rwa [if_pos completes] at outcome
    · intro kept _
      rwa [if_neg fun completes => kept ⟨r.1, r.2, comes, completes⟩] at outcome

theorem run_attached (short : s.rt.network.networkLength ≤ 30) (attached : s.rt.Attached)
    (events : List Event) : ((system env hex reader msgpack).run s events).rt.Attached :=
  (Machine.run_invariant (I := fun s : VpnSystem => s.rt.network.networkLength ≤ 30 ∧ s.rt.Attached)
    (fun s e kept => ⟨step_short s kept.1 e, (step_health kept.1 kept.2 e).1⟩)
    ⟨short, attached⟩ events).2

/-- A failed runtime stays so while no step clears. -/
theorem run_failed (short : s.rt.network.networkLength ≤ 30) (attached : s.rt.Attached)
    (failed : s.rt.Failed) {earlier rest : List Event}
    (kept : ∀ first e last, earlier ++ rest = first ++ e :: last →
      ¬ e.Clears env hex reader ((system env hex reader msgpack).run s first)) :
    ((system env hex reader msgpack).run s earlier).rt.Failed := by
  induction earlier generalizing s with
  | nil => exact failed
  | cons e earlier ih =>
    obtain ⟨attached', _, stays⟩ := @step_health env hex reader msgpack s short attached e
    refine ih (step_short s short e) attached' (stays (kept [] e _ rfl) failed) ?_
    intro first e' last same
    exact kept (e :: first) e' last (congrArg (List.cons e) same)

/-- The TUN task only reads beside a TUN. -/
theorem reading_attached (events : List Event) (short : s.rt.network.networkLength ≤ 30)
    (reading : ((system env hex reader msgpack).run s events).reading = true) :
    s.reading = true := by
  induction events generalizing s with
  | nil => exact reading
  | cons e rest ih =>
    have next := ih (step_short s short e) reading
    cases e with
    | op op =>
      cases served : op.served s.rt with
      | true => rwa [step_served served] at next
      | false => rwa [step_unserved served] at next
    | tunRead now sendToOutLinks read =>
      cases loop : s.reading with
      | true => rfl
      | false =>
        rw [step_tunStopped loop, loop] at next
        cases next
    | _ => exact next

end

/-- After the TUN task has stopped on an error, no snapshot is healthy if and only if no later
operation comes to a sync that completes. -/
theorem stopped_unhealthy_iff (env : VpnEnv) (hex : Text.Codec AddressHash) (reader : FrameReader)
    (msgpack : Msgpack) (boot : VpnRuntime.Boot) (config : VpnConfig) (host : Host)
    (after : VpnRuntime × Host)
    (started : VpnRuntime.start env hex boot config host = .ok after) (before : List Event)
    (reading : ((system env hex reader msgpack).run (.started after) before).reading = true)
    (now : Nat) (sendToOutLinks : AddressHash → List UInt8 → Nat) (err : String)
    (later : List Event) :
    let s := ((system env hex reader msgpack).step
      ((system env hex reader msgpack).run (.started after) before)
      (.tunRead now sendToOutLinks (.error err))).1
    (∀ earlier rest, later = earlier ++ rest → ∀ clock,
      ¬ (((system env hex reader msgpack).run s earlier).rt.snapshotBlocking env hex clock).Healthy) ↔
    ∀ earlier e rest, later = earlier ++ e :: rest →
      ¬ e.Clears env hex reader ((system env hex reader msgpack).run s earlier) := by
  intro s
  have small := started_short started
  have attached := VpnRuntime.started_attached started (reading_attached before small reading)
  have stopped : s = ⟨_, _, false⟩ := congrArg Prod.fst (step_tunFailed reading now sendToOutLinks err)
  have failed : s.rt.Failed := by
    rw [stopped]
    exact ⟨rfl, rfl⟩
  have reached : s = (system env hex reader msgpack).run (.started after)
      (before ++ [.tunRead now sendToOutLinks (.error err)]) := by
    rw [Machine.run_append]
    rfl
  have beside : s.rt.Attached := by
    rw [reached]
    exact run_attached small attached _
  have short : s.rt.network.networkLength ≤ 30 := by
    rw [reached]
    exact run_short _ small _
  constructor
  · rintro unhealthy earlier e rest rfl clears
    have running := (@step_health env hex reader msgpack _ (run_short s short earlier)
      (run_attached short beside earlier) e).2.1 clears
    refine unhealthy (earlier ++ [e]) rest (by simp) 0 ((VpnRuntime.healthy_iff 0).mpr ?_)
    rw [Machine.run_append]
    exact running
  · rintro kept earlier rest rfl clock healthy
    exact (run_failed short beside failed kept).not_running ((VpnRuntime.healthy_iff clock).mp healthy)

/-! ### A route change after the failure -/

def tunBoot : VpnRuntime.Boot := { VpnRuntime.plainBoot with openTun := .ok (some "tun0") }

theorem tunBoot_starts : ∃ after,
    VpnRuntime.start SyncCall.plainEnv AddressHash.hexCodec tunBoot transitConfig {} = .ok after ∧
      after.1.interfaceName.isSome = true := by
  refine ⟨_, rfl, ?_⟩
  rw [(VpnRuntime.fixed_syncRoutes _).interfaceName]
  rfl

def plainSystem : Machine VpnSystem Event Fate :=
  system SyncCall.plainEnv AddressHash.hexCodec VpnRuntime.headerReader .short

def readFailed : Event := .tunRead 100 (fun _ _ => 0) (.error "Input/output error (os error 5)")

theorem stopped_unhealthy_iff_tick : ∃ after,
    VpnRuntime.start SyncCall.plainEnv AddressHash.hexCodec tunBoot transitConfig {} = .ok after ∧
      ∀ clock, ¬ ((plainSystem.run (.started after) [readFailed, .announceTick []]).rt.snapshotBlocking
        SyncCall.plainEnv AddressHash.hexCodec clock).Healthy := by
  obtain ⟨after, started, interface⟩ := tunBoot_starts
  refine ⟨after, started, ?_⟩
  refine (stopped_unhealthy_iff SyncCall.plainEnv AddressHash.hexCodec VpnRuntime.headerReader
    .short tunBoot transitConfig {} after started [] interface 100 (fun _ _ => 0) _
    [.announceTick []]).mpr ?_ [.announceTick []] [] rfl
  intro earlier e rest same
  have tick : e = .announceTick [] := by
    have member : e ∈ [Event.announceTick []] := by
      rw [same]
      exact List.mem_append_right _ List.mem_cons_self
    exact List.mem_singleton.mp member
  rw [tick]
  rintro ⟨_, _, comes, _⟩
  cases comes

/-- New advertised routes make a runtime look healthy that can no longer read from its TUN. -/
theorem stopped_looks_healthy : ∃ after,
    VpnRuntime.start SyncCall.plainEnv AddressHash.hexCodec tunBoot transitConfig {} = .ok after ∧
    (plainSystem.run (.started after) []).reading = true ∧
    let s := plainSystem.run (.started after)
      [readFailed, .op (.replaceAdvertisedRoutes SyncCall.working [] [.net24 192 168 10])]
    s.reading = false ∧
      (s.rt.snapshotBlocking SyncCall.plainEnv AddressHash.hexCodec 110).Healthy := by
  obtain ⟨after, started, interface⟩ := tunBoot_starts
  have small := started_short started
  have failed : plainSystem.run (.started after) [readFailed] =
      ⟨after.1.setError _, after.2, false⟩ := congrArg Prod.fst (step_tunFailed interface _ _ _)
  have attached : (plainSystem.run (.started after) [readFailed]).rt.Attached :=
    run_attached small (VpnRuntime.started_attached started interface) [readFailed]
  have short : (plainSystem.run (.started after) [readFailed]).rt.network.networkLength ≤ 30 := by
    rw [failed]
    exact small
  have running := (@step_health SyncCall.plainEnv AddressHash.hexCodec VpnRuntime.headerReader
    .short _ short attached
    (.op (.replaceAdvertisedRoutes SyncCall.working [] [.net24 192 168 10]))).2.1
    ⟨_, _, rfl, fun _ _ => rfl, rfl⟩
  refine ⟨after, started, interface, ?_, (VpnRuntime.healthy_iff 110).mpr running⟩
  show (plainSystem.run (plainSystem.run (.started after) [readFailed])
    [.op (.replaceAdvertisedRoutes SyncCall.working [] [.net24 192 168 10])]).reading = false
  rw [failed]
  rfl

end Kaonic.Vpn
