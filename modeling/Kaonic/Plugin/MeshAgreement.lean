import Kaonic.Plugin.Mesh

/-!
# Agreement across the mesh

Every run of the mesh is a flood of the issued commands: what a node has applied is its log, and
what a task is about to send is the end of that log.
-/

namespace Kaonic.Plugin

open Kaonic.Net (AddressHash)

theorem DiagnosticCommand.new_ok {id : String} {action : DiagnosticAction} {c : DiagnosticCommand}
    (h : DiagnosticCommand.new id action = .ok c) : c.id = id ∧ c.Valid := by
  cases action with
  | enable seconds =>
    obtain ⟨rfl, valid⟩ := enable_ok_iff.mp h
    exact ⟨rfl, valid⟩
  | disable =>
    obtain ⟨rfl, valid⟩ := disable_ok_iff.mp h
    exact ⟨rfl, valid⟩

theorem localControl_ok {s : DiagnosticState} {action : DiagnosticAction} {id : String}
    {now : SystemTime} {command : DiagnosticCommand}
    (h : (localControl s action id now).2 = some command) :
    (localControl s action id now).1 = (s.applyOnceAt command now).1 ∧
      command.id = id ∧ command.Valid := by
  unfold localControl at h ⊢
  cases made : DiagnosticCommand.new id action with
  | error e =>
    rw [made] at h
    cases h
  | ok c =>
    rw [made] at h
    obtain rfl := Option.some.inj h
    exact ⟨rfl, DiagnosticCommand.new_ok made⟩

theorem networkControl_encode {s : DiagnosticState} {peerHashes : Finset AddressHash}
    {source : AddressHash} {command : DiagnosticCommand} {now : SystemTime}
    (linked : source ∈ peerHashes) (valid : command.Valid) :
    networkControl s peerHashes source (.data command.encode) now =
      ((s.applyOnceAt command now).1, peerHashes,
        if (s.applyOnceAt command now).2 then some command else none) := by
  unfold networkControl
  rw [if_neg (not_not.mpr linked)]
  dsimp only
  rw [DiagnosticCommand.parse_encode valid]

namespace Mesh

variable {ι : Type} [DecidableEq ι]

@[simp] theorem setNode_self (s : Mesh ι) (n : ι) (node : MeshNode) :
    (s.setNode n node).node n = node := by simp [setNode]

theorem setNode_other (s : Mesh ι) {n k : ι} (node : MeshNode) (other : k ≠ n) :
    (s.setNode n node).node k = s.node k := by simp [setNode, other]

@[simp] theorem setNode_chan (s : Mesh ι) (n : ι) (node : MeshNode) :
    (s.setNode n node).chan = s.chan := rfl

/-! ### The flood behind a mesh -/

/-- A node has applied its log, sent part of it and holds the rest. -/
structure Holds (root : Prop) (peers : Finset AddressHash) (node : MeshNode)
    (log out : List DiagnosticCommand) : Prop where
  applied : node.applied.map Prod.fst = log
  sent : node.sent = out
  pending : log = out ++ (node.relaying.toList ++ node.announcing.toList)
  relaying : root → node.relaying = none
  announcing : ¬ root → node.announcing = none
  peers : node.peerHashes = peers
  remembers : node.state.Remembers node.clock node.applied
  capacity : node.state.maxSeenCommands = 2048

structure Floods (net : MeshNet ι) (issuer : ι) (s : Mesh ι)
    (f : Flood.State ι DiagnosticCommand) : Prop where
  nodes : ∀ n, Holds (n = issuer) (net.peers n) (s.node n) (f.log n) (f.sent n)
  chan : ∀ m n, s.chan m n = (f.chan m n).map DiagnosticCommand.encode
  issued : s.issued = f.log issuer
  valid : ∀ c ∈ s.issued, c.Valid
  ids : (s.issued.map (·.id)).Nodup
  count : s.issued.length ≤ 2048

variable {net : MeshNet ι} {issuer : ι} {s s' : Mesh ι} {f : Flood.State ι DiagnosticCommand}

omit [DecidableEq ι] in
theorem Floods.start (maxRecords : ι → Nat) (clock : ι → SystemTime) :
    Floods net issuer (Mesh.start net maxRecords clock) Flood.State.empty where
  nodes n := ⟨rfl, rfl, rfl, fun _ => rfl, fun _ => rfl, rfl,
    DiagnosticState.Remembers.new _ _, rfl⟩
  chan _ _ := rfl
  issued := rfl
  valid _ member := by cases member
  ids := List.nodup_nil
  count := Nat.zero_le _

theorem Floods.update (floods : Floods net issuer s f) {f' : Flood.State ι DiagnosticCommand}
    {n : ι} {node : MeshNode}
    (logs : ∀ k, k ≠ n → f'.log k = f.log k) (sents : ∀ k, k ≠ n → f'.sent k = f.sent k)
    (holds : Holds (n = issuer) (net.peers n) node (f'.log n) (f'.sent n)) :
    ∀ k, Holds (k = issuer) (net.peers k) ((s.setNode n node).node k) (f'.log k) (f'.sent k) := by
  intro k
  by_cases same : k = n
  · subst k
    rwa [setNode_self]
  · rw [setNode_other s node same, logs k same, sents k same]
    exact floods.nodes k

/-! ### One event -/

omit [DecidableEq ι] in
theorem Floods.ids_inj (floods : Floods net issuer s f) (safe : Flood.Safe net.Link issuer f)
    {n : ι} {a : DiagnosticCommand} (issued : a ∈ f.log issuer) :
    (∀ c t, (c, t) ∈ (s.node n).applied → c.id ≠ a.id) ↔ a ∉ f.log n := by
  rw [← (floods.nodes n).applied]
  refine ⟨?_, ?_⟩
  · intro apart member
    obtain ⟨⟨c, t⟩, inside, rfl⟩ := List.mem_map.mp member
    exact apart c t inside rfl
  · intro absent c t member same
    have known : c ∈ s.issued := by
      rw [floods.issued]
      exact (safe.logged n).subset ((floods.nodes n).applied ▸ List.mem_map_of_mem member)
    have equal : c = a := List.inj_on_of_nodup_map floods.ids known (floods.issued ▸ issued) same
    exact absent (equal ▸ List.mem_map_of_mem member)

omit [DecidableEq ι] in
/-- The issuer has applied no command with an id that it has not issued. -/
theorem Floods.unused (floods : Floods net issuer s f) {id : String}
    (new : id ∉ s.issued.map (·.id)) :
    ∀ c t, (c, t) ∈ (s.node issuer).applied → c.id ≠ id := by
  intro c t member equal
  apply new
  rw [floods.issued, ← (floods.nodes issuer).applied, ← equal]
  exact List.mem_map_of_mem (List.mem_map_of_mem member)

omit [DecidableEq ι] in
theorem Floods.issued_room (floods : Floods net issuer s f) (room : s.issued.length < 2048) :
    (s.node issuer).applied.length < (s.node issuer).state.maxSeenCommands := by
  have length : (s.node issuer).applied.length = s.issued.length := by
    rw [floods.issued, ← (floods.nodes issuer).applied, List.length_map]
  rw [(floods.nodes issuer).capacity, length]
  exact room

theorem Floods.append (floods : Floods net issuer s f) {command : DiagnosticCommand}
    {now : SystemTime} (later : (s.node issuer).clock ≤ now)
    (idle : (s.node issuer).announcing = none) (valid : command.Valid)
    (new : command.id ∉ s.issued.map (·.id)) (room : s.issued.length < 2048)
    (accepted : ((s.node issuer).state.applyOnceAt command now).2 = true) :
    ∃ f', Relation.ReflTransGen (Flood.Step net.Link issuer) f f' ∧
      Floods net issuer { s.setNode issuer { s.node issuer with
          state := ((s.node issuer).state.applyOnceAt command now).1
          clock := now
          announcing := some command
          applied := (s.node issuer).applied ++ [(command, now)] } with
        issued := s.issued ++ [command] } f' := by
  have holds := floods.nodes issuer
  have remembers := holds.remembers.apply later (floods.issued_room room) (floods.unused new) accepted
  have absent : command ∉ f.log issuer := by
    rw [← floods.issued]
    exact fun member => new (List.mem_map_of_mem member)
  refine ⟨f.append issuer command, .single (.issue absent), ?_, floods.chan, ?_, ?_, ?_, ?_⟩
  · refine floods.update (fun k other => by simp [Flood.State.append, other])
      (fun k _ => rfl) ?_
    refine ⟨?_, holds.sent, ?_, holds.relaying, fun other => (other rfl).elim, holds.peers,
      remembers, ?_⟩
    · simp [Flood.State.append, holds.applied]
    · have before := holds.pending
      rw [holds.relaying rfl, idle] at before
      simp [Flood.State.append, holds.relaying rfl, before]
    · rw [DiagnosticState.applyOnceAt_maxSeenCommands]
      exact holds.capacity
  · simp [Flood.State.append, floods.issued]
  · intro c member
    rcases List.mem_append.mp member with before | last
    · exact floods.valid c before
    · rwa [List.mem_singleton.mp last]
  · rw [List.map_append, List.nodup_append]
    refine ⟨floods.ids, by simp, ?_⟩
    intro id member b last equal
    rw [List.map_singleton, List.mem_singleton] at last
    exact new (last ▸ equal ▸ member)
  · rw [List.length_append]
    exact room

theorem Floods.issue (floods : Floods net issuer s f) {action : DiagnosticAction} {id : String}
    {now : SystemTime} (expected : s.Expected issuer (.issue issuer action id now))
    (stepped : s.step net (.issue issuer action id now) = some s') :
    ∃ f', Relation.ReflTransGen (Flood.Step net.Link issuer) f f' ∧ Floods net issuer s' f' := by
  obtain ⟨-, later, new, room⟩ := expected
  unfold step at stepped
  dsimp only at stepped
  split at stepped
  · rename_i idle
    split at stepped
    · rename_i command made
      obtain ⟨same, named, valid⟩ := localControl_ok made
      rw [← named] at new
      have unused := floods.unused new
      have accepted := ((floods.nodes issuer).remembers.accepts_iff later
        fun c t member equal => (unused c t member equal).elim).mpr unused
      rw [accepted, if_pos rfl, same] at stepped
      obtain rfl := Option.some.inj stepped
      exact floods.append later idle valid new room accepted
    · obtain rfl := Option.some.inj stepped
      exact ⟨f, .refl, floods⟩
  · cases stepped

theorem Floods.broadcast (floods : Floods net issuer s f) {n : ι} {node : MeshNode}
    {command : DiagnosticCommand} (last : f.log n = f.sent n ++ [command])
    (holds : Holds (n = issuer) (net.peers n) node (f.log n) (f.sent n ++ [command])) :
    ∃ f', Relation.ReflTransGen (Flood.Step net.Link issuer) f f' ∧
      Floods net issuer ((s.setNode n node).sendToInLinks net n command.encode) f' := by
  have next : f.sent n ++ [command] <+: f.log n := last ▸ List.prefix_rfl
  refine ⟨f.send net.Link n command, .single (.send next), ?_, ?_, floods.issued, floods.valid,
    floods.ids, floods.count⟩
  · refine floods.update (fun k _ => rfl) (fun k other => by simp [Flood.State.send, other]) ?_
    simpa [Flood.State.send] using holds
  · intro m k
    simp only [sendToInLinks, setNode_chan, Flood.State.send, floods.chan m k]
    split <;> simp

theorem Floods.announce (floods : Floods net issuer s f) {n : ι}
    (stepped : s.step net (.announce n) = some s') :
    ∃ f', Relation.ReflTransGen (Flood.Step net.Link issuer) f f' ∧ Floods net issuer s' f' := by
  have holds := floods.nodes n
  unfold step at stepped
  dsimp only at stepped
  split at stepped
  · rename_i command held
    obtain rfl := Option.some.inj stepped
    have root : n = issuer := by
      by_contra other
      rw [holds.announcing other] at held
      cases held
    have last := holds.pending
    rw [holds.relaying root, held] at last
    exact floods.broadcast last ⟨holds.applied, by rw [holds.sent],
      by simp [holds.relaying root, last], holds.relaying, fun _ => rfl, holds.peers,
      holds.remembers, holds.capacity⟩
  · cases stepped

theorem Floods.relay (floods : Floods net issuer s f) {n : ι}
    (stepped : s.step net (.relay n) = some s') :
    ∃ f', Relation.ReflTransGen (Flood.Step net.Link issuer) f f' ∧ Floods net issuer s' f' := by
  have holds := floods.nodes n
  unfold step at stepped
  dsimp only at stepped
  split at stepped
  · rename_i command held
    obtain rfl := Option.some.inj stepped
    have other : n ≠ issuer := by
      intro root
      rw [holds.relaying root] at held
      cases held
    have last := holds.pending
    rw [holds.announcing other, held] at last
    exact floods.broadcast last ⟨holds.applied, by rw [holds.sent],
      by simp [holds.announcing other, last], fun _ => rfl, holds.announcing, holds.peers,
      holds.remembers, holds.capacity⟩
  · cases stepped

omit [DecidableEq ι] in
theorem Floods.room (floods : Floods net issuer s f) {n : ι}
    {a : DiagnosticCommand} (ahead : f.log n ++ [a] <+: f.log issuer) :
    (s.node n).applied.length < (s.node n).state.maxSeenCommands := by
  have bound := ahead.length_le
  rw [List.length_append, ← (floods.nodes n).applied, List.length_map, ← floods.issued] at bound
  rw [(floods.nodes n).capacity]
  exact Nat.lt_of_lt_of_le (Nat.lt_of_succ_le bound) floods.count

theorem Floods.take_chan (floods : Floods net issuer s f) {m n : ι}
    (tail : List DiagnosticCommand) (p q : ι) :
    (s.take m n (tail.map DiagnosticCommand.encode)).chan p q =
      ((f.take m n tail).chan p q).map DiagnosticCommand.encode := by
  by_cases source : p = m
  · subst source
    by_cases target : q = n <;> simp [take, Flood.State.take, target, floods.chan]
  · simp [take, Flood.State.take, source, floods.chan]

theorem Floods.accept (floods : Floods net issuer s f) (safe : Flood.Safe net.Link issuer f)
    {m n : ι} {now : SystemTime} {a : DiagnosticCommand} {tail : List DiagnosticCommand}
    (later : (s.node n).clock ≤ now) (idle : (s.node n).relaying = none)
    (head : f.chan m n = a :: tail) (fresh : a ∉ f.log n)
    (accepted : ((s.node n).state.applyOnceAt a now).2 = true) :
    ∃ f', Relation.ReflTransGen (Flood.Step net.Link issuer) f f' ∧
      Floods net issuer ((s.take m n (tail.map DiagnosticCommand.encode)).setNode n
        { s.node n with
          state := ((s.node n).state.applyOnceAt a now).1
          clock := now
          relaying := some a
          applied := (s.node n).applied ++ [(a, now)] }) f' := by
  have holds := floods.nodes n
  obtain ⟨other, next⟩ := safe.next head fresh
  have issued : a ∈ f.log issuer := next.subset (by simp)
  have remembers := holds.remembers.apply later (floods.room next)
    ((floods.ids_inj safe issued).mpr fresh) accepted
  have root : ((f.take m n tail).append n a).log issuer = f.log issuer := by
    simp [Flood.State.append, Flood.State.take, Ne.symm other]
  refine ⟨(f.take m n tail).append n a, .single (.accept head fresh), ?_, floods.take_chan tail,
    floods.issued.trans root.symm, floods.valid, floods.ids, floods.count⟩
  refine floods.update (fun k apart => by simp [Flood.State.append, Flood.State.take, apart])
    (fun k _ => rfl) ⟨?_, holds.sent, ?_, fun same => (other same).elim, holds.announcing,
      holds.peers, remembers, ?_⟩
  · simp [Flood.State.append, Flood.State.take, holds.applied]
  · have before := holds.pending
    rw [idle, holds.announcing other] at before
    simp [Flood.State.append, Flood.State.take, holds.announcing other, before]
  · rw [DiagnosticState.applyOnceAt_maxSeenCommands]
    exact holds.capacity

theorem Floods.drop (floods : Floods net issuer s f)
    {m n : ι} {now : SystemTime} {a : DiagnosticCommand} {tail : List DiagnosticCommand}
    (later : (s.node n).clock ≤ now) (idle : (s.node n).relaying = none)
    (head : f.chan m n = a :: tail) (known : a ∈ f.log n)
    (rejected : ((s.node n).state.applyOnceAt a now).2 = false) :
    ∃ f', Relation.ReflTransGen (Flood.Step net.Link issuer) f f' ∧
      Floods net issuer ((s.take m n (tail.map DiagnosticCommand.encode)).setNode n
        { s.node n with
          state := ((s.node n).state.applyOnceAt a now).1
          clock := now
          relaying := none }) f' := by
  have holds := floods.nodes n
  refine ⟨f.take m n tail, .single (.drop head known), ?_, floods.take_chan tail, floods.issued,
    floods.valid, floods.ids, floods.count⟩
  refine floods.update (fun k _ => rfl) (fun k _ => rfl) ⟨holds.applied, holds.sent, ?_,
    fun _ => rfl, holds.announcing, holds.peers, ?_, ?_⟩
  · simpa [Flood.State.take, idle] using holds.pending
  · rw [DiagnosticState.applyOnceAt_rejected rejected]
    exact holds.remembers.prune later
  · rw [DiagnosticState.applyOnceAt_maxSeenCommands]
    exact holds.capacity

theorem Floods.deliver (floods : Floods net issuer s f) (safe : Flood.Safe net.Link issuer f)
    {m n : ι} {now : SystemTime} (expected : s.Expected issuer (.deliver m n now))
    (stepped : s.step net (.deliver m n now) = some s') :
    ∃ f', Relation.ReflTransGen (Flood.Step net.Link issuer) f f' ∧ Floods net issuer s' f' := by
  obtain ⟨later, timely⟩ := expected
  have holds := floods.nodes n
  unfold step at stepped
  dsimp only at stepped
  split at stepped
  · rename_i payload rest idle queue
    obtain rfl := Option.some.inj stepped
    rw [floods.chan m n] at queue
    obtain ⟨a, tail, head, rfl, rfl⟩ := List.map_eq_cons_iff.mp queue
    obtain ⟨linked, delivered, -, inside, ahead⟩ := safe.head head
    have issued : a ∈ f.log issuer := ahead.subset (by simp)
    have valid : a.Valid := floods.valid a (floods.issued ▸ issued)
    have parsed : a ∈ (DiagnosticCommand.parse a.encode).toOption := by
      rw [DiagnosticCommand.parse_encode valid]
      rfl
    have accepts := holds.remembers.accepts_iff later fun c t member =>
      timely a.encode (by simp [floods.chan, head]) a parsed (c, t) member
    rw [floods.ids_inj safe issued] at accepts
    have linked' : net.address m ∈ (s.node n).peerHashes := by
      rw [holds.peers]
      exact linked
    rw [networkControl_encode linked' valid]
    cases accepted : ((s.node n).state.applyOnceAt a now).2 with
    | true => simpa using floods.accept safe later idle head (accepts.mp accepted) accepted
    | false =>
      have known : a ∈ f.log n := by
        by_contra fresh
        rw [accepts.mpr fresh] at accepted
        cases accepted
      simpa using floods.drop later idle head known accepted
  · cases stepped

theorem Floods.query (floods : Floods net issuer s f) {n : ι} {op : DiagnosticState.Op}
    (expected : s.Expected issuer (.query n op)) (stepped : s.step net (.query n op) = some s') :
    Floods net issuer s' f := by
  have holds := floods.nodes n
  unfold step at stepped
  dsimp only at stepped
  split at stepped
  · cases stepped
  · rename_i other
    obtain rfl := Option.some.inj stepped
    obtain ⟨remembers, capacity⟩ := holds.remembers.step expected other
    refine ⟨?_, floods.chan, floods.issued, floods.valid, floods.ids, floods.count⟩
    exact floods.update (fun k _ => rfl) (fun k _ => rfl) ⟨holds.applied, holds.sent,
      holds.pending, holds.relaying, holds.announcing, holds.peers, remembers,
      capacity.trans holds.capacity⟩

theorem Run.floods (run : Run net issuer s) :
    ∃ f, Flood.Reachable net.Link issuer f ∧ Floods net issuer s f := by
  induction run with
  | start maxRecords clock => exact ⟨_, .refl, Floods.start maxRecords clock⟩
  | @step s s' event run expected stepped ih =>
    obtain ⟨f, reached, floods⟩ := ih
    have step : ∃ f', Relation.ReflTransGen (Flood.Step net.Link issuer) f f' ∧
        Floods net issuer s' f' := by
      cases event with
      | issue n action id now =>
        obtain rfl := expected.1
        exact floods.issue expected stepped
      | announce n => exact floods.announce stepped
      | deliver m n now => exact floods.deliver reached.safe expected stepped
      | relay n => exact floods.relay stepped
      | query n op => exact ⟨f, .refl, floods.query expected stepped⟩
    obtain ⟨f', steps, floods'⟩ := step
    exact ⟨f', reached.trans steps, floods'⟩

/-- In every run of the mesh each node applies and broadcasts an id at most once and applies the
commands in the order of issue; when nothing is in flight, the nodes that the issuer reaches have
applied all of them. -/
theorem run_agrees (run : Run net issuer s) :
    s.commands issuer = s.issued ∧
    (∀ n, ((s.commands n).map (·.id)).Nodup ∧ ((s.node n).sent.map (·.id)).Nodup ∧
      s.commands n <+: s.issued) ∧
    (s.Quiet → ∀ n, Relation.ReflTransGen net.Link issuer n →
      (s.commands n).map (·.action) = (s.commands issuer).map (·.action) ∧
      s.commands n = s.issued) := by
  obtain ⟨f, reached, floods⟩ := run.floods
  have safe := reached.safe
  have log : ∀ n, s.commands n = f.log n := fun n => (floods.nodes n).applied
  have below : ∀ n, s.commands n <+: s.issued := by
    intro n
    rw [log, floods.issued]
    exact safe.logged n
  refine ⟨(log issuer).trans floods.issued.symm, ?_, ?_⟩
  · intro n
    have applied := floods.ids.sublist ((below n).sublist.map _)
    refine ⟨applied, applied.sublist (List.Sublist.map _ ?_), below n⟩
    rw [(floods.nodes n).sent, log]
    exact (safe.sent n).sublist
  · intro quiet n path
    have done : ∀ m, f.sent m = f.log m := by
      intro m
      have pending := (floods.nodes m).pending
      rw [(quiet.tasks m).1, (quiet.tasks m).2] at pending
      simpa using pending.symm
    have arrived : ∀ m k, f.chan m k = [] := by
      intro m k
      have empty := floods.chan m k
      rw [quiet.links] at empty
      exact List.map_eq_nil_iff.mp empty.symm
    have agree : s.commands n = s.issued := by
      rw [log, floods.issued]
      exact safe.agree done arrived path
    have root : s.commands issuer = s.issued := (log issuer).trans floods.issued.symm
    exact ⟨by rw [agree, root], agree⟩

/-- A ring of three nodes with one more link, so that the last node hears each command twice. -/
def ring : MeshNet (Fin 3) where
  address n := .repeated n.val.toUInt8
  peers n := match n with
    | 0 => {.repeated 2}
    | 1 => {.repeated 0}
    | 2 => {.repeated 0, .repeated 1}

def ringEvents : List (MeshEvent (Fin 3)) :=
  [.issue 0 (.enable 60) "a" (.ofSecs 1), .announce 0, .issue 0 .disable "b" (.ofSecs 2),
    .deliver 0 1 (.ofSecs 5), .announce 0, .deliver 0 2 (.ofSecs 3), .relay 2, .relay 1,
    .deliver 0 1 (.ofSecs 6), .deliver 1 2 (.ofSecs 3), .deliver 2 0 (.ofSecs 4), .relay 1,
    .deliver 1 2 (.ofSecs 8), .relay 2, .deliver 0 2 (.ofSecs 9), .deliver 2 0 (.ofSecs 7)]

def ringStart : Mesh (Fin 3) := start ring (fun _ => 4) fun _ => .ofSecs 0

def ringEnd : Mesh (Fin 3) := (ringStart.play ring 0 ringEvents).getD ringStart

theorem run_agrees_ring : Run ring 0 ringEnd ∧ ringEnd.Quiet ∧
    ringEnd.issued = [⟨"a", .enable 60⟩, ⟨"b", .disable⟩] ∧
    ringEnd.commands 2 = ringEnd.issued := by
  have start : Run ring 0 ringStart := .start _ _
  have played : ringStart.play ring 0 ringEvents = some ringEnd := rfl
  have run := start.play played
  have quiet : ringEnd.Quiet := ⟨by decide, by decide⟩
  have path : Relation.ReflTransGen ring.Link 0 2 := .single (by decide)
  exact ⟨run, quiet, rfl, ((run_agrees run).2.2 quiet 2 path).2⟩

end Mesh

end Kaonic.Plugin
