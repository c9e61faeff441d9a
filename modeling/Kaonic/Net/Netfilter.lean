import Kaonic.Base.Batch
import Kaonic.Net.Ipv4

/-!
# Packet filter tables

Chains of rules as the `iptables` programs change them, and what the NETMAP rules of a chain make of
an address. The programs are a parameter, of which only what their manual says is known.
-/

namespace Kaonic.Net

/-- `-N`, `-C`, `-A` and `-F`. -/
inductive FilterCommand (κ ρ : Type) where
  | newChain (chain : κ)
  | check (chain : κ) (rule : ρ)
  | append (chain : κ) (rule : ρ)
  | flush (chain : κ)

/-- What has become of a process. -/
structure Output where
  success : Bool
  stderr : String

/-- The `iptables` programs of a host. Each works on one of the sets of tables that the kernel keeps,
which several may share. -/
structure Iptables (σ β κ ρ : Type) where
  tables : String → β
  chains : σ → β → κ → Option (List ρ)
  output : String → FilterCommand κ ρ → σ → σ × Except String Output
  /-- What becomes of the destination of a packet that is sent through the chains of a name. -/
  destination : σ → κ → Ipv4Addr → Ipv4Addr
  source : σ → κ → Ipv4Addr → Ipv4Addr

/-! ### What the manual says -/

section

variable {κ ρ : Type}

def HasRule (chains : κ → Option (List ρ)) (chain : κ) (rule : ρ) : Prop :=
  ∃ rules, chains chain = some rules ∧ rule ∈ rules

/-- What a command has done to the chains, if it has succeeded. -/
def FilterCommand.Done [DecidableEq κ] (chains chains' : κ → Option (List ρ)) :
    FilterCommand κ ρ → Prop
  | .newChain chain => chains chain = none ∧ chains' = Function.update chains chain (some [])
  | .check chain rule => HasRule chains chain rule ∧ chains' = chains
  | .append chain rule => ∃ rules, chains chain = some rules ∧
      chains' = Function.update chains chain (some (rules ++ [rule]))
  | .flush chain => (chains chain).isSome ∧ chains' = Function.update chains chain (some [])

end

namespace Iptables

variable {σ β κ ρ : Type}

/-- A command that succeeds does what it says on the tables of its program, and one that fails does
nothing. -/
structure Documented [DecidableEq κ] (tools : Iptables σ β κ ρ) : Prop where
  done : ∀ cmd c s s' out, tools.output cmd c s = (s', .ok out) → out.success = true →
    c.Done (tools.chains s (tools.tables cmd)) (tools.chains s' (tools.tables cmd))
  failed : ∀ cmd c s s' result, tools.output cmd c s = (s', result) →
    (∀ out, result = .ok out → out.success = false) → tools.chains s' = tools.chains s
  apart : ∀ cmd c s b, b ≠ tools.tables cmd →
    tools.chains (tools.output cmd c s).1 b = tools.chains s b

/-- A check fails only for want of the rule. -/
def Honest (tools : Iptables σ β κ ρ) : Prop :=
  ∀ cmd chain rule s, HasRule (tools.chains s (tools.tables cmd)) chain rule →
    ∃ out, (tools.output cmd (.check chain rule) s).2 = .ok out ∧ out.success = true

/-- Only these tables have rules in the chain. -/
def Sole (tools : Iptables σ β κ ρ) (s : σ) (b : β) (chain : κ) : Prop :=
  ∀ b', b' ≠ b → tools.chains s b' chain = none ∨ tools.chains s b' chain = some []

end Iptables

/-! ### What is not managed -/

section

variable {κ ρ : Type} {chains chains' : κ → Option (List ρ)} {chain : κ} {rule : ρ}

/-- A chain outside the managed ones only gets rules behind the ones that it has, all of them
allowed there. -/
def Extends (managed : κ → Prop) (allowed : κ → ρ → Prop) (chains chains' : κ → Option (List ρ)) :
    Prop :=
  ∀ chain, ¬ managed chain → ∃ added, chains' chain = (chains chain).map (· ++ added) ∧
    ∀ rule ∈ added, allowed chain rule

variable {managed : κ → Prop} {allowed : κ → ρ → Prop}

theorem Extends.of_same (same : ∀ chain, ¬ managed chain → chains' chain = chains chain) :
    Extends managed allowed chains chains' := by
  intro chain free
  exact ⟨[], by simp [same chain free], by simp⟩

theorem Extends.refl (chains : κ → Option (List ρ)) : Extends managed allowed chains chains :=
  .of_same fun _ _ => rfl

theorem Extends.trans {chains'' : κ → Option (List ρ)}
    (first : Extends managed allowed chains chains') (then_ : Extends managed allowed chains' chains'') :
    Extends managed allowed chains chains'' := by
  intro chain free
  obtain ⟨added, here, fine⟩ := first chain free
  obtain ⟨more, there, fine'⟩ := then_ chain free
  refine ⟨added ++ more, ?_, ?_⟩
  · rw [there, here, Option.map_map]
    congr 1
    funext rules
    exact List.append_assoc rules added more
  · intro rule member
    exact (List.mem_append.mp member).elim (fine rule) (fine' rule)

theorem Extends.has (extends_ : Extends managed allowed chains chains') (free : ¬ managed chain)
    (has : HasRule chains chain rule) : HasRule chains' chain rule := by
  obtain ⟨rules, found, member⟩ := has
  obtain ⟨added, grown, _⟩ := extends_ chain free
  rw [found, Option.map_some] at grown
  exact ⟨rules ++ added, grown, List.mem_append_left _ member⟩

/-- The commands that touch nothing outside the managed chains, but to append what is allowed. -/
def FilterCommand.Within (managed : κ → Prop) (allowed : κ → ρ → Prop) : FilterCommand κ ρ → Prop
  | .newChain chain | .flush chain => managed chain
  | .check _ _ => True
  | .append chain rule => managed chain ∨ allowed chain rule

theorem FilterCommand.Done.extends [DecidableEq κ] {c : FilterCommand κ ρ}
    (done : c.Done chains chains') (within : c.Within managed allowed) :
    Extends managed allowed chains chains' := by
  have outside : ∀ {chain rules}, managed chain → chains' = Function.update chains chain rules →
      Extends managed allowed chains chains' := by
    intro chain rules own after
    refine .of_same fun other free => ?_
    rw [after]
    exact Function.update_of_ne (by rintro rfl; exact free own) _ _
  cases c with
  | newChain chain => exact outside within done.2
  | flush chain => exact outside within done.2
  | check chain rule => exact .of_same fun _ _ => congrFun done.2 _
  | append chain rule =>
    obtain ⟨rules, found, after⟩ := done
    rcases within with own | fine
    · exact outside own after
    · intro other _
      by_cases same : other = chain
      · subst same
        refine ⟨[rule], ?_, by simpa using fine⟩
        rw [after, found, Function.update_self, Option.map_some]
      · refine ⟨[], ?_, by simp⟩
        rw [after, Function.update_of_ne same]
        simp

end

/-! ### NETMAP -/

namespace Ipv4Cidr

/-- `NETMAP --to`: the network part is replaced, the host part stays. -/
def netmap (target : Ipv4Cidr) (ip : Ipv4Addr) : Ipv4Addr :=
  UInt32.ofNat (target.firstAddress.toNat + ip.toNat % 2 ^ (32 - target.networkLength))

theorem toNat_netmap (target : Ipv4Cidr) (ip : Ipv4Addr) :
    (target.netmap ip).toNat =
      target.firstAddress.toNat + ip.toNat % 2 ^ (32 - target.networkLength) := by
  have host := Nat.mod_lt ip.toNat (Block.size_pos (32 - target.networkLength))
  have last := target.block_last_lt
  simp only [Block.last, block_base, block_host] at last
  exact UInt32.toNat_ofNat_of_lt' (show _ < 2 ^ 32 by omega)

theorem contains_netmap (target : Ipv4Cidr) (ip : Ipv4Addr) :
    target.contains (target.netmap ip) = true := by
  have host := Nat.mod_lt ip.toNat (Block.size_pos (32 - target.networkLength))
  rw [contains_iff, Block.Mem, Block.last, toNat_netmap]
  simp only [block_base, block_host]
  omega

/-- The network part of an address, where it is the network's. -/
theorem firstAddress_of_contains {net : Ipv4Cidr} {ip : Ipv4Addr} (member : net.contains ip = true) :
    2 ^ (32 - net.networkLength) * (ip.toNat / 2 ^ (32 - net.networkLength)) =
      net.firstAddress.toNat := by
  rw [contains, beq_iff_eq] at member
  rw [member, Nat.mul_comm]
  exact Nat.div_mul_cancel net.aligned

/-- From a network to one of its size and back. -/
theorem netmap_netmap {net target : Ipv4Cidr} {ip : Ipv4Addr}
    (size : net.networkLength = target.networkLength) (member : net.contains ip = true) :
    net.netmap (target.netmap ip) = ip := by
  have whole := Nat.div_add_mod ip.toNat (2 ^ (32 - net.networkLength))
  rw [firstAddress_of_contains member] at whole
  obtain ⟨k, aligned⟩ := target.aligned
  have host : (target.netmap ip).toNat % 2 ^ (32 - net.networkLength) =
      ip.toNat % 2 ^ (32 - net.networkLength) := by
    rw [toNat_netmap, ← size, aligned, size, Nat.mul_add_mod, Nat.mod_mod]
  rw [← UInt32.toNat_inj, toNat_netmap, host, whole]

theorem netmap_self {net : Ipv4Cidr} {ip : Ipv4Addr} (member : net.contains ip = true) :
    net.netmap ip = ip := by
  have whole := Nat.div_add_mod ip.toNat (2 ^ (32 - net.networkLength))
  rw [firstAddress_of_contains member] at whole
  rw [← UInt32.toNat_inj, toNat_netmap, whole]

end Ipv4Cidr

/-- A chain of NETMAP rules: the first whose network has the address decides. -/
def translate (rules : List (Ipv4Cidr × Ipv4Cidr)) (ip : Ipv4Addr) : Ipv4Addr :=
  match rules.find? fun r => r.1.contains ip with
  | some r => r.2.netmap ip
  | none => ip

section

variable {rules : List (Ipv4Cidr × Ipv4Cidr)} {ip : Ipv4Addr}

theorem translate_of_mem (apart : rules.Pairwise fun a b => ¬ a.1.Meets b.1)
    {r : Ipv4Cidr × Ipv4Cidr} (member : r ∈ rules) (inside : r.1.contains ip = true) :
    translate rules ip = r.2.netmap ip := by
  unfold translate
  cases found : rules.find? fun r => r.1.contains ip with
  | none =>
    have missed := List.find?_eq_none.mp found r member
    exact (missed inside).elim
  | some first =>
    by_cases same : first = r
    · rw [same]
    have symm : Std.Symm fun a b : Ipv4Cidr × Ipv4Cidr => ¬ a.1.Meets b.1 :=
      ⟨fun _ _ apart meets => apart meets.symm⟩
    have separate := apart.forall (List.mem_of_find?_eq_some found) member same
    have here : first.1.contains ip = true := by simpa using List.find?_some found
    exact (separate ((Ipv4Cidr.meets_iff _ _).mpr ⟨ip, here, inside⟩)).elim

theorem translate_first {before after : List (Ipv4Cidr × Ipv4Cidr)} {r : Ipv4Cidr × Ipv4Cidr}
    (missed : ∀ q ∈ before, q.1.contains ip = false) (inside : r.1.contains ip = true) :
    translate (before ++ r :: after) ip = r.2.netmap ip := by
  have found : (before ++ r :: after).find? (fun r => r.1.contains ip) = some r := by
    rw [List.find?_eq_some_iff_append]
    exact ⟨inside, before, after, rfl, fun q member => by simp [missed q member]⟩
  rw [translate, found]

theorem translate_of_not_mem (outside : ∀ r ∈ rules, r.1.contains ip = false) :
    translate rules ip = ip := by
  have none_ : rules.find? (fun r => r.1.contains ip) = none := by
    rw [List.find?_eq_none]
    intro r member
    simp [outside r member]
  simp [translate, none_]

end

/-- What the manual says of NETMAP: of a chain of such rules, the first whose network has the address
maps it, and an address that is in none of the networks passes. -/
structure Iptables.Netmaps {σ β κ ρ : Type} (tools : Iptables σ β κ ρ)
    (rule : Ipv4Cidr → Ipv4Cidr → ρ) (through : σ → κ → Ipv4Addr → Ipv4Addr) : Prop where
  maps : ∀ s b chain (before : List (Ipv4Cidr × Ipv4Cidr)) r after ip, tools.Sole s b chain →
    tools.chains s b chain = some ((before ++ r :: after).map (Function.uncurry rule)) →
    (∀ q ∈ before, q.1.contains ip = false) → r.1.contains ip = true →
      through s chain ip = r.2.netmap ip
  passes : ∀ s b chain (rules : List (Ipv4Cidr × Ipv4Cidr)) ip, tools.Sole s b chain →
    tools.chains s b chain = some (rules.map (Function.uncurry rule)) →
    (∀ r ∈ rules, r.1.contains ip = false) → through s chain ip = ip

theorem Iptables.Netmaps.through_eq {σ β κ ρ : Type} {tools : Iptables σ β κ ρ}
    {rule : Ipv4Cidr → Ipv4Cidr → ρ} {through : σ → κ → Ipv4Addr → Ipv4Addr}
    (netmaps : tools.Netmaps rule through) {s : σ} {b : β} {chain : κ} (sole : tools.Sole s b chain)
    {rules : List (Ipv4Cidr × Ipv4Cidr)}
    (filled : tools.chains s b chain = some (rules.map (Function.uncurry rule))) (ip : Ipv4Addr) :
    through s chain ip = translate rules ip := by
  unfold translate
  cases found : rules.find? fun r => r.1.contains ip with
  | none =>
    refine netmaps.passes s b chain rules ip sole filled ?_
    intro r member
    exact Bool.eq_false_of_not_eq_true (List.find?_eq_none.mp found r member)
  | some r =>
    obtain ⟨here, before, after, rfl, missed⟩ := List.find?_eq_some_iff_append.mp found
    refine netmaps.maps s b chain before r after ip sole filled ?_ here
    intro q member
    have elsewhere := missed q member
    rwa [Bool.not_eq_eq_eq_not, Bool.not_true] at elsewhere

/-! ### Tables as functions -/

/-- The chains of a host, and how many commands it has been given. -/
structure Netfilter (β κ ρ : Type) where
  chains : β → κ → Option (List ρ)
  issued : Nat := 0

namespace Netfilter

def chainExists : String := "iptables: Chain already exists."

def noChain : String := "iptables: No chain/target/match by that name."

def badRule : String := "iptables: Bad rule (does a matching rule exist in that chain?)."

variable {β κ ρ : Type}

/-- The NETMAP rules of a chain, in whichever tables it has rules. -/
def rulesOf (backends : List β) (netmap : ρ → Option (Ipv4Cidr × Ipv4Cidr)) (s : Netfilter β κ ρ)
    (chain : κ) : List (Ipv4Cidr × Ipv4Cidr) :=
  (backends.flatMap fun b => (s.chains b chain).getD []).filterMap netmap

theorem rulesOf_sole {backends : List β} {b : β} (listed : b ∈ backends) (once : backends.Nodup)
    {netmap : ρ → Option (Ipv4Cidr × Ipv4Cidr)} {rule : Ipv4Cidr → Ipv4Cidr → ρ}
    (reads : ∀ net target, netmap (rule net target) = some (net, target)) {s : Netfilter β κ ρ}
    {chain : κ} (sole : ∀ b', b' ≠ b → s.chains b' chain = none ∨ s.chains b' chain = some [])
    {rules : List (Ipv4Cidr × Ipv4Cidr)}
    (filled : s.chains b chain = some (rules.map (Function.uncurry rule))) :
    rulesOf backends netmap s chain = rules := by
  obtain ⟨before, after, rfl⟩ := List.append_of_mem listed
  have empty : ∀ bs : List β, b ∉ bs → (bs.flatMap fun b => (s.chains b chain).getD []) = [] := by
    intro bs absent
    rw [List.flatMap_eq_nil_iff]
    intro b' member
    rcases sole b' (by rintro rfl; exact absent member) with none_ | empty
    · rw [none_]
      rfl
    · rw [empty]
      rfl
  rw [List.nodup_append] at once
  have absent : b ∉ before := fun member => once.2.2 b member b List.mem_cons_self rfl
  have absent' : b ∉ after := (List.nodup_cons.mp once.2.1).1
  rw [rulesOf, List.flatMap_append, List.flatMap_cons, empty before absent, empty after absent',
    filled, List.nil_append, List.append_nil, Option.getD_some, List.filterMap_map]
  have each : netmap ∘ Function.uncurry rule = some := funext fun r => reads r.1 r.2
  rw [each, List.filterMap_some]

/-- A host that sends addresses through these rules does as the manual says. -/
theorem netmaps_rulesOf {tools : Iptables (Netfilter β κ ρ) β κ ρ}
    (keeps : tools.chains = Netfilter.chains) {backends : List β} (listed : ∀ b, b ∈ backends)
    (once : backends.Nodup) {netmap : ρ → Option (Ipv4Cidr × Ipv4Cidr)}
    {rule : Ipv4Cidr → Ipv4Cidr → ρ}
    (reads : ∀ net target, netmap (rule net target) = some (net, target)) :
    tools.Netmaps rule fun s chain => translate (rulesOf backends netmap s chain) := by
  refine ⟨?_, ?_⟩
  · intro s b chain before r after ip sole filled missed inside
    rw [Iptables.Sole, keeps] at sole
    rw [keeps] at filled
    rw [rulesOf_sole (listed b) once reads sole filled]
    exact translate_first missed inside
  · intro s b chain rules ip sole filled outside
    rw [Iptables.Sole, keeps] at sole
    rw [keeps] at filled
    rw [rulesOf_sole (listed b) once reads sole filled]
    exact translate_of_not_mem outside

variable [DecidableEq β] [DecidableEq κ] [DecidableEq ρ]

def apply (chains : κ → Option (List ρ)) :
    FilterCommand κ ρ → Except String (κ → Option (List ρ))
  | .newChain chain =>
    match chains chain with
    | some _ => .error chainExists
    | none => .ok (Function.update chains chain (some []))
  | .check chain rule =>
    match chains chain with
    | some rules => if rule ∈ rules then .ok chains else .error badRule
    | none => .error noChain
  | .append chain rule =>
    match chains chain with
    | some rules => .ok (Function.update chains chain (some (rules ++ [rule])))
    | none => .error noChain
  | .flush chain =>
    match chains chain with
    | some _ => .ok (Function.update chains chain (some []))
    | none => .error noChain

/-- The commands that fail for reasons outside the tables, with the text of the failure. -/
abbrev Refusals (κ ρ : Type) := Nat → FilterCommand κ ρ → Option String

def exec (tables : String → β) (refuse : Refusals κ ρ) (cmd : String) (c : FilterCommand κ ρ)
    (s : Netfilter β κ ρ) : Netfilter β κ ρ × Except String Output :=
  match refuse s.issued c with
  | some err => ({ s with issued := s.issued + 1 }, .ok ⟨false, err⟩)
  | none =>
    match apply (s.chains (tables cmd)) c with
    | .ok chains => (⟨Function.update s.chains (tables cmd) chains, s.issued + 1⟩, .ok ⟨true, ""⟩)
    | .error err => ({ s with issued := s.issued + 1 }, .ok ⟨false, err⟩)

def tools (backends : List β) (tables : String → β) (refuse : Refusals κ ρ)
    (onDestination onSource : ρ → Option (Ipv4Cidr × Ipv4Cidr)) :
    Iptables (Netfilter β κ ρ) β κ ρ where
  tables := tables
  chains := Netfilter.chains
  output := exec tables refuse
  destination s chain := translate (rulesOf backends onDestination s chain)
  source s chain := translate (rulesOf backends onSource s chain)

theorem apply_done {chains chains' : κ → Option (List ρ)} {c : FilterCommand κ ρ}
    (applied : apply chains c = .ok chains') : c.Done chains chains' := by
  cases c with
  | newChain chain =>
    cases found : chains chain with
    | some _ => simp [apply, found] at applied
    | none =>
      simp only [apply, found, Except.ok.injEq] at applied
      exact ⟨found, applied.symm⟩
  | check chain rule =>
    cases found : chains chain with
    | none => simp [apply, found] at applied
    | some rules =>
      by_cases member : rule ∈ rules
      · simp only [apply, found, member, if_true, Except.ok.injEq] at applied
        exact ⟨⟨rules, found, member⟩, applied.symm⟩
      · simp [apply, found, member] at applied
  | append chain rule =>
    cases found : chains chain with
    | none => simp [apply, found] at applied
    | some rules =>
      simp only [apply, found, Except.ok.injEq] at applied
      exact ⟨rules, found, applied.symm⟩
  | flush chain =>
    cases found : chains chain with
    | none => simp [apply, found] at applied
    | some rules =>
      simp only [apply, found, Except.ok.injEq] at applied
      exact ⟨by rw [found]; rfl, applied.symm⟩

/-- A command fails and changes nothing, or changes the tables of its program. -/
theorem exec_cases (tables : String → β) (refuse : Refusals κ ρ) (cmd : String)
    (c : FilterCommand κ ρ) (s : Netfilter β κ ρ) :
    ((exec tables refuse cmd c s).1.chains = s.chains ∧
      ∃ err, (exec tables refuse cmd c s).2 = .ok ⟨false, err⟩) ∨
    ∃ chains, apply (s.chains (tables cmd)) c = .ok chains ∧
      (exec tables refuse cmd c s).1.chains = Function.update s.chains (tables cmd) chains ∧
      (exec tables refuse cmd c s).2 = .ok ⟨true, ""⟩ := by
  unfold exec
  cases refuse s.issued c with
  | some err => exact Or.inl ⟨rfl, err, rfl⟩
  | none =>
    cases apply (s.chains (tables cmd)) c with
    | error err => exact Or.inl ⟨rfl, err, rfl⟩
    | ok chains => exact Or.inr ⟨chains, rfl, rfl, rfl⟩

variable {backends : List β} {tables : String → β} {refuse : Refusals κ ρ}
  {onDestination onSource : ρ → Option (Ipv4Cidr × Ipv4Cidr)}

theorem tools_documented :
    (tools backends tables refuse onDestination onSource).Documented := by
  refine ⟨?_, ?_, ?_⟩
  · intro cmd c s s' out ran success
    change exec tables refuse cmd c s = (s', .ok out) at ran
    rcases exec_cases tables refuse cmd c s with ⟨_, err, failed⟩ | ⟨chains, applied, after, _⟩
    · rw [ran] at failed
      obtain rfl := Except.ok.inj failed
      cases success
    · rw [ran] at after
      change c.Done (s.chains (tables cmd)) (s'.chains (tables cmd))
      rw [after, Function.update_self]
      exact apply_done applied
  · intro cmd c s s' result ran failed
    change exec tables refuse cmd c s = (s', result) at ran
    rcases exec_cases tables refuse cmd c s with ⟨same, _⟩ | ⟨_, _, _, done⟩
    · rwa [ran] at same
    · rw [ran] at done
      cases failed _ done
  · intro cmd c s b other
    change (exec tables refuse cmd c s).1.chains b = s.chains b
    rcases exec_cases tables refuse cmd c s with ⟨same, _⟩ | ⟨_, _, after, _⟩
    · rw [same]
    · rw [after]
      exact Function.update_of_ne other _ _

/-- Where no command is refused, a check fails only for want of the rule. -/
theorem tools_honest :
    (tools backends tables (fun _ _ => none : Refusals κ ρ) onDestination onSource).Honest := by
  rintro cmd chain rule s ⟨rules, found, member⟩
  change s.chains (tables cmd) chain = some rules at found
  refine ⟨⟨true, ""⟩, ?_, rfl⟩
  change (exec tables (fun _ _ => none) cmd (.check chain rule) s).2 = _
  simp only [exec, apply, found, member, if_true]

end Netfilter

end Kaonic.Net
