import Kaonic.Net.Netfilter
import Kaonic.Net.Notation
import Kaonic.Vpn.KernelSync

/-!
# Route translations in the packet filter

`sync_route_translations` makes chains of its own, has the chains of the kernel jump to them, and
fills them anew: a NETMAP rule for each direction of a translated route, and a rule that clamps the
segment size of TCP. Each call does so in the tables of the program that it finds.
-/

namespace Kaonic.Vpn
open Net

inductive FilterTable where
  | nat | mangle
  deriving DecidableEq

def FilterTable.name : FilterTable → String
  | .nat => "nat"
  | .mangle => "mangle"

structure FilterChain where
  table : FilterTable
  name : String
  deriving DecidableEq

/-- `-i` and `-o`. -/
inductive IfaceFlag where
  | input | output
  deriving DecidableEq

inductive FilterRule where
  | jump (flag : IfaceFlag) (interface target : String)
  | tcpMss (mss : Nat)
  /-- `-d net -j NETMAP --to target` -/
  | netmapDestination (net target : Ipv4Cidr)
  /-- `-s net -j NETMAP --to target` -/
  | netmapSource (net target : Ipv4Cidr)
  /-- A rule of somebody else. -/
  | other (args : List String)
  deriving DecidableEq

def FilterRule.args (display : Ipv4Cidr → String) : FilterRule → List String
  | .jump .input interface target => ["-i", interface, "-j", target]
  | .jump .output interface target => ["-o", interface, "-j", target]
  | .tcpMss mss =>
    ["-p", "tcp", "--tcp-flags", "SYN,RST", "SYN", "-j", "TCPMSS", "--set-mss", toString mss]
  | .netmapDestination net target => ["-d", display net, "-j", "NETMAP", "--to", display target]
  | .netmapSource net target => ["-s", display net, "-j", "NETMAP", "--to", display target]
  | .other args => args

abbrev ChainCommand := FilterCommand FilterChain FilterRule

def commandArgs (display : Ipv4Cidr → String) : ChainCommand → List String
  | .newChain chain => ["-t", chain.table.name, "-N", chain.name]
  | .check chain rule => ["-t", chain.table.name, "-C", chain.name] ++ rule.args display
  | .append chain rule => ["-t", chain.table.name, "-A", chain.name] ++ rule.args display
  | .flush chain => ["-t", chain.table.name, "-F", chain.name]

/-- The programs of the host, and how a network prints. -/
structure FilterEnv (σ β : Type) where
  tools : Iptables σ β FilterChain FilterRule
  display : Ipv4Cidr → String

def tunMtu : Nat := 1400

def tcpMss : Nat := tunMtu - 40

def preChain : FilterChain := ⟨.nat, "KAONIC_VPN_PREROUTING"⟩

def postChain : FilterChain := ⟨.nat, "KAONIC_VPN_POSTROUTING"⟩

def mssChain : FilterChain := ⟨.mangle, "KAONIC_VPN_MSS"⟩

def resolveIptables (supportsNetmap : String → Bool) : Option String :=
  ["iptables", "iptables-nft", "iptables-legacy"].find? supportsNetmap

inductive TranslationStep where
  | ensureChain (chain : FilterChain)
  | ensureJump (parent : FilterChain) (jump : FilterRule)
  | run (command : ChainCommand)

/-- The jumps of the kernel's chains to the own ones. -/
def jumps (interface : String) : List (FilterChain × FilterRule) :=
  [(⟨.nat, "PREROUTING"⟩, .jump .input interface preChain.name),
    (⟨.nat, "POSTROUTING"⟩, .jump .output interface postChain.name),
    (⟨.mangle, "FORWARD"⟩, .jump .input interface mssChain.name),
    (⟨.mangle, "FORWARD"⟩, .jump .output interface mssChain.name)]

def netmapAppends (t : LocalRouteTranslation) : List (FilterChain × FilterRule) :=
  if t.local_ = t.exported then []
  else
    [(preChain, .netmapDestination t.exported t.local_),
      (postChain, .netmapSource t.local_ t.exported)]

def appends (translations : List LocalRouteTranslation) : List (FilterChain × FilterRule) :=
  (mssChain, .tcpMss tcpMss) :: translations.flatMap netmapAppends

def ownChains : List FilterChain := [preChain, postChain, mssChain]

def translationSteps (interface : String) (translations : List LocalRouteTranslation) :
    List TranslationStep :=
  ownChains.map .ensureChain ++ (jumps interface).map (fun j => .ensureJump j.1 j.2) ++
    ownChains.map (fun chain => .run (.flush chain)) ++
    (appends translations).map fun a => .run (.append a.1 a.2)

/-- A call with what the programs support at the time. -/
structure TranslationCall where
  supportsNetmap : String → Bool
  translations : List LocalRouteTranslation

/-- The program that a call finds. -/
def TranslationCall.program (call : TranslationCall) : Option String :=
  resolveIptables call.supportsNetmap

namespace FilterEnv

variable {σ β : Type} (env : FilterEnv σ β)

def run (cmd : String) (c : ChainCommand) (s : σ) : σ × Except String Unit :=
  match env.tools.output cmd c s with
  | (s', .error err) => (s', .error err)
  | (s', .ok output) =>
    if output.success then (s', .ok ())
    else
      (s', .error (cmd ++ " " ++ " ".intercalate (commandArgs env.display c) ++ " failed: " ++
        String.ofList (Text.trim output.stderr.toList)))

def ensureChain (cmd : String) (chain : FilterChain) (s : σ) : σ × Except String Unit :=
  match env.run cmd (.newChain chain) s with
  | (s', .ok _) => (s', .ok ())
  | (s', .error err) =>
    if "Chain already exists".toList <:+: err.toList then (s', .ok ()) else (s', .error err)

/-- A jump is appended when the check for it fails, for whatever reason it does. -/
def ensureJump (cmd : String) (parent : FilterChain) (jump : FilterRule) (s : σ) :
    σ × Except String Unit :=
  match env.run cmd (.check parent jump) s with
  | (s', .ok _) => (s', .ok ())
  | (s', .error _) => env.run cmd (.append parent jump) s'

def perform (cmd : String) (s : σ) : TranslationStep → σ × Except String Unit
  | .ensureChain chain => env.ensureChain cmd chain s
  | .ensureJump parent jump => env.ensureJump cmd parent jump s
  | .run command => env.run cmd command s

def syncRouteTranslations (supportsNetmap : String → Bool) (interface : String) (s : σ)
    (translations : List LocalRouteTranslation) : σ × Except String Unit :=
  match resolveIptables supportsNetmap with
  | none => (s, .ok ())
  | some ipt => Batch.run (env.perform ipt) s (translationSteps interface translations)

def call (interface : String) (s : σ) (call : TranslationCall) : σ × Except String Unit :=
  env.syncRouteTranslations call.supportsNetmap interface s call.translations

/-- The packet filter after calls of which each may break off. -/
def runCalls (interface : String) (s : σ) (calls : List TranslationCall) : σ :=
  calls.foldl (fun s call => (env.call interface s call).1) s

end FilterEnv

/-! ### One command -/

/-- The own chains. -/
def Managed (chain : FilterChain) : Prop := chain ∈ ownChains

/-- The jumps at their places. -/
def Jumps (interface : String) (chain : FilterChain) (rule : FilterRule) : Prop :=
  (chain, rule) ∈ jumps interface

section

variable {interface : String} {translations : List LocalRouteTranslation}

theorem jumps_unmanaged {j : FilterChain × FilterRule} (member : j ∈ jumps interface) :
    ¬ Managed j.1 := by
  simp only [jumps, List.mem_cons, List.not_mem_nil, or_false] at member
  rcases member with rfl | rfl | rfl | rfl <;> simp [Managed, ownChains, preChain, postChain, mssChain]

theorem appends_managed {a : FilterChain × FilterRule} (member : a ∈ appends translations) :
    Managed a.1 := by
  rcases List.mem_cons.mp member with rfl | member
  · simp [Managed, ownChains]
  obtain ⟨t, _, member⟩ := List.mem_flatMap.mp member
  unfold netmapAppends at member
  split at member
  · cases member
  · simp only [List.mem_cons, List.not_mem_nil, or_false] at member
    rcases member with rfl | rfl <;> simp [Managed, ownChains]

end

namespace FilterEnv

variable {σ β : Type} {env : FilterEnv σ β} {cmd : String} {s s' : σ}

/-- In all tables, what is there already stays, in front of jumps to the own chains. -/
def Grows (env : FilterEnv σ β) (interface : String) (s s' : σ) : Prop :=
  ∀ b, Extends Managed (Jumps interface) (env.tools.chains s b) (env.tools.chains s' b)

theorem Grows.refl (interface : String) (s : σ) : env.Grows interface s s := fun _ => .refl _

theorem Grows.trans {interface : String} {s'' : σ} (first : env.Grows interface s s')
    (then_ : env.Grows interface s' s'') : env.Grows interface s s'' :=
  fun b => (first b).trans (then_ b)

theorem ensureChain_fst (chain : FilterChain) :
    (env.ensureChain cmd chain s).1 = (env.run cmd (.newChain chain) s).1 := by
  unfold ensureChain
  cases env.run cmd (.newChain chain) s with
  | mk mid result =>
    cases result with
    | ok _ => rfl
    | error err =>
      dsimp only
      split <;> rfl

section

variable (documented : env.tools.Documented)

include documented

/-- A run of a program changes nothing, or does what the command says. -/
theorem run_cases (cmd : String) (c : ChainCommand) (s : σ) :
    (env.tools.chains (env.run cmd c s).1 = env.tools.chains s ∧
      ∃ err, (env.run cmd c s).2 = .error err) ∨
    ((env.run cmd c s).2 = .ok () ∧ c.Done (env.tools.chains s (env.tools.tables cmd))
      (env.tools.chains (env.run cmd c s).1 (env.tools.tables cmd))) := by
  unfold run
  cases outcome : env.tools.output cmd c s with
  | mk s' result =>
    cases result with
    | error err =>
      have failed : ∀ out, Except.error err = (Except.ok out : Except String Output) →
          out.success = false := by
        rintro _ ⟨⟩
      exact Or.inl ⟨documented.failed cmd c s s' _ outcome failed, err, rfl⟩
    | ok output =>
      cases success : output.success with
      | true =>
        dsimp only
        rw [if_pos success]
        exact Or.inr ⟨rfl, documented.done cmd c s s' output outcome success⟩
      | false =>
        have failed : ∀ out, Except.ok output = (Except.ok out : Except String Output) →
            out.success = false := by
          rintro _ ⟨⟩
          exact success
        dsimp only
        rw [if_neg (by simp [success])]
        exact Or.inl ⟨documented.failed cmd c s s' _ outcome failed, _, rfl⟩

theorem run_done {c : ChainCommand} (ran : env.run cmd c s = (s', .ok ())) :
    c.Done (env.tools.chains s (env.tools.tables cmd))
      (env.tools.chains s' (env.tools.tables cmd)) := by
  rcases run_cases documented cmd c s with ⟨_, err, failed⟩ | ⟨_, done⟩
  · rw [ran] at failed
    cases failed
  · rwa [ran] at done

theorem run_apart (c : ChainCommand) {b : β} (other : b ≠ env.tools.tables cmd) :
    env.tools.chains (env.run cmd c s).1 b = env.tools.chains s b := by
  have apart := documented.apart cmd c s b other
  unfold run
  cases outcome : env.tools.output cmd c s with
  | mk s' result =>
    rw [outcome] at apart
    cases result with
    | error err => exact apart
    | ok output =>
      dsimp only
      split <;> exact apart

theorem run_extends {managed : FilterChain → Prop} {allowed : FilterChain → FilterRule → Prop}
    {c : ChainCommand} (within : c.Within managed allowed) (s : σ) (b : β) :
    Extends managed allowed (env.tools.chains s b) (env.tools.chains (env.run cmd c s).1 b) := by
  rcases run_cases documented cmd c s with ⟨same, _⟩ | ⟨_, done⟩
  · rw [same]
    exact .refl _
  · by_cases own : b = env.tools.tables cmd
    · rw [own]
      exact done.extends within
    · rw [run_apart documented c own]
      exact .refl _

/-! ### One step -/

theorem run_grows {interface : String} {c : ChainCommand} (within : c.Within Managed (Jumps interface))
    (s : σ) : env.Grows interface s (env.run cmd c s).1 := run_extends documented within s

theorem ensureJump_grows {interface : String} {parent : FilterChain} {jump : FilterRule}
    (known : Jumps interface parent jump) (s : σ) :
    env.Grows interface s (env.ensureJump cmd parent jump s).1 := by
  have checked := @run_grows _ _ env cmd documented interface (.check parent jump) trivial s
  unfold ensureJump
  cases outcome : env.run cmd (.check parent jump) s with
  | mk mid result =>
    rw [outcome] at checked
    cases result with
    | ok _ => exact checked
    | error err =>
      exact checked.trans (run_grows documented (c := .append parent jump) (Or.inr known) mid)

theorem perform_grows {interface : String} {translations : List LocalRouteTranslation}
    {step : TranslationStep} (member : step ∈ translationSteps interface translations) (s : σ) :
    env.Grows interface s (env.perform cmd s step).1 := by
  simp only [translationSteps, List.mem_append, List.mem_map] at member
  rcases member with ((⟨chain, own, rfl⟩ | ⟨j, known, rfl⟩) | ⟨chain, own, rfl⟩) | ⟨a, listed, rfl⟩
  · rw [perform, ensureChain_fst]
    exact run_grows documented (c := .newChain chain) own s
  · exact ensureJump_grows documented known s
  · exact run_grows documented (c := .flush chain) own s
  · exact run_grows documented (c := .append a.1 a.2) (Or.inl (appends_managed listed)) s

theorem perform_apart {b : β} (other : b ≠ env.tools.tables cmd) (step : TranslationStep) (s : σ) :
    env.tools.chains (env.perform cmd s step).1 b = env.tools.chains s b := by
  cases step with
  | ensureChain chain =>
    rw [perform, ensureChain_fst]
    exact run_apart documented _ other
  | ensureJump parent jump =>
    have checked := @run_apart _ _ env cmd s documented (.check parent jump) b other
    change env.tools.chains (env.ensureJump cmd parent jump s).1 b = _
    unfold ensureJump
    cases outcome : env.run cmd (.check parent jump) s with
    | mk mid result =>
      rw [outcome] at checked
      cases result with
      | ok _ => exact checked
      | error err => exact (run_apart documented _ other).trans checked
  | run command => exact run_apart documented command other

/-! ### One call -/

theorem call_grows (interface : String) (call : TranslationCall) (s : σ) :
    env.Grows interface s (env.call interface s call).1 := by
  unfold FilterEnv.call syncRouteTranslations
  cases resolveIptables call.supportsNetmap with
  | none => exact .refl interface s
  | some ipt =>
    exact Batch.run_related (.refl interface) (fun _ _ _ => .trans)
      (fun _ member => perform_grows documented member) s

/-- A call leaves the tables of other programs than its own. -/
theorem call_apart {b : β} (call : TranslationCall)
    (other : ∀ ipt, call.program = some ipt → b ≠ env.tools.tables ipt) (interface : String) (s : σ) :
    env.tools.chains (env.call interface s call).1 b = env.tools.chains s b := by
  unfold FilterEnv.call syncRouteTranslations
  unfold TranslationCall.program at other
  cases resolved : resolveIptables call.supportsNetmap with
  | none => rfl
  | some ipt =>
    exact Batch.run_related (R := fun s s' => env.tools.chains s' b = env.tools.chains s b)
      (fun _ => rfl) (fun _ _ _ first then_ => then_.trans first)
      (fun step _ => perform_apart documented (other ipt resolved) step) s

theorem ensureJump_present {parent : FilterChain} {jump : FilterRule}
    (done : env.ensureJump cmd parent jump s = (s', .ok ())) :
    HasRule (env.tools.chains s' (env.tools.tables cmd)) parent jump := by
  unfold ensureJump at done
  cases outcome : env.run cmd (.check parent jump) s with
  | mk mid result =>
    rw [outcome] at done
    cases result with
    | ok _ =>
      obtain ⟨rfl, _⟩ := Prod.mk.inj done
      obtain ⟨has, same⟩ := run_done documented outcome
      rwa [same]
    | error err =>
      obtain ⟨rules, _, after⟩ := run_done documented done
      exact ⟨rules ++ [jump], by rw [after, Function.update_self], by simp⟩

theorem flush_keeps {chain other : FilterChain}
    (empty : env.tools.chains s (env.tools.tables cmd) chain = some []) :
    env.tools.chains (env.run cmd (.flush other) s).1 (env.tools.tables cmd) chain = some [] := by
  rcases run_cases documented cmd (.flush other) s with ⟨same, _⟩ | ⟨_, _, after⟩
  · rw [same]
    exact empty
  · rw [after]
    by_cases same : chain = other
    · rw [same, Function.update_self]
    · rw [Function.update_of_ne same]
      exact empty

theorem flushed {chains : List FilterChain} {chain : FilterChain} (member : chain ∈ chains)
    (done : Batch.run (env.perform cmd) s (chains.map fun chain => .run (.flush chain)) =
      (s', .ok ())) :
    env.tools.chains s' (env.tools.tables cmd) chain = some [] := by
  have listed : TranslationStep.run (.flush chain) ∈
      chains.map fun chain => TranslationStep.run (.flush chain) := List.mem_map_of_mem member
  refine Batch.established
    (P := fun s => env.tools.chains s (env.tools.tables cmd) chain = some []) listed ?_ ?_ done
  · intro before after flush
    rw [(run_done documented flush).2, Function.update_self]
  · intro step member s empty
    obtain ⟨other, _, rfl⟩ := List.mem_map.mp member
    exact flush_keeps documented empty

/-- Every chain has got the rules for it, in order. -/
theorem appended {rules : List (FilterChain × FilterRule)}
    (done : Batch.run (env.perform cmd) s (rules.map fun a => .run (.append a.1 a.2)) =
      (s', .ok ())) (chain : FilterChain) :
    env.tools.chains s' (env.tools.tables cmd) chain =
      (env.tools.chains s (env.tools.tables cmd) chain).map
        (· ++ (rules.filter fun a => a.1 = chain).map Prod.snd) := by
  induction rules generalizing s with
  | nil =>
    obtain ⟨rfl, _⟩ := Prod.mk.inj done
    simp
  | cons a rest ih =>
    obtain ⟨mid, first, later⟩ := Batch.run_cons_ok.mp done
    obtain ⟨old, found, after⟩ := run_done documented first
    rw [ih later, after]
    by_cases here : a.1 = chain
    · subst here
      rw [Function.update_self, found]
      simp
    · rw [Function.update_of_ne (Ne.symm here)]
      simp [here]

end

end FilterEnv

theorem appends_pre (translations : List LocalRouteTranslation) :
    ((appends translations).filter fun a => a.1 = preChain).map Prod.snd =
      (netmapRules translations).map fun r => .netmapDestination r.1 r.2 := by
  have other : mssChain ≠ preChain := by decide
  unfold appends netmapRules
  rw [List.filter_cons_of_neg (by simpa using other)]
  induction translations with
  | nil => rfl
  | cons t rest ih =>
    have mirror : postChain ≠ preChain := by decide
    rw [List.flatMap_cons, List.filter_append, List.map_append, ih]
    by_cases same : t.local_ = t.exported
    · simp [netmapAppends, same]
    · simp [netmapAppends, same, mirror]

theorem appends_post (translations : List LocalRouteTranslation) :
    ((appends translations).filter fun a => a.1 = postChain).map Prod.snd =
      (netmapRules translations).map fun r => .netmapSource r.2 r.1 := by
  have other : mssChain ≠ postChain := by decide
  unfold appends netmapRules
  rw [List.filter_cons_of_neg (by simpa using other)]
  induction translations with
  | nil => rfl
  | cons t rest ih =>
    have mirror : preChain ≠ postChain := by decide
    rw [List.flatMap_cons, List.filter_append, List.map_append, ih]
    by_cases same : t.local_ = t.exported
    · simp [netmapAppends, same]
    · simp [netmapAppends, same, mirror]

theorem appends_mss (translations : List LocalRouteTranslation) :
    ((appends translations).filter fun a => a.1 = mssChain).map Prod.snd = [.tcpMss tcpMss] := by
  have rest : (translations.flatMap netmapAppends).filter (fun a => a.1 = mssChain) = [] := by
    rw [List.filter_eq_nil_iff]
    intro a member
    obtain ⟨t, _, member⟩ := List.mem_flatMap.mp member
    unfold netmapAppends at member
    split at member
    · cases member
    · simp only [List.mem_cons, List.not_mem_nil, or_false] at member
      rcases member with rfl | rfl <;> simp [preChain, postChain, mssChain]
  unfold appends
  rw [List.filter_cons_of_pos (by simp), rest]
  rfl

/-- Tables that translate as `translations` says, and in no other way. -/
structure Translated (interface : String) (translations : List LocalRouteTranslation)
    (chains : FilterChain → Option (List FilterRule)) : Prop where
  pre : chains preChain =
    some ((netmapRules translations).map fun r => .netmapDestination r.1 r.2)
  post : chains postChain =
    some ((netmapRules translations).map fun r => .netmapSource r.2 r.1)
  mss : chains mssChain = some [.tcpMss tcpMss]
  jumps : ∀ j ∈ jumps interface, HasRule chains j.1 j.2

namespace FilterEnv

variable {σ β : Type} {env : FilterEnv σ β}

theorem call_translated (documented : env.tools.Documented) {interface : String}
    {call : TranslationCall} {s s' : σ} {ipt : String} (found : call.program = some ipt)
    (done : env.call interface s call = (s', .ok ())) :
    Translated interface call.translations (env.tools.chains s' (env.tools.tables ipt)) := by
  unfold FilterEnv.call syncRouteTranslations at done
  rw [show resolveIptables call.supportsNetmap = some ipt from found] at done
  obtain ⟨emptied, before, filling⟩ := Batch.run_append_ok.mp done
  obtain ⟨jumping, _, flushing⟩ := Batch.run_append_ok.mp before
  have filled : ∀ chain ∈ ownChains, env.tools.chains s' (env.tools.tables ipt) chain =
      some (((appends call.translations).filter fun a => a.1 = chain).map Prod.snd) := by
    intro chain own
    rw [appended documented filling chain, flushed documented own flushing]
    rfl
  refine ⟨?_, ?_, ?_, ?_⟩
  · rw [filled preChain (by simp [ownChains]), appends_pre]
  · rw [filled postChain (by simp [ownChains]), appends_post]
  · rw [filled mssChain (by simp [ownChains]), appends_mss]
  · intro j member
    have listed : TranslationStep.ensureJump j.1 j.2 ∈
        translationSteps interface call.translations := by
      simp only [translationSteps, List.mem_append, List.mem_map]
      exact Or.inl (Or.inl (Or.inr ⟨j, member, rfl⟩))
    refine Batch.established
      (P := fun s => HasRule (env.tools.chains s (env.tools.tables ipt)) j.1 j.2) listed
      (fun _ _ => ensureJump_present documented) ?_ done
    intro step member' s has
    exact (perform_grows documented member' s _).has (jumps_unmanaged member) has

/-! ### Any history of calls -/

theorem runCalls_related {R : σ → σ → Prop} {interface : String} (refl : ∀ s, R s s)
    (trans : ∀ s t u, R s t → R t u → R s u) {calls : List TranslationCall}
    (each : ∀ call ∈ calls, ∀ s, R s (env.call interface s call).1) (s : σ) :
    R s (env.runCalls interface s calls) := by
  induction calls generalizing s with
  | nil => exact refl s
  | cons call rest ih =>
    have first := each call List.mem_cons_self s
    exact trans _ _ _ first (ih (fun c member => each c (List.mem_cons_of_mem _ member)) _)

theorem runCalls_concat (interface : String) (s : σ) (earlier : List TranslationCall)
    (call : TranslationCall) : env.runCalls interface s (earlier ++ [call]) =
      (env.call interface (env.runCalls interface s earlier) call).1 := by
  rw [runCalls, List.foldl_append]
  rfl

theorem runCalls_grows (documented : env.tools.Documented) (interface : String)
    (calls : List TranslationCall) (s : σ) :
    env.Grows interface s (env.runCalls interface s calls) :=
  runCalls_related (.refl interface) (fun _ _ _ => .trans)
    (fun call _ => call_grows documented interface call) s

theorem runCalls_apart (documented : env.tools.Documented) {b : β} {calls : List TranslationCall}
    (other : ∀ call ∈ calls, ∀ ipt, call.program = some ipt → b ≠ env.tools.tables ipt)
    (interface : String) (s : σ) :
    env.tools.chains (env.runCalls interface s calls) b = env.tools.chains s b :=
  runCalls_related (R := fun s s' => env.tools.chains s' b = env.tools.chains s b)
    (fun _ => rfl) (fun _ _ _ first then_ => then_.trans first)
    (fun call member => call_apart documented call (other call member) interface) s

end FilterEnv

section

variable {σ β : Type} (env : FilterEnv σ β)

/-- Wherever earlier calls broke off, a call that finds a program and completes has the tables of the
program translate as it says and in no other way. All calls together leave the other chains as they
were, but for jumps behind the rules that were there, and they leave all tables as they were that are
none of the programs found. -/
theorem translations_exact (documented : env.tools.Documented) (interface : String)
    (earlier : List TranslationCall) (call : TranslationCall) (s : σ) :
    let after := env.call interface (env.runCalls interface s earlier) call
    (∀ ipt, call.program = some ipt → after.2 = .ok () →
      Translated interface call.translations (env.tools.chains after.1 (env.tools.tables ipt))) ∧
    (∀ b, Extends Managed (Jumps interface) (env.tools.chains s b) (env.tools.chains after.1 b)) ∧
    ∀ b, (∀ c ∈ earlier ++ [call], ∀ ipt, c.program = some ipt → b ≠ env.tools.tables ipt) →
      env.tools.chains after.1 b = env.tools.chains s b := by
  intro after
  have whole : after.1 = env.runCalls interface s (earlier ++ [call]) :=
    (FilterEnv.runCalls_concat interface s earlier call).symm
  refine ⟨?_, ?_, ?_⟩
  · exact fun ipt found done => FilterEnv.call_translated documented found (Prod.ext rfl done)
  · rw [whole]
    exact FilterEnv.runCalls_grows documented interface _ s
  · intro b other
    rw [whole]
    exact FilterEnv.runCalls_apart documented other interface s

end

/-- The two sets of tables that a kernel can have. -/
inductive FilterBackend where
  | nft | legacy
  deriving DecidableEq

abbrev FilterHost := Netfilter FilterBackend FilterChain FilterRule

/-- The chains of the kernel, with one rule of somebody else. -/
def FilterHost.sample : FilterHost where
  chains := fun _ chain =>
    if chain = ⟨.nat, "PREROUTING"⟩ then some [.other ["-j", "DOCKER"]]
    else if chain ∈ [⟨.nat, "POSTROUTING"⟩, ⟨.mangle, "FORWARD"⟩] then some []
    else none

def FilterRule.onDestination : FilterRule → Option (Ipv4Cidr × Ipv4Cidr)
  | .netmapDestination net target => some (net, target)
  | _ => none

def FilterRule.onSource : FilterRule → Option (Ipv4Cidr × Ipv4Cidr)
  | .netmapSource net target => some (net, target)
  | _ => none

def toolBackend (cmd : String) : FilterBackend := if cmd = "iptables-legacy" then .legacy else .nft

def FilterEnv.sample (refuse : Netfilter.Refusals FilterChain FilterRule) :
    FilterEnv FilterHost FilterBackend where
  tools := Netfilter.tools [.nft, .legacy] toolBackend refuse FilterRule.onDestination
    FilterRule.onSource
  display := Ipv4Cidr.codec.print

/-- The ninth command of the host fails. -/
def busyOnce : Netfilter.Refusals FilterChain FilterRule :=
  fun n _ => if n = 8 then some "Resource temporarily unavailable" else none

def TranslationCall.sample : TranslationCall where
  supportsNetmap := fun cmd => cmd = "iptables-legacy"
  translations := [⟨.net24 10 0 0, .net24 192 168 120⟩]

/-- The first call breaks off, and the second completes. -/
theorem translations_exact_again :
    let env := FilterEnv.sample busyOnce
    let after := env.call "tun0" (env.runCalls "tun0" .sample [.sample]) .sample
    (env.call "tun0" .sample .sample).2.isOk = false ∧
      Translated "tun0" TranslationCall.sample.translations (env.tools.chains after.1 .legacy) ∧
      env.tools.chains after.1 .nft = env.tools.chains .sample .nft := by
  intro env after
  obtain ⟨translated, _, apart⟩ := translations_exact env Netfilter.tools_documented "tun0" [.sample]
    .sample .sample
  have found : ∀ c ∈ [TranslationCall.sample, .sample], ∀ ipt, c.program = some ipt →
      FilterBackend.nft ≠ toolBackend ipt := by
    intro c member ipt found
    have same : c = .sample := by simpa using member
    rw [same] at found
    obtain rfl : "iptables-legacy" = ipt := Option.some.inj found
    decide
  have broken : (env.call "tun0" .sample .sample).2.isOk = false := by decide +kernel
  have done : after.2 = .ok () := by decide +kernel
  have whole := translated "iptables-legacy" rfl done
  have legacy : env.tools.tables "iptables-legacy" = .legacy := by decide
  rw [legacy] at whole
  exact ⟨broken, whole, apart .nft found⟩

/-! ### How often the jumps are there -/

/-- A rule of a chain is not repeated, beyond what it was. -/
def NotRepeated {κ ρ : Type} [DecidableEq ρ] (chain : κ) (rule : ρ)
    (chains chains' : κ → Option (List ρ)) : Prop :=
  ∀ rules, chains chain = some rules →
    ∃ rules', chains' chain = some rules' ∧ rules'.count rule ≤ max 1 (rules.count rule)

namespace NotRepeated

variable {κ ρ : Type} [DecidableEq ρ] {chain : κ} {rule : ρ} {chains chains' : κ → Option (List ρ)}

theorem of_same (same : chains' chain = chains chain) : NotRepeated chain rule chains chains' := by
  intro rules found
  exact ⟨rules, by rw [same, found], le_max_right _ _⟩

theorem trans {chains'' : κ → Option (List ρ)} (first : NotRepeated chain rule chains chains')
    (then_ : NotRepeated chain rule chains' chains'') : NotRepeated chain rule chains chains'' := by
  intro rules found
  obtain ⟨mid, here, few⟩ := first rules found
  obtain ⟨last, there, few'⟩ := then_ mid here
  exact ⟨last, there, few'.trans (max_le (le_max_left _ _) few)⟩

/-- A rule that is not in its chain may be appended. -/
theorem append [DecidableEq κ] {parent : κ} {jump : ρ} (absent : ¬ HasRule chains parent jump)
    (done : (FilterCommand.append parent jump).Done chains chains') :
    NotRepeated chain rule chains chains' := by
  obtain ⟨rules, found, after⟩ := done
  by_cases elsewhere : chain = parent
  · subst elsewhere
    intro old here
    obtain rfl : rules = old := Option.some.inj (found.symm.trans here)
    refine ⟨rules ++ [jump], by rw [after, Function.update_self], ?_⟩
    rw [List.count_append]
    by_cases own : jump = rule
    · subst own
      rw [List.count_eq_zero_of_not_mem fun member => absent ⟨rules, found, member⟩]
      simp
    · rw [List.count_singleton, if_neg (by simpa using own)]
      exact le_max_right _ _
  · exact of_same (by rw [after, Function.update_of_ne elsewhere])

end NotRepeated

namespace FilterEnv

variable {σ β : Type} {env : FilterEnv σ β} {cmd : String} {chain : FilterChain} {rule : FilterRule}

theorem check_absent (honest : env.tools.Honest) {s : σ} {err : String}
    (failed : (env.run cmd (.check chain rule) s).2 = .error err) :
    ¬ HasRule (env.tools.chains s (env.tools.tables cmd)) chain rule := by
  intro has
  obtain ⟨out, checked, success⟩ := honest cmd chain rule s has
  unfold run at failed
  cases outcome : env.tools.output cmd (.check chain rule) s with
  | mk s' result =>
    rw [outcome] at checked failed
    obtain rfl : result = .ok out := checked
    dsimp only at failed
    rw [if_pos success] at failed
    cases failed

section

variable (documented : env.tools.Documented)

include documented

/-- The commands on the own chains leave the others alone. -/
theorem run_unmanaged {c : ChainCommand} (own : c.Within Managed fun _ _ => False)
    (free : ¬ Managed chain) (s : σ) (b : β) :
    env.tools.chains (env.run cmd c s).1 b chain = env.tools.chains s b chain := by
  obtain ⟨added, grown, none_⟩ := run_extends documented own s b chain free
  have empty : added = [] := List.eq_nil_iff_forall_not_mem.mpr none_
  rw [grown, empty]
  simp

theorem ensureJump_notRepeated (honest : env.tools.Honest) (parent : FilterChain) (jump : FilterRule)
    (s : σ) : NotRepeated chain rule (env.tools.chains s (env.tools.tables cmd))
      (env.tools.chains (env.ensureJump cmd parent jump s).1 (env.tools.tables cmd)) := by
  unfold ensureJump
  cases outcome : env.run cmd (.check parent jump) s with
  | mk mid result =>
    cases result with
    | ok _ =>
      obtain ⟨_, same⟩ := run_done documented outcome
      exact .of_same (congrFun same chain)
    | error err =>
      have same : env.tools.chains mid = env.tools.chains s := by
        rcases run_cases documented cmd (.check parent jump) s with ⟨same, _⟩ | ⟨ok, _⟩
        · rwa [outcome] at same
        · rw [outcome] at ok
          cases ok
      have absent := check_absent honest (congrArg Prod.snd outcome)
      dsimp only
      rw [← same] at absent ⊢
      rcases run_cases documented cmd (.append parent jump) mid with ⟨kept, _⟩ | ⟨_, done⟩
      · rw [kept]
        exact .of_same rfl
      · exact .append absent done

theorem perform_notRepeated (honest : env.tools.Honest) (free : ¬ Managed chain)
    {interface : String} {translations : List LocalRouteTranslation} {step : TranslationStep}
    (member : step ∈ translationSteps interface translations) (s : σ) (b : β) :
    NotRepeated chain rule (env.tools.chains s b) (env.tools.chains (env.perform cmd s step).1 b) := by
  by_cases mine : b = env.tools.tables cmd
  · simp only [translationSteps, List.mem_append, List.mem_map] at member
    rcases member with ((⟨own, managed, rfl⟩ | ⟨j, _, rfl⟩) | ⟨own, managed, rfl⟩) | ⟨a, listed, rfl⟩
    · rw [perform, ensureChain_fst]
      exact .of_same (run_unmanaged documented (c := .newChain own) managed free s b)
    · rw [mine]
      exact ensureJump_notRepeated documented honest j.1 j.2 s
    · exact .of_same (run_unmanaged documented (c := .flush own) managed free s b)
    · exact .of_same (run_unmanaged documented (c := .append a.1 a.2)
        (Or.inl (appends_managed listed)) free s b)
  · rw [perform_apart documented mine]
    exact .of_same rfl

theorem call_notRepeated (honest : env.tools.Honest) (free : ¬ Managed chain) (interface : String)
    (call : TranslationCall) (s : σ) (b : β) :
    NotRepeated chain rule (env.tools.chains s b)
      (env.tools.chains (env.call interface s call).1 b) := by
  unfold FilterEnv.call syncRouteTranslations
  cases resolveIptables call.supportsNetmap with
  | none => exact .of_same rfl
  | some ipt =>
    exact Batch.run_related
      (R := fun s s' => NotRepeated chain rule (env.tools.chains s b) (env.tools.chains s' b))
      (fun _ => .of_same rfl) (fun _ _ _ => .trans)
      (fun _ member s => perform_notRepeated documented honest free member s b) s

end

end FilterEnv

section

variable {σ β : Type} (env : FilterEnv σ β)

/-- While checks fail for want of a rule only, a jump is there once after any number of calls, with
whatever programs, of which the last one finds a program and completes, and as often as before if it
was there more often. -/
theorem jumps_once (documented : env.tools.Documented) (honest : env.tools.Honest)
    (interface : String) (earlier : List TranslationCall) (call : TranslationCall) (s : σ) :
    let after := env.call interface (env.runCalls interface s earlier) call
    ∀ ipt, call.program = some ipt → after.2 = .ok () →
      ∀ j ∈ jumps interface, ∀ rules,
        env.tools.chains s (env.tools.tables ipt) j.1 = some rules →
          ∃ rules', env.tools.chains after.1 (env.tools.tables ipt) j.1 = some rules' ∧
            rules'.count j.2 = max 1 (rules.count j.2) := by
  intro after ipt available done j member rules found
  have free := jumps_unmanaged member
  have whole := @FilterEnv.runCalls_concat _ _ env interface s earlier call
  obtain ⟨added, grown, _⟩ := FilterEnv.runCalls_grows documented interface (earlier ++ [call]) s
    (env.tools.tables ipt) j.1 free
  obtain ⟨again, same, listed⟩ :=
    (FilterEnv.call_translated documented available (Prod.ext rfl done)).jumps j member
  obtain ⟨rules', here, few⟩ := FilterEnv.runCalls_related
    (R := fun s s' => NotRepeated j.1 j.2 (env.tools.chains s (env.tools.tables ipt))
      (env.tools.chains s' (env.tools.tables ipt)))
    (fun _ => .of_same rfl) (fun _ _ _ => .trans)
    (fun call _ s => FilterEnv.call_notRepeated documented honest free interface call s _) s rules
    found
  rw [whole] at grown here
  rw [found, Option.map_some] at grown
  obtain rfl : rules' = rules ++ added := Option.some.inj (here.symm.trans grown)
  obtain rfl : again = rules ++ added := Option.some.inj (same.symm.trans here)
  refine ⟨rules ++ added, here, le_antisymm few (max_le (List.count_pos_iff.mpr listed) ?_)⟩
  rw [List.count_append]
  exact Nat.le_add_right _ _

end

theorem jumps_once_twice :
    let env := FilterEnv.sample fun _ _ => none
    let after := env.call "tun0" (env.runCalls "tun0" .sample [.sample]) .sample
    ∃ rules, env.tools.chains after.1 .legacy ⟨.nat, "PREROUTING"⟩ = some rules ∧
      rules.count (.jump .input "tun0" preChain.name) = 1 := by
  intro env after
  have done : after.2 = .ok () := by decide +kernel
  have once := jumps_once env Netfilter.tools_documented Netfilter.tools_honest "tun0" [.sample]
    .sample .sample "iptables-legacy" rfl done _ List.mem_cons_self _ rfl
  have legacy : env.tools.tables "iptables-legacy" = .legacy := by decide
  rw [legacy] at once
  exact once

end Kaonic.Vpn
