import Kaonic.Net.Notation

/-!
# The local interface

The plugin sends on one interface. Two filters and three checks of their outcome leave it, for each
way to configure it, the one candidate that meets the configuration, or none.
-/

namespace Kaonic.Plugin
open Net

structure InterfaceCandidate where
  name : String
  addr : Ipv4Addr
  deriving DecidableEq

structure LocalInterface where
  name : String
  addr : Ipv4Addr
  deriving DecidableEq

structure InterfaceSelection where
  interfaceName : Option String := none
  localAddr : Option Ipv4Addr := none
  deriving DecidableEq

inductive InterfaceSelectionError where
  | noUsableInterfaces
  | noAutomaticAtakInterface
  | interfaceNotFound (name : String)
  | addressNotFound (addr : Ipv4Addr)
  | ambiguousInterface (detail : String)
  deriving DecidableEq

def InterfaceSelectionError.display : InterfaceSelectionError → String
  | .noUsableInterfaces => "no non-loopback IPv4 interfaces found"
  | .noAutomaticAtakInterface =>
    "no unambiguous 192.168.10.0/24 ATAK interface found; configure KAONIC_ATAK_INTERFACE_IP or --local-address explicitly"
  | .interfaceNotFound name => "interface '" ++ name ++ "' was not found"
  | .addressNotFound addr => "local address " ++ String.ofList addr.print ++ " was not found"
  | .ambiguousInterface detail => "local ATAK interface selection is ambiguous: " ++ detail

def InterfaceCandidate.toLocalInterface (candidate : InterfaceCandidate) : LocalInterface :=
  ⟨candidate.name, candidate.addr⟩

def isKaonicLanAddr (addr : Ipv4Addr) : Bool :=
  match addr.octets with
  | a :: b :: c :: _ => a == 192 && b == 168 && c == 10
  | _ => false

def describeCandidates (candidates : List InterfaceCandidate) : String :=
  ", ".intercalate (candidates.map fun candidate =>
    candidate.name ++ "=" ++ String.ofList candidate.addr.print)

def autoDetect (candidates : List InterfaceCandidate) :
    Except InterfaceSelectionError LocalInterface :=
  if candidates.isEmpty then .error .noUsableInterfaces
  else
    let kaonicLan := candidates.filter fun candidate => isKaonicLanAddr candidate.addr
    match kaonicLan with
    | [candidate] => .ok candidate.toLocalInterface
    | [] => .error .noAutomaticAtakInterface
    | _ => .error (.ambiguousInterface
      ("multiple 192.168.10.0/24 candidates: " ++ describeCandidates kaonicLan))

def oneCandidate (candidates : List InterfaceCandidate) (context : String) :
    Except InterfaceSelectionError LocalInterface :=
  match candidates with
  | [] => .error .noUsableInterfaces
  | [candidate] => .ok candidate.toLocalInterface
  | _ => .error (.ambiguousInterface (context ++ " matched " ++ describeCandidates candidates))

/-- The first filter of `select_local_interface`. -/
def InterfaceSelection.keeps (selection : InterfaceSelection) (candidate : InterfaceCandidate) :
    Bool :=
  match selection.interfaceName, selection.localAddr with
  | some name, some addr => candidate.name == name && candidate.addr == addr
  | some name, none => candidate.name == name
  | none, some addr => candidate.addr == addr
  | none, none => true

def selectLocalInterface (candidates : List InterfaceCandidate) (selection : InterfaceSelection) :
    Except InterfaceSelectionError LocalInterface := do
  let candidates := candidates.filter selection.keeps
  if let some name := selection.interfaceName then
    if candidates.isEmpty then throw (.interfaceNotFound name)
  if let some addr := selection.localAddr then
    if candidates.isEmpty then throw (.addressNotFound addr)
  match selection.interfaceName.isSome, selection.localAddr.isSome with
  | true, true => oneCandidate candidates "explicit interface/address"
  | true, false => oneCandidate candidates "explicit interface"
  | false, true => oneCandidate candidates "explicit address"
  | false, false => autoDetect candidates

/-! ### The constraint -/

/-- `192.168.10.0/24`. -/
def kaonicLanCidr : Ipv4Cidr := .net24 192 168 10

/-- What a candidate has to be like: the given name and address, or one of them if only that is
given, or in the Kaonic LAN if neither is. -/
def InterfaceSelection.Meets (selection : InterfaceSelection) (candidate : InterfaceCandidate) :
    Prop :=
  match selection.interfaceName, selection.localAddr with
  | some name, some addr => candidate.name = name ∧ candidate.addr = addr
  | some name, none => candidate.name = name
  | none, some addr => candidate.addr = addr
  | none, none => kaonicLanCidr.contains candidate.addr = true

theorem isKaonicLanAddr_eq (addr : Ipv4Addr) : isKaonicLanAddr addr = kaonicLanCidr.contains addr := by
  have bound := addr.toNat_lt
  have network : kaonicLanCidr.firstAddress.toNat / 2 ^ (32 - kaonicLanCidr.networkLength) =
      192 * 2 ^ 16 + 168 * 2 ^ 8 + 10 := by decide
  have length : kaonicLanCidr.networkLength = 24 := rfl
  rw [Ipv4Cidr.contains, network, length, Bool.eq_iff_iff]
  simp only [isKaonicLanAddr, Ipv4Addr.octets, Bool.and_eq_true, beq_iff_eq, ← UInt8.toNat_inj,
    UInt8.toNat_ofNat', UInt8.reduceToNat]
  omega

/-- The candidates that meet the constraint are those that every filter leaves. -/
def InterfaceSelection.meets (selection : InterfaceSelection) (candidate : InterfaceCandidate) :
    Bool :=
  selection.keeps candidate && (selection.interfaceName.isSome || selection.localAddr.isSome ||
    isKaonicLanAddr candidate.addr)

section

variable {candidates others : List InterfaceCandidate} {selection : InterfaceSelection}
  {i : LocalInterface}

theorem InterfaceSelection.meets_iff {candidate : InterfaceCandidate} :
    selection.meets candidate = true ↔ selection.Meets candidate := by
  unfold meets Meets keeps
  rw [isKaonicLanAddr_eq]
  cases selection.interfaceName <;> cases selection.localAddr <;> simp

instance (selection : InterfaceSelection) : DecidablePred selection.Meets :=
  fun _ => decidable_of_iff _ InterfaceSelection.meets_iff

/-! ### What the checks let through -/

theorem oneCandidate_ok {context : String} : oneCandidate candidates context = .ok i ↔
    ∃ c, candidates = [c] ∧ c.toLocalInterface = i := by
  unfold oneCandidate
  split <;> simp_all

theorem autoDetect_ok : autoDetect candidates = .ok i ↔
    ∃ c, candidates.filter (fun c => isKaonicLanAddr c.addr) = [c] ∧ c.toLocalInterface = i := by
  unfold autoDetect
  split
  · rename_i none
    rw [List.isEmpty_iff.mp none]
    simp
  · dsimp only
    generalize candidates.filter (fun c => isKaonicLanAddr c.addr) = lan
    split <;> simp_all

/-- With a name or an address, a list that the first filter empties is refused by one check or
another; with neither, both filters apply. -/
theorem selectLocalInterface_ok : selectLocalInterface candidates selection = .ok i ↔
    ∃ c, candidates.filter selection.meets = [c] ∧ c.toLocalInterface = i := by
  obtain ⟨name, addr⟩ := selection
  have meets : candidates.filter (InterfaceSelection.meets ⟨name, addr⟩) =
      (candidates.filter (InterfaceSelection.keeps ⟨name, addr⟩)).filter fun c =>
        name.isSome || addr.isSome || isKaonicLanAddr c.addr := by
    rw [List.filter_filter]
    refine List.filter_congr fun c _ => Bool.and_comm _ _
  rw [meets]
  unfold selectLocalInterface
  generalize candidates.filter (InterfaceSelection.keeps ⟨name, addr⟩) = kept
  cases kept with
  | nil =>
    cases name <;> cases addr <;>
      simp [bind, Except.bind, throw, throwThe, MonadExceptOf.throw, autoDetect]
  | cons first rest =>
    cases name <;> cases addr <;> simp [oneCandidate_ok, autoDetect_ok]

theorem filter_eq_singleton {α : Type} {p : α → Bool} {l : List α} {x : α} :
    l.filter p = [x] ↔ l.countP p = 1 ∧ x ∈ l ∧ p x = true := by
  rw [List.countP_eq_length_filter, ← List.mem_filter]
  constructor
  · intro sole
    rw [sole]
    exact ⟨rfl, List.mem_cons_self⟩
  · rintro ⟨one, member⟩
    obtain ⟨y, sole⟩ := List.length_eq_one_iff.mp one
    rw [sole] at member ⊢
    rw [List.mem_singleton.mp member]

theorem selectLocalInterface_ok_iff : selectLocalInterface candidates selection = .ok i ↔
    candidates.countP (fun c => decide (selection.Meets c)) = 1 ∧
      ∃ c ∈ candidates, selection.Meets c ∧ c.toLocalInterface = i := by
  have same : (fun c => decide (selection.Meets c)) = selection.meets := by
    funext c
    rw [Bool.eq_iff_iff, decide_eq_true_iff, InterfaceSelection.meets_iff]
  rw [selectLocalInterface_ok, same]
  simp only [filter_eq_singleton, InterfaceSelection.meets_iff, and_assoc, exists_and_left]

theorem selectLocalInterface_isOk : (selectLocalInterface candidates selection).isOk = true ↔
    candidates.countP (fun c => decide (selection.Meets c)) = 1 := by
  constructor
  · intro ok
    cases outcome : selectLocalInterface candidates selection with
    | ok i => exact (selectLocalInterface_ok_iff.mp outcome).1
    | error err =>
      rw [outcome] at ok
      cases ok
  · intro one
    have some_ : 0 < candidates.countP (fun c => decide (selection.Meets c)) := by omega
    obtain ⟨c, member, meets⟩ := List.countP_pos_iff.mp some_
    have selected : selectLocalInterface candidates selection = .ok c.toLocalInterface :=
      selectLocalInterface_ok_iff.mpr ⟨one, c, member, of_decide_eq_true meets, rfl⟩
    rw [selected]
    rfl

end

/-- Exactly the one candidate that meets the constraint is selected, in whatever order the
candidates come, and without a configuration it is in the Kaonic LAN. -/
theorem selectLocalInterface_sole (candidates : List InterfaceCandidate)
    (selection : InterfaceSelection) :
    (∀ i, selectLocalInterface candidates selection = .ok i ↔
      candidates.countP (fun c => decide (selection.Meets c)) = 1 ∧
        ∃ c ∈ candidates, selection.Meets c ∧ c.toLocalInterface = i) ∧
    (∀ others : List InterfaceCandidate, candidates.Perm others →
      (selectLocalInterface others selection).isOk =
        (selectLocalInterface candidates selection).isOk) ∧
    (selection = {} → ∀ i, selectLocalInterface candidates selection = .ok i →
      kaonicLanCidr.contains i.addr = true) := by
  refine ⟨fun _ => selectLocalInterface_ok_iff, ?_, ?_⟩
  · intro others perm
    rw [Bool.eq_iff_iff, selectLocalInterface_isOk, selectLocalInterface_isOk]
    rw [perm.countP_eq]
  · rintro rfl i selected
    obtain ⟨_, c, _, meets, rfl⟩ := selectLocalInterface_ok_iff.mp selected
    exact meets

/-- Two addresses of one interface are one too many for its name. -/
example : selectLocalInterface [⟨"usb0", .new 192 168 10 2⟩, ⟨"usb0", .new 10 0 0 2⟩]
    { interfaceName := some "usb0" } =
      .error (.ambiguousInterface "explicit interface matched usb0=192.168.10.2, usb0=10.0.0.2") := by
  decide

end Kaonic.Plugin
