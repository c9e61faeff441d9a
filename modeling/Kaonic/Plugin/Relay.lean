import Kaonic.Plugin.MeshAgreement

/-!
# Relay paths

A command on its way along a chain of links. Each node is in any state; what it sends on is the
encoding of the command it has just applied, never the bytes it received.
-/

namespace Kaonic.Plugin

open Kaonic.Net (AddressHash)

/-- A node of the path as the payload reaches it over a link it holds. -/
structure Hop where
  state : DiagnosticState
  peerHashes : Finset AddressHash
  source : AddressHash
  now : SystemTime
  linked : source ∈ peerHashes

namespace Hop

def control (hop : Hop) (payload : List UInt8) :
    DiagnosticState × Finset AddressHash × Option DiagnosticCommand :=
  networkControl hop.state hop.peerHashes hop.source (.data payload) hop.now

/-- The node remembers no command of this id, or no longer. -/
def Unseen (hop : Hop) (id : String) : Prop :=
  (hop.state.prune hop.now).seenCommands.lookup id = none

/-- The nodes of the path that the command reaches, with what each of them receives. -/
def heard (payload : List UInt8) : List Hop → List (Hop × List UInt8)
  | [] => []
  | hop :: rest =>
    (hop, payload) ::
      match (hop.control payload).2.2 with
      | some command => heard command.encode rest
      | none => []

/-! ### One node -/

section

variable {payload : List UInt8} {command : DiagnosticCommand} {hop : Hop}

theorem control_parsed (parsed : DiagnosticCommand.parse payload = .ok command) (hop : Hop) :
    hop.control payload = ((hop.state.applyOnceAt command hop.now).1, hop.peerHashes,
      if (hop.state.applyOnceAt command hop.now).2 then some command else none) := by
  unfold control networkControl
  rw [if_neg (not_not.mpr hop.linked)]
  dsimp only
  rw [parsed]

theorem relays_iff (parsed : DiagnosticCommand.parse payload = .ok command) (hop : Hop) :
    (hop.control payload).2.2 = some command ↔ hop.Unseen command.id := by
  rw [control_parsed parsed, Unseen, ← DiagnosticState.applyOnceAt_accepts]
  simp

theorem relays_only (parsed : DiagnosticCommand.parse payload = .ok command)
    {next : DiagnosticCommand} (relayed : (hop.control payload).2.2 = some next) :
    next = command := by
  rw [control_parsed parsed] at relayed
  dsimp only at relayed
  split at relayed
  · exact (Option.some.inj relayed).symm
  · cases relayed

/-! ### A path -/

/-- The nodes of a path may read different bytes, but each of them reads the command that the
first one accepted. -/
theorem heard_parses (parsed : DiagnosticCommand.parse payload = .ok command) (path : List Hop) :
    ∀ arrival ∈ heard payload path, DiagnosticCommand.parse arrival.2 = .ok command := by
  induction path generalizing payload with
  | nil =>
    intro arrival member
    cases member
  | cons hop rest ih =>
    have valid := DiagnosticCommand.parse_valid parsed
    intro arrival member
    rcases List.mem_cons.mp member with rfl | later
    · exact parsed
    · split at later
      · rename_i next relayed
        obtain rfl := relays_only parsed relayed
        exact ih (DiagnosticCommand.parse_encode valid) arrival later
      · cases later

theorem heard_reaches (parsed : DiagnosticCommand.parse payload = .ok command) {path : List Hop}
    (unseen : ∀ hop ∈ path, hop.Unseen command.id) : (heard payload path).map Prod.fst = path := by
  induction path generalizing payload with
  | nil => rfl
  | cons hop rest ih =>
    have valid := DiagnosticCommand.parse_valid parsed
    have relayed := (relays_iff parsed hop).mpr (unseen hop List.mem_cons_self)
    rw [heard, relayed, List.map_cons,
      ih (DiagnosticCommand.parse_encode valid) fun next member =>
        unseen next (List.mem_cons_of_mem _ member)]

end

end Hop

/-- What the parser accepts is within the bounds of the constructors, what these make is read back
from its encoding, and a command keeps its id and action along a path of any length. -/
theorem parse_relayed :
    (∀ payload command, DiagnosticCommand.parse payload = .ok command →
      (1 ≤ command.id.toList.length ∧ command.id.toList.length ≤ 96 ∧
        ∀ c ∈ command.id.toList, c.isAlphanum = true ∨ c = '-') ∧
      (∀ seconds, command.action = .enable seconds → 1 ≤ seconds ∧ seconds ≤ maxEnableSeconds) ∧
      ∀ path : List Hop,
        (∀ arrival ∈ Hop.heard payload path,
          DiagnosticCommand.parse arrival.2 = .ok command ∧
          arrival.1.control arrival.2 =
            ((arrival.1.state.applyOnceAt command arrival.1.now).1, arrival.1.peerHashes,
              if (arrival.1.state.applyOnceAt command arrival.1.now).2 then some command
              else none) ∧
          ((arrival.1.state.applyOnceAt command arrival.1.now).2 = true ↔
            arrival.1.Unseen command.id)) ∧
        ((∀ hop ∈ path, hop.Unseen command.id) → (Hop.heard payload path).map Prod.fst = path)) ∧
    ∀ id action command, DiagnosticCommand.new id action = .ok command →
      command.encode.length ≤ maxCommandBytes ∧
        DiagnosticCommand.parse command.encode = .ok command := by
  refine ⟨?_, ?_⟩
  · intro payload command parsed
    have valid := DiagnosticCommand.parse_valid parsed
    obtain ⟨nonempty, short, chars⟩ := DiagnosticCommand.validateId_ok valid.id_ok
    rw [Text.length_toUtf8_ascii fun c member =>
      (DiagnosticCommand.idChar_toNat (chars c member)).2.1] at short
    refine ⟨⟨List.length_pos_iff.mpr nonempty, short, ?_⟩, valid.duration, ?_⟩
    · intro c member
      simpa [idChar] using chars c member
    · intro path
      refine ⟨?_, Hop.heard_reaches parsed⟩
      intro arrival member
      have read := Hop.heard_parses parsed path arrival member
      exact ⟨read, Hop.control_parsed read _, DiagnosticState.applyOnceAt_accepts⟩
  · intro id action command made
    have valid := (DiagnosticCommand.new_ok made).2
    exact ⟨DiagnosticCommand.encode_length valid, DiagnosticCommand.parse_encode valid⟩

/-- A new node that holds one link. -/
def Hop.fresh (source : AddressHash) (now : SystemTime) : Hop where
  state := .new 4
  peerHashes := {source}
  source := source
  now := now
  linked := Finset.mem_singleton_self source

def spacedPayload : List UInt8 := Text.toUtf8 " KAD1|a-1|enable|+060\n".toList

theorem parse_relayed_spaced :
    (Hop.heard spacedPayload [.fresh (.repeated 1) (.ofSecs 1), .fresh (.repeated 2) (.ofSecs 2)]).map
        Prod.snd = [spacedPayload, Text.toUtf8 "KAD1|a-1|enable|60".toList] ∧
      DiagnosticCommand.parse spacedPayload = .ok ⟨"a-1", .enable 60⟩ ∧
      1 ≤ (60 : UInt64) ∧ (60 : UInt64) ≤ maxEnableSeconds := by
  have parsed : DiagnosticCommand.parse spacedPayload = .ok ⟨"a-1", .enable 60⟩ := by decide
  exact ⟨by decide, parsed, (parse_relayed.1 _ _ parsed).2.1 60 rfl⟩

end Kaonic.Plugin
