import Kaonic.Base.Text

/-!
# Diagnostic commands

The text format of the mesh control channel, `KAD1|id|action|argument`. `parse_encode` is the
round trip of every command that the constructors accept.
-/

namespace Kaonic.Plugin

def defaultEnableSeconds : UInt64 := 15 * 60
def maxEnableSeconds : UInt64 := 24 * 60 * 60
def maxCommandBytes : Nat := 512
def controlVersion : List Char := ['K', 'A', 'D', '1']

inductive DiagnosticAction where
  | enable (seconds : UInt64)
  | disable
  deriving DecidableEq

structure DiagnosticCommand where
  id : String
  action : DiagnosticAction
  deriving DecidableEq

inductive DiagnosticCommandError where
  | notUtf8 | invalidFormat | invalidVersion | invalidId | invalidDuration | invalidAction | tooLarge
  deriving DecidableEq

def DiagnosticCommandError.display : DiagnosticCommandError → String
  | .notUtf8 => "diagnostics command is not UTF-8"
  | .invalidFormat => "invalid diagnostics command format"
  | .invalidVersion => "unsupported diagnostics command version"
  | .invalidId => "invalid diagnostics command id"
  | .invalidDuration => "invalid diagnostics enable duration"
  | .invalidAction => "invalid diagnostics command action"
  | .tooLarge => "diagnostics command is too large"

def idChar (c : Char) : Bool := c.isAlphanum || c == '-'

def validateId (id : String) : Except DiagnosticCommandError Unit :=
  if id.toList = [] ∨ 96 < (Text.toUtf8 id.toList).length ∨ ¬ id.toList.all idChar then
    .error .invalidId
  else .ok ()

namespace DiagnosticCommand

def enable (id : String) (seconds : UInt64) : Except DiagnosticCommandError DiagnosticCommand := do
  validateId id
  if 1 ≤ seconds ∧ seconds ≤ maxEnableSeconds then pure ⟨id, .enable seconds⟩
  else throw .invalidDuration

def disable (id : String) : Except DiagnosticCommandError DiagnosticCommand := do
  validateId id
  pure ⟨id, .disable⟩

def parse (payload : List UInt8) : Except DiagnosticCommandError DiagnosticCommand :=
  if maxCommandBytes < payload.length then .error .tooLarge
  else
    match Text.fromUtf8 payload with
    | none => .error .notUtf8
    | some text =>
      match (Text.trim text).splitOn '|' with
      | [version, id, action, argument] =>
        if version ≠ controlVersion then .error .invalidVersion
        else if action = "enable".toList then
          match Text.parseU64 argument with
          | none => .error .invalidDuration
          | some seconds => enable (String.ofList id) seconds
        else if action = "disable".toList then
          if argument = ['0'] then disable (String.ofList id) else .error .invalidDuration
        else .error .invalidAction
      | _ => .error .invalidFormat

def fields (c : DiagnosticCommand) : List (List Char) :=
  match c.action with
  | .enable seconds => [controlVersion, c.id.toList, "enable".toList, Text.printU64 seconds]
  | .disable => [controlVersion, c.id.toList, "disable".toList, ['0']]

def encode (c : DiagnosticCommand) : List UInt8 := Text.toUtf8 (['|'].intercalate c.fields)

/-! ### Commands the constructors accept -/

structure Valid (c : DiagnosticCommand) : Prop where
  id_ok : validateId c.id = .ok ()
  duration : ∀ seconds, c.action = .enable seconds → 1 ≤ seconds ∧ seconds ≤ maxEnableSeconds

theorem enable_ok_iff {id : String} {seconds : UInt64} {c : DiagnosticCommand} :
    enable id seconds = .ok c ↔ c = ⟨id, .enable seconds⟩ ∧ c.Valid := by
  unfold enable
  cases accepted : validateId id with
  | error e =>
    refine ⟨fun h => (by cases h), ?_⟩
    intro ⟨same, valid⟩
    subst c
    rw [valid.id_ok] at accepted
    cases accepted
  | ok _ =>
    simp only [bind, Except.bind]
    split
    · rename_i bounds
      refine ⟨?_, fun ⟨same, _⟩ => by rw [same]; rfl⟩
      intro h
      obtain rfl := Except.ok.inj h
      refine ⟨rfl, accepted, ?_⟩
      intro s same
      obtain rfl := DiagnosticAction.enable.inj same
      exact bounds
    · rename_i outside
      refine ⟨fun h => (by cases h), ?_⟩
      intro ⟨same, valid⟩
      subst c
      exact (outside (valid.duration seconds rfl)).elim

theorem disable_ok_iff {id : String} {c : DiagnosticCommand} :
    disable id = .ok c ↔ c = ⟨id, .disable⟩ ∧ c.Valid := by
  unfold disable
  cases accepted : validateId id with
  | error e =>
    refine ⟨fun h => (by cases h), ?_⟩
    intro ⟨same, valid⟩
    subst c
    rw [valid.id_ok] at accepted
    cases accepted
  | ok _ =>
    refine ⟨?_, fun ⟨same, _⟩ => by rw [same]; rfl⟩
    intro h
    obtain rfl := Except.ok.inj h
    exact ⟨rfl, accepted, fun _ same => by cases same⟩

/-- Whatever the parser accepts, a constructor has checked. -/
theorem parse_valid {payload : List UInt8} {c : DiagnosticCommand} (h : parse payload = .ok c) :
    c.Valid := by
  unfold parse at h
  split at h
  · cases h
  split at h
  · cases h
  split at h
  · split at h
    · cases h
    split at h
    · split at h
      · cases h
      · exact (enable_ok_iff.mp h).2
    split at h
    · split at h
      · exact (disable_ok_iff.mp h).2
      · cases h
    · cases h
  · cases h

/-! ### Round trip -/

theorem validateId_ok {id : String} (h : validateId id = .ok ()) :
    id.toList ≠ [] ∧ (Text.toUtf8 id.toList).length ≤ 96 ∧ ∀ c ∈ id.toList, idChar c = true := by
  unfold validateId at h
  split at h
  · cases h
  · rename_i fine
    simp only [not_or, not_not, Nat.not_lt, List.all_eq_true] at fine
    exact fine

theorem idChar_toNat {c : Char} (h : idChar c = true) :
    33 ≤ c.toNat ∧ c.toNat < 128 ∧ c ≠ '|' := by
  have bounds : (65 ≤ c.toNat ∧ c.toNat ≤ 90) ∨ (97 ≤ c.toNat ∧ c.toNat ≤ 122) ∨
      (48 ≤ c.toNat ∧ c.toNat ≤ 57) ∨ c.toNat = 45 := by
    simp only [idChar, Char.isAlphanum, Char.isAlpha, Char.isUpper, Char.isLower, Char.isDigit,
      Bool.or_eq_true, Bool.and_eq_true, decide_eq_true_eq, beq_iff_eq, UInt32.le_iff_toNat_le,
      ge_iff_le] at h
    rcases h with ((upper | lower) | digit) | rfl
    · exact Or.inl upper
    · exact Or.inr (Or.inl lower)
    · exact Or.inr (Or.inr (Or.inl digit))
    · exact Or.inr (Or.inr (Or.inr rfl))
  refine ⟨by omega, by omega, ?_⟩
  intro bar
  rw [bar] at bounds
  revert bounds
  decide

theorem printU64_ascii {n : UInt64} {c : Char} (member : c ∈ Text.printU64 n) :
    33 ≤ c.toNat ∧ c.toNat < 128 ∧ c ≠ '|' := by
  have bounds := Text.isDigit_toNat (Text.printU64_digits member)
  refine ⟨by omega, by omega, ?_⟩
  intro bar
  rw [bar] at bounds
  revert bounds
  decide

theorem fields_ascii {c : DiagnosticCommand} (valid : c.Valid) :
    ∀ field ∈ c.fields, ∀ d ∈ field, 33 ≤ d.toNat ∧ d.toNat < 128 ∧ d ≠ '|' := by
  have id := fun d member => idChar_toNat ((validateId_ok valid.id_ok).2.2 d member)
  have plain : [controlVersion, "enable".toList, "disable".toList, ['0']].all fun text =>
      text.all fun d => decide (33 ≤ d.toNat ∧ d.toNat < 128 ∧ d ≠ '|') := by decide
  simp only [List.all_eq_true, decide_eq_true_eq] at plain
  unfold fields
  cases c.action with
  | enable seconds =>
    simp only [List.mem_cons, List.not_mem_nil, or_false, forall_eq_or_imp, forall_eq]
    exact ⟨plain _ (by decide), id, plain _ (by decide), fun d member => printU64_ascii member⟩
  | disable =>
    simp only [List.mem_cons, List.not_mem_nil, or_false, forall_eq_or_imp, forall_eq]
    exact ⟨plain _ (by decide), id, plain _ (by decide), by decide⟩

def text (c : DiagnosticCommand) : List Char := ['|'].intercalate c.fields

theorem fields_eq (c : DiagnosticCommand) : ∃ verb argument,
    c.fields = [controlVersion, c.id.toList, verb, argument] := by
  unfold fields
  cases c.action with
  | enable seconds => exact ⟨_, _, rfl⟩
  | disable => exact ⟨_, _, rfl⟩

theorem text_ascii {c : DiagnosticCommand} (valid : c.Valid) :
    ∀ d ∈ c.text, 33 ≤ d.toNat ∧ d.toNat < 128 := by
  have field := fields_ascii valid
  obtain ⟨verb, argument, same⟩ := fields_eq c
  rw [same] at field
  have bar : 33 ≤ '|'.toNat ∧ '|'.toNat < 128 := by decide
  intro d member
  simp only [text, same, List.intercalate, List.intersperse, List.flatten_cons, List.mem_append,
    List.flatten_nil, List.append_nil, List.mem_singleton] at member
  rcases member with here | rfl | here | rfl | here | rfl | here
  · exact ⟨(field _ (by simp) d here).1, (field _ (by simp) d here).2.1⟩
  · exact bar
  · exact ⟨(field _ (by simp) d here).1, (field _ (by simp) d here).2.1⟩
  · exact bar
  · exact ⟨(field _ (by simp) d here).1, (field _ (by simp) d here).2.1⟩
  · exact bar
  · exact ⟨(field _ (by simp) d here).1, (field _ (by simp) d here).2.1⟩

theorem argument_length {c : DiagnosticCommand} (valid : c.Valid) {seconds : UInt64}
    (action : c.action = .enable seconds) : (Text.printU64 seconds).length ≤ 5 := by
  have bound : seconds.toNat ≤ 86400 := UInt64.le_iff_toNat_le.mp (valid.duration _ action).2
  rw [Text.printU64, Nat.length_toDigits_le_iff (by decide) (by decide)]
  exact Nat.lt_of_le_of_lt bound (by decide)

theorem encode_length {c : DiagnosticCommand} (valid : c.Valid) :
    c.encode.length ≤ maxCommandBytes := by
  have bytes : c.encode.length = c.text.length :=
    Text.length_toUtf8_ascii fun d member => (text_ascii valid d member).2
  obtain ⟨_, short, chars⟩ := validateId_ok valid.id_ok
  rw [Text.length_toUtf8_ascii fun d member => (idChar_toNat (chars d member)).2.1] at short
  rw [bytes, text, fields]
  cases action : c.action with
  | enable seconds =>
    have digits := argument_length valid action
    simp [List.intercalate, List.intersperse, controlVersion, maxCommandBytes]
    omega
  | disable =>
    simp [List.intercalate, List.intersperse, controlVersion, maxCommandBytes]
    omega

/-- Parsing what a node encodes gives the command back. -/
theorem parse_encode {c : DiagnosticCommand} (valid : c.Valid) : parse c.encode = .ok c := by
  have trimmed : Text.trim c.text = c.text :=
    Text.trim_eq_self fun d member =>
      Text.isWhitespace_eq_false (text_ascii valid d member).1 (text_ascii valid d member).2
  have split : c.text.splitOn '|' = c.fields := by
    refine List.splitOn_intercalate '|' ?_ ?_
    · intro field member bar
      exact (fields_ascii valid field member '|' bar).2.2 rfl
    · obtain ⟨verb, argument, same⟩ := fields_eq c
      rw [same]
      exact List.cons_ne_nil _ _
  have decoded : Text.fromUtf8 c.encode = some c.text := Text.fromUtf8_toUtf8 c.text
  unfold parse
  rw [if_neg (Nat.not_lt.mpr (encode_length valid)), decoded]
  dsimp only
  rw [trimmed, split, fields]
  cases action : c.action with
  | enable seconds =>
    simp only [ne_eq, not_true_eq_false, if_false, if_true, Text.parseU64_printU64,
      String.ofList_toList]
    rw [enable_ok_iff]
    exact ⟨by rw [← action], valid⟩
  | disable =>
    have other : "disable".toList ≠ "enable".toList := by decide
    simp only [ne_eq, not_true_eq_false, if_false, if_true, other, String.ofList_toList]
    rw [disable_ok_iff]
    exact ⟨by rw [← action], valid⟩

theorem encode_injective {a b : DiagnosticCommand} (left : a.Valid) (right : b.Valid)
    (h : a.encode = b.encode) : a = b := by
  have read := congrArg parse h
  rw [parse_encode left, parse_encode right] at read
  exact Except.ok.inj read

end DiagnosticCommand

end Kaonic.Plugin
