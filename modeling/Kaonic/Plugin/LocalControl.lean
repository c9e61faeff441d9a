import Kaonic.Plugin.Mesh
import Kaonic.Plugin.WindowLog

/-!
# The local control socket

One datagram is one request, and one text comes back. What reaches the handler is what fits the
receive buffer, so that a request may have been cut off.
-/

namespace Kaonic.Plugin

def maxLocalDiagnosticRequestBytes : Nat := 256
def maxLocalRecentRecords : Nat := 20

inductive LocalDiagnosticRequest where
  | enable (seconds : UInt64)
  | disable
  | status
  | recent (limit : Nat)
  deriving DecidableEq

def newCommandId (now : SystemTime) (random : UInt64) : String :=
  String.ofList (Nat.toDigits 16 (now.sinceEpoch) ++ '-' :: Nat.toDigits 16 random.toNat)

/-! ### Requests -/

namespace LocalControl

/-- What the machine and the environment decide: the width of a `usize`, the printing of an `f64`,
and whether the node takes part in mesh control. -/
structure Env where
  width : Text.PointerWidth
  printF64 : F64 → List Char
  mesh : Bool

/-- The readings of the clocks and of the random source along one request. -/
structure Readings where
  issued : SystemTime
  random : UInt64
  applied : SystemTime
  recent : SystemTime
  status : SystemTime

variable (env : Env)

def parseLocalDiagnosticRequest (payload : List UInt8) : Except String LocalDiagnosticRequest :=
  if maxLocalDiagnosticRequestBytes ≤ payload.length ∨ maxCommandBytes < payload.length then
    .error "local diagnostics command is too large"
  else
    match Text.fromUtf8 payload with
    | none => .error "local diagnostics command is not UTF-8"
    | some text =>
      match (Text.splitWhitespace text).map String.ofList with
      | ["enable"] => .ok (.enable defaultEnableSeconds)
      | ["enable", seconds] =>
        match Text.parseU64 seconds.toList with
        | none => .error "enable duration must be an integer number of seconds"
        | some seconds =>
          if 1 ≤ seconds ∧ seconds ≤ maxEnableSeconds then .ok (.enable seconds)
          else .error ("enable duration must be between 1 and " ++
            String.ofList (Text.printU64 maxEnableSeconds) ++ " seconds")
      | ["disable"] => .ok .disable
      | ["status"] => .ok .status
      | ["recent"] => .ok (.recent 10)
      | ["recent", limit] =>
        match Text.parseUsize env.width limit.toList with
        | none => .error "recent limit must be an integer"
        | some limit =>
          if 1 ≤ limit ∧ limit ≤ maxLocalRecentRecords then .ok (.recent limit)
          else .error ("recent limit must be between 1 and " ++
            String.ofList (Nat.toDigits 10 maxLocalRecentRecords))
      | _ => .error "expected: enable [seconds], disable, status, or recent [1-20]"

/-! ### Replies -/

def errorReply (err : String) : List Char := "ERR ".toList ++ err.toList ++ ['\n']

def printBool (b : Bool) : List Char := if b then "true".toList else "false".toList

def formatDiagnosticStatus (s : DiagnosticState) (now : SystemTime) : DiagnosticState × List Char :=
  let r := s.statusAt now
  (r.1, "OK enabled=".toList ++ printBool r.2.enabled ++ " remaining_seconds=".toList ++
    Nat.toDigits 10 r.2.remainingSeconds ++ " records=".toList ++ Nat.toDigits 10 r.2.recordCount ++
    ['\n'])

def isAsciiGraphic (c : Char) : Bool := 33 ≤ c.toNat && c.toNat ≤ 126

def sanitizeField (value : String) : List Char :=
  value.toList.map fun c => if isAsciiGraphic c && c != '=' then c else '_'

def formatDiagnosticRecord (record : DiagnosticRecord) : List Char :=
  let observedUnixMs := Nat.toDigits 10 (record.observedAt.sinceEpoch / 1000000)
  let callsign := sanitizeField (record.callsign.getD "-")
  let uid := sanitizeField record.uid
  let eventType := sanitizeField record.eventType
  match record.point with
  | some (lat, lon) =>
    "RECORD unix_ms=".toList ++ observedUnixMs ++ " peer=".toList ++ record.remotePeerHash.toList ++
      " port=".toList ++ Nat.toDigits 10 record.channelPort.toNat ++ " uid=".toList ++ uid ++
      " callsign=".toList ++ callsign ++ " type=".toList ++ eventType ++ " lat=".toList ++
      env.printF64 lat ++ " lon=".toList ++ env.printF64 lon ++ ['\n']
  | none =>
    "RECORD unix_ms=".toList ++ observedUnixMs ++ " peer=".toList ++ record.remotePeerHash.toList ++
      " port=".toList ++ Nat.toDigits 10 record.channelPort.toNat ++ " uid=".toList ++ uid ++
      " callsign=".toList ++ callsign ++ " type=".toList ++ eventType ++ " lat=- lon=-".toList ++ ['\n']

def formatRecentRecords (s : DiagnosticState) (limit : Nat) (recentNow statusNow : SystemTime) :
    DiagnosticState × List Char :=
  let r := s.recentAt limit recentNow
  let status := formatDiagnosticStatus r.1 statusNow
  (status.1, status.2 ++ r.2.flatMap (formatDiagnosticRecord env))

/-! ### The handler -/

/-- What a request leaves: the state, the reply, and what was sent to the in-links. -/
structure Outcome where
  state : DiagnosticState
  reply : List Char
  sent : List (List UInt8)

/-- The arms of `handle_local_diagnostic_request` for `enable` and for `disable`. -/
def handleCommand (s : DiagnosticState) (action : DiagnosticAction) (at_ : Readings) : Outcome :=
  match DiagnosticCommand.new (newCommandId at_.issued at_.random) action with
  | .ok command =>
    let status := formatDiagnosticStatus (s.applyOnceAt command at_.applied).1 at_.status
    ⟨status.1, status.2, if env.mesh then [command.encode] else []⟩
  | .error err => ⟨s, errorReply err.display, []⟩

/-- The arms of `handle_local_diagnostic_request` for a request that has been read. -/
def answer (s : DiagnosticState) (at_ : Readings) : LocalDiagnosticRequest → Outcome
  | .enable seconds => handleCommand env s (.enable seconds) at_
  | .disable => handleCommand env s .disable at_
  | .status =>
    let status := formatDiagnosticStatus s at_.status
    ⟨status.1, status.2, []⟩
  | .recent limit =>
    let recent := formatRecentRecords env s limit at_.recent at_.status
    ⟨recent.1, recent.2, []⟩

def handleLocalDiagnosticRequest (payload : List UInt8) (s : DiagnosticState) (at_ : Readings) :
    Outcome :=
  match parseLocalDiagnosticRequest env payload with
  | .ok request => answer env s at_ request
  | .error err => ⟨s, errorReply err, []⟩

/-- `recv_from` into a buffer of `maxLocalDiagnosticRequestBytes`: the rest of a datagram is lost. -/
def recvFrom (datagram : List UInt8) : List UInt8 := datagram.take maxLocalDiagnosticRequestBytes

/-- One turn of the control task. -/
def serve (datagram : List UInt8) (s : DiagnosticState) (at_ : Readings) : Outcome :=
  handleLocalDiagnosticRequest env (recvFrom datagram) s at_

/-! ### What is asked for -/

/-- The requests, word by word. -/
inductive Grammar : List String → LocalDiagnosticRequest → Prop where
  | enable : Grammar ["enable"] (.enable 900)
  | enableFor {text : String} {seconds : UInt64} (numeral : Text.Numeral text.toList seconds.toNat)
      (lower : 1 ≤ seconds.toNat) (upper : seconds.toNat ≤ 86400) :
      Grammar ["enable", text] (.enable seconds)
  | disable : Grammar ["disable"] .disable
  | status : Grammar ["status"] .status
  | recent : Grammar ["recent"] (.recent 10)
  | recentOf {text : String} {limit : Nat} (numeral : Text.Numeral text.toList limit)
      (lower : 1 ≤ limit) (upper : limit ≤ 20) : Grammar ["recent", text] (.recent limit)

/-- A whole datagram, before the buffer has cut it off, asks for something. -/
structure Asks (datagram : List UInt8) (request : LocalDiagnosticRequest) : Prop where
  short : datagram.length < 256
  words : ∃ text, Text.fromUtf8 datagram = some text ∧
    Grammar ((Text.splitWhitespace text).map String.ofList) request

section Parsing

variable {env} {payload datagram : List UInt8} {request : LocalDiagnosticRequest}

theorem asks_iff_grammar {text : List Char} (size : payload.length < 256)
    (decoded : Text.fromUtf8 payload = some text) :
    Asks payload request ↔ Grammar ((Text.splitWhitespace text).map String.ofList) request := by
  constructor
  · intro ⟨_, text', found, grammar⟩
    rw [decoded] at found
    rwa [Option.some.inj found]
  · exact fun grammar => ⟨size, text, decoded, grammar⟩

theorem parseLocalDiagnosticRequest_eq_ok :
    parseLocalDiagnosticRequest env payload = .ok request ↔ Asks payload request := by
  unfold parseLocalDiagnosticRequest
  split
  · rename_i long
    refine iff_of_false (fun h => by cases h) ?_
    intro ⟨short, _⟩
    have bounds : maxLocalDiagnosticRequestBytes = 256 ∧ maxCommandBytes = 512 := ⟨rfl, rfl⟩
    omega
  · rename_i short
    have size : payload.length < 256 := Nat.lt_of_not_le fun long => short (Or.inl long)
    cases decoded : Text.fromUtf8 payload with
    | none =>
      refine iff_of_false (fun h => by cases h) ?_
      intro ⟨_, text, found, _⟩
      rw [decoded] at found
      cases found
    | some text =>
      rw [asks_iff_grammar size decoded]
      dsimp only
      generalize (Text.splitWhitespace text).map String.ofList = words
      constructor
      · intro h
        split at h
        · cases h
          exact .enable
        · rename_i seconds
          split at h
          · cases h
          · rename_i number read
            split at h
            · rename_i bounds
              cases h
              exact .enableFor (Text.parseU64_eq_some.mp read) (UInt64.le_iff_toNat_le.mp bounds.1)
                (UInt64.le_iff_toNat_le.mp bounds.2)
            · cases h
        · cases h
          exact .disable
        · cases h
          exact .status
        · cases h
          exact .recent
        · rename_i limit
          split at h
          · cases h
          · rename_i number read
            split at h
            · rename_i bounds
              cases h
              have small : number < 2 ^ 32 := Nat.lt_of_le_of_lt bounds.2 (by decide)
              exact .recentOf ((Text.parseUsize_eq_some small).mp read) bounds.1 bounds.2
            · cases h
        · cases h
      · rintro (_ | ⟨numeral, lower, upper⟩ | _ | _ | _ | ⟨numeral, lower, upper⟩)
        · rfl
        · simp only [Text.parseU64_eq_some.mpr numeral]
          exact if_pos ⟨UInt64.le_iff_toNat_le.mpr lower, UInt64.le_iff_toNat_le.mpr upper⟩
        · rfl
        · rfl
        · rfl
        · rename_i limit
          have small : limit < 2 ^ 32 := Nat.lt_of_le_of_lt upper (by decide)
          simp only [(Text.parseUsize_eq_some small).mpr numeral]
          exact if_pos ⟨lower, upper⟩

/-- The buffer is of the size from which on a request is refused, so that none is acted on of which
the end is missing. -/
theorem recvFrom_asks : Asks (recvFrom datagram) request ↔ Asks datagram request := by
  have whole : datagram.length < 256 → recvFrom datagram = datagram := fun short =>
    List.take_of_length_le short.le
  constructor
  · intro asks
    have short : datagram.length < 256 := by
      have received := asks.short
      rw [recvFrom, List.length_take, maxLocalDiagnosticRequestBytes] at received
      omega
    rwa [whole short] at asks
  · intro asks
    rwa [whole asks.short]

end Parsing

/-! ### Command ids -/

section Ids

variable {now : SystemTime} {random : UInt64}

theorem toDigits_hex {n : Nat} {c : Char} (member : c ∈ Nat.toDigits 16 n) : idChar c = true := by
  have digit : ∀ d < 16, idChar (Nat.digitChar d) = true := by decide
  induction n using Nat.strong_induction_on with
  | _ n ih =>
    rw [Nat.toDigits_eq_if (by decide)] at member
    split at member
    · rename_i small
      rw [List.mem_singleton.mp member]
      exact digit n small
    · rename_i large
      rcases List.mem_append.mp member with front | last
      · exact ih (n / 16) (by omega) front
      · rw [List.mem_singleton.mp last]
        exact digit (n % 16) (Nat.mod_lt n (by decide))

theorem sinceEpoch_lt (now : SystemTime) : now.sinceEpoch < 16 ^ 24 := by
  have range := now.range.2
  have epoch : (SystemTime.ofSecs 0).nanos = 0 := rfl
  unfold SystemTime.sinceEpoch SystemTime.durationSince
  split
  · rw [Option.getD_some, epoch]
    omega
  · decide

theorem newCommandId_valid : validateId (newCommandId now random) = .ok () := by
  have text : (newCommandId now random).toList =
      Nat.toDigits 16 now.sinceEpoch ++ '-' :: Nat.toDigits 16 random.toNat := String.toList_ofList
  have chars : ∀ c ∈ (newCommandId now random).toList, idChar c = true := by
    intro c member
    rw [text] at member
    rcases List.mem_append.mp member with time | rest
    · exact toDigits_hex time
    · rcases List.mem_cons.mp rest with rfl | number
      · decide
      · exact toDigits_hex number
  have time : (Nat.toDigits 16 now.sinceEpoch).length ≤ 24 :=
    (Nat.length_toDigits_le_iff (by decide) (by decide)).mpr (sinceEpoch_lt now)
  have number : (Nat.toDigits 16 random.toNat).length ≤ 16 :=
    (Nat.length_toDigits_le_iff (by decide) (by decide)).mpr random.toNat_lt
  have bytes : (Text.toUtf8 (newCommandId now random).toList).length ≤ 96 := by
    rw [Text.length_toUtf8_ascii fun c member => (DiagnosticCommand.idChar_toNat (chars c member)).2.1, text,
      List.length_append, List.length_cons]
    omega
  unfold validateId
  rw [if_neg]
  rintro (empty | long | bad)
  · rw [text] at empty
    exact absurd empty (by simp)
  · omega
  · exact bad (List.all_eq_true.mpr chars)

end Ids

/-! ### What comes of it -/

/-- The command that a request stands for. -/
def action : LocalDiagnosticRequest → Option DiagnosticAction
  | .enable seconds => some (.enable seconds)
  | .disable => some .disable
  | .status | .recent _ => none

section Serving

variable {env} {s : DiagnosticState} {at_ : Readings} {datagram : List UInt8}
  {request : LocalDiagnosticRequest} {command : DiagnosticCommand} {now : SystemTime}

theorem formatDiagnosticStatus_ok : "OK".toList <+: (formatDiagnosticStatus s now).2 := by
  simp only [formatDiagnosticStatus, List.append_assoc]
  exact ⟨" enabled=".toList ++ _, rfl⟩

theorem formatRecentRecords_ok {limit : Nat} {recentNow statusNow : SystemTime} :
    "OK".toList <+: (formatRecentRecords env s limit recentNow statusNow).2 :=
  formatDiagnosticStatus_ok.trans (List.prefix_append _ _)

theorem errorReply_err (err : String) : "ERR".toList <+: errorReply err := by
  simp only [errorReply, List.append_assoc]
  exact ⟨" ".toList ++ _, rfl⟩

theorem errorReply_not_ok (err : String) : ¬ "OK".toList <+: errorReply err := by
  rintro ⟨rest, same⟩
  have first := congrArg List.head? same
  revert first
  simp [errorReply]

/-- A request within the grammar makes a command that every node accepts. -/
theorem new_of_grammar {words : List String} (grammar : Grammar words request)
    {wanted : DiagnosticAction} (asked : action request = some wanted) :
    DiagnosticCommand.new (newCommandId at_.issued at_.random) wanted =
      .ok ⟨newCommandId at_.issued at_.random, wanted⟩ := by
  have valid := @newCommandId_valid at_.issued at_.random
  cases grammar with
  | enable =>
    obtain rfl := Option.some.inj asked
    refine DiagnosticCommand.enable_ok_iff.mpr ⟨rfl, valid, ?_⟩
    rintro seconds ⟨⟩
    decide
  | @enableFor text seconds numeral lower upper =>
    obtain rfl := Option.some.inj asked
    refine DiagnosticCommand.enable_ok_iff.mpr ⟨rfl, valid, ?_⟩
    rintro _ ⟨⟩
    exact ⟨UInt64.le_iff_toNat_le.mpr lower, UInt64.le_iff_toNat_le.mpr upper⟩
  | disable =>
    obtain rfl := Option.some.inj asked
    refine DiagnosticCommand.disable_ok_iff.mpr ⟨rfl, valid, ?_⟩
    rintro _ ⟨⟩
  | status | recent | recentOf => cases asked

theorem applyOnceAt_unseen (fresh : s.seenCommands.lookup command.id = none) :
    (s.applyOnceAt command now).2 = true := by
  rw [DiagnosticState.applyOnceAt_accepts, Option.eq_none_iff_forall_ne_some]
  intro observedAt found
  rw [DiagnosticState.prune_forgets found] at fresh
  cases fresh

theorem serve_asks (asks : Asks datagram request) :
    serve env datagram s at_ = answer env s at_ request := by
  have parsed := (@parseLocalDiagnosticRequest_eq_ok env _ _).mpr (recvFrom_asks.mpr asks)
  rw [serve, handleLocalDiagnosticRequest, parsed]

/-- A request for a command is applied and sent once, and answered with the status after it. -/
theorem serve_command {wanted : DiagnosticAction} (asks : Asks datagram request)
    (asked : action request = some wanted) :
    let command : DiagnosticCommand := ⟨newCommandId at_.issued at_.random, wanted⟩
    let status := formatDiagnosticStatus (s.applyOnceAt command at_.applied).1 at_.status
    serve env datagram s at_ = ⟨status.1, status.2, if env.mesh then [command.encode] else []⟩ := by
  obtain ⟨_, _, grammar⟩ := asks.words
  have made := @new_of_grammar at_ request _ grammar wanted asked
  have handled : answer env s at_ request = handleCommand env s wanted at_ := by
    cases request with
    | enable seconds =>
      obtain rfl := Option.some.inj asked
      rfl
    | disable =>
      obtain rfl := Option.some.inj asked
      rfl
    | status | recent => cases asked
  rw [serve_asks asks, handled, handleCommand, made]

theorem serve_query (asks : Asks datagram request) (query : action request = none) :
    "OK".toList <+: (serve env datagram s at_).reply ∧ (serve env datagram s at_).sent = [] := by
  rw [serve_asks asks]
  cases request with
  | enable | disable => cases query
  | status => exact ⟨formatDiagnosticStatus_ok, rfl⟩
  | recent limit => exact ⟨formatRecentRecords_ok, rfl⟩

theorem serve_refused (refused : ¬ ∃ request, Asks datagram request) :
    ∃ err, serve env datagram s at_ = ⟨s, errorReply err, []⟩ := by
  cases parsed : parseLocalDiagnosticRequest env (recvFrom datagram) with
  | ok request =>
    exact (refused ⟨request, recvFrom_asks.mp (parseLocalDiagnosticRequest_eq_ok.mp parsed)⟩).elim
  | error err => exact ⟨err, by rw [serve, handleLocalDiagnosticRequest, parsed]⟩

theorem serve_ok_iff : "OK".toList <+: (serve env datagram s at_).reply ↔
    ∃ request, Asks datagram request := by
  constructor
  · intro ok
    by_contra refused
    obtain ⟨err, same⟩ := @serve_refused env s at_ datagram refused
    rw [same] at ok
    exact errorReply_not_ok err ok
  · intro ⟨request, asks⟩
    cases query : action request with
    | none => exact (serve_query asks query).1
    | some wanted =>
      rw [serve_command asks query]
      exact formatDiagnosticStatus_ok

end Serving

/-- A datagram is answered with `OK` exactly when all of it is a request. A command is then applied
and sent once, in a form that reads back as it was made. Anything else leaves no trace. -/
theorem serve_datagram (env : Env) (datagram : List UInt8) (s : DiagnosticState) (at_ : Readings)
    (fresh : s.seenCommands.lookup (newCommandId at_.issued at_.random) = none) :
    let r := serve env datagram s at_
    ("OK".toList <+: r.reply ↔ ∃ request, Asks datagram request) ∧
    (∀ request wanted, Asks datagram request → action request = some wanted →
      let command : DiagnosticCommand := ⟨newCommandId at_.issued at_.random, wanted⟩
      (s.applyOnceAt command at_.applied).2 = true ∧
      r.state = DiagnosticState.machine.run s [.applyOnce command at_.applied, .status at_.status] ∧
      r.sent = (if env.mesh then [command.encode] else []) ∧
      DiagnosticCommand.parse command.encode = .ok command) ∧
    (∀ request, Asks datagram request → action request = none → r.sent = []) ∧
    ((¬ ∃ request, Asks datagram request) → "ERR".toList <+: r.reply ∧ r.state = s ∧ r.sent = []) := by
  intro r
  refine ⟨serve_ok_iff, ?_, fun request asks query => (serve_query asks query).2, ?_⟩
  · intro request wanted asks asked command
    obtain ⟨_, _, grammar⟩ := asks.words
    have served : r = _ := serve_command asks asked
    have made := @new_of_grammar at_ request _ grammar wanted asked
    have valid : command.Valid := by
      cases wanted with
      | enable seconds => exact (DiagnosticCommand.enable_ok_iff.mp made).2
      | disable => exact (DiagnosticCommand.disable_ok_iff.mp made).2
    rw [served]
    exact ⟨applyOnceAt_unseen fresh, rfl, rfl, DiagnosticCommand.parse_encode valid⟩
  · intro refused
    obtain ⟨err, served⟩ := @serve_refused env s at_ datagram refused
    have same : r = _ := served
    rw [same]
    exact ⟨errorReply_err err, rfl, rfl⟩

def sampleEnv : Env where
  width := .w32
  printF64 _ := ['0']
  mesh := true

def sampleReadings : Readings where
  issued := .ofSecs 1
  random := 10
  applied := .ofSecs 2
  recent := .ofSecs 3
  status := .ofSecs 3

theorem serve_enable :
    (serve sampleEnv (Text.toUtf8 " enable +60\n".toList) (.new 4) sampleReadings).sent =
      [DiagnosticCommand.encode ⟨"3b9aca00-a", .enable 60⟩] := by
  have words : (Text.splitWhitespace " enable +60\n".toList).map String.ofList =
      ["enable", "+60"] := by decide
  have asks : Asks (Text.toUtf8 " enable +60\n".toList) (.enable 60) := by
    refine ⟨by decide, _, Text.fromUtf8_toUtf8 _, ?_⟩
    rw [words]
    have numeral : Text.Numeral "+60".toList 60 :=
      ⟨['6', '0'], Or.inr (by decide), by decide, List.all_eq_true.mp rfl, rfl⟩
    exact .enableFor numeral (by decide) (by decide)
  exact ((serve_datagram sampleEnv _ (.new 4) sampleReadings rfl).2.1 _ _ asks rfl).2.2.1

/-! ### The lines of a reply -/

def recordKeys : List (List Char) :=
  ["unix_ms".toList, "peer".toList, "port".toList, "uid".toList, "callsign".toList, "type".toList,
    "lat".toList, "lon".toList]

/-- A record line is the word `RECORD` and, between single spaces, one value for each key. -/
def RecordLine (line : List Char) : Prop :=
  ∃ tokens, line.splitOn ' ' = "RECORD".toList :: tokens ∧
    List.Forall₂ (fun key token => ∃ value, token.splitOn '=' = [key, value]) recordKeys tokens

/-- A text that can stand between the separators of a reply. -/
def Plain (text : List Char) : Prop := ∀ c ∈ text, Text.isWhitespace c = false ∧ c ≠ '='

section Lines

variable {env} {record : DiagnosticRecord} {s : DiagnosticState} {text : List Char}

theorem Plain.not_mem {c : Char} (plain : Plain text)
    (separates : Text.isWhitespace c = true ∨ c = '=') : c ∉ text := by
  intro member
  obtain ⟨visible, other⟩ := plain c member
  rcases separates with blank | same
  · rw [blank] at visible
    cases visible
  · exact other same

theorem sanitizeField_plain (value : String) : Plain (sanitizeField value) := by
  intro c member
  obtain ⟨d, _, rfl⟩ := List.mem_map.mp member
  split
  · rename_i kept
    simp only [isAsciiGraphic, Bool.and_eq_true, decide_eq_true_eq, bne_iff_ne] at kept
    exact ⟨Text.isWhitespace_eq_false kept.1.1 (by omega), kept.2⟩
  · decide

theorem toDigits_plain (n : Nat) : Plain (Nat.toDigits 10 n) := by
  intro c member
  have digit := Nat.isDigit_of_mem_toDigits (by decide) (by decide) member
  have bounds := Text.isDigit_toNat digit
  refine ⟨Text.isWhitespace_eq_false (by omega) (by omega), ?_⟩
  rintro rfl
  revert bounds
  decide

/-- The values of a record line in the order of the keys. -/
def recordValues (env : Env) (record : DiagnosticRecord) : List (List Char) :=
  [Nat.toDigits 10 (record.observedAt.sinceEpoch / 1000000), record.remotePeerHash.toList,
    Nat.toDigits 10 record.channelPort.toNat, sanitizeField record.uid,
    sanitizeField (record.callsign.getD "-"), sanitizeField record.eventType,
    (record.point.map fun p => env.printF64 p.1).getD ['-'],
    (record.point.map fun p => env.printF64 p.2).getD ['-']]

def recordLine (env : Env) (record : DiagnosticRecord) : List Char :=
  [' '].intercalate ("RECORD".toList ::
    List.zipWith (fun key value => key ++ '=' :: value) recordKeys (recordValues env record))

/-- Both branches of `format_diagnostic_record` write the same kind of line. -/
theorem formatDiagnosticRecord_eq :
    formatDiagnosticRecord env record = recordLine env record ++ ['\n'] := by
  unfold formatDiagnosticRecord recordLine recordValues recordKeys
  cases record.point with
  | none => simp [List.intercalate, List.intersperse]
  | some p => simp [List.intercalate, List.intersperse]

theorem recordKeys_plain : ∀ key ∈ recordKeys, Plain key := by
  have plain : recordKeys.all fun key => key.all fun c => !Text.isWhitespace c && c != '=' := by
    decide
  simp only [List.all_eq_true, Bool.and_eq_true, Bool.not_eq_true', bne_iff_ne] at plain
  exact fun key member c inside => plain key member c inside

theorem recordValues_plain (peer : Plain record.remotePeerHash.toList)
    (numbers : ∀ x, Plain (env.printF64 x)) : ∀ value ∈ recordValues env record, Plain value := by
  have dash : Plain ['-'] := by
    intro c member
    rw [List.mem_singleton.mp member]
    decide
  have coordinate : ∀ read : F64 × F64 → F64,
      Plain ((record.point.map fun p => env.printF64 (read p)).getD ['-']) := by
    intro read
    cases record.point with
    | none => exact dash
    | some p => exact numbers (read p)
  simp only [recordValues, List.forall_mem_cons, List.not_mem_nil, false_imp_iff, implies_true,
    and_true]
  exact ⟨toDigits_plain _, peer, toDigits_plain _, sanitizeField_plain _, sanitizeField_plain _,
    sanitizeField_plain _, coordinate Prod.fst, coordinate Prod.snd⟩

theorem token_splitOn {key value : List Char} (plain : Plain key) (plain' : Plain value) :
    (key ++ '=' :: value).splitOn '=' = [key, value] := by
  have joined : key ++ '=' :: value = ['='].intercalate [key, value] := by
    simp [List.intercalate, List.intersperse]
  rw [joined]
  refine List.splitOn_intercalate '=' ?_ (List.cons_ne_nil _ _)
  intro part member
  rcases List.mem_pair.mp member with rfl | rfl
  · exact plain.not_mem (Or.inr rfl)
  · exact plain'.not_mem (Or.inr rfl)

theorem forall₂_zipWith {α β γ : Type} {R : α → γ → Prop} {f : α → β → γ} {as : List α} {bs : List β}
    (same : as.length = bs.length) (each : ∀ a ∈ as, ∀ b ∈ bs, R a (f a b)) :
    List.Forall₂ R as (List.zipWith f as bs) := by
  induction as generalizing bs with
  | nil => exact .nil
  | cons a as ih =>
    cases bs with
    | nil => cases same
    | cons b bs =>
      refine .cons (each a List.mem_cons_self b List.mem_cons_self) (ih (Nat.succ.inj same) ?_)
      exact fun a' member b' member' =>
        each a' (List.mem_cons_of_mem _ member) b' (List.mem_cons_of_mem _ member')

/-- The words of a record line have no blank in them. -/
theorem recordLine_words (peer : Plain record.remotePeerHash.toList)
    (numbers : ∀ x, Plain (env.printF64 x)) {c : Char} (blank : Text.isWhitespace c = true) :
    ∀ word ∈ "RECORD".toList :: List.zipWith (fun key value => key ++ '=' :: value) recordKeys
      (recordValues env record), c ∉ word := by
  intro word member inside
  rcases List.mem_cons.mp member with rfl | token
  · have visible : "RECORD".toList.all fun c => !Text.isWhitespace c := by decide
    have plain := List.all_eq_true.mp visible c inside
    rw [blank] at plain
    cases plain
  · obtain ⟨key, key_mem, value, value_mem, rfl⟩ : ∃ key ∈ recordKeys,
        ∃ value ∈ recordValues env record, word = key ++ '=' :: value := by
      obtain ⟨i, bound, rfl⟩ := List.mem_iff_getElem.mp token
      rw [List.length_zipWith] at bound
      exact ⟨_, List.getElem_mem (by omega), _, List.getElem_mem (by omega), List.getElem_zipWith⟩
    rcases List.mem_append.mp inside with here | rest
    · exact (recordKeys_plain key key_mem).not_mem (Or.inl blank) here
    · rcases List.mem_cons.mp rest with rfl | there
      · revert blank
        decide
      · exact (recordValues_plain peer numbers value value_mem).not_mem (Or.inl blank) there

theorem recordLine_shape (peer : Plain record.remotePeerHash.toList)
    (numbers : ∀ x, Plain (env.printF64 x)) : RecordLine (recordLine env record) := by
  refine ⟨_, List.splitOn_intercalate ' ' (recordLine_words peer numbers (by decide))
    (List.cons_ne_nil _ _), forall₂_zipWith rfl ?_⟩
  intro key key_mem value value_mem
  exact ⟨value, token_splitOn (recordKeys_plain key key_mem)
    (recordValues_plain peer numbers value value_mem)⟩

theorem recordLine_single (peer : Plain record.remotePeerHash.toList)
    (numbers : ∀ x, Plain (env.printF64 x)) : '\n' ∉ recordLine env record :=
  Text.not_mem_intercalate (by decide) (recordLine_words peer numbers (by decide))

def statusLine (status : DiagnosticStatus) : List Char :=
  "OK enabled=".toList ++ printBool status.enabled ++ " remaining_seconds=".toList ++
    Nat.toDigits 10 status.remainingSeconds ++ " records=".toList ++ Nat.toDigits 10 status.recordCount

theorem statusLine_single (status : DiagnosticStatus) : '\n' ∉ statusLine status := by
  have feed : Text.isWhitespace '\n' = true := by decide
  have number (n : Nat) : '\n' ∉ Nat.toDigits 10 n := (toDigits_plain n).not_mem (Or.inl feed)
  have bool : '\n' ∉ printBool status.enabled := by
    cases status.enabled <;> decide
  have words : '\n' ∉ "OK enabled=".toList ∧ '\n' ∉ " remaining_seconds=".toList ∧
      '\n' ∉ " records=".toList := by decide
  unfold statusLine
  simp only [List.mem_append, not_or]
  exact ⟨⟨⟨⟨⟨words.1, bool⟩, words.2.1⟩, number _⟩, words.2.2⟩, number _⟩

end Lines

/-- Whatever names the senders have taken, a reply is one status line and then one line for each
record returned, with its eight values under their keys. -/
theorem formatRecentRecords_lines (env : Env) (s : DiagnosticState) (limit : Nat)
    (recentNow statusNow : SystemTime) (peers : ∀ r ∈ s.records, Plain r.remotePeerHash.toList)
    (numbers : ∀ x, Plain (env.printF64 x)) :
    let returned := s.recentAt limit recentNow
    (formatRecentRecords env s limit recentNow statusNow).2.splitOn '\n' =
      statusLine (returned.1.statusAt statusNow).2 :: returned.2.map (recordLine env) ++ [[]] ∧
    ∀ record ∈ returned.2, RecordLine (recordLine env record) := by
  intro returned
  have stored : ∀ record ∈ returned.2, record ∈ s.records := by
    intro record member
    have kept := List.mem_reverse.mp (List.mem_of_mem_take member)
    rw [DiagnosticState.prune_records] at kept
    split at kept
    · cases kept
    · exact kept
  have joined : (formatRecentRecords env s limit recentNow statusNow).2 =
      (statusLine (returned.1.statusAt statusNow).2 :: returned.2.map (recordLine env)).flatMap
        fun line => line ++ ['\n'] := by
    rw [List.flatMap_cons, List.flatMap_map, ← funext fun r => @formatDiagnosticRecord_eq env r]
    rfl
  refine ⟨?_, fun record member => recordLine_shape (peers record (stored record member)) numbers⟩
  rw [joined]
  refine Text.splitOn_lines ?_
  intro line member
  rcases List.mem_cons.mp member with rfl | member
  · exact statusLine_single _
  · obtain ⟨record, inside, rfl⟩ := List.mem_map.mp member
    exact recordLine_single (peers record (stored record inside)) numbers

def forgedRecord : DiagnosticRecord where
  remotePeerHash := "/0101/"
  channelPort := 6969
  uid := "u=1\nRECORD peer=/0202/"
  callsign := none
  eventType := "a-f"
  point := none
  observedAt := .ofSecs 1

/-- A uid that holds a line of its own stays one token. -/
theorem formatRecentRecords_forged :
    let s : DiagnosticState := { records := [forgedRecord], maxRecords := 4, maxSeenCommands := 4 }
    ((formatRecentRecords sampleEnv s 10 (.ofSecs 2) (.ofSecs 2)).2.splitOn '\n').length = 3 := by
  intro s
  have peer : ∀ r ∈ s.records, Plain r.remotePeerHash.toList := by
    have plain : "/0101/".toList.all fun c => !Text.isWhitespace c && c != '=' := by decide
    simp only [List.all_eq_true, Bool.and_eq_true, Bool.not_eq_true', bne_iff_ne] at plain
    intro r member
    rw [List.mem_singleton.mp member]
    exact plain
  have numbers : ∀ x, Plain (sampleEnv.printF64 x) := by
    intro x c member
    rw [List.mem_singleton.mp member]
    decide
  rw [(formatRecentRecords_lines sampleEnv s 10 (.ofSecs 2) (.ofSecs 2) peer numbers).1]
  rfl

end LocalControl

end Kaonic.Plugin
