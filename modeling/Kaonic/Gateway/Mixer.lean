import Kaonic.Net.Notation

/-!
# The ALSA mixer

The sound cards of the host, the `amixer` commands that the gateway runs on them, and how it finds
the controls of an output and reads their reports. A mixer control is a volume in percent and, if it
has one, a switch.
-/

namespace Kaonic.Gateway
open Net

inductive AudioOutput where
  | speaker | headphones | microphone
  deriving DecidableEq

namespace AudioOutput

def id : AudioOutput → String
  | .speaker => "speaker"
  | .headphones => "headphones"
  | .microphone => "microphone"

def label : AudioOutput → String
  | .speaker => "Speaker"
  | .headphones => "Headphones"
  | .microphone => "Microphone"

def preferredControls : AudioOutput → List String
  | .speaker => ["Speaker", "Master", "PCM", "Line Out", "Playback"]
  | .headphones => ["Headphone", "Headphones", "Headset", "Headset Playback"]
  | .microphone => ["Capture", "Mic", "Microphone", "Internal Mic", "Headset Mic"]

def fallbackFragments : AudioOutput → List String
  | .speaker => ["speaker", "master", "pcm", "playback", "line out"]
  | .headphones => ["head", "headphone", "headset"]
  | .microphone => ["mic", "capture"]

/-- The tokens that switch an output on and off. -/
def switchTokens : AudioOutput → String × String
  | .speaker | .headphones => ("unmute", "mute")
  | .microphone => ("cap", "nocap")

def preferredSwitchControls : AudioOutput → List String
  | .speaker => ["Speaker Playback Switch", "Master Playback Switch", "PCM Playback Switch",
    "Line Out Playback Switch"]
  | .headphones => ["Headphone Playback Switch", "Headphones Playback Switch",
    "Headset Playback Switch"]
  | .microphone => ["Capture Switch", "Mic Capture Switch", "Microphone Capture Switch",
    "Headset Mic Capture Switch"]

/-- The fragments that `resolve_audio_controls_for_card` looks for in the name of a switch. -/
def switchFragments : AudioOutput → List String
  | .speaker => ["speaker switch", "master switch", "pcm switch", "line out switch"]
  | .headphones => ["headphone switch", "headset switch", "head switch"]
  | .microphone => ["capture switch", "mic switch"]

end AudioOutput

structure AudioControlState where
  volume : UInt8
  muted : Bool
  deriving DecidableEq

inductive AudioError where
  | invalidVolume (volume : UInt8)
  | commandIo (command source : String)
  | commandFailed (command message : String)
  | unexpectedOutput (m : String)
  | notFound (m : String)
  deriving DecidableEq

def AudioControlState.validate (state : AudioControlState) : Except AudioError AudioControlState :=
  if 100 < state.volume then .error (.invalidVolume state.volume) else .ok state

/-! ### Reports -/

/-- What stands before the first `stop` in each piece that a bracket opens, trimmed. -/
def bracketed (stop : List Char) (stdout : String) : List (List Char) :=
  (stdout.toList.splitOn '[').filterMap fun segment =>
    (Text.splitOnce stop segment).map fun (value, _) => Text.trim value

/-- A word of a switch, as whether it mutes. -/
def switchWord (value : List Char) : Option Bool :=
  if value = "on".toList then some false
  else if value = "off".toList then some true
  else if value = "cap".toList then some false
  else if value = "nocap".toList then some true
  else none

def parseAmixerSwitchState (stdout : String) : Option Bool :=
  ((bracketed [']'] stdout).filterMap switchWord).getLast?

def parseAmixerState (stdout : String) : Except AudioError AudioControlState :=
  match ((bracketed ['%', ']'] stdout).filterMap (parseDecimal 256)).getLast? with
  | none => .error (.unexpectedOutput (String.ofList (Text.trim stdout.toList)))
  | some volume =>
    let muted := (parseAmixerSwitchState stdout).getD false
    AudioControlState.validate ⟨UInt8.ofNat volume, muted⟩

/-! ### Controls and cards -/

structure MixerControl where
  volume : UInt8
  switch : Option Bool
  volume_le : volume ≤ 100
  deriving DecidableEq

namespace MixerControl

/-- Its own switch is off. -/
def muted (control : MixerControl) : Bool := control.switch == some false

/-- A volume beyond the range is set to its end. -/
def setVolume (control : MixerControl) (volume : UInt8) : MixerControl :=
  if inside : volume ≤ 100 then { control with volume, volume_le := inside }
  else { control with volume := 100, volume_le := UInt8.le_refl 100 }

def setSwitch (control : MixerControl) (on : Bool) : MixerControl :=
  { control with switch := control.switch.map fun _ => on }

end MixerControl

/-- `amixer` as it is documented: `sget` reports a control, and a switch token that finds no switch
is refused with a message or has no effect. -/
structure Amixer where
  report : MixerControl → String
  lacksSwitch : Option String
  reports_state : ∀ control, parseAmixerState (report control) = .ok ⟨control.volume, control.muted⟩
  reports_switch : ∀ control, parseAmixerSwitchState (report control) = control.switch.map (!·)

inductive AmixerCommand where
  | scontrols
  | sget (control : String)
  | sset (control value : String)
  deriving DecidableEq

def AmixerCommand.display (card : Nat) (command : AmixerCommand) : String :=
  let args := match command with
    | .scontrols => ["scontrols"]
    | .sget control => ["sget", control]
    | .sset control value => ["sset", control, value]
  "amixer " ++ " ".intercalate (["-c", toString card] ++ args)

/-- The control names that `scontrols` lists, and the control that a name addresses or the message
with which `amixer` fails on it. -/
structure Mixer where
  names : List String
  controls : String → Except String MixerControl

/-- The cards of `/proc/asound/cards`, if it can be read, and their mixers. -/
structure AlsaHost where
  cards : Except AudioError (List (Nat × String))
  mixers : Nat → Mixer

/-- The commands that fail for another reason than their control, on the card. -/
abbrev Refusals := Nat → AmixerCommand → Option AudioError

def Refusals.none : Refusals := fun _ _ => .none

namespace AlsaHost

/-- `run_amixer` up to the effect of the command. -/
def runAmixer (refuses : Refusals) (card : Nat) (command : AmixerCommand) : Except AudioError Unit :=
  match refuses card command with
  | some err => .error err
  | none => .ok ()

def addressed (host : AlsaHost) (card : Nat) (command : AmixerCommand) (control : String) :
    Except AudioError MixerControl :=
  ((host.mixers card).controls control).mapError (.commandFailed (command.display card))

def withControl (host : AlsaHost) (card : Nat) (name : String) (control : MixerControl) : AlsaHost :=
  let mixer := host.mixers card
  { host with
    mixers := Function.update host.mixers card
      { mixer with controls := Function.update mixer.controls name (.ok control) } }

def scontrols (refuses : Refusals) (host : AlsaHost) (card : Nat) : Except AudioError (List String) := do
  runAmixer refuses card .scontrols
  let names := (host.mixers card).names
  if names.isEmpty then .error (.unexpectedOutput "amixer returned empty stdout") else .ok names

def sget (tool : Amixer) (refuses : Refusals) (host : AlsaHost) (card : Nat) (control : String) :
    Except AudioError String := do
  runAmixer refuses card (.sget control)
  let found ← host.addressed card (.sget control) control
  return tool.report found

def ssetVolume (refuses : Refusals) (host : AlsaHost) (card : Nat) (control : String)
    (volume : UInt8) : Except AudioError AlsaHost := do
  let command := AmixerCommand.sset control (toString volume.toNat ++ "%")
  runAmixer refuses card command
  let found ← host.addressed card command control
  return host.withControl card control (found.setVolume volume)

def ssetSwitch (tool : Amixer) (refuses : Refusals) (host : AlsaHost) (card : Nat)
    (control token : String) : Except AudioError AlsaHost := do
  let command := AmixerCommand.sset control token
  runAmixer refuses card command
  let found ← host.addressed card command control
  match found.switch, tool.lacksSwitch with
  | some _, _ =>
    let on := token == "unmute" || token == "cap"
    return host.withControl card control (found.setSwitch on)
  | none, some message => .error (.commandFailed (command.display card) message)
  | none, none => return host

end AlsaHost

/-! ### The controls of an output -/

structure LinuxAudioCard where
  index : Nat
  name : String
  controls : List String
  deriving DecidableEq

structure ResolvedLinuxControl where
  volumeControl : String
  switchControl : Option String
  deriving DecidableEq

def enumerateAudioCardsLinux (refuses : Refusals) (host : AlsaHost) :
    Except AudioError (List LinuxAudioCard) := do
  let cards ← host.cards
  cards.mapM fun (index, name) => do
    let controls ← host.scontrols refuses index
    return ⟨index, name, controls⟩

def findAudioCardLinux (refuses : Refusals) (host : AlsaHost) (cardId : Nat) :
    Except AudioError LinuxAudioCard := do
  let cards ← enumerateAudioCardsLinux refuses host
  match cards.find? fun card => card.index == cardId with
  | some card => return card
  | none => .error (.notFound ("audio card " ++ toString cardId))

/-- The fragment is contained in the name in ASCII lower case. -/
def hasFragment (fragment control : String) : Bool :=
  decide (fragment.toList <:+: control.toList.map Char.toLower)

def resolveNamedControl (controls preferred fallbackFragments : List String) : Option String :=
  (preferred.findSome? fun preferredName => controls.find? fun control => control == preferredName).or
    (fallbackFragments.findSome? fun fragment =>
      controls.find? fun control => hasFragment fragment control)

def resolveAudioControlsForCard (card : LinuxAudioCard) (kind : AudioOutput) :
    Except AudioError ResolvedLinuxControl :=
  match resolveNamedControl card.controls kind.preferredControls kind.fallbackFragments with
  | none => .error (.notFound (kind.label ++ " control on card " ++ toString card.index ++ " (" ++
      card.name ++ ")"))
  | some volumeControl =>
    let switchControl :=
      (resolveNamedControl card.controls kind.preferredSwitchControls kind.switchFragments).filter
        fun candidate => candidate != volumeControl
    .ok ⟨volumeControl, switchControl⟩

section

variable {refuses : Refusals} {host : AlsaHost} {cardId : Nat} {card other : LinuxAudioCard}
  {kind : AudioOutput} {control : ResolvedLinuxControl}

theorem addressed_ok {command : AmixerCommand} {name : String} {found : MixerControl} :
    host.addressed cardId command name = .ok found ↔
      (host.mixers cardId).controls name = .ok found := by
  unfold AlsaHost.addressed
  cases (host.mixers cardId).controls name <;> simp [Except.mapError]

theorem scontrols_ok {names : List String} (listed : host.scontrols refuses cardId = .ok names) :
    names = (host.mixers cardId).names ∧ host.scontrols .none cardId = .ok names := by
  unfold AlsaHost.scontrols at listed ⊢
  obtain ⟨_, _, listed⟩ := Traverse.bind_eq_ok.mp listed
  dsimp only at listed
  split at listed
  · cases listed
  · rename_i some_
    obtain rfl := Except.ok.inj listed
    exact ⟨rfl, if_neg some_⟩

/-- A card is listed with its index and the names of its mixer. -/
theorem enumerate_ok {cards : List LinuxAudioCard}
    (listed : enumerateAudioCardsLinux refuses host = .ok cards) :
    enumerateAudioCardsLinux .none host = .ok cards ∧
      ∀ card ∈ cards, card.controls = (host.mixers card.index).names := by
  obtain ⟨entries, read, listed⟩ := Traverse.bind_eq_ok.mp listed
  refine ⟨Traverse.bind_eq_ok.mpr ⟨entries, read, Traverse.mapM_mono ?_ listed⟩, ?_⟩
  · rintro ⟨index, name⟩ card here
    obtain ⟨names, shown, done⟩ := Traverse.bind_eq_ok.mp here
    exact Traverse.bind_eq_ok.mpr ⟨names, (scontrols_ok shown).2, done⟩
  · intro card member
    obtain ⟨⟨index, name⟩, _, here⟩ := (Traverse.mem_mapM listed).mp member
    obtain ⟨names, shown, done⟩ := Traverse.bind_eq_ok.mp here
    obtain rfl := Except.ok.inj done
    exact (scontrols_ok shown).1

theorem findAudioCard_ok : findAudioCardLinux refuses host cardId = .ok card ↔
    ∃ cards, enumerateAudioCardsLinux refuses host = .ok cards ∧
      cards.find? (fun card => card.index == cardId) = some card := by
  refine Traverse.bind_eq_ok.trans (exists_congr fun cards => and_congr_right fun _ => ?_)
  cases cards.find? fun card => card.index == cardId with
  | none => simp
  | some found => simp [pure, Except.pure]

theorem findAudioCard_none (found : findAudioCardLinux refuses host cardId = .ok card) :
    findAudioCardLinux .none host cardId = .ok card ∧ card.index = cardId := by
  obtain ⟨cards, listed, first⟩ := findAudioCard_ok.mp found
  have index := List.find?_some first
  exact ⟨findAudioCard_ok.mpr ⟨cards, (enumerate_ok listed).1, first⟩, beq_iff_eq.mp index⟩

/-- The resolution reads only the names of the controls, and finds a switch beside the volume. -/
theorem resolve_ok (same : card.controls = other.controls)
    (resolved : resolveAudioControlsForCard card kind = .ok control) :
    resolveAudioControlsForCard other kind = .ok control ∧
      control.switchControl ≠ some control.volumeControl := by
  unfold resolveAudioControlsForCard at resolved ⊢
  rw [← same]
  cases named : resolveNamedControl card.controls kind.preferredControls kind.fallbackFragments with
  | none =>
    rw [named] at resolved
    cases resolved
  | some volumeControl =>
    rw [named] at resolved
    obtain rfl := Except.ok.inj resolved
    refine ⟨rfl, fun shared => ?_⟩
    obtain ⟨_, apart⟩ := Option.filter_eq_some_iff.mp shared
    simp at apart

/-! ### After a command -/

/-- The same cards with the same names of controls. -/
structure AlsaHost.SameCards (host after : AlsaHost) : Prop where
  cards : after.cards = host.cards
  names : ∀ index, (after.mixers index).names = (host.mixers index).names

variable {after : AlsaHost} {name : String} {changed : MixerControl}

theorem findAudioCard_congr (same : host.SameCards after) :
    findAudioCardLinux refuses after = findAudioCardLinux refuses host := by
  have listed : after.scontrols refuses = host.scontrols refuses := by
    funext index
    unfold AlsaHost.scontrols
    rw [same.names]
  funext index
  unfold findAudioCardLinux enumerateAudioCardsLinux
  rw [listed, same.cards]

theorem withControl_controls (other : String) :
    ((host.withControl cardId name changed).mixers cardId).controls other =
      if other = name then .ok changed else (host.mixers cardId).controls other := by
  unfold AlsaHost.withControl
  dsimp only
  rw [Function.update_self]
  exact Function.update_apply _ _ _ _

theorem withControl_sameCards : host.SameCards (host.withControl cardId name changed) := by
  refine ⟨rfl, fun index => ?_⟩
  unfold AlsaHost.withControl
  dsimp only
  by_cases same : index = cardId
  · rw [same, Function.update_self]
  · rw [Function.update_of_ne same]

/-- A volume that is set is that of the control afterwards. -/
theorem ssetVolume_ok {volume : UInt8}
    (done : host.ssetVolume refuses cardId name volume = .ok after) :
    host.SameCards after ∧ ∃ own, (host.mixers cardId).controls name = .ok own ∧
      ∀ other, (after.mixers cardId).controls other =
        if other = name then .ok (own.setVolume volume) else (host.mixers cardId).controls other := by
  unfold AlsaHost.ssetVolume at done
  obtain ⟨_, _, done⟩ := Traverse.bind_eq_ok.mp done
  obtain ⟨own, found, done⟩ := Traverse.bind_eq_ok.mp done
  obtain rfl := Except.ok.inj done
  exact ⟨withControl_sameCards, own, addressed_ok.mp found, withControl_controls⟩

theorem setSwitch_lacking {found : MixerControl} (lacks : found.switch = none) (on : Bool) :
    found.setSwitch on = found := by
  obtain ⟨volume, switch, volume_le⟩ := found
  have lacks : switch = none := lacks
  rw [lacks]
  rfl

/-- A token moves the switch of the control, if it has one. -/
theorem ssetSwitch_ok {tool : Amixer} {token : String}
    (done : host.ssetSwitch tool refuses cardId name token = .ok after) :
    host.SameCards after ∧ ∃ found, (host.mixers cardId).controls name = .ok found ∧
      ∀ other, (after.mixers cardId).controls other =
        if other = name then .ok (found.setSwitch (token == "unmute" || token == "cap"))
        else (host.mixers cardId).controls other := by
  unfold AlsaHost.ssetSwitch at done
  obtain ⟨_, _, done⟩ := Traverse.bind_eq_ok.mp done
  obtain ⟨found, addressed, done⟩ := Traverse.bind_eq_ok.mp done
  have known := addressed_ok.mp addressed
  split at done
  · obtain rfl := Except.ok.inj done
    exact ⟨withControl_sameCards, found, known, withControl_controls⟩
  · cases done
  · rename_i lacks _
    obtain rfl := Except.ok.inj done
    refine ⟨⟨rfl, fun _ => rfl⟩, found, known, fun other => ?_⟩
    rw [setSwitch_lacking lacks]
    split
    · rename_i same
      rw [same, known]
    · rfl

end

/-! ### A tool of one channel -/

/-- The pieces of a report: what stands before the volume, the volume, and the switch. -/
def monoPieces (control : MixerControl) : List (List Char) :=
  "  Mono: ".toList :: (Nat.toDigits 10 control.volume.toNat ++ "%] ".toList) ::
    (control.switch.map fun on => if on then "on]".toList else "off]".toList).toList

def monoReport (control : MixerControl) : String :=
  String.ofList (['['].intercalate (monoPieces control))

section

variable {control : MixerControl}

theorem bracketed_monoReport (stop : List Char) :
    bracketed stop (monoReport control) = (monoPieces control).filterMap fun piece =>
      (Text.splitOnce stop piece).map fun (value, _) => Text.trim value := by
  have pieces : (monoReport control).toList.splitOn '[' = monoPieces control := by
    unfold monoReport
    rw [String.toList_ofList]
    refine List.splitOn_intercalate '[' ?_ (by simp [monoPieces])
    intro piece member
    rcases List.mem_cons.mp member with rfl | member
    · decide
    rcases List.mem_cons.mp member with rfl | member
    · rw [List.mem_append]
      exact fun found => found.elim (toDigits_not_mem (by decide)) (by decide)
    · obtain ⟨on, _, rfl⟩ := Option.map_eq_some_iff.mp (Option.mem_toList.mp member)
      cases on <;> decide
  rw [bracketed, pieces]

theorem visible_digits (n : Nat) : ∀ c ∈ Nat.toDigits 10 n, Text.isWhitespace c = false := by
  intro c member
  have digit := Text.isDigit_toNat (Nat.isDigit_of_mem_toDigits (by decide) (by decide) member)
  exact Text.isWhitespace_eq_false (by omega) (by omega)

theorem parseAmixerSwitchState_mono :
    parseAmixerSwitchState (monoReport control) = control.switch.map (!·) := by
  have volume : Text.splitOnce [']'] (Nat.toDigits 10 control.volume.toNat ++ "%] ".toList) =
      some (Nat.toDigits 10 control.volume.toNat ++ ['%'], [' ']) := by
    have fresh : ']' ∉ Nat.toDigits 10 control.volume.toNat ++ ['%'] := by
      rw [List.mem_append]
      exact fun found => found.elim (toDigits_not_mem (by decide)) (by decide)
    have split := @Text.splitOnce_append ']' [] _ fresh [' ']
    rwa [List.append_assoc] at split
  have shown : Text.trim (Nat.toDigits 10 control.volume.toNat ++ ['%']) =
      Nat.toDigits 10 control.volume.toNat ++ ['%'] := by
    refine Text.trim_eq_self fun c member => ?_
    rcases List.mem_append.mp member with digit | sign
    · exact visible_digits _ c digit
    · rw [List.mem_singleton.mp sign]
      decide
  have noWord : switchWord (Nat.toDigits 10 control.volume.toNat ++ ['%']) = none := by
    have sign : '%' ∈ Nat.toDigits 10 control.volume.toNat ++ ['%'] := by simp
    have apart : ∀ word : List Char, '%' ∉ word →
        Nat.toDigits 10 control.volume.toNat ++ ['%'] ≠ word := by
      rintro word absent rfl
      exact absent sign
    unfold switchWord
    rw [if_neg (apart _ (by decide)), if_neg (apart _ (by decide)), if_neg (apart _ (by decide)),
      if_neg (apart _ (by decide))]
  rw [parseAmixerSwitchState, bracketed_monoReport, monoPieces]
  have lead : Text.splitOnce [']'] "  Mono: ".toList = none := by decide
  rw [List.filterMap_cons, lead, Option.map_none]
  dsimp only
  rw [List.filterMap_cons, volume, Option.map_some]
  dsimp only
  rw [shown, List.filterMap_cons, noWord]
  cases control.switch with
  | none => rfl
  | some on => cases on <;> decide

theorem parseAmixerState_mono :
    parseAmixerState (monoReport control) = .ok ⟨control.volume, control.muted⟩ := by
  have volume : Text.splitOnce ['%', ']'] (Nat.toDigits 10 control.volume.toNat ++ "%] ".toList) =
      some (Nat.toDigits 10 control.volume.toNat, [' ']) :=
    Text.splitOnce_append (toDigits_not_mem (by decide)) [' ']
  have shown := Text.trim_eq_self (visible_digits control.volume.toNat)
  have read : parseDecimal 256 (Nat.toDigits 10 control.volume.toNat) = some control.volume.toNat :=
    parseDecimal_toDigits (by decide) control.volume.toNat_lt
  have volumes : (bracketed ['%', ']'] (monoReport control)).filterMap (parseDecimal 256) =
      [control.volume.toNat] := by
    have lead : Text.splitOnce ['%', ']'] "  Mono: ".toList = none := by decide
    rw [bracketed_monoReport, monoPieces, List.filterMap_cons, lead, Option.map_none]
    dsimp only
    rw [List.filterMap_cons, volume, Option.map_some]
    dsimp only
    rw [shown, List.filterMap_cons, read]
    cases control.switch with
    | none => rfl
    | some on => cases on <;> rfl
  have muted : (control.switch.map (!·)).getD false = control.muted := by
    unfold MixerControl.muted
    cases control.switch with
    | none => rfl
    | some on => cases on <;> rfl
  have inside : ¬ 100 < control.volume := UInt8.not_lt.mpr control.volume_le
  unfold parseAmixerState
  rw [volumes, parseAmixerSwitchState_mono]
  dsimp only [List.getLast?_singleton]
  rw [muted, UInt8.ofNat_toNat, AudioControlState.validate, if_neg inside]

end

def Amixer.mono : Amixer where
  report := monoReport
  lacksSwitch := some "Invalid command!"
  reports_state _ := parseAmixerState_mono
  reports_switch _ := parseAmixerSwitchState_mono

end Kaonic.Gateway
