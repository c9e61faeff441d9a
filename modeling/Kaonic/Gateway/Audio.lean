import Kaonic.Base.HashMap
import Kaonic.Base.Machine
import Kaonic.Gateway.Mixer

/-!
# Audio outputs

How the gateway reads, sets and lists the volume and the muting of its audio outputs. An output
without a switch is muted by a volume of zero, and the service remembers the volume it had.
-/

namespace Kaonic.Gateway

structure AudioControlSnapshot where
  controlId : String
  label : String
  volume : UInt8
  muted : Bool
  backend : String
  deriving DecidableEq

def AudioControlSnapshot.new (kind : AudioOutput) (state : AudioControlState) (backend : String) :
    AudioControlSnapshot :=
  ⟨kind.id, kind.label, state.volume, state.muted, backend⟩

structure AudioCardSnapshot where
  cardId : Nat
  cardName : String
  controls : List AudioControlSnapshot
  deriving DecidableEq

structure AudioService where
  softMuteLevels : HashMap (Nat × AudioOutput) UInt8 := ∅

namespace AudioService

def softMuteLevel (service : AudioService) (cardId : Nat) (output : AudioOutput) : Option UInt8 :=
  service.softMuteLevels.lookup (cardId, output)

def setSoftMuteLevel (service : AudioService) (cardId : Nat) (output : AudioOutput)
    (volume : UInt8) : AudioService :=
  ⟨AList.insert (cardId, output) volume service.softMuteLevels⟩

def clearSoftMuteLevel (service : AudioService) (cardId : Nat) (output : AudioOutput) :
    AudioService :=
  ⟨AList.erase (cardId, output) service.softMuteLevels⟩

end AudioService

section
variable (tool : Amixer) (refuses : Refusals)

def readAudioControlFromCard (host : AlsaHost) (card : LinuxAudioCard) (kind : AudioOutput) :
    Except AudioError AudioControlState := do
  let control ← resolveAudioControlsForCard card kind
  let stdout ← host.sget tool refuses card.index control.volumeControl
  let state ← parseAmixerState stdout
  match control.switchControl with
  | none => return state
  | some switchControl =>
    let switchStdout ← host.sget tool refuses card.index switchControl
    match parseAmixerSwitchState switchStdout with
    | some muted => return { state with muted }
    | none => return state

def readAudioControlLinux (host : AlsaHost) (cardId : Nat) (kind : AudioOutput) :
    Except AudioError AudioControlSnapshot := do
  let card ← findAudioCardLinux refuses host cardId
  let state ← readAudioControlFromCard tool refuses host card kind
  return .new kind state ("ALSA " ++ kind.label)

def controlHasSwitchLinux (host : AlsaHost) (cardId : Nat) (kind : AudioOutput) :
    Except AudioError Bool := do
  let card ← findAudioCardLinux refuses host cardId
  let control ← resolveAudioControlsForCard card kind
  return control.switchControl.isSome

/-- The host as the commands leave it, and whether they have succeeded. -/
def writeLinuxControl (host : AlsaHost) (cardId : Nat) (control : ResolvedLinuxControl)
    (state : AudioControlState) (switchTokens : String × String) :
    AlsaHost × Except AudioError Unit :=
  let switch := if state.muted then switchTokens.2 else switchTokens.1
  match host.ssetVolume refuses cardId control.volumeControl state.volume with
  | .error err => (host, .error err)
  | .ok host =>
    match control.switchControl with
    | none => (host, .ok ())
    | some switchControl =>
      match host.ssetSwitch tool refuses cardId switchControl switch with
      | .error err => (host, .error err)
      | .ok host => (host, .ok ())

def writeAudioControlLinux (host : AlsaHost) (cardId : Nat) (kind : AudioOutput)
    (state : AudioControlState) : AlsaHost × Except AudioError AudioControlSnapshot :=
  match findAudioCardLinux refuses host cardId with
  | .error err => (host, .error err)
  | .ok card =>
    match resolveAudioControlsForCard card kind with
    | .error err => (host, .error err)
    | .ok control =>
      match writeLinuxControl tool refuses host card.index control state kind.switchTokens with
      | (host, .error err) => (host, .error err)
      | (host, .ok _) => (host, readAudioControlLinux tool refuses host cardId kind)

def listAudioCardsLinux (host : AlsaHost) : Except AudioError (List AudioCardSnapshot) := do
  let cards ← enumerateAudioCardsLinux refuses host
  return cards.map fun card =>
    { cardId := card.index
      cardName := card.name
      controls := [AudioOutput.speaker, .headphones, .microphone].filterMap fun kind =>
        (readAudioControlFromCard tool refuses host card kind).toOption.map fun state =>
          .new kind state ("ALSA " ++ kind.label) }

namespace AudioService

/-- The listing does not look at what the service remembers. -/
def listCards (host : AlsaHost) (_service : AudioService) :
    Except AudioError (List AudioCardSnapshot) := listAudioCardsLinux tool refuses host

def readControl (host : AlsaHost) (cardId : Nat) (output : AudioOutput) (service : AudioService) :
    Except AudioError AudioControlSnapshot := do
  let snapshot ← readAudioControlLinux tool refuses host cardId output
  let hasSwitch ← controlHasSwitchLinux refuses host cardId output
  if !hasSwitch && snapshot.volume == 0 then
    match service.softMuteLevel cardId output with
    | some savedVolume => return { snapshot with volume := savedVolume, muted := true }
    | none => return snapshot
  else return snapshot

def writeControl (host : AlsaHost) (cardId : Nat) (output : AudioOutput) (state : AudioControlState)
    (service : AudioService) : (AudioService × AlsaHost) × Except AudioError AudioControlSnapshot :=
  match state.validate with
  | .error err => ((service, host), .error err)
  | .ok state =>
    match controlHasSwitchLinux refuses host cardId output with
    | .error err => ((service, host), .error err)
    | .ok true =>
      let (host, outcome) := writeAudioControlLinux tool refuses host cardId output state
      ((service, host), outcome)
    | .ok false =>
      if state.muted then
        let service := if 0 < state.volume then
          service.setSoftMuteLevel cardId output state.volume else service
        match writeAudioControlLinux tool refuses host cardId output ⟨0, false⟩ with
        | (host, .error err) => ((service, host), .error err)
        | (host, .ok _) =>
          let volume := (service.softMuteLevel cardId output).getD state.volume
          ((service, host), .ok (.new output ⟨volume, true⟩ ("ALSA " ++ output.label)))
      else
        let service := if 0 < state.volume then
          service.setSoftMuteLevel cardId output state.volume
          else service.clearSoftMuteLevel cardId output
        let (host, outcome) := writeAudioControlLinux tool refuses host cardId output state
        ((service, host), outcome)

end AudioService

end

/-! ### What is read -/

/-- The mixer has the control of the volume, and that of the switch if there is a separate one. -/
structure Held (host : AlsaHost) (cardId : Nat) (control : ResolvedLinuxControl)
    (own : MixerControl) (separate : Option MixerControl) : Prop where
  volume : (host.mixers cardId).controls control.volumeControl = .ok own
  alone : control.switchControl = none → separate = none
  switch : ∀ name, control.switchControl = some name →
    ∃ found, separate = some found ∧ (host.mixers cardId).controls name = .ok found

/-- An output on a card that is found, resolved to controls that the mixer has. -/
def Located (host : AlsaHost) (cardId : Nat) (kind : AudioOutput) (own : MixerControl)
    (separate : Option MixerControl) : Prop :=
  ∃ card control, findAudioCardLinux .none host cardId = .ok card ∧
    resolveAudioControlsForCard card kind = .ok control ∧ Held host cardId control own separate

/-- The muting that the mixer shows: by the separate switch, or else by the own one. -/
def shownMuted (own : MixerControl) (separate : Option MixerControl) : Bool :=
  ((separate.bind MixerControl.switch).map (!·)).getD own.muted

def hardwareState (own : MixerControl) (separate : Option MixerControl) : AudioControlState :=
  ⟨own.volume, shownMuted own separate⟩

/-- What a read shows: the remembered level of an output that is muted without a switch, or else
what the mixer shows. -/
def AudioService.shownState (service : AudioService) (cardId : Nat) (kind : AudioOutput)
    (own : MixerControl) (separate : Option MixerControl) : AudioControlState :=
  if separate = none ∧ own.volume = 0 then
    ((service.softMuteLevel cardId kind).map fun level => ⟨level, true⟩).getD
      (hardwareState own separate)
  else hardwareState own separate

section

variable {tool : Amixer} {refuses : Refusals} {host after : AlsaHost} {cardId : Nat}
  {card : LinuxAudioCard} {kind : AudioOutput} {control : ResolvedLinuxControl} {own : MixerControl}
  {separate : Option MixerControl} {state : AudioControlState}

theorem sget_ok {name stdout : String} :
    host.sget tool .none cardId name = .ok stdout ↔
      ∃ found, (host.mixers cardId).controls name = .ok found ∧ tool.report found = stdout := by
  unfold AlsaHost.sget
  refine Traverse.bind_eq_ok.trans ?_
  constructor
  · rintro ⟨_, _, shown⟩
    obtain ⟨found, addressed, done⟩ := Traverse.bind_eq_ok.mp shown
    exact ⟨found, addressed_ok.mp addressed, Except.ok.inj done⟩
  · rintro ⟨found, known, rfl⟩
    exact ⟨(), rfl, Traverse.bind_eq_ok.mpr ⟨found, addressed_ok.mpr known, rfl⟩⟩

theorem Held.single (alone : control.switchControl = none)
    (known : (host.mixers cardId).controls control.volumeControl = .ok own) :
    Held host cardId control own none := by
  refine ⟨known, fun _ => rfl, ?_⟩
  intro name named
  rw [alone] at named
  cases named

theorem Held.paired {name : String} {found : MixerControl}
    (named : control.switchControl = some name)
    (known : (host.mixers cardId).controls control.volumeControl = .ok own)
    (switchKnown : (host.mixers cardId).controls name = .ok found) :
    Held host cardId control own (some found) := by
  refine ⟨known, ?_, ?_⟩
  · intro alone
    rw [named] at alone
    cases alone
  · intro other same
    rw [named] at same
    obtain rfl := Option.some.inj same
    exact ⟨found, rfl, switchKnown⟩

/-- Without refusals a card gives the state of every output that it has the controls of. -/
theorem readFromCard_iff : readAudioControlFromCard tool .none host card kind = .ok state ↔
    ∃ control own separate, resolveAudioControlsForCard card kind = .ok control ∧
      Held host card.index control own separate ∧ hardwareState own separate = state := by
  unfold readAudioControlFromCard
  constructor
  · intro read
    obtain ⟨control, resolved, read⟩ := Traverse.bind_eq_ok.mp read
    obtain ⟨stdout, shown, read⟩ := Traverse.bind_eq_ok.mp read
    obtain ⟨own, known, rfl⟩ := sget_ok.mp shown
    obtain ⟨_, parsed, read⟩ := Traverse.bind_eq_ok.mp read
    rw [tool.reports_state] at parsed
    obtain rfl := Except.ok.inj parsed
    cases named : control.switchControl with
    | none =>
      rw [named] at read
      exact ⟨control, own, none, resolved, .single named known, Except.ok.inj read⟩
    | some name =>
      rw [named] at read
      obtain ⟨switchStdout, switchShown, read⟩ := Traverse.bind_eq_ok.mp read
      obtain ⟨found, switchKnown, rfl⟩ := sget_ok.mp switchShown
      refine ⟨control, own, some found, resolved, .paired named known switchKnown, ?_⟩
      rw [tool.reports_switch] at read
      unfold hardwareState shownMuted
      rw [Option.bind_some]
      cases switch : found.switch with
      | none =>
        rw [switch] at read
        exact Except.ok.inj read
      | some on =>
        rw [switch] at read
        exact Except.ok.inj read
  · rintro ⟨control, own, separate, resolved, held, rfl⟩
    refine Traverse.bind_eq_ok.mpr ⟨control, resolved, ?_⟩
    refine Traverse.bind_eq_ok.mpr ⟨_, sget_ok.mpr ⟨own, held.volume, rfl⟩, ?_⟩
    refine Traverse.bind_eq_ok.mpr ⟨_, tool.reports_state own, ?_⟩
    cases named : control.switchControl with
    | none =>
      rw [held.alone named]
      rfl
    | some name =>
      obtain ⟨found, rfl, known⟩ := held.switch name named
      refine Traverse.bind_eq_ok.mpr ⟨_, sget_ok.mpr ⟨found, known, rfl⟩, ?_⟩
      rw [tool.reports_switch]
      unfold hardwareState shownMuted
      rw [Option.bind_some]
      cases found.switch <;> rfl

theorem Held.switch_isSome (held : Held host cardId control own separate) :
    control.switchControl.isSome = separate.isSome := by
  cases named : control.switchControl with
  | none =>
    rw [held.alone named]
    rfl
  | some name =>
    obtain ⟨found, rfl, _⟩ := held.switch name named
    rfl

theorem readControl_located {service : AudioService} (located : Located host cardId kind own separate) :
    service.readControl tool .none host cardId kind =
      .ok (.new kind (service.shownState cardId kind own separate) ("ALSA " ++ kind.label)) := by
  obtain ⟨card, control, found, resolved, held⟩ := located
  have index := (findAudioCard_none found).2
  have state : readAudioControlFromCard tool .none host card kind =
      .ok (hardwareState own separate) := by
    refine readFromCard_iff.mpr ⟨control, own, separate, resolved, ?_, rfl⟩
    rw [index]
    exact held
  unfold AudioService.readControl
  refine Traverse.bind_eq_ok.mpr ⟨.new kind (hardwareState own separate) ("ALSA " ++ kind.label), ?_, ?_⟩
  · exact Traverse.bind_eq_ok.mpr ⟨card, found, Traverse.bind_eq_ok.mpr ⟨_, state, rfl⟩⟩
  refine Traverse.bind_eq_ok.mpr ⟨separate.isSome, ?_, ?_⟩
  · refine Traverse.bind_eq_ok.mpr ⟨card, found, Traverse.bind_eq_ok.mpr ⟨control, resolved, ?_⟩⟩
    exact congrArg Except.ok held.switch_isSome
  unfold AudioService.shownState
  cases separate with
  | some found => rfl
  | none =>
    by_cases silent : own.volume = 0
    · have taken : (!Option.isSome (none : Option MixerControl) &&
          (hardwareState own none).volume == 0) = true := by simp [hardwareState, silent]
      refine (if_pos taken).trans ?_
      rw [if_pos ⟨rfl, silent⟩]
      cases service.softMuteLevel cardId kind <;> rfl
    · have passed : ¬ (!Option.isSome (none : Option MixerControl) &&
          (hardwareState own none).volume == 0) = true := by simp [hardwareState, silent]
      refine (if_neg passed).trans ?_
      rw [if_neg fun both => silent both.2]
      rfl

/-! ### What is written -/

theorem switchTokens_on (kind : AudioOutput) (muted : Bool) :
    let token := if muted then kind.switchTokens.2 else kind.switchTokens.1
    (token == "unmute" || token == "cap") = !muted := by
  cases kind <;> cases muted <;> decide

/-- A write that succeeds has found the controls, and leaves them as they were told. -/
theorem writeLinuxControl_ok {tokens : String × String}
    (apart : control.switchControl ≠ some control.volumeControl)
    (done : writeLinuxControl tool refuses host cardId control state tokens = (after, .ok ())) :
    host.SameCards after ∧ ∃ own separate, Held host cardId control own separate ∧
      Held after cardId control (own.setVolume state.volume) (separate.map fun found =>
        found.setSwitch (
          let token := if state.muted then tokens.2 else tokens.1
          token == "unmute" || token == "cap")) := by
  unfold writeLinuxControl at done
  dsimp only at done
  cases volumeSet : host.ssetVolume refuses cardId control.volumeControl state.volume with
  | error err =>
    rw [volumeSet] at done
    cases done
  | ok loud =>
    rw [volumeSet] at done
    obtain ⟨same, own, known, controls⟩ := ssetVolume_ok volumeSet
    dsimp only at done
    cases named : control.switchControl with
    | none =>
      rw [named] at done
      obtain rfl := congrArg Prod.fst done
      exact ⟨same, own, none, .single named known,
        .single named ((controls _).trans (if_pos rfl))⟩
    | some switchControl =>
      rw [named] at done apart
      dsimp only at done
      split at done
      · cases done
      · rename_i switched switchSet
        obtain rfl := congrArg Prod.fst done
        obtain ⟨same', found, switchKnown, controls'⟩ := ssetSwitch_ok switchSet
        have beside : switchControl ≠ control.volumeControl := fun shared => apart (congrArg some shared)
        rw [controls, if_neg beside] at switchKnown
        refine ⟨⟨same'.cards.trans same.cards, fun i => (same'.names i).trans (same.names i)⟩,
          own, some found, .paired named known switchKnown, .paired named ?_ ?_⟩
        · rw [controls', if_neg beside.symm, controls, if_pos rfl]
        · exact (controls' _).trans (if_pos rfl)

theorem writeAudioControl_ok {snapshot : AudioControlSnapshot}
    (done : writeAudioControlLinux tool refuses host cardId kind state = (after, .ok snapshot)) :
    ∃ own separate, Located host cardId kind own separate ∧
      Located after cardId kind (own.setVolume state.volume)
        (separate.map fun found => found.setSwitch (!state.muted)) := by
  unfold writeAudioControlLinux at done
  split at done
  · cases done
  rename_i card found
  split at done
  · cases done
  rename_i control resolved
  obtain ⟨found, index⟩ := findAudioCard_none found
  split at done
  · cases done
  rename_i host' _ written
  obtain rfl := congrArg Prod.fst done
  rw [index] at written
  obtain ⟨same, own, separate, before, held⟩ :=
    writeLinuxControl_ok (resolve_ok rfl resolved).2 written
  rw [switchTokens_on] at held
  refine ⟨own, separate, ⟨card, control, found, resolved, before⟩, card, control, ?_, resolved, held⟩
  rw [findAudioCard_congr same]
  exact found

/-- What an output is located at is determined. -/
theorem Located.unique {own' : MixerControl} {separate' : Option MixerControl}
    (located : Located host cardId kind own separate)
    (other : Located host cardId kind own' separate') : own = own' ∧ separate = separate' := by
  obtain ⟨card, control, found, resolved, held⟩ := located
  obtain ⟨card', control', found', resolved', held'⟩ := other
  obtain rfl := Except.ok.inj (found.symm.trans found')
  obtain rfl := Except.ok.inj (resolved.symm.trans resolved')
  refine ⟨Except.ok.inj (held.volume.symm.trans held'.volume), ?_⟩
  cases named : control.switchControl with
  | none => rw [held.alone named, held'.alone named]
  | some name =>
    obtain ⟨switch, rfl, known⟩ := held.switch name named
    obtain ⟨switch', rfl, known'⟩ := held'.switch name named
    exact congrArg some (Except.ok.inj (known.symm.trans known'))

theorem controlHasSwitch_located {has : Bool}
    (checked : controlHasSwitchLinux refuses host cardId kind = .ok has)
    (located : Located host cardId kind own separate) : has = separate.isSome := by
  obtain ⟨card, found, checked⟩ := Traverse.bind_eq_ok.mp checked
  obtain ⟨control, resolved, checked⟩ := Traverse.bind_eq_ok.mp checked
  obtain ⟨card', control', found', resolved', held⟩ := located
  rw [(findAudioCard_none found).1] at found'
  obtain rfl := Except.ok.inj found'
  rw [resolved] at resolved'
  obtain rfl := Except.ok.inj resolved'
  exact (Except.ok.inj checked).symm.trans held.switch_isSome

theorem separate_none (checked : controlHasSwitchLinux refuses host cardId kind = .ok false)
    (located : Located host cardId kind own separate) : separate = none := by
  have has := controlHasSwitch_located checked located
  cases separate with
  | none => rfl
  | some found => cases has

end

/-! ### What is read back -/

/-- A read that follows shows the muting that was written, and the volume unless that was zero. -/
def ReadsBack (tool : Amixer) (t : AudioService × AlsaHost) (cardId : Nat) (kind : AudioOutput)
    (state : AudioControlState) : Prop :=
  ∃ snapshot, t.1.readControl tool .none t.2 cardId kind = .ok snapshot ∧
    snapshot.muted = state.muted ∧ (0 < state.volume → snapshot.volume = state.volume)

/-- A separate switch control has a switch, or the own switch agrees anyway. Without a separate one
the own switch is not off, or for a muting there is a volume to remember, or it is off. -/
def Keeps (service : AudioService) (cardId : Nat) (kind : AudioOutput) (state : AudioControlState)
    (own : MixerControl) : Option MixerControl → Prop
  | some found => found.switch.isSome = true ∨ own.muted = state.muted
  | none =>
    if state.muted then 0 < state.volume ∨ (service.softMuteLevel cardId kind).isSome = true ∨
      own.muted = true
    else own.muted = false

section

variable {tool : Amixer} {refuses : Refusals} {host : AlsaHost} {service : AudioService}
  {cardId : Nat} {kind : AudioOutput} {own : MixerControl} {separate : Option MixerControl}
  {state : AudioControlState}

theorem readsBack_iff (located : Located host cardId kind own separate) :
    ReadsBack tool (service, host) cardId kind state ↔
      (service.shownState cardId kind own separate).muted = state.muted ∧
        (0 < state.volume → (service.shownState cardId kind own separate).volume = state.volume) := by
  have read := @readControl_located tool host cardId kind own separate service located
  constructor
  · rintro ⟨snapshot, shown, muted, volume⟩
    rw [read] at shown
    obtain rfl := Except.ok.inj shown
    exact ⟨muted, volume⟩
  · exact fun ⟨muted, volume⟩ => ⟨_, read, muted, volume⟩

theorem setVolume_volume {volume : UInt8} (inside : volume ≤ 100) :
    (own.setVolume volume).volume = volume := by
  unfold MixerControl.setVolume
  rw [dif_pos inside]

theorem setVolume_muted (volume : UInt8) : (own.setVolume volume).muted = own.muted := by
  unfold MixerControl.setVolume
  split <;> rfl

/-- Through a separate switch. -/
theorem shownState_switched {found : MixerControl} (inside : state.volume ≤ 100) :
    service.shownState cardId kind (own.setVolume state.volume)
        (some (found.setSwitch (!state.muted))) =
      ⟨state.volume, if found.switch.isSome then state.muted else own.muted⟩ := by
  unfold AudioService.shownState hardwareState shownMuted MixerControl.setSwitch
  rw [if_neg (fun both => by cases both.1), setVolume_volume inside, setVolume_muted]
  cases found.switch <;> simp

/-- Without one, at a volume. -/
theorem shownState_loud {volume : UInt8} (inside : volume ≤ 100) (loud : 0 < volume) :
    service.shownState cardId kind (own.setVolume volume) none = ⟨volume, own.muted⟩ := by
  unfold AudioService.shownState hardwareState shownMuted
  rw [setVolume_volume inside, setVolume_muted, if_neg]
  · rfl
  · rintro ⟨_, rfl⟩
    exact absurd loud (by decide)

/-- Without one, at zero. -/
theorem shownState_silent :
    service.shownState cardId kind (own.setVolume 0) none =
      ((service.softMuteLevel cardId kind).map fun level => ⟨level, true⟩).getD ⟨0, own.muted⟩ := by
  have zero : (own.setVolume 0).volume = 0 := setVolume_volume (by decide)
  unfold AudioService.shownState
  rw [if_pos ⟨rfl, zero⟩, hardwareState, shownMuted, zero, setVolume_muted]
  rfl

theorem level_set (volume : UInt8) :
    (service.setSoftMuteLevel cardId kind volume).softMuteLevel cardId kind = some volume :=
  (HashMap.lookup_insert_eq _ _ _ _).trans (if_pos rfl)

theorem level_clear : (service.clearSoftMuteLevel cardId kind).softMuteLevel cardId kind = none :=
  (HashMap.lookup_erase_eq _ _ _).trans (if_pos rfl)

/-- Muted without a switch: the volume is zero, and the service remembers the one that was
written. -/
theorem readsBack_muted (muted : state.muted = true)
    (located : Located host cardId kind (own.setVolume 0) none) :
    let remembers := if 0 < state.volume then
      service.setSoftMuteLevel cardId kind state.volume else service
    ReadsBack tool (remembers, host) cardId kind state ↔ Keeps service cardId kind state own none := by
  intro remembers
  refine (readsBack_iff located).trans ?_
  rw [shownState_silent, muted]
  unfold Keeps
  dsimp only
  rw [if_pos muted]
  by_cases loud : 0 < state.volume
  · have level : remembers.softMuteLevel cardId kind = some state.volume := by
      have same : remembers = service.setSoftMuteLevel cardId kind state.volume := if_pos loud
      rw [same, level_set]
    rw [level]
    exact iff_of_true ⟨rfl, fun _ => rfl⟩ (Or.inl loud)
  · have same : remembers = service := if_neg loud
    rw [same]
    cases service.softMuteLevel cardId kind with
    | some level => exact iff_of_true ⟨rfl, fun some_ => absurd some_ loud⟩ (Or.inr (Or.inl rfl))
    | none => simp [loud]

/-- Not muted without a switch: the volume is written, and the own switch stays as it is. -/
theorem readsBack_unmuted (inside : state.volume ≤ 100) (unmuted : state.muted = false)
    (located : Located host cardId kind (own.setVolume state.volume) none) :
    let remembers := if 0 < state.volume then
      service.setSoftMuteLevel cardId kind state.volume else service.clearSoftMuteLevel cardId kind
    ReadsBack tool (remembers, host) cardId kind state ↔ Keeps service cardId kind state own none := by
  intro remembers
  refine (readsBack_iff located).trans ?_
  unfold Keeps
  dsimp only
  rw [if_neg (by simp [unmuted]), unmuted]
  by_cases loud : 0 < state.volume
  · rw [shownState_loud inside loud]
    exact and_iff_left fun _ => rfl
  · have zero : state.volume = 0 := UInt8.le_antisymm (UInt8.not_lt.mp loud) UInt8.zero_le
    have same : remembers = service.clearSoftMuteLevel cardId kind := if_neg loud
    rw [zero, shownState_silent, same, level_clear]
    exact and_iff_left fun some_ => absurd some_ (by decide)

/-- A write that succeeds is read back just if it keeps. -/
theorem writeControl_keeps (written :
    (service.writeControl tool refuses host cardId kind state).2.isOk = true) :
    ∃ own separate, Located host cardId kind own separate ∧
      (ReadsBack tool (service.writeControl tool refuses host cardId kind state).1 cardId kind state ↔
        Keeps service cardId kind state own separate) := by
  unfold AudioService.writeControl AudioControlState.validate at written ⊢
  by_cases beyond : 100 < state.volume
  · rw [if_pos beyond] at written
    cases written
  have inside : state.volume ≤ 100 := UInt8.not_lt.mp beyond
  rw [if_neg beyond] at written ⊢
  dsimp only at written ⊢
  cases checked : controlHasSwitchLinux refuses host cardId kind with
  | error err =>
    rw [checked] at written
    cases written
  | ok has =>
    rw [checked] at written
    cases has with
    | true =>
      dsimp only at written ⊢
      cases outcome : writeAudioControlLinux tool refuses host cardId kind state with
      | mk after result =>
        rw [outcome] at written
        obtain ⟨snapshot, rfl⟩ := Traverse.isOk_iff_exists.mp written
        obtain ⟨own, separate, before, located⟩ := writeAudioControl_ok outcome
        refine ⟨own, separate, before, (readsBack_iff located).trans ?_⟩
        have some_ := controlHasSwitch_located checked before
        obtain ⟨found, rfl⟩ := Option.isSome_iff_exists.mp some_.symm
        rw [Option.map_some, shownState_switched inside]
        unfold Keeps
        dsimp only
        cases found.switch <;> simp
    | false =>
      dsimp only at written ⊢
      cases muted : state.muted with
      | true =>
        rw [muted] at written
        rw [if_pos rfl] at written ⊢
        cases outcome : writeAudioControlLinux tool refuses host cardId kind ⟨0, false⟩ with
        | mk after result =>
          rw [outcome] at written
          cases result with
          | error err => cases written
          | ok snapshot =>
            obtain ⟨own, separate, before, located⟩ := writeAudioControl_ok outcome
            obtain rfl := separate_none checked before
            exact ⟨own, none, before, readsBack_muted muted located⟩
      | false =>
        rw [muted] at written
        rw [if_neg (by decide)] at written ⊢
        cases outcome : writeAudioControlLinux tool refuses host cardId kind state with
        | mk after result =>
          rw [outcome] at written
          obtain ⟨snapshot, rfl⟩ := Traverse.isOk_iff_exists.mp written
          obtain ⟨own, separate, before, located⟩ := writeAudioControl_ok outcome
          obtain rfl := separate_none checked before
          exact ⟨own, none, before, readsBack_unmuted inside muted located⟩

end

/-! ### Histories -/

/-- Calls of the service, with the commands that fail during each, and changes of the mixers by
others. -/
inductive AudioCall where
  | read (refuses : Refusals) (cardId : Nat) (output : AudioOutput)
  | write (refuses : Refusals) (cardId : Nat) (output : AudioOutput) (state : AudioControlState)
  | changed (host : AlsaHost)

def audioMachine (tool : Amixer) : Machine (AudioService × AlsaHost) AudioCall
    (Option (Except AudioError AudioControlSnapshot)) where
  step t
    | .read refuses cardId output => (t, some (t.1.readControl tool refuses t.2 cardId output))
    | .write refuses cardId output state =>
      let r := t.1.writeControl tool refuses t.2 cardId output state
      (r.1, some r.2)
    | .changed host => ((t.1, host), none)

/-- After any history a write that succeeds is read back if and only if it keeps. -/
theorem writeControl_reads_back_iff (tool : Amixer) (host : AlsaHost) (history : List AudioCall)
    (refuses : Refusals) (cardId : Nat) (kind : AudioOutput) (state : AudioControlState) :
    let t := (audioMachine tool).run ({}, host) history
    let r := t.1.writeControl tool refuses t.2 cardId kind state
    r.2.isOk = true → ∃ own separate, Located t.2 cardId kind own separate ∧
      (ReadsBack tool r.1 cardId kind state ↔ Keeps t.1 cardId kind state own separate) :=
  writeControl_keeps

/-! ### A control with a switch of its own -/

theorem forty_le : (40 : UInt8) ≤ 100 := by decide

/-- One card with the control `Master`, at forty percent. -/
def masterHost (switch : Option Bool) : AlsaHost where
  cards := .ok [(0, "USB Audio")]
  mixers _ := ⟨["Master"], fun name =>
    if name = "Master" then .ok ⟨40, switch, forty_le⟩ else .error "Unable to find simple control"⟩

theorem masterHost_located (switch : Option Bool) :
    Located (masterHost switch) 0 .speaker ⟨40, switch, forty_le⟩ none :=
  ⟨⟨0, "USB Audio", ["Master"]⟩, ⟨"Master", none⟩, rfl, rfl, .single rfl rfl⟩

theorem writeControl_reads_back_iff_on :
    ReadsBack .mono (({} : AudioService).writeControl .mono .none (masterHost (some true)) 0 .speaker
      ⟨50, false⟩).1 0 .speaker ⟨50, false⟩ := by
  obtain ⟨own, separate, located, back⟩ := writeControl_reads_back_iff .mono (masterHost (some true))
    [] .none 0 .speaker ⟨50, false⟩ rfl
  obtain ⟨rfl, rfl⟩ := located.unique (masterHost_located (some true))
  exact back.mpr rfl

/-- Unmuting leaves an own switch off, and a muting at volume zero is not remembered. -/
theorem writeControl_not_read_back :
    (let r := ({} : AudioService).writeControl .mono .none (masterHost (some false)) 0 .speaker
      ⟨50, false⟩
    r.2.isOk = true ∧ ¬ ReadsBack .mono r.1 0 .speaker ⟨50, false⟩) ∧
    let r := ({} : AudioService).writeControl .mono .none (masterHost none) 0 .speaker ⟨0, true⟩
    r.2.isOk = true ∧ ¬ ReadsBack .mono r.1 0 .speaker ⟨0, true⟩ := by
  refine ⟨⟨rfl, ?_⟩, rfl, ?_⟩
  · intro back
    obtain ⟨own, separate, located, keeps⟩ := @writeControl_keeps .mono .none
      (masterHost (some false)) {} 0 .speaker ⟨50, false⟩ rfl
    obtain ⟨rfl, rfl⟩ := located.unique (masterHost_located (some false))
    cases keeps.mp back
  · intro back
    obtain ⟨own, separate, located, keeps⟩ := @writeControl_keeps .mono .none
      (masterHost none) {} 0 .speaker ⟨0, true⟩ rfl
    obtain ⟨rfl, rfl⟩ := located.unique (masterHost_located none)
    rcases keeps.mp back with loud | level | off
    · exact absurd loud (by decide)
    · cases level
    · cases off

/-! ### What is listed -/

/-- Each control of the listing shows what a read of it shows. -/
def ListsAsRead (tool : Amixer) (t : AudioService × AlsaHost) : Prop :=
  ∀ cards, t.1.listCards tool .none t.2 = .ok cards → ∀ card ∈ cards, ∀ shown ∈ card.controls,
    ∀ kind : AudioOutput, kind.id = shown.controlId →
      ∃ snapshot, t.1.readControl tool .none t.2 card.cardId kind = .ok snapshot ∧
        snapshot.volume = shown.volume ∧ snapshot.muted = shown.muted

/-- A remembered level is never zero. -/
def Remembers (service : AudioService) : Prop :=
  ∀ cardId kind level, service.softMuteLevel cardId kind = some level → 0 < level

section

variable {tool : Amixer} {refuses : Refusals} {host : AlsaHost} {service : AudioService}
  {cardId : Nat} {kind : AudioOutput} {own : MixerControl} {separate : Option MixerControl}
  {state : AudioControlState}

theorem AudioOutput.id_injective : Function.Injective AudioOutput.id := by
  intro a b same
  cases a <;> cases b <;> first | rfl | exact absurd same (by decide)

/-- The listing shows each output that is located, as the mixer has it. -/
theorem listed_iff {shown : AudioControlSnapshot} :
    (∃ cards, listAudioCardsLinux tool .none host = .ok cards ∧ ∃ card ∈ cards, card.cardId = cardId ∧
        shown ∈ card.controls ∧ kind.id = shown.controlId) ↔
      ∃ own separate, Located host cardId kind own separate ∧
        shown = .new kind (hardwareState own separate) ("ALSA " ++ kind.label) := by
  constructor
  · rintro ⟨cards, listed, card, member, rfl, row, named⟩
    obtain ⟨all, enumerated, done⟩ := Traverse.bind_eq_ok.mp listed
    obtain rfl := Except.ok.inj done
    obtain ⟨card, listed, rfl⟩ := List.mem_map.mp member
    obtain ⟨other, _, row⟩ := List.mem_filterMap.mp row
    obtain ⟨state, read, rfl⟩ := Option.map_eq_some_iff.mp row
    obtain rfl := AudioOutput.id_injective named
    have read : readAudioControlFromCard tool .none host card kind = .ok state := by
      cases outcome : readAudioControlFromCard tool .none host card kind with
      | error err =>
        rw [outcome] at read
        cases read
      | ok result =>
        rw [outcome] at read
        exact congrArg Except.ok (Option.some.inj read)
    obtain ⟨control, own, separate, resolved, held, rfl⟩ := readFromCard_iff.mp read
    -- the search takes the first card of the index, which has the same names
    have some_ : (all.find? fun other => other.index == card.index).isSome = true :=
      List.find?_isSome.mpr ⟨card, listed, beq_self_eq_true _⟩
    obtain ⟨first, found⟩ := Option.isSome_iff_exists.mp some_
    have index := List.find?_some found
    have names := (enumerate_ok enumerated).2
    have same : card.controls = first.controls := by
      rw [names card listed, names first (List.mem_of_find?_eq_some found), beq_iff_eq.mp index]
    exact ⟨own, separate, ⟨first, control, findAudioCard_ok.mpr ⟨all, enumerated, found⟩,
      (resolve_ok same resolved).1, held⟩, rfl⟩
  · rintro ⟨own, separate, ⟨card, control, found, resolved, held⟩, rfl⟩
    obtain ⟨all, enumerated, first⟩ := findAudioCard_ok.mp found
    have index := (findAudioCard_none found).2
    refine ⟨_, Traverse.bind_eq_ok.mpr ⟨all, enumerated, rfl⟩, _,
      List.mem_map.mpr ⟨card, List.mem_of_find?_eq_some first, rfl⟩, index, ?_, rfl⟩
    have read : readAudioControlFromCard tool .none host card kind =
        .ok (hardwareState own separate) := by
      refine readFromCard_iff.mpr ⟨control, own, separate, resolved, ?_, rfl⟩
      rw [index]
      exact held
    refine List.mem_filterMap.mpr ⟨kind, by cases kind <;> decide, ?_⟩
    rw [read]
    rfl

theorem listsAsRead_iff (remembers : Remembers service) : ListsAsRead tool (service, host) ↔
    ∀ cardId kind own, Located host cardId kind own none → own.volume = 0 →
      service.softMuteLevel cardId kind = none := by
  constructor
  · intro agrees cardId kind own located silent
    cases remembered : service.softMuteLevel cardId kind with
    | none => rfl
    | some level =>
      obtain ⟨cards, listed, card, member, rfl, row, named⟩ :=
        (@listed_iff tool host cardId kind _).mpr ⟨own, none, located, rfl⟩
      obtain ⟨snapshot, read, volume, _⟩ := agrees cards listed card member _ row kind named
      rw [readControl_located located] at read
      obtain rfl := Except.ok.inj read
      have shown : service.shownState card.cardId kind own none = ⟨level, true⟩ := by
        unfold AudioService.shownState
        rw [if_pos ⟨rfl, silent⟩, remembered]
        rfl
      rw [shown] at volume
      have zero : level = 0 := volume.trans silent
      rw [zero] at remembered
      exact absurd (remembers _ _ _ remembered) (by decide)
  · intro forgotten cards listed card member shown row kind named
    obtain ⟨own, separate, located, rfl⟩ :=
      listed_iff.mp ⟨cards, listed, card, member, rfl, row, named⟩
    refine ⟨_, readControl_located located, ?_⟩
    have same : service.shownState card.cardId kind own separate = hardwareState own separate := by
      unfold AudioService.shownState
      split
      · rename_i silent
        obtain ⟨rfl, silent⟩ := silent
        rw [forgotten _ _ _ located silent]
        rfl
      · rfl
    rw [same]
    exact ⟨rfl, rfl⟩

/-- A write remembers the volume that it has got, forgets, or leaves the levels alone. -/
theorem writeControl_levels (remembers : Remembers service) :
    Remembers (service.writeControl tool refuses host cardId kind state).1.1 := by
  have set : 0 < state.volume → Remembers (service.setSoftMuteLevel cardId kind state.volume) := by
    intro loud other output level found
    unfold AudioService.softMuteLevel AudioService.setSoftMuteLevel at found
    rw [HashMap.lookup_insert_eq] at found
    split at found
    · rwa [← Option.some.inj found]
    · exact remembers other output level found
  have clear : Remembers (service.clearSoftMuteLevel cardId kind) := by
    intro other output level found
    unfold AudioService.softMuteLevel AudioService.clearSoftMuteLevel at found
    rw [HashMap.lookup_erase_eq] at found
    split at found
    · cases found
    · exact remembers other output level found
  unfold AudioService.writeControl AudioControlState.validate
  by_cases beyond : 100 < state.volume
  · rw [if_pos beyond]
    exact remembers
  rw [if_neg beyond]
  dsimp only
  cases controlHasSwitchLinux refuses host cardId kind with
  | error err => exact remembers
  | ok has =>
    cases has with
    | true => exact remembers
    | false =>
      dsimp only
      split
      · have kept : Remembers (if 0 < state.volume then
            service.setSoftMuteLevel cardId kind state.volume else service) := by
          split
          · rename_i loud
            exact set loud
          · exact remembers
        split <;> exact kept
      · show Remembers (if 0 < state.volume then _ else _)
        split
        · rename_i loud
          exact set loud
        · exact clear

theorem step_remembers {t : AudioService × AlsaHost} (remembers : Remembers t.1) (call : AudioCall) :
    Remembers ((audioMachine tool).step t call).1.1 := by
  cases call with
  | read refuses cardId output => exact remembers
  | write refuses cardId output state => exact writeControl_levels remembers
  | changed host => exact remembers

theorem run_remembers {t : AudioService × AlsaHost} (remembers : Remembers t.1)
    (history : List AudioCall) : Remembers ((audioMachine tool).run t history).1 :=
  Machine.run_invariant (I := fun t : AudioService × AlsaHost => Remembers t.1)
    (fun _ call remembers => step_remembers remembers call) remembers history

theorem remembers_new : Remembers {} := by
  intro cardId kind level found
  cases found

end

/-- After any history the listing shows what reads show if and only if no level is remembered for a
located output that has no separate switch and is at volume zero. -/
theorem listCards_agrees_iff (tool : Amixer) (host : AlsaHost) (history : List AudioCall) :
    let t := (audioMachine tool).run ({}, host) history
    ListsAsRead tool t ↔ ∀ cardId kind own, Located t.2 cardId kind own none → own.volume = 0 →
      t.1.softMuteLevel cardId kind = none :=
  listsAsRead_iff (run_remembers remembers_new history)

/-- A muted output without a switch is listed at volume zero and not muted. -/
theorem listCards_forgets :
    ¬ ListsAsRead .mono ((audioMachine .mono).run ({}, masterHost none)
      [.write .none 0 .speaker ⟨50, true⟩]) := by
  intro agrees
  have silent : Located ((audioMachine .mono).run ({}, masterHost none)
      [.write .none 0 .speaker ⟨50, true⟩]).2 0 .speaker ⟨0, none, UInt8.zero_le⟩ none :=
    ⟨⟨0, "USB Audio", ["Master"]⟩, ⟨"Master", none⟩, rfl, rfl, .single rfl rfl⟩
  have remembers := @run_remembers .mono ({}, masterHost none) remembers_new
    [.write .none 0 .speaker ⟨50, true⟩]
  cases (listsAsRead_iff remembers).mp agrees 0 .speaker _ silent rfl

end Kaonic.Gateway
