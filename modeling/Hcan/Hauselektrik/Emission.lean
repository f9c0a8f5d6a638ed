import Hcan.Hauselektrik.Dispatch

/-!
# What a callback sends

`Follows edge frame next` is what a callback may send while it handles `frame`: the same
switch command along an edge, or a command of a lower rank.  Every callback keeps the part
of the table that decides about the edges, and it ends when the frames that follow end.
-/

namespace Hcan.Hauselektrik

open Hcan.Canix Hcan.Eds Hcan.Controller Hcan.Library Hcan.Library.Nested

variable {mcu : Mcu}

/-- Commands that make a callback switch power groups, switch commands, queries of a chain
of queries, other commands with an answer, and the rest. -/
def commandRank (command : UInt8) : Nat :=
  if command = hcanHesTasterDown ∨ command = hcanHesHeizungWaermebedarfInfo then 4
  else if command = hcanHesPowerGroupOn ∨ command = hcanHesPowerGroupOff then 3
  else if command = hcanHesReedkontaktStateQuery then 2
  else if command ∈ [hcanHesReedkontaktStateReplay, hcanHesPowerGroupStateQuery,
      hcanHesPowerGroupTimerQuery, hcanHesRolladenPositionRequest, hcanHes1wireTemperatureQuery,
      hcanHesHeizungDetailsRequest, hcanHesHeizungTistRequest, hcanHesHeizungSolltempLineRequest,
      hcanHesHeizungSolltempWriteLine, hcanHesWeckerSet, hcanHesWeckerDetailsRequest,
      hcanHesConfigRamUsageRequest, hcanHesZeitzoneDetailsRequest, hcanHesZeitzoneWriteDetails,
      hcanHesZeitzoneTestMatchRequest] then 1
  else 0

/-- Commands that no callback sends because it handles another frame. -/
def isExternal (command : UInt8) : Bool :=
  command == hcanHesWeckerSet || command == hcanHesConfigReload || command == hcanHes1wireDiscover

/-- A command that may be sent while `command` is handled, whatever the groups are. -/
def lowerCommand (command next : UInt8) : Bool :=
  decide (commandRank next < commandRank command) && !isExternal next &&
    (command != hcanHesPowerGroupOff || next == hcanHesPowerGroupStateInfo)

structure Follows (edge : UInt8 → UInt8 → Prop) (frame next : CanixFrame) : Prop where
  srv : next.data[0] = hcanSrvHes
  command : lowerCommand frame.data[1] next.data[1] = true ∨
    commandRank frame.data[1] = 3 ∧ next.data[1] = frame.data[1] ∧
      edge frame.data[2] next.data[2]

/-- An answer of a lower rank. -/
theorem follows_lower {edge : UInt8 → UInt8 → Prop} {frame : CanixFrame} {command : UInt8}
    (handled : frame.data[1] = command) {self dst : UInt16}
    {size answer d2 d3 d4 d5 d6 d7 : UInt8} (lower : lowerCommand command answer = true) :
    Follows edge frame (hesFrame self dst size answer d2 d3 d4 d5 d6 d7) where
  srv := rfl
  command := .inl (by rw [handled]; exact lower)

inductive Skeleton where
  | automat (config : EdsPowerportAutomatBlock)
  | powerport (bistable : Bool)
  | other
  deriving DecidableEq, Repr

def skeleton : Device → Skeleton
  | .powerportAutomat p => .automat p.config
  | .powerport p => .powerport (p.hasFeature powerportFeatureBistableRelais)
  | _ => .other

/-- The table has this skeleton. -/
def HasSkeleton (parts : List Skeleton) (b : Board mcu) : Prop := b.devices.map skeleton = parts

section Rules

variable {must : Prop} {parts : List Skeleton} {α : Type}

theorem skeleton_onRecord {ρ : Type} [DeviceRecord ρ] {f : ρ → ρ}
    (same : ∀ p, skeleton (DeviceRecord.wrap (f p)) = skeleton (DeviceRecord.wrap p))
    (device : Device) : skeleton (onRecord f device) = skeleton device := by
  unfold onRecord
  cases found : DeviceRecord.select (ρ := ρ) device with
  | none => rfl
  | some p => rw [same, DeviceRecord.wrap_of_select device p found]

theorem map_modify_of_same {β γ : Type} {g : β → γ} {f : β → β} (same : ∀ x, g (f x) = g x)
    (items : List β) (i : Nat) : (items.modify i f).map g = items.map g := by
  apply List.ext_getElem?
  intro k
  rw [List.getElem?_map, List.getElem?_map, List.getElem?_modify]
  cases items[k]? with
  | none => rfl
  | some x =>
      by_cases here : i = k
      · simp [here, same]
      · simp [here]

theorem keeps_poke {ρ : Type} [DeviceRecord ρ] {i : Nat} {f : ρ → ρ}
    (same : ∀ p, skeleton (DeviceRecord.wrap (f p)) = skeleton (DeviceRecord.wrap p)) :
    Keeps must (HasSkeleton parts) (poke i f : OnBoard mcu Unit) := by
  apply keeps_modify
  intro b kept
  exact (map_modify_of_same (skeleton_onRecord same) b.devices i).trans kept

theorem keeps_setpin {port : UInt8} {state : Bool} :
    Keeps must (HasSkeleton parts) (setpin port state : OnBoard mcu Unit) :=
  keeps_modify fun _ kept => kept

theorem keeps_eepromWrite {address : Nat} {value : UInt8} :
    Keeps must (HasSkeleton parts) (eepromWrite address value : OnBoard mcu Unit) :=
  keeps_modify fun _ kept => kept

theorem keeps_unit : Keeps must (HasSkeleton parts) (pure () : OnBoard mcu Unit) := keeps_pure ()

theorem keeps_readBoard {g : Board mcu → α} {f : α → OnBoard mcu Unit}
    (rest : ∀ a, Keeps must (HasSkeleton parts) (f a)) :
    Keeps must (HasSkeleton parts) (Nested.read g >>= f) :=
  keeps_read_bind fun b _ => rest (g b)

/-- A record that is read again is still a record with a skeleton of the table. -/
theorem keeps_deref {ρ : Type} [DeviceRecord ρ] {i : Nat} {p : ρ} {f : ρ → OnBoard mcu α}
    (here : skeleton (DeviceRecord.wrap p) ∈ parts)
    (rest : ∀ q : ρ, skeleton (DeviceRecord.wrap q) ∈ parts →
      Keeps must (HasSkeleton parts) (f q)) :
    Keeps must (HasSkeleton parts) (deref i p >>= f) := by
  apply keeps_read_bind
  intro b kept
  cases found : b.devices[i]?.bind (DeviceRecord.select (ρ := ρ)) with
  | none => exact rest p here
  | some q =>
      apply rest q
      obtain ⟨device, slot, selected⟩ := Option.bind_eq_some_iff.mp found
      rw [DeviceRecord.wrap_of_select device q selected, ← kept]
      exact List.mem_map_of_mem (List.mem_of_getElem? slot)

end Rules

/-! ## The callbacks -/

section Callbacks

variable {must : Prop} {parts : List Skeleton} {edge : UInt8 → UInt8 → Prop}
variable {self : UInt16} {send : CanixFrame → OnBoard mcu Unit} {frame : CanixFrame}

theorem powerportAutomat_keeps {i : Nat} {p : DeviceDataPowerportAutomat}
    (ends : ∀ next, Follows edge frame next → Keeps must (HasSkeleton parts) (send next))
    (edgeHere : p.config.stellerGruppe ≠ p.config.automatikEinSchalterGruppe →
      edge p.config.stellerGruppe p.config.powerportGruppe) :
    Keeps must (HasSkeleton parts) (powerportAutomatCanCallback self send i p frame) := by
  have message : ∀ active, frame.data[1] = active → commandRank active = 3 →
      frame.data[2] ≠ p.config.automatikEinSchalterGruppe →
      frame.data[2] = p.config.stellerGruppe →
      Keeps must (HasSkeleton parts) (powerportAutomatSendMessage self send p active) := by
    intro active command isSwitch notAuto steller
    apply keeps_ite
    · exact fun _ => keeps_unit
    · intro _
      apply ends
      constructor
      · rfl
      · refine .inr ⟨by rw [command, isSwitch], command.symm, ?_⟩
        rw [steller]
        exact edgeHere (steller ▸ notAuto)
  have switch : ∀ active (change : DeviceDataPowerportAutomat → DeviceDataPowerportAutomat),
      (∀ q, skeleton (DeviceRecord.wrap (change q)) = skeleton (DeviceRecord.wrap q)) →
      commandRank active = 3 → frame.data[1] = active →
      Keeps must (HasSkeleton parts)
        (if frame.data[2] = p.config.automatikEinSchalterGruppe then poke i change
        else if frame.data[2] = p.config.stellerGruppe then
          powerportAutomatSendMessage self send p active
        else pure () : OnBoard mcu Unit) := by
    intro active change same isSwitch command
    apply keeps_ite
    · exact fun _ => keeps_poke same
    · intro notAuto
      apply keeps_ite
      · exact message active command isSwitch notAuto
      · exact fun _ => keeps_unit
  apply keeps_ite
  · exact switch _ _ (fun _ => rfl) (by decide)
  · intro _
    apply keeps_ite
    · exact switch _ _ (fun _ => rfl) (by decide)
    · intro _
      apply keeps_ite
      · intro _
        apply keeps_ite
        · exact fun _ => keeps_poke fun _ => rfl
        · exact fun _ => keeps_unit
      · exact fun _ => keeps_unit

theorem rolladenAutomat_keeps {i : Nat} {p : DeviceDataRolladenAutomat} :
    Keeps must (HasSkeleton parts) (rolladenAutomatCanCallback i p frame : OnBoard mcu Unit) := by
  unfold rolladenAutomatCanCallback
  repeat' first
    | exact keeps_poke fun _ => rfl
    | exact keeps_unit
    | (apply keeps_ite <;> intro _)

theorem zeitschaltuhr_keeps {i : Nat} {p : DeviceDataZeitschaltuhr} :
    Keeps must (HasSkeleton parts) (zeitschaltuhrCanCallback i p frame : OnBoard mcu Unit) := by
  unfold zeitschaltuhrCanCallback
  repeat' first
    | exact keeps_poke fun _ => rfl
    | exact keeps_unit
    | (apply keeps_ite <;> intro _)

theorem informActionGroups_keeps {i : Nat} {p : DeviceDataLichtzone}
    (ends : ∀ next, Follows edge frame next → Keeps must (HasSkeleton parts) (send next))
    (command : frame.data[1] = hcanHesTasterDown)
    (here : skeleton (DeviceRecord.wrap p) ∈ parts) :
    Keeps must (HasSkeleton parts) (informActionGroups self send i p) := by
  apply keeps_forM
  intro group _
  apply keeps_ite
  · intro _
    apply keeps_deref here
    intro q _
    apply ends
    by_cases on : q.state ≠ .off
    · rw [if_pos on]
      exact follows_lower command (by decide)
    · rw [if_neg on]
      exact follows_lower command (by decide)
  · exact fun _ => keeps_unit

theorem lichtzoneUmschalten_keeps {i : Nat} {p : DeviceDataLichtzone}
    (ends : ∀ next, Follows edge frame next → Keeps must (HasSkeleton parts) (send next))
    (command : frame.data[1] = hcanHesTasterDown)
    (here : skeleton (DeviceRecord.wrap p) ∈ parts) :
    Keeps must (HasSkeleton parts) (lichtzoneUmschalten self send i p) := by
  have inform : Keeps must (HasSkeleton parts) (informActionGroups self send i p) :=
    informActionGroups_keeps ends command here
  apply keeps_ite
  · intro _
    cases p.state with
    | off => exact keeps_bind (keeps_poke fun _ => rfl) fun _ => inform
    | on => exact keeps_poke fun _ => rfl
    | onExt => exact keeps_bind (keeps_poke fun _ => rfl) fun _ => inform
  · exact fun _ => keeps_bind (keeps_poke fun _ => rfl) fun _ => inform

/-- By induction on the groups that are still to be compared. -/
theorem lichtzoneToggle_keeps {i : Nat} {p : DeviceDataLichtzone} {taster : UInt8}
    (ends : ∀ next, Follows edge frame next → Keeps must (HasSkeleton parts) (send next))
    (command : frame.data[1] = hcanHesTasterDown)
    (here : skeleton (DeviceRecord.wrap p) ∈ parts) (groups : List UInt8) :
    Keeps must (HasSkeleton parts) (lichtzoneToggle self send i p taster groups) := by
  induction groups with
  | nil => exact keeps_pure false
  | cons group groups ih =>
      apply keeps_ite
      · intro _
        apply keeps_deref here
        intro q still
        apply keeps_ite
        · intro _
          apply keeps_bind
          · exact keeps_poke fun _ => rfl
          intro _
          apply keeps_bind (informActionGroups_keeps ends command here)
          exact fun _ => keeps_pure true
        · intro _
          apply keeps_bind (lichtzoneUmschalten_keeps ends command still)
          exact fun _ => ih
      · exact fun _ => ih

theorem lichtzoneTasterDown_keeps {i : Nat} {p : DeviceDataLichtzone} {taster : UInt8}
    (ends : ∀ next, Follows edge frame next → Keeps must (HasSkeleton parts) (send next))
    (command : frame.data[1] = hcanHesTasterDown)
    (here : skeleton (DeviceRecord.wrap p) ∈ parts) :
    Keeps must (HasSkeleton parts) (lichtzoneTasterDown self send i p taster) := by
  have inform : Keeps must (HasSkeleton parts) (informActionGroups self send i p) :=
    informActionGroups_keeps ends command here
  unfold lichtzoneTasterDown
  apply keeps_bind
  · exact keeps_poke fun _ => rfl
  intro _
  apply keeps_bind (lichtzoneToggle_keeps ends command here _)
  intro returned
  apply keeps_ite
  · exact fun _ => keeps_unit
  · intro _
    apply keeps_bind
    · apply keeps_forM
      intro group _
      apply keeps_ite
      · exact fun _ => keeps_bind (keeps_poke fun _ => rfl) fun _ => inform
      · exact fun _ => keeps_unit
    · intro _
      apply keeps_forM
      intro group _
      apply keeps_ite
      · exact fun _ => keeps_bind (keeps_poke fun _ => rfl) fun _ => inform
      · exact fun _ => keeps_unit

theorem lichtzone_keeps {i : Nat} {p : DeviceDataLichtzone}
    (ends : ∀ next, Follows edge frame next → Keeps must (HasSkeleton parts) (send next))
    (here : skeleton (DeviceRecord.wrap p) ∈ parts) :
    Keeps must (HasSkeleton parts) (lichtzoneCanCallback self send i p frame) := by
  apply keeps_ite
  · exact fun command => lichtzoneTasterDown_keeps ends command here
  intro _
  apply keeps_ite
  · exact fun _ => keeps_poke fun _ => rfl
  intro _
  apply keeps_ite
  · exact fun _ => keeps_poke fun _ => rfl
  intro _
  apply keeps_ite
  · intro command
    apply keeps_ite
    · exact fun _ => ends _ (follows_lower command (by decide))
    · exact fun _ => keeps_unit
  intro _
  apply keeps_ite
  · intro _
    apply keeps_ite
    · exact fun _ => keeps_poke fun _ => rfl
    · exact fun _ => keeps_unit
  · exact fun _ => keeps_unit

theorem powerportSendStateInfo_keeps {i : Nat} {p : DeviceDataPowerport}
    (ends : ∀ next, Follows edge frame next → Keeps must (HasSkeleton parts) (send next))
    (lower : lowerCommand frame.data[1] hcanHesPowerGroupStateInfo = true)
    (here : skeleton (DeviceRecord.wrap p) ∈ parts) :
    Keeps must (HasSkeleton parts) (powerportSendStateInfo self send i p) := by
  apply keeps_deref here
  intro q _
  apply keeps_readBoard
  intro out
  exact ends _ (follows_lower rfl lower)

/-- No power port of the table is bistable. -/
def Monostable (parts : List Skeleton) : Prop :=
  ∀ bistable, .powerport bistable ∈ parts → bistable = false

theorem relaisOn_keeps {sleep : OnBoard mcu Unit} {i : Nat} {p : DeviceDataPowerport}
    (ends : ∀ next, Follows edge frame next → Keeps must (HasSkeleton parts) (send next))
    (lower : lowerCommand frame.data[1] hcanHesPowerGroupStateInfo = true)
    (monostable : Monostable parts) (here : skeleton (DeviceRecord.wrap p) ∈ parts) :
    Keeps must (HasSkeleton parts) (relaisOn self send sleep i p) := by
  apply keeps_deref here
  intro q still
  apply keeps_bind
  · apply keeps_ite
    · intro bistable
      rw [monostable _ still] at bistable
      cases bistable
    · exact fun _ => keeps_setpin
  · exact fun _ => powerportSendStateInfo_keeps ends lower here

theorem setPowerportOrTimer_keeps {sleep : OnBoard mcu Unit} {i : Nat} {p : DeviceDataPowerport}
    {flanke : Flanke}
    (ends : ∀ next, Follows edge frame next → Keeps must (HasSkeleton parts) (send next))
    (lower : lowerCommand frame.data[1] hcanHesPowerGroupStateInfo = true)
    (monostable : flanke = .steigende → Monostable parts)
    (here : skeleton (DeviceRecord.wrap p) ∈ parts) :
    Keeps must (HasSkeleton parts) (setPowerportOrTimer self send sleep i p flanke) := by
  cases flanke with
  | steigende =>
      have on : Keeps must (HasSkeleton parts) (relaisOn self send sleep i p) :=
        relaisOn_keeps ends lower (monostable rfl) here
      apply keeps_ite
      · intro _
        apply keeps_bind on
        exact fun _ => keeps_poke fun _ => rfl
      · intro _
        apply keeps_ite
        · exact fun _ => keeps_poke fun _ => rfl
        · intro _
          apply keeps_bind on
          exact fun _ => keeps_poke fun _ => rfl
  | fallende =>
      apply keeps_ite
      · exact fun _ => keeps_poke fun _ => rfl
      · intro _
        apply keeps_bind
        · apply keeps_bind
          · exact keeps_setpin
          · exact fun _ => powerportSendStateInfo_keeps ends lower here
        · exact fun _ => keeps_poke fun _ => rfl

/-- Another bit than the lowest leaves the lowest bit. -/
theorem setFeature_bistable {feature bit : UInt8} (other : bit ≠ 0) :
    (setFeature feature bit).toNat.testBit powerportFeatureBistableRelais =
      feature.toNat.testBit powerportFeatureBistableRelais := by
  unfold setFeature powerportFeatureBistableRelais
  split
  case isFalse => rfl
  case isTrue small =>
    have positive : bit.toNat ≠ 0 := fun zero => other (UInt8.toNat_inj.mp zero)
    have shifted : ∀ k : Fin 8, k ≠ 0 →
        ((1 : UInt8) <<< UInt8.ofNat k).toNat.testBit 0 = false := by
      decide
    have same : UInt8.ofNat bit.toNat = bit := UInt8.ofNat_toNat
    have clear := shifted ⟨bit.toNat, small⟩ fun zero => positive (congrArg Fin.val zero)
    rw [same] at clear
    rw [UInt8.toNat_or, Nat.testBit_or, clear, Bool.or_false]

/-- No relay of a bistable power port is switched on while the frame is handled. -/
def Calm (parts : List Skeleton) (frame : CanixFrame) : Prop :=
  frame.data[1] ∈ [hcanHesTasterDown, hcanHesPowerGroupOn, hcanHesWeckerSet] →
    Monostable parts ∧ (frame.data[1] = hcanHesWeckerSet → frame.data[3] ≠ 0)

theorem powerport_keeps {sleep : OnBoard mcu Unit} {i : Nat} {p : DeviceDataPowerport}
    (ends : ∀ next, Follows edge frame next → Keeps must (HasSkeleton parts) (send next))
    (calm : Calm parts frame) (here : skeleton (DeviceRecord.wrap p) ∈ parts) :
    Keeps must (HasSkeleton parts) (powerportCanCallback self send sleep i p frame) := by
  have switches : ∀ {command : UInt8}, frame.data[1] = command →
      command ∈ [hcanHesTasterDown, hcanHesPowerGroupOn, hcanHesWeckerSet] →
      frame.data[1] ∈ [hcanHesTasterDown, hcanHesPowerGroupOn, hcanHesWeckerSet] :=
    fun same listed => same ▸ listed
  apply keeps_ite
  case no => exact fun _ => keeps_unit
  intro _
  apply keeps_ite
  · intro command
    have monostable := (calm (switches command (by decide))).1
    have lower : lowerCommand frame.data[1] hcanHesPowerGroupStateInfo = true := by
      rw [command]
      decide
    apply keeps_readBoard
    intro out
    apply keeps_ite
    · exact fun _ => setPowerportOrTimer_keeps ends lower (fun _ => monostable) here
    · exact fun _ => setPowerportOrTimer_keeps ends lower (fun _ => monostable) here
  intro _
  apply keeps_ite
  · intro command
    apply setPowerportOrTimer_keeps ends
    · rw [command]
      decide
    · exact fun _ => (calm (switches command (by decide))).1
    · exact here
  intro _
  apply keeps_ite
  · intro command
    apply setPowerportOrTimer_keeps ends
    · rw [command]
      decide
    · exact fun impossible => nomatch impossible
    · exact here
  intro _
  apply keeps_ite
  · intro command
    apply keeps_readBoard
    intro out
    exact ends _ (follows_lower command (by decide))
  intro _
  apply keeps_ite
  · intro command
    obtain ⟨monostable, bit⟩ := calm (switches command (by decide))
    apply keeps_ite
    case no => exact fun _ => keeps_unit
    intro _
    apply keeps_bind
    · apply keeps_poke
      intro q
      exact congrArg Skeleton.powerport (setFeature_bistable (bit command))
    intro _
    apply keeps_deref here
    intro q still
    apply keeps_ite
    · intro _
      apply relaisOn_keeps ends _ monostable here
      rw [command]
      decide
    · exact fun _ => keeps_unit
  intro _
  apply keeps_ite
  · intro command
    apply keeps_ite
    · exact fun _ => ends _ (follows_lower command (by decide))
    · exact fun _ => keeps_unit
  · exact fun _ => keeps_unit

theorem heizungWriteLine_keeps {i : Nat} {p : DeviceDataHeizung} {idx : Fin 8}
    (ends : ∀ next, Follows edge frame next → Keeps must (HasSkeleton parts) (send next))
    (command : frame.data[1] = hcanHesHeizungSolltempWriteLine) :
    Keeps must (HasSkeleton parts) (heizungWriteLine self send i p frame idx) := by
  apply keeps_readBoard
  intro type
  apply keeps_ite
  · intro _
    apply keeps_bind
    · exact keeps_poke fun _ => rfl
    intro _
    apply keeps_bind keeps_eepromWrite
    intro _
    apply keeps_bind keeps_eepromWrite
    exact fun _ => ends _ (follows_lower command (by decide))
  · exact fun _ => keeps_unit

/-- The answer to a details request is one of the four details commands. -/
theorem heizungDetails_follows {b : Board mcu} {p : DeviceDataHeizung}
    (command : frame.data[1] = hcanHesHeizungDetailsRequest) :
    Follows edge frame (heizungDetails self b p frame) := by
  unfold heizungDetails
  cases p.mode with
  | off => exact follows_lower command (by decide)
  | manual => exact follows_lower command (by decide)
  | thermostat => exact follows_lower command (by decide)
  | automatik =>
      cases heizungMatchingLine b p with
      | none => exact follows_lower command (by decide)
      | some line => exact follows_lower command (by decide)

theorem heizung_keeps {i : Nat} {p : DeviceDataHeizung}
    (ends : ∀ next, Follows edge frame next → Keeps must (HasSkeleton parts) (send next)) :
    Keeps must (HasSkeleton parts) (heizungCanCallback self send i p frame) := by
  have changed : ∀ f : DeviceDataHeizung → DeviceDataHeizung,
      Keeps must (HasSkeleton parts) (poke i f : OnBoard mcu Unit) :=
    fun f => keeps_poke fun _ => rfl
  unfold heizungCanCallback
  dsimp only
  apply keeps_ite
  · exact fun _ => keeps_ite (fun _ => changed _) fun _ => keeps_unit
  intro _
  apply keeps_ite
  · exact fun _ => keeps_ite (fun _ => changed _) fun _ => keeps_unit
  intro _
  apply keeps_ite
  case no => exact fun _ => keeps_unit
  intro _
  apply keeps_ite
  · exact fun _ => changed _
  intro _
  apply keeps_ite
  · exact fun _ => changed _
  intro _
  apply keeps_ite
  · exact fun _ => changed _
  intro _
  apply keeps_ite
  · exact fun _ => changed _
  intro _
  apply keeps_ite
  · intro command
    apply keeps_read_bind
    intro b _
    exact ends _ (heizungDetails_follows command)
  intro _
  apply keeps_ite
  · exact fun command => ends _ (follows_lower command (by decide))
  intro _
  apply keeps_ite
  · intro command
    apply keeps_dite
    · exact fun _ => ends _ (follows_lower command (by decide))
    · exact fun _ => keeps_unit
  intro _
  apply keeps_ite
  · intro command
    apply keeps_dite
    · exact fun _ => heizungWriteLine_keeps ends command
    · exact fun _ => keeps_unit
  · exact fun _ => keeps_unit

theorem zeitzoneWriteDetails_keeps {i : Nat} {p : DeviceDataZeitzone}
    (ends : ∀ next, Follows edge frame next → Keeps must (HasSkeleton parts) (send next))
    (command : frame.data[1] = hcanHesZeitzoneWriteDetails) :
    Keeps must (HasSkeleton parts) (zeitzoneWriteDetails self send i p frame) := by
  apply keeps_readBoard
  intro type
  apply keeps_ite
  · intro _
    apply keeps_bind
    · exact keeps_poke fun _ => rfl
    intro _
    apply keeps_bind keeps_eepromWrite
    intro _
    apply keeps_bind keeps_eepromWrite
    intro _
    apply keeps_bind keeps_eepromWrite
    intro _
    apply keeps_bind keeps_eepromWrite
    intro _
    apply keeps_bind keeps_eepromWrite
    exact fun _ => ends _ (follows_lower command (by decide))
  · exact fun _ => keeps_unit

theorem zeitzone_keeps {i : Nat} {p : DeviceDataZeitzone}
    (ends : ∀ next, Follows edge frame next → Keeps must (HasSkeleton parts) (send next)) :
    Keeps must (HasSkeleton parts) (zeitzoneCanCallback self send i p frame) := by
  apply keeps_ite
  case no => exact fun _ => keeps_unit
  intro _
  apply keeps_ite
  · exact fun command => ends _ (follows_lower command (by decide))
  intro _
  apply keeps_ite
  · exact fun command => zeitzoneWriteDetails_keeps ends command
  intro _
  apply keeps_ite
  · intro command
    apply keeps_readBoard
    exact fun _ => ends _ (follows_lower command (by decide))
  · exact fun _ => keeps_unit

theorem zentralheizungspumpe_keeps {i : Nat} {p : DeviceDataZentralheizungspumpe}
    (ends : ∀ next, Follows edge frame next → Keeps must (HasSkeleton parts) (send next)) :
    Keeps must (HasSkeleton parts) (zentralheizungspumpeCanCallback self send i p frame) := by
  apply keeps_ite
  case no => exact fun _ => keeps_unit
  intro command
  apply keeps_bind
  · exact keeps_poke fun _ => rfl
  intro _
  apply keeps_ite
  · exact fun _ => ends _ (follows_lower command (by decide))
  intro _
  apply keeps_ite
  · exact fun _ => ends _ (follows_lower command (by decide))
  · exact fun _ => keeps_unit

theorem tempsensor_keeps {p : DeviceDataTempsensor}
    (ends : ∀ next, Follows edge frame next → Keeps must (HasSkeleton parts) (send next)) :
    Keeps must (HasSkeleton parts) (tempsensorCanCallback self send p frame) := by
  apply keeps_ite
  · exact fun asked => ends _ (follows_lower asked.1 (by decide))
  · exact fun _ => keeps_unit

theorem dunstabzugportEin_keeps {i : Nat} {p : DeviceDataDunstabzugport} {seconds : UInt16} :
    Keeps must (HasSkeleton parts) (dunstabzugportEin i p seconds : OnBoard mcu Unit) := by
  apply keeps_bind
  · exact keeps_poke fun _ => rfl
  · exact fun _ => keeps_setpin

theorem dunstabzugportStateChange_keeps {i : Nat} {p : DeviceDataDunstabzugport}
    {reedGruppe : UInt8} {other : Bool} :
    Keeps must (HasSkeleton parts)
      (dunstabzugportStateChange i p frame reedGruppe other : OnBoard mcu Unit) := by
  apply keeps_ite
  case no => exact fun _ => keeps_unit
  intro _
  apply keeps_ite
  · exact fun _ => dunstabzugportEin_keeps
  intro _
  apply keeps_ite
  · intro _
    apply keeps_bind
    · exact keeps_poke fun _ => rfl
    · exact fun _ => keeps_setpin
  · exact fun _ => keeps_unit

theorem dunstabzugport_keeps {i : Nat} {p : DeviceDataDunstabzugport} :
    Keeps must (HasSkeleton parts) (dunstabzugportCanCallback i p frame : OnBoard mcu Unit) := by
  apply keeps_ite
  · intro _
    apply keeps_ite
    · intro _
      apply keeps_bind
      · exact keeps_poke fun _ => rfl
      · exact fun _ => dunstabzugportEin_keeps
    intro _
    apply keeps_ite
    · intro _
      apply keeps_bind
      · exact keeps_poke fun _ => rfl
      · exact fun _ => dunstabzugportEin_keeps
    · exact fun _ => keeps_unit
  intro _
  apply keeps_ite
  · intro _
    apply keeps_bind
    · exact dunstabzugportStateChange_keeps
    · exact fun _ => dunstabzugportStateChange_keeps
  intro _
  apply keeps_ite
  · intro _
    apply keeps_ite
    · exact fun _ => dunstabzugportEin_keeps
    · exact fun _ => keeps_unit
  · exact fun _ => keeps_unit

theorem reedkontakt_keeps {p : DeviceDataReedkontakt}
    (ends : ∀ next, Follows edge frame next → Keeps must (HasSkeleton parts) (send next)) :
    Keeps must (HasSkeleton parts) (reedkontaktCanCallback self send p frame) := by
  apply keeps_ite
  · intro asked
    apply keeps_readBoard
    exact fun _ => ends _ (follows_lower asked.2 (by decide))
  · exact fun _ => keeps_unit

theorem rolladenSchlitzposFahren_keeps {p : DeviceDataRolladenSchlitzpos} {offen : Bool}
    (ends : ∀ next, Follows edge frame next → Keeps must (HasSkeleton parts) (send next))
    (command : frame.data[1] = hcanHesReedkontaktStateReplay) :
    Keeps must (HasSkeleton parts) (rolladenSchlitzposFahren self send p offen) := by
  apply keeps_ite
  · intro _
    apply keeps_ite
    · exact fun _ => ends _ (follows_lower command (by decide))
    · exact fun _ => keeps_unit
  intro _
  apply keeps_ite
  · exact fun _ => ends _ (follows_lower command (by decide))
  · exact fun _ => keeps_unit

theorem rolladenSchlitzpos_keeps {i : Nat} {p : DeviceDataRolladenSchlitzpos}
    (ends : ∀ next, Follows edge frame next → Keeps must (HasSkeleton parts) (send next)) :
    Keeps must (HasSkeleton parts) (rolladenSchlitzposCanCallback self send i p frame) := by
  unfold rolladenSchlitzposCanCallback
  dsimp only
  apply keeps_ite
  · intro _
    apply keeps_ite
    · exact fun _ => keeps_poke fun _ => rfl
    · exact fun _ => keeps_unit
  intro _
  apply keeps_ite
  · intro _
    apply keeps_ite
    · exact fun _ => keeps_poke fun _ => rfl
    · exact fun _ => keeps_unit
  intro _
  apply keeps_ite
  case no => exact fun _ => keeps_unit
  intro command
  apply keeps_ite
  case no => exact fun _ => keeps_unit
  intro _
  apply keeps_ite
  · exact fun _ => rolladenSchlitzposFahren_keeps ends command
  intro _
  apply keeps_ite
  · exact fun _ => keeps_poke fun _ => rfl
  · intro _
    apply keeps_bind (rolladenSchlitzposFahren_keeps ends command)
    exact fun _ => keeps_poke fun _ => rfl

/-- Only a position request is answered by a shutter. -/
theorem rolladen_answer {byZero : Int → Int} {p : DeviceDataRolladen} {answer : CanixFrame}
    (sent : (rolladenCanCallback byZero self p frame).2 = some answer) :
    Follows edge frame answer := by
  unfold rolladenCanCallback at sent
  dsimp only at sent
  by_cases down : frame.data[1] = hcanHesTasterDown
  · rw [if_pos down] at sent
    cases sent
  rw [if_neg down] at sent
  by_cases up : frame.data[1] = hcanHesTasterUp
  · rw [if_pos up] at sent
    cases sent
  rw [if_neg up] at sent
  by_cases set : frame.data[1] = hcanHesRolladenPositionSet
  · rw [if_pos set] at sent
    cases sent
  rw [if_neg set] at sent
  by_cases define_ : frame.data[1] = hcanHesRolladenDefinePosition
  · rw [if_pos define_] at sent
    cases sent
  rw [if_neg define_] at sent
  by_cases request : frame.data[1] = hcanHesRolladenPositionRequest
  · rw [if_pos request] at sent
    dsimp only at sent
    split at sent
    · cases sent
      exact follows_lower request (by decide)
    · cases sent
  · rw [if_neg request] at sent
    cases sent

theorem rolladen_keeps {byZero : Int → Int} {i : Nat} {p : DeviceDataRolladen}
    (ends : ∀ next, Follows edge frame next → Keeps must (HasSkeleton parts) (send next)) :
    Keeps must (HasSkeleton parts) (rolladenCallback self send byZero i p frame) := by
  apply keeps_bind
  · exact keeps_poke fun _ => rfl
  intro _
  cases sent : (rolladenCanCallback byZero self p frame).2 with
  | some answer => exact ends answer (rolladen_answer sent)
  | none => exact keeps_unit

theorem multitaster_keeps {i : Nat} {p : DeviceDataMultitaster} :
    Keeps must (HasSkeleton parts) (multitasterCanCallback i p frame : OnBoard mcu Unit) := by
  apply keeps_ite
  case no => exact fun _ => keeps_unit
  intro _
  dsimp only
  split
  · exact keeps_poke fun _ => rfl
  · exact keeps_unit

theorem tastdimmer_keeps {p : DeviceDataTastdimmer} :
    Keeps must (HasSkeleton parts) (tastdimmerCanCallback p frame : OnBoard mcu Unit) := by
  apply keeps_ite
  case no => exact fun _ => keeps_unit
  intro _
  apply keeps_ite
  · exact fun _ => keeps_setpin
  intro _
  apply keeps_ite
  · exact fun _ => keeps_setpin
  · exact fun _ => keeps_unit

end Callbacks

end Hcan.Hauselektrik
