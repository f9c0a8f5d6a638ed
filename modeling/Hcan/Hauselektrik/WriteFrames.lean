import Hcan.Hauselektrik.Load

/-!
# Frames that write the configuration

What HEIZUNG_SOLLTEMP_WRITE_LINE and ZEITZONE_WRITE_DETAILS do to a board, as a function of
the board.  A matching record and its EDS block are rewritten and the answer is sent; the
local delivery of the answer changes nothing, so that one device is handled after the other.
-/

namespace Hcan.Hauselektrik

open Hcan.Canix Hcan.Eds Hcan.Controller Hcan.Library Hcan.Library.Nested

variable {mcu : Mcu}

/-- A frame that writes the configuration, of the length that the protocol gives it. -/
structure IsWriteFrame (frame : CanixFrame) : Prop where
  proto : frame.proto = hcanProtoSfp
  srv : frame.data[0] = hcanSrvHes
  command : frame.data[1] = hcanHesHeizungSolltempWriteLine ∧ 7 ≤ frame.size ∨
    frame.data[1] = hcanHesZeitzoneWriteDetails ∧ 8 ≤ frame.size

def ackCommands : List UInt8 := [hcanHesHeizungSolltempWriteLineAck, hcanHesZeitzoneWriteDetailsAck]

def configCommands : List UInt8 :=
  hcanHesHeizungSolltempWriteLine :: hcanHesZeitzoneWriteDetails :: ackCommands

theorem IsWriteFrame.config {frame : CanixFrame} (write : IsWriteFrame frame) :
    frame.data[1] ∈ configCommands := by
  rcases write.command with ⟨line, -⟩ | ⟨details, -⟩
  · rw [line]
    exact List.mem_cons_self
  · rw [details]
    exact List.mem_cons_of_mem _ List.mem_cons_self

/-- What a frame writes: the block and the type that it must have, the bytes with their
offsets from the header, the new record and the answer. -/
structure Rewrite where
  it : Nat
  type : UInt8
  writes : List (Nat × UInt8)
  device : Device
  ack : CanixFrame

/-- A heating writes the temperature of a line, a time zone all bytes behind its group. -/
def rewriteOf (self : UInt16) (frame : CanixFrame) : Device → Option Rewrite
  | .heizung p =>
      if frame.data[1] = hcanHesHeizungSolltempWriteLine ∧ p.config.id = frame.data[2] then
        if index : frame.data[3].toNat < 8 then
          let temp := frameWord frame.data[4] frame.data[5]
          some {
            it := p.it
            type := edsHeizungBlockId
            writes := [(6 + frame.data[3].toNat * 3 + 1, wordLo temp),
              (6 + frame.data[3].toNat * 3 + 1 + 1, wordHi temp)]
            device := .heizung { p with config := p.config.setTemp ⟨_, index⟩ temp }
            ack := hesFrame self frame.src 4 hcanHesHeizungSolltempWriteLineAck p.config.id
              (UInt8.ofNat frame.data[3].toNat) 0 0 0 0 }
        else none
      else none
  | .zeitzone p =>
      if frame.data[1] = hcanHesZeitzoneWriteDetails ∧ frame.data[2] = p.config.gruppe then
        some {
          it := p.it
          type := edsZeitzoneBlockId
          writes := [(3, frame.data[3]), (4, frame.data[4]), (5, frame.data[5]),
            (6, frame.data[6]), (7, frame.data[7])]
          device := .zeitzone { p with config := zeitzoneDetails frame p.config }
          ack := hesFrame self frame.src 3 hcanHesZeitzoneWriteDetailsAck p.config.gruppe
            0 0 0 0 0 }
      else none
  | _ => none

def writeBlock (ee : Eeprom mcu) (it : Nat) (writes : List (Nat × UInt8)) : Eeprom mcu :=
  writes.foldl (fun ee write => eepromWriteByte ee (ptrAdd it write.1) write.2) ee

def applyRewrite (b : Board mcu) (i : Nat) (r : Rewrite) : Board mcu :=
  if r.it ≠ 0 ∧ edsBlockType b.eeprom r.it = r.type then
    { b with
      devices := b.devices.set i r.device
      eeprom := writeBlock b.eeprom r.it r.writes
      sent := b.sent ++ [r.ack] }
  else b

/-- The effect of a frame on the device at an index. -/
def deviceWrite (self : UInt16) (frame : CanixFrame) (b : Board mcu) (i : Nat) : Board mcu :=
  match b.devices[i]?.bind (rewriteOf self frame) with
  | some r => applyRewrite b i r
  | none => b

/-- The effect of a frame on the board. -/
def configWrite (self : UInt16) (frame : CanixFrame) (b : Board mcu) : Board mcu :=
  if hauselektrikAccepts self frame then
    (List.range (maxPdeviceData mcu)).foldl (deviceWrite self frame) b
  else b

section Ignored

variable {self : UInt16} {send : CanixFrame → OnBoard mcu Unit} {frame : CanixFrame} {i : Nat}

theorem ne_of_config {command other : UInt8} (config : command ∈ configCommands)
    (unknown : other ∉ configCommands) : command ≠ other :=
  fun same => unknown (same ▸ config)

/-- Two lists without a common command. -/
theorem ne_of_apart {commands others : List UInt8} {command other : UInt8}
    (apart : (commands.all fun mine => !others.contains mine) = true)
    (mine : command ∈ commands) (theirs : other ∈ others) : command ≠ other := by
  rintro rfl
  have missing := List.all_eq_true.mp apart command mine
  rw [List.contains_iff_mem.mpr theirs] at missing
  cases missing

/-- The commands that `hauselektrik_callback` and the callbacks know, but for those of the heating
and the time zone. -/
def callbackCommands : List UInt8 :=
  [hcanHesTasterDown, hcanHesTasterUp, hcanHesPowerGroupOn, hcanHesPowerGroupOff,
    hcanHesPowerGroupStateQuery, hcanHesPowerGroupTimerQuery, hcanHesPowerGroupSetTimer,
    hcanHes1wireDiscover, hcanHes1wireTemperatureQuery, hcanHesReedkontaktOffen,
    hcanHesReedkontaktStateQuery, hcanHesReedkontaktStateReplay, hcanHesReedkontaktStateChange,
    hcanHesHeizungWaermebedarfInfo, hcanHesPotiPosChanged, hcanHesHelligkeitsInfo,
    hcanHesWeckerSet, hcanHesWeckerDetailsRequest, hcanHesRolladenPositionSet,
    hcanHesRolladenPositionRequest, hcanHesRolladenPositionReplay,
    hcanHesRolladenDefinePosition, hcanHesConfigReload, hcanHesConfigRamUsageRequest]

/-- The commands that any callback knows. -/
def knownCommands : List UInt8 :=
  callbackCommands ++
    [hcanHes1wireTemperature, hcanHes1wireTemperatureReplay, hcanHesHeizungDetailsRequest,
      hcanHesHeizungSetModeOff, hcanHesHeizungSetModeManual,
      hcanHesHeizungSetModeThermostatDetails, hcanHesHeizungSetModeAutomatik,
      hcanHesHeizungTistRequest, hcanHesHeizungSolltempLineRequest,
      hcanHesHeizungSolltempWriteLine, hcanHesZeitzoneDetailsRequest,
      hcanHesZeitzoneWriteDetails, hcanHesZeitzoneTestMatchRequest]

theorem unknown_of_config {command : UInt8} (config : command ∈ configCommands) :
    ∀ other ∈ callbackCommands, command ≠ other := by
  have apart : (configCommands.all fun mine => !callbackCommands.contains mine) = true := by decide
  exact fun other known => ne_of_apart apart config known

theorem unknown_of_ack {command : UInt8} (ack : command ∈ ackCommands) :
    ∀ other ∈ knownCommands, command ≠ other := by
  have apart : (ackCommands.all fun mine => !knownCommands.contains mine) = true := by decide
  exact fun other known => ne_of_apart apart ack known

theorem poke_apply {ρ : Type} [DeviceRecord ρ] {f : ρ → ρ} {b : Board mcu} {device : Device}
    {p : ρ} (slot : b.devices[i]? = some device) (found : DeviceRecord.select device = some p) :
    poke i f b = some ((), { b with devices := b.devices.set i (DeviceRecord.wrap (f p)) }) := by
  have here : onRecord f device = DeviceRecord.wrap (f p) := by rw [onRecord, found]
  obtain ⟨bound, stored⟩ := List.getElem?_eq_some_iff.mp slot
  have changed : b.devices.modify i (onRecord f) =
      b.devices.set i (DeviceRecord.wrap (f p)) := by
    rw [List.modify_eq_set_get _ bound, List.get_eq_getElem, stored, here]
  change some ((), { b with devices := b.devices.modify i (onRecord f) }) = _
  rw [changed]

/-- The callbacks of the other devices do nothing. -/
theorem deviceCanCallback_other (env : Environment mcu) {b : Board mcu} {device : Device}
    (ne : ∀ other ∈ callbackCommands, frame.data[1] ≠ other) (slot : b.devices[i]? = some device)
    (noHeizung : ∀ p, device ≠ .heizung p) (noZeitzone : ∀ p, device ≠ .zeitzone p) :
    deviceCanCallback env send frame i b = some ((), b) := by
  rw [deviceCanCallback, bind_apply, Nested.read, Option.bind_some, slot]
  cases device with
  | powerportAutomat p =>
      change powerportAutomatCanCallback env.self send i p frame b = _
      rw [powerportAutomatCanCallback, if_neg (ne _ (by decide)), if_neg (ne _ (by decide)),
        if_neg (ne _ (by decide))]
      rfl
  | rolladenAutomat p =>
      change rolladenAutomatCanCallback i p frame b = _
      rw [rolladenAutomatCanCallback, if_neg (ne _ (by decide)), if_neg (ne _ (by decide)),
        if_neg (ne _ (by decide))]
      rfl
  | dunstabzugport p =>
      change dunstabzugportCanCallback i p frame b = _
      rw [dunstabzugportCanCallback, if_neg (ne _ (by decide)), if_neg (ne _ (by decide)),
        if_neg (ne _ (by decide))]
      rfl
  | heizung p => exact absurd rfl (noHeizung p)
  | lichtzone p =>
      change lichtzoneCanCallback env.self send i p frame b = _
      dsimp only [lichtzoneCanCallback]
      rw [if_neg (ne _ (by decide)), if_neg (ne _ (by decide)), if_neg (ne _ (by decide)),
        if_neg (ne _ (by decide)), if_neg (ne _ (by decide))]
      rfl
  | multitaster p =>
      change multitasterCanCallback i p frame b = _
      rw [multitasterCanCallback, if_neg fun both => ne _ (by decide) both.1]
      rfl
  | powerport p =>
      change powerportCanCallback env.self send env.sleep i p frame b = _
      rw [powerportCanCallback, if_neg (ne _ (by decide)), if_neg (ne _ (by decide)),
        if_neg (ne _ (by decide)), if_neg (ne _ (by decide)), if_neg (ne _ (by decide)),
        if_neg (ne _ (by decide)), ite_self]
      rfl
  | reedkontakt p =>
      change reedkontaktCanCallback env.self send p frame b = _
      rw [reedkontaktCanCallback, if_neg fun both => ne _ (by decide) both.2]
      rfl
  | rolladen p =>
      change rolladenCallback env.self send env.byZero i p frame b = _
      have ignored : rolladenCanCallback env.byZero env.self p frame = (p, none) := by
        dsimp only [rolladenCanCallback]
        rw [if_neg (ne _ (by decide)), if_neg (ne _ (by decide)), if_neg (ne _ (by decide)),
          if_neg (ne _ (by decide)), if_neg (ne _ (by decide))]
      dsimp only [rolladenCallback]
      rw [ignored, bind_apply, poke_apply slot rfl]
      change some ((), { b with devices := b.devices.set i (.rolladen p) }) = _
      rw [set_self slot]
  | rolladenSchlitzpos p =>
      change rolladenSchlitzposCanCallback env.self send i p frame b = _
      dsimp only [rolladenSchlitzposCanCallback]
      rw [if_neg (ne _ (by decide)), if_neg (ne _ (by decide)), if_neg (ne _ (by decide))]
      rfl
  | zentralheizungspumpe p =>
      change zentralheizungspumpeCanCallback env.self send i p frame b = _
      rw [zentralheizungspumpeCanCallback, if_neg (ne _ (by decide))]
      rfl
  | tastdimmer p =>
      change tastdimmerCanCallback p frame b = _
      rw [tastdimmerCanCallback, if_neg (ne _ (by decide)), if_neg (ne _ (by decide)), ite_self]
      rfl
  | tempsensor p =>
      change tempsensorCanCallback env.self send p frame b = _
      rw [tempsensorCanCallback, if_neg fun both => ne _ (by decide) both.1]
      rfl
  | zeitschaltuhr p =>
      change zeitschaltuhrCanCallback i p frame b = _
      rw [zeitschaltuhrCanCallback, if_neg (ne _ (by decide)), if_neg (ne _ (by decide))]
      rfl
  | zeitzone p => exact absurd rfl (noZeitzone p)
  | other type => rfl

/-- A command that no callback knows does nothing. -/
theorem deviceCanCallback_unknown (env : Environment mcu) (b : Board mcu)
    (ne : ∀ other ∈ knownCommands, frame.data[1] ≠ other) :
    deviceCanCallback env send frame i b = some ((), b) := by
  cases slot : b.devices[i]? with
  | none =>
      rw [deviceCanCallback, bind_apply, Nested.read, Option.bind_some, slot]
      rfl
  | some device =>
      cases device with
      | heizung p =>
          rw [deviceCanCallback, bind_apply, Nested.read, Option.bind_some, slot]
          change heizungCanCallback env.self send i p frame b = _
          dsimp only [heizungCanCallback]
          rw [if_neg (ne _ (by decide)), if_neg (ne _ (by decide)), if_neg (ne _ (by decide)),
            if_neg (ne _ (by decide)), if_neg (ne _ (by decide)), if_neg (ne _ (by decide)),
            if_neg (ne _ (by decide)), if_neg (ne _ (by decide)), if_neg (ne _ (by decide)),
            if_neg (ne _ (by decide)), ite_self]
          rfl
      | zeitzone p =>
          rw [deviceCanCallback, bind_apply, Nested.read, Option.bind_some, slot]
          change zeitzoneCanCallback env.self send i p frame b = _
          rw [zeitzoneCanCallback, if_neg (ne _ (by decide)), if_neg (ne _ (by decide)),
            if_neg (ne _ (by decide)), ite_self]
          rfl
      | _ =>
          exact deviceCanCallback_other env
            (fun other known => ne other (List.mem_append_left _ known)) slot
            (fun p same => nomatch same) (fun p same => nomatch same)

end Ignored

section Effect

variable {env : Environment mcu} {send : CanixFrame → OnBoard mcu Unit} {frame : CanixFrame}

/-- An answer is sent and not handled any further. -/
def NotesAnswers (send : CanixFrame → OnBoard mcu Unit) : Prop :=
  ∀ (ack : CanixFrame) (b : Board mcu), ack.proto = hcanProtoSfp → ack.data[0] = hcanSrvHes →
    ack.data[1] ∈ ackCommands → send ack b = some ((), { b with sent := b.sent ++ [ack] })

theorem heizungWriteLine_apply {self : UInt16} {b : Board mcu} {i : Nat} {p : DeviceDataHeizung}
    (notes : NotesAnswers send) (slot : b.devices[i]? = some (.heizung p)) (idx : Fin 8) :
    heizungWriteLine self send i p frame idx b =
      some ((), applyRewrite b i {
        it := p.it
        type := edsHeizungBlockId
        writes := [(6 + idx.val * 3 + 1, wordLo (frameWord frame.data[4] frame.data[5])),
          (6 + idx.val * 3 + 1 + 1, wordHi (frameWord frame.data[4] frame.data[5]))]
        device := .heizung
          { p with config := p.config.setTemp idx (frameWord frame.data[4] frame.data[5]) }
        ack := hesFrame self frame.src 4 hcanHesHeizungSolltempWriteLineAck p.config.id
          (UInt8.ofNat idx.val) 0 0 0 0 }) := by
  rw [heizungWriteLine, bind_apply, Nested.read, Option.bind_some, applyRewrite]
  dsimp only
  by_cases valid : p.it ≠ 0 ∧ edsBlockType b.eeprom p.it = edsHeizungBlockId
  · rw [if_pos valid, if_pos valid, bind_apply, poke_apply slot rfl, Option.bind_some]
    exact notes _ _ rfl rfl List.mem_cons_self
  · rw [if_neg valid, if_neg valid]
    rfl

theorem zeitzoneWriteDetails_apply {self : UInt16} {b : Board mcu} {i : Nat}
    {p : DeviceDataZeitzone} (notes : NotesAnswers send)
    (slot : b.devices[i]? = some (.zeitzone p)) :
    zeitzoneWriteDetails self send i p frame b =
      some ((), applyRewrite b i {
        it := p.it
        type := edsZeitzoneBlockId
        writes := [(3, frame.data[3]), (4, frame.data[4]), (5, frame.data[5]),
          (6, frame.data[6]), (7, frame.data[7])]
        device := .zeitzone { p with config := zeitzoneDetails frame p.config }
        ack := hesFrame self frame.src 3 hcanHesZeitzoneWriteDetailsAck p.config.gruppe
          0 0 0 0 0 }) := by
  rw [zeitzoneWriteDetails, bind_apply, Nested.read, Option.bind_some, applyRewrite]
  dsimp only
  by_cases valid : p.it ≠ 0 ∧ edsBlockType b.eeprom p.it = edsZeitzoneBlockId
  · rw [if_pos valid, if_pos valid, bind_apply, poke_apply slot rfl, Option.bind_some]
    exact notes _ _ rfl rfl (List.mem_cons_of_mem _ List.mem_cons_self)
  · rw [if_neg valid, if_neg valid]
    rfl

theorem heizungCanCallback_write {self : UInt16} {b : Board mcu} {i : Nat}
    {p : DeviceDataHeizung} (write : IsWriteFrame frame) (notes : NotesAnswers send)
    (slot : b.devices[i]? = some (.heizung p)) :
    heizungCanCallback self send i p frame b = some ((), deviceWrite self frame b i) := by
  have rewrites : deviceWrite self frame b i = match rewriteOf self frame (.heizung p) with
      | some r => applyRewrite b i r
      | none => b := by rw [deviceWrite, slot, Option.bind_some]
  rw [rewrites, rewriteOf]
  dsimp only [heizungCanCallback]
  have ne : ∀ other, other ∉ configCommands → frame.data[1] ≠ other :=
    fun other unknown => ne_of_config write.config unknown
  rw [if_neg (ne _ (by decide)), if_neg (ne _ (by decide)), if_neg (ne _ (by decide)),
    if_neg (ne _ (by decide)), if_neg (ne _ (by decide)), if_neg (ne _ (by decide)),
    if_neg (ne _ (by decide)), if_neg (ne _ (by decide)), if_neg (ne _ (by decide))]
  rcases write.command with ⟨line, -⟩ | ⟨details, -⟩
  · rw [if_pos line]
    by_cases same : p.config.id = frame.data[2]
    · rw [if_pos same, if_pos ⟨line, same⟩]
      by_cases index : frame.data[3].toNat < 8
      · rw [dif_pos index, dif_pos index]
        exact heizungWriteLine_apply notes slot ⟨_, index⟩
      · rw [dif_neg index, dif_neg index]
        rfl
    · rw [if_neg same, if_neg fun both => same both.2]
      rfl
  · have other : frame.data[1] ≠ hcanHesHeizungSolltempWriteLine := by
      rw [details]
      decide
    rw [if_neg other, ite_self, if_neg fun both => other both.1]
    rfl

theorem zeitzoneCanCallback_write {self : UInt16} {b : Board mcu} {i : Nat}
    {p : DeviceDataZeitzone} (write : IsWriteFrame frame) (notes : NotesAnswers send)
    (slot : b.devices[i]? = some (.zeitzone p)) :
    zeitzoneCanCallback self send i p frame b = some ((), deviceWrite self frame b i) := by
  have rewrites : deviceWrite self frame b i = match rewriteOf self frame (.zeitzone p) with
      | some r => applyRewrite b i r
      | none => b := by rw [deviceWrite, slot, Option.bind_some]
  rw [rewrites, rewriteOf, zeitzoneCanCallback]
  have ne : ∀ other, other ∉ configCommands → frame.data[1] ≠ other :=
    fun other unknown => ne_of_config write.config unknown
  rw [if_neg (ne _ (by decide)), if_neg (ne hcanHesZeitzoneTestMatchRequest (by decide))]
  rcases write.command with ⟨line, -⟩ | ⟨details, -⟩
  · have other : frame.data[1] ≠ hcanHesZeitzoneWriteDetails := by
      rw [line]
      decide
    rw [if_neg other, ite_self, if_neg fun both => other both.1]
    rfl
  · rw [if_pos details]
    by_cases same : frame.data[2] = p.config.gruppe
    · rw [if_pos same, if_pos ⟨details, same⟩]
      exact zeitzoneWriteDetails_apply notes slot
    · rw [if_neg same, if_neg fun both => same both.2]
      rfl

theorem deviceCanCallback_write (b : Board mcu) (i : Nat) (write : IsWriteFrame frame)
    (notes : NotesAnswers send) :
    deviceCanCallback env send frame i b = some ((), deviceWrite env.self frame b i) := by
  cases slot : b.devices[i]? with
  | none =>
      rw [deviceCanCallback, bind_apply, Nested.read, Option.bind_some, deviceWrite, slot]
      rfl
  | some device =>
      cases device with
      | heizung p =>
          rw [deviceCanCallback, bind_apply, Nested.read, Option.bind_some, slot]
          exact heizungCanCallback_write write notes slot
      | zeitzone p =>
          rw [deviceCanCallback, bind_apply, Nested.read, Option.bind_some, slot]
          exact zeitzoneCanCallback_write write notes slot
      | _ =>
          rw [deviceCanCallback_other env (unknown_of_config write.config) slot
            (fun p same => nomatch same) (fun p same => nomatch same), deviceWrite, slot]
          rfl

end Effect

/-! ## The delivery -/

section Delivery

variable {env : Environment mcu} {frame : CanixFrame}

/-- A frame of the service goes to `hauselektrik_callback` only. -/
theorem canixDeliverFrame_apply {send : CanixFrame → OnBoard mcu Unit}
    {next : Board mcu → Board mcu} (proto : frame.proto = hcanProtoSfp)
    (srv : frame.data[0] = hcanSrvHes)
    (handled : ∀ b, hauselektrikCallback env send frame b = some ((), next b)) (b : Board mcu) :
    canixDeliverFrame env send frame b = some ((), next b) := by
  have folded : (frameCallbackEntries env.self).foldl
      (fun b entry => if entry.callback = .hauselektrik then next b else b) b = next b := rfl
  rw [← folded]
  refine forM_apply (fun entry member b => ?_) b
  simp only [frameCallbackEntries, List.mem_cons, List.not_mem_nil, or_false] at member
  rcases member with rfl | rfl | rfl | rfl | rfl | rfl | rfl
  case inr.inr.inr.inr.inr.inl =>
    have accepts : (⟨none, hcanProtoSfp, hcanSrvHes, .hauselektrik⟩ :
        FrameCallbackEntry).accepts frame = true := by
      rw [FrameCallbackEntry.accepts, proto, srv]
      rfl
    rw [if_pos accepts, if_pos rfl]
    exact handled b
  all_goals
    rw [if_neg, if_neg (by dsimp only; decide)]
    · rfl
    · rw [FrameCallbackEntry.accepts, srv, Bool.and_eq_true]
      dsimp only
      exact not_and_of_not_right _ (by decide)

theorem hauselektrikCallback_apply {send : CanixFrame → OnBoard mcu Unit}
    {next : Board mcu → Nat → Board mcu} (ne : ∀ other ∈ callbackCommands, frame.data[1] ≠ other)
    (each : ∀ b i, deviceCanCallback env send frame i b = some ((), next b i)) (b : Board mcu) :
    hauselektrikCallback env send frame b =
      some ((), if hauselektrikAccepts env.self frame then
        (List.range (maxPdeviceData mcu)).foldl next b else b) := by
  rw [hauselektrikCallback]
  by_cases accepts : hauselektrikAccepts env.self frame = true
  · rw [if_pos accepts, if_pos accepts, bind_apply, forM_apply (fun i _ b => each b i),
      Option.bind_some, hauselektrikSwitch, if_neg (ne _ (by decide)), if_neg (ne _ (by decide)),
      if_neg (ne _ (by decide))]
    rfl
  · rw [if_neg accepts, if_neg accepts]
    rfl

/-- The local delivery of a command that no callback knows ends at once and changes nothing. -/
theorem deliver_unknown {message : CanixFrame} (depth : Nat) (b : Board mcu)
    (proto : message.proto = hcanProtoSfp) (srv : message.data[0] = hcanSrvHes)
    (ne : ∀ other ∈ knownCommands, message.data[1] ≠ other) :
    deliver env (depth + 1) message b = some ((), b) := by
  apply canixDeliverFrame_apply proto srv
  intro c
  rw [hauselektrikCallback_apply (fun other known => ne other (List.mem_append_left _ known))
    (fun b i => deviceCanCallback_unknown env b ne), List.foldl_fixed, ite_self]

theorem notesAnswers_canixFrameSend (env : Environment mcu) (depth : Nat) :
    NotesAnswers (canixFrameSend (deliver env (depth + 1))) := by
  intro ack b proto srv command
  rw [canixFrameSend, bind_apply]
  exact deliver_unknown depth _ proto srv (unknown_of_ack command)

/-- The delivery of a write frame ends with the effect of the frame. -/
theorem deliver_write (depth : Nat) (b : Board mcu) (write : IsWriteFrame frame) :
    deliver env (depth + 2) frame b = some ((), configWrite env.self frame b) := by
  apply canixDeliverFrame_apply write.proto write.srv
  intro c
  apply hauselektrikCallback_apply (unknown_of_config write.config)
  exact fun b i => deviceCanCallback_write b i write (notesAnswers_canixFrameSend env depth)

end Delivery

end Hcan.Hauselektrik
