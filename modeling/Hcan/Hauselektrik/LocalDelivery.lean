import Hcan.Hauselektrik.Emission
import Hcan.Library.Descent
import Mathlib.Data.Fintype.Basic

/-!
# Termination of local delivery

A sent frame is handled by the devices of its own board before the call returns, so that
callbacks call each other.  Switch commands run along the edges from the group that an
automatic power port listens to, to the group that it switches.
-/

namespace Hcan.Hauselektrik

open Hcan.Canix Hcan.Eds Hcan.Controller Hcan.Library Hcan.Library.Nested

variable {mcu : Mcu}

/-- An automatic power port of the table passes commands for `g` on to `h`. -/
def SwitchEdge (b : Board mcu) (g h : UInt8) : Prop :=
  ∃ i p, i < maxPdeviceData mcu ∧ b.devices[i]? = some (.powerportAutomat p) ∧
    p.config.stellerGruppe = g ∧ p.config.powerportGruppe = h ∧
    p.config.stellerGruppe ≠ p.config.automatikEinSchalterGruppe

/-- The same edges, read off the skeleton of a table with at most `limit` records. -/
def SkeletonEdge (limit : Nat) (parts : List Skeleton) (g h : UInt8) : Prop :=
  ∃ i config, i < limit ∧ parts[i]? = some (.automat config) ∧ config.stellerGruppe = g ∧
    config.powerportGruppe = h ∧ config.stellerGruppe ≠ config.automatikEinSchalterGruppe

theorem eq_of_skeleton_automat {device : Device} {config : EdsPowerportAutomatBlock}
    (same : skeleton device = .automat config) :
    ∃ p, device = .powerportAutomat p ∧ p.config = config := by
  cases device <;> cases same
  exact ⟨_, rfl, rfl⟩

theorem slot_of_skeleton {b : Board mcu} {parts : List Skeleton} {i : Nat}
    {config : EdsPowerportAutomatBlock} (kept : HasSkeleton parts b)
    (part : parts[i]? = some (.automat config)) :
    ∃ p, b.devices[i]? = some (.powerportAutomat p) ∧ p.config = config := by
  rw [← kept, List.getElem?_map] at part
  obtain ⟨device, slot, same⟩ := Option.map_eq_some_iff.mp part
  obtain ⟨p, rfl, own⟩ := eq_of_skeleton_automat same
  exact ⟨p, slot, own⟩

theorem skeletonEdge_iff (b : Board mcu) (g h : UInt8) :
    SkeletonEdge (maxPdeviceData mcu) (b.devices.map skeleton) g h ↔ SwitchEdge b g h := by
  constructor
  · rintro ⟨i, config, bound, part, steller, powerport, manual⟩
    obtain ⟨p, slot, rfl⟩ := slot_of_skeleton rfl part
    exact ⟨i, p, bound, slot, steller, powerport, manual⟩
  · rintro ⟨i, p, bound, slot, steller, powerport, manual⟩
    exact ⟨i, p.config, bound, by rw [List.getElem?_map, slot]; rfl, steller, powerport, manual⟩

/-- A frame that the house electrics may send itself, and that switches no bistable relay. -/
structure Quiet (parts : List Skeleton) (frame : CanixFrame) : Prop where
  srv : frame.data[0] = hcanSrvHes
  noReload : frame.data[1] ≠ hcanHesConfigReload
  noDiscover : frame.data[1] ≠ hcanHes1wireDiscover
  monostable : frame.data[1] = hcanHesPowerGroupOff ∨
    frame.data[1] = hcanHesPowerGroupStateInfo ∨ Monostable parts
  wecker : frame.data[1] = hcanHesWeckerSet → frame.data[3] ≠ 0

section Frame

variable {must : Prop} {parts : List Skeleton} {edge : UInt8 → UInt8 → Prop}
variable {env : Environment mcu} {send : CanixFrame → OnBoard mcu Unit} {frame next : CanixFrame}

theorem Quiet.calm (quiet : Quiet parts frame) : Calm parts frame := by
  intro switches
  refine ⟨?_, quiet.wecker⟩
  rcases quiet.monostable with off | info | monostable
  · rw [off] at switches
    exact absurd switches (by decide)
  · rw [info] at switches
    exact absurd switches (by decide)
  · exact monostable

/-- What follows a quiet frame is quiet. -/
theorem Quiet.follows (quiet : Quiet parts frame) (follows : Follows edge frame next) :
    Quiet parts next := by
  rcases follows.command with lower | ⟨rank, same, -⟩
  · obtain ⟨⟨smaller, internal⟩, off⟩ :=
      (by simpa only [lowerCommand, Bool.and_eq_true] using lower :
        (decide (commandRank next.data[1] < commandRank frame.data[1]) = true ∧
          (!isExternal next.data[1]) = true) ∧
        (frame.data[1] != hcanHesPowerGroupOff ||
          next.data[1] == hcanHesPowerGroupStateInfo) = true)
    simp only [isExternal, Bool.not_eq_true', Bool.or_eq_false_iff, beq_eq_false_iff_ne]
      at internal
    obtain ⟨⟨notWecker, noReload⟩, noDiscover⟩ := internal
    constructor
    · exact follows.srv
    · exact noReload
    · exact noDiscover
    · rcases quiet.monostable with isOff | info | monostable
      · rw [isOff] at off
        exact .inr (.inl (by simpa using off))
      · rw [info] at smaller
        exact absurd (of_decide_eq_true smaller) (Nat.not_lt_zero _)
      · exact .inr (.inr monostable)
    · exact fun wecker => absurd wecker notWecker
  · constructor
    · exact follows.srv
    · exact same ▸ quiet.noReload
    · exact same ▸ quiet.noDiscover
    · exact same ▸ quiet.monostable
    · intro wecker
      rw [← same, wecker] at rank
      exact absurd rank (by decide)

theorem deviceCanCallback_keeps {i : Nat} (bound : i < maxPdeviceData mcu)
    (ends : ∀ next, Follows (SkeletonEdge (maxPdeviceData mcu) parts) frame next →
      Keeps must (HasSkeleton parts) (send next)) (quiet : Quiet parts frame) :
    Keeps must (HasSkeleton parts) (deviceCanCallback env send frame i) := by
  apply keeps_read_bind
  intro b kept
  cases slot : b.devices[i]? with
  | none => exact keeps_unit
  | some device =>
      have part : parts[i]? = some (skeleton device) := by
        rw [← kept, List.getElem?_map, slot]
        rfl
      have here : skeleton device ∈ parts := List.mem_of_getElem? part
      cases device with
      | powerportAutomat p =>
          apply powerportAutomat_keeps ends
          exact fun manual => ⟨i, p.config, bound, part, rfl, rfl, manual⟩
      | rolladenAutomat p => exact rolladenAutomat_keeps
      | dunstabzugport p => exact dunstabzugport_keeps
      | heizung p => exact heizung_keeps ends
      | lichtzone p => exact lichtzone_keeps ends here
      | multitaster p => exact multitaster_keeps
      | powerport p => exact powerport_keeps ends quiet.calm here
      | reedkontakt p => exact reedkontakt_keeps ends
      | rolladen p => exact rolladen_keeps ends
      | rolladenSchlitzpos p => exact rolladenSchlitzpos_keeps ends
      | zentralheizungspumpe p => exact zentralheizungspumpe_keeps ends
      | tastdimmer p => exact tastdimmer_keeps
      | tempsensor p => exact tempsensor_keeps ends
      | zeitschaltuhr p => exact zeitschaltuhr_keeps
      | zeitzone p => exact zeitzone_keeps ends
      | other type => exact keeps_unit

theorem hauselektrikSwitch_keeps
    (ends : ∀ next, Follows edge frame next → Keeps must (HasSkeleton parts) (send next))
    (quiet : Quiet parts frame) :
    Keeps must (HasSkeleton parts) (hauselektrikSwitch env send frame) := by
  unfold hauselektrikSwitch
  rw [if_neg quiet.noReload]
  apply keeps_ite
  · intro command
    apply keeps_readBoard
    intro ramUsage
    apply ends
    constructor
    · rfl
    · refine .inl ?_
      rw [command]
      exact (by decide : lowerCommand hcanHesConfigRamUsageRequest hcanHesConfigRamUsageReplay =
        true)
  · intro _
    rw [if_neg quiet.noDiscover]
    exact keeps_unit

theorem hauselektrikCallback_keeps
    (ends : ∀ next, Follows (SkeletonEdge (maxPdeviceData mcu) parts) frame next →
      Keeps must (HasSkeleton parts) (send next)) (quiet : Quiet parts frame) :
    Keeps must (HasSkeleton parts) (hauselektrikCallback env send frame) := by
  apply keeps_ite
  · intro _
    apply keeps_bind
    · apply keeps_forM
      intro i member
      exact deviceCanCallback_keeps (List.mem_range.mp member) ends quiet
    · exact fun _ => hauselektrikSwitch_keeps ends quiet
  · exact fun _ => keeps_unit

/-- A frame of the house electrics goes to no other callback. -/
theorem callback_of_accepts {entry : FrameCallbackEntry}
    (member : entry ∈ frameCallbackEntries env.self) (srv : frame.data[0] = hcanSrvHes)
    (accepts : entry.accepts frame = true) : entry.callback = .hauselektrik := by
  unfold FrameCallbackEntry.accepts at accepts
  rw [srv] at accepts
  simp only [frameCallbackEntries, List.mem_cons, List.not_mem_nil, or_false] at member
  have service := (Bool.and_eq_true_iff.mp accepts).2
  rcases member with rfl | rfl | rfl | rfl | rfl | rfl | rfl
  case inr.inr.inr.inr.inr.inl => rfl
  all_goals cases service

theorem canixDeliverFrame_keeps
    (ends : ∀ next, Follows (SkeletonEdge (maxPdeviceData mcu) parts) frame next →
      Keeps must (HasSkeleton parts) (send next)) (quiet : Quiet parts frame) :
    Keeps must (HasSkeleton parts) (canixDeliverFrame env send frame) := by
  apply keeps_forM
  intro entry member
  apply keeps_ite
  · intro accepts
    rw [callback_of_accepts member quiet.srv accepts]
    exact hauselektrikCallback_keeps ends quiet
  · exact fun _ => keeps_unit

theorem canixFrameSend_keeps {deliver : CanixFrame → OnBoard mcu Unit}
    (ends : Keeps must (HasSkeleton parts) (deliver next)) :
    Keeps must (HasSkeleton parts) (canixFrameSend deliver next) := by
  apply keeps_bind
  · exact keeps_modify fun _ kept => kept
  · exact fun _ => ends

end Frame

section Nesting

variable {parts : List Skeleton} {env : Environment mcu}

/-- The groups. -/
local instance fintypeGroup : Fintype UInt8 :=
  Fintype.ofEquiv (Fin 256) ⟨UInt8.ofFin, UInt8.toFin, fun _ => rfl, fun _ => rfl⟩

theorem card_group : Fintype.card UInt8 = 256 := by
  have card := Fintype.ofEquiv_card
    (⟨UInt8.ofFin, UInt8.toFin, fun _ => rfl, fun _ => rfl⟩ : Fin 256 ≃ UInt8)
  rw [Fintype.card_fin] at card
  exact card

/-- The nesting below a frame: first by its command, then by its group. -/
noncomputable def frameRank (edge : UInt8 → UInt8 → Prop) (frame : CanixFrame) : Nat :=
  commandRank frame.data[1] * 257 +
    if commandRank frame.data[1] = 3 then height edge frame.data[2] else 0

/-- A quiet frame from whose groups no cycle is reachable. -/
structure Ending (edge : UInt8 → UInt8 → Prop) (parts : List Skeleton) (frame : CanixFrame) :
    Prop where
  quiet : Quiet parts frame
  switched : commandRank frame.data[1] = 3 → Grounded edge frame.data[2]
  switching : 3 < commandRank frame.data[1] → ∀ g, Grounded edge g

theorem height_lt_257 (edge : UInt8 → UInt8 → Prop) (g : UInt8) : height edge g < 257 := by
  have bound := height_le edge g
  rw [card_group] at bound
  exact Nat.lt_succ_of_le bound

theorem Ending.follows {edge : UInt8 → UInt8 → Prop} {frame next : CanixFrame}
    (ending : Ending edge parts frame) (follows : Follows edge frame next) :
    Ending edge parts next ∧ frameRank edge next < frameRank edge frame := by
  rcases follows.command with lower | ⟨rank, same, step⟩
  · have smaller : commandRank next.data[1] < commandRank frame.data[1] := by
      unfold lowerCommand at lower
      simp only [Bool.and_eq_true, decide_eq_true_eq] at lower
      exact lower.1.1
    constructor
    · constructor
      · exact ending.quiet.follows follows
      · exact fun isSwitch => ending.switching (isSwitch ▸ smaller) _
      · exact fun high => ending.switching (high.trans smaller)
    · have bound := height_lt_257 edge next.data[2]
      unfold frameRank
      split <;> split <;> omega
  · have grounded := ending.switched rank
    have nextRank : commandRank next.data[1] = 3 := same ▸ rank
    constructor
    · constructor
      · exact ending.quiet.follows follows
      · exact fun _ => grounded.step step
      · intro high
        omega
    · unfold frameRank
      rw [if_pos rank, if_pos nextRank, rank, nextRank]
      exact Nat.add_lt_add_left (height_lt grounded step) _

theorem deliver_ends {frame : CanixFrame} {depth : Nat}
    (ending : Ending (SkeletonEdge (maxPdeviceData mcu) parts) parts frame)
    (enough : frameRank (SkeletonEdge (maxPdeviceData mcu) parts) frame < depth) :
    Keeps True (HasSkeleton parts) (deliver env depth frame) := by
  apply nest_ends (frameRank (SkeletonEdge (maxPdeviceData mcu) parts)) _ ending enough
  intro send m isEnding smaller
  apply canixDeliverFrame_keeps _ isEnding.quiet
  intro next follows
  obtain ⟨nextEnding, lower⟩ := isEnding.follows follows
  exact canixFrameSend_keeps (smaller next nextEnding lower)

theorem deliver_keeps {frame : CanixFrame} (quiet : Quiet parts frame) (depth : Nat) :
    Keeps False (HasSkeleton parts) (deliver env depth frame) := by
  apply nest_keeps _ quiet
  intro send m isQuiet kept
  apply canixDeliverFrame_keeps _ isQuiet
  intro next follows
  exact canixFrameSend_keeps (kept next (isQuiet.follows follows))

/-- A POWER_GROUP_OFF that the board handles, for a group from which a cycle is reachable. -/
structure Endless (own : UInt16) (edge : UInt8 → UInt8 → Prop) (frame : CanixFrame) :
    Prop where
  proto : frame.proto = hcanProtoSfp
  accepts : hauselektrikAccepts own frame = true
  off : frame.data[1] = hcanHesPowerGroupOff
  endless : ¬ Grounded edge frame.data[2]

theorem Endless.srv {own : UInt16} {edge : UInt8 → UInt8 → Prop} {frame : CanixFrame}
    (endless : Endless own edge frame) : frame.data[0] = hcanSrvHes := by
  have accepts := endless.accepts
  unfold hauselektrikAccepts at accepts
  exact beq_iff_eq.mp (Bool.and_eq_true_iff.mp accepts).1

theorem Endless.quiet {own : UInt16} {edge : UInt8 → UInt8 → Prop} {frame : CanixFrame}
    (endless : Endless own edge frame) (parts : List Skeleton) : Quiet parts frame where
  srv := endless.srv
  noReload := by rw [endless.off]; decide
  noDiscover := by rw [endless.off]; decide
  monostable := .inl endless.off
  wecker := by
    intro wecker
    rw [endless.off] at wecker
    exact absurd wecker (by decide)

/-- The command that an automatic power port passes on along an edge. -/
theorem endless_next {own : UInt16} {edge : UInt8 → UInt8 → Prop} {g : UInt8}
    (endless : ¬ Grounded edge g) :
    Endless own edge
      (hesFrame own hcanMulticastControl 3 hcanHesPowerGroupOff g 0 0 0 0 0) where
  proto := rfl
  accepts := by
    have control : (hcanMulticastControl == hcanMulticastControl) = true := rfl
    unfold hauselektrikAccepts
    change (true && (hcanMulticastControl == own || hcanMulticastControl == hcanMulticastControl ||
      hcanMulticastControl == hcanMulticastInfo)) = true
    rw [control, Bool.or_true, Bool.true_or, Bool.true_and]
  off := rfl
  endless := endless

theorem deliver_hangs {frame : CanixFrame}
    (endless : Endless env.self (SkeletonEdge (maxPdeviceData mcu) parts) frame) (depth : Nat) :
    Hangs (HasSkeleton parts) (deliver env depth frame) := by
  apply nest_hangs _ endless
  intro depth m isEndless hangs
  have quiet := isEndless.quiet parts
  have ends : ∀ next, Follows (SkeletonEdge (maxPdeviceData mcu) parts) m next →
      Keeps False (HasSkeleton parts) (canixFrameSend (deliver env depth) next) :=
    fun next follows => canixFrameSend_keeps (deliver_keeps (quiet.follows follows) depth)
  have entry : FrameCallbackEntry.mk none hcanProtoSfp hcanSrvHes .hauselektrik ∈
      frameCallbackEntries env.self := by
    simp [frameCallbackEntries]
  apply hangs_forM _ entry
  · -- the callback of the house electrics
    have accepts : (FrameCallbackEntry.mk none hcanProtoSfp hcanSrvHes .hauselektrik).accepts m =
        true := by
      simp [FrameCallbackEntry.accepts, isEndless.proto, isEndless.srv]
    rw [if_pos accepts]
    change Hangs (HasSkeleton parts)
      (hauselektrikCallback env (canixFrameSend (deliver env depth)) m)
    unfold hauselektrikCallback
    rw [if_pos isEndless.accepts]
    apply hangs_bind
    obtain ⟨h, ⟨i, config, bound, part, steller, rfl, manual⟩, rest⟩ :=
      exists_step_of_not_grounded isEndless.endless
    apply hangs_forM _ (List.mem_range.mpr bound)
    · apply hangs_read_bind
      intro b kept
      obtain ⟨p, slot, rfl⟩ := slot_of_skeleton kept part
      rw [slot]
      have notOn : m.data[1] ≠ hcanHesPowerGroupOn := by
        rw [isEndless.off]
        decide
      have notAuto : m.data[2] ≠ p.config.automatikEinSchalterGruppe := steller ▸ manual
      have message : ¬ (p.automatikEin = true ∧ hcanHesPowerGroupOff = hcanHesPowerGroupOn ∧
          p.brightness ≠ 65535 ∧ p.brightness > p.config.helligkeitsschwelle) :=
        fun bright => absurd bright.2.1 (by decide)
      change Hangs (HasSkeleton parts) (powerportAutomatCanCallback env.self _ i p m)
      unfold powerportAutomatCanCallback powerportAutomatSendMessage
      rw [if_neg notOn, if_pos isEndless.off, if_neg notAuto, if_pos steller.symm,
        if_neg message]
      apply hangs_bind_right
      · exact keeps_modify fun _ kept => kept
      · exact fun _ => hangs _ (endless_next rest)
    · intro k member
      exact deviceCanCallback_keeps (List.mem_range.mp member) ends quiet
  · intro other member
    apply keeps_ite
    · intro accepts
      rw [callback_of_accepts member quiet.srv accepts]
      exact hauselektrikCallback_keeps ends quiet
    · exact fun _ => keeps_unit

end Nesting

/-! ## Termination -/

/-- The nested calls for a frame end. -/
def DeliveryEnds (env : Environment mcu) (frame : CanixFrame) (b : Board mcu) : Prop :=
  ∃ depth, (deliver env depth frame b).isSome = true

/-- A cycle of the graph of the table is reachable from the group. -/
def CycleReachable (b : Board mcu) (g : UInt8) : Prop :=
  ∃ h, Relation.ReflTransGen (SwitchEdge b) g h ∧ Relation.TransGen (SwitchEdge b) h h

/-- What is guaranteed about local delivery on a board. -/
structure LocalDelivery (env : Environment mcu) (b : Board mcu) : Prop where
  powerGroupOff : ∀ frame : CanixFrame, frame.proto = hcanProtoSfp →
    frame.data[0] = hcanSrvHes → frame.data[1] = hcanHesPowerGroupOff →
    (DeliveryEnds env frame b ↔
      ¬ (hauselektrikAccepts env.self frame = true ∧ CycleReachable b frame.data[2]))
  other : ∀ frame : CanixFrame, frame.proto = hcanProtoSfp → frame.data[0] = hcanSrvHes →
    frame.data[1] ∉ [hcanHesPowerGroupOff, hcanHesConfigReload, hcanHes1wireDiscover] →
    (∀ p, .powerport p ∈ b.devices → p.hasFeature powerportFeatureBistableRelais = false) →
    (frame.data[1] = hcanHesWeckerSet → frame.data[3] ≠ 0) →
    (∀ g, ¬ Relation.TransGen (SwitchEdge b) g g) → DeliveryEnds env frame b

section Termination

variable (env : Environment mcu) (b : Board mcu)

theorem skeletonEdge_eq :
    SkeletonEdge (maxPdeviceData mcu) (b.devices.map skeleton) = SwitchEdge b := by
  funext g h
  exact propext (skeletonEdge_iff b g h)

/-- Outside the address filter nothing is called. -/
theorem ignored_ends {frame : CanixFrame} (srv : frame.data[0] = hcanSrvHes)
    (ignored : ¬ hauselektrikAccepts env.self frame = true) : DeliveryEnds env frame b := by
  have ends : Keeps True (HasSkeleton (b.devices.map skeleton)) (deliver env 1 frame) := by
    apply keeps_forM
    intro entry member
    apply keeps_ite
    · intro accepts
      rw [callback_of_accepts member srv accepts]
      apply keeps_ite
      · exact fun accepted => absurd accepted ignored
      · exact fun _ => keeps_unit
    · exact fun _ => keeps_unit
  exact ⟨1, (ends b rfl).1 trivial⟩

theorem ends_of_ending {frame : CanixFrame}
    (ending : Ending (SwitchEdge b) (b.devices.map skeleton) frame) : DeliveryEnds env frame b := by
  rw [← skeletonEdge_eq b] at ending
  exact ⟨_, (deliver_ends ending (Nat.lt_succ_self _) b rfl).1 trivial⟩

/-- Power off commands end exactly when no cycle is reachable, and the other commands of
the devices end when there is no cycle at all. -/
theorem local_delivery_ends : LocalDelivery env b := by
  constructor
  · intro frame proto srv off
    constructor
    · rintro ⟨depth, returned⟩ ⟨accepts, cycle⟩
      have endless : Endless env.self (SwitchEdge b) frame :=
        ⟨proto, accepts, off, not_not.mpr cycle⟩
      rw [← skeletonEdge_eq b] at endless
      rw [deliver_hangs endless depth b rfl] at returned
      cases returned
    · intro noCycle
      by_cases accepts : hauselektrikAccepts env.self frame = true
      · apply ends_of_ending
        constructor
        · constructor
          · exact srv
          · rw [off]
            decide
          · rw [off]
            decide
          · exact .inl off
          · intro wecker
            rw [off] at wecker
            exact absurd wecker (by decide)
        · exact fun _ cycle => noCycle ⟨accepts, cycle⟩
        · intro high
          rw [off] at high
          exact absurd high (by decide)
      · exact ignored_ends env b srv accepts
  · intro frame _ srv command monostable wecker acyclic
    simp only [List.mem_cons, List.not_mem_nil, or_false, not_or] at command
    obtain ⟨-, noReload, noDiscover⟩ := command
    apply ends_of_ending
    constructor
    · constructor
      · exact srv
      · exact noReload
      · exact noDiscover
      · refine .inr (.inr ?_)
        intro bistable member
        obtain ⟨device, stored, same⟩ := List.mem_map.mp member
        cases device <;> cases same
        exact monostable _ stored
      · exact wecker
    · exact fun _ => grounded_of_acyclic acyclic _
    · exact fun _ g => grounded_of_acyclic acyclic g

end Termination

/-- A board whose only device passes commands for group 1 on to group 1. -/
def loopBoard : Board atmega32 where
  devices := [.powerportAutomat (powerportAutomatInit ⟨1, 1, 255, 0, 255, 0, 0⟩)]
  ramUsage := 13
  out := Outputs.reset 0 0 0 0
  tasterport _ := false
  eeprom := .powerUp fun _ => 255
  clock := ⟨1, 12, 0, 0, 1, 1, 8⟩
  sent := []

/-- POWER_GROUP_OFF for group 1, addressed to another board. -/
def foreignOff : CanixFrame := hesFrame 2 99 3 hcanHesPowerGroupOff 1 0 0 0 0 0

/-- A frame for another board ends, although a cycle is reachable from its group. -/
theorem foreignOff_ends :
    foreignOff.proto = hcanProtoSfp ∧ foreignOff.data[0] = hcanSrvHes ∧
      foreignOff.data[1] = hcanHesPowerGroupOff ∧
      DeliveryEnds quietEnvironment foreignOff loopBoard ∧
      CycleReachable loopBoard foreignOff.data[2] := by
  refine ⟨rfl, rfl, rfl, ⟨1, rfl⟩, 1, .refl, .single ?_⟩
  exact ⟨0, powerportAutomatInit ⟨1, 1, 255, 0, 255, 0, 0⟩, by decide, rfl, rfl, rfl, by decide⟩

end Hcan.Hauselektrik
