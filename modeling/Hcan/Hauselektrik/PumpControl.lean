import Hcan.Hauselektrik.Dispatch
import Hcan.Library.Keyed
import Hcan.Library.Latest
import Mathlib.Data.List.DropRight

/-!
# The pump of the central heating

The pump keeps the demands of the heatings in a table of fifteen fields and switches its
group by their mean.  An id of 255 marks an empty field, and the sum of the demands is
cast to a byte before the division.  So the command is the one for the mean of the last
demands exactly as long as no demand of the id 255 has been overwritten by that of another
heating, and the sum fits or its low byte still calls for heat.
-/

namespace Hcan.Hauselektrik

open Hcan.Canix Hcan.Controller Hcan.Library Hcan.Library.Nested

variable {mcu : Mcu}

/-- On, off or no command. -/
def pumpCommand (mean : Nat) : Option Bool :=
  if einschaltSchwelle ≤ mean then some true
  else if mean ≤ ausschaltSchwelle then some false
  else none

/-- The id and the demand of each message about a demand. -/
def reports (frames : List CanixFrame) : List (UInt8 × UInt8) :=
  (frames.filter fun frame => frame.data[1] == hcanHesHeizungWaermebedarfInfo).map
    fun frame => (frame.data[2], frame.data[3])

def demandSum (ids : List UInt8) (demand : UInt8 → UInt8) : Nat :=
  (ids.map fun id => (demand id).toNat).sum

def demandCount (ids : List UInt8) (demand : UInt8 → UInt8) : Nat :=
  ids.countP fun id => demand id > 0

/-- The mean over the last positive demands of the ids, rounded down; zero if there are none. -/
def meanDemand (history : List (UInt8 × UInt8)) : Nat :=
  demandSum (reportedKeys history) (latest 0 history) /
    demandCount (reportedKeys history) (latest 0 history)

/-- The last demand of the id 255 is positive, and a new id has come behind it. -/
def Displaced (history : List (UInt8 × UInt8)) : Prop :=
  latest 0 history 255 > 0 ∧ ∃ report ∈ history.rtakeWhile fun report => report.1 != 255,
    report.1 ∉ (history.rdropWhile fun report => report.1 != 255).map Prod.fst

instance displacedDecidable (history : List (UInt8 × UInt8)) : Decidable (Displaced history) :=
  inferInstanceAs (Decidable (_ ∧ _))

/-- When the pump follows the mean demand. -/
def PumpRight (history : List (UInt8 × UInt8)) : Prop :=
  let sum := demandSum (reportedKeys history) (latest 0 history)
  let count := demandCount (reportedKeys history) (latest 0 history)
  if Displaced history then
    pumpCommand ((sum - (latest 0 history 255).toNat) % 256 / (count - 1)) =
      pumpCommand (sum / count)
  else sum < 256 ∨ 10 * count ≤ sum % 256

section Callback

variable (self : UInt16)

/-- The messages of a command. -/
def pumpMessages (gruppe : UInt8) : Option Bool → List CanixFrame
  | some active =>
      [hesFrame self hcanMulticastControl 3
        (if active then hcanHesPowerGroupOn else hcanHesPowerGroupOff) gruppe 0 0 0 0 0]
  | none => []

/-- The record behind a frame and the messages that answer it. -/
def pumpStep (p : DeviceDataZentralheizungspumpe) (frame : CanixFrame) :
    DeviceDataZentralheizungspumpe × List CanixFrame :=
  if frame.data[1] = hcanHesHeizungWaermebedarfInfo then
    let heizung := waermebedarfSpeichern frame.data[2] frame.data[3] p.heizung
    ({ p with heizung := heizung },
      pumpMessages self p.config.gruppe (pumpCommand (getMittlererWaermebedarf heizung)))
  else (p, [])

/-- The record behind a sequence of frames. -/
def pumpRun (config : EdsZentralheizungspumpeBlock) (frames : List CanixFrame) :
    DeviceDataZentralheizungspumpe :=
  frames.foldl (fun p frame => (pumpStep self p frame).1) (zentralheizungspumpeInit config)

variable (send : CanixFrame → OnBoard mcu Unit)

/-- The callback on a board stores the record and then sends the messages. -/
theorem zentralheizungspumpeCanCallback_eq {b : Board mcu} {i : Nat}
    {p : DeviceDataZentralheizungspumpe} (slot : b.devices[i]? = some (.zentralheizungspumpe p))
    (frame : CanixFrame) :
    zentralheizungspumpeCanCallback self send i p frame b =
      (do
        poke i fun _ : DeviceDataZentralheizungspumpe => (pumpStep self p frame).1
        (pumpStep self p frame).2.forM send : OnBoard mcu Unit) b := by
  have stored (change : DeviceDataZentralheizungspumpe → DeviceDataZentralheizungspumpe) :
      (poke i change : OnBoard mcu Unit) b =
        (poke i (fun _ : DeviceDataZentralheizungspumpe => change p) : OnBoard mcu Unit) b := by
    have same := modify_congr (onRecord change)
      (onRecord fun _ : DeviceDataZentralheizungspumpe => change p) slot rfl
    change some ((), { b with devices := _ }) = some ((), { b with devices := _ })
    rw [same]
  have only (frame : CanixFrame) : [frame].forM send = send frame := by
    funext b
    change (send frame >>= fun _ => pure PUnit.unit) b = send frame b
    rw [bind_apply]
    cases send frame b with
    | none => rfl
    | some result => rfl
  unfold zentralheizungspumpeCanCallback pumpStep
  by_cases info : frame.data[1] = hcanHesHeizungWaermebedarfInfo
  · rw [if_pos info, if_pos info, bind_apply, bind_apply, stored]
    apply congrArg
    funext result
    dsimp only
    generalize getMittlererWaermebedarf _ = mean
    unfold zentralheizungspumpeSendMessage pumpCommand
    split
    · exact (congrFun (only _) _).symm
    · split
      · exact (congrFun (only _) _).symm
      · rfl
  · have kept := modify_congr (onRecord fun _ : DeviceDataZentralheizungspumpe => p) id slot rfl
    rw [List.modify_id] at kept
    rw [if_neg info, if_neg info, bind_apply]
    change some ((), b) = some ((), { b with devices := _ })
    rw [kept]

end Callback

/-! ## The table -/

section Table

/-- The fields that hold no heating; the first one may hold a demand of the id 255. -/
def emptyFields (pending : UInt8) : Nat → List Waermebedarf
  | 0 => []
  | n + 1 => ⟨255, pending⟩ :: List.replicate n ⟨255, 0⟩

def pumpTable (ids : List UInt8) (demand : UInt8 → UInt8) (pending : UInt8) : List Waermebedarf :=
  ids.map (fun id => ⟨id, demand id⟩) ++ emptyFields pending (maxAnzHeizungen - ids.length)

variable {ids : List UInt8} {demand : UInt8 → UInt8} {pending id waermebedarf : UInt8}

theorem waermebedarfSpeichern_eq (id waermebedarf : UInt8) (heizung : List Waermebedarf) :
    waermebedarfSpeichern id waermebedarf heizung =
      if (heizung.any fun entry => entry.id == id) = true then
        replaceFirst (fun entry => entry.id == id) ⟨id, waermebedarf⟩ heizung
      else replaceFirst (fun entry => entry.id == 255) ⟨id, waermebedarf⟩ heizung := by
  rw [waermebedarfSpeichern, ← List.findIdx?_isSome, replaceFirst_findIdx?, replaceFirst_findIdx?]
  cases heizung.findIdx? fun entry => entry.id == id with
  | none => rfl
  | some n => rfl

theorem emptyFields_id {n : Nat} {entry : Waermebedarf} (member : entry ∈ emptyFields pending n) :
    entry.id = 255 := by
  cases n with
  | zero => exact absurd member List.not_mem_nil
  | succ n =>
      rcases List.mem_cons.mp member with rfl | later
      · rfl
      · rw [List.eq_of_mem_replicate later]

theorem pumpTable_update (pending waermebedarf : UInt8) (absent : id ∉ ids) :
    pumpTable ids (Function.update demand id waermebedarf) pending =
      pumpTable ids demand pending := by
  unfold pumpTable
  congr 1
  apply List.map_congr_left
  intro other member
  rw [Function.update_of_ne]
  rintro rfl
  exact absent member

/-- A demand of a heating of the table. -/
theorem speichern_old (distinct : ids.Nodup) (listed : id ∈ ids) :
    waermebedarfSpeichern id waermebedarf (pumpTable ids demand pending) =
      pumpTable ids (Function.update demand id waermebedarf) pending := by
  have found : ((pumpTable ids demand pending).any fun entry => entry.id == id) = true := by
    apply List.any_eq_true.mpr
    exact ⟨⟨id, demand id⟩, List.mem_append_left _ (List.mem_map.mpr ⟨id, listed, rfl⟩),
      beq_self_eq_true id⟩
  rw [waermebedarfSpeichern_eq, if_pos found]
  exact replaceFirst_map Waermebedarf.mk Waermebedarf.id (fun _ _ => rfl) waermebedarf distinct
    listed _

/-- What replaces the first empty field. -/
theorem replaceFirst_empty (new : Waermebedarf) (used : 255 ∉ ids)
    (space : ids.length < maxAnzHeizungen) :
    replaceFirst (fun entry => entry.id == 255) new (pumpTable ids demand pending) =
      ids.map (fun id => ⟨id, demand id⟩) ++ new ::
        List.replicate (maxAnzHeizungen - ids.length - 1) ⟨255, 0⟩ := by
  have rest : maxAnzHeizungen - ids.length = maxAnzHeizungen - ids.length - 1 + 1 := by omega
  have apart : ∀ entry ∈ ids.map (fun id => (⟨id, demand id⟩ : Waermebedarf)),
      (entry.id == 255) = false := by
    intro entry member
    obtain ⟨other, listed, rfl⟩ := List.mem_map.mp member
    apply beq_eq_false_iff_ne.mpr
    rintro rfl
    exact used listed
  rw [pumpTable, replaceFirst_append new _ apart]
  generalize maxAnzHeizungen - ids.length - 1 = n at rest
  rw [rest]
  rfl

/-- The first demand of a heating takes the first empty field. -/
theorem speichern_new (used : 255 ∉ ids) (space : ids.length < maxAnzHeizungen)
    (new : id ∉ ids) (isHeating : id ≠ 255) :
    waermebedarfSpeichern id waermebedarf (pumpTable ids demand pending) =
      pumpTable (ids ++ [id]) (Function.update demand id waermebedarf) 0 := by
  have missing : ¬((pumpTable ids demand pending).any fun entry => entry.id == id) = true := by
    intro found
    obtain ⟨entry, member, same⟩ := List.any_eq_true.mp found
    rcases List.mem_append.mp member with front | back
    · obtain ⟨other, listed, rfl⟩ := List.mem_map.mp front
      exact new (eq_of_beq same ▸ listed)
    · exact isHeating ((eq_of_beq same).symm.trans (emptyFields_id back))
  have fields (n : Nat) : emptyFields 0 n = List.replicate n ⟨255, 0⟩ := by
    cases n <;> rfl
  have kept : pumpTable ids (Function.update demand id waermebedarf) 0 = pumpTable ids demand 0 :=
    pumpTable_update 0 waermebedarf new
  have same := List.append_cancel_right kept
  rw [waermebedarfSpeichern_eq, if_neg missing, replaceFirst_empty _ used space, pumpTable, fields,
    List.length_append, List.map_append, same, List.append_assoc, Nat.sub_add_eq]
  change _ = _ ++ Waermebedarf.mk id (Function.update demand id waermebedarf id) :: _
  rw [Function.update_self]
  rfl

/-- A demand of the id 255 goes to the first empty field, which stays empty. -/
theorem speichern_empty (used : 255 ∉ ids) (space : ids.length < maxAnzHeizungen) :
    waermebedarfSpeichern 255 waermebedarf (pumpTable ids demand pending) =
      pumpTable ids (Function.update demand 255 waermebedarf) waermebedarf := by
  have rest : maxAnzHeizungen - ids.length = maxAnzHeizungen - ids.length - 1 + 1 := by omega
  rw [waermebedarfSpeichern_eq, ite_self, replaceFirst_empty _ used space,
    pumpTable_update _ _ used, pumpTable]
  generalize maxAnzHeizungen - ids.length - 1 = n at rest
  rw [rest]
  rfl

end Table

section Run

variable {history : List (UInt8 × UInt8)} {id waermebedarf : UInt8}

/-- The reported ids that do not mark an empty field. -/
def heatingIds (history : List (UInt8 × UInt8)) : List UInt8 :=
  (reportedKeys history).filter fun id => id != 255

/-- The demand of the id 255 that the first empty field holds. -/
def pendingDemand (history : List (UInt8 × UInt8)) : UInt8 :=
  if Displaced history then 0 else latest 0 history 255

theorem not_mem_heatingIds (history : List (UInt8 × UInt8)) : 255 ∉ heatingIds history := by
  intro member
  exact absurd (List.mem_filter.mp member).2 (by decide)

theorem mem_heatingIds (isHeating : id ≠ 255) :
    id ∈ heatingIds history ↔ id ∈ reportedKeys history := by
  rw [heatingIds, List.mem_filter]
  exact and_iff_left (bne_iff_ne.mpr isHeating)

theorem not_displaced_empty (history : List (UInt8 × UInt8)) (waermebedarf : UInt8) :
    ¬Displaced (history ++ [(255, waermebedarf)]) := by
  rintro ⟨-, report, member, -⟩
  rw [List.rtakeWhile_concat_neg _ _ _ (Bool.false_ne_true)] at member
  exact absurd member List.not_mem_nil

/-- A report of another id displaces the demand when the id is new. -/
theorem displaced_concat (isHeating : id ≠ 255) :
    Displaced (history ++ [(id, waermebedarf)]) ↔
      Displaced history ∨ latest 0 history 255 > 0 ∧ id ∉ reportedKeys history := by
  have other : (((id, waermebedarf) : UInt8 × UInt8).1 != 255) = true := bne_iff_ne.mpr isHeating
  have kept : latest 0 (history ++ [(id, waermebedarf)]) 255 = latest 0 history 255 := by
    rw [latest_concat, Function.update_of_ne isHeating.symm]
  have behind : (history ++ [(id, waermebedarf)]).rtakeWhile (fun report => report.1 != 255) =
      history.rtakeWhile (fun report => report.1 != 255) ++ [(id, waermebedarf)] :=
    List.rtakeWhile_concat_pos _ _ _ other
  have before : (history ++ [(id, waermebedarf)]).rdropWhile (fun report => report.1 != 255) =
      history.rdropWhile (fun report => report.1 != 255) :=
    List.rdropWhile_concat_pos _ _ _ other
  have split : history.rdropWhile (fun report => report.1 != 255) ++
      history.rtakeWhile (fun report => report.1 != 255) = history :=
    List.rdropWhile_append_rtakeWhile
  unfold Displaced
  rw [behind, before, kept, mem_reportedKeys]
  constructor
  · rintro ⟨positive, report, member, new⟩
    rcases List.mem_append.mp member with earlier | last
    · exact .inl ⟨positive, report, earlier, new⟩
    · rw [List.mem_singleton.mp last] at new
      by_cases known : id ∈ history.map Prod.fst
      · rw [← split, List.map_append] at known
        obtain ⟨report, earlier, same⟩ :=
          List.mem_map.mp ((List.mem_append.mp known).resolve_left new)
        exact .inl ⟨positive, report, earlier, same ▸ new⟩
      · exact .inr ⟨positive, known⟩
  · rintro (⟨positive, report, earlier, new⟩ | ⟨positive, new⟩)
    · exact ⟨positive, report, List.mem_append_left _ earlier, new⟩
    · refine ⟨positive, (id, waermebedarf), List.mem_append_right _ List.mem_cons_self, ?_⟩
      intro known
      apply new
      rw [← split, List.map_append]
      exact List.mem_append_left _ known

/-- The demand of the first empty field behind a report of another id. -/
theorem pendingDemand_concat (isHeating : id ≠ 255) :
    pendingDemand (history ++ [(id, waermebedarf)]) =
      if id ∈ reportedKeys history then pendingDemand history else 0 := by
  have kept : latest 0 (history ++ [(id, waermebedarf)]) 255 = latest 0 history 255 := by
    rw [latest_concat, Function.update_of_ne isHeating.symm]
  have step : Displaced (history ++ [(id, waermebedarf)]) ↔ _ := displaced_concat isHeating
  unfold pendingDemand
  rw [kept]
  by_cases known : id ∈ reportedKeys history
  · rw [if_pos known]
    exact if_congr (step.trans (or_iff_left fun new => new.2 known)) rfl rfl
  · rw [if_neg known]
    by_cases positive : latest 0 history 255 > 0
    · exact if_pos (step.mpr (.inr ⟨positive, known⟩))
    · rw [UInt8.le_zero_iff.mp (UInt8.not_lt.mp positive), ite_self]

theorem heatingIds_empty (history : List (UInt8 × UInt8)) (waermebedarf : UInt8) :
    heatingIds (history ++ [(255, waermebedarf)]) = heatingIds history := by
  unfold heatingIds
  by_cases known : 255 ∈ reportedKeys history
  · rw [reportedKeys_concat_old waermebedarf known]
  · rw [reportedKeys_concat_new waermebedarf known, List.filter_append]
    exact List.append_nil _

theorem heatingIds_old (known : id ∈ reportedKeys history) :
    heatingIds (history ++ [(id, waermebedarf)]) = heatingIds history := by
  rw [heatingIds, reportedKeys_concat_old waermebedarf known, heatingIds]

theorem heatingIds_new (isHeating : id ≠ 255) (new : id ∉ reportedKeys history) :
    heatingIds (history ++ [(id, waermebedarf)]) = heatingIds history ++ [id] := by
  unfold heatingIds
  rw [reportedKeys_concat_new waermebedarf new, List.filter_append]
  congr 1
  exact List.filter_cons_of_pos (bne_iff_ne.mpr isHeating)

/-- The id 255 leaves a field for itself. -/
theorem heatingIds_lt (few : (reportedKeys history).length ≤ maxAnzHeizungen)
    (reported : 255 ∈ reportedKeys history) : (heatingIds history).length < maxAnzHeizungen := by
  apply Nat.lt_of_lt_of_le _ few
  exact List.length_filter_lt_length_iff_exists.mpr ⟨255, reported, by decide⟩

/-- The step lemma: a report keeps the form of the table. -/
theorem speichern_report
    (few : (reportedKeys (history ++ [(id, waermebedarf)])).length ≤ maxAnzHeizungen) :
    waermebedarfSpeichern id waermebedarf
        (pumpTable (heatingIds history) (latest 0 history) (pendingDemand history)) =
      pumpTable (heatingIds (history ++ [(id, waermebedarf)]))
        (latest 0 (history ++ [(id, waermebedarf)]))
        (pendingDemand (history ++ [(id, waermebedarf)])) := by
  have distinct : (heatingIds history).Nodup := (reportedKeys_nodup history).filter _
  have reported : id ∈ reportedKeys (history ++ [(id, waermebedarf)]) := by
    rw [mem_reportedKeys, List.map_append]
    exact List.mem_append_right _ List.mem_cons_self
  rw [latest_concat]
  by_cases marker : id = 255
  · subst marker
    have space := heatingIds_lt few reported
    rw [heatingIds_empty] at space ⊢
    rw [speichern_empty (not_mem_heatingIds history) space, pendingDemand,
      if_neg (not_displaced_empty history waermebedarf), latest_concat, Function.update_self]
  · rw [pendingDemand_concat marker]
    by_cases known : id ∈ reportedKeys history
    · rw [if_pos known, heatingIds_old known]
      exact speichern_old distinct ((mem_heatingIds marker).mpr known)
    · rw [reportedKeys_concat_new waermebedarf known, List.length_append] at few
      have space : (heatingIds history).length < maxAnzHeizungen :=
        Nat.lt_of_le_of_lt (List.length_filter_le ..) (Nat.lt_of_succ_le few)
      rw [if_neg known, heatingIds_new marker known]
      exact speichern_new (not_mem_heatingIds history) space
        (mt (mem_heatingIds marker).mp known) marker

theorem reports_concat {frames : List CanixFrame} {frame : CanixFrame}
    (info : frame.data[1] = hcanHesHeizungWaermebedarfInfo) :
    reports (frames ++ [frame]) = reports frames ++ [(frame.data[2], frame.data[3])] := by
  have chosen : (frame.data[1] == hcanHesHeizungWaermebedarfInfo) = true := beq_iff_eq.mpr info
  simp only [reports, List.filter_append, List.map_append, List.filter_cons, chosen, if_true,
    List.filter_nil, List.map_cons, List.map_nil]

theorem reports_concat_other {frames : List CanixFrame} {frame : CanixFrame}
    (other : frame.data[1] ≠ hcanHesHeizungWaermebedarfInfo) :
    reports (frames ++ [frame]) = reports frames := by
  have passed : (frame.data[1] == hcanHesHeizungWaermebedarfInfo) = false :=
    beq_eq_false_iff_ne.mpr other
  simp only [reports, List.filter_append, List.filter_cons, passed, Bool.false_eq_true, if_false,
    List.filter_nil, List.append_nil]

/-- The run lemma. -/
theorem pumpRun_heizung (self : UInt16) (config : EdsZentralheizungspumpeBlock)
    {frames : List CanixFrame} (few : (reportedKeys (reports frames)).length ≤ maxAnzHeizungen) :
    (pumpRun self config frames).config = config ∧
      (pumpRun self config frames).heizung = pumpTable (heatingIds (reports frames))
        (latest 0 (reports frames)) (pendingDemand (reports frames)) := by
  induction frames using List.reverseRecOn with
  | nil => exact ⟨rfl, rfl⟩
  | append_singleton frames frame ih =>
      rw [pumpRun, List.foldl_concat]
      change (pumpStep self (pumpRun self config frames) frame).1.config = config ∧
        (pumpStep self (pumpRun self config frames) frame).1.heizung = _
      by_cases info : frame.data[1] = hcanHesHeizungWaermebedarfInfo
      · rw [reports_concat info] at few ⊢
        obtain ⟨kept, table⟩ := ih (Nat.le_trans (reportedKeys_length_concat _) few)
        rw [pumpStep, if_pos info]
        refine ⟨kept, ?_⟩
        rw [← speichern_report few, ← table]
      · rw [reports_concat_other info] at few ⊢
        rw [pumpStep, if_neg info]
        exact ih few

end Run

section Mean

variable {ids : List UInt8} {demand : UInt8 → UInt8} {pending : UInt8}
  {history : List (UInt8 × UInt8)}

/-- Demands of zero do not change the sum. -/
theorem getMittlererWaermebedarf_eq (heizung : List Waermebedarf) :
    getMittlererWaermebedarf heizung =
      (heizung.map fun entry => entry.waermebedarf.toNat).sum % 256 /
        heizung.countP fun entry => entry.waermebedarf > 0 := by
  have sum : ((heizung.filter fun entry => entry.waermebedarf > 0).map
      fun entry => entry.waermebedarf.toNat).sum =
      (heizung.map fun entry => entry.waermebedarf.toNat).sum := by
    induction heizung with
    | nil => rfl
    | cons entry heizung ih =>
        rw [List.map_cons, List.sum_cons, ← ih, List.filter_cons]
        split
        · rw [List.map_cons, List.sum_cons]
        · next zero =>
            have none : entry.waermebedarf = 0 :=
              UInt8.le_zero_iff.mp (UInt8.not_lt.mp (mt decide_eq_true zero))
            rw [none]
            exact (Nat.zero_add _).symm
  rw [getMittlererWaermebedarf, ← sum, ← List.countP_eq_length_filter]
  split
  · next none => rw [none, Nat.zero_mod, Nat.zero_div]
  · rfl

theorem pumpTable_sum (space : ids.length < maxAnzHeizungen ∨ pending = 0) :
    ((pumpTable ids demand pending).map fun entry => entry.waermebedarf.toNat).sum =
      demandSum ids demand + pending.toNat := by
  have fields (n : Nat) (some : 0 < n ∨ pending = 0) :
      ((emptyFields pending n).map fun entry => entry.waermebedarf.toNat).sum = pending.toNat := by
    cases n with
    | zero => rw [some.resolve_left (Nat.lt_irrefl 0)]; rfl
    | succ n => simp [emptyFields]
  rw [pumpTable, List.map_append, List.sum_append, fields _ (space.imp_left Nat.sub_pos_of_lt),
    List.map_map]
  rfl

theorem pumpTable_count (space : ids.length < maxAnzHeizungen ∨ pending = 0) :
    ((pumpTable ids demand pending).countP fun entry => entry.waermebedarf > 0) =
      demandCount ids demand + if pending > 0 then 1 else 0 := by
  have fields (n : Nat) (some : 0 < n ∨ pending = 0) :
      ((emptyFields pending n).countP fun entry => entry.waermebedarf > 0) =
        if pending > 0 then 1 else 0 := by
    cases n with
    | zero => rw [some.resolve_left (Nat.lt_irrefl 0)]; rfl
    | succ n => simp [emptyFields, List.countP_cons, List.countP_replicate]
  rw [pumpTable, List.countP_append, fields _ (space.imp_left Nat.sub_pos_of_lt),
    List.countP_map]
  rfl

/-- The reported ids are those of the table and the one that marks an empty field. -/
theorem reportedKeys_perm (reported : 255 ∈ reportedKeys history) :
    (reportedKeys history).Perm (255 :: heatingIds history) := by
  have erased : (reportedKeys history).erase 255 = heatingIds history :=
    (reportedKeys_nodup history).erase_eq_filter 255
  rw [← erased]
  exact List.perm_cons_erase reported

theorem heatingIds_eq (unreported : 255 ∉ reportedKeys history) :
    heatingIds history = reportedKeys history := by
  apply List.filter_eq_self.mpr
  intro id listed
  apply bne_iff_ne.mpr
  rintro rfl
  exact unreported listed

theorem demandSum_split (history : List (UInt8 × UInt8)) :
    demandSum (reportedKeys history) (latest 0 history) =
      demandSum (heatingIds history) (latest 0 history) + (latest 0 history 255).toNat := by
  by_cases reported : 255 ∈ reportedKeys history
  · unfold demandSum
    rw [((reportedKeys_perm reported).map _).sum_nat, List.map_cons, List.sum_cons, Nat.add_comm]
  · rw [heatingIds_eq reported, latest_of_unreported reported]
    rfl

theorem demandCount_split (history : List (UInt8 × UInt8)) :
    demandCount (reportedKeys history) (latest 0 history) =
      demandCount (heatingIds history) (latest 0 history) +
        if latest 0 history 255 > 0 then 1 else 0 := by
  by_cases reported : 255 ∈ reportedKeys history
  · unfold demandCount
    rw [(reportedKeys_perm reported).countP_eq, List.countP_cons]
    simp only [decide_eq_true_eq]
  · rw [heatingIds_eq reported, latest_of_unreported reported]
    rfl

/-- The mean that the pump computes from its table. -/
theorem getMittlererWaermebedarf_run
    (few : (reportedKeys history).length ≤ maxAnzHeizungen) :
    let sum := demandSum (reportedKeys history) (latest 0 history)
    let count := demandCount (reportedKeys history) (latest 0 history)
    getMittlererWaermebedarf
        (pumpTable (heatingIds history) (latest 0 history) (pendingDemand history)) =
      if Displaced history then (sum - (latest 0 history 255).toNat) % 256 / (count - 1)
      else sum % 256 / count := by
  have space : (heatingIds history).length < maxAnzHeizungen ∨ pendingDemand history = 0 := by
    by_cases reported : 255 ∈ reportedKeys history
    · exact .inl (heatingIds_lt few reported)
    · right
      rw [pendingDemand, latest_of_unreported reported, ite_self]
  intro sum count
  rw [getMittlererWaermebedarf_eq, pumpTable_sum space, pumpTable_count space, pendingDemand]
  have sumIs : sum = _ := demandSum_split history
  have countIs : count = _ := demandCount_split history
  by_cases displaced : Displaced history
  · rw [if_pos displaced, if_pos displaced, sumIs, countIs, if_pos displaced.1,
      Nat.add_sub_cancel, Nat.add_sub_cancel]
    rfl
  · rw [if_neg displaced, if_neg displaced, sumIs, countIs]

theorem demandSum_le (ids : List UInt8) (demand : UInt8 → UInt8) :
    demandSum ids demand ≤ 255 * demandCount ids demand := by
  induction ids with
  | nil => exact Nat.le_refl 0
  | cons id ids ih =>
      have bound : (demand id).toNat ≤ 255 * if demand id > 0 then 1 else 0 := by
        split
        · exact Nat.le_of_lt_succ (demand id).toNat_lt
        · next zero => rw [UInt8.le_zero_iff.mp (UInt8.not_lt.mp zero)]; exact Nat.le_refl 0
      have sum : demandSum (id :: ids) demand = (demand id).toNat + demandSum ids demand :=
        List.sum_cons
      have count : demandCount (id :: ids) demand =
          demandCount ids demand + if demand id > 0 then 1 else 0 := by
        rw [demandCount, List.countP_cons]
        simp only [decide_eq_true_eq]
        rfl
      omega

theorem pumpCommand_eq_on {mean : Nat} : pumpCommand mean = some true ↔ 10 ≤ mean := by
  unfold pumpCommand einschaltSchwelle
  split
  · next on => exact iff_of_true rfl on
  · next low => exact iff_of_false (by split <;> simp) low

/-- The low byte of a sum calls for the same command. -/
theorem pumpCommand_byte_iff {sum count : Nat} (bounded : sum ≤ 255 * count) (few : count ≤ 15) :
    pumpCommand (sum % 256 / count) = pumpCommand (sum / count) ↔
      sum < 256 ∨ 10 * count ≤ sum % 256 := by
  by_cases fits : sum < 256
  · rw [Nat.mod_eq_of_lt fits]
    exact iff_of_true rfl (.inl fits)
  · have positive : 0 < count := by omega
    have calls : pumpCommand (sum / count) = some true :=
      pumpCommand_eq_on.mpr ((Nat.le_div_iff_mul_le positive).mpr (by omega))
    rw [calls, pumpCommand_eq_on, Nat.le_div_iff_mul_le positive]
    exact (or_iff_right fits).symm

end Mean

/-! ## The law -/

theorem pumpMessages_inj {self : UInt16} {gruppe : UInt8} {first second : Option Bool} :
    pumpMessages self gruppe first = pumpMessages self gruppe second ↔ first = second := by
  constructor
  · intro same
    have codes := congrArg (List.map fun frame : CanixFrame => frame.data[1]) same
    cases first with
    | none =>
        cases second with
        | none => rfl
        | some active => exact absurd codes (List.cons_ne_nil _ _).symm
    | some before =>
        cases second with
        | none => exact absurd codes (List.cons_ne_nil _ _)
        | some active =>
            have code : (if before then hcanHesPowerGroupOn else hcanHesPowerGroupOff) =
              if active then hcanHesPowerGroupOn else hcanHesPowerGroupOff :=
                (List.cons.inj codes).1
            revert code
            cases before <;> cases active <;> decide
  · rintro rfl
    rfl

/-- Behind a message about a demand the pump follows the mean demand exactly as long as the
low byte of the sum does and no demand has been displaced that matters. -/
theorem pump_follows_iff (self : UInt16) (config : EdsZentralheizungspumpeBlock)
    (frames : List CanixFrame) (frame : CanixFrame)
    (info : frame.data[1] = hcanHesHeizungWaermebedarfInfo)
    (few : (reportedKeys (reports (frames ++ [frame]))).length ≤ maxAnzHeizungen) :
    (pumpStep self (pumpRun self config frames) frame).2 =
        pumpMessages self config.gruppe (pumpCommand (meanDemand (reports (frames ++ [frame])))) ↔
      PumpRight (reports (frames ++ [frame])) := by
  have before : (reportedKeys (reports frames)).length ≤ maxAnzHeizungen := by
    rw [reports_concat info] at few
    exact Nat.le_trans (reportedKeys_length_concat _) few
  obtain ⟨kept, table⟩ := pumpRun_heizung self config before
  have mean := getMittlererWaermebedarf_run few
  rw [pumpStep, if_pos info]
  dsimp only
  rw [kept, table, pumpMessages_inj]
  rw [reports_concat info] at few mean ⊢
  rw [speichern_report few, mean, PumpRight, meanDemand]
  split
  · exact Iff.rfl
  · exact pumpCommand_byte_iff (demandSum_le ..) (Nat.le_trans List.countP_le_length few)

def demandFrame (id waermebedarf : UInt8) : CanixFrame :=
  hesFrame 300 hcanMulticastInfo 4 hcanHesHeizungWaermebedarfInfo id waermebedarf 0 0 0 0

/-- Three heatings report their demands, the first one twice, and keep the pump on. -/
theorem threeDemands_follow :
    (pumpStep 20 (pumpRun 20 ⟨0, 0, 7⟩
        [demandFrame 1 100, demandFrame 2 40, demandFrame 1 90]) (demandFrame 3 70)).2 =
      pumpMessages 20 7 (pumpCommand (meanDemand (reports
        [demandFrame 1 100, demandFrame 2 40, demandFrame 1 90, demandFrame 3 70]))) := by
  refine (pump_follows_iff 20 ⟨0, 0, 7⟩ [demandFrame 1 100, demandFrame 2 40, demandFrame 1 90]
    (demandFrame 3 70) (by decide) (by decide)).mpr ?_
  rw [PumpRight, if_neg (by decide)]
  exact .inl (by decide)

/-- Two heatings with a demand of 128 each switch it off. -/
theorem twoHighDemands_off :
    (pumpStep 20 (pumpRun 20 ⟨0, 0, 7⟩ [demandFrame 1 128]) (demandFrame 2 128)).2 =
        pumpMessages 20 7 (some false) ∧
      meanDemand (reports [demandFrame 1 128, demandFrame 2 128]) = 128 ∧
      pumpCommand 128 = some true := by
  decide

end Hcan.Hauselektrik
