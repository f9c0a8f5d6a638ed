import Hcan.Library.Bits
import Hcan.Library.Machine
import Hcan.Userpanel.Edits

/-!
# The range of an edit

The keys UP and DOWN step the edited values by 10, by 2 and along a grid of quarters of an hour.
Values on these grids stay in their range; the ones between leave it.
-/

namespace Hcan.Userpanel

open Hcan.Canix Hcan.Hauselektrik Hcan.Library

/-- The keys that change an edit. -/
inductive EditKey where
  | up
  | down
  deriving DecidableEq, Repr

def EditKey.taste : EditKey → Taste
  | .up => .up
  | .down => .down

def editKey (subpage : ℕ) (edit : HeizEdit) : EditKey → HeizEdit
  | .up => edit.up subpage
  | .down => edit.down subpage

/-- Values that a heating reports. -/
structure EditInRange (edit : HeizEdit) : Prop where
  rate : edit.rate.toNat ≤ 100
  tsoll : 0 ≤ edit.tsoll.toInt ∧ edit.tsoll.toInt ≤ 480
  dauer : edit.dauer.toNat ≤ 43200

/-- The key keeps the range, and a limited time limited. -/
def KeyKeepsRange (subpage : ℕ) (edit : HeizEdit) (key : EditKey) : Prop :=
  EditInRange (editKey subpage edit key) ∧ (edit.dauer ≠ 0 → (editKey subpage edit key).dauer ≠ 0)

/-- The value that the keys change lies on its grid; a time does not lie between one and two
quarters of an hour. -/
structure OnGrid (subpage : ℕ) (edit : HeizEdit) : Prop where
  rate : subpage = 1 → edit.mode = .manual → edit.rate.toNat % 10 = 0
  tsoll : subpage = 1 → edit.mode = .thermostat → edit.tsoll.toInt % 2 = 0
  dauer : subpage = 2 → edit.mode = .manual ∨ edit.mode = .thermostat →
    edit.dauer.toNat ≤ 900 ∨ 1800 ≤ edit.dauer.toNat

theorem rate_up {rate : UInt8} (small : rate.toNat < 100) :
    (rate + 10).toNat = rate.toNat + 10 := by
  rw [UInt8.toNat_add]
  change (rate.toNat + 10) % 256 = _
  omega

theorem rate_down {rate : UInt8} (large : 10 ≤ rate.toNat) :
    (rate - 10).toNat = rate.toNat - 10 :=
  UInt8.toNat_sub_of_le _ _ (UInt8.le_iff_toNat_le.mpr large)

theorem tsoll_up {tsoll : Int16} (small : tsoll.toInt ≤ 480) (least : 0 ≤ tsoll.toInt) :
    (tsoll + 2).toInt = tsoll.toInt + 2 := by
  rw [Int16.toInt_add]
  exact Int.bmod_eq_of_le (show -_ ≤ _ + 2 by omega) (show _ + 2 < _ by omega)

theorem tsoll_down {tsoll : Int16} (small : tsoll.toInt ≤ 480) (least : 0 ≤ tsoll.toInt) :
    (tsoll - 2).toInt = tsoll.toInt - 2 := by
  rw [Int16.toInt_sub]
  exact Int.bmod_eq_of_le (show -_ ≤ _ - 2 by omega) (show _ - 2 < _ by omega)

theorem dauer_up {dauer : UInt16} (small : dauer.toNat < 43200) :
    (dauer / 900 * 900 + 900).toNat = dauer.toNat / 900 * 900 + 900 := by
  rw [UInt16.toNat_add, UInt16.toNat_mul, UInt16.toNat_div]
  change (dauer.toNat / 900 * 900 % 65536 + 900) % 65536 = _
  omega

theorem dauer_down {dauer : UInt16} (large : 900 < dauer.toNat) :
    (dauer / 900 * 900 - 900).toNat = dauer.toNat / 900 * 900 - 900 := by
  have bound := dauer.toNat_lt
  have rows : (dauer / 900 * 900).toNat = dauer.toNat / 900 * 900 := by
    rw [UInt16.toNat_mul, UInt16.toNat_div]
    change dauer.toNat / 900 * 900 % 65536 = _
    omega
  rw [UInt16.toNat_sub_of_le _ _ (UInt16.le_iff_toNat_le.mpr (show 900 ≤ _ by omega)), rows]
  rfl

section Keys

variable {subpage : ℕ} {edit : HeizEdit}

/-- What a key does to an edit: nothing but for the value of the subpage. -/
theorem editKey_cases (subpage : ℕ) (edit : HeizEdit) (key : EditKey) :
    (∃ mode, editKey subpage edit key = { edit with mode := mode } ∧
        (subpage ≠ 0 → mode = edit.mode)) ∨
      (subpage = 1 ∧ edit.mode = .manual ∧
        (key = .up ∧ edit.rate < 100 ∧
            editKey subpage edit key = { edit with rate := edit.rate + 10 } ∨
          key = .down ∧ edit.rate > 0 ∧
            editKey subpage edit key = { edit with rate := edit.rate - 10 })) ∨
      (subpage = 1 ∧ edit.mode = .thermostat ∧
        (key = .up ∧ edit.tsoll < 480 ∧
            editKey subpage edit key = { edit with tsoll := edit.tsoll + 2 } ∨
          key = .down ∧ edit.tsoll > 0 ∧
            editKey subpage edit key = { edit with tsoll := edit.tsoll - 2 })) ∨
      (subpage = 2 ∧ (edit.mode = .manual ∨ edit.mode = .thermostat) ∧
        (key = .up ∧ edit.dauer < 43200 ∧
            editKey subpage edit key = { edit with dauer := edit.dauer / 900 * 900 + 900 } ∨
          key = .down ∧ edit.dauer > 900 ∧
            editKey subpage edit key = { edit with dauer := edit.dauer / 900 * 900 - 900 })) := by
  have kept {page : ℕ} {other : HeizEdit} (unchanged : other = edit) :
      ∃ mode, other = { edit with mode := mode } ∧ (page ≠ 0 → mode = edit.mode) :=
    ⟨edit.mode, unchanged, fun _ => rfl⟩
  match subpage with
  | 0 =>
      left
      cases key with
      | up => exact ⟨modeUp edit.mode, rfl, fun other => absurd rfl other⟩
      | down => exact ⟨modeDown edit.mode, rfl, fun other => absurd rfl other⟩
  | 1 =>
      cases mode : edit.mode with
      | off =>
          rw [← mode]
          exact .inl (kept (by cases key <;> simp only [editKey, HeizEdit.up, HeizEdit.down, mode]))
      | automatik =>
          rw [← mode]
          exact .inl (kept (by cases key <;> simp only [editKey, HeizEdit.up, HeizEdit.down, mode]))
      | manual =>
          rw [← mode]
          cases key with
          | up =>
              by_cases small : edit.rate < 100
              · exact .inr (.inl ⟨rfl, rfl, .inl ⟨rfl, small, by
                  simp only [editKey, HeizEdit.up, mode, if_pos small]⟩⟩)
              · exact .inl (kept (by simp only [editKey, HeizEdit.up, mode, if_neg small]))
          | down =>
              by_cases large : edit.rate > 0
              · exact .inr (.inl ⟨rfl, rfl, .inr ⟨rfl, large, by
                  simp only [editKey, HeizEdit.down, mode, if_pos large]⟩⟩)
              · exact .inl (kept (by simp only [editKey, HeizEdit.down, mode, if_neg large]))
      | thermostat =>
          rw [← mode]
          cases key with
          | up =>
              by_cases small : edit.tsoll < 480
              · exact .inr (.inr (.inl ⟨rfl, rfl, .inl ⟨rfl, small, by
                  simp only [editKey, HeizEdit.up, mode, if_pos small]⟩⟩))
              · exact .inl (kept (by simp only [editKey, HeizEdit.up, mode, if_neg small]))
          | down =>
              by_cases large : edit.tsoll > 0
              · exact .inr (.inr (.inl ⟨rfl, rfl, .inr ⟨rfl, large, by
                  simp only [editKey, HeizEdit.down, mode, if_pos large]⟩⟩))
              · exact .inl (kept (by simp only [editKey, HeizEdit.down, mode, if_neg large]))
  | 2 =>
      cases key with
      | up =>
          by_cases small : (edit.mode = .manual ∨ edit.mode = .thermostat) ∧ edit.dauer < 43200
          · exact .inr (.inr (.inr ⟨rfl, small.1, .inl ⟨rfl, small.2, if_pos small⟩⟩))
          · exact .inl (kept (if_neg small))
      | down =>
          by_cases large : (edit.mode = .manual ∨ edit.mode = .thermostat) ∧ edit.dauer > 900
          · exact .inr (.inr (.inr ⟨rfl, large.1, .inr ⟨rfl, large.2, if_pos large⟩⟩))
          · exact .inl (kept (if_neg large))
  | other + 3 =>
      left
      cases key with
      | up => exact ⟨edit.mode, rfl, fun _ => rfl⟩
      | down => exact ⟨edit.mode, rfl, fun _ => rfl⟩

theorem onGrid_rate (range : EditInRange edit) (manual : edit.mode = .manual) {rate : UInt8}
    (small : rate.toNat ≤ 100) (tens : rate.toNat % 10 = 0) :
    EditInRange { edit with rate := rate } ∧ OnGrid 1 { edit with rate := rate } := by
  refine ⟨⟨small, range.tsoll, range.dauer⟩, fun _ _ => tens, fun _ thermostat => ?_,
    fun second => absurd second (by decide)⟩
  exact absurd (manual.symm.trans thermostat) (by decide)

theorem onGrid_tsoll (range : EditInRange edit) (thermostat : edit.mode = .thermostat)
    {tsoll : Int16} (bounded : 0 ≤ tsoll.toInt ∧ tsoll.toInt ≤ 480)
    (even : tsoll.toInt % 2 = 0) :
    EditInRange { edit with tsoll := tsoll } ∧ OnGrid 1 { edit with tsoll := tsoll } := by
  refine ⟨⟨range.rate, bounded, range.dauer⟩, fun _ manual => ?_, fun _ _ => even,
    fun second => absurd second (by decide)⟩
  exact absurd (thermostat.symm.trans manual) (by decide)

theorem onGrid_dauer (range : EditInRange edit) {dauer : UInt16} (small : dauer.toNat ≤ 43200)
    (quarters : dauer.toNat ≤ 900 ∨ 1800 ≤ dauer.toNat) :
    EditInRange { edit with dauer := dauer } ∧ OnGrid 2 { edit with dauer := dauer } :=
  ⟨⟨range.rate, range.tsoll, small⟩, fun one => absurd one (by decide),
    fun one => absurd one (by decide), fun _ _ => quarters⟩

theorem ne_zero_of_toNat {dauer : UInt16} (positive : 0 < dauer.toNat) : dauer ≠ 0 := by
  rintro rfl
  exact Nat.lt_irrefl 0 positive

/-- On the grid a key keeps the range and the grid. -/
theorem onGrid_key (range : EditInRange edit) (grid : OnGrid subpage edit) (key : EditKey) :
    KeyKeepsRange subpage edit key ∧ OnGrid subpage (editKey subpage edit key) := by
  have kept {next : HeizEdit} (is : editKey subpage edit key = next)
      (held : EditInRange next ∧ OnGrid subpage next) (limited : edit.dauer ≠ 0 → next.dauer ≠ 0) :
      KeyKeepsRange subpage edit key ∧ OnGrid subpage (editKey subpage edit key) := by
    rw [KeyKeepsRange, is]
    exact ⟨⟨held.1, limited⟩, held.2⟩
  obtain ⟨low, high⟩ := range.tsoll
  rcases editKey_cases subpage edit key with ⟨mode, next, same⟩ | ⟨rfl, manual, step⟩ |
    ⟨rfl, thermostat, step⟩ | ⟨rfl, timed, step⟩
  · refine kept next ⟨⟨range.rate, range.tsoll, range.dauer⟩, ?_, ?_, ?_⟩ id
    · exact fun first manual => grid.rate first ((same (by omega)).symm.trans manual)
    · exact fun first thermostat => grid.tsoll first ((same (by omega)).symm.trans thermostat)
    · intro second timed
      refine grid.dauer second ?_
      rwa [same (by omega)] at timed
  · have tens := grid.rate rfl manual
    rcases step with ⟨-, small, next⟩ | ⟨-, large, next⟩
    · have bound : edit.rate.toNat < 100 := UInt8.lt_iff_toNat_lt.mp small
      have up := rate_up bound
      exact kept next (onGrid_rate range manual (by omega) (by omega)) id
    · have bound : 0 < edit.rate.toNat := UInt8.lt_iff_toNat_lt.mp large
      have most := range.rate
      have down : (edit.rate - 10).toNat = edit.rate.toNat - 10 := rate_down (by omega)
      exact kept next (onGrid_rate range manual (by omega) (by omega)) id
  · have even := grid.tsoll rfl thermostat
    rcases step with ⟨-, small, next⟩ | ⟨-, large, next⟩
    · have bound : edit.tsoll.toInt < 480 := Int16.lt_iff_toInt_lt.mp small
      have up := tsoll_up high low
      exact kept next (onGrid_tsoll range thermostat (by omega) (by omega)) id
    · have bound : 0 < edit.tsoll.toInt := Int16.lt_iff_toInt_lt.mp large
      have down := tsoll_down high low
      exact kept next (onGrid_tsoll range thermostat (by omega) (by omega)) id
  · have quarters := grid.dauer rfl timed
    have most := range.dauer
    rcases step with ⟨-, small, next⟩ | ⟨-, large, next⟩
    · have bound : edit.dauer.toNat < 43200 := UInt16.lt_iff_toNat_lt.mp small
      have up := dauer_up bound
      exact kept next (onGrid_dauer range (by omega) (by omega)) fun _ =>
        ne_zero_of_toNat (show 0 < (edit.dauer / 900 * 900 + 900).toNat by omega)
    · have bound : 900 < edit.dauer.toNat := UInt16.lt_iff_toNat_lt.mp large
      have down := dauer_down bound
      exact kept next (onGrid_dauer range (by omega) (by omega)) fun _ =>
        ne_zero_of_toNat (show 0 < (edit.dauer / 900 * 900 - 900).toNat by omega)

/-- Every sequence of keys keeps the range. -/
def KeepsRange (subpage : ℕ) (edit : HeizEdit) : Prop :=
  ∀ keys, AlwaysFits (editKey subpage) (KeyKeepsRange subpage) edit keys

theorem KeepsRange.key (keeps : KeepsRange subpage edit) (key : EditKey) :
    KeyKeepsRange subpage edit key ∧ KeepsRange subpage (editKey subpage edit key) :=
  ⟨(alwaysFits_cons.mp (keeps [key])).1, fun keys => (alwaysFits_cons.mp (keeps (key :: keys))).2⟩

theorem editKey_rate (manual : edit.mode = .manual) (small : edit.rate < 100) :
    editKey 1 edit .up = { edit with rate := edit.rate + 10 } := by
  simp only [editKey, HeizEdit.up, manual, if_pos small]

theorem editKey_tsoll (thermostat : edit.mode = .thermostat) (small : edit.tsoll < 480) :
    editKey 1 edit .up = { edit with tsoll := edit.tsoll + 2 } := by
  simp only [editKey, HeizEdit.up, thermostat, if_pos small]

/-- A rate that goes up stays in its range on the way to 100 only. -/
theorem rate_of_keeps (n : ℕ) (manual : edit.mode = .manual) (range : EditInRange edit)
    (keeps : KeepsRange 1 edit) (rest : 100 ≤ edit.rate.toNat + n) : edit.rate.toNat % 10 = 0 := by
  induction n generalizing edit with
  | zero =>
      have most := range.rate
      omega
  | succ n ih =>
      by_cases full : edit.rate.toNat = 100
      · rw [full]
      · have most := range.rate
        have bound : edit.rate.toNat < 100 := by omega
        have up := rate_up bound
        obtain ⟨⟨inside, -⟩, later⟩ := keeps.key .up
        rw [editKey_rate manual (UInt8.lt_iff_toNat_lt.mpr bound)] at inside later
        have tens : (edit.rate + 10).toNat % 10 = 0 :=
          @ih { edit with rate := edit.rate + 10 } manual inside later
            (show 100 ≤ (edit.rate + 10).toNat + n by omega)
        omega

/-- A temperature that goes up stays in its range on the way to 480 only. -/
theorem tsoll_of_keeps (n : ℕ) (thermostat : edit.mode = .thermostat) (range : EditInRange edit)
    (keeps : KeepsRange 1 edit) (rest : 480 ≤ edit.tsoll.toInt + n) :
    edit.tsoll.toInt % 2 = 0 := by
  induction n generalizing edit with
  | zero =>
      have most := range.tsoll.2
      omega
  | succ n ih =>
      obtain ⟨low, high⟩ := range.tsoll
      by_cases full : edit.tsoll.toInt = 480
      · rw [full]
        rfl
      · have bound : edit.tsoll.toInt < 480 := by omega
        have up := tsoll_up high low
        obtain ⟨⟨inside, -⟩, later⟩ := keeps.key .up
        rw [editKey_tsoll thermostat (Int16.lt_iff_toInt_lt.mpr bound)] at inside later
        have even : (edit.tsoll + 2).toInt % 2 = 0 :=
          @ih { edit with tsoll := edit.tsoll + 2 } thermostat inside later
            (show 480 ≤ (edit.tsoll + 2).toInt + n by omega)
        omega

theorem dauer_of_keeps (timed : edit.mode = .manual ∨ edit.mode = .thermostat)
    (keeps : KeepsRange 2 edit) : edit.dauer.toNat ≤ 900 ∨ 1800 ≤ edit.dauer.toNat := by
  by_contra between
  have bound : 900 < edit.dauer.toNat := by omega
  have pressed : editKey 2 edit .down = { edit with dauer := edit.dauer / 900 * 900 - 900 } :=
    if_pos ⟨timed, UInt16.lt_iff_toNat_lt.mpr bound⟩
  obtain ⟨⟨-, limited⟩, -⟩ := keeps.key .down
  rw [pressed] at limited
  have down := dauer_down bound
  refine limited (ne_zero_of_toNat (by omega)) (UInt16.toNat_inj.mp ?_)
  change (edit.dauer / 900 * 900 - 900).toNat = 0
  omega

/-- The range is kept from the grid and from nowhere else. -/
theorem keepsRange_iff (range : EditInRange edit) :
    KeepsRange subpage edit ↔ OnGrid subpage edit := by
  constructor
  · intro keeps
    refine ⟨?_, ?_, ?_⟩
    · rintro rfl manual
      exact rate_of_keeps 100 manual range keeps (Nat.le_add_left 100 _)
    · rintro rfl thermostat
      refine tsoll_of_keeps 480 thermostat range keeps ?_
      have low := range.tsoll.1
      omega
    · rintro rfl timed
      exact dauer_of_keeps timed keeps
  · intro grid keys
    refine alwaysFits_of_holds (fun edit => EditInRange edit ∧ OnGrid subpage edit)
      ⟨range, grid⟩ ?_ ?_
    · rintro edit key ⟨range, grid⟩
      obtain ⟨⟨inside, -⟩, grid⟩ := onGrid_key range grid key
      exact ⟨inside, grid⟩
    · rintro edit key ⟨range, grid⟩
      exact (onGrid_key range grid key).1

end Keys

/-! ## The panel -/

section Panel

variable (self : UInt16) (pages : UInt8 → LcdPage) (heiz : UInt8) (stack : CanixFrame)

/-- A key that is pressed on a page of the heating `heiz`. -/
def pressKey (s : Panel) (key : EditKey) : Panel :=
  (heizPageHandleKeyDownEvent self pages s heiz key.taste stack).1

/-- Every key of the sequence keeps the range of the panel's edit. -/
def PanelKeepsRange (s : Panel) (keys : List EditKey) : Prop :=
  AlwaysFits (pressKey self pages heiz stack)
    (fun s key =>
      EditInRange (pressKey self pages heiz stack s key).heizPage.edit ∧
        (s.heizPage.edit.dauer ≠ 0 →
          (pressKey self pages heiz stack s key).heizPage.edit.dauer ≠ 0)) s keys

/-- In an edit the keys change the edit and nothing else. -/
theorem pressKey_edit {s : Panel} (editing : s.heizPage.state = .edit) (key : EditKey) :
    pressKey self pages heiz stack s key = { s with heizPage := { s.heizPage with
      edit := editKey s.heizPage.subpage s.heizPage.edit key } } := by
  unfold pressKey heizPageHandleKeyDownEvent
  cases key with
  | up => simp only [EditKey.taste, editing, heizPagePrintPage, editKey]
  | down => simp only [EditKey.taste, editing, heizPagePrintPage, editKey]

theorem panelKeepsRange_iff {s : Panel} (editing : s.heizPage.state = .edit)
    (keys : List EditKey) : PanelKeepsRange self pages heiz stack s keys ↔
      AlwaysFits (editKey s.heizPage.subpage) (KeyKeepsRange s.heizPage.subpage) s.heizPage.edit
        keys := by
  unfold PanelKeepsRange
  induction keys generalizing s with
  | nil => exact iff_of_true alwaysFits_nil alwaysFits_nil
  | cons key keys ih =>
      rw [alwaysFits_cons, alwaysFits_cons, pressKey_edit self pages heiz stack editing key]
      exact and_congr Iff.rfl (ih editing)

/-- The keys of an edit keep its range exactly when it begins on the grid. -/
theorem edit_range_iff {s : Panel} (editing : s.heizPage.state = .edit)
    (range : EditInRange s.heizPage.edit) :
    (∀ keys, PanelKeepsRange self pages heiz stack s keys) ↔
      OnGrid s.heizPage.subpage s.heizPage.edit := by
  rw [← keepsRange_iff range]
  exact forall_congr' (panelKeepsRange_iff self pages heiz stack editing)

end Panel

/-- An edit of the time that a manual mode has left. -/
def timeEdit (dauer : UInt16) : Panel where
  heizPage :=
    { expected := 0
      heizId := 0
      details := ⟨.manual, 50, 0, 0, dauer⟩
      edit := ⟨.manual, 50, 0, dauer⟩
      subpage := 2
      state := .edit }
  activePage := ⟨edsHeizPageBlockId, 1, 5⟩
  sleeping := .awake

theorem timeEdit_inRange {dauer : UInt16} (small : dauer.toNat ≤ 43200) :
    EditInRange (timeEdit dauer).heizPage.edit where
  rate := show 50 ≤ 100 by decide
  tsoll := show 0 ≤ (0 : Int16).toInt ∧ (0 : Int16).toInt ≤ 480 by decide
  dauer := small

/-- An hour stays a limited time. -/
theorem edit_range_hour : PanelKeepsRange 1 (fun _ => ⟨0, 0, 0⟩) 5 emptyStack (timeEdit 3600)
    [.down, .down, .down, .down, .down] := by
  have range : EditInRange (timeEdit 3600).heizPage.edit := timeEdit_inRange (by decide)
  have grid : OnGrid 2 (timeEdit 3600).heizPage.edit :=
    ⟨fun one => absurd one (by decide), fun one => absurd one (by decide),
      fun _ _ => .inr (by decide)⟩
  exact (edit_range_iff 1 (fun _ => ⟨0, 0, 0⟩) 5 emptyStack rfl range).mpr grid _

/-- A key DOWN with 25 minutes left sets no limit. -/
theorem edit_range_fails :
    ¬ PanelKeepsRange 1 (fun _ => ⟨0, 0, 0⟩) 5 emptyStack (timeEdit 1500) [.down] := by
  intro keeps
  have limited := (alwaysFits_cons.mp keeps).1.2
  exact limited (by decide) (by decide)

end Hcan.Userpanel
