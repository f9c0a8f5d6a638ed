import Hcan.Userpanel.Pages

/-!
# Moving through the pages

Runs of keys and timers over a configuration that no EDS request changes: what they keep, the
shortcuts of the F keys, and the way back with ESC.
-/

namespace Hcan.Userpanel

open Hcan.Canix Hcan.Eds Hcan.Library

variable {mcu : Mcu}

/-- The page that an event asks for. -/
inductive Aim where
  | stays
  | load (page : UInt8)
  | child
  | error
  deriving DecidableEq, Repr

def linkAim (link : UInt8) : Aim := if link = 0 then .stays else .load link

def moveAim (page : LcdpageT) (taste : Taste) (own : PageState) : Aim :=
  if page.blockType ∈ editPages then
    if taste = .esc ∧ own = .view then linkAim page.parentId else .stays
  else
    match taste with
    | .ok =>
        if page.blockType ∈ [edsScreensaverPageBlockId, edsDirPageBlockId] then .child else .stays
    | .esc => linkAim page.parentId
    | .up => linkAim page.prevId
    | .down => linkAim page.nextId
    | .other => .stays

def aimOf (path : List ℕ) (s : Lcdstate mcu) : LcdEvent → Aim
  | .keyDown taste own => moveAim s.activePage taste own
  | .keyUp (some n) =>
      match shortcutsAt s.eeprom path with
      | some q => if s.keypressTime < 3 then .load (s.eeprom.cell (q + 2 + n)) else .stays
      | none => .error
  | .keyUp none => .stays
  | .timer => .stays
  | .screensafer => if s.screensaferCountdown = 1 then .load 1 else .stays

/-- The cells behind an event. -/
def savedCell (path : List ℕ) (s : Lcdstate mcu) : LcdEvent → ℕ → UInt8
  | .keyUp (some n) =>
      match shortcutsAt s.eeprom path with
      | some q =>
          if s.keypressTime < 3 then s.eeprom.cell
          else Function.update s.eeprom.cell (q + 2 + n) s.activePage.pageId
      | none => s.eeprom.cell
  | _ => s.eeprom.cell

def Aim.Reached (ee : Eeprom mcu) (path : List ℕ) (before active : LcdpageT) : Aim → Prop
  | .stays => active = before
  | .load page => Loaded ee path page active
  | .child => ChildLoaded ee path before.pageId active
  | .error => ∃ old code, active = loadErrorPage old code

/-- The page asked for, the cells and a pointer inside the page stack. -/
structure LcdDone (path : List ℕ) (s : Lcdstate mcu) (aim : Aim) (cells : ℕ → UInt8)
    (t : Lcdstate mcu) : Prop where
  page : aim.Reached s.eeprom path s.activePage t.activePage
  eeprom : t.eeprom.cell = cells
  stack : s.pageStackPtr ≤ 7 → t.pageStackPtr ≤ 7

section Events

variable {path : List ℕ} {s : Lcdstate mcu} (config : Configured s.eeprom path)

include config

theorem gotoLink_done (link : UInt8) :
    ∃ t, gotoLink s link = some t ∧ LcdDone path s (linkAim link) s.eeprom.cell t := by
  unfold gotoLink linkAim
  by_cases none : link = 0
  · rw [if_pos none, if_pos none]
    exact ⟨s, rfl, rfl, rfl, id⟩
  · rw [if_neg none, if_neg none]
    obtain ⟨active, loaded, shown⟩ := lcdLoadPage_spec config link
    exact ⟨_, loaded, shown, rfl, id⟩

theorem moveOn_done (taste : Taste) (own : PageState) : ∃ t, moveOn s taste own = some t ∧
    LcdDone path s (moveAim s.activePage taste own) s.eeprom.cell t := by
  have stays : LcdDone path s .stays s.eeprom.cell s := ⟨rfl, rfl, id⟩
  unfold moveOn moveAim
  dsimp only
  by_cases edit : s.activePage.blockType ∈ editPages
  · rw [if_pos edit, if_pos edit]
    by_cases up : taste = .esc ∧ own = .view
    · rw [if_pos up, if_pos up]
      exact gotoLink_done config _
    · rw [if_neg up, if_neg up]
      exact ⟨s, rfl, stays⟩
  · rw [if_neg edit, if_neg edit]
    cases taste with
    | ok =>
        dsimp only
        by_cases dir : s.activePage.blockType ∈ [edsScreensaverPageBlockId, edsDirPageBlockId]
        · rw [if_pos dir, if_pos dir]
          obtain ⟨active, stack, ptr, moved, child, bound⟩ := gotoFirstChildPage_spec config
          exact ⟨_, moved, child, rfl, fun small => (bound small).2⟩
        · rw [if_neg dir, if_neg dir]
          exact ⟨s, rfl, stays⟩
    | esc => exact gotoLink_done config _
    | up => exact gotoLink_done config _
    | down => exact gotoLink_done config _
    | other => exact ⟨s, rfl, stays⟩

theorem keyUpPage_done (f : Option (Fin 4)) : ∃ t, keyUpPage s f = some t ∧
    LcdDone path s (aimOf path s (.keyUp f)) (savedCell path s (.keyUp f)) t := by
  cases f with
  | none => exact ⟨s, rfl, rfl, rfl, id⟩
  | some n =>
      have load := loadShortcutPage_spec config n
      have save := saveShortcutPage_spec config n
      unfold keyUpPage aimOf savedCell
      cases found : shortcutsAt s.eeprom path with
      | none =>
          rw [found] at load save
          obtain ⟨active, loaded, old, error⟩ := load
          obtain ⟨active', saved, old', error'⟩ := save
          dsimp only
          split
          · exact ⟨_, loaded, ⟨old, _, error⟩, rfl, id⟩
          · exact ⟨_, saved, ⟨old', _, error'⟩, rfl, id⟩
      | some q =>
          rw [found] at load save
          obtain ⟨active, loaded, shown⟩ := load
          obtain ⟨ee, saved, cells⟩ := save
          dsimp only
          split
          · exact ⟨_, loaded, shown, rfl, id⟩
          · exact ⟨_, saved, rfl, cells, id⟩

/-- Every event is handled. -/
theorem lcdStep_done (event : LcdEvent) : ∃ t, lcdStep s event = some t ∧
    LcdDone path s (aimOf path s event) (savedCell path s event) t := by
  cases event with
  | keyDown taste own =>
      obtain ⟨t, moved, done⟩ := moveOn_done
        (s := { s with screensaferCountdown := 300, keypressTime := 1 }) config taste own
      exact ⟨t, moved, done.page, done.eeprom, done.stack⟩
  | keyUp f =>
      obtain ⟨t, left, done⟩ := keyUpPage_done config f
      refine ⟨{ t with keypressTime := 0 }, ?_, done.page, done.eeprom, done.stack⟩
      change (keyUpPage s f).map _ = _
      rw [left]
      rfl
  | timer => exact ⟨_, rfl, rfl, rfl, id⟩
  | screensafer =>
      unfold lcdStep timerScreensafer aimOf
      dsimp only
      by_cases last : s.screensaferCountdown = 1
      · rw [if_pos (by omega), if_pos (by omega), if_pos last]
        obtain ⟨active, loaded, shown⟩ := lcdLoadPage_spec
          (s := { s with screensaferCountdown := s.screensaferCountdown - 1 }) config 1
        exact ⟨_, loaded, shown, rfl, id⟩
      · rw [if_neg last]
        split
        · rw [if_neg (by omega)]
          exact ⟨_, rfl, rfl, rfl, id⟩
        · exact ⟨_, rfl, rfl, rfl, id⟩

end Events

/-- An event changes an entry of a key at most. -/
theorem savedCell_same (path : List ℕ) (s : Lcdstate mcu) (event : LcdEvent) (address : ℕ)
    (outside : ¬ InShortcuts s.eeprom path address) :
    savedCell path s event address = s.eeprom.cell address := by
  cases event with
  | keyUp f =>
      cases f with
      | none => rfl
      | some n =>
          unfold savedCell
          cases found : shortcutsAt s.eeprom path with
          | none => rfl
          | some q =>
              dsimp only
              split
              · rfl
              · refine Function.update_of_ne ?_ _ _
                rintro rfl
                exact outside ⟨q, found, by omega, by omega⟩
  | keyDown taste own => rfl
  | timer => rfl
  | screensafer => rfl

theorem Loaded.validPage {ee : Eeprom mcu} {path : List ℕ} {page : UInt8} {active : LcdpageT}
    (loaded : Loaded ee path page active) : ValidPage ee path active := by
  unfold Loaded at loaded
  cases found : (pageBlocks ee path).find? (isTarget ee page) with
  | none =>
      rw [found] at loaded
      obtain ⟨old, error⟩ := loaded
      exact .inr ⟨old, _, error⟩
  | some it =>
      rw [found] at loaded
      have target := List.find?_some found
      unfold isTarget at target
      rw [Bool.and_eq_true, decide_eq_true_eq] at target
      exact .inl ⟨it, List.mem_of_find?_eq_some found, target.2, loaded⟩

theorem ChildLoaded.validPage {ee : Eeprom mcu} {path : List ℕ} {self : UInt8} {active : LcdpageT}
    (loaded : ChildLoaded ee path self active) : ValidPage ee path active := by
  unfold ChildLoaded at loaded
  cases found : (pageBlocks ee path).find? (isFirstChild ee self) with
  | none =>
      rw [found] at loaded
      obtain ⟨old, error⟩ := loaded
      exact .inr ⟨old, _, error⟩
  | some it =>
      rw [found] at loaded
      dsimp only at loaded
      by_cases fits : (ee.cell (it + 1)).toNat + 2 ≤ 198
      · rw [if_pos fits] at loaded
        exact .inl ⟨it, List.mem_of_find?_eq_some found, fits, loaded⟩
      · rw [if_neg fits] at loaded
        obtain ⟨old, error⟩ := loaded
        exact .inr ⟨old, _, error⟩

/-- The page behind an event is the one before, one of the configuration or an error page. -/
theorem Aim.Reached.validPage {ee : Eeprom mcu} {path : List ℕ} {before active : LcdpageT}
    {aim : Aim} (reached : aim.Reached ee path before active) :
    active = before ∨ ValidPage ee path active := by
  cases aim with
  | stays => exact .inl reached
  | load page => exact .inr (Loaded.validPage reached)
  | child => exact .inr (ChildLoaded.validPage reached)
  | error => exact .inr (.inr reached)

/-- The shortcuts, the start page 1 with the pages 2 and 3, of which 2 has the page 4, and free
blocks. -/
def menuArea (address : ℕ) : UInt8 :=
  (List.lookup address [(34, 99), (35, 8), (44, 100), (45, 4), (46, 1), (50, 101), (51, 4), (52, 2),
    (53, 1), (54, 3), (56, 103), (57, 4), (58, 3), (59, 1), (61, 2), (62, 103), (63, 4), (64, 4),
    (65, 2), (69, 255), (326, 255), (583, 255), (840, 255), (1097, 255), (1354, 255), (1611, 255),
    (1868, 179)]).getD 0

def menuPath : List ℕ := [34, 44, 50, 56, 62, 68, 325, 582, 839, 1096, 1353, 1610, 1867]

def menuEeprom : Eeprom atmega644 := Eeprom.powerUp menuArea

theorem menuArea_isChain : IsChain atmega644 menuArea menuPath where
  walk := by
    iterate 13 refine .step ?_
    exact .arrived 2048
  below := by decide

theorem menuPages : pageBlocks menuEeprom menuPath = [44, 50, 56, 62] := by decide +kernel

theorem menuConfigured : Configured menuEeprom menuPath where
  chain := menuArea_isChain
  behind := rfl
  noPage := by decide
  links := by
    rw [menuPages]
    decide
  room := by decide

/-- The panel as it is behind every event of a run. -/
structure LcdOrdered (path : List ℕ) (ee : Eeprom mcu) (s : Lcdstate mcu) : Prop where
  eeprom : SameExcept path ee s.eeprom
  page : ValidPage ee path s.activePage
  stack : s.pageStackPtr ≤ 7

section Ordered

variable {ee : Eeprom mcu} {path : List ℕ} {s t : Lcdstate mcu}

theorem LcdOrdered.configured (config : Configured ee path)
    (ordered : LcdOrdered path ee s) : Configured s.eeprom path :=
  ordered.eeprom.configured config

theorem LcdOrdered.step (config : Configured ee path) (ordered : LcdOrdered path ee s)
    {event : LcdEvent} (done : LcdDone path s (aimOf path s event) (savedCell path s event) t) :
    LcdOrdered path ee t where
  eeprom address outside := by
    have entries : InShortcuts s.eeprom path address ↔ InShortcuts ee path address := by
      unfold InShortcuts
      rw [ordered.eeprom.shortcutsAt_eq config]
    rw [done.eeprom, savedCell_same path s event address (outside ∘ entries.mp)]
    exact ordered.eeprom address outside
  page := by
    rcases done.page.validPage with same | valid
    · rw [same]
      exact ordered.page
    · exact (ordered.eeprom.validPage_iff config t.activePage).mp valid
  stack := done.stack ordered.stack

theorem lcdInit_ordered (config : Configured ee path) :
    ∃ first, lcdInit ee = some first ∧ LcdOrdered path ee first := by
  obtain ⟨active, loaded, shown⟩ := lcdLoadPage_spec
    (s := ⟨ee, .replicate 198 0, .replicate 8 0, 0, 0, 30⟩) config 1
  exact ⟨_, loaded, fun _ _ => rfl, shown.validPage, Nat.zero_le 7⟩

theorem lcdRun_ordered (config : Configured ee path) (ordered : LcdOrdered path ee s)
    (events : List LcdEvent) : ∃ last, lcdRun events s = some last ∧ LcdOrdered path ee last := by
  induction events generalizing s with
  | nil => exact ⟨s, rfl, ordered⟩
  | cons event events ih =>
      obtain ⟨t, result, done⟩ := lcdStep_done (ordered.configured config) event
      obtain ⟨last, rest, final⟩ := ih (ordered.step config done)
      refine ⟨last, ?_, final⟩
      rw [lcdRun, result]
      exact rest

end Ordered

/-- In every run from the start all searches end, the pages stay as they are configured, the active
page is one of them or an error page, and the page stack does not overflow. -/
theorem lcd_run_ordered {ee : Eeprom mcu} {path : List ℕ} (config : Configured ee path)
    (events : List LcdEvent) :
    ∃ last, (lcdInit ee).bind (lcdRun events) = some last ∧ LcdOrdered path ee last := by
  obtain ⟨first, start, ordered⟩ := lcdInit_ordered config
  rw [start]
  exact lcdRun_ordered config ordered events

theorem menu_run_ordered : Configured menuEeprom menuPath ∧ ∀ events, ∃ last,
    (lcdInit menuEeprom).bind (lcdRun events) = some last ∧
      LcdOrdered menuPath menuEeprom last :=
  ⟨menuConfigured, lcd_run_ordered menuConfigured⟩

/-! ## Shortcuts -/

/-- No two pages have the same number. -/
def DistinctPages (ee : Eeprom mcu) (path : List ℕ) : Prop :=
  ∀ it ∈ pageBlocks ee path, ∀ other ∈ pageBlocks ee path,
    ee.cell (it + 2) = ee.cell (other + 2) → it = other

/-- A step that saves nothing under the key. -/
def WithoutSave (n : Fin 4) (s : Lcdstate mcu) (event : LcdEvent) (t : Lcdstate mcu) : Prop :=
  lcdStep s event = some t ∧ ¬ (event = .keyUp (some n) ∧ 3 ≤ s.keypressTime)

section Shortcuts

variable {ee : Eeprom mcu} {path : List ℕ} {s t : Lcdstate mcu} {n : Fin 4} {q it : ℕ}

theorem SameExcept.loaded_iff (config : Configured ee path) {later : Eeprom mcu}
    (same : SameExcept path ee later) (page : UInt8) (active : LcdpageT) :
    Loaded later path page active ↔ Loaded ee path page active := by
  have target (it : ℕ) (member : it ∈ pageBlocks ee path) :
      isTarget later page it = isTarget ee page it := by
    have onPath := (mem_pageBlocks.mp member).1
    have links := config.links it member
    unfold isTarget
    rw [same (it + 1) (config.header onPath).2,
      same (it + 2) (config.page member ⟨by omega, by unfold blockStop; omega⟩)]
  have search : (pageBlocks later path).find? (isTarget later page) =
      (pageBlocks ee path).find? (isTarget ee page) := by
    rw [same.pageBlocks_eq config, ← List.head?_filter, ← List.head?_filter]
    exact congrArg List.head? (List.filter_congr target)
  unfold Loaded
  rw [search]
  cases found : (pageBlocks ee path).find? (isTarget ee page) with
  | none => exact Iff.rfl
  | some it => exact same.showsBlock_iff config (List.mem_of_find?_eq_some found) active

/-- With unique numbers the page with the number of a page is that page. -/
theorem loaded_showsBlock (unique : DistinctPages ee path) (member : it ∈ pageBlocks ee path)
    (fits : (ee.cell (it + 1)).toNat + 2 ≤ 198) {active : LcdpageT}
    (loaded : Loaded ee path (ee.cell (it + 2)) active) : ShowsBlock ee it active := by
  have itself : isTarget ee (ee.cell (it + 2)) it = true := by
    unfold isTarget
    rw [Bool.and_eq_true, beq_iff_eq, decide_eq_true_eq]
    exact ⟨rfl, fits⟩
  unfold Loaded at loaded
  cases found : (pageBlocks ee path).find? (isTarget ee (ee.cell (it + 2))) with
  | none => exact absurd itself (List.find?_eq_none.mp found it member)
  | some other =>
      rw [found] at loaded
      have target := List.find?_some found
      unfold isTarget at target
      rw [Bool.and_eq_true, beq_iff_eq] at target
      have same := unique other (List.mem_of_find?_eq_some found) it member target.1
      subst same
      exact loaded

/-- The number that is shown is the one of the block. -/
theorem showsBlock_pageId (config : Configured ee path) (member : it ∈ pageBlocks ee path)
    {active : LcdpageT} (shown : ShowsBlock ee it active) : active.pageId = ee.cell (it + 2) := by
  have links := config.links it member
  exact shown 2 (by decide) (by omega)

/-- Without a save under the key its entry stays. -/
theorem entry_kept (config : Configured ee path) (found : shortcutsAt ee path = some q)
    (ordered : LcdOrdered path ee s) {event : LcdEvent} (step : WithoutSave n s event t) :
    LcdOrdered path ee t ∧ t.eeprom.cell (q + 2 + n) = s.eeprom.cell (q + 2 + n) := by
  obtain ⟨same, unsaved⟩ := step
  obtain ⟨next, result, done⟩ := lcdStep_done (ordered.configured config) event
  cases result.symm.trans same
  refine ⟨ordered.step config done, ?_⟩
  rw [done.eeprom]
  have block := (ordered.eeprom.shortcutsAt_eq config).trans found
  cases event with
  | keyUp f =>
      cases f with
      | none => rfl
      | some m =>
          unfold savedCell
          rw [block]
          dsimp only
          split
          · rfl
          · next long =>
              refine Function.update_of_ne (fun entry => unsaved ⟨?_, by omega⟩) _ _
              have number : m = n := Fin.ext (by omega)
              rw [number]
  | keyDown taste own => rfl
  | timer => rfl
  | screensafer => rfl

/-- A long press of a key saves the page on the display, and any number of events later a short
press of this key shows it again. -/
theorem shortcut_saved (config : Configured ee path) (found : shortcutsAt ee path = some q)
    {front events : List LcdEvent} {u : Lcdstate mcu}
    (start : (lcdInit ee).bind (lcdRun front) = some s) (long : 3 ≤ s.keypressTime)
    (saved : lcdStep s (.keyUp (some n)) = some t) (run : Run (WithoutSave n) t events u)
    (short : u.keypressTime < 3) :
    ∃ v, lcdStep u (.keyUp (some n)) = some v ∧
      Loaded ee path s.activePage.pageId v.activePage ∧
      (DistinctPages ee path → ∀ it ∈ pageBlocks ee path, (ee.cell (it + 1)).toNat + 2 ≤ 198 →
        ShowsBlock ee it s.activePage → ShowsBlock ee it v.activePage) := by
  obtain ⟨first, begun, here⟩ := lcdInit_ordered config
  obtain ⟨last, same, ordered⟩ := lcdRun_ordered config here front
  rw [begun, Option.bind_some] at start
  cases same.symm.trans start
  obtain ⟨next, result, done⟩ := lcdStep_done (ordered.configured config) (.keyUp (some n))
  cases result.symm.trans saved
  have entry : t.eeprom.cell (q + 2 + n) = s.activePage.pageId := by
    rw [done.eeprom, savedCell, (ordered.eeprom.shortcutsAt_eq config).trans found]
    dsimp only
    rw [if_neg (by omega), Function.update_self]
  have kept : LcdOrdered path ee u ∧ u.eeprom.cell (q + 2 + n) = s.activePage.pageId := by
    refine run.invariant (fun state => LcdOrdered path ee state ∧
      state.eeprom.cell (q + 2 + n) = s.activePage.pageId) ?_ ⟨ordered.step config done, entry⟩
    rintro state event later step ⟨here, value⟩
    obtain ⟨there, unchanged⟩ := entry_kept config found here step
    exact ⟨there, unchanged.trans value⟩
  obtain ⟨v, pressed, shown⟩ := lcdStep_done (kept.1.configured config) (.keyUp (some n))
  have loaded : Loaded ee path s.activePage.pageId v.activePage := by
    have page := shown.page
    rw [aimOf, (kept.1.eeprom.shortcutsAt_eq config).trans found] at page
    dsimp only at page
    rw [if_pos short, kept.2] at page
    exact (kept.1.eeprom.loaded_iff config _ _).mp page
  refine ⟨v, pressed, loaded, fun unique it member fits before => ?_⟩
  rw [showsBlock_pageId config member before] at loaded
  exact loaded_showsBlock unique member fits loaded

/-- A run in which the key is not released saves nothing under it. -/
theorem run_withoutSave {events : List LcdEvent} (held : .keyUp (some n) ∉ events)
    (ran : lcdRun events s = some t) : Run (WithoutSave n) s events t := by
  induction events generalizing s with
  | nil =>
      cases ran
      exact .nil _
  | cons event events ih =>
      obtain ⟨middle, step, rest⟩ := Option.bind_eq_some_iff.mp ran
      obtain ⟨here, later⟩ := List.ne_and_not_mem_of_not_mem_cons held
      exact .cons ⟨step, fun save => here save.1.symm⟩ (ih later rest)

end Shortcuts

/-- F1 is held for two seconds on the start page. -/
def longPress : List LcdEvent := [.keyDown .other .view, .timer, .timer]

/-- OK leads to another page; then F1 is pressed. -/
def otherPage : List LcdEvent := [.keyDown .ok .view, .keyUp none, .timer, .keyDown .other .view]

/-- The start page is saved and shown again. -/
theorem shortcut_startPage : ∃ s t u v,
    (lcdInit menuEeprom).bind (lcdRun longPress) = some s ∧
      lcdStep s (.keyUp (some 0)) = some t ∧ lcdRun otherPage t = some u ∧
      u.activePage.pageId = 2 ∧ lcdStep u (.keyUp (some 0)) = some v ∧
      Loaded menuEeprom menuPath 1 v.activePage := by
  have ran : (((lcdInit menuEeprom).bind (lcdRun longPress)).bind fun s =>
      (lcdStep s (.keyUp (some 0))).bind fun t => (lcdRun otherPage t).map fun u =>
        (s.keypressTime, s.activePage.pageId, u.keypressTime, u.activePage.pageId)) =
      some (3, 1, 1, 2) := by decide +kernel
  obtain ⟨s, start, ran⟩ := Option.bind_eq_some_iff.mp ran
  obtain ⟨t, saved, ran⟩ := Option.bind_eq_some_iff.mp ran
  obtain ⟨u, moved, values⟩ := Option.map_eq_some_iff.mp ran
  obtain ⟨long, number, short, other⟩ : s.keypressTime = 3 ∧ s.activePage.pageId = 1 ∧
      u.keypressTime = 1 ∧ u.activePage.pageId = 2 := by
    rwa [Prod.mk.injEq, Prod.mk.injEq, Prod.mk.injEq] at values
  obtain ⟨v, pressed, loaded, -⟩ := shortcut_saved menuConfigured (q := 34) (by decide +kernel)
    start long.ge saved (run_withoutSave (by decide) moved) (by omega)
  rw [number] at loaded
  exact ⟨s, t, u, v, start, saved, moved, other, pressed, loaded⟩

/-! ## The way back -/

/-- The links of the pages make a menu: the pages before and behind a page exist and have its
parent, and the pages that OK leaves have a first child. -/
structure Menu (ee : Eeprom mcu) (path : List ℕ) : Prop where
  distinct : DistinctPages ee path
  number : ∀ it ∈ pageBlocks ee path, ee.cell (it + 2) ≠ 0
  fits : ∀ it ∈ pageBlocks ee path, (ee.cell (it + 1)).toNat + 2 ≤ 198
  siblings : ∀ it ∈ pageBlocks ee path, ∀ link ∈ [ee.cell (it + 4), ee.cell (it + 5)], link ≠ 0 →
    ∃ other ∈ pageBlocks ee path, ee.cell (other + 2) = link ∧
      ee.cell (other + 3) = ee.cell (it + 3)
  child : ∀ it ∈ pageBlocks ee path, ee.cell it ∈ [edsScreensaverPageBlockId, edsDirPageBlockId] →
    ∃ child ∈ pageBlocks ee path, isFirstChild ee (ee.cell (it + 2)) child = true

/-- The numbers of the pages that OK has left, the last one first.  ESC takes one away; a shortcut
and the screensaver begin anew. -/
def wayBehind (self : UInt8) (event : LcdEvent) (way : List UInt8) : Aim → List UInt8
  | .stays => way
  | .child => self :: way
  | .load _ =>
      match event with
      | .keyDown .esc _ => way.tail
      | .keyDown _ _ => way
      | _ => []
  | .error => []

/-- A run with the way to its last page. -/
def lcdRunWay (path : List ℕ) : List LcdEvent → Lcdstate mcu × List UInt8 →
    Option (Lcdstate mcu × List UInt8)
  | [], at_ => some at_
  | event :: events, (s, way) =>
      (lcdStep s event).bind fun t =>
        lcdRunWay path events (t, wayBehind s.activePage.pageId event way (aimOf path s event))

/-- The way leads from parent to parent. -/
def ParentWay (ee : Eeprom mcu) (path : List ℕ) : UInt8 → List UInt8 → Prop
  | _, [] => True
  | parent, id :: way => parent = id ∧
      ∃ it ∈ pageBlocks ee path, ee.cell (it + 2) = id ∧ ParentWay ee path (ee.cell (it + 3)) way

/-- Where a run with its way is. -/
def OnWay (ee : Eeprom mcu) (path : List ℕ) (active : LcdpageT) (way : List UInt8) : Prop :=
  (∃ it ∈ pageBlocks ee path, ShowsBlock ee it active ∧ ParentWay ee path (ee.cell (it + 3)) way) ∨
    (∃ old code, active = loadErrorPage old code) ∧ way = []

section Menu

variable {ee : Eeprom mcu} {path : List ℕ} {s t : Lcdstate mcu} {way : List UInt8} {it : ℕ}
  {active : LcdpageT} {taste : Taste} {own : PageState}

/-- What a key asks for. -/
theorem moveAim_cases (page : LcdpageT) (taste : Taste) (own : PageState) :
    moveAim page taste own = .stays ∨
      (taste = .ok ∧ page.blockType ∈ [edsScreensaverPageBlockId, edsDirPageBlockId] ∧
        moveAim page taste own = .child) ∨
      (taste = .esc ∧ page.parentId ≠ 0 ∧ moveAim page taste own = .load page.parentId) ∨
      ∃ link ∈ [page.nextId, page.prevId], (taste = .up ∨ taste = .down) ∧ link ≠ 0 ∧
        moveAim page taste own = .load link := by
  have links (link : UInt8) : linkAim link = .stays ∨ link ≠ 0 ∧ linkAim link = .load link := by
    unfold linkAim
    by_cases none : link = 0
    · exact .inl (if_pos none)
    · exact .inr ⟨none, if_neg none⟩
  unfold moveAim
  split
  · split
    · next up =>
        obtain ⟨rfl, -⟩ := up
        rcases links page.parentId with stays | ⟨some_, moves⟩
        · exact .inl stays
        · exact .inr (.inr (.inl ⟨rfl, some_, moves⟩))
    · exact .inl rfl
  · cases taste with
    | ok =>
        dsimp only
        split
        · next dir => exact .inr (.inl ⟨rfl, dir, rfl⟩)
        · exact .inl rfl
    | esc =>
        rcases links page.parentId with stays | ⟨some_, moves⟩
        · exact .inl stays
        · exact .inr (.inr (.inl ⟨rfl, some_, moves⟩))
    | up =>
        rcases links page.prevId with stays | ⟨some_, moves⟩
        · exact .inl stays
        · exact .inr (.inr (.inr ⟨page.prevId, by simp, .inl rfl, some_, moves⟩))
    | down =>
        rcases links page.nextId with stays | ⟨some_, moves⟩
        · exact .inl stays
        · exact .inr (.inr (.inr ⟨page.nextId, by simp, .inr rfl, some_, moves⟩))
    | other => exact .inl rfl

/-- An error page leads nowhere. -/
theorem moveAim_error (old : LcdpageT) (code : UInt8) (taste : Taste) (own : PageState) :
    moveAim (loadErrorPage old code) taste own = .stays := by
  have type : (loadErrorPage old code).blockType = 255 := by
    simp [LcdpageT.blockType, loadErrorPage, byte_set]
  have parent : (loadErrorPage old code).parentId = 0 := by
    simp [LcdpageT.parentId, loadErrorPage, byte_set]
  have next : (loadErrorPage old code).nextId = 0 := by
    simp [LcdpageT.nextId, loadErrorPage, byte_set]
  have prev : (loadErrorPage old code).prevId = 0 := by
    simp [LcdpageT.prevId, loadErrorPage, byte_set]
  rcases moveAim_cases (loadErrorPage old code) taste own with
    stays | ⟨-, dir, -⟩ | ⟨-, some_, -⟩ | ⟨link, inside, -, some_, -⟩
  · exact stays
  · rw [type] at dir
    exact absurd dir (by decide)
  · exact absurd parent some_
  · rw [next, prev] at inside
    simp only [List.mem_cons, List.not_mem_nil, or_false, or_self] at inside
    exact absurd inside some_

/-- The fields of a page are those of its block. -/
theorem showsBlock_fields (config : Configured ee path) (member : it ∈ pageBlocks ee path)
    (shown : ShowsBlock ee it active) : active.blockType = ee.cell it ∧
      active.pageId = ee.cell (it + 2) ∧ active.parentId = ee.cell (it + 3) ∧
      active.nextId = ee.cell (it + 4) ∧ active.prevId = ee.cell (it + 5) := by
  have links := config.links it member
  exact ⟨shown 0 (by decide) (by omega), shown 2 (by decide) (by omega),
    shown 3 (by decide) (by omega), shown 4 (by decide) (by omega), shown 5 (by decide) (by omega)⟩

/-- A page of the menu is found. -/
theorem Menu.loaded (menu : Menu ee path) (member : it ∈ pageBlocks ee path)
    (loaded : Loaded ee path (ee.cell (it + 2)) active) : ShowsBlock ee it active :=
  loaded_showsBlock menu.distinct member (menu.fits it member) loaded

/-- The first child of a page of the menu is found. -/
theorem Menu.childLoaded (menu : Menu ee path) (member : it ∈ pageBlocks ee path)
    (dir : ee.cell it ∈ [edsScreensaverPageBlockId, edsDirPageBlockId])
    (loaded : ChildLoaded ee path (ee.cell (it + 2)) active) :
    ∃ child ∈ pageBlocks ee path,
      ShowsBlock ee child active ∧ ee.cell (child + 3) = ee.cell (it + 2) := by
  obtain ⟨first, inside, isChild⟩ := menu.child it member dir
  unfold ChildLoaded at loaded
  cases found : (pageBlocks ee path).find? (isFirstChild ee (ee.cell (it + 2))) with
  | none => exact absurd isChild (List.find?_eq_none.mp found first inside)
  | some child =>
      rw [found] at loaded
      dsimp only at loaded
      have here := List.mem_of_find?_eq_some found
      rw [if_pos (menu.fits child here)] at loaded
      have parent := List.find?_some found
      unfold isFirstChild at parent
      rw [Bool.and_eq_true, beq_iff_eq] at parent
      exact ⟨child, here, loaded, parent.1⟩

theorem SameExcept.childLoaded_iff (config : Configured ee path) {later : Eeprom mcu}
    (same : SameExcept path ee later) (self : UInt8) (active : LcdpageT) :
    ChildLoaded later path self active ↔ ChildLoaded ee path self active := by
  have child (it : ℕ) (member : it ∈ pageBlocks ee path) :
      isFirstChild later self it = isFirstChild ee self it := by
    have links := config.links it member
    unfold isFirstChild
    rw [same (it + 3) (config.page member ⟨by omega, by unfold blockStop; omega⟩),
      same (it + 5) (config.page member ⟨by omega, by unfold blockStop; omega⟩)]
  have search : (pageBlocks later path).find? (isFirstChild later self) =
      (pageBlocks ee path).find? (isFirstChild ee self) := by
    rw [same.pageBlocks_eq config, ← List.head?_filter, ← List.head?_filter]
    exact congrArg List.head? (List.filter_congr child)
  unfold ChildLoaded
  rw [search]
  cases found : (pageBlocks ee path).find? (isFirstChild ee self) with
  | none => exact Iff.rfl
  | some it =>
      have member := List.mem_of_find?_eq_some found
      dsimp only
      rw [same (it + 1) (config.header (mem_pageBlocks.mp member).1).2,
        same.showsBlock_iff config member active]

theorem SameExcept.reached_iff (config : Configured ee path) {later : Eeprom mcu}
    (same : SameExcept path ee later) (aim : Aim) (before active : LcdpageT) :
    aim.Reached later path before active ↔ aim.Reached ee path before active := by
  cases aim with
  | stays => exact Iff.rfl
  | load page => exact same.loaded_iff config page active
  | child => exact same.childLoaded_iff config before.pageId active
  | error => exact Iff.rfl

theorem onWay_of_validPage (valid : ValidPage ee path active) : OnWay ee path active [] := by
  rcases valid with ⟨it, member, -, shown⟩ | error
  · exact .inl ⟨it, member, shown, trivial⟩
  · exact .inr ⟨error, rfl⟩

/-- A key keeps the way. -/
theorem OnWay.key (config : Configured ee path) (menu : Menu ee path) {page : LcdpageT}
    (here : OnWay ee path page way)
    (reached : (moveAim page taste own).Reached ee path page active) :
    OnWay ee path active
      (wayBehind page.pageId (.keyDown taste own) way (moveAim page taste own)) := by
  rcases here with ⟨it, member, shown, chain⟩ | ⟨⟨old, code, error⟩, rfl⟩
  · obtain ⟨type, id, parent, next, prev⟩ := showsBlock_fields config member shown
    rcases moveAim_cases page taste own with
      stays | ⟨-, dir, child⟩ | ⟨rfl, -, up⟩ | ⟨link, inside, sideways, some_, moves⟩
    · rw [stays] at reached ⊢
      have same : active = page := reached
      rw [same]
      exact .inl ⟨it, member, shown, chain⟩
    · rw [child] at reached ⊢
      rw [type] at dir
      have loaded : ChildLoaded ee path page.pageId active := reached
      rw [id] at loaded
      obtain ⟨below, inside, shows, back⟩ := menu.childLoaded member dir loaded
      exact .inl ⟨below, inside, shows, back.trans id.symm, it, member, id.symm, chain⟩
    · rw [up] at reached ⊢
      have loaded : Loaded ee path page.parentId active := reached
      cases way with
      | nil => exact onWay_of_validPage loaded.validPage
      | cons above way =>
          obtain ⟨same, upper, inside, number, rest⟩ := chain
          rw [parent, same, ← number] at loaded
          exact .inl ⟨upper, inside, menu.loaded inside loaded, rest⟩
    · rw [moves] at reached ⊢
      have loaded : Loaded ee path link active := reached
      rw [next, prev] at inside
      obtain ⟨other, among, number, sibling⟩ := menu.siblings it member link inside some_
      rw [← number] at loaded
      have kept : wayBehind page.pageId (.keyDown taste own) way (.load link) = way := by
        rcases sideways with rfl | rfl <;> rfl
      rw [kept]
      exact .inl ⟨other, among, menu.loaded among loaded, sibling ▸ chain⟩
  · rw [error, moveAim_error] at reached ⊢
    exact .inr ⟨⟨old, code, reached⟩, rfl⟩

/-- Only keys lead to a child. -/
theorem aimOf_unpressed {event : LcdEvent} (unpressed : ∀ taste own, event ≠ .keyDown taste own) :
    aimOf path s event ≠ .child := by
  cases event with
  | keyDown taste own => exact absurd rfl (unpressed taste own)
  | keyUp f =>
      cases f with
      | none => exact Aim.noConfusion
      | some n =>
          dsimp only [aimOf]
          split
          · split
            · exact Aim.noConfusion
            · exact Aim.noConfusion
          · exact Aim.noConfusion
  | timer => exact Aim.noConfusion
  | screensafer =>
      dsimp only [aimOf]
      split
      · exact Aim.noConfusion
      · exact Aim.noConfusion

theorem OnWay.step (config : Configured ee path) (menu : Menu ee path)
    (here : OnWay ee path s.activePage way) (event : LcdEvent)
    (reached : (aimOf path s event).Reached ee path s.activePage active) :
    OnWay ee path active (wayBehind s.activePage.pageId event way (aimOf path s event)) := by
  -- Where no key is pressed, the page stays or the way begins anew.
  have jump (unpressed : ∀ taste own, event ≠ .keyDown taste own) :
      OnWay ee path active (wayBehind s.activePage.pageId event way (aimOf path s event)) := by
    cases aim : aimOf path s event with
    | stays =>
        rw [aim] at reached
        have same : active = s.activePage := reached
        rw [same]
        exact here
    | child => exact absurd aim (aimOf_unpressed unpressed)
    | load page =>
        rw [aim] at reached
        cases event with
        | keyDown taste own => exact absurd rfl (unpressed taste own)
        | keyUp f => exact onWay_of_validPage (Loaded.validPage reached)
        | timer => exact onWay_of_validPage (Loaded.validPage reached)
        | screensafer => exact onWay_of_validPage (Loaded.validPage reached)
    | error =>
        rw [aim] at reached
        exact onWay_of_validPage (.inr reached)
  cases event with
  | keyDown taste own => exact here.key config menu reached
  | keyUp f => exact jump fun _ _ => LcdEvent.noConfusion
  | timer => exact jump fun _ _ => LcdEvent.noConfusion
  | screensafer => exact jump fun _ _ => LcdEvent.noConfusion

theorem lcdRunWay_onWay (config : Configured ee path) (menu : Menu ee path)
    (ordered : LcdOrdered path ee s) (here : OnWay ee path s.activePage way)
    (events : List LcdEvent) : ∃ last, lcdRunWay path events (s, way) = some last ∧
      LcdOrdered path ee last.1 ∧ OnWay ee path last.1.activePage last.2 := by
  induction events generalizing s way with
  | nil => exact ⟨_, rfl, ordered, here⟩
  | cons event events ih =>
      obtain ⟨t, result, done⟩ := lcdStep_done (ordered.configured config) event
      have reached := (ordered.eeprom.reached_iff config _ _ _).mp done.page
      obtain ⟨last, rest, final⟩ := ih (ordered.step config done)
        (here.step config menu event reached)
      refine ⟨last, ?_, final⟩
      rw [lcdRunWay, result]
      exact rest

/-- In every run the key ESC leads back to the page that the last OK without its ESC has left, over
any number of levels and whatever pages lie beside. -/
theorem esc_returns (config : Configured ee path) (menu : Menu ee path)
    (events : List LcdEvent) : ∃ s way,
      (lcdInit ee).bind (fun first => lcdRunWay path events (first, [])) = some (s, way) ∧
      ∀ id above own, way = id :: above → (s.activePage.blockType ∈ editPages → own = .view) →
        ∃ t, lcdStep s (.keyDown .esc own) = some t ∧
          ∃ it ∈ pageBlocks ee path, ee.cell (it + 2) = id ∧ ShowsBlock ee it t.activePage := by
  obtain ⟨first, start, ordered⟩ := lcdInit_ordered config
  obtain ⟨⟨s, way⟩, run, last, here⟩ := lcdRunWay_onWay config menu ordered
    (onWay_of_validPage ordered.page) events
  refine ⟨s, way, by rw [start]; exact run, ?_⟩
  rintro id above own rfl view
  obtain ⟨t, pressed, done⟩ := lcdStep_done (last.configured config) (.keyDown .esc own)
  refine ⟨t, pressed, ?_⟩
  rcases here with ⟨it, member, shown, same, upper, inside, number, -⟩ | ⟨-, none⟩
  · obtain ⟨-, -, parent, -, -⟩ := showsBlock_fields config member shown
    have linked : linkAim s.activePage.parentId = .load id := by
      rw [parent, same, linkAim, if_neg]
      rw [← number]
      exact menu.number upper inside
    have aim : aimOf path s (.keyDown .esc own) = .load id := by
      change moveAim s.activePage .esc own = .load id
      unfold moveAim
      by_cases edit : s.activePage.blockType ∈ editPages
      · rw [if_pos edit, if_pos ⟨rfl, view edit⟩]
        exact linked
      · rw [if_neg edit]
        exact linked
    have loaded := done.page
    rw [aim] at loaded
    have found : Loaded ee path id t.activePage := (last.eeprom.loaded_iff config _ _).mp loaded
    rw [← number] at found
    exact ⟨upper, inside, number, menu.loaded inside found⟩
  · cases none

end Menu

theorem menuMenu : Menu menuEeprom menuPath where
  distinct := by
    unfold DistinctPages
    rw [menuPages]
    decide
  number := by
    rw [menuPages]
    decide
  fits := by
    rw [menuPages]
    decide
  siblings := by
    rw [menuPages]
    decide +kernel
  child := by
    rw [menuPages]
    decide

theorem menu_esc_returns : Configured menuEeprom menuPath ∧ Menu menuEeprom menuPath ∧
    ∀ events, ∃ s way,
      (lcdInit menuEeprom).bind (fun first => lcdRunWay menuPath events (first, [])) =
        some (s, way) ∧
      ∀ id above own, way = id :: above → (s.activePage.blockType ∈ editPages → own = .view) →
        ∃ t, lcdStep s (.keyDown .esc own) = some t ∧ ∃ it ∈ pageBlocks menuEeprom menuPath,
          menuEeprom.cell (it + 2) = id ∧ ShowsBlock menuEeprom it t.activePage :=
  ⟨menuConfigured, menuMenu, esc_returns menuConfigured menuMenu⟩

/-- Two levels down. -/
example : ((lcdInit menuEeprom).bind fun first => lcdRunWay menuPath
    [.keyDown .ok .view, .keyDown .ok .view] (first, [])).map Prod.snd = some [2, 1] := by
  decide +kernel

end Hcan.Userpanel
