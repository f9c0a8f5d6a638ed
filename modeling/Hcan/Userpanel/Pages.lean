import Hcan.Eds.Iteration
import Hcan.Userpanel.HeizPage

/-!
# The pages of the user panel

`lcdstatemachine.c`: the pages are EDS blocks, `active_page` is a copy of one of them, and the keys
follow its links.  The shortcuts of the F keys lie in an EDS block of their own.  What a page prints
and does with its keys besides moving on is in the modules of the pages; the display and its light
are left out.
-/

namespace Hcan.Userpanel

open Hcan.Canix Hcan.Eds Hcan.Library

variable {mcu : Mcu}

def edsPageIdStart : UInt8 := 100
def edsPageIdEnd : UInt8 := 149

def edsUserpanelShortcutsBlockId : UInt8 := 99
def edsScreensaverPageBlockId : UInt8 := 100
def edsDirPageBlockId : UInt8 := 101
def edsWeckPageBlockId : UInt8 := 109
def edsGesamtHeizPageBlockId : UInt8 := 110

def errorPageSizeTooLarge : UInt8 := 1
def errorPagePageNotFound : UInt8 := 2
def errorPageChildPageNotFound : UInt8 := 3
def errorPagePageStackOverflow : UInt8 := 4
def errorPageShortcutsMissing : UInt8 := 6

/-- `EDS_BLOCK_DATA`. -/
def edsBlockData (ee : Eeprom mcu) (p i : ℕ) : UInt8 := eepromReadByte ee (ptrAdd p (2 + i))

def edsPageParent (ee : Eeprom mcu) (p : ℕ) : UInt8 := eepromReadByte ee (ptrAdd p 3)

def edsPagePrev (ee : Eeprom mcu) (p : ℕ) : UInt8 := eepromReadByte ee (ptrAdd p 5)

/-- `eeprom_read_block` over `size` bytes of `old`. -/
def eepromReadBlock {n : ℕ} (ee : Eeprom mcu) (old : Vector UInt8 n) (p size : ℕ) :
    Vector UInt8 n :=
  Vector.ofFn fun j => if j.val < size then eepromReadByte ee (ptrAdd p j) else old[j]

/-- `eeprom_write_block`. -/
def eepromWriteBlock (ee : Eeprom mcu) (p : ℕ) : List UInt8 → Eeprom mcu
  | [] => ee
  | v :: values => eepromWriteBlock (eepromWriteByte ee p v) (ptrAdd p 1) values

/-- `lcdpage_t` as its 198 bytes: the header of the block, the identity and the links of the page
and its data. -/
abbrev LcdpageT : Type := Vector UInt8 198

namespace LcdpageT

variable (page : LcdpageT)

def blockType : UInt8 := page[0]
def pageId : UInt8 := page[2]
def parentId : UInt8 := page[3]
def nextId : UInt8 := page[4]
def prevId : UInt8 := page[5]

end LcdpageT

/-- `load_error_page`. -/
def loadErrorPage (page : LcdpageT) (code : UInt8) : LcdpageT :=
  (((((((page.set 0 255).set 1 1).set 2 255).set 3 0).set 4 0).set 5 0).set 6 code)

/-- The globals of `lcdstatemachine.c` and the EEPROM; `lcdstate.state` is always `STATE_VIEW`. -/
structure Lcdstate (mcu : Mcu) where
  eeprom : Eeprom mcu
  activePage : LcdpageT
  pageStack : Vector UInt8 8
  pageStackPtr : ℕ
  keypressTime : ℕ
  screensaferCountdown : ℕ

/-- The size of a block with its header. -/
def pageBlockSize (ee : Eeprom mcu) (p : ℕ) : ℕ := (edsBlockSize ee p).toNat + 2

/-- A block that is too large leaves the error page behind, and the search goes on. -/
def loadPageLoop (ee : Eeprom mcu) (page : UInt8) : List ℕ → LcdpageT → LcdpageT
  | [], active => loadErrorPage active errorPagePageNotFound
  | it :: its, active =>
      if edsBlockData ee it 0 = page then
        if pageBlockSize ee it > 198 then
          loadPageLoop ee page its (loadErrorPage active errorPageSizeTooLarge)
        else eepromReadBlock ee active it (pageBlockSize ee it)
      else loadPageLoop ee page its active

/-- `none` stands for a search that does not end. -/
def lcdLoadPage (s : Lcdstate mcu) (page : UInt8) : Option (Lcdstate mcu) := do
  let blocks ← edsForeachBlockBetween s.eeprom edsPageIdStart edsPageIdEnd
  some { s with activePage := loadPageLoop s.eeprom page blocks.1 s.activePage }

/-- `goto_page_up`, `goto_next_page` and `goto_prev_page` with their link. -/
def gotoLink (s : Lcdstate mcu) (link : UInt8) : Option (Lcdstate mcu) :=
  if link = 0 then some s else lcdLoadPage s link

def pagePathStackPush (s : Lcdstate mcu) (pageId : UInt8) : Lcdstate mcu :=
  if s.pageStackPtr ≥ 7 then
    { s with activePage := loadErrorPage s.activePage errorPagePageStackOverflow }
  else
    { s with
      pageStack := s.pageStack.setIfInBounds s.pageStackPtr pageId
      pageStackPtr := s.pageStackPtr + 1 }

def firstChildLoop (ee : Eeprom mcu) (self : UInt8) : List ℕ → LcdpageT → LcdpageT
  | [], active => loadErrorPage active errorPageChildPageNotFound
  | it :: its, active =>
      if edsPageParent ee it = self ∧ edsPagePrev ee it = 0 then
        if pageBlockSize ee it > 198 then loadErrorPage active errorPageSizeTooLarge
        else eepromReadBlock ee active it (pageBlockSize ee it)
      else firstChildLoop ee self its active

def gotoFirstChildPage (s : Lcdstate mcu) : Option (Lcdstate mcu) := do
  let self := s.activePage.pageId
  let pushed := pagePathStackPush s self
  let blocks ← edsForeachBlockBetween pushed.eeprom edsPageIdStart edsPageIdEnd
  some { pushed with
    activePage := firstChildLoop pushed.eeprom self blocks.1 pushed.activePage }

/-- The pages with an edit of their own, where ESC only leads up from the view. -/
def editPages : List UInt8 :=
  [edsHeizPageBlockId, edsWeckPageBlockId, edsGesamtHeizPageBlockId]

/-- What `key_down_event` does to the active page; `own` is the state of a page with an edit.  On
the pages for shutters, buttons and switches the key OK is a command. -/
def moveOn (s : Lcdstate mcu) (taste : Taste) (own : PageState) : Option (Lcdstate mcu) :=
  let page := s.activePage
  if page.blockType ∈ editPages then
    if taste = .esc ∧ own = .view then gotoLink s page.parentId else some s
  else
    match taste with
    | .ok =>
        if page.blockType ∈ [edsScreensaverPageBlockId, edsDirPageBlockId] then
          gotoFirstChildPage s
        else some s
    | .esc => gotoLink s page.parentId
    | .up => gotoLink s page.prevId
    | .down => gotoLink s page.nextId
    | .other => some s

def keyDownEvent (s : Lcdstate mcu) (taste : Taste) (own : PageState) : Option (Lcdstate mcu) :=
  moveOn { s with screensaferCountdown := 300, keypressTime := 1 } taste own

/-- The shortcut block, 0 without one. -/
def shortcutsBlock (ee : Eeprom mcu) : Option ℕ :=
  (edsFindNextBlock ee 0 edsUserpanelShortcutsBlockId).map Prod.fst

def loadShortcutPage (s : Lcdstate mcu) (n : Fin 4) : Option (Lcdstate mcu) := do
  let it ← shortcutsBlock s.eeprom
  if it = 0 then
    some { s with activePage := loadErrorPage s.activePage errorPageShortcutsMissing }
  else
    let shortcuts : Vector UInt8 8 := eepromReadBlock s.eeprom (.replicate 8 0) (ptrAdd it 2) 8
    lcdLoadPage s shortcuts[n]

def saveShortcutPage (s : Lcdstate mcu) (n : Fin 4) : Option (Lcdstate mcu) := do
  let it ← shortcutsBlock s.eeprom
  if it = 0 then
    some { s with activePage := loadErrorPage s.activePage errorPageShortcutsMissing }
  else
    let shortcuts : Vector UInt8 8 := eepromReadBlock s.eeprom (.replicate 8 0) (ptrAdd it 2) 8
    some { s with eeprom :=
      eepromWriteBlock s.eeprom (ptrAdd it 2) (shortcuts.set n s.activePage.pageId).toList }

/-- What F1 to F4 or another key do when they are released. -/
def keyUpPage (s : Lcdstate mcu) : Option (Fin 4) → Option (Lcdstate mcu)
  | some n => if s.keypressTime < 3 then loadShortcutPage s n else saveShortcutPage s n
  | none => some s

def keyUpEvent (s : Lcdstate mcu) (f : Option (Fin 4)) : Option (Lcdstate mcu) :=
  (keyUpPage s f).map fun left => { left with keypressTime := 0 }

/-- What happens to the pages.  The timer handler prints in between and so sleeps; `timer` is its
first part, `screensafer` its last one.  The syslog is off: at the debug level `load_page` sleeps in
`canix_syslog_P` as well. -/
inductive LcdEvent where
  | keyDown (taste : Taste) (own : PageState)
  | keyUp (f : Option (Fin 4))
  | timer
  | screensafer
  deriving DecidableEq, Repr

def timerKeypress (s : Lcdstate mcu) : Lcdstate mcu :=
  { s with keypressTime :=
      if s.keypressTime ≠ 0 ∧ s.keypressTime < 255 then s.keypressTime + 1 else s.keypressTime }

def timerScreensafer (s : Lcdstate mcu) : Option (Lcdstate mcu) :=
  if s.screensaferCountdown > 0 then
    let counted := { s with screensaferCountdown := s.screensaferCountdown - 1 }
    if counted.screensaferCountdown = 0 then lcdLoadPage counted 1 else some counted
  else some s

def lcdStep (s : Lcdstate mcu) : LcdEvent → Option (Lcdstate mcu)
  | .keyDown taste own => keyDownEvent s taste own
  | .keyUp f => keyUpEvent s f
  | .timer => some (timerKeypress s)
  | .screensafer => timerScreensafer s

/-- `lcdstatemachine_init`. -/
def lcdInit (ee : Eeprom mcu) : Option (Lcdstate mcu) :=
  lcdLoadPage ⟨ee, .replicate 198 0, .replicate 8 0, 0, 0, 30⟩ 1

def lcdRun : List LcdEvent → Lcdstate mcu → Option (Lcdstate mcu)
  | [], s => some s
  | event :: events, s => (lcdStep s event).bind (lcdRun events)

/-! ## The configuration -/

/-- The blocks of pages. -/
def pageBlocks (ee : Eeprom mcu) (path : List ℕ) : List ℕ :=
  path.filter fun q => decide (ee.cell q ≥ edsPageIdStart) && decide (ee.cell q ≤ edsPageIdEnd)

/-- The blocks tile the area, the byte behind it starts no page, a page has its number and its
links, and the shortcut block has room for its eight entries. -/
structure Configured (ee : Eeprom mcu) (path : List ℕ) : Prop where
  chain : IsChain mcu ee.cell path
  behind : mcu.cellOf (edsEnd mcu + 1) = 0
  noPage : ¬ (99 ≤ ee.cell 0 ∧ ee.cell 0 ≤ 149)
  links : ∀ it ∈ pageBlocks ee path, 4 ≤ (ee.cell (it + 1)).toNat
  room : ∀ q ∈ path, ee.cell q = edsUserpanelShortcutsBlockId → 8 ≤ (ee.cell (q + 1)).toNat

/-- The shortcut block. -/
def shortcutsAt (ee : Eeprom mcu) (path : List ℕ) : Option ℕ :=
  path.find? fun q => ee.cell q == edsUserpanelShortcutsBlockId

/-- The entries of the four keys. -/
def InShortcuts (ee : Eeprom mcu) (path : List ℕ) (address : ℕ) : Prop :=
  ∃ q, shortcutsAt ee path = some q ∧ q + 2 ≤ address ∧ address < q + 6

/-- Only the entries of the four keys differ. -/
def SameExcept (path : List ℕ) (ee later : Eeprom mcu) : Prop :=
  ∀ address, ¬ InShortcuts ee path address → later.cell address = ee.cell address

/-- The page is the block at `it`, byte for byte. -/
def ShowsBlock (ee : Eeprom mcu) (it : ℕ) (page : LcdpageT) : Prop :=
  ∀ (j : ℕ) (inside : j < 198), j < (ee.cell (it + 1)).toNat + 2 → page[j] = ee.cell (it + j)

/-- The page is one of the configuration or an error page. -/
def ValidPage (ee : Eeprom mcu) (path : List ℕ) (page : LcdpageT) : Prop :=
  (∃ it ∈ pageBlocks ee path, (ee.cell (it + 1)).toNat + 2 ≤ 198 ∧ ShowsBlock ee it page) ∨
    ∃ old code, page = loadErrorPage old code

/-- A size byte for each block decides the chain. -/
theorem chain_congr {content other : ℕ → UInt8} {path : List ℕ}
    (chain : IsChain mcu content path) (same : ∀ p ∈ path, other (p + 1) = content (p + 1)) :
    IsChain mcu other path where
  walk := by
    refine chain.walk.congr fun p member => ?_
    rw [chain.next_eq member, edsNextBlock_eq _ (chain.below p member)]
    simp only [blockStop, Eeprom.powerUp_cell, same p member]
  below := chain.below

section Configuration

variable {ee later : Eeprom mcu} {path : List ℕ} {it q : ℕ}

theorem mem_pageBlocks : it ∈ pageBlocks ee path ↔
    it ∈ path ∧ edsPageIdStart ≤ ee.cell it ∧ ee.cell it ≤ edsPageIdEnd := by
  unfold pageBlocks
  rw [List.mem_filter, Bool.and_eq_true, decide_eq_true_eq, decide_eq_true_eq]

theorem shortcutsAt_some (found : shortcutsAt ee path = some q) :
    q ∈ path ∧ ee.cell q = edsUserpanelShortcutsBlockId := by
  have type := List.find?_some found
  exact ⟨List.mem_of_find?_eq_some found, beq_iff_eq.mp type⟩

variable (config : Configured ee path)

include config

/-- The entries of the four keys lie in the payload of the shortcut block. -/
theorem Configured.payload {address : ℕ} (inside : InShortcuts ee path address) :
    ∃ q ∈ path, q + 2 ≤ address ∧ address < blockStop ee.cell q ∧
      ee.cell q = edsUserpanelShortcutsBlockId := by
  obtain ⟨q, found, low, high⟩ := inside
  obtain ⟨member, type⟩ := shortcutsAt_some found
  have room := config.room q member type
  exact ⟨q, member, low, by unfold blockStop; omega, type⟩

/-- A header is no entry of a key. -/
theorem Configured.header {p : ℕ} (member : p ∈ path) :
    ¬ InShortcuts ee path p ∧ ¬ InShortcuts ee path (p + 1) := by
  have outside {address : ℕ} (header : InBlock ee.cell p address) (short : address ≤ p + 1) :
      ¬ InShortcuts ee path address := by
    intro inside
    obtain ⟨q, onPath, low, high, -⟩ := config.payload inside
    by_cases same : p = q
    · omega
    · exact config.chain.not_inBlock member onPath same header ⟨by omega, high⟩
  exact ⟨outside (inBlock_type _ p) (Nat.le_succ p), outside (inBlock_size _ p) (Nat.le_refl _)⟩

/-- Nothing of a page is an entry of a key. -/
theorem Configured.page (member : it ∈ pageBlocks ee path) {address : ℕ}
    (inside : InBlock ee.cell it address) : ¬ InShortcuts ee path address := by
  obtain ⟨onPath, low, -⟩ := mem_pageBlocks.mp member
  intro entry
  obtain ⟨q, other, atLeast, high, type⟩ := config.payload entry
  by_cases same : it = q
  · subst same
    rw [type] at low
    exact absurd low (by decide)
  · exact config.chain.not_inBlock onPath other same inside ⟨by omega, high⟩

theorem Configured.low : ∀ address < edsDataStart, ¬ InShortcuts ee path address := by
  intro address below inside
  obtain ⟨q, member, low, -, -⟩ := config.payload inside
  have start := config.chain.dataStart_le member
  omega

variable (same : SameExcept path ee later)

include same

theorem SameExcept.pageBlocks_eq : pageBlocks later path = pageBlocks ee path := by
  unfold pageBlocks
  refine List.filter_congr fun p member => ?_
  rw [same p (config.header member).1]

theorem SameExcept.shortcutsAt_eq : shortcutsAt later path = shortcutsAt ee path := by
  unfold shortcutsAt
  rw [← List.head?_filter, ← List.head?_filter]
  refine congrArg List.head? (List.filter_congr fun p member => ?_)
  rw [same p (config.header member).1]

/-- The configuration stays one. -/
theorem SameExcept.configured : Configured later path where
  chain := chain_congr config.chain fun p member => same (p + 1) (config.header member).2
  behind := config.behind
  noPage := by
    rw [same 0 (config.low 0 (by decide))]
    exact config.noPage
  links it member := by
    rw [same.pageBlocks_eq config] at member
    rw [same (it + 1) (config.header (mem_pageBlocks.mp member).1).2]
    exact config.links it member
  room p member type := by
    rw [same p (config.header member).1] at type
    rw [same (p + 1) (config.header member).2]
    exact config.room p member type

theorem SameExcept.showsBlock_iff (member : it ∈ pageBlocks ee path) (page : LcdpageT) :
    ShowsBlock later it page ↔ ShowsBlock ee it page := by
  have onPath := (mem_pageBlocks.mp member).1
  have size := same (it + 1) (config.header onPath).2
  unfold ShowsBlock
  rw [size]
  refine forall₃_congr fun j inside short => ?_
  rw [same (it + j) (config.page member ⟨by omega, by unfold blockStop; omega⟩)]

theorem SameExcept.validPage_iff (page : LcdpageT) :
    ValidPage later path page ↔ ValidPage ee path page := by
  unfold ValidPage
  rw [same.pageBlocks_eq config]
  refine or_congr_left (exists_congr fun it => and_congr_right fun member => ?_)
  have onPath := (mem_pageBlocks.mp member).1
  rw [same.showsBlock_iff config member page, same (it + 1) (config.header onPath).2]

end Configuration

/-! ## The functions -/

/-- The block of the page with this number that fits into `active_page`. -/
def isTarget (ee : Eeprom mcu) (page : UInt8) (it : ℕ) : Bool :=
  ee.cell (it + 2) == page && decide ((ee.cell (it + 1)).toNat + 2 ≤ 198)

/-- `LcdpageT` behind `load_page`. -/
def Loaded (ee : Eeprom mcu) (path : List ℕ) (page : UInt8) (active : LcdpageT) : Prop :=
  match (pageBlocks ee path).find? (isTarget ee page) with
  | some it => ShowsBlock ee it active
  | none => ∃ old, active = loadErrorPage old errorPagePageNotFound

/-- A child without a page before it. -/
def isFirstChild (ee : Eeprom mcu) (self : UInt8) (it : ℕ) : Bool :=
  ee.cell (it + 3) == self && ee.cell (it + 5) == 0

/-- `LcdpageT` behind `goto_first_child_page`. -/
def ChildLoaded (ee : Eeprom mcu) (path : List ℕ) (self : UInt8) (active : LcdpageT) : Prop :=
  match (pageBlocks ee path).find? (isFirstChild ee self) with
  | some it => if (ee.cell (it + 1)).toNat + 2 ≤ 198 then ShowsBlock ee it active
      else ∃ old, active = loadErrorPage old errorPageSizeTooLarge
  | none => ∃ old, active = loadErrorPage old errorPageChildPageNotFound

section Functions

variable {ee : Eeprom mcu} {path : List ℕ} {it : ℕ}

theorem eepromReadBlock_get {n : ℕ} (old : Vector UInt8 n) {p size : ℕ}
    (stop : p + size ≤ edsEnd mcu + 1) {j : ℕ} (inside : j < n) (short : j < size) :
    (eepromReadBlock ee old p size)[j] = ee.cell (p + j) := by
  have limit := edsEnd_le mcu
  have below : p + j ≤ edsEnd mcu := by omega
  have read : (eepromReadBlock ee old p size).get ⟨j, inside⟩ = eepromReadByte ee (ptrAdd p j) :=
    (Vector.getElem_ofFn inside).trans (if_pos short)
  rw [byte_eq inside, read, ptrAdd_of_lt (by omega)]
  exact eepromReadByte_of_le ee below

/-- A block write inside the area. -/
theorem eepromWriteBlock_cell (values : List UInt8) (ee : Eeprom mcu) {p : ℕ}
    (stop : p + values.length ≤ edsEnd mcu + 1) (address : ℕ) :
    (eepromWriteBlock ee p values).cell address =
      if p ≤ address then (values[address - p]?).getD (ee.cell address) else ee.cell address := by
  induction values generalizing ee p with
  | nil =>
      rw [List.getElem?_nil, Option.getD_none, ite_self]
      rfl
  | cons v values ih =>
      have limit := edsEnd_le mcu
      rw [List.length_cons] at stop
      rw [eepromWriteBlock, ptrAdd_of_lt (by omega), ih (eepromWriteByte ee p v) (by omega)]
      have written : (eepromWriteByte ee p v).cell = Function.update ee.cell p v := by
        rw [eepromWriteByte, mcu.cellOf_of_le p (by change p ≤ edsEnd mcu; omega)]
      rw [written]
      rcases Nat.lt_trichotomy address p with before | here | behind
      · rw [if_neg (by omega), if_neg (by omega), Function.update_of_ne (by omega)]
      · subst here
        rw [if_neg (by omega), if_pos (Nat.le_refl _), Nat.sub_self, List.getElem?_cons_zero,
          Option.getD_some, Function.update_self]
      · have index : address - p = (address - (p + 1)) + 1 := by omega
        rw [if_pos (show p + 1 ≤ address by omega), if_pos (by omega), index,
          List.getElem?_cons_succ, Function.update_of_ne (by omega)]

variable (config : Configured ee path)

include config

theorem Configured.stop (member : it ∈ path) :
    it + ((ee.cell (it + 1)).toNat + 2) ≤ edsEnd mcu + 1 := by
  have stop := config.chain.blockStop_le member
  unfold blockStop at stop
  omega

theorem Configured.blockSize (member : it ∈ path) :
    pageBlockSize ee it = (ee.cell (it + 1)).toNat + 2 := by
  rw [pageBlockSize, edsBlockSize_eq ee (config.chain.below it member)]

/-- Behind the area no search finds a page. -/
theorem Configured.behind_type : edsBlockType ee (edsEnd mcu + 1) = ee.cell 0 := by
  rw [edsBlockType, eepromReadByte, config.behind]

theorem Configured.foreach : ∃ headers,
    edsForeachBlockBetween ee edsPageIdStart edsPageIdEnd = some (pageBlocks ee path, headers) := by
  obtain ⟨headers, found, -⟩ := edsIterate_spec
    (fun t => decide (t ≥ edsPageIdStart) && decide (t ≤ edsPageIdEnd)) config.chain
  refine ⟨headers, found.trans ?_⟩
  have last : ¬ Matches (fun t => decide (t ≥ edsPageIdStart) && decide (t ≤ edsPageIdEnd)) ee
      (edsEnd mcu + 1) = true := by
    unfold Matches
    rw [config.behind_type, Bool.and_eq_true, decide_eq_true_eq, decide_eq_true_eq]
    rintro ⟨low, high⟩
    exact config.noPage ⟨UInt8.le_trans (by decide) low, high⟩
  rw [List.filter_append, List.filter_cons_of_neg last, List.filter_nil, List.append_nil]
  refine congrArg (fun its => some (its, headers)) (List.filter_congr fun p member => ?_)
  rw [Matches, edsBlockType_eq ee (config.chain.below p member).le]

theorem Configured.shortcutsBlock :
    shortcutsBlock ee = some ((shortcutsAt ee path).getD 0) := by
  obtain ⟨headers, found, -⟩ := edsFind_zero config.chain
    (fun t => t == edsUserpanelShortcutsBlockId)
  have last :
      ¬ Matches (fun t => t == edsUserpanelShortcutsBlockId) ee (edsEnd mcu + 1) = true := by
    unfold Matches
    rw [config.behind_type, beq_iff_eq]
    intro same
    refine config.noPage ?_
    rw [same]
    decide
  have search : (path ++ [edsEnd mcu + 1]).find?
      (Matches (fun t => t == edsUserpanelShortcutsBlockId) ee) = shortcutsAt ee path := by
    rw [List.find?_append, List.find?_cons_of_neg last, List.find?_nil, Option.or_none]
    unfold shortcutsAt
    rw [← List.head?_filter, ← List.head?_filter]
    refine congrArg List.head? (List.filter_congr fun p member => ?_)
    rw [Matches, edsBlockType_eq ee (config.chain.below p member).le]
  unfold Userpanel.shortcutsBlock edsFindNextBlock
  rw [found, Option.map_some, firstMatch, search]

theorem showsBlock_read (member : it ∈ path) (old : LcdpageT) :
    ShowsBlock ee it (eepromReadBlock ee old it (pageBlockSize ee it)) := by
  intro j inside short
  have stop := config.stop member
  rw [config.blockSize member]
  exact eepromReadBlock_get old stop inside short

/-- The number and the links of a page are its own bytes. -/
theorem Configured.own (member : it ∈ pageBlocks ee path) {k : ℕ} (small : k < 4) :
    eepromReadByte ee (ptrAdd it (2 + k)) = ee.cell (it + (2 + k)) := by
  have stop := config.stop (mem_pageBlocks.mp member).1
  have links := config.links it member
  have limit := edsEnd_le mcu
  have below : it + (2 + k) ≤ edsEnd mcu := by omega
  rw [ptrAdd_of_lt (by omega)]
  exact eepromReadByte_of_le ee below

theorem loadPageLoop_spec (page : UInt8) {its : List ℕ}
    (inside : ∀ it ∈ its, it ∈ pageBlocks ee path)
    (active : LcdpageT) :
    match its.find? (isTarget ee page) with
    | some it => ShowsBlock ee it (loadPageLoop ee page its active)
    | none => ∃ old, loadPageLoop ee page its active =
        loadErrorPage old errorPagePageNotFound := by
  induction its generalizing active with
  | nil => exact ⟨active, rfl⟩
  | cons it its ih =>
      have member := inside it List.mem_cons_self
      have onPath := (mem_pageBlocks.mp member).1
      have later := ih fun q tail => inside q (List.mem_cons_of_mem it tail)
      have named : edsBlockData ee it 0 = ee.cell (it + 2) := config.own member (k := 0) (by decide)
      rw [loadPageLoop, named, config.blockSize onPath]
      have target : isTarget ee page it = true ↔
          ee.cell (it + 2) = page ∧ (ee.cell (it + 1)).toNat + 2 ≤ 198 := by
        unfold isTarget
        rw [Bool.and_eq_true, beq_iff_eq, decide_eq_true_eq]
      by_cases here : ee.cell (it + 2) = page
      · rw [if_pos here]
        by_cases large : (ee.cell (it + 1)).toNat + 2 > 198
        · have other : ¬ isTarget ee page it = true := fun both =>
            absurd (target.mp both).2 (Nat.not_le_of_gt large)
          rw [if_pos large, List.find?_cons_of_neg other]
          exact later _
        · have found : isTarget ee page it = true := target.mpr ⟨here, Nat.le_of_not_lt large⟩
          rw [if_neg large, List.find?_cons_of_pos found, ← config.blockSize onPath]
          exact showsBlock_read config onPath active
      · have other : ¬ isTarget ee page it = true := fun both => here (target.mp both).1
        rw [if_neg here, List.find?_cons_of_neg other]
        exact later active

theorem firstChildLoop_spec (self : UInt8) {its : List ℕ}
    (inside : ∀ it ∈ its, it ∈ pageBlocks ee path) (active : LcdpageT) :
    match its.find? (isFirstChild ee self) with
    | some it => if (ee.cell (it + 1)).toNat + 2 ≤ 198 then
          ShowsBlock ee it (firstChildLoop ee self its active)
        else ∃ old, firstChildLoop ee self its active = loadErrorPage old errorPageSizeTooLarge
    | none => ∃ old, firstChildLoop ee self its active =
        loadErrorPage old errorPageChildPageNotFound := by
  induction its generalizing active with
  | nil => exact ⟨active, rfl⟩
  | cons it its ih =>
      have member := inside it List.mem_cons_self
      have onPath := (mem_pageBlocks.mp member).1
      have parent : edsPageParent ee it = ee.cell (it + 3) := config.own member (k := 1) (by decide)
      have prev : edsPagePrev ee it = ee.cell (it + 5) := config.own member (k := 3) (by decide)
      have child : isFirstChild ee self it = true ↔
          ee.cell (it + 3) = self ∧ ee.cell (it + 5) = 0 := by
        unfold isFirstChild
        rw [Bool.and_eq_true, beq_iff_eq, beq_iff_eq]
      rw [firstChildLoop, parent, prev, config.blockSize onPath]
      by_cases here : ee.cell (it + 3) = self ∧ ee.cell (it + 5) = 0
      · rw [if_pos here, List.find?_cons_of_pos (child.mpr here)]
        dsimp only
        by_cases large : (ee.cell (it + 1)).toNat + 2 > 198
        · rw [if_pos large, if_neg (Nat.not_le_of_gt large)]
          exact ⟨active, rfl⟩
        · rw [if_neg large, if_pos (Nat.le_of_not_lt large), ← config.blockSize onPath]
          exact showsBlock_read config onPath active
      · have other : ¬ isFirstChild ee self it = true := fun both => here (child.mp both)
        rw [if_neg here, List.find?_cons_of_neg other]
        exact ih (fun q tail => inside q (List.mem_cons_of_mem it tail)) active

omit config in
/-- What `load_page` leaves. -/
theorem lcdLoadPage_spec {s : Lcdstate mcu} (config : Configured s.eeprom path) (page : UInt8) :
    ∃ active, lcdLoadPage s page = some { s with activePage := active } ∧
      Loaded s.eeprom path page active := by
  obtain ⟨headers, found⟩ := config.foreach
  refine ⟨loadPageLoop s.eeprom page (pageBlocks s.eeprom path) s.activePage, ?_,
    loadPageLoop_spec config page (fun _ member => member) s.activePage⟩
  unfold lcdLoadPage
  rw [found]
  rfl

omit config in
theorem pagePathStackPush_cases (s : Lcdstate mcu) (pageId : UInt8) :
    ∃ active stack ptr, pagePathStackPush s pageId =
        { s with activePage := active, pageStack := stack, pageStackPtr := ptr } ∧
      (s.pageStackPtr ≤ 7 → s.pageStackPtr ≤ ptr ∧ ptr ≤ 7) := by
  unfold pagePathStackPush
  by_cases full : s.pageStackPtr ≥ 7
  · rw [if_pos full]
    exact ⟨_, s.pageStack, s.pageStackPtr, rfl, fun bound => ⟨Nat.le_refl _, bound⟩⟩
  · rw [if_neg full]
    exact ⟨s.activePage, _, _, rfl, fun _ => by omega⟩

omit config in
/-- What `goto_first_child_page` leaves. -/
theorem gotoFirstChildPage_spec {s : Lcdstate mcu} (config : Configured s.eeprom path) :
    ∃ active stack ptr, gotoFirstChildPage s =
        some { s with activePage := active, pageStack := stack, pageStackPtr := ptr } ∧
      ChildLoaded s.eeprom path s.activePage.pageId active ∧
      (s.pageStackPtr ≤ 7 → s.pageStackPtr ≤ ptr ∧ ptr ≤ 7) := by
  obtain ⟨headers, found⟩ := config.foreach
  obtain ⟨before, stack, ptr, pushed, bound⟩ := pagePathStackPush_cases s s.activePage.pageId
  refine ⟨firstChildLoop s.eeprom s.activePage.pageId (pageBlocks s.eeprom path) before, stack, ptr,
    ?_, ?_, bound⟩
  · unfold gotoFirstChildPage
    dsimp only
    rw [pushed]
    dsimp only
    rw [found]
    rfl
  · have search := firstChildLoop_spec config s.activePage.pageId
      (fun _ member => member) before
    unfold ChildLoaded
    cases child : (pageBlocks s.eeprom path).find? (isFirstChild s.eeprom s.activePage.pageId) with
    | none =>
        rw [child] at search
        exact search
    | some it =>
        rw [child] at search
        dsimp only at search ⊢
        split
        · next fits =>
            rw [if_pos fits] at search
            exact search
        · next large =>
            rw [if_neg large] at search
            exact search

omit config in
/-- What `load_shortcut_page` leaves. -/
theorem loadShortcutPage_spec {s : Lcdstate mcu} (config : Configured s.eeprom path)
    (n : Fin 4) : ∃ active, loadShortcutPage s n = some { s with activePage := active } ∧
      match shortcutsAt s.eeprom path with
      | some q => Loaded s.eeprom path (s.eeprom.cell (q + 2 + n)) active
      | none => ∃ old, active = loadErrorPage old errorPageShortcutsMissing := by
  unfold loadShortcutPage
  rw [config.shortcutsBlock]
  dsimp only [Option.bind_eq_bind, Option.bind_some]
  cases found : shortcutsAt s.eeprom path with
  | none => exact ⟨_, rfl, s.activePage, rfl⟩
  | some q =>
      obtain ⟨member, type⟩ := shortcutsAt_some found
      have room := config.room q member type
      have stop := config.stop member
      have start := config.chain.dataStart_le member
      have low : edsDataStart = 34 := rfl
      have limit := edsEnd_le mcu
      have entry : (eepromReadBlock s.eeprom (Vector.replicate 8 0) (ptrAdd q 2) 8)[n] =
          s.eeprom.cell (q + 2 + n) := by
        rw [ptrAdd_of_lt (by omega)]
        exact eepromReadBlock_get _ (by omega) (by omega) (by omega)
      obtain ⟨active, loaded, shown⟩ := lcdLoadPage_spec config (s.eeprom.cell (q + 2 + n))
      rw [Option.getD_some, if_neg (by omega), entry]
      exact ⟨active, loaded, shown⟩

omit config in
/-- A read of the eight entries and a write back with another one changes that one. -/
theorem shortcuts_update {p : ℕ} (n : Fin 4) (pageId : UInt8) (stop : p + 8 ≤ edsEnd mcu + 1) :
    (eepromWriteBlock ee p
      ((eepromReadBlock ee (Vector.replicate 8 0) p 8).set n pageId).toList).cell
      = Function.update ee.cell (p + n) pageId := by
  funext address
  have length : ((eepromReadBlock ee (Vector.replicate 8 0) p 8).set n pageId).toList.length = 8 :=
    Vector.length_toList
  rw [eepromWriteBlock_cell _ ee (by rw [length]; exact stop)]
  by_cases outside : address < p ∨ p + 8 ≤ address
  · rw [Function.update_of_ne (by omega)]
    split
    · rw [List.getElem?_eq_none (by omega), Option.getD_none]
    · rfl
  · obtain ⟨k, rfl⟩ := Nat.exists_eq_add_of_le (show p ≤ address by omega)
    have inside : k < 8 := by omega
    have entry :
        k < ((eepromReadBlock ee (Vector.replicate 8 0) p 8).set n pageId).toList.length := by
      omega
    rw [if_pos (Nat.le_add_right p k), Nat.add_sub_cancel_left, List.getElem?_eq_getElem entry,
      Option.getD_some, toList_byte entry, byte_set (by omega) inside]
    by_cases here : n.val = k
    · rw [if_pos here, ← here, Function.update_self]
    · rw [if_neg here, Function.update_of_ne (by omega),
        eepromReadBlock_get _ stop inside inside]

omit config in
/-- What `save_shortcut_page` leaves. -/
theorem saveShortcutPage_spec {s : Lcdstate mcu} (config : Configured s.eeprom path)
    (n : Fin 4) :
    match shortcutsAt s.eeprom path with
    | some q => ∃ ee, saveShortcutPage s n = some { s with eeprom := ee } ∧
        ee.cell = Function.update s.eeprom.cell (q + 2 + n) s.activePage.pageId
    | none => ∃ active, saveShortcutPage s n = some { s with activePage := active } ∧
        ∃ old, active = loadErrorPage old errorPageShortcutsMissing := by
  unfold saveShortcutPage
  rw [config.shortcutsBlock]
  dsimp only [Option.bind_eq_bind, Option.bind_some]
  cases found : shortcutsAt s.eeprom path with
  | none => exact ⟨_, rfl, s.activePage, rfl⟩
  | some q =>
      obtain ⟨member, type⟩ := shortcutsAt_some found
      have room := config.room q member type
      have stop := config.stop member
      have start := config.chain.dataStart_le member
      have low : edsDataStart = 34 := rfl
      have limit := edsEnd_le mcu
      rw [Option.getD_some, if_neg (by omega)]
      refine ⟨_, rfl, ?_⟩
      rw [ptrAdd_of_lt (by omega)]
      exact shortcuts_update n s.activePage.pageId (by omega)

end Functions

end Hcan.Userpanel
