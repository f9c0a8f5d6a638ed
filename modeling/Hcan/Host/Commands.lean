import Hcan.Host.Connection

/-!
# The shell commands

Reading a command line as `istringstream` does and the commands that
`eds_exec_cmd` selects.  A number that the line does not hold leaves the variable
of the source as it was; its old content is an argument here.
-/

namespace Hcan.Host

open Hcan.Canix Hcan.Library

def isSpace (c : UInt8) : Bool := c == 32 || (9 ≤ c && c ≤ 13)

def isDigit (c : UInt8) : Bool := 48 ≤ c && c ≤ 57

/-- `sin >> s`: the word, or the old `s` at the end of the text, and the text behind. -/
def extractWord (s rest : Text) : Text × Text :=
  let rest := rest.dropWhile isSpace
  let word := rest.takeWhile fun c => !isSpace c
  (if word.isEmpty then s else word, rest.dropWhile fun c => !isSpace c)

/-- Sign and magnitude of the number that a text begins with. -/
def extractNumber (rest : Text) : Option (Bool × Nat) :=
  let signed := rest.dropWhile isSpace
  let (negative, unsigned) := match signed with
    | 45 :: rest => (true, rest)
    | 43 :: rest => (false, rest)
    | rest => (false, rest)
  let digits := unsigned.takeWhile isDigit
  if digits.isEmpty then none
  else some (negative, digits.foldl (fun n digit => 10 * n + (digit.toNat - 48)) 0)

/-- `sin >> address` into a `uint16_t` that held `stale`. -/
def extractUint16 (stale : UInt16) (rest : Text) : UInt16 :=
  match extractNumber rest with
  | some (negative, n) =>
      if n ≤ 65535 then UInt16.ofInt (if negative then -(n : Int) else n) else stale
  | none => stale

/-- `ss >> v` into an `int` that held `stale`. -/
def extractInt (stale : Int) (rest : Text) : Int :=
  match extractNumber rest with
  | some (true, n) => if n ≤ 2147483648 then -(n : Int) else stale
  | some (false, n) => if n ≤ 2147483647 then n else stale
  | none => stale

/-- The loop that joins the words behind the key with one blank each; it runs
until the end of the text has been seen. -/
def setValueLoop : Nat → Nat → Text → Text
  | 0, _, _ => []
  | fuel + 1, i, rest =>
      if rest.isEmpty then []
      else
        let word := extractWord [] rest
        (if i > 0 then [32] else []) ++ word.1 ++ setValueLoop fuel (i + 1) word.2

def setValue (rest : Text) : Text := setValueLoop rest.length 0 rest

theorem extractWord_length {s rest : Text} (more : rest ≠ []) :
    (extractWord s rest).2.length < rest.length := by
  have shorter : ∀ {p : UInt8 → Bool} {list : Text}, (list.dropWhile p).length ≤ list.length :=
    fun {p list} => (List.dropWhile_sublist p).length_le
  change ((rest.dropWhile isSpace).dropWhile fun c => !isSpace c).length < _
  cases rest with
  | nil => exact absurd rfl more
  | cons c rest =>
      cases blank : isSpace c with
      | true =>
          rw [List.dropWhile_cons_of_pos blank]
          exact Nat.lt_succ_of_le (Nat.le_trans shorter shorter)
      | false =>
          rw [List.dropWhile_cons_of_neg (by rw [blank]; decide),
            List.dropWhile_cons_of_pos (by rw [blank]; rfl)]
          exact Nat.lt_succ_of_le shorter

/-- The length of the text is enough fuel for the loop. -/
theorem setValueLoop_fuel {fuel i : Nat} {rest : Text} (enough : rest.length ≤ fuel) :
    setValueLoop (fuel + 1) i rest = setValueLoop fuel i rest := by
  induction fuel generalizing i rest with
  | zero =>
      rw [List.length_eq_zero_iff.mp (Nat.le_zero.mp enough)]
      rfl
  | succ fuel ih =>
      rw [setValueLoop, setValueLoop]
      split
      · rfl
      · next more =>
          have shorter : (extractWord [] rest).2.length < rest.length :=
            extractWord_length fun empty => more (List.isEmpty_iff.mpr empty)
          dsimp only
          rw [ih (by omega)]

/-! ## The commands -/

variable {mcu : Mcu}

/-- A field as `list` and `show conf` print its value. -/
def fieldValue (bcon : BoardConnection) (block : EdsBlock) (field : EdsBlockFieldDesc) :
    Shell mcu Text :=
  match field.datatype with
  | .char => block.strfield bcon (text field.name)
  | .uint16 => do
      let v ← block.uint16Field bcon (text field.name)
      pure (decimal v.toNat)
  | .uint8 => do
      let v ← block.field bcon (text field.name)
      pure (decimal v.toNat)

def edsCmdList (bcon : BoardConnection) : Shell mcu PUnit := do
  let s ← get
  match s.context.mode with
  | .normal =>
      s.blocks.forM fun block => print (text "\x7b" ++ text block.desc.name ++ text "\x7d@" ++
        decimal block.address.toNat ++ text "\n")
  | .edit =>
      let block ← blockByAddress s.context.edsBlockAddress
      block.desc.fields.forM fun field => do
        let value ← fieldValue bcon block field
        match field.datatype with
        | .char => print (text "char[" ++ decimal field.size ++ text "] " ++ text field.name ++
            text " '" ++ value ++ text "'\n")
        | .uint16 => print (text "uint16_t " ++ text field.name ++ text " " ++ value ++ text "\n")
        | .uint8 => print (text "uint8_t " ++ text field.name ++ text " " ++ value ++ text "\n")
  | .oap => pure ⟨⟩

/-- The prompt and the mode that `create` and `edit` leave behind. -/
def editContext (c : Context) (typeName : Text) (address : UInt16) : Context :=
  { c with
    prompt := text "EDS/\x7b" ++ typeName ++ text "\x7d@" ++ decimal address.toNat ++ text " > "
    mode := .edit
    edsBlockAddress := address }

def edsCmdCreate (bcon : BoardConnection) (type : Text) : Shell mcu PUnit := do
  let block ← createBlock bcon type
  print (text "creating new " ++ type ++ text ", type id = " ++ decimal block.type.toNat ++
    text "...\n")
  let s ← get
  setContext (editContext s.context (text block.desc.name) block.address)

def edsCmdDelete (bcon : BoardConnection) (address : UInt16) : Shell mcu PUnit := do
  let block ← blockByAddress address
  deleteBlock bcon block.address

def edsCmdEdit (address : UInt16) : Shell mcu PUnit := do
  let block ← blockByAddress address
  let s ← get
  setContext (editContext s.context (text block.desc.name) address)

def edsCmdSetField (bcon : BoardConnection) (stale : Int) (address : UInt16) (key value : Text) :
    Shell mcu PUnit := do
  let block ← blockByAddress address
  let field ← getBlockFieldDescByKey block.desc key
  match field.datatype with
  | .char => block.setFieldStr bcon key value
  | .uint16 => block.setFieldUint16 bcon key (UInt16.ofInt (extractInt stale value))
  | .uint8 => block.setFieldUint8 bcon key (UInt8.ofInt (extractInt stale value))

def edsCmdShowConf (bcon : BoardConnection) : Shell mcu PUnit := do
  let s ← get
  s.blocks.forM fun block => do
    print (text "# EDS-Address: " ++ decimal block.address.toNat ++ text "\n")
    print (text "create " ++ text block.desc.name ++ text "\n")
    block.desc.fields.forM fun field => do
      let value ← fieldValue bcon block field
      print (text "  set " ++ text field.name ++ text " " ++ value ++ text "\n")
    print (text "exit\n")

/-- The commands but `show conf`, by the word `s` and the text behind it. -/
def edsExecWord (bcon : BoardConnection) (stale : Int) (s rest : Text) : Shell mcu Bool := do
  let session ← get
  let mode := session.context.mode
  if s = text "list" ∧ (mode = .normal ∨ mode = .edit) then
    edsCmdList bcon
    pure true
  else if s = text "edit" then
    edsCmdEdit (extractUint16 (UInt16.ofInt stale) rest)
    pure true
  else if s = text "create" then
    edsCmdCreate bcon (extractWord s rest).1
    pure true
  else if s = text "delete" then
    edsCmdDelete bcon (extractUint16 (UInt16.ofInt stale) rest)
    pure true
  else if s = text "defragment" then
    defragment bcon
    update bcon
    pure true
  else if s = text "Format" then
    sendFormat bcon
    update bcon
    pure true
  else if s = text "exit" ∧ mode = .edit then
    setContext session.context.reset
    pure true
  else if mode = .edit ∧ s = text "set" then
    let key := extractWord s rest
    edsCmdSetField bcon stale session.context.edsBlockAddress key.1 (setValue key.2)
    pure true
  else pure false

/-- `eds_exec_cmd`: whether the line is a command of the EDS.  Behind `show` the
second word takes the place of the first one. -/
def edsExecCmd (bcon : BoardConnection) (stale : Int) (cmd : Text) : Shell mcu Bool := do
  let first := extractWord [] cmd
  if first.1 = text "show" then
    let second := extractWord first.1 first.2
    if second.1 = text "conf" then
      edsCmdShowConf bcon
      pure true
    else edsExecWord bcon stale second.1 second.2
  else edsExecWord bcon stale first.1 first.2

/-- The constructor of `eds_connection` on a board with this EEPROM. -/
def edsConnection (bcon : BoardConnection) : Shell mcu PUnit := update bcon

end Hcan.Host
