import Hcan.Data.FileFormat
import Hcan.Host.Commands

/-!
# The frame query of the log

`data_query` compiles a query in postfix notation into words of one opcode byte
and three bytes of argument, and runs them on a small stack.  The stack and its
pointer survive a call, also one that throws.
-/

namespace Hcan.Data

open Hcan.Host Hcan.Library Program

/-- `sizeof(m_code)` is four times the number of words. -/
def codeSize : Nat := 128
def stackSize : Nat := 16

def tokenNop : UInt32 := 0x00000000
def tokenInt : UInt32 := 0x01000000
def tokenSrc : UInt32 := 0x10000000
def tokenDst : UInt32 := 0x11000000
def tokenProto : UInt32 := 0x12000000
def tokenSize : UInt32 := 0x13000000
def tokenD0 : UInt32 := 0x14000000
def tokenD1 : UInt32 := 0x15000000
def tokenD2 : UInt32 := 0x16000000
def tokenD3 : UInt32 := 0x17000000
def tokenD4 : UInt32 := 0x18000000
def tokenD5 : UInt32 := 0x19000000
def tokenD6 : UInt32 := 0x20000000
def tokenD7 : UInt32 := 0x21000000
def tokenEqual : UInt32 := 0x80000000
def tokenAndOp : UInt32 := 0x81000000
def tokenAnd : UInt32 := 0x82000000
def tokenOrOp : UInt32 := 0x83000000
def tokenOr : UInt32 := 0x84000000
def tokenNotEqual : UInt32 := 0x85000000
def tokenNot : UInt32 := 0x86000000

/-- The regular expression `^[0-9]+` matches the whole word. -/
def isNumber (word : Text) : Bool := !word.isEmpty && word.all isDigit

/-- The number that a word of digits spells. -/
def digitsValue (word : Text) : Nat :=
  word.foldl (fun n digit => 10 * n + (digit.toNat - 48)) 0

/-- `atol` of a word of digits; beyond the range of `long` it stops at its end. -/
def atol (longMax : Nat) (word : Text) : Nat := min (digitsValue word) longMax

/-- The word of code for a word of the query; other words leave no code. -/
def compileWord (longMax : Nat) (word : Text) : Option UInt32 :=
  if isNumber word then
    let i := UInt32.ofNat (atol longMax word)
    some (tokenInt ||| (i &&& 0x00ffffff))
  else if word = text "src" then some tokenSrc
  else if word = text "dst" then some tokenDst
  else if word = text "proto" then some tokenProto
  else if word = text "size" then some tokenSize
  else if word = text "d0" then some tokenD0
  else if word = text "d1" then some tokenD1
  else if word = text "d2" then some tokenD2
  else if word = text "d3" then some tokenD3
  else if word = text "d4" then some tokenD4
  else if word = text "d5" then some tokenD5
  else if word = text "d6" then some tokenD6
  else if word = text "d7" then some tokenD7
  else if word = text "=" then some tokenEqual
  else if word = text "!=" then some tokenNotEqual
  else if word = text "!" then some tokenNot
  else if word = text "&" then some tokenAndOp
  else if word = text "&&" then some tokenAnd
  else if word = text "|" then some tokenOrOp
  else if word = text "||" then some tokenOr
  else none

def codeTooSmall (code : List UInt32) : Bool := 4 * codeSize - 4 ≤ 4 * code.length

/-- The loop of `compile_query`; it ends when an extraction has seen the end of the
text.  The fuel bounds the number of words. -/
def compileLoop (longMax : Nat) : Nat → Text → List UInt32 → Except String (List UInt32)
  | 0, _, code => .ok code
  | fuel + 1, rest, code =>
      if codeTooSmall code then .error "query code block too small"
      else
        let word := extractWord [] rest
        let code := code ++ (compileWord longMax word.1).toList
        if word.2.isEmpty then .ok code else compileLoop longMax fuel word.2 code

/-- The code with its closing NOP. -/
def compileQuery (longMax : Nat) (query : Text) : Except String (List UInt32) := do
  let code ← compileLoop longMax (query.length + 1) query []
  if codeTooSmall code then throw "query code block too small" else pure (code ++ [tokenNop])

/-! ## The interpreter -/

/-- The object: the code up to its NOP, the stack and its pointer.  The first slot of
the stack is never used. -/
structure DataQuery where
  code : List UInt32
  stack : Vector UInt32 16
  stackPtr : Int
  deriving DecidableEq, Repr

/-- The constructor; the stack holds what was in the memory before. -/
def dataQuery (longMax : Nat) (stack : Vector UInt32 16) (query : Text) :
    Except String DataQuery := do
  let code ← compileQuery longMax query
  pure ⟨code, stack, 0⟩

/-- `m_stack[++m_stack_ptr] = data`.  The store is made before the bound is checked; with
a full stack it falls on `m_stack_ptr` itself, which the model leaves undefined. -/
def push (data : UInt32) : Program DataQuery String PUnit :=
  step fun q =>
    let ptr := q.stackPtr + 1
    if ptr.toNat < stackSize then
      some (⟨⟩, { q with stack := q.stack.setIfInBounds ptr.toNat data, stackPtr := ptr })
    else none

/-- `m_stack[m_stack_ptr--]`; an entry before the first one is undefined. -/
def pop : Program DataQuery String UInt32 := do
  let data ← step fun q =>
    if 0 ≤ q.stackPtr then
      q.stack[q.stackPtr.toNat]?.map fun data => (data, { q with stackPtr := q.stackPtr - 1 })
    else none
  let q ← get
  if q.stackPtr < 0 then throw "query m_stack underrun" else pure data

/-- An operator with two arguments: `d1` is the upper one. -/
def binary (operator : UInt32 → UInt32 → UInt32) : Program DataQuery String PUnit := do
  let d1 ← pop
  let d2 ← pop
  push (operator d1 d2)

/-- The value of a C comparison. -/
def ofBool (b : Bool) : UInt32 := if b then 1 else 0

/-- One word of code other than the NOP. -/
def execute (f : FrameEntry) (word : UInt32) : Program DataQuery String PUnit :=
  let opcode := word &&& 0xff000000
  if opcode = tokenInt then push (word &&& 0x00ffffff)
  else if opcode = tokenSrc then push f.src.toUInt32
  else if opcode = tokenDst then push f.dst.toUInt32
  else if opcode = tokenProto then push f.proto.toUInt32
  else if opcode = tokenSize then push f.size.toUInt32
  else if opcode = tokenD0 then push f.data[0].toUInt32
  else if opcode = tokenD1 then push f.data[1].toUInt32
  else if opcode = tokenD2 then push f.data[2].toUInt32
  else if opcode = tokenD3 then push f.data[3].toUInt32
  else if opcode = tokenD4 then push f.data[4].toUInt32
  else if opcode = tokenD5 then push f.data[5].toUInt32
  else if opcode = tokenD6 then push f.data[6].toUInt32
  else if opcode = tokenD7 then push f.data[7].toUInt32
  else if opcode = tokenEqual then binary fun d1 d2 => ofBool (d1 == d2)
  else if opcode = tokenNotEqual then binary fun d1 d2 => ofBool (d1 != d2)
  else if opcode = tokenNot then do
    let d1 ← pop
    push (ofBool (d1 == 0))
  else if opcode = tokenAndOp then binary fun d1 d2 => d1 &&& d2
  else if opcode = tokenAnd then binary fun d1 d2 => ofBool (d1 != 0 && d2 != 0)
  else if opcode = tokenOrOp then binary fun d1 d2 => d1 ||| d2
  else if opcode = tokenOr then binary fun d1 d2 => ofBool (d1 != 0 || d2 != 0)
  else throw "unknown opcode"

/-- The loop of `match`.  Its counter `c` grows by the bytes of a word and is compared
with the number of words.  The code never ends before its NOP. -/
def matchLoop (f : FrameEntry) : List UInt32 → Nat → Program DataQuery String Bool
  | [], _ => throw "code end reached"
  | word :: code, c =>
      if c < codeSize then
        if word &&& 0xff000000 = tokenNop then do
          let q ← get
          if q.stackPtr ≠ 1 then throw "invalid m_stack after operations"
          let value ← pop
          pure (value != 0)
        else do
          execute f word
          matchLoop f code (c + 4)
      else throw "code end reached"

/-- `data_query::match`. -/
def matchEntry (f : FrameEntry) : Program DataQuery String Bool := do
  let q ← get
  matchLoop f q.code 0

/-- Calls of `match` one after another on one object, each with its result. -/
def matchEntries : List FrameEntry → DataQuery → Option (List (Except String Bool))
  | [], _ => some []
  | f :: entries, q => do
      let (result, q) ← matchEntry f q
      let results ← matchEntries entries q
      pure (result :: results)

end Hcan.Data
