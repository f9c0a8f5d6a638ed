import Hcan.Data.Query

/-!
# The query language

What a query means: its words are tokens of a postfix language over 32-bit values,
evaluated on a stack of at most 15 values.  A text with any other word has no meaning.
-/

namespace Hcan.Data

open Hcan.Host

inductive Token where
  | int (n : UInt32)
  | src
  | dst
  | proto
  | size
  | data (i : Fin 8)
  | equal
  | notEqual
  | not
  | andOp
  | and
  | orOp
  | or
  deriving DecidableEq, Repr

namespace Token

def keywords : List (Text × Token) := [
  (text "src", .src), (text "dst", .dst), (text "proto", .proto), (text "size", .size),
  (text "d0", .data 0), (text "d1", .data 1), (text "d2", .data 2), (text "d3", .data 3),
  (text "d4", .data 4), (text "d5", .data 5), (text "d6", .data 6), (text "d7", .data 7),
  (text "=", .equal), (text "!=", .notEqual), (text "!", .not), (text "&", .andOp),
  (text "&&", .and), (text "|", .orOp), (text "||", .or)]

/-- The token that a word spells. -/
def ofWord (word : Text) : Option Token :=
  if isNumber word then
    if digitsValue word < 2 ^ 32 then some (.int (UInt32.ofNat (digitsValue word))) else none
  else (keywords.find? fun entry => entry.1 = word).map Prod.snd

/-- The effect of a token on the stack, its top first. -/
def apply (f : FrameEntry) : Token → List UInt32 → Option (List UInt32)
  | .int n, stack => some (n :: stack)
  | .src, stack => some (f.src.toUInt32 :: stack)
  | .dst, stack => some (f.dst.toUInt32 :: stack)
  | .proto, stack => some (f.proto.toUInt32 :: stack)
  | .size, stack => some (f.size.toUInt32 :: stack)
  | .data i, stack => some (f.data[i].toUInt32 :: stack)
  | .equal, d1 :: d2 :: stack => some (ofBool (d1 == d2) :: stack)
  | .notEqual, d1 :: d2 :: stack => some (ofBool (d1 != d2) :: stack)
  | .not, d1 :: stack => some (ofBool (d1 == 0) :: stack)
  | .andOp, d1 :: d2 :: stack => some ((d1 &&& d2) :: stack)
  | .and, d1 :: d2 :: stack => some (ofBool (d1 != 0 && d2 != 0) :: stack)
  | .orOp, d1 :: d2 :: stack => some ((d1 ||| d2) :: stack)
  | .or, d1 :: d2 :: stack => some (ofBool (d1 != 0 || d2 != 0) :: stack)
  | _, _ => none

/-- The token whose literal is cut to what the code word has room for. -/
def encoded (longMax : Nat) : Token → Token
  | .int n => .int (UInt32.ofNat (min n.toNat longMax) &&& 0x00ffffff)
  | token => token

end Token

/-- The words of a text, between blanks. -/
def words (query : Text) : List Text :=
  (query.splitOnP isSpace).filter fun word => !word.isEmpty

/-- The tokens of a query that consists of tokens only. -/
def tokenize (query : Text) : Option (List Token) := (words query).mapM Token.ofWord

/-- The run of the tokens from a stack, while no more than 15 values are on it. -/
def runTokens (f : FrameEntry) : List Token → List UInt32 → Option (List UInt32)
  | [], stack => some stack
  | token :: tokens, stack => do
      let stack ← token.apply f stack
      if stack.length ≤ 15 then runTokens f tokens stack else none

/-- The one value that a run of the tokens leaves. -/
def evaluate (f : FrameEntry) (tokens : List Token) : Option UInt32 :=
  match runTokens f tokens [] with
  | some [value] => some value
  | _ => none

end Hcan.Data
