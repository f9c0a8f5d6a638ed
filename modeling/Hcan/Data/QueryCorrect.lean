import Hcan.Data.QueryLanguage
import Hcan.Library.Bits
import Hcan.Library.Partial
import Mathlib.Data.List.TakeWhile

/-!
# The query and its language

The compiled code of a query is the list of its tokens, and the interpreter runs each
token as the language does, on literals of 24 bits.  Its counter leaves room for 31
tokens; a query beyond that throws on every entry.
-/

namespace Hcan.Data

open Hcan.Host Hcan.Library Program

theorem words_space {c : UInt8} {rest : Text} (blank : isSpace c = true) :
    words (c :: rest) = words rest := by
  unfold words
  rw [List.splitOnP_cons_eq_if_modifyHead, if_pos blank]
  rfl

theorem words_dropWhile (rest : Text) : words (rest.dropWhile isSpace) = words rest := by
  induction rest with
  | nil => rfl
  | cons c rest ih =>
      cases blank : isSpace c with
      | true => rw [List.dropWhile_cons_of_pos blank, ih, words_space blank]
      | false => rw [List.dropWhile_cons_of_neg (by rw [blank]; decide)]

/-- A word without blanks, up to the end or a blank, is the first of the words. -/
theorem words_append {word rest : Text} (solid : ∀ c ∈ word, isSpace c = false)
    (ends : ∀ c ∈ rest.head?, isSpace c = true) :
    words (word ++ rest) = (if word.isEmpty then [] else [word]) ++ words rest := by
  have single : [word].filter (fun word => !word.isEmpty) =
      if word.isEmpty then [] else [word] := by
    cases word <;> rfl
  cases rest with
  | nil =>
      unfold words
      rw [List.append_nil, List.splitOnP_eq_singleton solid, single]
      exact (List.append_nil _).symm
  | cons c rest =>
      have blank : isSpace c = true := ends c rfl
      rw [words_space blank]
      unfold words
      rw [List.splitOnP_append_cons_of_forall_mem solid c blank,
        List.filter_cons, ← single, List.filter_singleton]
      cases (!word.isEmpty) <;> rfl

/-- Extraction takes the first word off a text. -/
theorem words_extractWord (rest : Text) :
    words rest = (if (extractWord [] rest).1.isEmpty then [] else [(extractWord [] rest).1]) ++
      words (extractWord [] rest).2 := by
  have word : (extractWord [] rest).1 =
      (rest.dropWhile isSpace).takeWhile fun c => !isSpace c := by
    unfold extractWord
    dsimp only
    split
    · next empty => exact (List.isEmpty_iff.mp empty).symm
    · rfl
  rw [word, ← words_dropWhile rest]
  conv => lhs; rw [← List.takeWhile_append_dropWhile (p := fun c => !isSpace c)
    (l := rest.dropWhile isSpace)]
  apply words_append
  · intro c member
    have solid := List.mem_takeWhile_imp member
    simpa using solid
  · intro c first
    have stopped := List.head?_dropWhile_not (fun c => !isSpace c) (rest.dropWhile isSpace)
    rw [Option.mem_def.mp first] at stopped
    simpa using stopped

theorem words_nil : words [] = [] := rfl

section Compiler

variable {longMax : Nat}

/-- The code word of a literal: its opcode and its argument. -/
theorem int_opcode (x : UInt32) :
    (tokenInt ||| (x &&& 0x00ffffff)) &&& 0xff000000 = tokenInt := by
  apply UInt32.toBitVec_inj.mp
  change (tokenInt.toBitVec ||| (x.toBitVec &&& 0x00ffffff)) &&& 0xff000000 = tokenInt.toBitVec
  have masks : (0x00ffffff : BitVec 32) &&& 0xff000000 = 0 := by decide
  have kept : tokenInt.toBitVec &&& 0xff000000 = tokenInt.toBitVec := by decide
  rw [BitVec.and_or_distrib_right, BitVec.and_assoc, masks, kept]
  exact (congrArg (tokenInt.toBitVec ||| ·) BitVec.and_zero).trans BitVec.or_zero

theorem int_argument (x : UInt32) :
    (tokenInt ||| (x &&& 0x00ffffff)) &&& 0x00ffffff = x &&& 0x00ffffff := by
  apply UInt32.toBitVec_inj.mp
  change (tokenInt.toBitVec ||| (x.toBitVec &&& 0x00ffffff)) &&& 0x00ffffff =
    x.toBitVec &&& 0x00ffffff
  have cleared : tokenInt.toBitVec &&& 0x00ffffff = 0 := by decide
  rw [BitVec.and_or_distrib_right, BitVec.and_assoc, BitVec.and_self, cleared]
  exact BitVec.zero_or

/-- What a word adds to the code; the empty word at the end of a text adds nothing. -/
theorem compile_first (word : Text) :
    (if word.isEmpty then [] else [word]).filterMap (compileWord longMax) =
      (compileWord longMax word).toList := by
  cases word with
  | nil => rfl
  | cons c word =>
      rw [if_neg (fun empty => nomatch empty)]
      cases found : compileWord longMax (c :: word) <;> simp [found]

/-- What the loop has added when it ends. -/
theorem compileLoop_ok {fuel : Nat} {rest : Text} {code result : List UInt32}
    (enough : rest.length < fuel) (accepted : compileLoop longMax fuel rest code = .ok result) :
    result = code ++ (words rest).filterMap (compileWord longMax) := by
  induction fuel generalizing rest code with
  | zero => exact absurd enough (Nat.not_lt_zero _)
  | succ fuel ih =>
      rw [compileLoop] at accepted
      split at accepted
      · exact absurd accepted (by simp)
      · rw [words_extractWord rest, List.filterMap_append, compile_first, ← List.append_assoc]
        dsimp only at accepted
        split at accepted
        · next empty =>
            rw [List.isEmpty_iff.mp empty, words_nil, List.filterMap_nil, List.append_nil]
            exact (Except.ok.inj accepted).symm
        · next more =>
            have some : rest ≠ [] := by
              intro none
              rw [none] at more
              exact more rfl
            have shorter : (extractWord [] rest).2.length < rest.length := extractWord_length some
            exact ih (by omega) accepted

/-- The word of code of a token. -/
def Token.code (longMax : Nat) : Token → UInt32
  | .int n => tokenInt ||| (UInt32.ofNat (min n.toNat longMax) &&& 0x00ffffff)
  | .src => tokenSrc
  | .dst => tokenDst
  | .proto => tokenProto
  | .size => tokenSize
  | .data i => #[tokenD0, tokenD1, tokenD2, tokenD3, tokenD4, tokenD5, tokenD6, tokenD7].getD i 0
  | .equal => tokenEqual
  | .notEqual => tokenNotEqual
  | .not => tokenNot
  | .andOp => tokenAndOp
  | .and => tokenAnd
  | .orOp => tokenOrOp
  | .or => tokenOr

theorem compileWord_keyword {entry : Text × Token} (member : entry ∈ Token.keywords) :
    compileWord longMax entry.1 = some (entry.2.code longMax) := by
  simp only [Token.keywords, List.mem_cons, List.not_mem_nil, or_false] at member
  obtain rfl | rfl | rfl | rfl | rfl | rfl | rfl | rfl | rfl | rfl | rfl | rfl | rfl | rfl | rfl |
    rfl | rfl | rfl | rfl := member <;> rfl

theorem compileWord_token {word : Text} {token : Token} (spells : Token.ofWord word = some token) :
    compileWord longMax word = some (token.code longMax) := by
  unfold Token.ofWord at spells
  split at spells
  · next number =>
      split at spells
      · next small =>
          cases Option.some.inj spells
          unfold compileWord Token.code
          dsimp only
          rw [if_pos number, UInt32.toNat_ofNat_of_lt' small]
          rfl
      · exact absurd spells (by simp)
  · obtain ⟨entry, found, rfl⟩ := Option.map_eq_some_iff.mp spells
    have same : entry.1 = word := by simpa using List.find?_some found
    rw [← same]
    exact compileWord_keyword (List.mem_of_find?_eq_some found)

/-- The code of a query that consists of tokens. -/
theorem compileQuery_tokens {query : Text} {tokens : List Token} {code : List UInt32}
    (reads : tokenize query = some tokens) (accepted : compileQuery longMax query = .ok code) :
    code = tokens.map (Token.code longMax) ++ [tokenNop] := by
  have compiled : ∀ {list : List Text} {tokens : List Token},
      list.mapM Token.ofWord = some tokens →
      list.filterMap (compileWord longMax) = tokens.map (Token.code longMax) := by
    intro list
    induction list with
    | nil =>
        intro tokens spelled
        cases Option.some.inj spelled
        rfl
    | cons word list ih =>
        intro tokens spelled
        rw [List.mapM_cons] at spelled
        obtain ⟨token, first, spelled⟩ := Option.bind_eq_some_iff.mp spelled
        obtain ⟨others, rest, spelled⟩ := Option.bind_eq_some_iff.mp spelled
        cases Option.some.inj spelled
        rw [List.filterMap_cons_some (compileWord_token first), ih rest, List.map_cons]
  unfold compileQuery at accepted
  cases looped : compileLoop longMax (query.length + 1) query [] with
  | error message =>
      rw [looped] at accepted
      cases accepted
  | ok result =>
      rw [looped] at accepted
      have collected := compileLoop_ok (Nat.lt_succ_self _) looped
      rw [List.nil_append, compiled reads] at collected
      rw [← collected]
      change (if codeTooSmall result = true then _ else _) = _ at accepted
      split at accepted
      · cases accepted
      · exact (Except.ok.inj accepted).symm

/-- A token never compiles to the NOP. -/
theorem token_code_opcode (token : Token) :
    token.code longMax &&& 0xff000000 ≠ tokenNop := by
  cases token with
  | int n =>
      unfold Token.code
      dsimp only
      rw [int_opcode]
      decide
  | data i =>
      have each : ∀ i, Token.code 0 (.data i) &&& 0xff000000 ≠ tokenNop := by decide
      exact each i
  | src => exact (by decide : tokenSrc &&& 0xff000000 ≠ tokenNop)
  | dst => exact (by decide : tokenDst &&& 0xff000000 ≠ tokenNop)
  | proto => exact (by decide : tokenProto &&& 0xff000000 ≠ tokenNop)
  | size => exact (by decide : tokenSize &&& 0xff000000 ≠ tokenNop)
  | equal => exact (by decide : tokenEqual &&& 0xff000000 ≠ tokenNop)
  | notEqual => exact (by decide : tokenNotEqual &&& 0xff000000 ≠ tokenNop)
  | not => exact (by decide : tokenNot &&& 0xff000000 ≠ tokenNop)
  | andOp => exact (by decide : tokenAndOp &&& 0xff000000 ≠ tokenNop)
  | and => exact (by decide : tokenAnd &&& 0xff000000 ≠ tokenNop)
  | orOp => exact (by decide : tokenOrOp &&& 0xff000000 ≠ tokenNop)
  | or => exact (by decide : tokenOr &&& 0xff000000 ≠ tokenNop)

end Compiler

/-- The values lie on the stack of the object, the top first. -/
structure Holds (q : DataQuery) (values : List UInt32) : Prop where
  ptr : q.stackPtr = values.length
  slot : ∀ {j : Nat} (_ : j < values.length), q.stack[values.length - j]? = some values[j]

theorem holds_nil {q : DataQuery} (empty : q.stackPtr = 0) : Holds q [] :=
  ⟨empty, fun bound => absurd bound (Nat.not_lt_zero _)⟩

section Machine

variable {q : DataQuery} {values : List UInt32} {f : FrameEntry} {longMax : Nat}

/-- After a step of the interpreter: the values on the stack, over the same code. -/
def Leaves (q : DataQuery) (values : List UInt32) (last : DataQuery) : Prop :=
  Holds last values ∧ last.code = q.code

theorem push_ends (holds : Holds q values) (room : values.length < 15) (v : UInt32) :
    Ends (push v) q (fun _ => Leaves q (v :: values)) fun _ _ => False := by
  have index : (q.stackPtr + 1).toNat = values.length + 1 := by
    rw [holds.ptr]
    rfl
  unfold push
  apply ends_step
  · dsimp only
    rw [index, if_pos (show values.length + 1 < stackSize by unfold stackSize; omega)]
  · refine ⟨⟨?_, ?_⟩, rfl⟩
    · dsimp only
      rw [holds.ptr]
      rfl
    · intro j bound
      dsimp only
      rw [Vector.getElem?_setIfInBounds]
      cases j with
      | zero =>
          rw [List.length_cons, Nat.sub_zero, if_pos rfl, if_pos (Nat.succ_lt_succ room)]
          rfl
      | succ j =>
          have inside : j < values.length := Nat.lt_of_succ_lt_succ bound
          rw [if_neg (by rw [List.length_cons]; omega), List.length_cons, Nat.succ_sub_succ]
          exact holds.slot inside

theorem pop_ends {v : UInt32} (holds : Holds q (v :: values)) :
    Ends pop q (fun value last => value = v ∧ Leaves q values last) fun _ _ => False := by
  have top : q.stack[q.stackPtr.toNat]? = some v := by
    have slot := holds.slot (Nat.zero_lt_succ values.length)
    rw [holds.ptr]
    exact slot
  have held : (0 : Int) ≤ q.stackPtr := by
    rw [holds.ptr]
    exact Int.natCast_nonneg _
  unfold pop
  have first : Ends (step fun q : DataQuery =>
      if 0 ≤ q.stackPtr then
        q.stack[q.stackPtr.toNat]?.map fun data => (data, { q with stackPtr := q.stackPtr - 1 })
      else none) q
      (fun value last => value = v ∧ last = { q with stackPtr := q.stackPtr - 1 })
      fun (_ : String) _ => False := by
    apply ends_step
    · rw [if_pos held, top]
      rfl
    · exact ⟨rfl, rfl⟩
  apply first.bind
  rintro value middle ⟨rfl, rfl⟩
  apply ends_get_bind
  have below : q.stackPtr - 1 = values.length := by
    rw [holds.ptr, List.length_cons]
    omega
  apply ends_ite
  · intro negative
    dsimp only at negative
    omega
  · intro _
    refine ends_pure ⟨rfl, ⟨below, ?_⟩, rfl⟩
    intro j bound
    have slot := holds.slot (Nat.succ_lt_succ bound)
    rw [List.length_cons, Nat.succ_sub_succ] at slot
    exact slot

theorem binary_ends {d1 d2 : UInt32} (holds : Holds q (d1 :: d2 :: values))
    (room : values.length < 15) (operator : UInt32 → UInt32 → UInt32) :
    Ends (binary operator) q (fun _ => Leaves q (operator d1 d2 :: values)) fun _ _ => False := by
  apply (pop_ends holds).bind
  rintro value middle ⟨rfl, upper, code⟩
  apply (pop_ends upper).bind
  rintro value second ⟨rfl, lower, same⟩
  apply (push_ends lower room _).weaken
  rintro _ last ⟨after, unchanged⟩
  exact ⟨after, unchanged.trans (same.trans code)⟩

/-- The command that the interpreter runs for a token. -/
def Token.command (longMax : Nat) (f : FrameEntry) : Token → Program DataQuery String PUnit
  | .int n => push (UInt32.ofNat (min n.toNat longMax) &&& 0x00ffffff)
  | .src => push f.src.toUInt32
  | .dst => push f.dst.toUInt32
  | .proto => push f.proto.toUInt32
  | .size => push f.size.toUInt32
  | .data i => push f.data[i].toUInt32
  | .equal => binary fun d1 d2 => ofBool (d1 == d2)
  | .notEqual => binary fun d1 d2 => ofBool (d1 != d2)
  | .not => do
      let d1 ← pop
      push (ofBool (d1 == 0))
  | .andOp => binary fun d1 d2 => d1 &&& d2
  | .and => binary fun d1 d2 => ofBool (d1 != 0 && d2 != 0)
  | .orOp => binary fun d1 d2 => d1 ||| d2
  | .or => binary fun d1 d2 => ofBool (d1 != 0 || d2 != 0)

theorem execute_code (token : Token) :
    execute f (token.code longMax) = token.command longMax f := by
  cases token with
  | int n =>
      unfold execute Token.code
      dsimp only
      rw [int_opcode, int_argument]
      rfl
  | data i =>
      match i with
      | 0 => exact (rfl : execute f tokenD0 = _)
      | 1 => exact (rfl : execute f tokenD1 = _)
      | 2 => exact (rfl : execute f tokenD2 = _)
      | 3 => exact (rfl : execute f tokenD3 = _)
      | 4 => exact (rfl : execute f tokenD4 = _)
      | 5 => exact (rfl : execute f tokenD5 = _)
      | 6 => exact (rfl : execute f tokenD6 = _)
      | 7 => exact (rfl : execute f tokenD7 = _)
  | src => exact (rfl : execute f tokenSrc = _)
  | dst => exact (rfl : execute f tokenDst = _)
  | proto => exact (rfl : execute f tokenProto = _)
  | size => exact (rfl : execute f tokenSize = _)
  | equal => exact (rfl : execute f tokenEqual = _)
  | notEqual => exact (rfl : execute f tokenNotEqual = _)
  | not => exact (rfl : execute f tokenNot = _)
  | andOp => exact (rfl : execute f tokenAndOp = _)
  | and => exact (rfl : execute f tokenAnd = _)
  | orOp => exact (rfl : execute f tokenOrOp = _)
  | or => exact (rfl : execute f tokenOr = _)

/-- A token that only pushes a value. -/
theorem command_push {v : UInt32} {next : List UInt32} (holds : Holds q values)
    (applied : some (v :: values) = some next) (small : next.length ≤ 15) :
    Ends (push v) q (fun _ => Leaves q next) fun _ _ => False := by
  cases Option.some.inj applied
  exact push_ends holds small v

/-- An operator runs as the language applies it. -/
theorem command_binary {operator : UInt32 → UInt32 → UInt32}
    {apply : List UInt32 → Option (List UInt32)} {next : List UInt32} (holds : Holds q values)
    (two : ∀ d1 d2 rest, apply (d1 :: d2 :: rest) = some (operator d1 d2 :: rest))
    (empty : apply [] = none) (single : ∀ d, apply [d] = none)
    (applied : apply values = some next) (small : next.length ≤ 15) :
    Ends (binary operator) q (fun _ => Leaves q next) fun _ _ => False := by
  match values, holds, applied with
  | [], _, applied => exact nomatch applied.symm.trans empty
  | [d1], _, applied => exact nomatch applied.symm.trans (single d1)
  | d1 :: d2 :: rest, holds, applied =>
      rw [two] at applied
      cases Option.some.inj applied
      exact binary_ends holds small operator

/-- The interpreter runs the word of a token as the language runs the token, its literal
cut to 24 bits. -/
theorem execute_token {token : Token} {next : List UInt32} (holds : Holds q values)
    (applied : (token.encoded longMax).apply f values = some next) (small : next.length ≤ 15) :
    Ends (execute f (token.code longMax)) q (fun _ => Leaves q next) fun _ _ => False := by
  rw [execute_code]
  cases token with
  | int n => exact command_push holds applied small
  | src => exact command_push holds applied small
  | dst => exact command_push holds applied small
  | proto => exact command_push holds applied small
  | size => exact command_push holds applied small
  | data i => exact command_push holds applied small
  | not =>
      match values, holds, applied with
      | d1 :: values, holds, applied =>
          cases Option.some.inj applied
          apply (pop_ends holds).bind
          rintro value middle ⟨rfl, rest, code⟩
          apply (push_ends rest small _).weaken
          rintro _ last ⟨after, unchanged⟩
          exact ⟨after, unchanged.trans code⟩
  | equal | notEqual | andOp | and | orOp | or =>
      exact command_binary holds (fun _ _ _ => rfl) rfl (fun _ => rfl) applied small

/-! ## The whole code -/

/-- The tokens with their literals cut to 24 bits. -/
def encodedTokens (longMax : Nat) (tokens : List Token) : List Token :=
  tokens.map (Token.encoded longMax)

def tokenCode (longMax : Nat) (tokens : List Token) : List UInt32 :=
  tokens.map (Token.code longMax) ++ [tokenNop]

/-- With the NOP before the limit of the counter the loop answers for the value left. -/
theorem matchLoop_tokens {tokens : List Token} {c : Nat} {v : UInt32} (holds : Holds q values)
    (room : c + 4 * tokens.length < codeSize)
    (ran : runTokens f (encodedTokens longMax tokens) values = some [v]) :
    Ends (matchLoop f (tokenCode longMax tokens) c) q
      (fun result last => result = (v != 0) ∧ Leaves q [] last) fun _ _ => False := by
  induction tokens generalizing q values c with
  | nil =>
      cases Option.some.inj ran
      rw [show tokenCode longMax [] = [tokenNop] from rfl, matchLoop, if_pos (by simpa using room),
        if_pos (by decide)]
      apply ends_get_bind
      rw [holds.ptr]
      apply (pop_ends holds).bind
      rintro value last ⟨rfl, leaves⟩
      exact ends_pure ⟨rfl, leaves⟩
  | cons token tokens ih =>
      rw [List.length_cons] at room
      change (do
        let stack ← (token.encoded longMax).apply f values
        if stack.length ≤ 15 then runTokens f (encodedTokens longMax tokens) stack
        else none) = _ at ran
      obtain ⟨next, applied, ran⟩ := Option.bind_eq_some_iff.mp ran
      have small : next.length ≤ 15 := by
        by_contra deep
        rw [if_neg deep] at ran
        exact nomatch ran
      rw [if_pos small] at ran
      rw [show tokenCode longMax (token :: tokens) =
        token.code longMax :: tokenCode longMax tokens from rfl, matchLoop,
        if_pos (by omega), if_neg (token_code_opcode token)]
      apply (execute_token holds applied small).bind
      rintro _ middle ⟨held, code⟩
      apply (ih held (by omega) ran).weaken
      rintro result last ⟨answer, after, same⟩
      exact ⟨answer, after, same.trans code⟩

/-- With the NOP beyond the limit the loop never answers. -/
theorem matchLoop_long (longMax : Nat) {tokens : List Token} {c : Nat}
    (long : codeSize ≤ c + 4 * tokens.length) :
    Meets (matchLoop f (tokenCode longMax tokens) c) q (fun _ _ => False) fun _ _ => True := by
  induction tokens generalizing q c with
  | nil =>
      rw [show tokenCode longMax [] = [tokenNop] from rfl, matchLoop,
        if_neg (by rw [List.length_nil] at long; omega)]
      exact meets_throw trivial
  | cons token tokens ih =>
      rw [show tokenCode longMax (token :: tokens) =
        token.code longMax :: tokenCode longMax tokens from rfl, matchLoop]
      rw [List.length_cons] at long
      apply meets_ite
      · intro _
        rw [if_neg (token_code_opcode token)]
        exact meets_any.bind fun _ middle _ => ih (by omega)
      · intro _
        exact meets_throw trivial

theorem matchEntry_long {tokens : List Token} (code : q.code = tokenCode longMax tokens)
    (long : codeSize ≤ 0 + 4 * tokens.length) :
    Meets (matchEntry f) q (fun _ _ => False) fun _ _ => True := by
  have loop := matchLoop_long (q := q) (f := f) longMax long
  rw [← code] at loop
  exact loop

theorem matchEntry_tokens {tokens : List Token} {v : UInt32} (holds : Holds q [])
    (code : q.code = tokenCode longMax tokens) (few : tokens.length ≤ 31)
    (value : evaluate f (encodedTokens longMax tokens) = some v) :
    Ends (matchEntry f) q (fun result last => result = (v != 0) ∧ Leaves q [] last)
      fun _ _ => False := by
  apply ends_get_bind
  rw [code]
  apply matchLoop_tokens holds
  · unfold codeSize
    omega
  · unfold evaluate at value
    split at value
    · next ran => rw [ran, Option.some.inj value]
    · exact nomatch value

/-- Every call of `match` in a sequence of calls answers for its own entry. -/
theorem matchEntries_tokens {tokens : List Token} {entries : List FrameEntry}
    {v : FrameEntry → UInt32} (holds : Holds q []) (code : q.code = tokenCode longMax tokens)
    (few : tokens.length ≤ 31)
    (value : ∀ f, evaluate f (encodedTokens longMax tokens) = some (v f)) :
    matchEntries entries q = some (entries.map fun f => .ok (v f != 0)) := by
  induction entries generalizing q with
  | nil => rfl
  | cons f entries ih =>
      obtain ⟨_, last, result, rfl, after, same⟩ :=
        (matchEntry_tokens holds code few (value f)).ok
      rw [matchEntries, result, Option.bind_eq_bind, Option.bind_some]
      dsimp only
      rw [ih after (same.trans code)]
      rfl

theorem matchEntries_single {result : Except String Bool}
    (answered : matchEntries [f] q = some [result]) :
    ∃ last, matchEntry f q = some (result, last) := by
  rw [matchEntries] at answered
  obtain ⟨⟨first, last⟩, found, answered⟩ := Option.bind_eq_some_iff.mp answered
  cases answered
  exact ⟨last, found⟩

/-- Cutting a literal changes no depth. -/
theorem apply_encoded (longMax : Nat) {token : Token} {cut next : List UInt32}
    (same : cut.length = values.length) (applied : token.apply f values = some next) :
    ∃ other, (token.encoded longMax).apply f cut = some other ∧ other.length = next.length := by
  cases token with
  | int | src | dst | proto | size | data =>
      cases Option.some.inj applied
      exact ⟨_, rfl, congrArg (· + 1) same⟩
  | not =>
      match values, cut, same, applied with
      | _ :: _, _ :: _, same, applied =>
          cases Option.some.inj applied
          exact ⟨_, rfl, same⟩
  | equal | notEqual | andOp | and | orOp | or =>
      match values, cut, same, applied with
      | _ :: _ :: _, _ :: _ :: _, same, applied =>
          cases Option.some.inj applied
          exact ⟨_, rfl, Nat.succ.inj same⟩

theorem run_encoded (longMax : Nat) {tokens : List Token} {cut result : List UInt32}
    (same : cut.length = values.length) (ran : runTokens f tokens values = some result) :
    ∃ other, runTokens f (encodedTokens longMax tokens) cut = some other ∧
      other.length = result.length := by
  induction tokens generalizing values cut with
  | nil =>
      cases Option.some.inj ran
      exact ⟨cut, rfl, same⟩
  | cons token tokens ih =>
      rw [runTokens] at ran
      obtain ⟨next, applied, ran⟩ := Option.bind_eq_some_iff.mp ran
      obtain ⟨other, appliedToo, length⟩ := apply_encoded longMax same applied
      split at ran
      · next small =>
          obtain ⟨last, ranToo, lengths⟩ := ih length ran
          refine ⟨last, ?_, lengths⟩
          change runTokens f (token.encoded longMax :: encodedTokens longMax tokens) cut = _
          rw [runTokens, appliedToo, Option.bind_eq_bind, Option.bind_some,
            if_pos (length.trans_le small)]
          exact ranToo
      · exact nomatch ran

/-- A query that has a value has one with its literals cut. -/
theorem evaluate_encoded (longMax : Nat) {tokens : List Token} {v : UInt32}
    (value : evaluate f tokens = some v) :
    ∃ other, evaluate f (encodedTokens longMax tokens) = some other := by
  unfold evaluate at value
  split at value
  · next ran =>
      obtain ⟨other, ranToo, length⟩ := run_encoded longMax rfl ran
      match other, length with
      | [other], _ =>
          unfold evaluate
          rw [ranToo]
          exact ⟨other, rfl⟩
  · exact nomatch value

end Machine

/-! ## Which queries the program answers -/

/-- What the constructor makes of a query of tokens. -/
theorem dataQuery_tokens {longMax : Nat} {stack : Vector UInt32 16} {query : Text}
    {tokens : List Token} {q : DataQuery} (reads : tokenize query = some tokens)
    (accepted : dataQuery longMax stack query = .ok q) :
    Holds q [] ∧ q.code = tokenCode longMax tokens := by
  unfold dataQuery at accepted
  cases compiled : compileQuery longMax query with
  | error message =>
      rw [compiled] at accepted
      exact nomatch accepted
  | ok code =>
      rw [compiled] at accepted
      cases Except.ok.inj accepted
      exact ⟨holds_nil rfl, compileQuery_tokens reads compiled⟩

/-- An accepted query of tokens with a value on every entry is answered rightly, in every
sequence of calls, if and only if it has at most 31 tokens and no entry tells it from the
query with its literals cut to 24 bits. -/
theorem query_answered_iff {longMax : Nat} {stack : Vector UInt32 16} {query : Text}
    {tokens : List Token} {q : DataQuery} {value : FrameEntry → UInt32}
    (reads : tokenize query = some tokens)
    (evaluates : ∀ f, evaluate f tokens = some (value f))
    (accepted : dataQuery longMax stack query = .ok q) :
    (∀ entries, matchEntries entries q = some (entries.map fun f => .ok (value f != 0))) ↔
      tokens.length ≤ 31 ∧
      ∀ f, (evaluate f (encodedTokens longMax tokens)).map (· != 0) = some (value f != 0) := by
  obtain ⟨holds, code⟩ := dataQuery_tokens reads accepted
  constructor
  · intro answered
    have few : tokens.length ≤ 31 := by
      by_contra many
      have long : codeSize ≤ 0 + 4 * tokens.length := by
        unfold codeSize
        omega
      have zero : FrameEntry := ⟨0, 0, 0, 0, 0, Vector.replicate 8 0⟩
      obtain ⟨last, result⟩ := matchEntries_single (answered [zero])
      exact (matchEntry_long code long).ok result
    refine ⟨few, ?_⟩
    intro f
    obtain ⟨other, encoded⟩ := evaluate_encoded longMax (evaluates f)
    obtain ⟨last, result⟩ := matchEntries_single (answered [f])
    have right := (matchEntry_tokens holds code few encoded).meets.ok result
    rw [encoded, right.1]
    rfl
  · rintro ⟨few, unchanged⟩ entries
    have values : ∀ f, ∃ other, evaluate f (encodedTokens longMax tokens) = some other :=
      fun f => evaluate_encoded longMax (evaluates f)
    choose other encoded using values
    rw [matchEntries_tokens holds code few encoded]
    have agree : ∀ f, (other f != 0) = (value f != 0) := by
      intro f
      have kept := unchanged f
      rw [encoded] at kept
      exact Option.some.inj kept
    simp only [agree]

theorem query_answered_iff_src :
    (∀ entries, matchEntries entries
      ⟨[tokenSrc, 0x01000005, tokenEqual, tokenNop], Vector.replicate 16 0, 0⟩ =
        some (entries.map fun f => .ok (ofBool ((5 : UInt32) == f.src.toUInt32) != 0))) ↔
      [Token.src, .int 5, .equal].length ≤ 31 ∧
      ∀ f, (evaluate f (encodedTokens 2147483647 [.src, .int 5, .equal])).map (· != 0) =
        some (ofBool ((5 : UInt32) == f.src.toUInt32) != 0) :=
  query_answered_iff (by decide +kernel : tokenize (text "src 5 =") = _) (fun _ => rfl)
    (rfl : dataQuery _ (Vector.replicate 16 0) (text "src 5 =") = _)

/-- A number under 31 negations. -/
def longQuery : Text := text "1" ++ (List.replicate 31 (text " !")).flatten

def longTokens : List Token := .int 1 :: List.replicate 31 .not

/-- The query of 32 tokens is accepted and has a value, and every call throws. -/
theorem long_query_unanswered :
    tokenize longQuery = some longTokens ∧ (∀ f, evaluate f longTokens = some 0) ∧
    dataQuery 2147483647 (Vector.replicate 16 0) longQuery =
      .ok ⟨tokenCode 2147483647 longTokens, Vector.replicate 16 0, 0⟩ ∧
    ¬ ∀ entries, matchEntries entries
      ⟨tokenCode 2147483647 longTokens, Vector.replicate 16 0, 0⟩ =
        some (entries.map fun _ => .ok ((0 : UInt32) != 0)) := by
  refine ⟨by decide +kernel, fun _ => rfl, rfl, ?_⟩
  intro answered
  obtain ⟨last, result⟩ :=
    matchEntries_single (answered [⟨0, 0, 0, 0, 0, Vector.replicate 8 0⟩])
  exact (matchEntry_long rfl (by decide)).ok result

end Hcan.Data
