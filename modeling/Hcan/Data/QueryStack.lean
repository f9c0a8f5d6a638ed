import Hcan.Data.QueryParser

/-!
# The stack pointer of a query

How far the interpreter moves the stack pointer depends on the words of the query only.  A call
that ends with a value sets the pointer back; one that throws leaves it, and the next call begins
there.
-/

namespace Hcan.Data

open Hcan.Host Hcan.Library Program

/-- The number of values that a word takes from the stack before it puts one on it. -/
def wordArity (word : Text) : Nat :=
  if word = text "!" then 1
  else if word = text "=" ∨ word = text "!=" ∨ word = text "&" ∨ word = text "&&" ∨
      word = text "|" ∨ word = text "||" then 2
  else 0

/-- The arities of the words of a query that leave code. -/
def arities (query : Text) : List Nat :=
  ((words query).filter fun word => decide (Recognized word)).map wordArity

/-- How a walk over words ends: with an access outside the stack, with the exception for an
underrun, or at a height. -/
inductive Fate where
  | outside
  | underrun
  | ends (height : Nat)
  deriving DecidableEq, Repr

/-- The height is the stack pointer plus one, so an empty stack has the height 1: the slot 0 is
never used.  Taking a value from the height 1 is the underrun that the source sees. -/
def walk : Nat → List Nat → Fate
  | h, [] => .ends h
  | h, 0 :: rest => if h < stackSize then walk (h + 1) rest else .outside
  | h, (a + 1) :: rest =>
      if h = 0 then .outside else if h ≤ a + 1 then .underrun else walk (h - a) rest

/-- The number of words that the loop of `match` executes at most. -/
def wordLimit : Nat := 32

/-- A query without words; one that leaves one value, before the limit; or one that begins with a
value and takes too many. -/
def Steady (arities : List Nat) : Prop :=
  arities = [] ∨
    (arities.length < wordLimit ∧ walk 1 arities = .ends 2) ∨
    (arities.head? = some 0 ∧ walk 1 (arities.take wordLimit) = .underrun)

instance decidableSteady (arities : List Nat) : Decidable (Steady arities) := by
  unfold Steady
  infer_instance

section Walk

variable {h e : Nat} {as : List Nat}

theorem walk_nil (h : Nat) : walk h [] = .ends h := rfl

theorem walk_zero (h : Nat) (as : List Nat) :
    walk h (0 :: as) = if h < stackSize then walk (h + 1) as else .outside := rfl

theorem walk_succ (h a : Nat) (as : List Nat) :
    walk h ((a + 1) :: as) =
      if h = 0 then .outside else if h ≤ a + 1 then .underrun else walk (h - a) as := rfl

theorem walk_bound (low : h ≤ stackSize) (ends : walk h as = .ends e) : e ≤ stackSize := by
  induction as generalizing h with
  | nil =>
      rw [walk_nil] at ends
      cases ends
      exact low
  | cons a as ih =>
      cases a with
      | zero =>
          rw [walk_zero] at ends
          split at ends
          next room => exact ih room ends
          next => cases ends
      | succ a =>
          rw [walk_succ] at ends
          split at ends
          next => cases ends
          next =>
            split at ends
            next => cases ends
            next => exact ih (Nat.le_trans (Nat.sub_le h a) low) ends

/-- Behind a word there is a value on the stack. -/
theorem walk_least (some : as ≠ []) (above : 1 ≤ h) (ends : walk h as = .ends e) : 2 ≤ e := by
  have general : ∀ {h : Nat} {as : List Nat}, 2 ≤ h → walk h as = .ends e → 2 ≤ e := by
    intro h as above ends
    induction as generalizing h with
    | nil =>
        rw [walk_nil] at ends
        cases ends
        exact above
    | cons a as ih =>
        cases a with
        | zero =>
            rw [walk_zero] at ends
            split at ends
            next => exact ih (by omega) ends
            next => cases ends
        | succ a =>
            rw [walk_succ] at ends
            split at ends
            next => cases ends
            next =>
              split at ends
              next => cases ends
              next => exact ih (by omega) ends
  cases as with
  | nil => exact absurd rfl some
  | cons a as =>
      cases a with
      | zero =>
          rw [walk_zero] at ends
          split at ends
          next => exact general (by omega) ends
          next => cases ends
      | succ a =>
          rw [walk_succ] at ends
          split at ends
          next => cases ends
          next =>
            split at ends
            next => cases ends
            next => exact general (by omega) ends

/-- From higher up the walk ends higher by as much, or leaves the stack. -/
theorem walk_raise (k : Nat) (above : 1 ≤ h) (ends : walk h as = .ends e) :
    walk (h + k) as = .ends (e + k) ∨ walk (h + k) as = .outside := by
  induction as generalizing h with
  | nil =>
      rw [walk_nil] at ends
      cases ends
      exact .inl rfl
  | cons a as ih =>
      cases a with
      | zero =>
          rw [walk_zero] at ends ⊢
          split at ends
          next =>
            split
            next =>
              rw [Nat.add_right_comm]
              exact ih (Nat.le_succ_of_le above) ends
            next => exact .inr rfl
          next => cases ends
      | succ a =>
          rw [walk_succ] at ends ⊢
          split at ends
          next => cases ends
          next =>
            split at ends
            next => cases ends
            next high =>
              rw [if_neg (by omega), if_neg (by omega), show h + k - a = h - a + k by omega]
              exact ih (by omega) ends

/-- An underrun happens from one lower as well. -/
theorem walk_lower (above : 1 ≤ h) (fails : walk (h + 1) as = .underrun) :
    walk h as = .underrun := by
  induction as generalizing h with
  | nil =>
      rw [walk_nil] at fails
      cases fails
  | cons a as ih =>
      cases a with
      | zero =>
          rw [walk_zero] at fails ⊢
          split at fails
          next room =>
            rw [if_pos (by omega)]
            exact ih (by omega) fails
          next => cases fails
      | succ a =>
          rw [walk_succ] at fails ⊢
          rw [if_neg (by omega)] at fails ⊢
          split
          next => rfl
          next high =>
            rw [if_neg (by omega), show h + 1 - a = h - a + 1 by omega] at fails
            exact ih (by omega) fails

end Walk

section Cons

variable {h e a : Nat} (as : List Nat)

theorem walk_cons_outside (first : walk h [a] = .outside) : walk h (a :: as) = .outside := by
  cases a with
  | zero =>
      rw [walk_zero] at first ⊢
      split at first
      next => cases first
      next full => rw [if_neg full]
  | succ a =>
      rw [walk_succ] at first ⊢
      split at first
      next zero => rw [if_pos zero]
      next => split at first <;> cases first

theorem walk_cons_underrun (first : walk h [a] = .underrun) : walk h (a :: as) = .underrun := by
  cases a with
  | zero =>
      rw [walk_zero] at first
      split at first <;> cases first
  | succ a =>
      rw [walk_succ] at first ⊢
      split at first
      next => cases first
      next positive =>
        split at first
        next few => rw [if_neg positive, if_pos few]
        next => cases first

theorem walk_cons_ends (first : walk h [a] = .ends e) : walk h (a :: as) = walk e as := by
  cases a with
  | zero =>
      rw [walk_zero] at first ⊢
      split at first
      next room =>
        cases first
        rw [if_pos room]
      next => cases first
  | succ a =>
      rw [walk_succ] at first ⊢
      split at first
      next => cases first
      next positive =>
        split at first
        next => cases first
        next many =>
          cases first
          rw [if_neg positive, if_neg many]

end Cons

/-- The number of values that a token takes. -/
def Token.arity : Token → Nat
  | .not => 1
  | .equal | .notEqual | .andOp | .and | .orOp | .or => 2
  | _ => 0

/-- The largest `long` that the tokens of compiled words are written with. -/
def wideMax : Nat := 2 ^ 32

theorem keyword_arity : ∀ entry ∈ Token.keywords, wordArity entry.1 = entry.2.arity := by
  decide +kernel

/-- A word that leaves code leaves the one of a token of its arity. -/
theorem compiled_token {longMax : Nat} {word : Text} {code : UInt32}
    (compiled : compileWord longMax word = some code) :
    ∃ token : Token, code = token.code wideMax ∧ token.arity = wordArity word := by
  rcases compileWord_cases compiled with ⟨number, rfl⟩ | ⟨entry, member, rfl, rfl⟩
  · generalize UInt32.ofNat (atol longMax word) = x
    refine ⟨.int x, ?_, ?_⟩
    · unfold Token.code
      dsimp only
      rw [show min x.toNat wideMax = x.toNat from Nat.min_eq_left (Nat.le_of_lt x.toNat_lt),
        UInt32.ofNat_toNat]
    · have other : ∀ {name : Text}, isNumber name = false → word ≠ name := by
        rintro name noNumber rfl
        rw [noNumber] at number
        cases number
      unfold wordArity
      rw [if_neg (other rfl), if_neg]
      · rfl
      · rintro (same | same | same | same | same | same) <;> exact other rfl same
  · exact ⟨entry.2, (keyword_code member).trans (@keyword_code wideMax _ member).symm,
      (keyword_arity entry member).symm⟩

/-- The code of a query is one of tokens with the arities of its words. -/
theorem compiled_tokens (longMax : Nat) (list : List Text) :
    ∃ tokens : List Token,
      list.filterMap (compileWord longMax) = tokens.map (Token.code wideMax) ∧
        tokens.map Token.arity =
          (list.filter fun word => decide (Recognized word)).map wordArity := by
  induction list with
  | nil => exact ⟨[], rfl, rfl⟩
  | cons word list ih =>
      obtain ⟨tokens, codes, heights⟩ := ih
      by_cases known : Recognized word
      · obtain ⟨code, compiled⟩ :=
          Option.isSome_iff_exists.mp (@compileWord_isSome longMax word |>.mpr known)
        obtain ⟨token, rfl, arity⟩ := compiled_token compiled
        refine ⟨token :: tokens, ?_, ?_⟩
        · rw [List.filterMap_cons_some compiled, codes, List.map_cons]
        · rw [List.filter_cons, decide_eq_true known, if_pos rfl, List.map_cons, List.map_cons,
            arity, heights]
      · refine ⟨tokens, ?_, ?_⟩
        · rw [List.filterMap_cons_none (compileWord_other known), codes]
        · rw [List.filter_cons, decide_eq_false known, if_neg Bool.false_ne_true, heights]

/-- What the constructor makes of an accepted query. -/
theorem dataQuery_arities {longMax : Nat} {stack : Vector UInt32 16} {query : Text}
    {q : DataQuery} (accepted : dataQuery longMax stack query = .ok q) :
    q.stackPtr = 0 ∧
      ∃ tokens, q.code = tokenCode wideMax tokens ∧ tokens.map Token.arity = arities query := by
  rw [dataQuery_eq] at accepted
  split at accepted
  next => cases accepted
  next =>
    cases Except.ok.inj accepted
    obtain ⟨tokens, codes, heights⟩ := compiled_tokens longMax (words query)
    exact ⟨rfl, tokens, by rw [tokenCode, ← codes], heights⟩

/-- The object with its stack pointer at a height. -/
structure At (code : List UInt32) (h : Nat) (q : DataQuery) : Prop where
  ptr : q.stackPtr = (h : Int) - 1
  code : q.code = code

/-- A piece of the interpreter ends as a walk does. -/
def Takes {α : Type} (prog : Program DataQuery String α) (q : DataQuery) (code : List UInt32) :
    Fate → Prop
  | .outside => prog q = none
  | .underrun => ∃ last, prog q = some (.error "query m_stack underrun", last) ∧ At code 0 last
  | .ends h => ∃ value last, prog q = some (.ok value, last) ∧ At code h last

section Machine

variable {code : List UInt32} {q : DataQuery} {h : Nat} {f : FrameEntry}

theorem push_takes (v : UInt32) (here : At code h q) :
    Takes (push v) q code (if h < stackSize then .ends (h + 1) else .outside) := by
  have slot : (q.stackPtr + 1).toNat = h := by
    rw [here.ptr]
    omega
  split
  next room =>
    refine ⟨⟨⟩, { q with stack := q.stack.setIfInBounds h v, stackPtr := q.stackPtr + 1 }, ?_, ?_⟩
    · unfold push step
      dsimp only
      rw [slot, if_pos room]
      rfl
    · refine ⟨?_, here.code⟩
      dsimp only
      rw [here.ptr]
      omega
  next full =>
    change push v q = none
    unfold push step
    dsimp only
    rw [slot, if_neg full]
    rfl

/-- The first part of `pop`, which has no result below the slot 0. -/
theorem pop_read (here : At code h q) (low : h ≤ stackSize) (positive : 0 < h) :
    ∃ v, pop q =
      (if q.stackPtr - 1 < 0 then throw "query m_stack underrun" else pure v :
        Program DataQuery String UInt32) { q with stackPtr := q.stackPtr - 1 } := by
  have inside : q.stackPtr.toNat < 16 := by
    unfold stackSize at low
    rw [here.ptr]
    omega
  have taken : (step fun q : DataQuery =>
      if 0 ≤ q.stackPtr then
        q.stack[q.stackPtr.toNat]?.map fun data => (data, { q with stackPtr := q.stackPtr - 1 })
      else none : Program DataQuery String UInt32) q =
        some (.ok (q.stack.get ⟨_, inside⟩), { q with stackPtr := q.stackPtr - 1 }) := by
    unfold step
    dsimp only
    rw [if_pos (by rw [here.ptr]; omega), Vector.getElem?_eq_getElem inside]
    rfl
  exact ⟨_, bind_ok taken⟩

theorem pop_takes (here : At code h q) (low : h ≤ stackSize) :
    Takes pop q code
      (if h = 0 then .outside else if h ≤ 1 then .underrun else .ends (h - 1)) := by
  have ptr := here.ptr
  split
  next zero =>
    refine bind_none ?_
    unfold step
    dsimp only
    rw [if_neg (by omega)]
    rfl
  next positive =>
    obtain ⟨v, read⟩ := pop_read here low (Nat.pos_of_ne_zero positive)
    have below : At code (h - 1) { q with stackPtr := q.stackPtr - 1 } :=
      ⟨by dsimp only; omega, here.code⟩
    split
    next one =>
      refine ⟨{ q with stackPtr := q.stackPtr - 1 }, ?_, ?_⟩
      · rw [read, if_pos (by omega)]
        rfl
      · rwa [show h - 1 = 0 by omega] at below
    next more =>
      refine ⟨v, { q with stackPtr := q.stackPtr - 1 }, ?_, below⟩
      rw [read, if_neg (by omega)]
      rfl

/-- A program goes on behind a piece as the walk does. -/
theorem Takes.bind {α β : Type} {prog : Program DataQuery String α}
    {rest : α → Program DataQuery String β} {fate last : Fate} (takes : Takes prog q code fate)
    (outside : fate = .outside → last = .outside) (underrun : fate = .underrun → last = .underrun)
    (continues : ∀ e value middle, fate = .ends e → At code e middle →
      Takes (rest value) middle code last) : Takes (prog >>= rest) q code last := by
  cases fate with
  | outside =>
      rw [outside rfl]
      exact bind_none takes
  | underrun =>
      obtain ⟨middle, result, low⟩ := takes
      rw [underrun rfl]
      exact ⟨middle, bind_error result, low⟩
  | ends e =>
      obtain ⟨value, middle, result, high⟩ := takes
      have continued := continues e value middle rfl high
      cases last <;> · unfold Takes at continued ⊢; rwa [bind_ok result]

/-- A word that begins with a pop needs two values. -/
theorem pop_bind {rest : UInt32 → Program DataQuery String PUnit} {last : Fate} (here : At code h q)
    (low : h ≤ stackSize) (outside : h = 0 → last = .outside) (underrun : h = 1 → last = .underrun)
    (continues : 2 ≤ h → ∀ value middle, At code (h - 1) middle →
      Takes (rest value) middle code last) : Takes (pop >>= rest) q code last := by
  refine (pop_takes here low).bind (fun out => ?_) (fun under => ?_) ?_
  · split at out
    next zero => exact outside zero
    next => split at out <;> cases out
  · split at under
    next => cases under
    next positive =>
      split at under
      next one => exact underrun (by omega)
      next => cases under
  intro e value middle ends upper
  split at ends
  next => cases ends
  next =>
    split at ends
    next => cases ends
    next =>
      cases ends
      exact continues (by omega) value middle upper

theorem binary_takes (operator : UInt32 → UInt32 → UInt32) (here : At code h q)
    (low : h ≤ stackSize) : Takes (binary operator) q code (walk h [2]) := by
  rw [walk_succ]
  refine pop_bind here low (fun zero => if_pos zero) (fun one => ?_) fun two v1 middle upper => ?_
  · rw [if_neg (by omega), if_pos (by omega)]
  rw [if_neg (by omega)]
  refine pop_bind upper (by omega) (fun none => absurd none (by omega)) (fun one => ?_)
    fun three v2 last lower => ?_
  · rw [if_pos (by omega)]
  have pushed := push_takes (operator v1 v2) lower
  unfold stackSize at low pushed
  rw [if_pos (by omega)] at pushed
  rw [if_neg (by omega), walk_nil, show h - 1 = h - 1 - 1 + 1 by omega]
  exact pushed

theorem unary_takes (operator : UInt32 → UInt32) (here : At code h q) (low : h ≤ stackSize) :
    Takes (do let d1 ← pop; push (operator d1)) q code (walk h [1]) := by
  rw [walk_succ]
  refine pop_bind here low (fun zero => if_pos zero) (fun one => ?_) fun two v1 middle upper => ?_
  · rw [if_neg (by omega), if_pos (by omega)]
  have pushed := push_takes (operator v1) upper
  unfold stackSize at low pushed
  rw [if_pos (by omega)] at pushed
  rw [if_neg (by omega), if_neg (by omega), walk_nil, show h - 0 = h - 1 + 1 by omega]
  exact pushed

/-- A word moves the stack pointer by its arity. -/
theorem execute_takes (token : Token) (here : At code h q) (low : h ≤ stackSize) :
    Takes (execute f (token.code wideMax)) q code (walk h [token.arity]) := by
  rw [execute_code]
  have value : ∀ v, Takes (push v) q code (walk h [0]) := fun v => push_takes v here
  cases token with
  | int | src | dst | proto | size | data => exact value _
  | not => exact unary_takes _ here low
  | equal | notEqual | andOp | and | orOp | or => exact binary_takes _ here low

/-- A call ends as the walk over the executed words does.  One that reaches the NOP takes the value
of a stack that holds just one, and no other has a value. -/
def Calls (result : Option (Except String Bool × DataQuery)) (code : List UInt32)
    (reached : Bool) : Fate → Prop
  | .outside => result = none
  | .underrun => ∃ last, result = some (.error "query m_stack underrun", last) ∧ At code 0 last
  | .ends h => ∃ outcome last, result = some (outcome, last) ∧
      At code (if h = 2 ∧ reached = true then 1 else h) last ∧
      (outcome.isOk = true → h = 2 ∧ reached = true)

theorem nop_calls (here : At code h q) (low : h ≤ stackSize) {c : Nat} (below : c < codeSize) :
    Calls (matchLoop f [tokenNop] c q) code true (.ends h) := by
  have ptr := here.ptr
  rw [matchLoop, if_pos below, if_pos (by decide)]
  change Calls ((if q.stackPtr ≠ 1 then _ else _ : Program DataQuery String Bool) q) _ _ _
  by_cases one : h = 2
  · have two : q.stackPtr = 1 := by omega
    have popped := pop_takes here low
    rw [one, if_neg (by decide), if_neg (by decide)] at popped
    obtain ⟨value, last, result, below⟩ := popped
    refine ⟨.ok (value != 0), last, ?_, ?_, fun _ => ⟨one, rfl⟩⟩
    · rw [if_neg (not_not.mpr two)]
      exact bind_ok result
    · rw [if_pos ⟨one, rfl⟩]
      exact below
  · refine ⟨.error "invalid m_stack after operations", q, ?_, ?_,
      fun isOk => absurd isOk Bool.false_ne_true⟩
    · rw [if_pos (by omega)]
      rfl
    · rwa [if_neg fun both => one both.1]

theorem matchLoop_calls {tokens : List Token} {c n : Nat} (here : At code h q)
    (low : h ≤ stackSize) (limit : c + 4 * n = codeSize) :
    Calls (matchLoop f (tokenCode wideMax tokens) c q) code (decide (tokens.length < n))
      (walk h ((tokens.map Token.arity).take n)) := by
  induction tokens generalizing c n h q with
  | nil =>
      rw [List.map_nil, List.take_nil, walk_nil, show tokenCode wideMax [] = [tokenNop] from rfl]
      cases n with
      | zero =>
          refine ⟨.error "code end reached", q, ?_, ?_, nofun⟩
          · rw [matchLoop, if_neg (by omega)]
            rfl
          · rwa [if_neg fun both => by simp at both]
      | succ n => exact nop_calls here low (by omega)
  | cons token tokens ih =>
      have unfolded : tokenCode wideMax (token :: tokens) =
        token.code wideMax :: tokenCode wideMax tokens := rfl
      rw [unfolded, matchLoop]
      cases n with
      | zero =>
          refine ⟨.error "code end reached", q, ?_, ?_, nofun⟩
          · rw [if_neg (by omega)]
            rfl
          · rwa [if_neg fun both => by simp at both]
      | succ n =>
          rw [if_pos (by omega), if_neg (token_code_opcode token), List.map_cons,
            List.take_succ_cons]
          have taken := execute_takes (f := f) token here low
          cases fate : walk h [token.arity] with
          | outside =>
              rw [fate] at taken
              rw [walk_cons_outside _ fate]
              exact bind_none taken
          | underrun =>
              rw [fate] at taken
              obtain ⟨last, result, bottom⟩ := taken
              rw [walk_cons_underrun _ fate]
              exact ⟨last, bind_error result, bottom⟩
          | ends e =>
              rw [fate] at taken
              obtain ⟨value, middle, result, high⟩ := taken
              rw [walk_cons_ends _ fate, bind_ok result, List.length_cons]
              have short : decide (tokens.length + 1 < n + 1) = decide (tokens.length < n) :=
                decide_eq_decide.mpr Nat.add_lt_add_iff_right
              rw [short]
              exact ih high (walk_bound low fate) (by omega)

/-- The heights behind one call. -/
theorem matchEntry_calls {tokens : List Token} (here : At (tokenCode wideMax tokens) h q)
    (low : h ≤ stackSize) :
    Calls (matchEntry f q) (tokenCode wideMax tokens) (decide (tokens.length < wordLimit))
      (walk h ((tokens.map Token.arity).take wordLimit)) := by
  change Calls (matchLoop f q.code 0 q) _ _ _
  rw [here.code]
  exact matchLoop_calls here low rfl

end Machine

/-! ## Sequences of calls -/

section Histories

variable {tokens : List Token} {q : DataQuery} {h : Nat}

/-- Calls that each keep an invariant and have an outcome of their own. -/
theorem matchEntries_keeps (holds : DataQuery → Prop) {outcome : FrameEntry → Except String Bool}
    (call : ∀ q f, holds q → ∃ last, matchEntry f q = some (outcome f, last) ∧ holds last)
    (before : holds q) (entries : List FrameEntry) :
    matchEntries entries q = some (entries.map outcome) := by
  induction entries generalizing q with
  | nil => rfl
  | cons f entries ih =>
      obtain ⟨last, result, after⟩ := call q f before
      rw [matchEntries, result, Option.bind_eq_bind, Option.bind_some]
      dsimp only
      rw [ih after]
      rfl

/-- A token that the walk lets pass applies to the values. -/
theorem apply_walk (token : Token) (f : FrameEntry) {e : Nat} {as : List Nat}
    {values : List UInt32} (low : values.length + 1 ≤ stackSize)
    (ends : walk (values.length + 1) (token.arity :: as) = .ends e) :
    ∃ next, (token.encoded wideMax).apply f values = some next ∧ next.length + 1 ≤ stackSize ∧
      walk (next.length + 1) as = .ends e := by
  cases token with
  | int | src | dst | proto | size | data =>
      refine ⟨_, rfl, ?_⟩
      change walk _ (0 :: _) = _ at ends
      rw [walk_zero] at ends
      split at ends
      next room => exact ⟨room, ends⟩
      next => cases ends
  | not =>
      change walk _ ((0 + 1) :: _) = _ at ends
      rw [walk_succ, if_neg (Nat.succ_ne_zero _)] at ends
      split at ends
      next => cases ends
      next high =>
        match values, low, ends, high with
        | [], _, _, high => exact absurd (Nat.le_refl 1) high
        | d1 :: values, low, ends, _ => exact ⟨_, rfl, low, ends⟩
  | equal | notEqual | andOp | and | orOp | or =>
      change walk _ ((1 + 1) :: _) = _ at ends
      rw [walk_succ, if_neg (Nat.succ_ne_zero _)] at ends
      split at ends
      next => cases ends
      next high =>
        match values, low, ends, high with
        | [], _, _, high => exact absurd (by decide) high
        | [_], _, _, high => exact absurd (Nat.le_refl 2) high
        | d1 :: d2 :: values, low, ends, _ => exact ⟨_, rfl, Nat.le_of_succ_le low, ends⟩

/-- A run of the tokens has the depth of the walk. -/
theorem runTokens_walk (f : FrameEntry) {e : Nat} {values : List UInt32}
    (low : values.length + 1 ≤ stackSize)
    (ends : walk (values.length + 1) (tokens.map Token.arity) = .ends e) :
    ∃ result, runTokens f (encodedTokens wideMax tokens) values = some result ∧
      result.length + 1 = e := by
  induction tokens generalizing values with
  | nil =>
      rw [List.map_nil, walk_nil] at ends
      cases ends
      exact ⟨values, rfl, rfl⟩
  | cons token tokens ih =>
      rw [List.map_cons] at ends
      obtain ⟨next, applied, small, ends⟩ := apply_walk token f low ends
      obtain ⟨result, ran, length⟩ := ih small ends
      refine ⟨result, ?_, length⟩
      change runTokens f (token.encoded wideMax :: encodedTokens wideMax tokens) values = _
      rw [runTokens, applied, Option.bind_eq_bind, Option.bind_some,
        if_pos (Nat.le_of_succ_le_succ small)]
      exact ran

theorem evaluate_walk (f : FrameEntry) (ends : walk 1 (tokens.map Token.arity) = .ends 2) :
    ∃ v, evaluate f (encodedTokens wideMax tokens) = some v := by
  obtain ⟨result, ran, length⟩ :=
    runTokens_walk f (by decide : ([] : List UInt32).length + 1 ≤ stackSize) ends
  match result, ran, length with
  | [v], ran, _ =>
      refine ⟨v, ?_⟩
      unfold evaluate
      rw [ran]

/-- A query has a value for some entry only if the walk leaves one, before the limit. -/
theorem walk_of_value {f : FrameEntry} {value : Bool} {last : DataQuery} (empty : q.stackPtr = 0)
    (code : q.code = tokenCode wideMax tokens)
    (answered : matchEntry f q = some (.ok value, last)) :
    tokens.length < wordLimit ∧ walk 1 (tokens.map Token.arity) = .ends 2 := by
  have called := matchEntry_calls (f := f) (⟨empty, code⟩ : At _ 1 q) (by decide)
  rw [answered] at called
  cases fate : walk 1 ((tokens.map Token.arity).take wordLimit) with
  | outside =>
      rw [fate] at called
      cases called
  | underrun =>
      rw [fate] at called
      obtain ⟨_, result, _⟩ := called
      cases result
  | ends h =>
      rw [fate] at called
      obtain ⟨_, _, result, -, reached⟩ := called
      cases result
      obtain ⟨rfl, short⟩ := reached rfl
      have few : tokens.length < wordLimit := of_decide_eq_true short
      refine ⟨few, ?_⟩
      rwa [List.take_of_length_le (by rw [List.length_map]; exact Nat.le_of_lt few)] at fate

/-- Every call of a steady query has the outcome of its own entry. -/
theorem steady_outcomes (empty : q.stackPtr = 0) (code : q.code = tokenCode wideMax tokens)
    (steady : Steady (tokens.map Token.arity)) :
    ∃ outcome : FrameEntry → Except String Bool,
      ∀ entries, matchEntries entries q = some (entries.map outcome) := by
  have here : At (tokenCode wideMax tokens) 1 q := ⟨empty, code⟩
  rcases steady with none | ⟨short, value⟩ | ⟨first, fails⟩
  · obtain rfl : tokens = [] := List.map_eq_nil_iff.mp none
    refine ⟨fun _ => .error "invalid m_stack after operations", matchEntries_keeps
      (At (tokenCode wideMax []) 1) (fun q f here => ⟨q, ?_, here⟩) here⟩
    change matchLoop f q.code 0 q = _
    rw [here.code, show tokenCode wideMax [] = [tokenNop] from rfl, matchLoop, if_pos (by decide),
      if_pos (by decide)]
    change (if q.stackPtr ≠ 1 then _ else _ : Program DataQuery String Bool) q = _
    have ptr := here.ptr
    rw [if_pos (by omega)]
    rfl
  · rw [List.length_map] at short
    have evaluated (f : FrameEntry) : ∃ v, evaluate f (encodedTokens wideMax tokens) = some v :=
      evaluate_walk f value
    choose v values using evaluated
    exact ⟨fun f => .ok (v f != 0), fun entries =>
      matchEntries_tokens (holds_nil empty) code (Nat.le_of_lt_succ short) values⟩
  · -- The first call leaves the height 0, from which the walk fails as well.
    refine ⟨fun _ => .error "query m_stack underrun", matchEntries_keeps
      (fun q => At (tokenCode wideMax tokens) 1 q ∨ At (tokenCode wideMax tokens) 0 q)
      ?_ (.inl here)⟩
    rintro q f (one | zero)
    · have called := matchEntry_calls (f := f) one (by decide)
      rw [fails] at called
      obtain ⟨last, result, after⟩ := called
      exact ⟨last, result, .inr after⟩
    · have failsToo : walk 0 ((tokens.map Token.arity).take wordLimit) = .underrun := by
        obtain ⟨rest, shape⟩ := List.head?_eq_some_iff.mp first
        rw [shape, show wordLimit = 31 + 1 from rfl, List.take_succ_cons] at fails ⊢
        rw [walk_zero, if_pos (by decide)] at fails ⊢
        exact walk_lower (Nat.le_refl 1) fails
      have called := matchEntry_calls (f := f) zero (by decide)
      rw [failsToo] at called
      obtain ⟨last, result, after⟩ := called
      exact ⟨last, result, .inr after⟩

/-- From above the empty stack a query without an underrun climbs until it leaves the stack. -/
theorem climbs (f : FrameEntry) {k e : Nat}
    (ends : walk 1 ((tokens.map Token.arity).take wordLimit) = .ends (1 + e)) (gains : 1 ≤ e)
    (here : At (tokenCode wideMax tokens) (1 + k) q) (above : 1 ≤ k) (low : 1 + k ≤ stackSize) :
    ∃ entries, matchEntries entries q = none := by
  generalize room : stackSize - k = n
  induction n using Nat.strongRecOn generalizing k q with
  | ind n ih =>
      have called := matchEntry_calls (f := f) here low
      rcases walk_raise k (Nat.le_refl 1) ends with higher | outside
      · rw [higher] at called
        obtain ⟨outcome, last, result, after, -⟩ := called
        rw [if_neg fun both => by omega, Nat.add_assoc] at after
        have bound : 1 + (e + k) ≤ stackSize := Nat.add_assoc 1 e k ▸ walk_bound low higher
        obtain ⟨entries, leaves⟩ := ih (stackSize - (e + k)) (by omega) after (by omega) bound rfl
        refine ⟨f :: entries, ?_⟩
        rw [matchEntries, result, Option.bind_eq_bind, Option.bind_some]
        dsimp only
        rw [leaves]
        rfl
      · rw [outside] at called
        refine ⟨[f], ?_⟩
        rw [matchEntries, show matchEntry f q = none from called]
        rfl

/-- A query that is not steady leaves the stack in some sequence of calls. -/
theorem unsteady_leaves (empty : q.stackPtr = 0) (code : q.code = tokenCode wideMax tokens)
    (unsteady : ¬ Steady (tokens.map Token.arity)) : ∃ entries, matchEntries entries q = none := by
  have here : At (tokenCode wideMax tokens) 1 q := ⟨empty, code⟩
  let f : FrameEntry := ⟨0, 0, 0, 0, 0, Vector.replicate 8 0⟩
  have some : tokens.map Token.arity ≠ [] := fun none => unsteady (.inl none)
  have called := matchEntry_calls (f := f) here (by decide)
  cases fate : walk 1 ((tokens.map Token.arity).take wordLimit) with
  | outside =>
      rw [fate] at called
      refine ⟨[f], ?_⟩
      rw [matchEntries, show matchEntry f q = none from called]
      rfl
  | underrun =>
      rw [fate] at called
      obtain ⟨last, result, bottom⟩ := called
      have again := matchEntry_calls (f := f) bottom (by decide)
      have outside : walk 0 ((tokens.map Token.arity).take wordLimit) = .outside := by
        cases arities : tokens.map Token.arity with
        | nil => exact absurd arities some
        | cons a as =>
            cases a with
            | zero =>
                rw [arities] at unsteady fate
                exact absurd (.inr (.inr ⟨rfl, fate⟩)) unsteady
            | succ a =>
                rw [show wordLimit = 31 + 1 from rfl, List.take_succ_cons, walk_succ, if_pos rfl]
      rw [outside] at again
      refine ⟨[f, f], ?_⟩
      rw [matchEntries, result, Option.bind_eq_bind, Option.bind_some]
      dsimp only
      rw [matchEntries, show matchEntry f last = none from again]
      rfl
  | ends e =>
      have started : (tokens.map Token.arity).take wordLimit ≠ [] := by
        rw [Ne, List.take_eq_nil_iff]
        exact fun none => none.elim (by decide) some
      have above := walk_least started (Nat.le_refl 1) fate
      rw [fate] at called
      obtain ⟨outcome, last, result, after, -⟩ := called
      have stays : ¬ (e = 2 ∧ decide (tokens.length < wordLimit) = true) := by
        rintro ⟨rfl, short⟩
        have few : (tokens.map Token.arity).length < wordLimit := by
          rw [List.length_map]
          exact of_decide_eq_true short
        rw [List.take_of_length_le (Nat.le_of_lt few)] at fate
        exact unsteady (.inr (.inl ⟨few, fate⟩))
      rw [if_neg stays] at after
      obtain ⟨k, rfl⟩ : ∃ k, e = 1 + k := ⟨e - 1, by omega⟩
      obtain ⟨entries, leaves⟩ := climbs f fate (by omega) after (by omega)
        (walk_bound (by decide) fate)
      refine ⟨f :: entries, ?_⟩
      rw [matchEntries, result, Option.bind_eq_bind, Option.bind_some]
      dsimp only
      rw [leaves]
      rfl

end Histories

/-! ## Which queries stay inside, and which are stateless -/

/-- Every call has the outcome of its entry, whatever calls were made before. -/
def Stateless (q : DataQuery) : Prop :=
  ∀ f, ∃ outcome, ∀ history, ∃ results,
    matchEntries (history ++ [f]) q = some (results ++ [outcome])

section Main

variable {longMax : Nat} {stack : Vector UInt32 16} {query : Text} {q : DataQuery}

/-- Every sequence of calls stays inside the stack exactly when the query is steady. -/
theorem stack_inside_iff (accepted : dataQuery longMax stack query = .ok q) :
    (∀ entries, (matchEntries entries q).isSome) ↔ Steady (arities query) := by
  obtain ⟨empty, tokens, code, heights⟩ := dataQuery_arities accepted
  rw [← heights]
  constructor
  · intro inside
    by_contra unsteady
    obtain ⟨entries, leaves⟩ := unsteady_leaves empty code unsteady
    have ends := inside entries
    rw [leaves] at ends
    cases ends
  · intro steady entries
    obtain ⟨outcome, outcomes⟩ := steady_outcomes empty code steady
    rw [outcomes]
    rfl

theorem stack_inside_iff_src :
    (∀ entries, (matchEntries entries
      ⟨[tokenSrc, 0x01000005, tokenEqual, tokenNop], Vector.replicate 16 0, 0⟩).isSome) ↔
      Steady (arities (text "src 5 =")) :=
  stack_inside_iff (rfl : dataQuery 2147483647 (Vector.replicate 16 0) (text "src 5 =") = _)

/-- A query of sixteen numbers. -/
def sixteenNumbers : Text := (List.replicate 16 (text "1 ")).flatten

/-- The last of sixteen numbers is stored behind the stack. -/
theorem sixteenNumbers_outside :
    dataQuery 2147483647 (Vector.replicate 16 0) sixteenNumbers =
        .ok ⟨List.replicate 16 0x01000001 ++ [tokenNop], Vector.replicate 16 0, 0⟩ ∧
      ¬ ∀ entries, (matchEntries entries
        ⟨List.replicate 16 0x01000001 ++ [tokenNop], Vector.replicate 16 0, 0⟩).isSome := by
  refine ⟨rfl, fun inside => ?_⟩
  have leaves : (matchEntries [⟨0, 0, 0, 0, 0, Vector.replicate 8 0⟩]
      ⟨List.replicate 16 0x01000001 ++ [tokenNop], Vector.replicate 16 0, 0⟩).isSome = false := by
    decide +kernel
  rw [inside] at leaves
  cases leaves

/-- The evaluation is stateless exactly when the query is steady. -/
theorem stateless_iff (accepted : dataQuery longMax stack query = .ok q) :
    Stateless q ↔ Steady (arities query) := by
  obtain ⟨empty, tokens, code, heights⟩ := dataQuery_arities accepted
  rw [← heights]
  constructor
  · intro stateless
    by_contra unsteady
    obtain ⟨entries, leaves⟩ := unsteady_leaves empty code unsteady
    rcases entries.eq_nil_or_concat with rfl | ⟨history, f, rfl⟩
    · cases leaves
    · obtain ⟨outcome, same⟩ := stateless f
      obtain ⟨results, ends⟩ := same history
      rw [List.concat_eq_append, ends] at leaves
      cases leaves
  · intro steady f
    obtain ⟨outcome, outcomes⟩ := steady_outcomes empty code steady
    refine ⟨outcome f, fun history => ⟨history.map outcome, ?_⟩⟩
    rw [outcomes, List.map_append, List.map_singleton]

theorem stateless_iff_src :
    Stateless ⟨[tokenSrc, 0x01000005, tokenEqual, tokenNop], Vector.replicate 16 0, 0⟩ ↔
      Steady (arities (text "src 5 =")) :=
  stateless_iff (rfl : dataQuery 2147483647 (Vector.replicate 16 0) (text "src 5 =") = _)

/-- Each call of a query of two numbers leaves two values; the eighth has no room. -/
theorem twoNumbers_not_stateless :
    dataQuery 2147483647 (Vector.replicate 16 0) (text "1 1") =
        .ok ⟨[0x01000001, 0x01000001, tokenNop], Vector.replicate 16 0, 0⟩ ∧
      ¬ Stateless ⟨[0x01000001, 0x01000001, tokenNop], Vector.replicate 16 0, 0⟩ := by
  refine ⟨rfl, fun stateless => ?_⟩
  obtain ⟨outcome, same⟩ := stateless ⟨0, 0, 0, 0, 0, Vector.replicate 8 0⟩
  obtain ⟨results, ends⟩ := same (List.replicate 7 ⟨0, 0, 0, 0, 0, Vector.replicate 8 0⟩)
  have leaves : (matchEntries (List.replicate 7 ⟨0, 0, 0, 0, 0, Vector.replicate 8 0⟩ ++
      [⟨0, 0, 0, 0, 0, Vector.replicate 8 0⟩])
      ⟨[0x01000001, 0x01000001, tokenNop], Vector.replicate 16 0, 0⟩).isSome = false := by
    decide +kernel
  rw [ends] at leaves
  cases leaves

end Main

end Hcan.Data
