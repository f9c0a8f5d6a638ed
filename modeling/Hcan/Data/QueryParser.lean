import Hcan.Data.QueryCorrect

/-!
# What the query compiler accepts

A word that is no number and no keyword leaves no code and raises no error, a number is cut to 24
bits, and a query is refused when fewer than two words of the code block are left.
-/

namespace Hcan.Data

open Hcan.Host Hcan.Library

/-- The words of the language: numbers of 24 bits and the keywords. -/
def InLanguage (word : Text) : Prop :=
  (isNumber word = true ∧ digitsValue word < 2 ^ 24) ∨ word ∈ Token.keywords.map Prod.fst

instance decidableInLanguage (word : Text) : Decidable (InLanguage word) := by
  unfold InLanguage
  infer_instance

/-- The words that leave code: numbers of any size and the keywords. -/
def Recognized (word : Text) : Prop :=
  isNumber word = true ∨ word ∈ Token.keywords.map Prod.fst

instance decidableRecognized (word : Text) : Decidable (Recognized word) := by
  unfold Recognized
  infer_instance

/-- A code word is the opcode of a word of the language, with the number as its argument. -/
def Spells (word : Text) (code : UInt32) : Prop :=
  (isNumber word = true ∧ digitsValue word < 2 ^ 24 ∧
    code = tokenInt ||| UInt32.ofNat (digitsValue word)) ∨
      ∃ token, (word, token) ∈ Token.keywords ∧ code = token.code 0

/-- The words of a query with the NOP fit into the code block. -/
def FitsCode (query : Text) : Prop := (words query).length + 1 ≤ codeSize

/-- The query belongs to the language. -/
def InQueryLanguage (query : Text) : Prop := ∀ word ∈ words query, InLanguage word

/-- The constructor accepts the query if and only if its words belong to the language and fit,
and then leaves one code word for each word. -/
def ParsesExactly (longMax : Nat) (stack : Vector UInt32 16) (query : Text) : Prop :=
  ((∃ q, dataQuery longMax stack query = .ok q) ↔ InQueryLanguage query ∧ FitsCode query) ∧
    ∀ q, dataQuery longMax stack query = .ok q →
      ∃ code, q.code = code ++ [tokenNop] ∧ List.Forall₂ Spells (words query) code

section Words

variable {longMax : Nat} {word : Text}

theorem compileWord_number (number : isNumber word = true) :
    compileWord longMax word =
      some (tokenInt ||| (UInt32.ofNat (atol longMax word) &&& 0x00ffffff)) := by
  unfold compileWord
  rw [if_pos number]

theorem compileWord_other (unknown : ¬ Recognized word) : compileWord longMax word = none := by
  have number : ¬ isNumber word = true := fun isNum => unknown (.inl isNum)
  have absent : word ∉ Token.keywords.map Prod.fst := fun member => unknown (.inr member)
  simp only [Token.keywords, List.map_cons, List.map_nil, List.mem_cons, List.not_mem_nil,
    or_false, not_or] at absent
  obtain ⟨h1, h2, h3, h4, h5, h6, h7, h8, h9, h10, h11, h12, h13, h14, h15, h16, h17, h18, h19⟩ :=
    absent
  unfold compileWord
  rw [if_neg number, if_neg h1, if_neg h2, if_neg h3, if_neg h4, if_neg h5, if_neg h6, if_neg h7,
    if_neg h8, if_neg h9, if_neg h10, if_neg h11, if_neg h12, if_neg h13, if_neg h14, if_neg h15,
    if_neg h16, if_neg h17, if_neg h18, if_neg h19]

/-- A word that leaves code is a number or a keyword. -/
theorem compileWord_cases {code : UInt32} (compiled : compileWord longMax word = some code) :
    (isNumber word = true ∧
        code = tokenInt ||| (UInt32.ofNat (atol longMax word) &&& 0x00ffffff)) ∨
      ∃ entry ∈ Token.keywords, entry.1 = word ∧ code = entry.2.code longMax := by
  by_cases known : Recognized word
  · rcases known with number | member
    · rw [compileWord_number number] at compiled
      exact .inl ⟨number, (Option.some.inj compiled).symm⟩
    · obtain ⟨entry, inTable, rfl⟩ := List.mem_map.mp member
      rw [compileWord_keyword inTable] at compiled
      exact .inr ⟨entry, inTable, rfl, (Option.some.inj compiled).symm⟩
  · rw [compileWord_other known] at compiled
    cases compiled

theorem compileWord_isSome : (compileWord longMax word).isSome ↔ Recognized word := by
  by_cases known : Recognized word
  · refine iff_of_true ?_ known
    rcases known with number | member
    · rw [compileWord_number number]
      rfl
    · obtain ⟨entry, inTable, rfl⟩ := List.mem_map.mp member
      rw [compileWord_keyword inTable]
      rfl
  · rw [compileWord_other known]
    exact iff_of_false Bool.false_ne_true known

theorem InLanguage.recognized (inLanguage : InLanguage word) : Recognized word :=
  inLanguage.imp_left And.left

/-- No keyword is a number, so its code has no argument. -/
theorem keyword_code {entry : Text × Token} (member : entry ∈ Token.keywords) :
    entry.2.code longMax = entry.2.code 0 := by
  simp only [Token.keywords, List.mem_cons, List.not_mem_nil, or_false] at member
  obtain rfl | rfl | rfl | rfl | rfl | rfl | rfl | rfl | rfl | rfl | rfl | rfl | rfl | rfl | rfl |
    rfl | rfl | rfl | rfl := member <;> rfl

theorem small_argument (wide : 2 ^ 24 ≤ longMax) (small : digitsValue word < 2 ^ 24) :
    UInt32.ofNat (atol longMax word) &&& 0x00ffffff = UInt32.ofNat (digitsValue word) := by
  rw [atol, Nat.min_eq_left (Nat.le_of_lt (small.trans_le wide))]
  have value : (UInt32.ofNat (digitsValue word)).toNat = digitsValue word :=
    UInt32.toNat_ofNat_of_lt' (small.trans_le (by decide))
  apply UInt32.toNat_inj.mp
  rw [UInt32.toNat_and, value]
  exact (Nat.and_two_pow_sub_one_eq_mod (digitsValue word) 24).trans (Nat.mod_eq_of_lt small)

/-- A word of the language is compiled to its opcode. -/
theorem InLanguage.spells (wide : 2 ^ 24 ≤ longMax) (inLanguage : InLanguage word) :
    ∃ code, compileWord longMax word = some code ∧ Spells word code := by
  by_cases number : isNumber word = true
  · rcases inLanguage with ⟨-, small⟩ | member
    · refine ⟨_, compileWord_number number, .inl ⟨number, small, ?_⟩⟩
      rw [small_argument wide small]
    · obtain ⟨entry, inTable, rfl⟩ := List.mem_map.mp member
      exact ⟨_, compileWord_keyword inTable, .inr ⟨entry.2, inTable, keyword_code inTable⟩⟩
  · rcases inLanguage with ⟨isNum, -⟩ | member
    · exact absurd isNum number
    · obtain ⟨entry, inTable, rfl⟩ := List.mem_map.mp member
      exact ⟨_, compileWord_keyword inTable, .inr ⟨entry.2, inTable, keyword_code inTable⟩⟩

theorem spells_words {list : List Text} (wide : 2 ^ 24 ≤ longMax)
    (all : ∀ word ∈ list, InLanguage word) :
    List.Forall₂ Spells list (list.filterMap (compileWord longMax)) := by
  induction list with
  | nil => exact .nil
  | cons word list ih =>
      obtain ⟨code, compiled, spells⟩ := (all word List.mem_cons_self).spells wide
      rw [List.filterMap_cons_some compiled]
      exact .cons spells (ih fun other member => all other (List.mem_cons_of_mem word member))

/-- The code has a word for each word of the query that is recognized. -/
theorem compiled_length (longMax : Nat) (list : List Text) :
    (list.filterMap (compileWord longMax)).length =
      list.countP fun word => decide (Recognized word) := by
  induction list with
  | nil => rfl
  | cons word list ih =>
      by_cases known : Recognized word
      · obtain ⟨code, compiled⟩ := Option.isSome_iff_exists.mp (compileWord_isSome.mpr known)
        rw [List.filterMap_cons_some compiled, List.length_cons, ih, List.countP_cons,
          decide_eq_true known, if_pos rfl]
      · rw [List.filterMap_cons_none (compileWord_other known), ih, List.countP_cons,
          decide_eq_false known, if_neg Bool.false_ne_true, Nat.add_zero]

end Words

/-! ## The whole query -/

section Compiler

variable {longMax : Nat}

theorem codeTooSmall_iff (code : List UInt32) : codeTooSmall code = true ↔ 127 ≤ code.length := by
  unfold codeTooSmall codeSize
  rw [decide_eq_true_iff]
  omega

/-- The loop gives up only with a code that is too long, which the rest would make longer. -/
theorem compileLoop_error {fuel : Nat} {rest : Text} {code : List UInt32} {message : String}
    (enough : rest.length < fuel) (failed : compileLoop longMax fuel rest code = .error message) :
    message = "query code block too small" ∧
      127 ≤ (code ++ (words rest).filterMap (compileWord longMax)).length := by
  induction fuel generalizing rest code with
  | zero => exact absurd enough (Nat.not_lt_zero _)
  | succ fuel ih =>
      rw [compileLoop] at failed
      split at failed
      next full =>
        refine ⟨(Except.error.inj failed).symm, ?_⟩
        rw [List.length_append]
        exact Nat.le_add_right_of_le ((codeTooSmall_iff code).mp full)
      next =>
        dsimp only at failed
        split at failed
        next => cases failed
        next more =>
          have some : rest ≠ [] := by
            intro none
            rw [none] at more
            exact more rfl
          have shorter : (extractWord [] rest).2.length < rest.length := extractWord_length some
          obtain ⟨same, long⟩ := ih (by omega) failed
          refine ⟨same, ?_⟩
          rw [words_extractWord rest, List.filterMap_append, compile_first, ← List.append_assoc]
          exact long

/-- The constructor drops the words that it does not know and compares the length of the code. -/
theorem compileQuery_eq (longMax : Nat) (query : Text) :
    compileQuery longMax query =
      if 127 ≤ ((words query).filterMap (compileWord longMax)).length then
        .error "query code block too small"
      else .ok ((words query).filterMap (compileWord longMax) ++ [tokenNop]) := by
  unfold compileQuery
  cases looped : compileLoop longMax (query.length + 1) query [] with
  | error message =>
      obtain ⟨rfl, long⟩ := compileLoop_error (Nat.lt_succ_self _) looped
      rw [List.nil_append] at long
      rw [if_pos long]
      rfl
  | ok code =>
      have collected := compileLoop_ok (Nat.lt_succ_self _) looped
      rw [List.nil_append] at collected
      rw [← collected]
      change (if codeTooSmall code = true then _ else _) = _
      simp only [codeTooSmall_iff]
      rfl

theorem dataQuery_eq (longMax : Nat) (stack : Vector UInt32 16) (query : Text) :
    dataQuery longMax stack query =
      if 127 ≤ ((words query).filterMap (compileWord longMax)).length then
        .error "query code block too small"
      else .ok ⟨(words query).filterMap (compileWord longMax) ++ [tokenNop], stack, 0⟩ := by
  unfold dataQuery
  rw [compileQuery_eq]
  split <;> rfl

/-- The number of words of the query that leave code. -/
def recognizedWords (query : Text) : Nat :=
  (words query).countP fun word => decide (Recognized word)

theorem dataQuery_accepts (longMax : Nat) (stack : Vector UInt32 16) (query : Text) :
    (∃ q, dataQuery longMax stack query = .ok q) ↔ recognizedWords query < 127 := by
  rw [dataQuery_eq, compiled_length]
  change _ ↔ (words query).countP (fun word => decide (Recognized word)) < 127
  split
  next long =>
    refine iff_of_false ?_ (Nat.not_lt.mpr long)
    rintro ⟨q, accepted⟩
    cases accepted
  next short => exact iff_of_true ⟨_, rfl⟩ (Nat.lt_of_not_le short)

theorem recognizedWords_all {query : Text} (all : InQueryLanguage query) :
    recognizedWords query = (words query).length := by
  unfold recognizedWords
  rw [List.countP_eq_length]
  exact fun word member => decide_eq_true (all word member).recognized

/-- The compiler accepts exactly its language when all words of the query belong to it, unless
they fill the code block to its last word, and otherwise only when enough words of the query are
recognized to overfill the block. -/
theorem parsesExactly_iff (wide : 2 ^ 24 ≤ longMax) (stack : Vector UInt32 16) (query : Text) :
    ParsesExactly longMax stack query ↔
      (InQueryLanguage query ∧ (words query).length ≠ 127) ∨
        (¬ InQueryLanguage query ∧ 127 ≤ recognizedWords query) := by
  unfold ParsesExactly
  rw [dataQuery_accepts]
  by_cases all : InQueryLanguage query
  · have count := recognizedWords_all all
    constructor
    · rintro ⟨accepts, -⟩
      refine .inl ⟨all, fun exact => ?_⟩
      have fits : FitsCode query := by
        unfold FitsCode codeSize
        omega
      have few := accepts.mpr ⟨all, fits⟩
      omega
    · rintro (⟨-, other⟩ | ⟨outside, -⟩)
      · refine ⟨⟨fun few => ⟨all, ?_⟩, fun fits => ?_⟩, fun q accepted => ?_⟩
        · unfold FitsCode codeSize
          omega
        · have room : (words query).length + 1 ≤ 128 := fits.2
          omega
        · rw [dataQuery_eq] at accepted
          split at accepted
          next => cases accepted
          next =>
            cases Except.ok.inj accepted
            exact ⟨_, rfl, spells_words wide all⟩
      · exact absurd all outside
  · constructor
    · rintro ⟨accepts, -⟩
      refine .inr ⟨all, ?_⟩
      by_contra few
      exact all (accepts.mp (Nat.lt_of_not_le few)).1
    · rintro (⟨inside, -⟩ | ⟨-, many⟩)
      · exact absurd inside all
      · refine ⟨⟨fun few => absurd many (Nat.not_le.mpr few), fun both => absurd both.1 all⟩, ?_⟩
        intro q accepted
        have few := (dataQuery_accepts longMax stack query).mp ⟨q, accepted⟩
        exact absurd many (Nat.not_le.mpr few)

end Compiler

theorem parsesExactly_iff_src :
    ParsesExactly 2147483647 (Vector.replicate 16 0) (text "src 5 =") ↔
      (InQueryLanguage (text "src 5 =") ∧ (words (text "src 5 =")).length ≠ 127) ∨
        (¬ InQueryLanguage (text "src 5 =") ∧ 127 ≤ recognizedWords (text "src 5 =")) :=
  parsesExactly_iff (by decide) _ _

/-- A misspelt word is dropped, and the query is accepted. -/
theorem misspelt_accepted :
    ¬ ParsesExactly 2147483647 (Vector.replicate 16 0) (text "scr") := by
  rintro ⟨accepts, -⟩
  have outside : ¬ InLanguage (text "scr") := by decide +kernel
  have inside := (accepts.mp ⟨⟨[tokenNop], Vector.replicate 16 0, 0⟩, rfl⟩).1
  exact outside (inside (text "scr") (by decide +kernel))

end Hcan.Data
