import Hcan.Data.QueryStack
import Hcan.Data.Log
import Mathlib.Data.List.DropRight

/-!
# The query of a log file

`hcandq` prints the frames of a file that match a query, from the first to the last.  With
`--last` it goes through the file from its end, keeps the matches on a stack until it has enough,
and prints the stack.
-/

namespace Hcan.Data

open Hcan.Host Hcan.Library Program

/-- The query object and what has been printed. -/
structure QueryRun where
  dq : DataQuery
  printed : List FrameEntry

/-- What `query_file` asks of an open file. -/
structure FrameSource where
  count : Int
  frame : Int → Except String FrameEntry

def DataFile.source (file : DataFile) : FrameSource := ⟨file.count, file.frame⟩

/-- `df.frame(i)`. -/
def readFrame (df : FrameSource) (i : Nat) : Program QueryRun String FrameEntry :=
  ofResult (df.frame i)

/-- `dq.match(fe)`. -/
def runMatch (fe : FrameEntry) : Program QueryRun String Bool :=
  fun s => (matchEntry fe s.dq).map fun result => (result.1, { s with dq := result.2 })

def printFrame (fe : FrameEntry) : Program QueryRun String PUnit :=
  modify fun s => { s with printed := s.printed ++ [fe] }

/-- The loop without `--last`. -/
def printMatches (df : FrameSource) : Program QueryRun String PUnit :=
  (List.range df.count.toNat).forM fun i => do
    let fe ← readFrame df i
    if ← runMatch fe then printFrame fe

/-- The loop that pushes the last matches; `i` frames are left and `n` have matched. -/
def collectLast (df : FrameSource) (last : Int) :
    Nat → Int → List FrameEntry → Program QueryRun String (List FrameEntry)
  | 0, _, st => pure st
  | i + 1, n, st =>
      if last ≤ n then pure st
      else do
        let fe ← readFrame df i
        if ← runMatch fe then collectLast df last i (n + 1) (fe :: st)
        else collectLast df last i n st

/-- The branch for `--last`; the top of the stack is printed first. -/
def printLast (df : FrameSource) (last : Int) : Program QueryRun String PUnit := do
  let st ← collectLast df last df.count.toNat 0 []
  st.forM printFrame

/-- The loops of `query_file`: the outcome and the frames that were printed. -/
def runQuery (df : FrameSource) (dq : DataQuery) (last : Int) :
    Option (Except String PUnit × List FrameEntry) :=
  ((if last ≠ 0 then printLast df last else printMatches df) ⟨dq, []⟩).map fun result =>
    (result.1, result.2.printed)

/-- `query_file`. -/
def queryFile (longMax : Nat) (stack : Vector UInt32 16) (content : List UInt8)
    (queryExpression : Text) (last : Int) : Option (Except String PUnit × List FrameEntry) :=
  match dataFile content with
  | .error message => some (.error message, [])
  | .ok df =>
      match dataQuery longMax stack queryExpression with
      | .error message => some (.error message, [])
      | .ok dq => runQuery df.source dq last

section Matching

variable {tokens : List Token} {outcome : FrameEntry → Bool} {s : QueryRun} {df : FrameSource}
  {entry : Nat → FrameEntry} {count : Nat}

/-- The entries of a file at the indices below a bound. -/
def Reads (df : FrameSource) (entry : Nat → FrameEntry) (count : Nat) : Prop :=
  ∀ i, i < count → df.frame i = .ok (entry i)

/-- Between two calls the stack is empty. -/
structure Ready (tokens : List Token) (s : QueryRun) : Prop where
  holds : Holds s.dq []
  code : s.dq.code = tokenCode wideMax tokens

/-- Every call answers as `outcome` says and leaves the stack empty. -/
def Answers (tokens : List Token) (outcome : FrameEntry → Bool) : Prop :=
  ∀ f q, Holds q [] → q.code = tokenCode wideMax tokens →
    Ends (matchEntry f) q (fun result last => result = outcome f ∧ Leaves q [] last)
      fun _ _ => False

/-- A query with a value for one entry has one for every entry, whatever the stack held. -/
theorem answers_of_value {q last : DataQuery} {f : FrameEntry} {value : Bool}
    (empty : q.stackPtr = 0) (code : q.code = tokenCode wideMax tokens)
    (answered : matchEntry f q = some (.ok value, last)) :
    ∃ outcome, Answers tokens outcome := by
  obtain ⟨short, ends⟩ := walk_of_value empty code answered
  have evaluated (f : FrameEntry) : ∃ v, evaluate f (encodedTokens wideMax tokens) = some v :=
    evaluate_walk f ends
  choose v values using evaluated
  exact ⟨fun f => v f != 0, fun f q holds same =>
    matchEntry_tokens holds same (Nat.le_of_lt_succ short) (values f)⟩

/-- What a piece of the program leaves: the query ready, and more frames printed. -/
def Prints (tokens : List Token) (s : QueryRun) (more : List FrameEntry) (last : QueryRun) :
    Prop :=
  Ready tokens last ∧ last.printed = s.printed ++ more

theorem runMatch_ends (answers : Answers tokens outcome) (ready : Ready tokens s)
    (fe : FrameEntry) :
    Ends (runMatch fe) s (fun b last => b = outcome fe ∧ Prints tokens s [] last)
      fun _ _ => False := by
  obtain ⟨b, last, result, same, holds, code⟩ := (answers fe s.dq ready.holds ready.code).ok
  unfold Ends runMatch
  rw [result]
  exact ⟨same, ⟨holds, code.trans ready.code⟩, (List.append_nil _).symm⟩

theorem readFrame_ends {failed : String → QueryRun → Prop} (reads : Reads df entry count)
    {i : Nat} (inside : i < count) :
    Ends (readFrame df i) s (fun fe last => fe = entry i ∧ last = s) failed := by
  unfold readFrame
  exact ends_ofResult (reads i inside) ⟨rfl, rfl⟩

theorem printFrame_ends {failed : String → QueryRun → Prop} (ready : Ready tokens s)
    (fe : FrameEntry) :
    Ends (printFrame fe) s (fun _ => Prints tokens s [fe]) failed :=
  ends_modify ⟨⟨ready.holds, ready.code⟩, rfl⟩

theorem Prints.trans {middle last : QueryRun} {more rest : List FrameEntry}
    (first : Prints tokens s more middle) (second : Prints tokens middle rest last) :
    Prints tokens s (more ++ rest) last :=
  ⟨second.1, by rw [second.2, first.2, List.append_assoc]⟩

/-- The matches among the first entries. -/
def matchesBelow (entry : Nat → FrameEntry) (outcome : FrameEntry → Bool) (count : Nat) :
    List FrameEntry :=
  ((List.range count).map entry).filter outcome

/-- The plain loop prints the matches in their order. -/
theorem printLoop_ends (reads : Reads df entry count) (answers : Answers tokens outcome)
    (ready : Ready tokens s) {indices : List Nat} (inside : ∀ i ∈ indices, i < count) :
    Ends (indices.forM fun i => do
        let fe ← readFrame df i
        if ← runMatch fe then printFrame fe) s
      (fun _ => Prints tokens s ((indices.map entry).filter outcome)) fun _ _ => False := by
  induction indices generalizing s with
  | nil => exact ends_pure ⟨ready, (List.append_nil _).symm⟩
  | cons i indices ih =>
      have body : Ends (do
          let fe ← readFrame df i
          if ← runMatch fe then printFrame fe) s
          (fun _ => Prints tokens s ([entry i].filter outcome)) fun _ _ => False := by
        apply (readFrame_ends reads (inside i List.mem_cons_self)).bind
        rintro _ _ ⟨rfl, rfl⟩
        apply (runMatch_ends answers ready _).bind
        rintro b middle ⟨rfl, matched⟩
        rw [List.filter_singleton]
        cases outcome (entry i) with
        | false => exact ends_pure matched
        | true =>
            apply (printFrame_ends matched.1 _).weaken
            exact fun _ _ printed => matched.trans printed
      change Ends (_ >>= fun _ => indices.forM _) _ _ _
      apply body.bind
      intro _ middle first
      apply (ih first.1 fun j member => inside j (List.mem_cons_of_mem i member)).weaken
      intro _ last rest
      rw [List.map_cons, ← List.singleton_append, List.filter_append]
      exact first.trans rest

theorem printMatches_ends (reads : Reads df entry df.count.toNat)
    (answers : Answers tokens outcome) (ready : Ready tokens s) :
    Ends (printMatches df) s
      (fun _ => Prints tokens s (matchesBelow entry outcome df.count.toNat))
      fun _ _ => False :=
  printLoop_ends reads answers ready fun _ member => List.mem_range.mp member

/-- The backward loop collects the last matches in their order. -/
theorem collectLast_ends (reads : Reads df entry count) (answers : Answers tokens outcome)
    {i k : Nat} {n : Int} (st : List FrameEntry) (ready : Ready tokens s) (inside : i ≤ count) :
    Ends (collectLast df (n + k) i n st) s
      (fun result last => result = (matchesBelow entry outcome i).rtake k ++ st ∧
        Prints tokens s [] last) fun _ _ => False := by
  induction i generalizing k n st s with
  | zero => exact ends_pure ⟨by rw [matchesBelow, List.range_zero, List.map_nil, List.filter_nil,
      List.rtake_nil, List.nil_append], ready, (List.append_nil _).symm⟩
  | succ i ih =>
      rw [collectLast]
      cases k with
      | zero =>
          rw [if_pos (by omega), List.rtake_zero]
          exact ends_pure ⟨rfl, ready, (List.append_nil _).symm⟩
      | succ k =>
          have split : matchesBelow entry outcome (i + 1) =
              matchesBelow entry outcome i ++ [entry i].filter outcome := by
            rw [matchesBelow, List.range_succ, List.map_append, List.filter_append,
              List.map_singleton]
            rfl
          rw [if_neg (by omega), split, List.filter_cons, List.filter_nil]
          apply (readFrame_ends reads inside).bind
          rintro _ _ ⟨rfl, rfl⟩
          apply (runMatch_ends answers ready _).bind
          rintro b middle ⟨rfl, matched⟩
          cases outcome (entry i) with
          | false =>
              rw [if_neg Bool.false_ne_true, if_neg Bool.false_ne_true, List.append_nil]
              apply (ih _ matched.1 (Nat.le_of_succ_le inside)).weaken
              rintro result last ⟨same, after⟩
              exact ⟨same, matched.trans after⟩
          | true =>
              rw [if_pos rfl, if_pos rfl, List.rtake_concat_succ, List.append_assoc,
                List.singleton_append, show n + ((k + 1 : Nat) : Int) = n + 1 + (k : Int) by omega]
              apply (ih _ matched.1 (Nat.le_of_succ_le inside)).weaken
              rintro result last ⟨same, after⟩
              exact ⟨same, matched.trans after⟩

theorem printStack_ends (ready : Ready tokens s) (st : List FrameEntry) :
    Ends (st.forM printFrame) s (fun _ => Prints tokens s st) fun _ _ => False := by
  induction st generalizing s with
  | nil => exact ends_pure ⟨ready, (List.append_nil _).symm⟩
  | cons fe st ih =>
      change Ends (_ >>= fun _ => st.forM printFrame) _ _ _
      apply (printFrame_ends ready fe).bind
      intro _ middle first
      apply (ih first.1).weaken
      intro _ last rest
      exact first.trans rest

theorem printLast_ends (reads : Reads df entry df.count.toNat)
    (answers : Answers tokens outcome) (ready : Ready tokens s) (n : Nat) :
    Ends (printLast df n) s
      (fun _ => Prints tokens s ((matchesBelow entry outcome df.count.toNat).rtake n))
      fun _ _ => False := by
  have collected := collectLast_ends (k := n) (n := 0) reads answers [] ready
    (Nat.le_refl df.count.toNat)
  rw [Int.zero_add] at collected
  unfold printLast
  apply collected.bind
  rintro st middle ⟨rfl, matched⟩
  apply (printStack_ends matched.1 _).weaken
  intro _ last printed
  rw [List.append_nil] at printed
  exact matched.trans printed

end Matching

/-! ## A query of a file -/

section Main

variable {longMax : Nat} {stack other : Vector UInt32 16} {content : List UInt8} {query : Text}
  {file : DataFile} {q : DataQuery}

theorem frame_inside {i : Nat} (inside : i < file.count.toNat) :
    file.frame i = .ok (file.record entryCodec
      (headerCodec.size + dataCodec.size + entryCodec.size * i)) := by
  unfold DataFile.frame
  rw [if_neg (by omega)]
  rfl

/-- The entries of an open file. -/
theorem file_reads (file : DataFile) :
    ∃ entry, Reads file.source entry file.source.count.toNat := by
  dsimp only [DataFile.source, Reads]
  refine ⟨fun i => file.record entryCodec
    (headerCodec.size + dataCodec.size + entryCodec.size * i), ?_⟩
  intro i inside
  rw [frame_inside inside]

/-- The frames of a file that a query object matches, in the order of the file. -/
def matching (df : FrameSource) (q : DataQuery) : List FrameEntry :=
  (List.range df.count.toNat).filterMap fun i : Nat =>
    match df.frame i with
    | .error _ => none
    | .ok fe =>
        match matchEntry fe q with
        | some (.ok true, _) => some fe
        | _ => none

theorem matching_eq {df : FrameSource} {entry : Nat → FrameEntry} {tokens : List Token}
    {outcome : FrameEntry → Bool} (reads : Reads df entry df.count.toNat)
    (answers : Answers tokens outcome) (empty : q.stackPtr = 0)
    (code : q.code = tokenCode wideMax tokens) :
    matching df q = matchesBelow entry outcome df.count.toNat := by
  rw [matchesBelow, ← List.filterMap_eq_filter, List.filterMap_map]
  refine List.filterMap_congr fun i inside => ?_
  obtain ⟨value, last, answered, same, -⟩ := (answers (entry i) q (holds_nil empty) code).ok
  rw [reads i (List.mem_range.mp inside)]
  dsimp only
  rw [answered, Function.comp_apply, Option.guard, ← same]
  cases value <;> rfl

/-- The frames printed in runs from fresh query objects. -/
theorem runQuery_last {df : FrameSource} {entry : Nat → FrameEntry} {tokens : List Token}
    {outcome : FrameEntry → Bool} {first second : DataQuery}
    (reads : Reads df entry df.count.toNat) (answers : Answers tokens outcome)
    (firstReady : Ready tokens ⟨first, []⟩) (secondReady : Ready tokens ⟨second, []⟩) {n : Nat}
    (positive : 1 ≤ n) :
    runQuery df first 0 = some (.ok ⟨⟩, matchesBelow entry outcome df.count.toNat) ∧
      runQuery df second n =
        some (.ok ⟨⟩, (matchesBelow entry outcome df.count.toNat).rtake n) := by
  obtain ⟨_, allDone, all, -, allPrinted⟩ := (printMatches_ends reads answers firstReady).ok
  obtain ⟨_, lastDone, last, -, lastPrinted⟩ := (printLast_ends reads answers secondReady n).ok
  constructor
  · rw [runQuery, if_neg (not_not.mpr rfl), all, Option.map_some, allPrinted, List.nil_append]
  · rw [runQuery, if_pos (by omega), last, Option.map_some, lastPrinted, List.nil_append]

/-- In a file without entries nothing is printed. -/
theorem runQuery_empty {df : FrameSource} (empty : df.count.toNat = 0) (q : DataQuery)
    (last : Int) : runQuery df q last = some (.ok ⟨⟩, []) := by
  unfold runQuery printLast printMatches
  rw [empty]
  split <;> rfl

theorem queryFile_eq (opened : dataFile content = .ok file)
    (accepted : dataQuery longMax stack query = .ok q) (last : Int) :
    queryFile longMax stack content query last = runQuery file.source q last := by
  unfold queryFile
  rw [opened]
  dsimp only
  rw [accepted]

/-- The evaluation of the query throws on no entry of the file. -/
def Quiet (df : FrameSource) (q : DataQuery) : Prop :=
  ∀ i fe, df.frame i = .ok fe → ∃ value last, matchEntry fe q = some (.ok value, last)

theorem runQuery_quiet {df : FrameSource} {entry : Nat → FrameEntry} {tokens : List Token}
    (reads : Reads df entry df.count.toNat) (quiet : Quiet df q) (empty : q.stackPtr = 0)
    (code : q.code = tokenCode wideMax tokens) {n : Nat} (positive : 1 ≤ n) :
    runQuery df q 0 = some (.ok ⟨⟩, matching df q) ∧
      runQuery df { q with stack := other } n = some (.ok ⟨⟩, (matching df q).rtake n) := by
  cases frames : df.count.toNat with
  | zero =>
      have none : matching df q = [] := by
        rw [matching, frames, List.range_zero, List.filterMap_nil]
      rw [none, List.rtake_nil]
      exact ⟨runQuery_empty frames q 0, runQuery_empty frames _ n⟩
  | succ frames =>
      obtain ⟨value, last, answered⟩ := quiet 0 (entry 0) (reads 0 (by omega))
      obtain ⟨outcome, answers⟩ := answers_of_value empty code answered
      rw [matching_eq reads answers empty code]
      exact runQuery_last reads answers ⟨holds_nil empty, code⟩
        (⟨holds_nil empty, code⟩ : Ready tokens ⟨{ q with stack := other }, []⟩) positive

/-- The plain query prints the matching frames in the order of the file; with `--last n` the last
ones of them are printed, in the same order. -/
theorem queryFile_last (opened : dataFile content = .ok file)
    (accepted : dataQuery longMax stack query = .ok q) (quiet : Quiet file.source q) {n : Nat}
    (positive : 1 ≤ n) :
    queryFile longMax stack content query 0 = some (.ok ⟨⟩, matching file.source q) ∧
      queryFile longMax other content query n =
        some (.ok ⟨⟩, (matching file.source q).drop ((matching file.source q).length - n)) := by
  obtain ⟨empty, tokens, code, -⟩ := dataQuery_arities accepted
  have otherAccepted : dataQuery longMax other query = .ok { q with stack := other } := by
    rw [dataQuery_eq] at accepted ⊢
    split at accepted
    next => cases accepted
    next few =>
      cases Except.ok.inj accepted
      rw [if_neg few]
  obtain ⟨entry, reads⟩ := file_reads file
  rw [queryFile_eq opened accepted, queryFile_eq opened otherAccepted]
  exact runQuery_quiet reads quiet empty code positive

/-- A frame of node 5. -/
def fromFive (time : UInt64) : FrameEntry := { zeroEntry with timestamp := time, src := 5 }

theorem queryFile_last_src :
    queryFile 2147483647 (Vector.replicate 16 0)
        (closedFile [fromFive 1, zeroEntry, fromFive 3, fromFive 4]) (text "src 5 =") 0 =
      some (.ok ⟨⟩, [fromFive 1, fromFive 3, fromFive 4]) ∧
    queryFile 2147483647 (Vector.replicate 16 9)
        (closedFile [fromFive 1, zeroEntry, fromFive 3, fromFive 4]) (text "src 5 =") (2 : Nat) =
      some (.ok ⟨⟩, [fromFive 3, fromFive 4]) := by
  obtain ⟨all, last⟩ := (queryFile_last (dataFile_logFile rfl)
    (rfl : dataQuery 2147483647 (Vector.replicate 16 0) (text "src 5 =") = _)
    (fun _ _ _ => ⟨_, _, rfl⟩) (show 1 ≤ 2 by decide) :
      _ ∧ queryFile _ (Vector.replicate 16 9)
        (closedFile [fromFive 1, zeroEntry, fromFive 3, fromFive 4]) _ _ = _)
  refine ⟨all.trans ?_, last.trans ?_⟩
  · rw [Option.some_inj, Prod.mk_right_inj]
    decide +kernel
  · rw [Option.some_inj, Prod.mk_right_inj]
    decide +kernel

end Main

end Hcan.Data
