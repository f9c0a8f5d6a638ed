import Hcan.Library.Dialogue

/-!
# Answers that come too late

Once a client has given up waiting it may take the answer to an earlier request for the answer to
the next one.  On a line that keeps the order and loses nothing it then stays behind by exactly the
answers it has not waited for.
-/

namespace Hcan.Library

namespace Service

variable {σ ρ μ ε : Type*} {service : Service σ ρ μ ε}

/-- Nothing is lost, the oldest message is next, and the client takes no message of others. -/
def Orderly (service : Service σ ρ μ ε) : LineEvent ρ μ → Prop
  | .serve place | .arrive place => place = 0
  | .loseRequest _ | .loseAnswer _ => False
  | .stray other => service.taken other = false
  | .ask _ | .drift | .timeout => True

def OrderlyStep (service : Service σ ρ μ ε) (line : Line σ ρ μ ε) (event : LineEvent ρ μ)
    (next : Line σ ρ μ ε) : Prop :=
  Step service line event next ∧ Orderly service event

/-- How often the client has given up waiting before the request with the number `k`. -/
def overdue (results : List (Option (Except ε μ))) (k : Nat) : Nat :=
  (results.take k).countP Option.isNone

/-- How many answers the client has taken. -/
def heardCount (results : List (Option (Except ε μ))) : Nat := results.countP Option.isSome

theorem overdue_append {results more : List (Option (Except ε μ))} {k : Nat}
    (inside : k ≤ results.length) : overdue (results ++ more) k = overdue results k := by
  rw [overdue, overdue, List.take_append_of_le_length inside]

/-- The answer that the client takes next is older by the answers it has not waited for. -/
theorem length_sub_overdue (results : List (Option (Except ε μ))) :
    results.length - overdue results results.length = heardCount results := by
  rw [overdue, List.take_length, heardCount]
  have cut := List.length_eq_countP_add_countP Option.isNone (l := results)
  have same : results.countP (fun result => decide ¬ (result.isNone = true)) =
      results.countP Option.isSome := by
    refine List.countP_congr fun result _ => ?_
    cases result <;> simp
  omega

theorem Dialogue.taken {first last : σ} {turns : List (ρ × μ)}
    (done : Dialogue service first turns last) :
    ∀ answer ∈ turns.map Prod.snd, service.taken answer = true := by
  induction done with
  | nil => intro answer inside; cases inside
  | drift _ _ ih => exact ih
  | turn before served ih =>
      intro answer inside
      rw [List.map_append, List.map_singleton] at inside
      rcases List.mem_append.mp inside with old | new
      · exact ih answer old
      · rw [List.mem_singleton.mp new]
        exact service.taken_answer served

/-- Each result that is an answer is what the client has made of the answer to the request that
many places before. -/
def Behind (service : Service σ ρ μ ε) (turns : List (ρ × μ)) (line : Line σ ρ μ ε) : Prop :=
  ∀ k result, line.results[k]? = some (some result) → ∃ request turn,
    line.asked[k]? = some request ∧ turns[k - overdue line.results k]? = some turn ∧
      result = service.accepts request turn.2

/-- The state of an orderly line: the requests are served in their order, and the answers that
have not been taken wait in the same order. -/
structure InOrder (service : Service σ ρ μ ε) (first : σ) (turns : List (ρ × μ)) (rest : List ρ)
    (line : Line σ ρ μ ε) : Prop where
  done : Dialogue service first turns line.server
  asked : line.asked = turns.map Prod.fst ++ rest
  toServer : line.toServer = rest.map service.message
  toClient : line.toClient.filter service.taken =
    (turns.map Prod.snd).drop (heardCount line.results)
  heard : heardCount line.results ≤ turns.length
  behind : Behind service turns line

theorem Behind.later {turns more : List (ρ × μ)} {line next : Line σ ρ μ ε}
    (behind : Behind service turns line) {requests : List ρ}
    (asked : next.asked = line.asked ++ requests) (results : next.results = line.results) :
    Behind service (turns ++ more) next := by
  intro k result inside
  rw [results] at inside ⊢
  obtain ⟨request, turn, request_eq, turn_eq, same⟩ := behind k result inside
  refine ⟨request, turn, ?_, ?_, same⟩
  · rw [asked, List.getElem?_append_left (List.getElem?_eq_some_iff.mp request_eq).1]
    exact request_eq
  · rw [List.getElem?_append_left (List.getElem?_eq_some_iff.mp turn_eq).1]
    exact turn_eq

/-- One more result: the old ones are as before, and the new one is behind as well. -/
theorem Behind.snoc {turns : List (ρ × μ)} {line next : Line σ ρ μ ε}
    (behind : Behind service turns line) {new : Option (Except ε μ)}
    (asked : next.asked = line.asked) (results : next.results = line.results ++ [new])
    (fits : ∀ result, new = some result → ∃ request turn,
      line.asked[line.results.length]? = some request ∧
        turns[heardCount line.results]? = some turn ∧ result = service.accepts request turn.2) :
    Behind service turns next := by
  intro k result inside
  rw [results] at inside ⊢
  rw [asked]
  rcases lt_or_ge k line.results.length with old | late
  · rw [List.getElem?_append_left old] at inside
    rw [overdue_append (Nat.le_of_lt old)]
    exact behind k result inside
  · rw [List.getElem?_append_right late] at inside
    obtain ⟨at_end, -⟩ := List.getElem?_eq_some_iff.mp inside
    rw [List.length_singleton] at at_end
    obtain rfl : k = line.results.length := by omega
    rw [Nat.sub_self, List.getElem?_cons_zero, Option.some.injEq] at inside
    rw [overdue_append le_rfl, length_sub_overdue]
    exact fits result inside

theorem heardCount_snoc (results : List (Option (Except ε μ))) (new : Option (Except ε μ)) :
    heardCount (results ++ [new]) = heardCount results + if new.isSome then 1 else 0 := by
  rw [heardCount, List.countP_append, List.countP_singleton, heardCount]

theorem OrderlyStep.inOrder {first : σ} {turns : List (ρ × μ)} {rest : List ρ}
    {line next : Line σ ρ μ ε} {event : LineEvent ρ μ}
    (step : OrderlyStep service line event next) (order : InOrder service first turns rest line) :
    ∃ turns rest, InOrder service first turns rest next := by
  obtain ⟨taken, orderly⟩ := step
  obtain ⟨done, asked_eq, toServer_eq, toClient_eq, heard, behind⟩ := order
  cases taken with
  | @ask server toServer toClient asked results request idle =>
      refine ⟨turns, rest ++ [request], done, ?_, ?_, toClient_eq, heard, ?_⟩
      · rw [← List.append_assoc]
        exact congrArg (fun before => before ++ [request]) asked_eq
      · rw [List.map_append, List.map_singleton]
        exact congrArg (fun before => before ++ [service.message request]) toServer_eq
      · have later : Behind service (turns ++ []) ⟨server, toServer ++ [service.message request],
            toClient, asked ++ [request], results⟩ := behind.later rfl rfl
        rwa [List.append_nil] at later
  | drift changed => exact ⟨turns, rest, done.drift changed, asked_eq, toServer_eq, toClient_eq,
      heard, behind⟩
  | @serve server front back toClient asked results message answer later served =>
      obtain rfl := List.length_eq_zero_iff.mp orderly
      rw [List.nil_append] at toServer_eq
      cases rest with
      | nil => cases toServer_eq
      | cons request rest =>
          obtain ⟨rfl, rfl⟩ := List.cons.inj toServer_eq
          refine ⟨turns ++ [(request, answer)], rest, done.turn served, ?_, rfl, ?_, ?_, ?_⟩
          · rw [List.map_append, List.map_singleton, List.append_assoc]
            exact asked_eq
          · have bound : heardCount results ≤ (turns.map Prod.snd).length := by
              rwa [List.length_map]
            have new : List.filter service.taken [answer] = [answer] := by
              rw [List.filter_singleton, service.taken_answer served]
              rfl
            change List.filter service.taken (toClient ++ [answer]) = _
            rw [List.filter_append, show _ = _ from toClient_eq, new, List.map_append,
              List.map_singleton, List.drop_append_of_le_length bound]
          · change heardCount results ≤ _
            rw [List.length_append]
            exact Nat.le_add_right_of_le heard
          · exact behind.later (List.append_nil _).symm rfl
  | @arrive server toServer front back asked results message request waiting taken =>
      obtain rfl := List.length_eq_zero_iff.mp orderly
      have next_answer : message :: back.filter service.taken =
          (turns.map Prod.snd).drop (heardCount results) := by
        rw [← toClient_eq]
        exact (List.filter_cons_of_pos taken).symm
      have here : (turns.map Prod.snd)[heardCount results]? = some message := by
        rw [← List.head?_drop, ← next_answer, List.head?_cons]
      obtain ⟨turn, turn_eq, rfl⟩ : ∃ turn, turns[heardCount results]? = some turn ∧
          turn.2 = message := by
        rw [List.getElem?_map] at here
        exact Option.map_eq_some_iff.mp here
      have count : heardCount (results ++ [some (service.accepts request turn.2)]) =
          heardCount results + 1 := heardCount_snoc _ _
      refine ⟨turns, rest, done, asked_eq, toServer_eq, ?_, ?_, ?_⟩
      · change back.filter service.taken = _
        rw [count, ← List.drop_drop, ← next_answer, List.drop_one, List.tail_cons]
      · change heardCount (results ++ _) ≤ _
        rw [count]
        exact (List.getElem?_eq_some_iff.mp turn_eq).1
      · refine behind.snoc rfl rfl ?_
        rintro result ⟨⟩
        refine ⟨request, turn, ?_, turn_eq, rfl⟩
        change (asked ++ [request])[results.length]? = some request
        rw [waiting, List.getElem?_append_right le_rfl, Nat.sub_self, List.getElem?_cons_zero]
  | @skip server toServer front back asked results message request waiting skipped =>
      obtain rfl := List.length_eq_zero_iff.mp orderly
      refine ⟨turns, rest, done, asked_eq, toServer_eq, ?_, heard, behind⟩
      rw [← toClient_eq]
      exact (List.filter_cons_of_neg skipped).symm
  | @timeout server toServer toClient asked results request waiting =>
      have count : heardCount (results ++ [none]) = heardCount results := heardCount_snoc _ _
      refine ⟨turns, rest, done, asked_eq, toServer_eq, ?_, ?_, ?_⟩
      · change _ = (turns.map Prod.snd).drop (heardCount (results ++ [none]))
        rw [count]
        exact toClient_eq
      · change heardCount (results ++ [none]) ≤ _
        rw [count]
        exact heard
      · refine behind.snoc rfl rfl ?_
        rintro result ⟨⟩
  | loseRequest => exact orderly.elim
  | loseAnswer => exact orderly.elim
  | @stray server toServer toClient asked results other foreign =>
      refine ⟨turns, rest, done, asked_eq, toServer_eq, ?_, heard, behind⟩
      have skipped : List.filter service.taken [other] = [] := by
        rw [List.filter_singleton, show service.taken other = false from orderly]
        rfl
      change List.filter service.taken (toClient ++ [other]) = _
      rw [List.filter_append, skipped, List.append_nil]
      exact toClient_eq

/-- On an orderly line the client is behind by exactly the answers it has not waited for. -/
theorem behind_of_orderly {line last : Line σ ρ μ ε} {events : List (LineEvent ρ μ)}
    (quiet : Quiet service line)
    (untaken : ∀ message ∈ line.toClient, service.taken message = false)
    (run : Run (OrderlyStep service) line events last) :
    ∃ turns, Dialogue service line.server turns last.server ∧
      turns.map Prod.fst <+: last.asked ∧ Behind service turns last := by
  obtain ⟨asked, results, empty, -⟩ := quiet
  have start : InOrder service line.server [] [] line := by
    refine ⟨.nil _, asked, empty, ?_, ?_, ?_⟩
    · rw [List.filter_eq_nil_iff.mpr fun message inside => by simp [untaken message inside]]
      exact List.drop_nil.symm
    · rw [results]
      exact le_rfl
    · intro k result inside
      rw [results] at inside
      cases inside
  obtain ⟨turns, rest, order⟩ : ∃ turns rest, InOrder service line.server turns rest last := by
    refine run.invariant (fun line' => ∃ turns rest, InOrder service line.server turns rest line')
      ?_ ⟨[], [], start⟩
    rintro state event next step ⟨turns, rest, order⟩
    exact step.inOrder order
  exact ⟨turns, order.done, ⟨rest, order.asked.symm⟩, order.behind⟩

end Service

end Hcan.Library
