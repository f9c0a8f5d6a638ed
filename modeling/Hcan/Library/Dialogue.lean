import Hcan.Library.Run
import Mathlib.Data.List.Basic
import Mathlib.Tactic.Tauto

/-!
# Dialogues over a lossy line

A client asks a server one request after the other and waits for each answer, but not for ever.
The line may lose messages, delay them and change their order, and other parties may put messages
on it.  As long as the client gets an answer that passes its tests for every request, the dialogue
is one with the server alone.
-/

namespace Hcan.Library

/-- A server with requests `ρ` and messages `μ`, as its client sees it. -/
structure Service (σ ρ μ ε : Type*) where
  message : ρ → μ
  serves : σ → μ → σ → μ → Prop
  /-- Changes of the server that no message causes. -/
  drifts : σ → σ → Prop
  /-- The client takes the message from the line. -/
  taken : μ → Bool
  /-- The tests of the client on a message it takes while a request is open. -/
  accepts : ρ → μ → Except ε μ
  /-- The messages of other parties. -/
  stray : μ → Prop
  taken_answer : ∀ {state request later answer}, serves state (message request) later answer →
    taken answer
  stray_rejected : ∀ {request other}, stray other → taken other →
    ∃ error, accepts request other = .error error

/-- The server, the messages on the way, the requests so far and how each of them has ended:
`none` means that the client has given up waiting. -/
structure Line (σ ρ μ ε : Type*) where
  server : σ
  toServer : List μ
  toClient : List μ
  asked : List ρ
  results : List (Option (Except ε μ))

/-- The number of a message is its place on the line. -/
inductive LineEvent (ρ μ : Type*) where
  | ask (request : ρ)
  | drift
  | serve (place : Nat)
  | arrive (place : Nat)
  | timeout
  | loseRequest (place : Nat)
  | loseAnswer (place : Nat)
  | stray (other : μ)

namespace Service

variable {σ ρ μ ε : Type*}

inductive Step (service : Service σ ρ μ ε) :
    Line σ ρ μ ε → LineEvent ρ μ → Line σ ρ μ ε → Prop where
  | ask {server toServer toClient asked results} (request : ρ)
      (idle : results.length = asked.length) :
      Step service ⟨server, toServer, toClient, asked, results⟩ (.ask request)
        ⟨server, toServer ++ [service.message request], toClient, asked ++ [request], results⟩
  | drift {server toServer toClient asked results} {later : σ}
      (changed : service.drifts server later) :
      Step service ⟨server, toServer, toClient, asked, results⟩ .drift
        ⟨later, toServer, toClient, asked, results⟩
  | serve {server front back toClient asked results} {message answer : μ} {later : σ}
      (served : service.serves server message later answer) :
      Step service ⟨server, front ++ message :: back, toClient, asked, results⟩
        (.serve front.length) ⟨later, front ++ back, toClient ++ [answer], asked, results⟩
  | arrive {server toServer front back asked results} {message : μ} {request : ρ}
      (waiting : results.length = asked.length) (taken : service.taken message) :
      Step service ⟨server, toServer, front ++ message :: back, asked ++ [request], results⟩
        (.arrive front.length) ⟨server, toServer, front ++ back, asked ++ [request],
          results ++ [some (service.accepts request message)]⟩
  | skip {server toServer front back asked results} {message : μ} {request : ρ}
      (waiting : results.length = asked.length) (skipped : ¬ service.taken message) :
      Step service ⟨server, toServer, front ++ message :: back, asked ++ [request], results⟩
        (.arrive front.length) ⟨server, toServer, front ++ back, asked ++ [request], results⟩
  | timeout {server toServer toClient asked results} {request : ρ}
      (waiting : results.length = asked.length) :
      Step service ⟨server, toServer, toClient, asked ++ [request], results⟩ .timeout
        ⟨server, toServer, toClient, asked ++ [request], results ++ [none]⟩
  | loseRequest {server front back toClient asked results} {message : μ} :
      Step service ⟨server, front ++ message :: back, toClient, asked, results⟩
        (.loseRequest front.length) ⟨server, front ++ back, toClient, asked, results⟩
  | loseAnswer {server toServer front back asked results} {message : μ} :
      Step service ⟨server, toServer, front ++ message :: back, asked, results⟩
        (.loseAnswer front.length) ⟨server, toServer, front ++ back, asked, results⟩
  | stray {server toServer toClient asked results} {other : μ} (foreign : service.stray other) :
      Step service ⟨server, toServer, toClient, asked, results⟩ (.stray other)
        ⟨server, toServer, toClient ++ [other], asked, results⟩

/-- The server alone: each request is served before the next one is asked. -/
inductive Dialogue (service : Service σ ρ μ ε) : σ → List (ρ × μ) → σ → Prop where
  | nil (state : σ) : Dialogue service state [] state
  | drift {first middle last : σ} {turns : List (ρ × μ)}
      (before : Dialogue service first turns middle) (changed : service.drifts middle last) :
      Dialogue service first turns last
  | turn {first middle last : σ} {turns : List (ρ × μ)} {request : ρ} {answer : μ}
      (before : Dialogue service first turns middle)
      (served : service.serves middle (service.message request) last answer) :
      Dialogue service first (turns ++ [(request, answer)]) last

/-- A dialogue can be cut between two requests. -/
theorem Dialogue.split {service : Service σ ρ μ ε} {first last : σ} {front back : List (ρ × μ)}
    (done : Dialogue service first (front ++ back) last) :
    ∃ middle, Dialogue service first front middle ∧ Dialogue service middle back last := by
  generalize cut : front ++ back = turns at done
  induction done generalizing back with
  | nil =>
      obtain ⟨rfl, rfl⟩ := List.append_eq_nil_iff.mp cut
      exact ⟨first, .nil first, .nil first⟩
  | drift _ changed ih =>
      obtain ⟨middle, inFront, inBack⟩ := ih cut
      exact ⟨middle, inFront, inBack.drift changed⟩
  | @turn middle last turns request answer before served ih =>
      rcases List.eq_nil_or_concat back with rfl | ⟨back, turn, rfl⟩
      · rw [List.append_nil] at cut
        subst cut
        exact ⟨last, before.turn served, .nil last⟩
      · rw [List.concat_eq_append, ← List.append_assoc] at cut
        obtain ⟨same, last_eq⟩ := List.append_inj' cut rfl
        obtain rfl := (List.cons.inj last_eq).1
        obtain ⟨between, inFront, inBack⟩ := ih same
        rw [List.concat_eq_append]
        exact ⟨between, inFront, inBack.turn served⟩

section Heads

variable {service : Service σ ρ μ ε} {server later : σ} {toServer toClient : List μ}
  {asked : List ρ}
  {results : List (Option (Except ε μ))} {message answer : μ} {request : ρ}

/-- The oldest request is served. -/
theorem Step.serve_head (served : service.serves server message later answer) :
    Step service ⟨server, message :: toServer, toClient, asked, results⟩ (.serve 0)
      ⟨later, toServer, toClient ++ [answer], asked, results⟩ :=
  @Step.serve _ _ _ _ service server [] toServer toClient asked results message answer later served

/-- The oldest message to the client is taken. -/
theorem Step.arrive_head (waiting : results.length = asked.length)
    (taken : service.taken message) :
    Step service ⟨server, toServer, message :: toClient, asked ++ [request], results⟩ (.arrive 0)
      ⟨server, toServer, toClient, asked ++ [request],
        results ++ [some (service.accepts request message)]⟩ :=
  @Step.arrive _ _ _ _ service server toServer [] toClient asked results message request waiting
    taken

end Heads

/-! ## Answered requests -/

/-- The request has been answered with a message that passed the tests. -/
def Answered (result : Option (Except ε μ)) : Prop := ∃ message, result = some (.ok message)

/-- What the client has made of the answers. -/
def heard (service : Service σ ρ μ ε) (turns : List (ρ × μ)) : List (Option (Except ε μ)) :=
  turns.map fun turn => some (service.accepts turn.1 turn.2)

/-- Where the request that is open, if there is one, has got to. -/
inductive Phase (service : Service σ ρ μ ε) (first : σ) (turns : List (ρ × μ))
    (line : Line σ ρ μ ε) : Prop where
  | idle (done : Dialogue service first turns line.server)
      (asked : line.asked = turns.map Prod.fst) (toServer : line.toServer = [])
      (strays : ∀ message ∈ line.toClient, service.stray message)
  | sent {request : ρ} (done : Dialogue service first turns line.server)
      (asked : line.asked = turns.map Prod.fst ++ [request])
      (toServer : line.toServer = [service.message request])
      (strays : ∀ message ∈ line.toClient, service.stray message)
  | answered {request : ρ} {front back : List μ} {answer : μ}
      (done : Dialogue service first (turns ++ [(request, answer)]) line.server)
      (asked : line.asked = turns.map Prod.fst ++ [request]) (toServer : line.toServer = [])
      (toClient : line.toClient = front ++ answer :: back) (passes : service.taken answer)
      (strays : ∀ message ∈ front ++ back, service.stray message)
  | lost {request : ρ} (asked : line.asked = turns.map Prod.fst ++ [request])
      (toServer : line.toServer = [])
      (strays : ∀ message ∈ line.toClient, service.stray message)

/-- The line while every request so far has been answered. -/
def Settled (service : Service σ ρ μ ε) (first : σ) (line : Line σ ρ μ ε) : Prop :=
  ∃ turns, line.results = service.heard turns ∧ Phase service first turns line

/-- A result that is no answer. -/
def Missed (line : Line σ ρ μ ε) : Prop := ∃ result ∈ line.results, ¬ Answered result

variable {service : Service σ ρ μ ε}

theorem length_heard (turns : List (ρ × μ)) :
    (service.heard turns).length = (turns.map Prod.fst).length := by
  rw [heard, List.length_map, List.length_map]

theorem heard_snoc (turns : List (ρ × μ)) (request : ρ) (answer : μ) :
    service.heard turns ++ [some (service.accepts request answer)] =
      service.heard (turns ++ [(request, answer)]) := by
  rw [heard, heard, List.map_append, List.map_singleton]

theorem missed_last {line : Line σ ρ μ ε} {results : List (Option (Except ε μ))}
    {result : Option (Except ε μ)} (last : line.results = results ++ [result])
    (failed : ¬ Answered result) : Missed line := by
  refine ⟨result, ?_, failed⟩
  rw [last]
  exact List.mem_append_right _ List.mem_cons_self

theorem not_answered_error (error : ε) :
    ¬ Answered (some (.error error) : Option (Except ε μ)) := by
  rintro ⟨message, same⟩
  cases same

theorem not_answered_none : ¬ Answered (none : Option (Except ε μ)) := by
  rintro ⟨message, same⟩
  cases same

/-- One message among strays: it is the one in question or a stray. -/
theorem stray_or_answer {front back left right : List μ} {message answer : μ}
    (same : left ++ message :: right = front ++ answer :: back)
    (strays : ∀ other ∈ front ++ back, service.stray other) :
    (message = answer ∧ left ++ right = front ++ back) ∨
      (service.stray message ∧ ∃ front back, left ++ right = front ++ answer :: back ∧
        ∀ other ∈ front ++ back, service.stray other) := by
  rcases List.append_eq_append_iff.mp same with
    ⟨middle, front_eq, back_eq⟩ | ⟨middle, left_eq, back_eq⟩
  · cases middle with
    | nil =>
        obtain ⟨rfl, rfl⟩ := List.cons.inj back_eq
        rw [List.append_nil] at front_eq
        exact .inl ⟨rfl, by rw [front_eq]⟩
    | cons first middle =>
        rw [List.cons_append] at back_eq
        obtain ⟨rfl, rfl⟩ := List.cons.inj back_eq
        have here : service.stray message :=
          strays message (by rw [front_eq]; simp)
        refine .inr ⟨here, left ++ middle, back, by rw [List.append_assoc], ?_⟩
        intro other inside
        refine strays other ?_
        rw [front_eq]
        simp only [List.mem_append, List.mem_cons] at inside ⊢
        tauto
  · cases middle with
    | nil =>
        obtain ⟨rfl, rfl⟩ := List.cons.inj back_eq
        rw [List.append_nil] at left_eq
        exact .inl ⟨rfl, by rw [left_eq]⟩
    | cons first middle =>
        rw [List.cons_append] at back_eq
        obtain ⟨rfl, rfl⟩ := List.cons.inj back_eq
        have here : service.stray message := strays message (by simp)
        refine .inr ⟨here, front, middle ++ right, ?_, ?_⟩
        · rw [left_eq, List.append_assoc, List.cons_append]
        · intro other inside
          refine strays other ?_
          simp only [List.mem_append, List.mem_cons] at inside ⊢
          tauto

/-- The results so far are answers, or one of them is none. -/
def Fair (service : Service σ ρ μ ε) (first : σ) (line : Line σ ρ μ ε) : Prop :=
  Missed line ∨ Settled service first line

theorem missed_append {line next : Line σ ρ μ ε} {more : List (Option (Except ε μ))}
    (missed : Missed line) (results : next.results = line.results ++ more) : Missed next := by
  obtain ⟨result, inside, failed⟩ := missed
  refine ⟨result, ?_, failed⟩
  rw [results]
  exact List.mem_append_left _ inside

/-- No step takes a result back. -/
theorem Step.results {line next : Line σ ρ μ ε} {event : LineEvent ρ μ}
    (step : Step service line event next) : ∃ more, next.results = line.results ++ more := by
  cases step with
  | arrive => exact ⟨_, rfl⟩
  | timeout => exact ⟨_, rfl⟩
  | ask | drift | serve | skip | loseRequest | loseAnswer | stray =>
      exact ⟨[], (List.append_nil _).symm⟩

section Events

variable {first : σ} {turns : List (ρ × μ)} {server : σ} {toServer toClient front back : List μ}
  {asked : List ρ} {results : List (Option (Except ε μ))} {message : μ}

/-- Only between two requests there are as many results as requests. -/
theorem Phase.ask (phase : Phase service first turns ⟨server, toServer, toClient, asked, results⟩)
    (heard : results = service.heard turns) (idle : results.length = asked.length)
    (request : ρ) : Phase service first turns
      ⟨server, toServer ++ [service.message request], toClient, asked ++ [request], results⟩ := by
  have lengths : results.length = (turns.map Prod.fst).length := by rw [heard, length_heard]
  have not_open : ∀ request, asked ≠ turns.map Prod.fst ++ [request] := by
    rintro request rfl
    rw [List.length_append, lengths, List.length_singleton] at idle
    omega
  cases phase with
  | idle done asked_eq empty strays =>
      have asked_turns : asked ++ [request] = turns.map Prod.fst ++ [request] :=
        congrArg (fun before => before ++ [request]) asked_eq
      refine .sent done asked_turns ?_ strays
      change toServer ++ [service.message request] = [service.message request]
      rw [show toServer = [] from empty, List.nil_append]
  | sent done asked_eq => exact absurd asked_eq (not_open _)
  | answered done asked_eq => exact absurd asked_eq (not_open _)
  | lost asked_eq => exact absurd asked_eq (not_open _)

theorem Phase.drift (phase : Phase service first turns ⟨server, toServer, toClient, asked, results⟩)
    {later : σ} (changed : service.drifts server later) :
    Phase service first turns ⟨later, toServer, toClient, asked, results⟩ := by
  cases phase with
  | idle done asked_eq empty strays => exact .idle (done.drift changed) asked_eq empty strays
  | sent done asked_eq request_eq strays =>
      exact .sent (done.drift changed) asked_eq request_eq strays
  | answered done asked_eq empty toClient_eq passes strays =>
      exact .answered (done.drift changed) asked_eq empty toClient_eq passes strays
  | lost asked_eq empty strays => exact .lost asked_eq empty strays

/-- The server has one request at most. -/
theorem Phase.serve
    (phase : Phase service first turns
      ⟨server, front ++ message :: back, toClient, asked, results⟩)
    {answer : μ} {later : σ} (served : service.serves server message later answer) :
    Phase service first turns ⟨later, front ++ back, toClient ++ [answer], asked, results⟩ := by
  have not_empty : front ++ message :: back ≠ [] := List.append_ne_nil_of_right_ne_nil _
    (List.cons_ne_nil _ _)
  cases phase with
  | idle done asked_eq empty => exact absurd empty not_empty
  | sent done asked_eq request_eq strays =>
      obtain ⟨rfl, rfl, rfl⟩ : front = [] ∧ message = service.message _ ∧ back = [] := by
        have single := List.append_eq_singleton_iff.mp request_eq
        simpa using single
      exact .answered (done.turn served) asked_eq rfl rfl (service.taken_answer served)
        (by simpa using strays)
  | answered done asked_eq empty => exact absurd empty not_empty
  | lost asked_eq empty => exact absurd empty not_empty

/-- A request that gets lost stays open. -/
theorem Phase.loseRequest
    (phase : Phase service first turns
      ⟨server, front ++ message :: back, toClient, asked, results⟩) :
    Phase service first turns ⟨server, front ++ back, toClient, asked, results⟩ := by
  have not_empty : front ++ message :: back ≠ [] := List.append_ne_nil_of_right_ne_nil _
    (List.cons_ne_nil _ _)
  cases phase with
  | idle done asked_eq empty => exact absurd empty not_empty
  | sent done asked_eq request_eq strays =>
      obtain ⟨rfl, -, rfl⟩ : front = [] ∧ message = service.message _ ∧ back = [] := by
        have single := List.append_eq_singleton_iff.mp request_eq
        simpa using single
      exact .lost asked_eq rfl strays
  | answered done asked_eq empty => exact absurd empty not_empty
  | lost asked_eq empty => exact absurd empty not_empty

/-- A message to the client that disappears is a stray, or the answer is lost. -/
theorem Phase.loseAnswer
    (phase : Phase service first turns
      ⟨server, toServer, front ++ message :: back, asked, results⟩) :
    Phase service first turns ⟨server, toServer, front ++ back, asked, results⟩ := by
  have fewer : (∀ other ∈ front ++ message :: back, service.stray other) →
      ∀ other ∈ front ++ back, service.stray other := by
    intro strays other inside
    refine strays other ?_
    simp only [List.mem_append, List.mem_cons] at inside ⊢
    tauto
  cases phase with
  | idle done asked_eq empty strays => exact .idle done asked_eq empty (fewer strays)
  | sent done asked_eq request_eq strays => exact .sent done asked_eq request_eq (fewer strays)
  | answered done asked_eq empty toClient_eq passes strays =>
      rcases stray_or_answer toClient_eq strays with ⟨rfl, rest⟩ | ⟨-, front', back', rest, strays⟩
      · exact .lost asked_eq empty (by rwa [← rest] at strays)
      · exact .answered done asked_eq empty rest passes strays
  | lost asked_eq empty strays => exact .lost asked_eq empty (fewer strays)

theorem Phase.stray (phase : Phase service first turns ⟨server, toServer, toClient, asked, results⟩)
    {other : μ} (foreign : service.stray other) :
    Phase service first turns ⟨server, toServer, toClient ++ [other], asked, results⟩ := by
  have more : (∀ message ∈ toClient, service.stray message) →
      ∀ message ∈ toClient ++ [other], service.stray message := by
    intro strays message inside
    rcases List.mem_append.mp inside with old | new
    · exact strays message old
    · rwa [List.mem_singleton.mp new]
  cases phase with
  | idle done asked_eq empty strays => exact .idle done asked_eq empty (more strays)
  | sent done asked_eq request_eq strays => exact .sent done asked_eq request_eq (more strays)
  | @answered request front back answer done asked_eq empty toClient_eq passes strays =>
      refine .answered done asked_eq empty (?_ : _ = front ++ answer :: (back ++ [other])) passes ?_
      · change toClient ++ [other] = _
        rw [show toClient = front ++ answer :: back from toClient_eq, List.append_assoc,
          List.cons_append]
      · intro message inside
        rw [← List.append_assoc] at inside
        rcases List.mem_append.mp inside with old | new
        · exact strays message old
        · rwa [List.mem_singleton.mp new]
  | lost asked_eq empty strays => exact .lost asked_eq empty (more strays)

/-- The client takes its answer, or a stray that it rejects. -/
theorem Phase.arrive {request : ρ}
    (phase : Phase service first turns
      ⟨server, toServer, front ++ message :: back, asked ++ [request], results⟩)
    (heard : results = service.heard turns) (waiting : results.length = asked.length)
    (taken : service.taken message) :
    (∃ error, service.accepts request message = .error error) ∨
      Phase service first (turns ++ [(request, message)])
        ⟨server, toServer, front ++ back, asked ++ [request],
          results ++ [some (service.accepts request message)]⟩ := by
  have here : message ∈ front ++ message :: back := by simp
  cases phase with
  | idle done asked_eq =>
      have lengths := congrArg List.length asked_eq
      rw [← @length_heard _ _ _ _ service, ← heard, List.length_append, waiting,
        List.length_singleton] at lengths
      omega
  | sent done asked_eq request_eq strays =>
      exact .inl (service.stray_rejected (strays message here) taken)
  | answered done asked_eq empty toClient_eq passes strays =>
      obtain ⟨asked_turns, request_eq⟩ := List.append_inj' asked_eq rfl
      obtain rfl := List.cons.inj request_eq |>.1
      rcases stray_or_answer toClient_eq strays with ⟨rfl, rest⟩ | ⟨foreign, -⟩
      · refine .inr (.idle done ?_ empty (by rwa [← rest] at strays))
        rw [List.map_append, List.map_singleton]
        exact asked_eq
      · exact .inl (service.stray_rejected foreign taken)
  | lost asked_eq empty strays =>
      exact .inl (service.stray_rejected (strays message here) taken)

end Events

theorem Step.fair {first : σ} {line next : Line σ ρ μ ε} {event : LineEvent ρ μ}
    (step : Step service line event next) (fair : Fair service first line) :
    Fair service first next := by
  rcases fair with missed | ⟨turns, heard, phase⟩
  · obtain ⟨more, results⟩ := step.results
    exact .inl (missed_append missed results)
  cases step with
  | ask request idle => exact .inr ⟨turns, heard, phase.ask heard idle request⟩
  | drift changed => exact .inr ⟨turns, heard, phase.drift changed⟩
  | serve served => exact .inr ⟨turns, heard, phase.serve served⟩
  | @arrive server toServer front back asked results message request waiting taken =>
      rcases phase.arrive heard waiting taken with ⟨error, rejected⟩ | later
      · refine .inl (missed_last rfl ?_)
        rw [rejected]
        exact not_answered_error error
      · refine .inr ⟨turns ++ [(request, message)], ?_, later⟩
        rw [← heard_snoc, ← heard]
  | skip waiting skipped => exact .inr ⟨turns, heard, phase.loseAnswer⟩
  | timeout waiting => exact .inl (missed_last rfl not_answered_none)
  | loseRequest => exact .inr ⟨turns, heard, phase.loseRequest⟩
  | loseAnswer => exact .inr ⟨turns, heard, phase.loseAnswer⟩
  | stray foreign => exact .inr ⟨turns, heard, phase.stray foreign⟩

/-- A line without a request, on which only strays are left. -/
def Quiet (service : Service σ ρ μ ε) (line : Line σ ρ μ ε) : Prop :=
  line.asked = [] ∧ line.results = [] ∧ line.toServer = [] ∧
    ∀ message ∈ line.toClient, service.stray message

/-- Every request of the run has been answered: then the client has talked to the server alone,
and the line is quiet again. -/
theorem dialogue_of_answered {line last : Line σ ρ μ ε} {events : List (LineEvent ρ μ)}
    (quiet : Quiet service line) (run : Run (Step service) line events last)
    (answered : ∀ result ∈ last.results, Answered result)
    (idle : last.results.length = last.asked.length) :
    ∃ turns, last.asked = turns.map Prod.fst ∧ last.results = service.heard turns ∧
      Dialogue service line.server turns last.server ∧ last.toServer = [] ∧
      ∀ message ∈ last.toClient, service.stray message := by
  obtain ⟨asked, results, empty, strays⟩ := quiet
  have start : Fair service line.server line :=
    .inr ⟨[], results, .idle (.nil _) asked empty strays⟩
  have fair : Fair service line.server last :=
    run.invariant _ (fun _ _ _ step => step.fair) start
  rcases fair with ⟨result, inside, failed⟩ | ⟨turns, heard, phase⟩
  · exact absurd (answered result inside) failed
  have lengths : last.asked.length = (turns.map Prod.fst).length := by
    rw [← idle, heard, length_heard]
  have not_open : ∀ request, last.asked ≠ turns.map Prod.fst ++ [request] := by
    intro request same
    rw [same, List.length_append, List.length_singleton] at lengths
    omega
  cases phase with
  | idle done asked_eq empty strays => exact ⟨turns, asked_eq, heard, done, empty, strays⟩
  | sent done asked_eq => exact absurd asked_eq (not_open _)
  | answered done asked_eq => exact absurd asked_eq (not_open _)
  | lost asked_eq => exact absurd asked_eq (not_open _)

end Service

end Hcan.Library
