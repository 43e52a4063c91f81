import Polybot.Interaction.Program

/-!
Programs whose requests are answered by programs.

`handle` runs a program of one interface over another: every request is answered by a
program of the other interface, and what that one raises is the failure of the request.
`Obeys.handle` lifts what a program does between its requests to the events of the
other interface: the log there is made of one execution for each request that was
answered, and of the events so far of the one that is being answered.
-/

namespace Interaction

namespace Program

variable {Request Request' : Type} {Response : Request → Type} {Response' : Request' → Type}
  {Failure Failure' α : Type}

/-- Answer each request by a program of another interface. -/
def handle (handler : (request : Request) → Program Request' Response' Failure' (Response request))
    (caught : Failure' → Failure) (raise : Failure → Failure') :
    Program Request Response Failure α → Program Request' Response' Failure' α
  | done value => done value
  | raised failure => raised (raise failure)
  | call request resume => (handler request).attempt >>= fun answer =>
      (resume (answer.mapError caught)).handle handler caught raise

/-- `Asks program log request`: after the events of the log the program asks the
request. -/
inductive Asks : Program Request Response Failure α → List (Event Request Response Failure) →
    Request → Prop where
  | now (request : Request)
      (resume : Except Failure (Response request) → Program Request Response Failure α) :
      Asks (call request resume) [] request
  | later {request other : Request}
      {resume : Except Failure (Response request) → Program Request Response Failure α}
      {log : List (Event Request Response Failure)} (answer : Except Failure (Response request)) :
      Asks (resume answer) log other → Asks (call request resume) (⟨request, answer⟩ :: log) other

/-- The events of a log, answered by executions of their handlers, in this order. -/
inductive Handled (handler : (request : Request) → Program Request' Response' Failure' (Response request))
    (caught : Failure' → Failure) :
    List (Event Request Response Failure) → List (Event Request' Response' Failure') → Prop where
  | nil : Handled handler caught [] []
  | snoc {log : List (Event Request Response Failure)}
      {wide part : List (Event Request' Response' Failure')} {request : Request}
      {answer : Except Failure' (Response request)} :
      Handled handler caught log wide → Execution (fun _ => True) (handler request) part answer →
      Handled handler caught (log ++ [⟨request, answer.mapError caught⟩]) (wide ++ part)

/-- A request that a handler asks, while it answers a request that may be asked after the
events before. -/
def Answering (handler : (request : Request) → Program Request' Response' Failure' (Response request))
    (caught : Failure' → Failure)
    (Good : List (Event Request Response Failure) → Event Request Response Failure → Prop)
    (wide : List (Event Request' Response' Failure')) (event : Event Request' Response' Failure') :
    Prop :=
  ∃ log front part request, wide = front ++ part ∧ Handled handler caught log front ∧
    (∀ answer, Good log ⟨request, answer⟩) ∧ Asks (handler request) part event.request

section Asks

variable {program : Program Request Response Failure α} {request : Request}
  {log : List (Event Request Response Failure)}

/-- A program of lawful requests asks lawful requests. -/
theorem Asks.lawful {Lawful : Request → Prop} {Post : α → Prop} (asks : Asks program log request)
    (uses : program.Uses (fun _ => True) Lawful Post) : Lawful request := by
  induction asks with
  | now request resume => exact uses.1
  | later answer _ ih => exact ih (uses.2 answer trivial)

/-- A program of one request asks it at once. -/
theorem asks_ask_iff {request' : Request} :
    Asks (ask request : Program Request Response Failure _) log request' ↔
      log = [] ∧ request' = request := by
  constructor
  · intro asks
    cases asks with
    | now => exact ⟨rfl, rfl⟩
    | later answer rest =>
        cases answer with
        | ok response => cases rest
        | error failure => cases rest
  · rintro ⟨rfl, rfl⟩
    exact .now _ _

/-- A caught program asks its requests in the order of its events, and its outcome is that
of an execution. -/
theorem attempt_obeys_asks (program : Program Request Response Failure α)
    (front : List (Event Request Response Failure)) :
    program.attempt.Obeys
      (fun log event => ∃ part, log = front ++ part ∧ Asks program part event.request) front
      fun outcome after => ∃ part, after = front ++ part ∧
        Execution (fun _ => True) program part outcome := by
  suffices general : ∀ (done : List (Event Request Response Failure))
      (rest : Program Request Response Failure α),
      (∀ part request, Asks rest part request → Asks program (done ++ part) request) →
      (∀ part outcome, Execution (fun _ => True) rest part outcome →
        Execution (fun _ => True) program (done ++ part) outcome) →
      rest.attempt.Obeys
        (fun log event => ∃ part, log = front ++ part ∧ Asks program part event.request)
        (front ++ done) fun outcome after => ∃ part, after = front ++ part ∧
          Execution (fun _ => True) program part outcome by
    simpa using general [] program (fun _ _ asks => asks) fun _ _ executes => executes
  intro done rest asks executes
  induction rest generalizing done with
  | done value => exact ⟨done, rfl, by simpa using executes [] _ (.done value)⟩
  | raised failure => exact ⟨done, rfl, by simpa using executes [] _ (.raised failure)⟩
  | call request resume ih =>
      intro answer
      refine ⟨⟨done, rfl, by simpa using asks [] request (.now request resume)⟩, ?_⟩
      rw [List.append_assoc]
      refine ih answer (done ++ [⟨request, answer⟩]) (fun part other later => ?_)
        fun part outcome later => ?_
      · simpa using asks _ other (.later answer later)
      · simpa using executes _ outcome (.call answer trivial later)

end Asks

section Handle

variable {handler : (request : Request) → Program Request' Response' Failure' (Response request)}
  {caught : Failure' → Failure} {raise : Failure → Failure'}
  {program : Program Request Response Failure α}
  {Good : List (Event Request Response Failure) → Event Request Response Failure → Prop}
  {Post : α → List (Event Request Response Failure) → Prop}

/-- The rule of a handled program. -/
theorem Obeys.handle {log : List (Event Request Response Failure)}
    {wide : List (Event Request' Response' Failure')} (obeys : program.Obeys Good log Post)
    (handled : Handled handler caught log wide) :
    (program.handle handler caught raise).Obeys (Answering handler caught Good) wide
      fun value after => ∃ log', Handled handler caught log' after ∧ Post value log' := by
  induction program generalizing log wide with
  | done value => exact ⟨log, handled, obeys⟩
  | raised failure => trivial
  | call request resume ih =>
      refine ((attempt_obeys_asks (handler request) wide).weaken ?_).bind ?_
      · rintro _ event ⟨part, rfl, asks⟩
        exact ⟨log, wide, part, request, rfl, handled, fun answer => (obeys answer).1, asks⟩
      · rintro answer _ ⟨part, rfl, executes⟩
        exact ih (answer.mapError caught) (obeys _).2 (handled.snoc executes)

/-- Handlers of lawful requests make a program of lawful requests. -/
theorem Uses.handle {Lawful : Request' → Prop}
    (lawful : ∀ request, (handler request).Uses (fun _ => True) Lawful fun _ => True)
    (program : Program Request Response Failure α) :
    (program.handle handler caught raise).Uses (fun _ => True) Lawful fun _ => True := by
  induction program with
  | done value => trivial
  | raised failure => trivial
  | call request resume ih =>
      refine Uses.bind (F := fun _ => True) ?_ fun answer _ => ih _
      exact Uses.attempt (lawful request) fun _ => trivial

/-- What was handled last. -/
theorem Handled.snoc_inv {log : List (Event Request Response Failure)}
    {event : Event Request Response Failure} {wide : List (Event Request' Response' Failure')}
    (handled : Handled handler caught (log ++ [event]) wide) :
    ∃ front part answer, wide = front ++ part ∧ Handled handler caught log front ∧
      Execution (fun _ => True) (handler event.request) part answer ∧
      event.answer = answer.mapError caught := by
  generalize whole : log ++ [event] = all at handled
  cases handled with
  | nil => exact absurd whole (by simp)
  | @snoc log' front part request answer first executes =>
      obtain ⟨rfl, same⟩ := List.append_inj' whole rfl
      cases same
      exact ⟨front, part, answer, rfl, first, executes, rfl⟩

/-- A response that was handled is what an execution of its handler returned. -/
theorem Handled.part_of_ok {log : List (Event Request Response Failure)} {request : Request}
    {response : Response request} {wide : List (Event Request' Response' Failure')}
    (handled : Handled handler caught log wide) (member : ⟨request, .ok response⟩ ∈ log) :
    ∃ front part back, wide = front ++ part ++ back ∧
      Execution (fun _ => True) (handler request) part (.ok response) := by
  induction handled with
  | nil => cases member
  | @snoc log wide part request' answer _ executes ih =>
      rcases List.mem_append.mp member with earlier | now
      · obtain ⟨front, inside, back, rfl, returned⟩ := ih earlier
        exact ⟨front, inside, back ++ part, by simp, returned⟩
      · obtain same := List.mem_singleton.mp now
        injection same with requests answers
        subst requests
        cases answer with
        | error failure => cases eq_of_heq answers
        | ok response' =>
            cases eq_of_heq answers
            exact ⟨wide, part, [], by simp, executes⟩

/-- A handled program that returned is an execution of the program, and its events answer
the requests of that one. -/
theorem Execution.of_handle {value : α} {wide : List (Event Request' Response' Failure')}
    (executes : Execution (fun _ => True) (program.handle handler caught raise) wide (.ok value)) :
    ∃ log, Handled handler caught log wide ∧ Execution (fun _ => True) program log (.ok value) := by
  suffices general : ∀ before front, Handled handler caught before front →
      ∃ log, Handled handler caught (before ++ log) (front ++ wide) ∧
        Execution (fun _ => True) program log (.ok value) by
    simpa using general [] [] .nil
  intro before front handled
  induction program generalizing before front wide with
  | done value' =>
      obtain ⟨rfl, rfl⟩ := done_ok_iff.mp executes
      exact ⟨[], by simpa using handled, .done _⟩
  | raised failure => cases executes
  | call request resume ih =>
      obtain ⟨part, rest, answer, rfl, first, onwards⟩ := bind_ok_iff.mp executes
      obtain ⟨log, later, returned⟩ := ih (answer.mapError caught) onwards _ _
        (handled.snoc (attempt_ok_iff.mp first))
      exact ⟨⟨request, answer.mapError caught⟩ :: log, by simpa using later, .call _ trivial returned⟩

end Handle

end Program

end Interaction
