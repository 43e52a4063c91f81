import Mathlib.Init

/-!
Programs that ask requests of an environment.

A program is done, has raised, or calls a request and continues with the answer;
an answer is a response or a failure, so every request may fail. `Execution` are
the complete runs of one program against the answers an environment can give,
`Uses` says that every request it can ask is lawful, `run` executes it against a
deterministic environment, and `relay` asks its requests through a wider interface.
-/

namespace Interaction

/-- A program with requests of type `Request`, answered in `Response`. -/
inductive Program (Request : Type) (Response : Request → Type) (Failure α : Type) where
  | done (value : α)
  | raised (failure : Failure)
  | call (request : Request)
      (resume : Except Failure (Response request) → Program Request Response Failure α)

/-- An answered request. -/
structure Event (Request : Type) (Response : Request → Type) (Failure : Type) where
  request : Request
  answer : Except Failure (Response request)

namespace Program

variable {Request : Type} {Response : Request → Type} {Failure α β S : Type}

/-- Continue with the value of a program; what it raises is raised. -/
def bind (program : Program Request Response Failure α)
    (next : α → Program Request Response Failure β) : Program Request Response Failure β :=
  match program with
  | done value => next value
  | raised failure => raised failure
  | call request resume => call request fun answer => (resume answer).bind next

instance : Monad (Program Request Response Failure) where
  pure := done
  bind := bind

/-- Ask one request. -/
def ask (request : Request) : Program Request Response Failure (Response request) :=
  call request fun
    | .ok response => done response
    | .error failure => raised failure

/-- A computation without requests. -/
def lift (computed : Except Failure α) : Program Request Response Failure α :=
  match computed with
  | .ok value => done value
  | .error failure => raised failure

/-- Catch whatever the program raises. -/
def attempt (program : Program Request Response Failure α) :
    Program Request Response Failure (Except Failure α) :=
  match program with
  | done value => done (.ok value)
  | raised failure => done (.error failure)
  | call request resume => call request fun answer => (resume answer).attempt

/-- Ask the requests of a program through a wider interface. -/
def relay {Request' : Type} {Response' : Request' → Type} (inject : Request → Request')
    (answered : (request : Request) → Response' (inject request) → Response request)
    (program : Program Request Response Failure α) : Program Request' Response' Failure α :=
  match program with
  | done value => done value
  | raised failure => raised failure
  | call request resume => call (inject request) fun answer =>
      (resume (answer.map (answered request))).relay inject answered

@[simp] theorem done_bind (value : α) (next : α → Program Request Response Failure β) :
    (done value >>= next) = next value := rfl

@[simp] theorem pure_eq (value : α) :
    (pure value : Program Request Response Failure α) = done value := rfl

@[simp] theorem raised_bind (failure : Failure) (next : α → Program Request Response Failure β) :
    (raised failure >>= next) = raised failure := rfl

@[simp] theorem call_bind (request : Request)
    (resume : Except Failure (Response request) → Program Request Response Failure α)
    (next : α → Program Request Response Failure β) :
    (call request resume >>= next) = call request fun answer => resume answer >>= next := rfl

@[simp] theorem lift_ok (value : α) :
    (lift (.ok value) : Program Request Response Failure α) = done value := rfl

@[simp] theorem lift_error (failure : Failure) :
    (lift (.error failure) : Program Request Response Failure α) = raised failure := rfl

/-- What was caught is not caught again. -/
theorem attempt_attempt_bind (program : Program Request Response Failure α)
    (next : Except Failure α → Program Request Response Failure β) :
    (program.attempt >>= next).attempt = program.attempt >>= fun outcome =>
      (next outcome).attempt := by
  induction program with
  | done value => rfl
  | raised failure => rfl
  | call request resume ih => exact congrArg (call request) (funext fun answer => ih answer)

/-! ### Executions -/

/-- A complete run: the events in order and the outcome. -/
inductive Execution (Possible : Event Request Response Failure → Prop) :
    Program Request Response Failure α → List (Event Request Response Failure) →
      Except Failure α → Prop where
  | done (value : α) : Execution Possible (done value) [] (.ok value)
  | raised (failure : Failure) : Execution Possible (raised failure) [] (.error failure)
  | call {request : Request}
      {resume : Except Failure (Response request) → Program Request Response Failure α}
      {log : List (Event Request Response Failure)} {outcome : Except Failure α}
      (answer : Except Failure (Response request)) :
      Possible ⟨request, answer⟩ → Execution Possible (resume answer) log outcome →
      Execution Possible (call request resume) (⟨request, answer⟩ :: log) outcome

section Execution

variable {Possible : Event Request Response Failure → Prop}
  {program : Program Request Response Failure α} {next : α → Program Request Response Failure β}
  {value : α} {front back : List (Event Request Response Failure)} {outcome : Except Failure β}

/-- A program that returned is continued by the next one. -/
theorem Execution.bind (first : Execution Possible program front (.ok value))
    (rest : Execution Possible (next value) back outcome) :
    Execution Possible (program >>= next) (front ++ back) outcome := by
  generalize returned : (Except.ok value : Except Failure α) = result at first
  induction first with
  | done value' =>
      cases returned
      exact rest
  | raised failure => cases returned
  | call answer possible _ ih => exact .call answer possible (ih returned)

/-- What follows the events with which a program returned is an execution of the next
one. -/
theorem Execution.resume (first : Execution Possible program front (.ok value))
    (whole : Execution Possible (program >>= next) (front ++ back) outcome) :
    Execution Possible (next value) back outcome := by
  generalize returned : (Except.ok value : Except Failure α) = result at first
  induction first with
  | done value' =>
      cases returned
      exact whole
  | raised failure => cases returned
  | call answer possible _ ih =>
      cases whole with
      | call _ _ onwards => exact ih onwards returned

/-- A sequence returns what its second part returns after its first part has. -/
theorem Execution.bind_ok_iff {log : List (Event Request Response Failure)} {result : β} :
    Execution Possible (program >>= next) log (.ok result) ↔
      ∃ front back value, log = front ++ back ∧ Execution Possible program front (.ok value) ∧
        Execution Possible (next value) back (.ok result) := by
  constructor
  · intro executes
    induction program generalizing log with
    | done value => exact ⟨[], log, value, rfl, .done value, executes⟩
    | raised failure => cases executes
    | call request resume ih =>
        cases executes with
        | call answer possible rest =>
            obtain ⟨front, back, value, rfl, first, second⟩ := ih answer rest
            exact ⟨_ :: front, back, value, rfl, .call answer possible first, second⟩
  · rintro ⟨front, back, value, rfl, first, second⟩
    exact first.bind second

theorem Execution.ask_ok_iff {request : Request} {log : List (Event Request Response Failure)}
    {response : Response request} :
    Execution Possible (ask request) log (.ok response) ↔
      log = [⟨request, .ok response⟩] ∧ Possible ⟨request, .ok response⟩ := by
  constructor
  · intro executes
    cases executes with
    | call answer possible rest =>
        cases answer with
        | error failure => cases rest
        | ok response' =>
            cases rest
            exact ⟨rfl, possible⟩
  · rintro ⟨rfl, possible⟩
    exact .call _ possible (.done response)

/-- A sequence that begins with a request returns after an answer to it. -/
theorem Execution.ask_bind_ok {request : Request} {next : Response request → Program Request
    Response Failure β} {log : List (Event Request Response Failure)} {result : β}
    (executes : Execution Possible (ask request >>= next) log (.ok result)) :
    ∃ response back, log = ⟨request, .ok response⟩ :: back ∧
      Execution Possible (next response) back (.ok result) := by
  obtain ⟨front, back, response, rfl, first, second⟩ := Execution.bind_ok_iff.mp executes
  obtain ⟨rfl, -⟩ := Execution.ask_ok_iff.mp first
  exact ⟨response, back, rfl, second⟩

theorem Execution.lift_ok_iff {computed : Except Failure α}
    {log : List (Event Request Response Failure)} :
    Execution Possible (lift computed) log (.ok value) ↔ log = [] ∧ computed = .ok value := by
  cases computed with
  | ok value' =>
      constructor
      · intro executes
        cases executes
        exact ⟨rfl, rfl⟩
      · rintro ⟨rfl, same⟩
        cases same
        exact .done value
  | error failure =>
      constructor
      · intro executes
        cases executes
      · rintro ⟨-, same⟩
        cases same

theorem Execution.done_ok_iff {log : List (Event Request Response Failure)} {result : α} :
    Execution Possible (Program.done value) log (.ok result) ↔ log = [] ∧ value = result := by
  constructor
  · intro executes
    cases executes
    exact ⟨rfl, rfl⟩
  · rintro ⟨rfl, rfl⟩
    exact .done value

/-- What a program that is caught returns is the outcome of the program. -/
theorem Execution.attempt_ok_iff {log : List (Event Request Response Failure)}
    {caught : Except Failure α} :
    Execution Possible program.attempt log (.ok caught) ↔ Execution Possible program log caught := by
  induction program generalizing log with
  | done value =>
      constructor
      · intro executes
        cases executes
        exact .done value
      · intro executes
        cases executes
        exact .done _
  | raised failure =>
      constructor
      · intro executes
        cases executes
        exact .raised failure
      · intro executes
        cases executes
        exact .done _
  | call request resume ih =>
      constructor
      · intro executes
        cases executes with
        | call answer possible rest => exact .call answer possible ((ih answer).mp rest)
      · intro executes
        cases executes with
        | call answer possible rest => exact .call answer possible ((ih answer).mpr rest)

end Execution

/-! ### Obedient events -/

/-- Every event of the program is good after the events before it, and what it returns
satisfies `Post` with its log. -/
def Obeys (Good : List (Event Request Response Failure) → Event Request Response Failure → Prop) :
    Program Request Response Failure α → List (Event Request Response Failure) →
      (α → List (Event Request Response Failure) → Prop) → Prop
  | done value, log, Post => Post value log
  | raised _, _, _ => True
  | call request resume, log, Post => ∀ answer, Good log ⟨request, answer⟩ ∧
      (resume answer).Obeys Good (log ++ [⟨request, answer⟩]) Post

section Obeys

variable {Good : List (Event Request Response Failure) → Event Request Response Failure → Prop}
  {log : List (Event Request Response Failure)}

theorem Obeys.mono {program : Program Request Response Failure α}
    {Post Post' : α → List (Event Request Response Failure) → Prop}
    (obeys : program.Obeys Good log Post) (weaken : ∀ value log, Post value log → Post' value log) :
    program.Obeys Good log Post' := by
  induction program generalizing log with
  | done value => exact weaken value log obeys
  | raised failure => trivial
  | call request resume ih => exact fun answer => ⟨(obeys answer).1, ih answer (obeys answer).2⟩

/-- The sequencing rule. -/
theorem Obeys.bind {program : Program Request Response Failure α}
    {next : α → Program Request Response Failure β}
    {M : α → List (Event Request Response Failure) → Prop}
    {Post : β → List (Event Request Response Failure) → Prop} (first : program.Obeys Good log M)
    (rest : ∀ value log, M value log → (next value).Obeys Good log Post) :
    (program >>= next).Obeys Good log Post := by
  induction program generalizing log with
  | done value => exact rest value log first
  | raised failure => trivial
  | call request resume ih =>
      intro answer
      obtain ⟨good, onwards⟩ := first answer
      exact ⟨good, ih answer onwards⟩

theorem Obeys.ask {request : Request}
    {Post : Response request → List (Event Request Response Failure) → Prop}
    (good : ∀ answer, Good log ⟨request, answer⟩)
    (answered : ∀ response, Post response (log ++ [⟨request, .ok response⟩])) :
    (Program.ask request).Obeys Good log Post := by
  intro answer
  refine ⟨good answer, ?_⟩
  cases answer with
  | ok response => exact answered response
  | error failure => trivial

theorem Obeys.lift {computed : Except Failure α}
    {Post : α → List (Event Request Response Failure) → Prop}
    (computes : ∀ value, computed = .ok value → Post value log) :
    (Program.lift computed : Program Request Response Failure α).Obeys Good log Post := by
  cases computed with
  | ok value => exact computes value rfl
  | error failure => trivial

/-- What a program returns comes with a log that extends the one it started with. -/
theorem Obeys.extends {program : Program Request Response Failure α}
    {Post : α → List (Event Request Response Failure) → Prop} (obeys : program.Obeys Good log Post) :
    program.Obeys Good log fun value after => log <+: after ∧ Post value after := by
  suffices general : ∀ front, front <+: log →
      program.Obeys Good log fun value after => front <+: after ∧ Post value after from
    general log List.prefix_rfl
  intro front before
  induction program generalizing log with
  | done value => exact ⟨before, obeys⟩
  | raised failure => trivial
  | call request resume ih =>
      exact fun answer => ⟨(obeys answer).1,
        ih answer (obeys answer).2 (before.trans (List.prefix_append _ _))⟩

/-- More events are good. -/
theorem Obeys.weaken {Good' : List (Event Request Response Failure) →
      Event Request Response Failure → Prop} {program : Program Request Response Failure α}
    {Post : α → List (Event Request Response Failure) → Prop} (obeys : program.Obeys Good log Post)
    (good : ∀ log event, Good log event → Good' log event) : program.Obeys Good' log Post := by
  induction program generalizing log with
  | done value => exact obeys
  | raised failure => trivial
  | call request resume ih =>
      exact fun answer => ⟨good _ _ (obeys answer).1, ih answer (obeys answer).2⟩

/-- What good events have in common, the new ones of the log have. -/
theorem Obeys.adds {F : Event Request Response Failure → Prop}
    {program : Program Request Response Failure α}
    {Q : α → List (Event Request Response Failure) → Prop} (obeys : program.Obeys Good log Q)
    (good : ∀ log event, Good log event → F event) :
    program.Obeys Good log fun value after =>
      (∃ more, after = log ++ more ∧ ∀ event ∈ more, F event) ∧ Q value after := by
  suffices general : ∀ front before, log = front ++ before → (∀ event ∈ before, F event) →
      program.Obeys Good log fun value after =>
        (∃ more, after = front ++ more ∧ ∀ event ∈ more, F event) ∧ Q value after from
    general log [] (List.append_nil log).symm fun _ => nofun
  intro front before split facts
  induction program generalizing log before with
  | done value => exact ⟨⟨before, split, facts⟩, obeys⟩
  | raised failure => trivial
  | call request resume ih =>
      refine fun answer => ⟨(obeys answer).1,
        ih answer (obeys answer).2 (before ++ [⟨request, answer⟩]) (by rw [split, List.append_assoc])
          fun event member => ?_⟩
      rcases List.mem_append.mp member with earlier | now
      · exact facts event earlier
      · obtain rfl := List.mem_singleton.mp now
        exact good log _ (obeys answer).1

/-- The rule for a program whose failures are caught. -/
theorem Obeys.attempt {F : Event Request Response Failure → Prop}
    {program : Program Request Response Failure α}
    {Q : α → List (Event Request Response Failure) → Prop} (obeys : program.Obeys Good log Q)
    (good : ∀ log event, Good log event → F event) :
    program.attempt.Obeys Good log fun outcome after =>
      (∃ more, after = log ++ more ∧ ∀ event ∈ more, F event) ∧
        ∀ value, outcome = .ok value → Q value after := by
  refine Obeys.mono (Obeys.adds (Q := fun outcome after =>
    ∀ value, outcome = .ok value → Q value after) ?_ good) fun _ _ both => both
  clear good
  induction program generalizing log with
  | done value =>
      intro value' same
      cases same
      exact obeys
  | raised failure => exact fun _ => nofun
  | call request resume ih => exact fun answer => ⟨(obeys answer).1, ih answer (obeys answer).2⟩

/-- The sequencing rule for a program whose failures are caught. -/
theorem Obeys.attempt_bind {program : Program Request Response Failure α}
    {next : α → Program Request Response Failure β}
    {M : Except Failure α → List (Event Request Response Failure) → Prop}
    {Post : Except Failure β → List (Event Request Response Failure) → Prop}
    (first : program.attempt.Obeys Good log M)
    (failed : ∀ failure log, M (.error failure) log → Post (.error failure) log)
    (rest : ∀ value log, M (.ok value) log → (next value).attempt.Obeys Good log Post) :
    (program >>= next).attempt.Obeys Good log Post := by
  induction program generalizing log with
  | done value => exact rest value log first
  | raised failure => exact failed failure log first
  | call request resume ih =>
      intro answer
      obtain ⟨good, onwards⟩ := first answer
      exact ⟨good, ih answer onwards⟩

/-- Every event of the program is good, whatever came before it. -/
abbrev Always (Good : List (Event Request Response Failure) →
      Event Request Response Failure → Prop) (program : Program Request Response Failure α) : Prop :=
  ∀ log, program.Obeys Good log fun _ _ => True

theorem Always.bind {program : Program Request Response Failure α}
    {next : α → Program Request Response Failure β} (first : program.Always Good)
    (rest : ∀ value, (next value).Always Good) : (program >>= next).Always Good :=
  fun log => (first log).bind fun value after _ => rest value after

theorem Always.weaken {Good' : List (Event Request Response Failure) →
      Event Request Response Failure → Prop} {program : Program Request Response Failure α}
    (always : program.Always Good) (good : ∀ log event, Good log event → Good' log event) :
    program.Always Good' :=
  fun log => (always log).weaken good

theorem Always.attempt {program : Program Request Response Failure α}
    (always : program.Always Good) : program.attempt.Always Good :=
  fun log => ((always log).attempt (F := fun _ => True) fun _ _ _ => trivial).mono
    fun _ _ _ => trivial

theorem obeys_true (program : Program Request Response Failure α) :
    program.Obeys (fun _ _ => True) log fun _ _ => True := by
  induction program generalizing log with
  | done value => trivial
  | raised failure => trivial
  | call request resume ih => exact fun answer => ⟨trivial, ih answer⟩

end Obeys

/-! ### Lawful requests -/

/-- Every request the program can ask is lawful, whatever possible answers it
gets, and what it returns satisfies `Post`. -/
def Uses (Possible : Event Request Response Failure → Prop) (Lawful : Request → Prop) :
    Program Request Response Failure α → (α → Prop) → Prop
  | done value, Post => Post value
  | raised _, _ => True
  | call request resume, Post => Lawful request ∧
      ∀ answer, Possible ⟨request, answer⟩ → Uses Possible Lawful (resume answer) Post

section Uses

variable {Possible : Event Request Response Failure → Prop} {Lawful : Request → Prop}
  {program : Program Request Response Failure α} {next : α → Program Request Response Failure β}

theorem Uses.mono {Post Post' : α → Prop} (uses : Uses Possible Lawful program Post)
    (weaken : ∀ value, Post value → Post' value) : Uses Possible Lawful program Post' := by
  induction program with
  | done value => exact weaken value uses
  | raised failure => trivial
  | call request resume ih =>
      exact ⟨uses.1, fun answer possible => ih answer (uses.2 answer possible)⟩

/-- Fewer possible answers and more lawful requests. -/
theorem Uses.weaken {Possible' : Event Request Response Failure → Prop} {Lawful' : Request → Prop}
    {Post : α → Prop} (uses : Uses Possible Lawful program Post)
    (possible : ∀ event, Possible' event → Possible event)
    (lawful : ∀ request, Lawful request → Lawful' request) :
    Uses Possible' Lawful' program Post := by
  induction program with
  | done value => exact uses
  | raised failure => trivial
  | call request resume ih =>
      exact ⟨lawful _ uses.1, fun answer here => ih answer (uses.2 answer (possible _ here))⟩

/-- The sequencing rule. -/
theorem Uses.bind {F : α → Prop} {Post : β → Prop} (first : Uses Possible Lawful program F)
    (rest : ∀ value, F value → Uses Possible Lawful (next value) Post) :
    Uses Possible Lawful (program >>= next) Post := by
  induction program with
  | done value => exact rest value first
  | raised failure => trivial
  | call request resume ih =>
      exact ⟨first.1, fun answer possible => ih answer (first.2 answer possible)⟩

theorem Uses.ask {request : Request} {Post : Response request → Prop} (lawful : Lawful request)
    (answered : ∀ response, Possible ⟨request, .ok response⟩ → Post response) :
    Uses Possible Lawful (Program.ask request) Post := by
  refine ⟨lawful, fun answer possible => ?_⟩
  cases answer with
  | ok response => exact answered response possible
  | error failure => trivial

theorem Uses.lift {computed : Except Failure α} {Post : α → Prop}
    (computes : ∀ value, computed = .ok value → Post value) :
    Uses Possible Lawful (Program.lift computed : Program Request Response Failure α) Post := by
  cases computed with
  | ok value => exact computes value rfl
  | error failure => trivial

theorem Uses.attempt {Post : Except Failure α → Prop}
    (uses : Uses Possible Lawful program fun value => Post (.ok value))
    (caught : ∀ failure, Post (.error failure)) : Uses Possible Lawful program.attempt Post := by
  induction program with
  | done value => exact uses
  | raised failure => exact caught failure
  | call request resume ih =>
      exact ⟨uses.1, fun answer possible => ih answer (uses.2 answer possible)⟩

/-- What an execution returns satisfies the postcondition. -/
theorem Uses.returned {Post : α → Prop} {log : List (Event Request Response Failure)} {value : α}
    (uses : Uses Possible Lawful program Post)
    (executes : Execution Possible program log (.ok value)) : Post value := by
  generalize returned : (Except.ok value : Except Failure α) = result at executes
  induction executes with
  | done value' =>
      cases returned
      exact uses
  | raised failure => cases returned
  | call answer possible _ ih => exact ih (uses.2 answer possible) returned

/-- A relayed program asks the requests of the narrow interface only. -/
theorem Uses.relay {Request' : Type} {Response' : Request' → Type} {inject : Request → Request'}
    {answered : (request : Request) → Response' (inject request) → Response request}
    {Possible' : Event Request' Response' Failure → Prop} {Lawful' : Request' → Prop}
    (lawful : ∀ request, Lawful' (inject request)) (program : Program Request Response Failure α) :
    Uses Possible' Lawful' (program.relay inject answered) fun _ => True := by
  induction program with
  | done value => trivial
  | raised failure => trivial
  | call request resume ih => exact ⟨lawful request, fun answer _ => ih _⟩

/-- A program of lawful requests obeys what lawful events do. -/
theorem Uses.obeys_of {Good : List (Event Request Response Failure) →
      Event Request Response Failure → Prop} {log : List (Event Request Response Failure)}
    {Post : α → Prop} (good : ∀ log event, Lawful event.request → Good log event)
    (uses : Uses (fun _ => True) Lawful program Post) :
    program.Obeys Good log fun value _ => Post value := by
  induction program generalizing log with
  | done value => exact uses
  | raised failure => trivial
  | call request resume ih =>
      exact fun answer => ⟨good _ _ uses.1, ih answer (uses.2 answer trivial)⟩

/-- Lawful requests, as events. -/
theorem Uses.obeys {log : List (Event Request Response Failure)} {Post : α → Prop}
    (uses : Uses (fun _ => True) Lawful program Post) :
    program.Obeys (fun _ event => Lawful event.request) log fun value _ => Post value :=
  uses.obeys_of fun _ _ lawful => lawful

end Uses

/-! ### Deterministic runs -/

/-- Execute the program against an environment with a state. -/
def run (serve : S → (request : Request) → Except Failure (Response request) × S) :
    Program Request Response Failure α → S →
      List (Event Request Response Failure) × Except Failure α × S
  | done value, state => ([], .ok value, state)
  | raised failure, state => ([], .error failure, state)
  | call request resume, state =>
      let served := serve state request
      let rest := (resume served.1).run serve served.2
      (⟨request, served.1⟩ :: rest.1, rest.2)

/-- A deterministic run is an execution. -/
theorem run_execution {Possible : Event Request Response Failure → Prop}
    {serve : S → (request : Request) → Except Failure (Response request) × S}
    (possible : ∀ state request, Possible ⟨request, (serve state request).1⟩)
    (program : Program Request Response Failure α) (state : S) :
    Execution Possible program (program.run serve state).1 (program.run serve state).2.1 := by
  induction program generalizing state with
  | done value => exact .done value
  | raised failure => exact .raised failure
  | call request resume ih => exact .call _ (possible state request) (ih _ _)

end Program

end Interaction
