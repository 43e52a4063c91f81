import Mathlib.Logic.Relation
import Polybot.Interaction.Pool

/-!
Rely and guarantee for programs with requests.

A contract says what every step of a pool guarantees, and what the other workers
may do while a request is pending. `Wp` is the weakest precondition of a program
under a contract: it may assume something of its own answers, must show the
guarantee at each of its steps, and keeps its knowledge only as far as the steps
of the others do. `Wp.step` is the parallel rule.
-/

namespace Interaction

variable {Request : Type} {Response : Request → Type} {Failure α β S ι : Type}

/-- What the steps of a pool are and guarantee. -/
structure Contract (Request : Type) (Response : Request → Type) (Failure S : Type) where
  Serve : S → Event Request Response Failure → S → Prop
  Guarantee : S → Event Request Response Failure → S → Prop
  Allow : Request → S → S → Prop

/-- What a worker assumes of its next event, which its log may decide. -/
abbrev Assumption (Request : Type) (Response : Request → Type) (Failure S : Type) : Type :=
  List (Event Request Response Failure) → S → Event Request Response Failure → Prop

namespace Contract

/-- What the others may have done while the request was pending. -/
def Rely (contract : Contract Request Response Failure S) (request : Request) : S → S → Prop :=
  Relation.ReflTransGen fun s t =>
    (∃ event, contract.Guarantee s event t) ∧ contract.Allow request s t

/-- The weakest precondition of a program. -/
def Wp (contract : Contract Request Response Failure S)
    (Assume : Assumption Request Response Failure S) :
    Program Request Response Failure α → List (Event Request Response Failure) → S →
    (Except Failure α → List (Event Request Response Failure) → S → Prop) → Prop
  | .done value, log, s, Post => Post (.ok value) log s
  | .raised failure, log, s, Post => Post (.error failure) log s
  | .call request resume, log, s, Post =>
      ∀ before, contract.Rely request s before →
        ∀ answer next, contract.Serve before ⟨request, answer⟩ next →
          Assume log before ⟨request, answer⟩ →
          contract.Guarantee before ⟨request, answer⟩ next ∧
            contract.Wp Assume (resume answer) (log ++ [⟨request, answer⟩]) next Post

variable {contract : Contract Request Response Failure S}
  {Assume : Assumption Request Response Failure S} {log : List (Event Request Response Failure)}
  {s t : S}

/-- What is stable under the steps of the others survives a pending request. -/
theorem Rely.stable {K : S → Prop} {request : Request} (relied : contract.Rely request s t)
    (stable : ∀ s event t, K s → contract.Guarantee s event t → contract.Allow request s t → K t)
    (start : K s) : K t := by
  induction relied with
  | refl => exact start
  | tail _ last ih =>
      obtain ⟨⟨event, guaranteed⟩, allowed⟩ := last
      exact stable _ event _ ih guaranteed allowed

namespace Wp

theorem mono {program : Program Request Response Failure α}
    {Post Post' : Except Failure α → List (Event Request Response Failure) → S → Prop}
    (wp : contract.Wp Assume program log s Post)
    (weaken : ∀ outcome log s, Post outcome log s → Post' outcome log s) :
    contract.Wp Assume program log s Post' := by
  induction program generalizing log s with
  | done value => exact weaken _ _ _ wp
  | raised failure => exact weaken _ _ _ wp
  | call request resume ih =>
      intro before relied answer next served assumed
      obtain ⟨guaranteed, rest⟩ := wp before relied answer next served assumed
      exact ⟨guaranteed, ih answer rest⟩

/-- The sequencing rule. -/
theorem bind {program : Program Request Response Failure α}
    {next : α → Program Request Response Failure β}
    {M : Except Failure α → List (Event Request Response Failure) → S → Prop}
    {Post : Except Failure β → List (Event Request Response Failure) → S → Prop}
    (first : contract.Wp Assume program log s M)
    (raised : ∀ failure log s, M (.error failure) log s → Post (.error failure) log s)
    (rest : ∀ value log s, M (.ok value) log s → contract.Wp Assume (next value) log s Post) :
    contract.Wp Assume (program >>= next) log s Post := by
  induction program generalizing log s with
  | done value => exact rest value log s first
  | raised failure => exact raised failure log s first
  | call request resume ih =>
      intro before relied answer after served assumed
      obtain ⟨guaranteed, later⟩ := first before relied answer after served assumed
      exact ⟨guaranteed, ih answer later⟩

/-- The rule of one request. -/
theorem ask {request : Request}
    {Post : Except Failure (Response request) → List (Event Request Response Failure) → S → Prop}
    (step : ∀ before, contract.Rely request s before →
      ∀ answer next, contract.Serve before ⟨request, answer⟩ next →
        Assume log before ⟨request, answer⟩ →
        contract.Guarantee before ⟨request, answer⟩ next ∧
          Post answer (log ++ [⟨request, answer⟩]) next) :
    contract.Wp Assume (Program.ask request) log s Post := by
  intro before relied answer next served assumed
  obtain ⟨guaranteed, rest⟩ := step before relied answer next served assumed
  refine ⟨guaranteed, ?_⟩
  cases answer with
  | ok response => exact rest
  | error failure => exact rest

theorem lift {computed : Except Failure α}
    {Post : Except Failure α → List (Event Request Response Failure) → S → Prop}
    (post : Post computed log s) : contract.Wp Assume (Program.lift computed) log s Post := by
  cases computed with
  | ok value => exact post
  | error failure => exact post

/-- The rule of a caught program. -/
theorem attempt {program : Program Request Response Failure α}
    {Post : Except Failure (Except Failure α) → List (Event Request Response Failure) → S → Prop}
    (wp : contract.Wp Assume program log s fun outcome => Post (.ok outcome)) :
    contract.Wp Assume program.attempt log s Post := by
  induction program generalizing log s with
  | done value => exact wp
  | raised failure => exact wp
  | call request resume ih =>
      intro before relied answer next served assumed
      obtain ⟨guaranteed, rest⟩ := wp before relied answer next served assumed
      exact ⟨guaranteed, ih answer rest⟩

/-- A program whose requests are all harmless guarantees the contract, and keeps
what harmless requests and the others keep. -/
theorem of_uses {Possible : Event Request Response Failure → Prop} {Harmless : Request → Prop}
    {Fact : α → Prop} {K : List (Event Request Response Failure) → S → Prop}
    {program : Program Request Response Failure α}
    (possible : ∀ s event t, contract.Serve s event t → Possible event)
    (guarantees : ∀ s event t, Harmless event.request → contract.Serve s event t →
      contract.Guarantee s event t)
    (stable : ∀ log request s t, contract.Rely request s t → K log s → K log t)
    (keeps : ∀ log s event t, Harmless event.request → contract.Serve s event t → K log s →
      K (log ++ [event]) t)
    (uses : program.Uses Possible Harmless Fact) (start : K log s) :
    contract.Wp Assume program log s fun outcome log s =>
      K log s ∧ ∀ value, outcome = .ok value → Fact value := by
  induction program generalizing log s with
  | done value =>
      refine ⟨start, fun other same => ?_⟩
      cases same
      exact uses
  | raised failure => exact ⟨start, nofun⟩
  | call request resume ih =>
      intro before relied answer next served _
      have kept := stable log request _ _ relied start
      exact ⟨guarantees _ _ _ uses.1 served,
        ih answer (uses.2 answer (possible _ _ _ served)) (keeps _ _ _ _ uses.1 served kept)⟩

/-- A program that is asked through a wider interface sees only a projection of the
state. `K` is what is known of the whole state. -/
theorem relay {Request' S' : Type} {Response' : Request' → Type}
    {wide : Contract Request' Response' Failure S'} {Assume' : Assumption Request' Response' Failure S'}
    {inject : Request → Request'}
    {answered : (request : Request) → Response' (inject request) → Response request}
    {project : S' → S} {K : S' → Prop} {program : Program Request Response Failure α}
    {Post : Except Failure α → S → Prop} {log' : List (Event Request' Response' Failure)} {w : S'}
    (relies : ∀ request v w, K v → wide.Rely (inject request) v w →
      contract.Rely request (project v) (project w) ∧ K w)
    (serves : ∀ request v answer w, wide.Serve v ⟨inject request, answer⟩ w →
      contract.Serve (project v) ⟨request, answer.map (answered request)⟩ (project w))
    (guarantees : ∀ request v answer w, K v → wide.Serve v ⟨inject request, answer⟩ w →
      contract.Guarantee (project v) ⟨request, answer.map (answered request)⟩ (project w) →
      wide.Guarantee v ⟨inject request, answer⟩ w ∧ K w)
    (wp : contract.Wp (fun _ _ _ => True) program log (project w) fun outcome _ s => Post outcome s)
    (known : K w) :
    wide.Wp Assume' (program.relay inject answered) log' w fun outcome _ w =>
      Post outcome (project w) ∧ K w := by
  induction program generalizing log log' w with
  | done value => exact ⟨wp, known⟩
  | raised failure => exact ⟨wp, known⟩
  | call request resume ih =>
      intro before relied answer after served _
      obtain ⟨waited, kept⟩ := relies request w before known relied
      obtain ⟨guaranteed, rest⟩ :=
        wp (project before) waited _ (project after) (serves request before answer after served) trivial
      obtain ⟨wider, keptOn⟩ := guarantees request before answer after kept served guaranteed
      exact ⟨wider, ih _ rest keptOn⟩

/-- A precondition survives what the others may do while the program's next
request is pending. -/
theorem rely {program : Program Request Response Failure α}
    (wp : contract.Wp Assume program log s fun _ _ _ => True)
    (relied : ∀ request resume, program = .call request resume → contract.Rely request s t) :
    contract.Wp Assume program log t fun _ _ _ => True := by
  cases program with
  | done value => trivial
  | raised failure => trivial
  | call request resume =>
      intro before onwards
      exact wp before ((relied request resume rfl).trans onwards)

end Wp

/-! ### Soundness -/

/-- A step of a pool under the contract: it is as its worker assumes, and each
other worker allows it. -/
structure Permitted [DecidableEq ι] (contract : Contract Request Response Failure S)
    (Assume : ι → Assumption Request Response Failure S)
    (pool : Pool Request Response Failure α S ι) (label : ι × Event Request Response Failure)
    (next : Pool Request Response Failure α S ι) : Prop where
  step : Pool.Step contract.Serve pool label next
  assumed : Assume label.1 (pool.log label.1) pool.shared label.2
  allowed : ∀ j, j ≠ label.1 → ∀ request resume, pool.program j = .call request resume →
    contract.Allow request pool.shared next.shared

/-- Every worker of the pool satisfies its precondition. -/
def Correct (contract : Contract Request Response Failure S)
    (Assume : ι → Assumption Request Response Failure S)
    (pool : Pool Request Response Failure α S ι) : Prop :=
  ∀ i, contract.Wp (Assume i) (pool.program i) (pool.log i) pool.shared fun _ _ _ => True

/-- The parallel rule: a permitted step guarantees what the contract says, and the
workers stay correct. -/
theorem Correct.step [DecidableEq ι] {Assume : ι → Assumption Request Response Failure S}
    {pool next : Pool Request Response Failure α S ι}
    {label : ι × Event Request Response Failure} (correct : contract.Correct Assume pool)
    (permitted : contract.Permitted Assume pool label next) :
    contract.Guarantee pool.shared label.2 next.shared ∧ contract.Correct Assume next := by
  obtain ⟨resume, shared, here, served, rfl⟩ := permitted.step
  have own := correct label.1
  rw [here] at own
  obtain ⟨guaranteed, rest⟩ := own pool.shared .refl _ shared served permitted.assumed
  refine ⟨guaranteed, fun i => ?_⟩
  by_cases same : i = label.1
  · subst same
    simpa [Pool.after] using rest
  · simp only [Pool.after, Function.update_of_ne same]
    refine (correct i).rely fun request resume' pending => ?_
    exact .single ⟨⟨_, guaranteed⟩, permitted.allowed i same request resume' pending⟩

/-- The rule for one program alone: its executions end in the postcondition. -/
theorem Wp.execution {Possible : Event Request Response Failure → Prop}
    {program : Program Request Response Failure α} {outcome : Except Failure α}
    {more : List (Event Request Response Failure)}
    {Post : Except Failure α → List (Event Request Response Failure) → S → Prop}
    (wp : contract.Wp Assume program log s Post)
    (serves : ∀ log event, Possible event → contract.Serve s event s ∧ Assume log s event)
    (execution : Program.Execution Possible program more outcome) :
    Post outcome (log ++ more) s := by
  induction execution generalizing log with
  | done value =>
      rw [List.append_nil]
      exact wp
  | raised failure =>
      rw [List.append_nil]
      exact wp
  | call answer possible _ ih =>
      obtain ⟨served, assumed⟩ := serves log _ possible
      have rest := (wp s .refl answer s served assumed).2
      simpa using ih rest

end Contract

end Interaction
