import Polybot.Interaction.Program

/-!
Programs that may end early.

A stage either goes on with a value or ends its call with a result. `await`, `orEnd`,
`endIf` and `require` are its steps: a request, a program whose failures end the call,
a condition that does, and a value that may be missing. The rules say what the log of a
stage that went on is, and which requests a stage uses. `Execution.bind_cases` and
`Uses.requests` are about whole runs that may also have raised, `stage_bind_cases` is the
same for a stage, and `Halts` says that a stage ends at the first bad event.
-/

namespace Interaction

open Program

variable {Request : Type} {Response : Request → Type} {Failure ρ α β : Type}

/-- A program that goes on with a value, or ends with a result. -/
abbrev Stage (Request : Type) (Response : Request → Type) (Failure ρ α : Type) : Type :=
  ExceptT ρ (Program Request Response Failure) α

namespace Stage

/-- Ask a request, and go on with its answer. -/
def await (request : Request) : Stage Request Response Failure ρ (Response request) :=
  ExceptT.lift (ask request)

/-- Go on with what the program returns. -/
def within (program : Program Request Response Failure α) : Stage Request Response Failure ρ α :=
  ExceptT.lift program

/-- Go on with what the program returns, and end if it raises. -/
def orEnd (program : Program Request Response Failure α) (ended : Failure → ρ) :
    Stage Request Response Failure ρ α :=
  ExceptT.mk do
    match ← program.attempt with
    | .ok value => pure (.ok value)
    | .error failure => pure (.error (ended failure))

/-- End under a condition. -/
def endIf (condition : Prop) [Decidable condition] (ended : ρ) :
    Stage Request Response Failure ρ Unit :=
  if condition then throw ended else pure ()

/-- Go on with the value that was found, and end if there is none. -/
def require (found : Option α) (ended : ρ) : Stage Request Response Failure ρ α :=
  match found with
  | some value => pure value
  | none => throw ended

/-- End with the result that was found, if there is one. -/
def endWith (found : Option ρ) : Stage Request Response Failure ρ Unit :=
  match found with
  | some ended => throw ended
  | none => pure ()

/-- Return what the stage goes on with, or what it ends with. -/
def ended (stage : Stage Request Response Failure α α) : Program Request Response Failure α := do
  match ← stage.run with
  | .ok value => pure value
  | .error value => pure value

/-! ### What went on -/

section GoesOn

variable {Possible : Event Request Response Failure → Prop}
  {log : List (Event Request Response Failure)}

/-- The stage goes on with a value after these events. -/
abbrev GoesOn (Possible : Event Request Response Failure → Prop)
    (stage : Stage Request Response Failure ρ α) (log : List (Event Request Response Failure))
    (value : α) : Prop :=
  Execution Possible stage.run log (.ok (.ok value))

theorem goesOn_bind_iff {stage : Stage Request Response Failure ρ α}
    {next : α → Stage Request Response Failure ρ β} {result : β} :
    GoesOn Possible (stage >>= next) log result ↔ ∃ front back value, log = front ++ back ∧
      GoesOn Possible stage front value ∧ GoesOn Possible (next value) back result := by
  have unfolded : (stage >>= next).run = stage.run >>= fun
      | .ok value => (next value).run
      | .error ended => pure (.error ended) := by
    rw [ExceptT.run_bind]
    rfl
  rw [GoesOn, unfolded, Execution.bind_ok_iff]
  constructor
  · rintro ⟨front, back, found, split, first, rest⟩
    cases found with
    | error ended =>
        obtain ⟨-, same⟩ := Execution.done_ok_iff.mp rest
        cases same
    | ok value => exact ⟨front, back, value, split, first, rest⟩
  · rintro ⟨front, back, value, split, first, rest⟩
    exact ⟨front, back, .ok value, split, first, rest⟩

theorem goesOn_pure_iff {value result : α} :
    GoesOn Possible (pure value : Stage Request Response Failure ρ α) log result ↔
      log = [] ∧ value = result := by
  rw [GoesOn, ExceptT.run_pure]
  exact Execution.done_ok_iff.trans (and_congr_right fun _ => ⟨fun same => by cases same; rfl,
    fun same => by rw [same]⟩)

theorem goesOn_within_iff {program : Program Request Response Failure α} {value : α} :
    GoesOn Possible (within program : Stage Request Response Failure ρ α) log value ↔
      Execution Possible program log (.ok value) := by
  have unfolded : (within program : Stage Request Response Failure ρ α).run =
      program >>= fun value => pure (.ok value) := rfl
  rw [GoesOn, unfolded, Execution.bind_ok_iff]
  constructor
  · rintro ⟨front, back, found, rfl, first, rest⟩
    obtain ⟨rfl, same⟩ := Execution.done_ok_iff.mp rest
    cases same
    rwa [List.append_nil]
  · exact fun executes => ⟨log, [], value, (List.append_nil log).symm, executes, .done _⟩

theorem goesOn_await_iff {request : Request} {response : Response request} :
    GoesOn Possible (await request : Stage Request Response Failure ρ _) log response ↔
      log = [⟨request, .ok response⟩] ∧ Possible ⟨request, .ok response⟩ :=
  goesOn_within_iff.trans Execution.ask_ok_iff

theorem goesOn_orEnd_iff {program : Program Request Response Failure α} {ended : Failure → ρ}
    {value : α} :
    GoesOn Possible (orEnd program ended) log value ↔ Execution Possible program log (.ok value) := by
  rw [GoesOn, orEnd, ExceptT.run_mk, Execution.bind_ok_iff]
  constructor
  · rintro ⟨front, back, found, rfl, first, rest⟩
    cases found with
    | error failure =>
        obtain ⟨-, same⟩ := Execution.done_ok_iff.mp rest
        cases same
    | ok value' =>
        obtain ⟨rfl, same⟩ := Execution.done_ok_iff.mp rest
        cases same
        rw [List.append_nil]
        exact Execution.attempt_ok_iff.mp first
  · exact fun executes => ⟨log, [], .ok value, (List.append_nil log).symm,
      Execution.attempt_ok_iff.mpr executes, .done _⟩

theorem goesOn_endIf_iff {condition : Prop} {decidable : Decidable condition} {ended : ρ} {result : Unit} :
    GoesOn Possible (endIf condition ended : Stage Request Response Failure ρ Unit) log result ↔
      log = [] ∧ ¬ condition := by
  unfold endIf
  split
  · rename_i holds
    constructor
    · intro executes
      obtain ⟨-, same⟩ := Execution.done_ok_iff.mp executes
      cases same
    · exact fun refused => absurd holds refused.2
  · rename_i fails
    exact goesOn_pure_iff.trans (and_congr_right fun _ => ⟨fun _ => fails, fun _ => rfl⟩)

theorem goesOn_require_iff {found : Option α} {ended : ρ} {value : α} :
    GoesOn Possible (require found ended : Stage Request Response Failure ρ α) log value ↔
      log = [] ∧ found = some value := by
  cases found with
  | some value' =>
      exact goesOn_pure_iff.trans (and_congr_right fun _ => ⟨fun same => congrArg some same,
        fun same => Option.some.inj same⟩)
  | none =>
      constructor
      · intro executes
        obtain ⟨-, same⟩ := Execution.done_ok_iff.mp executes
        cases same
      · exact fun refused => nomatch refused.2

theorem goesOn_endWith_iff {found : Option ρ} {result : Unit} :
    GoesOn Possible (endWith found : Stage Request Response Failure ρ Unit) log result ↔
      log = [] ∧ found = none := by
  cases found with
  | some ended =>
      constructor
      · intro executes
        obtain ⟨-, same⟩ := Execution.done_ok_iff.mp executes
        cases same
      · exact fun refused => nomatch refused.2
  | none => exact goesOn_pure_iff.trans (and_congr_right fun _ => ⟨fun _ => rfl, fun _ => rfl⟩)

/-! The same in front of the rest of a stage. -/

variable {next : α → Stage Request Response Failure ρ β} {result : β}

@[simp] theorem goesOn_await_bind_iff {request : Request}
    {next : Response request → Stage Request Response Failure ρ β} :
    GoesOn Possible (await request >>= next) log result ↔ ∃ response back,
      log = ⟨request, .ok response⟩ :: back ∧ Possible ⟨request, .ok response⟩ ∧
        GoesOn Possible (next response) back result := by
  rw [goesOn_bind_iff]
  constructor
  · rintro ⟨front, back, response, split, first, rest⟩
    obtain ⟨rfl, possible⟩ := goesOn_await_iff.mp first
    exact ⟨response, back, split, possible, rest⟩
  · rintro ⟨response, back, split, possible, rest⟩
    exact ⟨_, back, response, split, goesOn_await_iff.mpr ⟨rfl, possible⟩, rest⟩

/-- A step without an event. -/
theorem goesOn_silent_bind_iff {stage : Stage Request Response Failure ρ α} (Holds : α → Prop)
    (silent : ∀ log value, GoesOn Possible stage log value ↔ log = [] ∧ Holds value) :
    GoesOn Possible (stage >>= next) log result ↔
      ∃ value, Holds value ∧ GoesOn Possible (next value) log result := by
  rw [goesOn_bind_iff]
  constructor
  · rintro ⟨front, back, value, split, first, rest⟩
    obtain ⟨rfl, holds⟩ := (silent front value).mp first
    exact ⟨value, holds, split ▸ rest⟩
  · rintro ⟨value, holds, rest⟩
    exact ⟨[], log, value, rfl, (silent [] value).mpr ⟨rfl, holds⟩, rest⟩

@[simp] theorem goesOn_endIf_bind_iff {condition : Prop} {decidable : Decidable condition}
    {ended : ρ} {next : Unit → Stage Request Response Failure ρ β} :
    GoesOn Possible (endIf condition ended >>= next) log result ↔
      ¬ condition ∧ GoesOn Possible (next ()) log result :=
  (goesOn_silent_bind_iff (fun _ => ¬ condition) fun _ _ => goesOn_endIf_iff).trans
    ⟨fun ⟨_, fails, rest⟩ => ⟨fails, rest⟩, fun ⟨fails, rest⟩ => ⟨(), fails, rest⟩⟩

@[simp] theorem goesOn_endWith_bind_iff {found : Option ρ}
    {next : Unit → Stage Request Response Failure ρ β} :
    GoesOn Possible (endWith found >>= next) log result ↔
      found = none ∧ GoesOn Possible (next ()) log result :=
  (goesOn_silent_bind_iff (fun _ => found = none) fun _ _ => goesOn_endWith_iff).trans
    ⟨fun ⟨_, missing, rest⟩ => ⟨missing, rest⟩, fun ⟨missing, rest⟩ => ⟨(), missing, rest⟩⟩

@[simp] theorem goesOn_require_bind_iff {found : Option α} {ended : ρ} :
    GoesOn Possible (require found ended >>= next) log result ↔
      ∃ value, found = some value ∧ GoesOn Possible (next value) log result :=
  goesOn_silent_bind_iff _ fun _ _ => goesOn_require_iff

@[simp] theorem goesOn_lift_bind_iff {computed : Except Failure α} :
    GoesOn Possible (within (lift computed) >>= next) log result ↔
      ∃ value, computed = .ok value ∧ GoesOn Possible (next value) log result :=
  goesOn_silent_bind_iff _ fun _ _ => goesOn_within_iff.trans Execution.lift_ok_iff

@[simp] theorem goesOn_orEnd_bind_iff {program : Program Request Response Failure α}
    {ended : Failure → ρ} :
    GoesOn Possible (orEnd program ended >>= next) log result ↔ ∃ front back value,
      log = front ++ back ∧ Execution Possible program front (.ok value) ∧
        GoesOn Possible (next value) back result := by
  rw [goesOn_bind_iff]
  simp only [goesOn_orEnd_iff]

end GoesOn

/-! ### What is used -/

section Uses

variable {Lawful : Request → Prop}

/-- Every request of the stage is lawful. -/
abbrev Only (Lawful : Request → Prop) (stage : Stage Request Response Failure ρ α) : Prop :=
  Program.Uses (fun _ => True) Lawful stage.run fun _ => True

theorem only_bind {stage : Stage Request Response Failure ρ α}
    {next : α → Stage Request Response Failure ρ β} (first : Only Lawful stage)
    (rest : ∀ value, Only Lawful (next value)) : Only Lawful (stage >>= next) := by
  have unfolded : (stage >>= next).run = stage.run >>= fun
      | .ok value => (next value).run
      | .error ended => pure (.error ended) := by
    rw [ExceptT.run_bind]
    rfl
  rw [Only, unfolded]
  refine first.bind fun found _ => ?_
  cases found with
  | ok value => exact rest value
  | error ended => trivial

theorem only_pure (value : α) : Only Lawful (pure value : Stage Request Response Failure ρ α) :=
  trivial

theorem only_within {program : Program Request Response Failure α}
    (uses : Program.Uses (fun _ => True) Lawful program fun _ => True) :
    Only Lawful (within program : Stage Request Response Failure ρ α) :=
  uses.bind fun _ _ => trivial

theorem only_await {request : Request} (lawful : Lawful request) :
    Only Lawful (await request : Stage Request Response Failure ρ _) :=
  only_within (.ask lawful fun _ _ => trivial)

theorem only_orEnd {program : Program Request Response Failure α} {ended : Failure → ρ}
    (uses : Program.Uses (fun _ => True) Lawful program fun _ => True) :
    Only Lawful (orEnd program ended) := by
  refine Program.Uses.bind (F := fun _ => True) (uses.attempt fun _ => trivial) fun found _ => ?_
  cases found with
  | ok value => trivial
  | error failure => trivial

theorem only_endIf {condition : Prop} {decidable : Decidable condition} {ended : ρ} :
    Only Lawful (endIf condition ended : Stage Request Response Failure ρ Unit) := by
  unfold endIf
  split
  · trivial
  · trivial

theorem only_require {found : Option α} {ended : ρ} :
    Only Lawful (require found ended : Stage Request Response Failure ρ α) := by
  cases found with
  | some value => trivial
  | none => trivial

theorem only_endWith {found : Option ρ} :
    Only Lawful (endWith found : Stage Request Response Failure ρ Unit) := by
  cases found with
  | some ended => trivial
  | none => trivial

end Uses

end Stage

/-! ### Runs that may raise -/

namespace Program

variable {Possible : Event Request Response Failure → Prop}
  {program : Program Request Response Failure α} {next : α → Program Request Response Failure β}
  {log : List (Event Request Response Failure)}

/-- A sequence has raised in its first part, or its second part has run after it. -/
theorem Execution.bind_cases {outcome : Except Failure β}
    (executes : Execution Possible (program >>= next) log outcome) :
    (∃ failure, Execution Possible program log (.error failure) ∧ outcome = .error failure) ∨
      ∃ front back value, log = front ++ back ∧ Execution Possible program front (.ok value) ∧
        Execution Possible (next value) back outcome := by
  induction program generalizing log with
  | done value => exact .inr ⟨[], log, value, rfl, .done value, executes⟩
  | raised failure =>
      cases executes
      exact .inl ⟨failure, .raised failure, rfl⟩
  | call request resume ih =>
      cases executes with
      | call answer possible rest =>
          rcases ih answer rest with ⟨failure, raises, same⟩ | ⟨front, back, value, rfl, first, second⟩
          · exact .inl ⟨failure, .call answer possible raises, same⟩
          · exact .inr ⟨_ :: front, back, value, rfl, .call answer possible first, second⟩

/-- A program whose failures are caught does not raise. -/
theorem Execution.attempt_cases {outcome : Except Failure (Except Failure α)}
    (executes : Execution Possible program.attempt log outcome) :
    ∃ caught, outcome = .ok caught ∧ Execution Possible program log caught := by
  cases outcome with
  | ok caught => exact ⟨caught, rfl, Execution.attempt_ok_iff.mp executes⟩
  | error failure =>
      exfalso
      induction program generalizing log with
      | done value => cases executes
      | raised failure' => cases executes
      | call request resume ih =>
          cases executes with
          | call answer possible rest => exact ih answer rest

/-- A program that is caught runs, and the rest follows whatever its outcome is. -/
theorem Execution.attempt_bind_cases {next : Except Failure α → Program Request Response Failure β}
    {outcome : Except Failure β}
    (executes : Execution Possible (program.attempt >>= next) log outcome) :
    ∃ front back caught, log = front ++ back ∧ Execution Possible program front caught ∧
      Execution Possible (next caught) back outcome := by
  rcases Execution.bind_cases executes with ⟨failure, raises, -⟩ | ⟨front, back, caught, rfl, first, rest⟩
  · obtain ⟨caught, same, -⟩ := Execution.attempt_cases raises
    cases same
  · exact ⟨front, back, caught, rfl, Execution.attempt_ok_iff.mp first, rest⟩

/-- The event of one request. -/
theorem Execution.ask_cases {request : Request} {outcome : Except Failure (Response request)}
    (executes : Execution Possible (ask request) log outcome) :
    log = [⟨request, outcome⟩] ∧ Possible ⟨request, outcome⟩ := by
  cases executes with
  | call answer possible rest =>
      cases answer with
      | ok response =>
          cases rest
          exact ⟨rfl, possible⟩
      | error failure =>
          cases rest
          exact ⟨rfl, possible⟩

/-- A program that is relayed runs as it does alone. -/
theorem Execution.of_relay {Request' : Type} {Response' : Request' → Type}
    {Possible' : Event Request' Response' Failure → Prop} {inject : Request → Request'}
    {answered : (request : Request) → Response' (inject request) → Response request}
    {log : List (Event Request' Response' Failure)} {outcome : Except Failure α}
    (executes : Execution Possible' (program.relay inject answered) log outcome) :
    ∃ alone, Execution (fun _ => True) program alone outcome := by
  induction program generalizing log with
  | done value =>
      cases executes
      exact ⟨[], .done value⟩
  | raised failure =>
      cases executes
      exact ⟨[], .raised failure⟩
  | call request resume ih =>
      cases executes with
      | call answer possible rest =>
          obtain ⟨alone, runs⟩ := ih _ rest
          exact ⟨_, .call _ trivial runs⟩

/-- The requests of an execution are lawful. -/
theorem Uses.requests {Lawful : Request → Prop} {Post : α → Prop} {outcome : Except Failure α}
    (uses : Uses (fun _ => True) Lawful program Post)
    (executes : Execution Possible program log outcome) : ∀ event ∈ log, Lawful event.request := by
  induction executes with
  | done value => exact fun _ => nofun
  | raised failure => exact fun _ => nofun
  | call answer possible _ ih =>
      intro event member
      rcases List.mem_cons.mp member with rfl | later
      · exact uses.1
      · exact ih (uses.2 answer trivial) event later

end Program

/-! ### Stages that halt -/

/-- Where an event of two logs is. -/
theorem append_eq_append_cons {ε : Type} {front back before after : List ε} {event : ε}
    (split : front ++ back = before ++ event :: after) :
    (∃ between, front = before ++ event :: between ∧ after = between ++ back) ∨
      ∃ between, before = front ++ between ∧ back = between ++ event :: after := by
  rcases List.append_eq_append_iff.mp split with ⟨between, rfl, tail⟩ | ⟨between, rfl, tail⟩
  · exact .inr ⟨between, rfl, tail⟩
  · cases between with
    | nil => exact .inr ⟨[], (List.append_nil _).symm ▸ (List.append_nil _).symm, tail.symm⟩
    | cons head between =>
        cases tail
        exact .inl ⟨between, rfl, rfl⟩

/-- The only bad event of a log. -/
theorem append_cons_unique {ε : Type} {Good : ε → Prop} {front back before after : List ε}
    {only event : ε} (early : ∀ good ∈ front, Good good) (late : ∀ good ∈ back, Good good)
    (bad : ¬ Good event) (split : front ++ only :: back = before ++ event :: after) :
    before = front ∧ event = only ∧ after = back := by
  rcases append_eq_append_cons split with ⟨between, rfl, -⟩ | ⟨between, rfl, tail⟩
  · exact absurd (early _ (List.mem_append_right _ List.mem_cons_self)) bad
  · cases between with
    | nil =>
        cases tail
        exact ⟨List.append_nil _, rfl, rfl⟩
    | cons head between =>
        cases tail
        exact absurd (late _ (List.mem_append_right _ List.mem_cons_self)) bad

namespace Stage

variable {Possible : Event Request Response Failure → Prop}
  {log : List (Event Request Response Failure)}

/-- A sequence of stages has raised or ended in its first part, or its second part has run
after it. -/
theorem stage_bind_cases {stage : Stage Request Response Failure ρ α}
    {next : α → Stage Request Response Failure ρ β} {outcome : Except Failure (Except ρ β)}
    (executes : Execution Possible (stage >>= next).run log outcome) :
    (∃ failure, Execution Possible stage.run log (.error failure) ∧ outcome = .error failure) ∨
      (∃ result, Execution Possible stage.run log (.ok (.error result)) ∧
        outcome = .ok (.error result)) ∨
      ∃ front back value, log = front ++ back ∧ GoesOn Possible stage front value ∧
        Execution Possible (next value).run back outcome := by
  have unfolded : (stage >>= next).run = stage.run >>= fun
      | .ok value => (next value).run
      | .error ended => pure (.error ended) := by
    rw [ExceptT.run_bind]
    rfl
  rw [unfolded] at executes
  rcases executes.bind_cases with raises | ⟨front, back, found, rfl, first, rest⟩
  · exact .inl raises
  · cases found with
    | error result =>
        cases rest
        exact .inr (.inl ⟨result, (List.append_nil front).symm ▸ first, rfl⟩)
    | ok value => exact .inr (.inr ⟨front, back, value, rfl, first, rest⟩)

theorem within_cases {program : Program Request Response Failure α}
    {outcome : Except Failure (Except ρ α)}
    (executes : Execution Possible (within program).run log outcome) :
    ∃ reached, Execution Possible program log reached ∧ outcome = reached.map .ok := by
  have unfolded : (within program : Stage Request Response Failure ρ α).run =
      program >>= fun value => pure (.ok value) := rfl
  rw [unfolded] at executes
  rcases executes.bind_cases with ⟨failure, raises, rfl⟩ | ⟨front, back, value, rfl, first, rest⟩
  · exact ⟨_, raises, rfl⟩
  · cases rest
    exact ⟨_, (List.append_nil front).symm ▸ first, rfl⟩

/-- A program whose failures end the stage does not raise. -/
theorem orEnd_cases {program : Program Request Response Failure α} {failed : Failure → ρ}
    {outcome : Except Failure (Except ρ α)}
    (executes : Execution Possible (orEnd program failed).run log outcome) :
    ∃ caught, Execution Possible program log caught ∧
      outcome = .ok (caught.mapError failed) := by
  rw [orEnd, ExceptT.run_mk] at executes
  obtain ⟨front, back, caught, rfl, first, rest⟩ := executes.attempt_bind_cases
  cases caught with
  | ok value =>
      cases rest
      exact ⟨_, (List.append_nil front).symm ▸ first, rfl⟩
  | error failure =>
      cases rest
      exact ⟨_, (List.append_nil front).symm ▸ first, rfl⟩

/-! The cases of a step in front of the rest of a stage. -/

theorem endIf_bind_cases {condition : Prop} {decidable : Decidable condition} {result : ρ}
    {next : Unit → Stage Request Response Failure ρ β} {outcome : Except Failure (Except ρ β)}
    (executes : Execution Possible (endIf condition result >>= next).run log outcome) :
    condition ∧ outcome = .ok (.error result) ∨
      ¬ condition ∧ Execution Possible (next ()).run log outcome := by
  unfold endIf at executes
  split at executes
  · rename_i holds
    cases executes
    exact .inl ⟨holds, rfl⟩
  · rename_i fails
    exact .inr ⟨fails, executes⟩

theorem require_bind_cases {found : Option α} {result : ρ}
    {next : α → Stage Request Response Failure ρ β} {outcome : Except Failure (Except ρ β)}
    (executes : Execution Possible (require found result >>= next).run log outcome) :
    found = none ∧ outcome = .ok (.error result) ∨
      ∃ value, found = some value ∧ Execution Possible (next value).run log outcome := by
  cases found with
  | none =>
      cases executes
      exact .inl ⟨rfl, rfl⟩
  | some value => exact .inr ⟨value, rfl, executes⟩

theorem orEnd_bind_cases {program : Program Request Response Failure α} {failed : Failure → ρ}
    {next : α → Stage Request Response Failure ρ β} {outcome : Except Failure (Except ρ β)}
    (executes : Execution Possible (orEnd program failed >>= next).run log outcome) :
    (∃ failure, Execution Possible program log (.error failure) ∧
        outcome = .ok (.error (failed failure))) ∨
      ∃ front back value, log = front ++ back ∧ Execution Possible program front (.ok value) ∧
        Execution Possible (next value).run back outcome := by
  rcases stage_bind_cases executes with
    ⟨failure, raises, rfl⟩ | ⟨result, ends, rfl⟩ | ⟨front, back, value, rfl, goesOn, rest⟩
  · obtain ⟨_, -, same⟩ := orEnd_cases raises
    cases same
  · obtain ⟨caught, runs, same⟩ := orEnd_cases ends
    cases caught with
    | ok value => cases same
    | error failure =>
        cases same
        exact .inl ⟨failure, runs, rfl⟩
  · exact .inr ⟨front, back, value, rfl, goesOn_orEnd_iff.mp goesOn, rest⟩

/-- A call returns what its stage goes on with or ends with, and raises what it raises. -/
theorem ended_cases {stage : Stage Request Response Failure α α} {outcome : Except Failure α}
    (executes : Execution Possible (ended stage) log outcome) :
    ∃ reached, Execution Possible stage.run log reached ∧
      ((∃ failure, reached = .error failure ∧ outcome = .error failure) ∨
        (∃ result, reached = .ok (.error result) ∧ outcome = .ok result) ∨
        ∃ result, reached = .ok (.ok result) ∧ outcome = .ok result) := by
  rcases executes.bind_cases with ⟨failure, raises, same⟩ | ⟨front, back, found, rfl, first, rest⟩
  · exact ⟨_, raises, .inl ⟨failure, rfl, same⟩⟩
  · cases found with
    | error result =>
        cases rest
        exact ⟨_, (List.append_nil front).symm ▸ first, .inr (.inl ⟨result, rfl, rfl⟩)⟩
    | ok result =>
        cases rest
        exact ⟨_, (List.append_nil front).symm ▸ first, .inr (.inr ⟨result, rfl, rfl⟩)⟩

/-- A bad event is the last one of the stage, which ends with a final result. -/
def Halts (Possible Bad : Event Request Response Failure → Prop) (Final : ρ → Prop)
    (stage : Stage Request Response Failure ρ α) : Prop :=
  ∀ log outcome, Execution Possible stage.run log outcome → ∀ before event after,
    log = before ++ event :: after → Bad event →
      after = [] ∧ ∃ result, outcome = .ok (.error result) ∧ Final result

variable {Bad : Event Request Response Failure → Prop} {Final : ρ → Prop}

theorem Halts.bind {stage : Stage Request Response Failure ρ α}
    {next : α → Stage Request Response Failure ρ β} (first : Halts Possible Bad Final stage)
    (rest : ∀ value, Halts Possible Bad Final (next value)) :
    Halts Possible Bad Final (stage >>= next) := by
  intro log outcome executes before event after split bad
  rcases stage_bind_cases executes with
    ⟨failure, raises, rfl⟩ | ⟨result, ends, rfl⟩ | ⟨front, back, value, rfl, goesOn, second⟩
  · obtain ⟨-, result, impossible, -⟩ := first _ _ raises _ _ _ split bad
    cases impossible
  · obtain ⟨last, result, same, final⟩ := first _ _ ends _ _ _ split bad
    cases same
    exact ⟨last, _, rfl, final⟩
  · rcases append_eq_append_cons split with ⟨between, rfl, rfl⟩ | ⟨between, rfl, rfl⟩
    · obtain ⟨-, result, impossible, -⟩ := first _ _ goesOn _ _ _ rfl bad
      cases impossible
    · exact rest value _ _ second _ _ _ rfl bad

/-- A stage without a bad request halts at every bad event. -/
theorem Halts.of_only {Lawful : Request → Prop} {stage : Stage Request Response Failure ρ α}
    (only : Only Lawful stage) (good : ∀ event, Bad event → ¬ Lawful event.request) :
    Halts Possible Bad Final stage := by
  rintro _ outcome executes before event after rfl bad
  refine absurd (only.requests executes event ?_) (good event bad)
  exact List.mem_append_right _ List.mem_cons_self

theorem Halts.silent {stage : Stage Request Response Failure ρ α}
    (only : Only (fun _ => False) stage) : Halts Possible Bad Final stage :=
  .of_only only fun _ _ => id

end Stage

end Interaction
