import DocWire.Proofs.Cursor.Fetch
import DocWire.Proofs.Executor.Stepwise

/-! Executors that close their connection: they do so however they end, and whoever drops them at
whatever moment, and change nothing else about how they end. -/

namespace DocWire

/-- How far an executor has come. -/
inductive Phase (α : Type) where
  | created
  | waiting (sending : Sending) (next : Except Halt (Option Response) → Line → Remainder α)
  | flying (sending : Sending) (ending : Ending)
    (next : Except Halt (Option Response) → Line → Remainder α)
  | ended (outcome : Except Halt α)

/-- An executor under way, which may be asked to close its connection, and the line it works on. -/
structure Execution (α : Type) where
  begin : Line → Remainder α
  closes : Bool
  line : Line
  phase : Phase α := .created

/-- What may happen while an executor is under way: it is polled for the first time, it gets hold of
the channel, its exchange ends, it is dropped, or others work on the connection meanwhile. -/
inductive Progress where
  | poll
  | proceed
  | settle
  | drop
  | others (change : Line → Line)

/-- Whether the count of those who hold the connection is left alone; executors leave it alone, but
others may not. -/
def Progress.Uncounted : Progress → Prop
  | others change => ∀ line, (change line).connection.references = line.connection.references
  | _ => True

namespace Execution

variable {α : Type} (execution : Execution α)

/-- The end, at which the connection is closed if that was asked for. -/
def conclude (outcome : Except Halt α) (line : Line) : Execution α :=
  { execution with line := line.afterwards execution.closes, phase := .ended outcome }

/-- Goes on with what is left to do. -/
def follow : Remainder α → Execution α
  | .ends outcome line => execution.conclude outcome line
  | .waits sending line next => { execution with line, phase := .waiting sending next }

/-- What one thing that happens comes to; what cannot happen changes nothing, and what is over stays
so. -/
def perform : Progress → Execution α
  | .poll =>
    match execution.phase with
    | .created => execution.follow (execution.begin execution.line)
    | _ => execution
  | .proceed =>
    match execution.phase, execution.line.connection.channel with
    | .waiting sending next, some channel =>
      let (line, ending) := execution.line.start sending channel
      { execution with line, phase := .flying sending ending next }
    | .waiting _ next, none =>
      let lost := .ofCause (.closed execution.line.connection.id)
      execution.follow (next (.error lost) execution.line)
    | _, _ => execution
  | .settle =>
    match execution.phase with
    | .flying sending ending next =>
      let (result, line) := execution.line.settle sending ending
      execution.follow (next result line)
    | _ => execution
  | .drop =>
    match execution.phase with
    | .ended _ => execution
    -- Nobody waits for the response any more.
    | .flying .. => execution.conclude (.error .dropped) execution.line.abandon
    | _ => execution.conclude (.error .dropped) execution.line
  | .others change =>
    match execution.phase with
    | .ended _ => execution
    | _ => { execution with line := change execution.line }

/-- What many things that happen come to. -/
def run (steps : List Progress) : Execution α := steps.foldl perform execution

/-- An executor that nobody has polled. -/
def ofExecutor (executor : Executor α) (closes : Bool) (line : Line) : Execution α :=
  { begin := executor.stepwise.begin, closes, line }

/-- What is left to do leaves the connection alone, except when it has its turn. -/
def Quiet : Prop :=
  match execution.phase with
  | .created => ∀ line, (execution.begin line).Quiet line
  | .waiting _ next | .flying _ _ next => ∀ result line, (next result line).Quiet line
  | .ended _ => True

/-- At the end, the references to the connection are what they were. -/
theorem references_conclude (outcome : Except Halt α) (line : Line) :
    (execution.conclude outcome line).line.connection.references = line.connection.references := by
  unfold conclude Line.afterwards
  split
  · exact congrArg Line.Lasting.references (line.lasting_close .asked)
  · rfl

variable {execution}

/-- To go on with what is left leaves the references alone, up to the next turn. -/
theorem follow_quiet {rest : Remainder α} {before : Line} (quiet : rest.Quiet before) :
    (execution.follow rest).Quiet ∧
      (execution.follow rest).line.connection.references = before.connection.references := by
  cases rest with
  | ends outcome line =>
    -- The end may close the connection, but nobody lets go of it.
    refine ⟨trivial, (execution.references_conclude outcome line).trans ?_⟩
    exact congrArg (·.1.references) quiet
  | waits sending line next => exact ⟨quiet.2, congrArg (·.1.references) quiet.1⟩

/-- An executor that was just made leaves the connection alone until its turn. -/
theorem quiet_ofExecutor (executor : Executor α) (closes : Bool) (line : Line) :
    (ofExecutor executor closes line).Quiet := executor.stepwise.quiet

/-- Whatever happens, what is left to do stays quiet between its turns, and nobody but others
changes the references. -/
theorem perform_quiet (quiet : execution.Quiet) (step : Progress) :
    (execution.perform step).Quiet ∧ (step.Uncounted →
      (execution.perform step).line.connection.references
        = execution.line.connection.references) := by
  obtain ⟨begin, closes, line, phase⟩ := execution
  -- In every phase there is one step that leads on; the others change nothing.
  cases phase with
  | created =>
    cases step with
    | poll =>
      obtain ⟨rests, kept⟩ := follow_quiet (quiet line)
      exact ⟨rests, fun _ => kept⟩
    | proceed => exact ⟨quiet, fun _ => rfl⟩
    | settle => exact ⟨quiet, fun _ => rfl⟩
    | drop => exact ⟨trivial, fun _ => references_conclude _ _ _⟩
    | others change => exact ⟨quiet, fun uncounted => uncounted line⟩
  | waiting sending next =>
    cases step with
    | poll => exact ⟨quiet, fun _ => rfl⟩
    | proceed =>
      simp only [perform]
      cases line.connection.channel with
      | none =>
        obtain ⟨rests, kept⟩ := follow_quiet (quiet (.error (.ofCause (.closed _))) line)
        exact ⟨rests, fun _ => kept⟩
      | some channel =>
        have same := line.lasting_start sending channel
        exact ⟨quiet, fun _ => congrArg Line.Lasting.references same⟩
    | settle => exact ⟨quiet, fun _ => rfl⟩
    | drop => exact ⟨trivial, fun _ => references_conclude _ _ _⟩
    | others change => exact ⟨quiet, fun uncounted => uncounted line⟩
  | flying sending ending next =>
    cases step with
    | poll => exact ⟨quiet, fun _ => rfl⟩
    | proceed => exact ⟨quiet, fun _ => rfl⟩
    | settle =>
      have same := congrArg Line.Lasting.references (line.lasting_settle sending ending)
      obtain ⟨rests, kept⟩ := follow_quiet (quiet (line.settle sending ending).1 _)
      exact ⟨rests, fun _ => kept.trans same⟩
    | drop =>
      have same := congrArg Line.Lasting.references line.lasting_abandon
      exact ⟨trivial, fun _ => (references_conclude _ _ _).trans same⟩
    | others change => exact ⟨quiet, fun uncounted => uncounted line⟩
  | ended outcome => cases step <;> exact ⟨trivial, fun _ => rfl⟩

/-- As long as others leave the references alone, they are what they were, however far the executor
has come. -/
theorem references_run (quiet : execution.Quiet) {steps : List Progress}
    (uncounted : ∀ step ∈ steps, step.Uncounted) :
    (execution.run steps).line.connection.references = execution.line.connection.references := by
  induction steps generalizing execution with
  | nil => rfl
  | cons step rest ih =>
    obtain ⟨rests, kept⟩ := perform_quiet quiet step
    exact (ih rests fun later member => uncounted later (List.mem_cons_of_mem _ member)).trans
      (kept (uncounted step (List.mem_cons_self ..)))

/-- An executor that closes its connection, beside the same one that does not: up to the end nothing
tells them apart, and at the end the one connection is closed in addition. -/
inductive Beside : Execution α → Execution α → Prop where
  | under {begin : Line → Remainder α} {line : Line} {phase : Phase α}
    (unended : ∀ outcome, phase ≠ .ended outcome) :
    Beside ⟨begin, true, line, phase⟩ ⟨begin, false, line, phase⟩
  | closed {begin : Line → Remainder α} {line : Line} {outcome : Except Halt α} :
    Beside ⟨begin, true, line.close .asked, .ended outcome⟩ ⟨begin, false, line, .ended outcome⟩

/-- To go on with the same leaves the two side by side. -/
theorem Beside.follow {begin : Line → Remainder α} {line : Line} {phase : Phase α}
    (rest : Remainder α) :
    Beside ((⟨begin, true, line, phase⟩ : Execution α).follow rest)
      ((⟨begin, false, line, phase⟩ : Execution α).follow rest) := by
  cases rest with
  | ends outcome after => exact .closed
  | waits sending after next => exact .under fun _ ended => (by cases ended)

/-- Whatever happens to both of them leaves the two side by side. -/
theorem Beside.perform {closing plain : Execution α} (beside : Beside closing plain)
    (step : Progress) : Beside (closing.perform step) (plain.perform step) := by
  cases beside with
  | closed => cases step <;> exact .closed
  | @under begin line phase unended =>
    cases phase with
    | ended outcome => exact absurd rfl (unended outcome)
    | created =>
      cases step with
      | poll => exact .follow _
      | drop => exact .closed
      | _ => exact .under unended
    | waiting sending next =>
      cases step with
      | proceed =>
        -- Both find the channel, or neither of them does.
        simp only [Execution.perform]
        cases line.connection.channel with
        | none => exact .follow _
        | some channel => exact .under fun _ ended => (by cases ended)
      | drop => exact .closed
      | _ => exact .under unended
    | flying sending ending next =>
      cases step with
      | settle => exact .follow _
      | drop => exact .closed
      | _ => exact .under unended

theorem Beside.run {closing plain : Execution α} (beside : Beside closing plain)
    (steps : List Progress) : Beside (closing.run steps) (plain.run steps) := by
  induction steps generalizing closing plain with
  | nil => exact beside
  | cons step rest ih => exact ih (beside.perform step)

/-- Of the two, neither is further than the other. -/
theorem Beside.phase_eq {closing plain : Execution α} (beside : Beside closing plain) :
    closing.phase = plain.phase := by
  cases beside <;> rfl

/-- At the end, the two differ by the closing alone. -/
theorem Beside.line_eq {closing plain : Execution α} (beside : Beside closing plain)
    {outcome : Except Halt α} (ended : closing.phase = .ended outcome) :
    closing.line = plain.line.close .asked := by
  cases beside with
  | under unended => exact absurd ended (unended outcome)
  | closed => rfl

/-- What is left to do comes to its end when nobody disturbs it. -/
theorem exists_run_follow (execution : Execution α) (rest : Remainder α) :
    ∃ steps, (execution.follow rest).run steps
      = execution.conclude rest.finish.1 rest.finish.2 := by
  induction rest generalizing execution with
  | ends outcome line => exact ⟨[], rfl⟩
  | waits sending line next ih =>
    obtain ⟨steps, ends⟩ := ih (carryOut sending line).1 (carryOut sending line).2
      (execution.follow (.waits sending line next))
    cases found : line.connection.channel with
    | none =>
      -- The turn is over as soon as no channel is found.
      refine ⟨.proceed :: steps, Eq.trans ?_ ends⟩
      rw [carryOut_none found]
      simp only [run, List.foldl_cons, perform, follow, found]
    | some channel =>
      refine ⟨.proceed :: .settle :: steps, Eq.trans ?_ ends⟩
      rw [carryOut_some found]
      simp only [run, List.foldl_cons, perform, follow, found, conclude]

end Execution

/-- An executor that is to close its connection, be it polled or not, disturbed by others or dropped
at any moment, comes as far as the same executor that is not to close it, and to the same outcome.
When it has ended, the connection is what the other has left, closed; and as long as others leave
the references to the connection alone, they are what they were. Undisturbed, it ends as the
executor run with the closing after it. -/
theorem Executor.closed_of_ended {α : Type} (executor : Executor α) (line : Line)
    (steps : List Progress) :
    let closing := (Execution.ofExecutor executor true line).run steps
    let plain := (Execution.ofExecutor executor false line).run steps
    closing.phase = plain.phase ∧
    (∀ outcome, closing.phase = .ended outcome →
      closing.line = plain.line.close .asked ∧ closing.line.connection.closed = true) ∧
    ((∀ step ∈ steps, step.Uncounted) →
      closing.line.connection.references = line.connection.references) ∧
    ∀ closes, ∃ alone, let ended := closingAfter closes executor.run line
      ((Execution.ofExecutor executor closes line).run alone).phase = .ended ended.1 ∧
      ((Execution.ofExecutor executor closes line).run alone).line = ended.2 := by
  intro closing plain
  have beside : Execution.Beside closing plain :=
    Execution.Beside.run (.under fun _ ended => (by cases ended)) steps
  refine ⟨beside.phase_eq, fun outcome ended => ?_, fun uncounted => ?_, fun closes => ?_⟩
  · have same := beside.line_eq ended
    exact ⟨same, by rw [same, Line.closed_close]⟩
  · exact Execution.references_run (Execution.quiet_ofExecutor executor true line) uncounted
  · -- The first poll begins the work, and from there on it is followed to its end.
    obtain ⟨steps, ends⟩ := (Execution.ofExecutor executor closes line).exists_run_follow
      (executor.stepwise.begin line)
    refine ⟨.poll :: steps, ?_⟩
    have polled : (Execution.ofExecutor executor closes line).run (.poll :: steps)
        = (Execution.ofExecutor executor closes line).conclude (executor.run line).1
          (executor.run line).2 := by
      rw [← executor.stepwise.finish line, ← ends]
      rfl
    rw [polled]
    exact ⟨rfl, rfl⟩

end DocWire
