import DocWire.Connection.Exchange

/-! Laws of work that may come to a halt: what each way of putting work together does to the state
it runs on. -/

namespace DocWire

namespace Work

variable {σ α β : Type}

/-- Work goes on with the value that came out, in the state that came out. -/
@[simp] theorem bind_apply (work : ExceptT Halt (StateM σ) α)
    (next : α → ExceptT Halt (StateM σ) β) (state : σ) :
    (work >>= next) state = match work state with
      | (.ok value, state) => next value state
      | (.error halt, state) => (.error halt, state) := by
  -- The state monad hands on the pair, and only a value in it is worked on.
  show (match work state with | (result, state) => ExceptT.bindCont next result state) = _
  rcases work state with ⟨_ | value, state⟩ <;> rfl

/-- A change of the value leaves the state that came out alone. -/
@[simp] theorem map_apply (change : α → β) (work : ExceptT Halt (StateM σ) α) (state : σ) :
    (change <$> work) state = match work state with
      | (.ok value, state) => (.ok (change value), state)
      | (.error halt, state) => (.error halt, state) := by
  -- To change the value is to go on with the changed one.
  rw [← bind_pure_comp, bind_apply]
  rcases work state with ⟨_ | value, state⟩ <;> rfl

@[simp] theorem pure_apply (value : α) (state : σ) :
    (pure value : ExceptT Halt (StateM σ) α) state = (.ok value, state) := rfl

@[simp] theorem throw_apply (halt : Halt) (state : σ) :
    (throw halt : ExceptT Halt (StateM σ) α) state = (.error halt, state) := rfl

@[simp] theorem get_apply (state : σ) :
    (get : ExceptT Halt (StateM σ) σ) state = (.ok state, state) := rfl

@[simp] theorem set_apply (state other : σ) :
    (set other : ExceptT Halt (StateM σ) PUnit) state = (.ok ⟨⟩, other) := rfl

@[simp] theorem modify_apply (change : σ → σ) (state : σ) :
    (modify change : ExceptT Halt (StateM σ) PUnit) state = (.ok ⟨⟩, change state) := rfl

/-- Work that began ended, and what came of it went on. -/
theorem bind_ok {work : ExceptT Halt (StateM σ) α} {next : α → ExceptT Halt (StateM σ) β}
    {state last : σ} {value : β} (done : (work >>= next) state = (.ok value, last)) :
    ∃ first middle, work state = (.ok first, middle) ∧ next first middle = (.ok value, last) := by
  -- A halt in the first part would be the end of the whole.
  rw [bind_apply] at done
  rcases before : work state with ⟨_ | first, middle⟩
  · rw [before] at done
    cases done
  · rw [before] at done
    exact ⟨first, middle, rfl, done⟩

/-- What was worked out from a first value was worked out from some value. -/
theorem except_bind_ok {ε : Type} {first : Except ε α} {next : α → Except ε β} {value : β}
    (done : (first >>= next) = .ok value) :
    ∃ middle, first = .ok middle ∧ next middle = .ok value := by
  -- A failure would have been all that came of it.
  rcases first with failure | middle
  · cases done
  · exact ⟨middle, rfl, done⟩

/-- What a changed value came from was a value, too. -/
theorem except_map_ok {ε : Type} {result : Except ε α} {change : α → β} {value : β}
    (done : result.map change = .ok value) :
    ∃ first, result = .ok first ∧ change first = value := by
  cases result with
  | error failure => cases done
  | ok first => exact ⟨first, rfl, Except.ok.inj done⟩

/-- Where nothing failed, something came out. -/
theorem ok_of_isOk {ε : Type} {result : Except ε α} (passed : result.isOk = true) :
    ∃ value, result = .ok value := by
  cases result with
  | error => cases passed
  | ok value => exact ⟨value, rfl⟩

/-- A value that is left when failures are forgotten is what came out. -/
theorem ok_of_toOption {ε : Type} {result : Except ε α} {value : α}
    (found : result.toOption = some value) : result = .ok value := by
  cases result with
  | error => cases found
  | ok other =>
    cases found
    rfl

/-- Work that leaves a view of the state as it was, however it ends. -/
def Keeps {τ : Type} (view : σ → τ) (work : ExceptT Halt (StateM σ) α) : Prop :=
  ∀ state, view (work state).2 = view state

namespace Keeps

variable {τ : Type} {view : σ → τ}

/-- A value alone changes nothing that can be seen. -/
theorem pure (value : α) : Keeps view (Pure.pure value : ExceptT Halt (StateM σ) α) := fun _ => rfl

/-- A halt changes nothing that can be seen. -/
theorem throw (halt : Halt) : Keeps view (throw halt : ExceptT Halt (StateM σ) α) := fun _ => rfl

/-- Looking at the state changes nothing. -/
theorem get : Keeps view (get : ExceptT Halt (StateM σ) σ) := fun _ => rfl

/-- Work that keeps all of the state leaves it as it was. -/
theorem same {work : ExceptT Halt (StateM σ) α} {result : Except Halt α} {state after : σ}
    (kept : Keeps id work) (done : work state = (result, after)) : after = state := by
  -- Who sees everything sees the state itself.
  have same := kept state
  rwa [done] at same

/-- Of what is kept, every part is kept. -/
theorem part {υ : Type} {work : ExceptT Halt (StateM σ) α} (kept : Keeps view work)
    (look : τ → υ) : Keeps (fun state => look (view state)) work :=
  fun state => congrArg look (kept state)

/-- Work keeps what both its parts keep. -/
theorem bind {work : ExceptT Halt (StateM σ) α} {next : α → ExceptT Halt (StateM σ) β}
    (first : Keeps view work) (second : ∀ value, Keeps view (next value)) :
    Keeps view (work >>= next) := by
  -- Whichever part is the last to run, what came before it kept the view as well.
  intro state
  have before := first state
  rw [bind_apply]
  rcases result : work state with ⟨_ | value, middle⟩
  · rw [result] at before
    exact before
  · rw [result] at before
    exact (second value middle).trans before

end Keeps

end Work

/-- A result that is no failure of some kind. -/
def Spares {ε α : Type} (kind : ε → Bool) (result : Except ε α) : Prop :=
  ∀ cause, result = .error cause → kind cause = false

namespace Spares

variable {ε α β : Type} {kind : ε → Bool}

theorem ok (value : α) : Spares kind (.ok value : Except ε α) := by
  rintro cause ⟨⟩

theorem error {cause : ε} (spared : kind cause = false) :
    Spares kind (.error cause : Except ε α) := by
  rintro other ⟨⟩
  exact spared

/-- Steps that do not fail in this way do not do so together. -/
theorem bind {first : Except ε α} {next : α → Except ε β} (one : Spares kind first)
    (two : ∀ value, Spares kind (next value)) : Spares kind (first >>= next) := by
  -- A failure of the first step is that of the whole, and the second is asked otherwise.
  cases first with
  | error cause => exact .error (one cause rfl)
  | ok value => exact two value

/-- To change the value is no failure. -/
theorem map {result : Except ε α} (change : α → β) (one : Spares kind result) :
    Spares kind (result.map change) := by
  cases result with
  | error cause => exact .error (one cause rfl)
  | ok value => exact .ok (change value)

end Spares

end DocWire
