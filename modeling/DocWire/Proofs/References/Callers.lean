import DocWire.References

/-! A count that any number of callers share. To take a reference, or to see whether any is held, is
one step, which nobody comes between. To give a reference up takes two: the count goes down, and
whoever brought it to zero claims the teardown. In between, others may do as they like. -/

namespace DocWire

namespace References

/-- What a caller asks of a count. -/
inductive Call where
  | retain
  | release
  | ensureLive
deriving DecidableEq, Repr

/-- What a caller is told: how many references there are with the new one, whether the teardown is
to be run, or merely that a reference is held. -/
inductive Answer where
  | retained (result : Except LifecycleFault Nat)
  | released (result : Except LifecycleFault Bool)
  | live (result : Except LifecycleFault Unit)
deriving Repr

/-- A count with the callers that have yet to claim its teardown, and what all the others were told.
-/
structure Shared where
  refs : References := {}
  claiming : List Nat := []
  answers : List (Nat × Answer) := []

/-- What a caller is told when nobody holds a reference any more. -/
def refusal (what : Counted) : Nat × Call → Nat × Answer
  | (caller, .retain) => (caller, .retained (.error (.retainedAfterRelease what)))
  | (caller, .release) => (caller, .released (.error (.releasedTooOften what)))
  | (caller, .ensureLive) => (caller, .live (.error (.usedAfterRelease what)))

/-- What the callers are told after the last reference was given up: the one who gave it up is told
to run the teardown, the next time that it moves, and all the others come too late. -/
def aftermath (what : Counted) (last : Nat) : List (Nat × Call) → List (Nat × Answer)
  | [] => []
  | step :: later =>
    if step.1 = last then (last, .released (.ok true)) :: later.map (refusal what)
    else refusal what step :: aftermath what last later

namespace Answer

/-- Whether a reference was taken. -/
def hasRetained : Answer → Bool
  | retained (.ok _) => true
  | _ => false

/-- Whether a reference was given up. -/
def hasReleased : Answer → Bool
  | released (.ok _) => true
  | _ => false

/-- Whether the teardown is to be run. -/
def tearsDown : Answer → Bool
  | released (.ok true) => true
  | _ => false

end Answer

namespace Shared

/-- A caller is told something. -/
def tell (shared : Shared) (caller : Nat) (answer : Answer) : Shared :=
  { shared with answers := shared.answers ++ [(caller, answer)] }

/-- One step of a caller: the second half of a release that it has begun, or else what it asks. -/
def advance (what : Counted) (shared : Shared) (step : Nat × Call) : Shared :=
  let (caller, call) := step
  if caller ∈ shared.claiming then
    let (torn, refs) := shared.refs.claim
    { shared with refs, claiming := shared.claiming.erase caller }.tell caller
      (.released (.ok torn))
  else
    match call with
    | .ensureLive => shared.tell caller (.live (shared.refs.ensureLive what))
    | .retain =>
      match shared.refs.retain what with
      | .error fault => shared.tell caller (.retained (.error fault))
      | .ok refs => { shared with refs }.tell caller (.retained (.ok refs.count))
    | .release =>
      match shared.refs.decrement what with
      | .error fault => shared.tell caller (.released (.error fault))
      | .ok (false, refs) => { shared with refs }.tell caller (.released (.ok false))
      -- Only the first half is done, and the caller has not been told anything yet.
      | .ok (true, refs) => { shared with refs, claiming := caller :: shared.claiming }

/-- What the steps of the callers come to, in their order. -/
def run (what : Counted) (steps : List (Nat × Call)) : Shared := steps.foldl (advance what) {}

variable (shared : Shared)

/-- How often a reference was taken. -/
def retains : Nat := shared.answers.countP (·.2.hasRetained)

/-- How often a reference was given up, also by those that have yet to claim the teardown. -/
def releases : Nat := shared.answers.countP (·.2.hasReleased) + shared.claiming.length

/-- Who was told to run the teardown. -/
def teardowns : List Nat := (shared.answers.filter (·.2.tearsDown)).map (·.1)

variable (caller : Nat) (answer : Answer)

theorem retains_tell :
    (shared.tell caller answer).retains
      = shared.retains + if answer.hasRetained then 1 else 0 := by
  rw [retains, tell, List.countP_append, List.countP_singleton, retains]

theorem releases_tell :
    (shared.tell caller answer).releases
      = shared.releases + if answer.hasReleased then 1 else 0 := by
  simp only [releases, tell, List.countP_append, List.countP_singleton]
  omega

theorem teardowns_tell :
    (shared.tell caller answer).teardowns
      = shared.teardowns ++ if answer.tearsDown then [caller] else [] := by
  rw [teardowns, tell, List.filter_append, List.map_append, teardowns]
  cases torn : answer.tearsDown <;> simp [torn]

/-- Any other answer has nobody run the teardown. -/
theorem teardowns_tell_other (other : answer.tearsDown = false) :
    (shared.tell caller answer).teardowns = shared.teardowns := by
  rw [teardowns_tell, if_neg (Bool.eq_false_iff.mp other), List.append_nil]

end Shared

/-- What a step can do: it claims the teardown for a release that was begun, comes too late, takes a
reference, sees that one is held, or gives one up, which may be the last. -/
inductive Advances (what : Counted) (shared : Shared) : Nat × Call → Shared → Prop where
  | claim {caller : Nat} {call : Call} (begun : caller ∈ shared.claiming) :
    Advances what shared (caller, call)
      ({ shared with
        refs := { shared.refs with tornDown := true }
        claiming := shared.claiming.erase caller }.tell caller
          (.released (.ok !shared.refs.tornDown)))
  | late {step : Nat × Call} (idle : step.1 ∉ shared.claiming) (gone : shared.refs.count = 0) :
    Advances what shared step { shared with answers := shared.answers ++ [refusal what step] }
  | retain {caller : Nat} (idle : caller ∉ shared.claiming) (held : 0 < shared.refs.count) :
    Advances what shared (caller, .retain)
      ({ shared with refs := { shared.refs with count := shared.refs.count + 1 } }.tell caller
        (.retained (.ok (shared.refs.count + 1))))
  | look {caller : Nat} (idle : caller ∉ shared.claiming) (held : 0 < shared.refs.count) :
    Advances what shared (caller, .ensureLive) (shared.tell caller (.live (.ok ())))
  | give {caller : Nat} (idle : caller ∉ shared.claiming) (several : 1 < shared.refs.count) :
    Advances what shared (caller, .release)
      ({ shared with refs := { shared.refs with count := shared.refs.count - 1 } }.tell caller
        (.released (.ok false)))
  | last {caller : Nat} (idle : caller ∉ shared.claiming) (single : shared.refs.count = 1) :
    Advances what shared (caller, .release)
      { shared with
        refs := { shared.refs with count := 0 }
        claiming := caller :: shared.claiming }

namespace Shared

variable {shared : Shared} {what : Counted} {caller last : Nat} {call : Call}

/-- Who comes when nobody holds a reference any more, and has no claim to make, is refused. -/
theorem advance_late {step : Nat × Call} (idle : step.1 ∉ shared.claiming)
    (gone : shared.refs.count = 0) :
    shared.advance what step
      = { shared with answers := shared.answers ++ [refusal what step] } := by
  obtain ⟨caller, call⟩ := step
  simp only [advance, if_neg idle]
  cases call <;>
    simp only [ensureLive, isReleased, retain, decrement, gone, beq_self_eq_true, if_true] <;> rfl

/-- A step does one of these things. -/
theorem advances (what : Counted) (shared : Shared) (step : Nat × Call) :
    Advances what shared step (shared.advance what step) := by
  obtain ⟨caller, call⟩ := step
  -- A teardown that was begun comes before whatever the caller asks for.
  by_cases begun : caller ∈ shared.claiming
  · simp only [advance, if_pos begun, claim]
    exact .claim begun
  · by_cases gone : shared.refs.count = 0
    · rw [advance_late begun gone]
      exact .late begun gone
    · have held : 0 < shared.refs.count := Nat.pos_of_ne_zero gone
      simp only [advance, if_neg begun]
      cases call with
      | retain =>
        simp only [retain, if_neg gone]
        exact .retain begun held
      | ensureLive =>
        simp only [ensureLive, isReleased, beq_iff_eq, if_neg gone]
        exact .look begun held
      | release =>
        simp only [decrement, if_neg gone]
        -- Whether it is the last reference decides if the release has a second half.
        by_cases single : shared.refs.count = 1
        · simp only [single]
          exact .last begun single
        · have several : 1 < shared.refs.count := by omega
          rw [beq_false_of_ne single]
          exact .give begun several

theorem run_append (what : Counted) (before after : List (Nat × Call)) :
    run what (before ++ after) = after.foldl (advance what) (run what before) := List.foldl_append

/-- The steps of a release that nobody comes between: the second one is made by whoever has given up
the last reference, and whatever it asks for then. -/
def releasing (what : Counted) (shared : Shared) (caller : Nat) (call : Call) : Shared :=
  let first := shared.advance what (caller, .release)
  if caller ∈ first.claiming then first.advance what (caller, call) else first

/-- A release that nobody comes between is a whole release. -/
theorem releasing_eq (idle : caller ∉ shared.claiming) :
    shared.releasing what caller call
      = match shared.refs.release what with
        | .error fault => shared.tell caller (.released (.error fault))
        | .ok (torn, refs) => { shared with refs }.tell caller (.released (.ok torn)) := by
  have first : shared.advance what (caller, .release) = _ := if_neg idle
  rw [releasing, first, References.release]
  rcases shared.refs.decrement what with fault | ⟨_ | _, refs⟩
  · exact if_neg idle
  · exact if_neg idle
  · -- The caller has given up the last reference, and claims the teardown by its next step.
    dsimp only
    rw [if_pos (List.mem_cons_self ..)]
    simp [advance, tell, bind, Except.bind, pure, Except.pure]

/-- A refusal neither takes a reference nor gives one up, and it has nobody run the teardown. -/
theorem refusal_idle (what : Counted) (step : Nat × Call) :
    (refusal what step).2.hasRetained = false ∧ (refusal what step).2.hasReleased = false ∧
      (refusal what step).2.tearsDown = false := by
  obtain ⟨caller, call⟩ := step
  cases call <;> exact ⟨rfl, rfl, rfl⟩

/-- There are as many references as the creator's and those that were taken, less those that were
given up. -/
def Balanced (shared : Shared) : Prop := shared.refs.count + shared.releases = 1 + shared.retains

/-- Whatever a caller does, the references stay balanced. -/
theorem Balanced.advance (what : Counted) (balanced : shared.Balanced) (step : Nat × Call) :
    (shared.advance what step).Balanced := by
  have step := Shared.advances what shared step
  generalize Shared.advance what shared _ = after at step
  rw [Balanced] at balanced ⊢
  cases step with
  | claim begun =>
    -- The release is counted among the answers from now on, and before it was still under way.
    have one := List.length_erase_of_mem begun
    have some := List.length_pos_of_mem begun
    rw [retains_tell, releases_tell]
    show shared.refs.count + (shared.answers.countP (·.2.hasReleased)
      + (shared.claiming.erase _).length + 1) = 1 + (shared.retains + 0)
    rw [releases] at balanced
    omega
  | @late step idle gone =>
    obtain ⟨retained, released, -⟩ := refusal_idle what step
    have taken := shared.retains_tell (refusal what step).1 (refusal what step).2
    have given := shared.releases_tell (refusal what step).1 (refusal what step).2
    rw [retained] at taken
    rw [released] at given
    exact (congrArg (shared.refs.count + ·) given).trans
      (balanced.trans (congrArg (1 + ·) taken.symm))
  | retain idle held =>
    rw [retains_tell, releases_tell]
    show shared.refs.count + 1 + (shared.releases + 0) = 1 + (shared.retains + 1)
    omega
  | look idle held =>
    rw [retains_tell, releases_tell]
    exact balanced
  | give idle several =>
    rw [retains_tell, releases_tell]
    show shared.refs.count - 1 + (shared.releases + 1) = 1 + (shared.retains + 0)
    omega
  | last idle single =>
    -- The release counts as made although nobody was told yet.
    show 0 + (shared.releases + 1) = 1 + shared.retains
    omega

theorem balanced_run (what : Counted) (steps : List (Nat × Call)) : (run what steps).Balanced := by
  suffices every : ∀ shared : Shared, shared.Balanced →
      (steps.foldl (Shared.advance what) shared).Balanced from every {} rfl
  induction steps with
  | nil => exact fun _ balanced => balanced
  | cons step steps ih => exact fun _ balanced => ih _ (balanced.advance what step)

/-- What holds as long as references are held: the teardown is not claimed, and nobody was told to
run it. -/
structure Held (shared : Shared) : Prop where
  positive : 0 < shared.refs.count
  latched : shared.refs.tornDown = false
  claiming : shared.claiming = []
  teardowns : shared.teardowns = []

/-- As long as references are held, a step leaves some, or it gives up the last one and has yet to
claim the teardown. -/
theorem Held.advance (what : Counted) (held : shared.Held) (step : Nat × Call) :
    (shared.advance what step).Held ∨ step.2 = .release ∧ shared.refs.count = 1 ∧
      shared.advance what step = ⟨⟨0, false⟩, [step.1], shared.answers⟩ := by
  obtain ⟨⟨count, tornDown⟩, waiting, answers⟩ := shared
  obtain ⟨positive, latched, claiming, teardowns⟩ := held
  cases latched
  cases claiming
  have step := Shared.advances what ⟨⟨count, false⟩, [], answers⟩ step
  generalize Shared.advance what _ _ = after at step
  cases step with
  -- Nobody claims a teardown or comes too late while references are held.
  | claim begun => cases begun
  | late idle gone => exact absurd gone (Nat.ne_of_gt positive)
  | retain idle held =>
    exact .inl ⟨Nat.succ_pos _, rfl, rfl, (teardowns_tell_other _ _ _ rfl).trans teardowns⟩
  | look idle held =>
    exact .inl ⟨held, rfl, rfl, (teardowns_tell_other _ _ _ rfl).trans teardowns⟩
  | give idle several =>
    exact .inl ⟨Nat.sub_pos_of_lt several, rfl, rfl,
      (teardowns_tell_other _ _ _ rfl).trans teardowns⟩
  | last idle single => exact .inr ⟨rfl, single, rfl⟩

/-- Along a run, references are held all the time, or there is a step that gives up the last one. -/
theorem Held.run (what : Counted) (steps : List (Nat × Call)) (held : shared.Held) :
    (∀ earlier, earlier <+: steps → (earlier.foldl (Shared.advance what) shared).Held) ∨
      ∃ before last after, steps = before ++ (last, .release) :: after ∧
        (∀ earlier, earlier <+: before → (earlier.foldl (Shared.advance what) shared).Held) ∧
        (before.foldl (Shared.advance what) shared).refs.count = 1 ∧
        (before ++ [(last, Call.release)]).foldl (Shared.advance what) shared
          = ⟨⟨0, false⟩, [last], (before.foldl (Shared.advance what) shared).answers⟩ := by
  induction steps generalizing shared with
  | nil =>
    refine .inl fun earlier front => ?_
    rw [List.prefix_nil.mp front]
    exact held
  | cons step steps ih =>
    have extend : ∀ {later : List (Nat × Call)},
        (∀ earlier, earlier <+: later →
          (earlier.foldl (Shared.advance what) (shared.advance what step)).Held) →
        ∀ earlier, earlier <+: step :: later →
          (earlier.foldl (Shared.advance what) shared).Held := by
      intro later every earlier front
      obtain rfl | ⟨rest, rfl, within⟩ := List.prefix_cons_iff.mp front
      · exact held
      · exact every rest within
    -- Whether this step gives up the last reference decides.
    rcases held.advance what step with stays | ⟨release, single, ends⟩
    · rcases ih stays with every | ⟨before, last, after, rfl, every, rest⟩
      · exact .inl (extend every)
      · exact .inr ⟨step :: before, last, after, rfl, extend every, rest⟩
    · obtain ⟨caller, call⟩ := step
      cases release
      refine .inr ⟨[], caller, steps, rfl, fun earlier front => ?_, single, ends⟩
      rw [List.prefix_nil.mp front]
      exact held

/-- Once nobody holds a reference and the teardown was claimed, every caller is refused, and nothing
changes. -/
theorem foldl_late (steps : List (Nat × Call)) (tornDown : Bool) (answers : List (Nat × Answer)) :
    steps.foldl (Shared.advance what) ⟨⟨0, tornDown⟩, [], answers⟩
      = ⟨⟨0, tornDown⟩, [], answers ++ steps.map (refusal what)⟩ := by
  induction steps generalizing answers with
  | nil => simp
  | cons step steps ih =>
    rw [List.foldl_cons, advance_late List.not_mem_nil rfl, ih, List.map_cons,
      List.append_assoc, List.singleton_append]

/-- Once the last reference was given up, the one who did so claims the teardown by its next step,
and every other caller is refused. -/
theorem foldl_last (last : Nat) (steps : List (Nat × Call)) (answers : List (Nat × Answer)) :
    steps.foldl (Shared.advance what) ⟨⟨0, false⟩, [last], answers⟩
      = ⟨⟨0, decide (last ∈ steps.map (·.1))⟩, if last ∈ steps.map (·.1) then [] else [last],
          answers ++ aftermath what last steps⟩ := by
  induction steps generalizing answers with
  | nil => simp [aftermath]
  | cons step steps ih =>
    rw [List.foldl_cons, aftermath]
    by_cases own : step.1 = last
    · -- Whatever it asks for, it first claims the teardown that it has begun.
      obtain ⟨caller, call⟩ := step
      obtain rfl : caller = last := own
      simp [advance, claim, tell, foldl_late]
    · have idle : step.1 ∉ [last] := fun own' => own (List.mem_singleton.mp own')
      have other : last ≠ step.1 := fun own' => own own'.symm
      rw [advance_late idle rfl, ih]
      simp only [List.map_cons, List.mem_cons, other, false_or, own, if_false, List.append_assoc,
        List.singleton_append]

/-- After the last reference was given up, only the one who gave it up is told to run the teardown,
and only once. -/
theorem teardowns_aftermath (what : Counted) (last : Nat) (steps : List (Nat × Call)) :
    ((aftermath what last steps).filter (·.2.tearsDown)).map (·.1)
      = if last ∈ steps.map (·.1) then [last] else [] := by
  have silent (step : Nat × Call) : (refusal what step).2.tearsDown = false :=
    (refusal_idle what step).2.2
  induction steps with
  | nil => rfl
  | cons step steps ih =>
    rw [aftermath]
    by_cases own : step.1 = last
    · -- After it everybody is refused, and a refusal has nobody run the teardown.
      have nobody : (steps.map (refusal what)).filter (·.2.tearsDown) = [] := by
        rw [List.filter_map, List.filter_eq_nil_iff.mpr (by simp [silent]), List.map_nil]
      rw [if_pos own, List.filter_cons_of_pos rfl, nobody, if_pos (by simp [own]), List.map_cons,
        List.map_nil]
    · have other : last ≠ step.1 := fun own' => own own'.symm
      rw [if_neg own, List.filter_cons, if_neg (Bool.eq_false_iff.mp (silent step)), ih]
      simp only [List.map_cons, List.mem_cons, other, false_or]

/-- However the steps of any number of callers follow one another: there are as many references as
the creator's and those that were taken, less those that were given up. Until a step gives up the
last one, some are held and nobody claims the teardown; from that step on there is none, the caller
who made it is told to run the teardown by its next step, and everything else is refused and changes
nothing. The two steps of a release that nobody comes between are a whole release. -/
theorem counts_of_calls (what : Counted) (steps : List (Nat × Call)) :
    ((run what steps).refs.count : Int)
        = 1 + (run what steps).retains - (run what steps).releases ∧
      (∀ caller call, caller ∉ (run what steps).claiming →
        (run what steps).releasing what caller call
          = match (run what steps).refs.release what with
            | .error fault => (run what steps).tell caller (.released (.error fault))
            | .ok (torn, refs) =>
              { run what steps with refs }.tell caller (.released (.ok torn))) ∧
      ((∀ earlier, earlier <+: steps → (run what earlier).Held) ∨
        ∃ before last after, steps = before ++ (last, .release) :: after ∧
          (∀ earlier, earlier <+: before → (run what earlier).Held) ∧
          (run what before).refs.count = 1 ∧
          (run what (before ++ [(last, .release)])).refs = ⟨0, false⟩ ∧
          (run what steps).refs = ⟨0, decide (last ∈ after.map (·.1))⟩ ∧
          (run what steps).answers = (run what before).answers ++ aftermath what last after ∧
          (run what steps).teardowns = if last ∈ after.map (·.1) then [last] else []) := by
  refine ⟨?_, fun caller call => releasing_eq, ?_⟩
  · have balanced := balanced_run what steps
    rw [Balanced] at balanced
    omega
  · have fresh : Held {} := ⟨Nat.one_pos, rfl, rfl, rfl⟩
    rcases fresh.run what steps with every | ⟨before, last, after, cut, every, single, ends⟩
    · exact .inl every
    · -- The run is what came before the last release, that release, and its aftermath.
      have whole : run what steps = ⟨⟨0, decide (last ∈ after.map (·.1))⟩,
          if last ∈ after.map (·.1) then [] else [last],
          (run what before).answers ++ aftermath what last after⟩ := by
        rw [cut, ← List.singleton_append, ← List.append_assoc, run_append, run, ends, foldl_last,
          run]
      refine .inr ⟨before, last, after, cut, every, single, congrArg (·.refs) ends, ?_, ?_, ?_⟩
      · rw [whole]
      · rw [whole]
      · have nobody := (every before (List.prefix_refl before)).teardowns
        rw [whole, teardowns, List.filter_append, List.map_append, teardowns_aftermath]
        exact (congrArg (· ++ _) nobody).trans (List.nil_append _)

/-- Between the two halves of the last release, somebody else comes too late. -/
example : (run .binding [(1, .retain), (2, .release), (1, .release), (3, .retain),
    (1, .ensureLive)]).teardowns = [1] := by decide

end Shared

end References

end DocWire
