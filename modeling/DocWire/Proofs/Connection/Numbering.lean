import DocWire.Proofs.Connection.History
import Mathlib.Algebra.GroupWithZero.Nat
import Mathlib.Data.List.Forall2

/-! The ids of requests. All connections draw them from one counter, which starts over after as many
ids as it can tell apart; as long as it does not, every request that is registered has an id of its
own. -/

namespace DocWire

/-- The happening moves the counter of ids on, and not by more than a number: a request that is
registered may spend one, and others may spend some elsewhere. -/
def Happening.Spends (most : Nat) : Happening → Prop
  | .register _ _ => 1 ≤ most
  | .elsewhere change => ∀ network, ∃ spent ≤ most,
      (change network).nextRequest = network.nextRequest + .ofNat spent
  | .start _ | .settle | .cancel | .forgo _ | .serve _ | .close _ | .pin _ | .retain | .release =>
    True

/-- Numbers that the counter tells apart lead it to different ids. -/
theorem id_inj {start : Int32} {first second : Nat} (near : first < 2 ^ 32) (far : second < 2 ^ 32)
    (same : start + .ofNat first = start + .ofNat second) : first = second := by
  have bits : first % 2 ^ 32 = second % 2 ^ 32 :=
    congrArg (·.toBitVec.toNat) ((Int32.add_right_inj start).mp same)
  rwa [Nat.mod_eq_of_lt near, Nat.mod_eq_of_lt far] at bits

namespace Line

variable (line : Line)

@[simp] theorem nextRequest_markClosed (reason : CloseReason) :
    (line.markClosed reason).network.nextRequest = line.network.nextRequest := by
  unfold markClosed
  split <;> rfl

@[simp] theorem nextRequest_close (reason : CloseReason) :
    (line.close reason).network.nextRequest = line.network.nextRequest := by
  unfold close
  split
  · rfl
  · split <;> simp [dropChannel]

@[simp] theorem nextRequest_abandon :
    line.abandon.network.nextRequest = line.network.nextRequest := by
  simp [abandon]

@[simp] theorem nextRequest_start (sending : Sending) (channel : Channel) :
    (line.start sending channel).1.network.nextRequest = line.network.nextRequest := by
  unfold start
  dsimp only
  split
  · rfl
  · split <;> rfl

@[simp] theorem nextRequest_settle (sending : Sending) (ending : Ending) :
    (line.settle sending ending).2.network.nextRequest = line.network.nextRequest := by
  cases ending <;> simp [settle, emit, dropChannel, Network.emit, Network.advance]

end Line

namespace History

variable (history : History)

/-- The request that is registered by what happens, if one is. -/
def registered : Happening → Option Sending
  | .register request context => (DocWire.register request context history.line).1.toOption
  | _ => none

/-- All requests that are registered by what happens, one after another. -/
def given (history : History) : List Happening → List Sending
  | [] => []
  | happening :: rest =>
    (history.registered happening).toList ++ (history.perform happening).given rest

/-- The history has to do with the request: it waits, is in flight, or was answered. -/
def Knows (sending : Sending) : Prop :=
  sending ∈ history.waiting ∨ (∃ ending, history.flight = some (sending, ending)) ∨
    ∃ answer ∈ history.answers, answer.sending = sending

variable {history}

/-- Where no id is spent, the counter stands still. -/
theorem nextRequest_perform {happening : Happening} (still : happening.Spends 0) :
    (history.perform happening).line.network.nextRequest = history.line.network.nextRequest := by
  cases happening with
  | register request context => cases still
  | elsewhere change =>
    obtain ⟨spent, few, same⟩ := still history.line.network
    rw [Nat.le_zero.mp few] at same
    exact same.trans (Int32.add_zero _)
  | close reason => exact Line.nextRequest_close _ _
  | forgo place => rfl
  | start place | settle | cancel | serve deliveries =>
    simp only [perform]
    split <;> first | rfl | simp [receive]
  | pin mode | retain =>
    simp only [perform, Line.pin, Line.retain]
    split <;> rfl
  | release =>
    simp only [perform, Line.release]
    split
    · rfl
    · -- The last reference closes the connection.
      dsimp only [change]
      split <;> simp

/-- What happens moves the counter on, and a request that is registered gets the id at which the
counter stood. -/
theorem perform_spends {happening : Happening} {most : Nat} (spends : happening.Spends most) :
    ∃ spent ≤ most, (history.perform happening).line.network.nextRequest
        = history.line.network.nextRequest + .ofNat spent ∧
      ∀ sending ∈ history.registered happening,
        sending.id = history.line.network.nextRequest ∧ spent = 1 := by
  cases happening with
  | register request context =>
    obtain ⟨spent, events, few, once, line⟩ := register_spends history.line request context
    have least : spent ≤ most := Nat.le_trans few spends
    simp only [perform, registered]
    rcases registers : DocWire.register request context history.line with
      ⟨cause | sending, after⟩ <;> rw [registers] at line once
    · exact ⟨spent, least, congrArg (·.network.nextRequest) line, fun _ gets => by cases gets⟩
    · refine ⟨spent, least, congrArg (·.network.nextRequest) line, fun _ gets => ?_⟩
      obtain rfl := Option.some.inj gets
      exact ⟨(register_ok registers).1, once rfl⟩
  | elsewhere change =>
    obtain ⟨spent, few, moved⟩ := spends history.line.network
    exact ⟨spent, few, moved, fun _ none => absurd none (Option.not_mem_none _)⟩
  | start _ | settle | cancel | forgo _ | serve _ | close _ | pin _ | retain | release =>
    refine ⟨0, Nat.zero_le _, ?_, fun _ none => absurd none (Option.not_mem_none _)⟩
    rw [nextRequest_perform (by trivial)]
    exact (Int32.add_zero _).symm

/-- The requests that are registered get the ids to which growing numbers lead the counter. -/
theorem exists_given (history : History) {happenings : List Happening} {most : List Nat}
    (spends : List.Forall₂ (fun most happening => happening.Spends most) most happenings) :
    ∃ numbers : List Nat, numbers.Pairwise (· < ·) ∧ (∀ number ∈ numbers, number < most.sum) ∧
      (history.given happenings).map (·.id)
        = numbers.map fun number => history.line.network.nextRequest + .ofNat number := by
  -- What is given after the first happening counts from where that has left the counter.
  induction spends generalizing history with
  | nil => exact ⟨[], .nil, List.forall_mem_nil _, rfl⟩
  | @cons bound happening bounds later first _ ih =>
    obtain ⟨spent, few, moved, gets⟩ := perform_spends first
    obtain ⟨numbers, grow, within, same⟩ := ih (history.perform happening)
    have onward : ((history.perform happening).given later).map (·.id)
        = (numbers.map (spent + ·)).map fun number =>
            history.line.network.nextRequest + .ofNat number := by
      rw [same, List.map_map]
      refine List.map_congr_left fun number _ => ?_
      rw [moved, Function.comp_apply, Int32.ofNat_add, Int32.add_assoc]
    have further : (numbers.map (spent + ·)).Pairwise (· < ·) :=
      List.pairwise_map.mpr (grow.imp (Nat.add_lt_add_left · spent))
    have bounded : ∀ number ∈ numbers.map (spent + ·), number < (bound :: bounds).sum := by
      rintro _ moved
      obtain ⟨number, among, rfl⟩ := List.mem_map.mp moved
      have := within number among
      rw [List.sum_cons]
      omega
    rw [given, List.map_append, onward]
    cases registers : history.registered happening with
    | none => exact ⟨_, further, bounded, rfl⟩
    | some sending =>
      obtain ⟨id, rfl⟩ := gets sending registers
      refine ⟨0 :: numbers.map (1 + ·), List.pairwise_cons.mpr ⟨?_, further⟩, ?_, ?_⟩
      · rintro _ moved
        obtain ⟨number, -, rfl⟩ := List.mem_map.mp moved
        omega
      · rintro number (_ | ⟨_, among⟩)
        · rw [List.sum_cons]
          omega
        · exact bounded number among
      · rw [List.map_cons, show _ + Int32.ofNat 0 = _ from Int32.add_zero _, ← id]
        rfl

/-- While the counter does not start over, all requests that are registered have ids of their
own. -/
theorem nodup_given {happenings : List Happening} {most : List Nat}
    (spends : List.Forall₂ (fun most happening => happening.Spends most) most happenings)
    (few : most.sum ≤ 2 ^ 32) : ((history.given happenings).map (·.id)).Nodup := by
  obtain ⟨numbers, grow, within, same⟩ := history.exists_given spends
  rw [same]
  refine List.pairwise_map.mpr (grow.imp_of_mem fun near far less equal => ?_)
  have := id_inj (Nat.lt_of_lt_of_le (within _ near) few) (Nat.lt_of_lt_of_le (within _ far) few)
    equal
  omega

/-- Nobody is known who was not, where nobody new waits, is in flight or was answered. -/
theorem Knows.of_known {after : History} {sending : Sending} (known : after.Knows sending)
    (waiting : ∀ sending ∈ after.waiting, sending ∈ history.waiting)
    (flight : ∀ sending ending, after.flight = some (sending, ending) → history.Knows sending)
    (answers : ∀ answer ∈ after.answers, history.Knows answer.sending) :
    history.Knows sending := by
  rcases known with waits | ⟨ending, flying⟩ | ⟨answer, among, rfl⟩
  · exact .inl (waiting sending waits)
  · exact flight sending ending flying
  · exact answers answer among

/-- One that is in flight is known. -/
theorem knows_flight (history : History) (sending : Sending) (ending : Ending)
    (flying : history.flight = some (sending, ending)) : history.Knows sending :=
  .inr (.inl ⟨ending, flying⟩)

/-- One that was answered is known. -/
theorem knows_answer (history : History) (answer : Answered) (among : answer ∈ history.answers) :
    history.Knows answer.sending :=
  .inr (.inr ⟨answer, among, rfl⟩)

/-- A request that is registered is the only one that is new among those that wait. -/
theorem knows_register {request : Request} {context : Correlation} {sending : Sending}
    (known : (history.perform (.register request context)).Knows sending) :
    history.Knows sending ∨ sending ∈ history.registered (.register request context) := by
  simp only [perform] at known
  simp only [registered]
  rcases registers : DocWire.register request context history.line with
    ⟨cause | new, after⟩ <;> rw [registers] at known
  · exact .inl known
  · rcases known with waits | known
    · rcases List.mem_append.mp waits with earlier | last
      · exact .inl (.inl earlier)
      · exact .inr (congrArg some (List.mem_singleton.mp last).symm)
    · exact .inl (.inr known)

/-- An answer is given to the request that was in flight. -/
theorem knows_settle {sending : Sending} (known : (history.perform .settle).Knows sending) :
    history.Knows sending := by
  simp only [perform] at known
  split at known
  · exact known
  · rename_i ended ending flying
    refine known.of_known (fun _ => id) (fun _ _ none => by cases none) fun answer among => ?_
    cases ending with
    | never | failed => exact history.knows_answer answer among
    | completed time response rest =>
      cases response with
      | none => exact history.knows_answer answer among
      | some response =>
        rcases List.mem_append.mp among with earlier | new
        · exact history.knows_answer answer earlier
        · obtain rfl := List.mem_singleton.mp new
          exact history.knows_flight ended _ flying

/-- What happens brings no request into the history but the one that it registers. -/
theorem knows_perform {happening : Happening} {sending : Sending}
    (known : (history.perform happening).Knows sending) :
    history.Knows sending ∨ sending ∈ history.registered happening := by
  have fewer {place : Nat} (sending : Sending) (among : sending ∈ history.waiting.eraseIdx place) :
      sending ∈ history.waiting := List.mem_of_mem_eraseIdx among
  cases happening with
  | register request context => exact knows_register known
  | settle => exact .inl (knows_settle known)
  | start place =>
    simp only [perform] at known
    split at known
    · -- Whoever starts has waited before.
      rename_i next channel idle waits found
      refine .inl (known.of_known fewer ?_ history.knows_answer)
      rintro _ _ ⟨⟩
      exact .inl (List.mem_of_getElem? waits)
    · exact .inl (known.of_known fewer history.knows_flight history.knows_answer)
    · exact .inl known
  | cancel =>
    simp only [perform] at known
    split at known
    · exact .inl known
    · exact .inl (known.of_known (fun _ => id) (fun _ _ none => by cases none) history.knows_answer)
  | forgo place => exact .inl (known.of_known fewer history.knows_flight history.knows_answer)
  | serve deliveries =>
    simp only [perform] at known
    split at known <;> exact .inl known
  | retain | release =>
    simp only [perform, change] at known
    split at known <;> exact .inl known
  | close _ | pin _ | elsewhere _ => exact .inl known

/-- A history knows no requests but those that were registered along it. -/
theorem knows_run {happenings : List Happening} {sending : Sending}
    (known : (history.run happenings).Knows sending) :
    history.Knows sending ∨ sending ∈ history.given happenings := by
  induction happenings generalizing history with
  | nil => exact .inl known
  | cons happening later ih =>
    rw [given, List.mem_append, Option.mem_toList]
    rcases ih known with earlier | given
    · exact (knows_perform earlier).imp_right .inl
    · exact .inr (.inr given)

end History

end DocWire
