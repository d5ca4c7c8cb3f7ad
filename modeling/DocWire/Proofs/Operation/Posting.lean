import DocWire.Proofs.Operation.PayloadCall
import Mathlib.Data.List.Forall2

/-! Payloads that are sent in parts: call after call takes the next batch, over any connections, and
what was sent is always the front of the payload. -/

namespace DocWire

/-- What was sent by a call whose exchange was completed, and whether it was made while documents
were left. -/
structure Posted where
  useful : Bool
  messages : List (Nat × Bytes)

/-- The world, a payload that its caller sends in parts, and what was sent of it so far by calls
whose exchange was completed. -/
structure Posting where
  world : World
  payload : Payload
  posted : List Posted := []

/-- A call with the payload, or anything else that goes on in the world. -/
inductive Turn where
  | call (call : PayloadCall)
  | elsewhere (change : World → World)

namespace Posting

/-- The posting after a turn. -/
def perform (posting : Posting) : Turn → Posting
  | .elsewhere change => { posting with world := change posting.world }
  | .call call =>
    match call.run posting.payload posting.world with
    | (.error _, world) => { posting with world }
    | (.ok (_, payload), world) =>
      -- The record of what was sent grows at its end.
      let messages := world.network.sent.drop posting.world.network.sent.length
      let posted :=
        if call.completes posting.payload posting.world then
          posting.posted ++ [⟨posting.payload.hasMore, messages⟩]
        else posting.posted
      { world, payload, posted }

/-- The posting after turns, one after another. -/
def run (posting : Posting) (turns : List Turn) : Posting := turns.foldl perform posting

/-- Whether every call among the turns returns when it is made. -/
def AllReturn (posting : Posting) : List Turn → Prop
  | [] => True
  | .elsewhere change :: rest => AllReturn (posting.perform (.elsewhere change)) rest
  | .call call :: rest =>
    call.Returns posting.payload posting.world ∧ AllReturn (posting.perform (.call call)) rest

/-- What the posting has come to accounts for the payload: the documents before the position are
those that were there at the start and those that were sent, in order, and every call that was made
while documents were left has moved the position on. -/
structure Accounts (start : Payload) (posting : Posting) : Prop where
  kind : posting.payload.kind = start.kind
  documents : posting.payload.documents = start.documents
  carried : ∃ batches,
    List.Forall₂ (CarriedBy start.kind) batches (posting.posted.map (·.messages)) ∧
      start.documents.take start.position ++ batches.flatten
        = start.documents.take posting.payload.position
  useful : start.position + posting.posted.countP (·.useful) ≤ posting.payload.position

variable {start : Payload} {posting : Posting} {made : PayloadCall}

/-- Calls return one after another when each one's command does. -/
theorem AllReturn.call {turns : List Turn}
    (named : checkNames made.rule made.command.command = .ok ())
    (back : returned (made.command.run made.decoder
      (posting.world.line made.connection made.session (some posting.payload))).1 = true)
    (rest : AllReturn (posting.perform (.call made)) turns) :
    AllReturn posting (.call made :: turns) :=
  ⟨PayloadCall.returns_of_run named back, rest⟩

/-- A call that returns without having completed its exchange changes nothing but the world. -/
theorem perform_incomplete (returns : made.Returns posting.payload posting.world)
    (incomplete : made.completes posting.payload posting.world = false) :
    ∃ world, posting.perform (.call made) = { posting with world } := by
  obtain ⟨result, after, ran⟩ := PayloadCall.run_incomplete returns incomplete
  refine ⟨after, ?_⟩
  simp [perform, ran, incomplete]

/-- A call that returns after its exchange was completed adds a batch to what was sent. -/
theorem perform_complete (returns : made.Returns posting.payload posting.world)
    (complete : made.completes posting.payload posting.world = true) :
    ∃ world documents messages,
      posting.perform (.call made)
        = { world, payload := posting.payload.advance documents.length
            posted := posting.posted ++ [⟨posting.payload.hasMore, messages⟩] } ∧
      documents <+: posting.payload.remaining ∧
      (posting.payload.hasMore = true → documents ≠ []) ∧
      CarriedBy posting.payload.kind documents messages := by
  obtain ⟨result, after, documents, messages, ran, front, some, sent, carries⟩ :=
    PayloadCall.run_complete returns complete
  refine ⟨after, documents, messages, ?_, front, some, carries⟩
  simp [perform, ran, complete, sent]

/-- A call that returns keeps the account. -/
theorem Accounts.call (accounts : Accounts start posting)
    (returns : made.Returns posting.payload posting.world) :
    Accounts start (posting.perform (.call made)) := by
  cases complete : made.completes posting.payload posting.world with
  | false =>
    -- Nothing was sent for good, and nothing was taken off the payload.
    obtain ⟨world, same⟩ := perform_incomplete returns complete
    rw [same]
    exact ⟨accounts.kind, accounts.documents, accounts.carried, accounts.useful⟩
  | true =>
    obtain ⟨world, documents, messages, same, front, some, carries⟩ :=
      perform_complete returns complete
    obtain ⟨batches, sent, whole⟩ := accounts.carried
    rw [same]
    refine ⟨accounts.kind, accounts.documents, ⟨batches ++ [documents], ?_, ?_⟩, ?_⟩
    · rw [List.map_append]
      rw [accounts.kind] at carries
      exact List.rel_append sent (.cons carries .nil)
    · -- The batch is the next part of the payload after all that was sent before.
      have moved := Payload.take_advance front
      rw [accounts.documents] at moved
      rw [List.flatten_append, List.flatten_singleton, ← List.append_assoc, whole, moved]
    · -- A call that found documents left has moved on, and any other has not gone back.
      have useful := accounts.useful
      rw [List.countP_append, List.countP_singleton]
      dsimp only
      split
      · rename_i more
        have further := Payload.position_advance more (List.length_pos_iff.mpr (some more))
        omega
      · have further := posting.payload.le_advance documents.length
        omega

/-- Turns keep the account as long as every call returns. -/
theorem Accounts.run (accounts : Accounts start posting) {turns : List Turn}
    (returns : posting.AllReturn turns) : Accounts start (posting.run turns) := by
  -- Each turn hands the account on to those after it.
  induction turns generalizing posting with
  | nil => exact accounts
  | cons turn rest ih =>
    cases turn with
    | call made => exact ih (accounts.call returns.1) returns.2
    | elsewhere change =>
      exact ih ⟨accounts.kind, accounts.documents, accounts.carried, accounts.useful⟩ returns

end Posting
end DocWire
