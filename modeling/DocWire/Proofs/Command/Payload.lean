import DocWire.Command.Payload
import DocWire.Proofs.Work

/-! Payloads: a batch is the front of what is left to send, and moving on past it leaves the rest
for later. -/

namespace DocWire
namespace Payload

/-- The documents of a batch come first among those that it is gathered from. -/
theorem gather_prefix {description : ConnectionDescription} {budget position place used : Nat}
    {documents taken : List RawDocument}
    (gathered : gather description budget position place used documents = .ok taken) :
    taken <+: documents := by
  -- The induction follows the documents that are looked at, one after another.
  induction documents generalizing place used taken with
  | nil =>
    rw [gather] at gathered
    cases gathered
    exact List.prefix_rfl
  | cons document rest ih =>
    simp only [gather, refuse] at gathered
    -- The document is refused, or it is the first of the next batch, or it joins this one.
    split at gathered
    · cases gathered
    · split at gathered
      · cases gathered
        exact List.nil_prefix
      · obtain ⟨others, more, same⟩ := Work.except_bind_ok gathered
        cases same
        rw [List.cons_prefix_cons]
        exact ⟨rfl, ih more⟩

variable {payload : Payload} {command : Document} {description : ConnectionDescription}
  {batch : DocumentSequence}

/-- What a batch is: the front of what is left to send, under the name of the field that it belongs
to, and not empty as long as anything is left. -/
theorem nextBatch_ok (batched : payload.nextBatch command description = .ok batch) :
    batch.identifier = payload.kind.identifier ∧ batch.documents <+: payload.remaining ∧
      (payload.hasMore = true → batch.documents ≠ []) := by
  unfold nextBatch at batched
  obtain ⟨encoded, _, batched⟩ := Work.except_bind_ok batched
  obtain ⟨documents, gathered, batched⟩ := Work.except_bind_ok batched
  -- A batch that would go on for ever was refused.
  split at batched
  · cases batched
  · rename_i useful
    cases batched
    refine ⟨rfl, gather_prefix gathered, fun more none => useful ?_⟩
    rw [show documents = [] from none, more]
    rfl

/-- After a batch was sent, the documents before the position are those before it and the batch. -/
theorem take_advance {documents : List RawDocument} (front : documents <+: payload.remaining) :
    payload.documents.take payload.position ++ documents
      = payload.documents.take (payload.advance documents.length).position := by
  obtain ⟨rest, split⟩ := front
  have room : documents.length ≤ payload.documents.length - payload.position := by
    rw [← List.length_drop, ← remaining, ← split, List.length_append]
    omega
  have bounded := payload.bounded
  -- A front of what is left does not go beyond the end, so the position moves by all of it.
  have moved : (payload.advance documents.length).position
      = payload.position + documents.length := by
    simp only [advance]
    omega
  rw [moved, List.take_add, ← remaining, ← split, List.take_left]

/-- Moving on never goes back. -/
theorem le_advance (payload : Payload) (count : Nat) :
    payload.position ≤ (payload.advance count).position := by
  have bounded := payload.bounded
  simp only [advance]
  omega

/-- Whoever has more to send gets on by sending anything. -/
theorem position_advance {count : Nat} (more : payload.hasMore = true) (sent : 0 < count) :
    payload.position < (payload.advance count).position := by
  simp only [hasMore, decide_eq_true_eq] at more
  simp only [advance]
  omega

end Payload
end DocWire
