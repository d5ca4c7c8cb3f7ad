import DocWire.Proofs.Command.Batch
import DocWire.Proofs.Document.Restored

/-! Batches inside a command: an array of documents adds to the command exactly what it is reckoned
to add, whatever the number of digits in the places of the array. -/

namespace DocWire

/-- The body of a command with a sequence put into it is encoded in this many bytes. -/
def Command.EmbedsIn (body : Document) (sequence : DocumentSequence) (size : Nat) : Prop :=
  ∃ whole raw, embed body [sequence] = .ok whole ∧ whole.encode = .ok raw ∧
    raw.bytes.length = size

section Arrays

variable {description : ConnectionDescription} {documents : List RawDocument}

/-- The elements of an array of documents are as long as the documents weigh in a batch. -/
theorem Command.itemsOf_weight (legacy : description.hasMessages = false)
    (restored : ∀ document ∈ documents, document.Restored) :
    ∃ items, itemsOf documents = .ok items ∧ ∀ place, ∃ bytes,
      encodeItems? place items = some bytes ∧
        bytes.length = Payload.weight description place documents := by
  induction documents with
  | nil => exact ⟨[], rfl, fun place => ⟨[], rfl, rfl⟩⟩
  | cons document rest ih =>
    obtain ⟨⟨read, decoded, again⟩, others⟩ := List.forall_mem_cons.mp restored
    obtain ⟨items, listed, weighed⟩ := ih others
    obtain ⟨inner, fields, rfl⟩ := Document.encode_eq_ok.mp again
    refine ⟨.document read :: items, ?_, fun place => ?_⟩
    · rw [itemsOf, decoded, listed]
      rfl
    · obtain ⟨behind, encoded, long⟩ := weighed (place + 1)
      have joined : encodeItems? place (.document read :: items) = some
          (ElementKind.document.tag ::
            (Bytes.ofString (toString place) ++ [0] ++ enclosed inner ++ behind)) := by
        rw [encodeItems?, Value.encode?, fields, encoded]
        rfl
      refine ⟨_, joined, ?_⟩
      -- The place is written in as many bytes as it has digits.
      simp only [List.length_cons, List.length_append, List.length_nil, long, Payload.weight,
        Payload.cost, legacy, Bool.false_eq_true, if_false, elementLength, digitCount_eq,
        nameLength]
      omega

/-- Documents that are put into a command under a new name add what they are reckoned to add. -/
theorem Payload.embedsIn {command : Document} {kind : PayloadKind} {plain : RawDocument}
    (legacy : description.hasMessages = false) (new : kind.identifier ∉ command.names)
    (encoded : command.encode = .ok plain)
    (restored : ∀ document ∈ documents, document.Restored) :
    Command.EmbedsIn command ⟨kind.identifier, documents⟩
      (plain.bytes.length + reckoned description kind documents) := by
  obtain ⟨items, listed, weighed⟩ := Command.itemsOf_weight legacy restored
  obtain ⟨elements, written, long⟩ := weighed 0
  have named : '\x00' ∉ kind.identifier.toList := by cases kind <;> decide
  -- All documents go into one array, under the name that the kind of the payload has.
  have single : encodeFields? [(kind.identifier, .array items)] = some
      (ElementKind.array.tag ::
        (Bytes.ofString kind.identifier ++ [0] ++ enclosed elements ++ [])) := by
    rw [encodeFields?_cons]
    exact ⟨named, _, [], by rw [Value.encode?, written, Option.map_some], rfl, rfl⟩
  obtain ⟨raw, put, size⟩ := Document.encode_insert new encoded single
  refine ⟨_, raw, ?_, put, ?_⟩
  · rw [Command.embed, listed]
    rfl
  · rw [size]
    simp only [List.length_cons, List.length_append, List.length_nil, length_enclosed, long,
      reckoned, nameLength]
    omega

end Arrays

section Batches

variable {payload : Payload} {command : Document} {description : ConnectionDescription}
  {documents : List Document} {plain : RawDocument}

/-- The documents of a payload that a server takes are read and written again. -/
theorem Payload.restored_remaining (made : encodeAll documents = .ok payload.documents)
    (proper : ∀ document ∈ documents, document.isProper = true) {raw : RawDocument}
    (among : raw ∈ payload.remaining)
    (short : raw.bytes.length ≤ description.documentBytes) : raw.Restored := by
  obtain ⟨document, inside, encoded⟩ := encode_of_mem_encodeAll made (List.mem_of_mem_drop among)
  exact Document.restored_encode (proper document inside) encoded
    (Nat.le_trans short description.documentBytes_le)

/-- No documents in an array weigh nothing. -/
theorem Payload.weight_pos (legacy : description.hasMessages = false) {documents : List RawDocument}
    (some : documents ≠ []) (place : Nat) : 0 < weight description place documents := by
  cases documents with
  | nil => exact absurd rfl some
  | cons first rest =>
    simp only [weight, cost, legacy, Bool.false_eq_true, if_false, elementLength]
    omega

/-- What fits into the budget that a command leaves is what makes it no longer than a document. -/
theorem Payload.weight_le_budget_iff (payload : Payload) (legacy : description.hasMessages = false)
    {documents : List RawDocument} (some : documents ≠ []) (length : Nat) :
    weight description 0 documents ≤ payload.budget length description ↔
      length + reckoned description payload.kind documents ≤ description.documentBytes := by
  have positive := weight_pos legacy some 0
  simp only [budget, legacy, Bool.false_eq_true, if_false, documentBudget, reckoned]
  omega

/-- A batch inside a command is the longest front of what is left with which the command is no
longer than a document may be. Any documents of the payload, each short enough for the server, add
to the command what they are reckoned to add, byte for byte; so does each batch. Without a document
that is too long there is a batch, unless nothing at all fits. -/
theorem Payload.embeds_nextBatch (legacy : description.hasMessages = false)
    (new : payload.kind.identifier ∉ command.names)
    (made : encodeAll documents = .ok payload.documents)
    (proper : ∀ document ∈ documents, document.isProper = true)
    (encoded : command.encode = .ok plain) :
    let size := fun documents =>
      plain.bytes.length + reckoned description payload.kind documents
    (∀ front, front <+: payload.remaining →
      (∀ document ∈ front, document.bytes.length ≤ description.documentBytes) →
      Command.EmbedsIn command ⟨payload.kind.identifier, front⟩ (size front)) ∧
    (∀ batch, payload.nextBatch command description = .ok batch →
      payload.IsLongest description (fun documents => size documents ≤ description.documentBytes)
        batch ∧ Command.EmbedsIn command batch (size batch.documents)) ∧
    ((∀ document ∈ payload.remaining, document.bytes.length ≤ description.documentBytes) →
      (∃ batch, payload.nextBatch command description = .ok batch) ∨
        payload.nextBatch command description = refuse .payloadTooLarge ∧
          payload.hasMore = true ∧ ∀ first, [first] <+: payload.remaining →
            description.batchLimit = 0 ∨ description.documentBytes < size [first]) := by
  intro size
  have embeds : ∀ front, front <+: payload.remaining →
      (∀ document ∈ front, document.bytes.length ≤ description.documentBytes) →
      Command.EmbedsIn command ⟨payload.kind.identifier, front⟩ (size front) :=
    fun front before short => embedsIn legacy new encoded fun document among =>
      restored_remaining made proper (before.subset among) (short document among)
  refine ⟨embeds, fun batch batched => ?_, fun short => ?_⟩
  · have chosen : payload.IsLongest description
        (fun documents => size documents ≤ description.documentBytes) batch :=
      nextBatch_isLongest batched encoded fun documents some _ =>
        (weight_le_budget_iff payload legacy some _).symm
    refine ⟨chosen, ?_⟩
    have put := embeds batch.documents chosen.front chosen.short
    rwa [← chosen.named] at put
  · obtain ⟨taken, gathered⟩ := gather_of_short short
      (payload.budget plain.bytes.length description) payload.position 0 0
    rw [nextBatch_of_gather encoded gathered]
    split
    · rename_i stuck
      simp only [Bool.and_eq_true, List.isEmpty_iff] at stuck
      obtain ⟨rfl, more⟩ := stuck
      refine .inr ⟨rfl, more, fun first before => ?_⟩
      -- The first document alone was too much already.
      have excess := (gather_fills (Nat.zero_le _) gathered).longest [first] before (by simp)
      have unfit := weight_le_budget_iff payload legacy (List.cons_ne_nil first [])
        plain.bytes.length
      simp only [List.length_singleton] at excess
      show _ ∨ _ < plain.bytes.length + _
      omega
    · exact .inl ⟨_, rfl⟩

/-- Twelve empty documents, of which eleven fit: the place of the last one has two digits, and with
it the command is as long as a document may be. -/
theorem Payload.embeds_nextBatch_eleven :
    let command : Document := [("insert", .string "c")]
    let description : ConnectionDescription :=
      { address := default, wireVersion := 5, documentLimit := 124 }
    let documents : List Document := List.replicate 12 []
    ∃ payload batch, ofDocuments .insert documents = .ok payload ∧
      payload.nextBatch command description = .ok batch ∧ batch.documents.length = 11 ∧
      Command.EmbedsIn command batch description.documentBytes ∧
      payload.IsLongest description (fun documents =>
        19 + reckoned description .insert documents ≤ description.documentBytes) batch := by
  intro command description documents
  let raws : List RawDocument := List.replicate 12 ⟨[5, 0, 0, 0, 0]⟩
  have made : encodeAll documents = .ok raws := Work.ok_of_toOption (by decide +kernel)
  let payload : Payload := { kind := .insert, documents := raws }
  have batched : payload.nextBatch command description
      = .ok ⟨"documents", List.replicate 11 ⟨[5, 0, 0, 0, 0]⟩⟩ :=
    Work.ok_of_toOption (by decide +kernel)
  have encoded : command.encode
      = .ok ⟨[19, 0, 0, 0, 2, 105, 110, 115, 101, 114, 116, 0, 2, 0, 0, 0, 99, 0, 0]⟩ :=
    Work.ok_of_toOption (by decide +kernel)
  have legacy : description.hasMessages = false := by decide
  have new : payload.kind.identifier ∉ command.names := by decide
  obtain ⟨longest, embedded⟩ :=
    (embeds_nextBatch legacy new made (by decide) encoded).2.1 _ batched
  refine ⟨payload, _, ?_, batched, rfl, ?_, longest⟩
  · rw [ofDocuments, made]
    rfl
  · -- Nineteen bytes of command and eleven elements: ten with one digit and one with two.
    have size : [19, 0, 0, 0, 2, 105, 110, 115, 101, 114, 116, 0, 2, 0, 0, 0, 99, 0, 0].length
        + reckoned description .insert (List.replicate 11 ⟨[5, 0, 0, 0, 0]⟩)
          = description.documentBytes := by decide +kernel
    rw [← size]
    exact embedded

end Batches

end DocWire
