import DocWire.Proofs.Command.Framing
import DocWire.Proofs.Document.Size
import DocWire.Proofs.Wire.Grammar

/-! Batches: what a batch is reckoned to take is what it adds to the message, so that a batch is the
longest front of what is left for which its message has room. -/

namespace DocWire

/-- The digits that are counted are those that the number is written with. -/
theorem digitCount_eq (number : Nat) : digitCount number = nameLength (toString number) := by
  have counted : digitCount number = (Nat.toDigits 10 number).length := by
    -- Both take the last digit away.
    fun_induction digitCount number with
    | case1 number last =>
      rw [Nat.toDigits_of_lt_base (by omega)]
      rfl
    | case2 number more ih =>
      rw [Nat.toDigits_of_base_le (by omega) (by omega), List.length_append, ih]
      rfl
  -- A digit is a single byte.
  have single : ∀ c ∈ Nat.toDigits 10 number, (String.utf8EncodeChar c).length = 1 := by
    intro c among
    have digit := Nat.isDigit_of_mem_toDigits (by omega) (by omega) among
    rw [String.length_utf8EncodeChar, Char.utf8Size_eq_one_iff]
    simp only [Char.isDigit, Bool.and_eq_true, decide_eq_true_eq] at digit
    exact UInt32.le_trans digit.2 (by decide)
  rw [counted, nameLength, Bytes.ofString_eq_flatMap, show toString number = number.repr from rfl,
    Nat.toList_repr, List.length_flatMap, List.map_congr_left single,
    List.map_const', List.sum_replicate_nat, Nat.mul_one]

namespace Payload

/-- What documents take of a budget, the first of them at a place of the batch. -/
def weight (description : ConnectionDescription) : (place : Nat) → List RawDocument → Nat
  | _, [] => 0
  | place, document :: rest =>
    cost description place document.bytes.length + weight description (place + 1) rest

/-- What a batch is reckoned to add to a command that it is put into: the frame of an array under
the name of the field, and its elements. -/
def reckoned (description : ConnectionDescription) (kind : PayloadKind)
    (documents : List RawDocument) : Nat :=
  1 + nameLength kind.identifier + 1 + 4 + 1 + weight description 0 documents

/-- A batch is the longest front of documents that a budget has room for, when `place` documents and
`used` bytes of it are taken. -/
structure Fills (description : ConnectionDescription) (budget place used : Nat)
    (documents taken : List RawDocument) : Prop where
  front : taken <+: documents
  short : ∀ document ∈ taken, document.bytes.length ≤ description.documentBytes
  counted : place + taken.length ≤ description.batchLimit
  paid : taken ≠ [] → used + weight description place taken ≤ budget
  longest : ∀ more, more <+: documents → taken.length < more.length →
    description.batchLimit < place + more.length ∨
      budget < used + weight description place more

section Gathering

variable {description : ConnectionDescription} {budget position place used : Nat}
  {documents taken : List RawDocument}

/-- Where no document is left, none is taken. -/
theorem Fills.nil (room : place ≤ description.batchLimit) :
    Fills description budget place used [] [] where
  front := List.prefix_rfl
  short := by simp
  counted := room
  paid some := absurd rfl some
  longest more front longer := by
    rw [List.prefix_nil.mp front] at longer
    exact absurd longer (Nat.lt_irrefl _)

/-- A document that there is no room for ends the batch before it. -/
theorem Fills.full {document : RawDocument} {rest : List RawDocument}
    (room : place ≤ description.batchLimit)
    (full : place = description.batchLimit ∨
      budget < used + cost description place document.bytes.length) :
    Fills description budget place used (document :: rest) [] where
  front := List.nil_prefix
  short := by simp
  counted := room
  paid some := absurd rfl some
  longest more front longer := by
    -- A longer front begins with the document that was not taken.
    cases more with
    | nil => exact absurd longer (Nat.lt_irrefl _)
    | cons first others =>
      obtain ⟨rfl, -⟩ := List.cons_prefix_cons.mp front
      rw [weight, List.length_cons]
      omega

/-- A document that there is room for is taken, and the rest is filled from the next place on. -/
theorem Fills.cons {document : RawDocument} {rest : List RawDocument}
    (short : document.bytes.length ≤ description.documentBytes)
    (free : used + cost description place document.bytes.length ≤ budget)
    (next : Fills description budget (place + 1)
      (used + cost description place document.bytes.length) rest taken) :
    Fills description budget place used (document :: rest) (document :: taken) where
  front := List.cons_prefix_cons.mpr ⟨rfl, next.front⟩
  short := List.forall_mem_cons.mpr ⟨short, next.short⟩
  counted := by
    have := next.counted
    rw [List.length_cons]
    omega
  paid _ := by
    rw [weight]
    -- With nothing behind it, the document has paid for itself alone.
    cases taken with
    | nil =>
      rw [weight]
      omega
    | cons second others =>
      have := next.paid (by simp)
      omega
  longest more front longer := by
    -- A longer front begins with this document too, and is longer behind it.
    cases more with
    | nil => exact absurd longer (Nat.not_lt_zero _)
    | cons first others =>
      obtain ⟨rfl, behind⟩ := List.cons_prefix_cons.mp front
      have := next.longest others behind (Nat.lt_of_succ_lt_succ longer)
      rw [weight, List.length_cons]
      omega

theorem gather_fills (room : place ≤ description.batchLimit)
    (gathered : gather description budget position place used documents = .ok taken) :
    Fills description budget place used documents taken := by
  -- The induction follows the documents that are looked at, one after another.
  induction documents generalizing place used taken with
  | nil =>
    rw [gather] at gathered
    cases gathered
    exact .nil room
  | cons document rest ih =>
    simp only [gather, refuse] at gathered
    split at gathered
    · cases gathered
    · rename_i fits
      split at gathered
      · rename_i full
        cases gathered
        exact .full room full
      · rename_i free
        obtain ⟨others, inner, same⟩ := Work.except_bind_ok gathered
        cases same
        exact .cons (Nat.le_of_not_lt fits) (by omega) (ih (by omega) inner)

/-- Documents of which none is too long are gathered. -/
theorem gather_of_short
    (short : ∀ document ∈ documents, document.bytes.length ≤ description.documentBytes)
    (budget position place used : Nat) :
    ∃ taken, gather description budget position place used documents = .ok taken := by
  induction documents generalizing place used with
  | nil => exact ⟨[], rfl⟩
  | cons document rest ih =>
    obtain ⟨first, others⟩ := List.forall_mem_cons.mp short
    simp only [gather, if_neg (Nat.not_lt.mpr first)]
    -- Gathering ends without failing where the budget or the number does.
    split
    · exact ⟨[], rfl⟩
    · obtain ⟨taken, gathered⟩ := ih others (place + 1)
        (used + cost description place document.bytes.length)
      rw [gathered]
      exact ⟨_, rfl⟩

end Gathering

section Batches

variable {payload : Payload} {command : Document} {description : ConnectionDescription}
  {batch : DocumentSequence}

/-- The budget of a batch for a command of some length. -/
def budget (payload : Payload) (length : Nat) (description : ConnectionDescription) : Nat :=
  if description.hasMessages then messageBudget payload.kind length description
  else documentBudget payload.kind length description

/-- What was gathered within the budget is sent next, unless nothing was although something is left.
-/
theorem nextBatch_of_gather {plain : RawDocument} {documents : List RawDocument}
    (encoded : command.encode = .ok plain)
    (gathered : gather description (payload.budget plain.bytes.length description) payload.position
      0 0 payload.remaining = .ok documents) :
    payload.nextBatch command description
      = if documents.isEmpty && payload.hasMore then refuse .payloadTooLarge
        else .ok ⟨payload.kind.identifier, documents⟩ := by
  simp only [nextBatch, encoded, bind, Except.bind]
  rw [← budget, gathered]
  rfl

/-- Where gathering within the budget fails, there is no batch. -/
theorem nextBatch_of_gather_error {plain : RawDocument} {cause : Cause}
    (encoded : command.encode = .ok plain)
    (failed : gather description (payload.budget plain.bytes.length description) payload.position
      0 0 payload.remaining = .error cause) :
    payload.nextBatch command description = .error cause := by
  simp only [nextBatch, encoded, bind, Except.bind]
  rw [← budget, failed]

/-- A batch is the longest front of what is left that is within the limits on documents and their
number and for which there is room; it is empty only when nothing is left. -/
structure IsLongest (payload : Payload) (description : ConnectionDescription)
    (room : List RawDocument → Prop) (batch : DocumentSequence) : Prop where
  named : batch.identifier = payload.kind.identifier
  useful : payload.hasMore = true → batch.documents ≠ []
  front : batch.documents <+: payload.remaining
  short : ∀ document ∈ batch.documents, document.bytes.length ≤ description.documentBytes
  counted : batch.documents.length ≤ description.batchLimit
  roomy : batch.documents ≠ [] → room batch.documents
  longest : ∀ more, more <+: payload.remaining → batch.documents.length < more.length →
    description.batchLimit < more.length ∨ ¬ room more

/-- What is sent next fills the budget that the command leaves, whatever this room is called. -/
theorem nextBatch_isLongest {plain : RawDocument} {room : List RawDocument → Prop}
    (batched : payload.nextBatch command description = .ok batch)
    (encoded : command.encode = .ok plain)
    (same : ∀ documents, documents ≠ [] → documents <+: payload.remaining →
      (room documents ↔
        weight description 0 documents ≤ payload.budget plain.bytes.length description)) :
    payload.IsLongest description room batch := by
  obtain ⟨named, front, useful⟩ := nextBatch_ok batched
  -- Where nothing is refused, the batch is what was gathered.
  have fills : Fills description (payload.budget plain.bytes.length description) 0 0
      payload.remaining batch.documents := by
    unfold nextBatch at batched
    obtain ⟨_, again, batched⟩ := Work.except_bind_ok batched
    obtain rfl := Except.ok.inj (again.symm.trans encoded)
    obtain ⟨documents, gathered, batched⟩ := Work.except_bind_ok batched
    split at batched
    · cases batched
    · cases batched
      exact gather_fills (Nat.zero_le _) gathered
  refine ⟨named, useful, front, fills.short, ?_, fun some => ?_, fun more before longer => ?_⟩
  · have := fills.counted
    omega
  · have := fills.paid some
    exact (same _ some front).mpr (by omega)
  · have some : more ≠ [] := List.ne_nil_of_length_pos (by omega)
    rw [same more some before]
    have := fills.longest more before longer
    omega

end Batches

end Payload

/-- Every raw form is that of one of the documents. -/
theorem encode_of_mem_encodeAll {documents : List Document} {raws : List RawDocument}
    (made : encodeAll documents = .ok raws) {raw : RawDocument} (among : raw ∈ raws) :
    ∃ document ∈ documents, document.encode = .ok raw := by
  induction documents generalizing raws with
  | nil =>
    cases made
    exact absurd among List.not_mem_nil
  | cons document rest ih =>
    -- The documents are encoded one by one, in their order.
    obtain ⟨front, first, made⟩ := Work.except_bind_ok made
    obtain ⟨back, others, made⟩ := Work.except_bind_ok made
    cases made
    rcases List.mem_cons.mp among with rfl | later
    · exact ⟨document, List.mem_cons_self .., first⟩
    · obtain ⟨source, inside, encoded⟩ := ih others later
      exact ⟨source, List.mem_cons_of_mem _ inside, encoded⟩

section Messages

/-- No limit on messages is too large for a word. -/
theorem ConnectionDescription.messageBytes_le (description : ConnectionDescription) :
    description.messageBytes ≤ largestWord := by
  have bound := description.messageLimit.toInt_lt
  simp only [messageBytes, largestWord]
  omega

theorem ConnectionDescription.documentBytes_le (description : ConnectionDescription) :
    description.documentBytes ≤ largestWord := by
  have bound := description.documentLimit.toInt_lt
  simp only [documentBytes, largestWord]
  omega

/-- How long the sections of documents are, each with its kind byte. -/
def sequencesSize : List DocumentSequence → Nat
  | [] => 0
  | sequence :: rest => 1 + sequence.size + sequencesSize rest

/-- How long a message is with its header. -/
def Message.size (message : Message) : Nat :=
  headerLength + (4 + 1 + message.body.bytes.length + sequencesSize message.sequences)

theorem encodeSequences_size (sequences : List DocumentSequence)
    (small : sequencesSize sequences ≤ largestWord) :
    ∃ bytes, encodeSequences sequences = .ok bytes ∧ bytes.length = sequencesSize sequences := by
  induction sequences with
  | nil => exact ⟨[], rfl, rfl⟩
  | cons sequence rest ih =>
    simp only [sequencesSize] at small ⊢
    -- Each section is a part of the sum, so none of them is too long.
    obtain ⟨back, others, long⟩ := ih (by omega)
    rw [encodeSequences, DocumentSequence.encode, if_neg (by omega), others]
    refine ⟨_, rfl, ?_⟩
    simp only [List.length_append, Bytes.length_ofNat, List.length_singleton, long,
      DocumentSequence.size]
    omega

/-- A frame is as long as its header and its body. -/
theorem frame_size (code : OpCode) (id answering : Int32) {body : Bytes}
    (small : headerLength + body.length ≤ largestWord) :
    ∃ bytes, frame code id answering body = .ok bytes ∧
      bytes.length = headerLength + body.length := by
  refine ⟨_, if_neg (Nat.not_lt.mpr small), ?_⟩
  simp only [List.length_append, Bytes.length_ofNat, Bytes.ofInt32, headerLength]

/-- A frame fits exactly when its header and its body do. -/
theorem frame_fits_iff (code : OpCode) (id answering : Int32) {body : Bytes} {limit : Nat}
    (bounded : limit ≤ largestWord) :
    (∃ bytes, frame code id answering body = .ok bytes ∧ bytes.length ≤ limit) ↔
      headerLength + body.length ≤ limit := by
  constructor
  · rintro ⟨bytes, framed, fits⟩
    -- A frame that was made is no longer than a word tells, so its length is known.
    have within : headerLength + body.length ≤ largestWord := by
      unfold frame at framed
      dsimp only at framed
      split at framed
      · cases framed
      · omega
    obtain ⟨same, again, long⟩ := frame_size code id answering within
    obtain rfl := Except.ok.inj (framed.symm.trans again)
    rwa [← long]
  · intro fits
    obtain ⟨bytes, framed, long⟩ := frame_size code id answering (Nat.le_trans fits bounded)
    exact ⟨bytes, framed, by rwa [long]⟩

/-- A message that is not too long for a word is encoded, and it is as long as was reckoned. -/
theorem Message.encode_size {message : Message} (small : message.size ≤ largestWord) (id : Int32) :
    ∃ bytes, (Request.message message).encode id = .ok bytes ∧ bytes.length = message.size := by
  rw [size] at small
  obtain ⟨sections, written, long⟩ := encodeSequences_size message.sequences (by omega)
  -- The body is the flags, the kind byte and the document, and then the sections.
  let body := Bytes.ofUInt32 message.flags.toWord ++ [0] ++ message.body.bytes ++ sections
  have coded : message.encode = .ok body := by
    rw [Message.encode, written]
    rfl
  have length : body.length
      = 4 + 1 + message.body.bytes.length + sequencesSize message.sequences := by
    simp only [body, List.length_append, Bytes.ofUInt32, Bytes.length_ofNat, List.length_singleton,
      long]
  have within : headerLength + body.length ≤ largestWord := by omega
  obtain ⟨bytes, framed, total⟩ := frame_size .message id 0 within
  refine ⟨bytes, ?_, by rw [total, length, size]⟩
  rw [Request.encode, Request.encodeBody, coded]
  exact framed

/-- Beside a command documents weigh what they are long. -/
theorem Payload.weight_beside {description : ConnectionDescription}
    (modern : description.hasMessages = true) (place : Nat) (documents : List RawDocument) :
    weight description place documents = (documents.flatMap (·.bytes)).length := by
  induction documents generalizing place with
  | nil => rfl
  | cons document rest ih =>
    rw [weight, cost, if_pos modern, ih, List.flatMap_cons, List.length_append]

end Messages

/-- A raw form has at least its length and its end. -/
theorem Document.length_encode_pos {document : Document} {raw : RawDocument}
    (encoded : document.encode = .ok raw) : 0 < raw.bytes.length := by
  obtain ⟨bytes, -, rfl⟩ := encode_eq_ok.mp encoded
  rw [length_enclosed]
  omega

/-- Documents of a payload that was made of documents have bytes. -/
theorem Payload.content_pos {payload : Payload} {documents : List Document}
    {front : List RawDocument} (made : encodeAll documents = .ok payload.documents)
    (before : front <+: payload.remaining) (some : front ≠ []) :
    0 < (front.flatMap (·.bytes)).length := by
  -- The first document has a frame at least.
  cases front with
  | nil => exact absurd rfl some
  | cons first rest =>
    have among : first ∈ payload.documents :=
      List.mem_of_mem_drop (before.subset (List.mem_cons_self ..))
    obtain ⟨document, -, spelled⟩ := encode_of_mem_encodeAll made among
    have long := Document.length_encode_pos spelled
    rw [List.flatMap_cons, List.length_append]
    omega

/-- Where there are messages of the current framing, a command is framed as one. -/
theorem Command.request_asMessage (command : Command) {description : ConnectionDescription}
    (modern : description.hasMessages = true) :
    command.request description = (command.messageBody description.type).encode.bind fun body =>
      (checkCommand body description).bind fun _ => .ok (.message
        ⟨{ moreToCome := !command.responseExpected }, body, command.sequences⟩) := by
  rw [request, if_pos modern, toMessage]
  simp only [bind, Except.bind]
  cases (command.messageBody description.type).encode with
  | error cause => rfl
  | ok body =>
    dsimp only
    cases checkCommand body description <;> rfl

/-- The message of a bare command with documents of the payload beside it. -/
def Payload.bareMessage (payload : Payload) (plain : RawDocument) (documents : List RawDocument) :
    Message :=
  { body := plain, sequences := [⟨payload.kind.identifier, documents⟩] }

section Beside

variable {payload : Payload} {command : Command} {description : ConnectionDescription}
  {batch : DocumentSequence} {documents : List Document} {routed : Bytes}

/-- A batch beside a command is the longest front of what is left with which the bare command makes
a message that leaves the overhead free. What the framing puts into the command takes no more than
this overhead, so that the message is taken by the server, unless the command alone is too long. -/
theorem Payload.message_of_nextBatch (modern : description.hasMessages = true)
    (made : encodeAll documents = .ok payload.documents) (more : payload.hasMore = true)
    (batched : payload.nextBatch command.body description = .ok batch)
    (routing : encodeFields? (command.routing description.type) = some routed)
    (small : routed.length ≤ commandOverhead) :
    ∃ plain, command.body.encode = .ok plain ∧
      payload.IsLongest description (fun documents =>
        (payload.bareMessage plain documents).size + commandOverhead ≤ description.messageBytes)
        batch ∧
      (((command.beside [batch]).request description).isOk = true ∨
        ∃ size, description.documentBytes + commandOverhead < size ∧
          (command.beside [batch]).request description
            = refuse (.commandTooLarge size (description.documentBytes + commandOverhead))) ∧
      ∀ request, (command.beside [batch]).request description = .ok request →
        ∀ id, ∃ bytes, request.encode id = .ok bytes ∧ checkLength bytes description = .ok () := by
  obtain ⟨plain, encoded, -⟩ := Work.except_bind_ok batched
  obtain ⟨before, fields, rfl⟩ := Document.encode_eq_ok.mp encoded
  have chosen : payload.IsLongest description (fun documents =>
      (payload.bareMessage ⟨enclosed before⟩ documents).size + commandOverhead
        ≤ description.messageBytes) batch := by
    refine nextBatch_isLongest batched encoded fun documents some front => ?_
    -- A document has a length, so that no batch fits where the command alone does not.
    have positive := content_pos made front some
    simp only [weight_beside modern, budget, modern, if_true, messageBudget,
      Message.size, bareMessage, sequencesSize, DocumentSequence.size, DocumentSequence.content,
      nameLength]
    omega
  refine ⟨_, encoded, chosen, ?_⟩
  obtain ⟨after, extended, short⟩ := encodeFields?_extend fields routing
  -- The body is the command with what the framing puts into it.
  have written : ((command.beside [batch]).messageBody description.type).encode
      = .ok ⟨enclosed after⟩ := by
    rw [Command.messageBody_eq]
    exact Document.encode_eq_ok.mpr ⟨after, extended, rfl⟩
  have framed := (command.beside [batch]).request_asMessage modern
  rw [written, Except.bind, checkCommand] at framed
  split at framed
  · rename_i long
    exact ⟨.inr ⟨_, long, framed⟩, fun request asked => by
      rw [framed] at asked
      cases asked⟩
  · refine ⟨.inl (by rw [framed]; rfl), fun request asked id => ?_⟩
    rw [framed] at asked
    cases asked
    have room : Message.size ⟨{}, ⟨enclosed before⟩, [batch]⟩ + commandOverhead
        ≤ description.messageBytes := by
      have room := chosen.roomy (chosen.useful more)
      rwa [bareMessage, ← chosen.named] at room
    have bounded := description.messageBytes_le
    have total : Message.size ⟨{ moreToCome := !command.responseExpected }, ⟨enclosed after⟩,
        [batch]⟩ ≤ description.messageBytes := by
      simp only [Message.size, length_enclosed] at room ⊢
      omega
    obtain ⟨bytes, coded, long⟩ := Message.encode_size (Nat.le_trans total bounded) id
    rw [← long] at total
    exact ⟨bytes, coded, if_neg (Nat.not_lt.mpr total)⟩

/-- Three documents of fourteen bytes, and a server that has room for two of them beyond the command
and the overhead. -/
theorem Payload.message_of_nextBatch_two :
    let command : Command := { database := "db", body := [("insert", .string "c")] }
    let description : ConnectionDescription :=
      { address := default, messageLimit := 16467, documentLimit := 100 }
    let documents : List Document := [[("_id", .int32 0)], [("_id", .int32 1)], [("_id", .int32 2)]]
    ∃ payload batch, ofDocuments .insert documents = .ok payload ∧
      payload.nextBatch command.body description = .ok batch ∧ batch.documents.length = 2 ∧
      ∃ plain, payload.IsLongest description (fun documents =>
          (payload.bareMessage plain documents).size + commandOverhead ≤ description.messageBytes)
        batch ∧
      ∀ request, (command.beside [batch]).request description = .ok request →
        ∀ id, ∃ bytes, request.encode id = .ok bytes ∧ checkLength bytes description = .ok () := by
  intro command description documents
  let raws : List RawDocument := [⟨[14, 0, 0, 0, 16, 95, 105, 100, 0, 0, 0, 0, 0, 0]⟩,
    ⟨[14, 0, 0, 0, 16, 95, 105, 100, 0, 1, 0, 0, 0, 0]⟩,
    ⟨[14, 0, 0, 0, 16, 95, 105, 100, 0, 2, 0, 0, 0, 0]⟩]
  have made : encodeAll documents = .ok raws := Work.ok_of_toOption (by decide +kernel)
  let payload : Payload := { kind := .insert, documents := raws }
  -- That there is a batch, and how many documents it has, is computed; the rest is an instance.
  have batched : payload.nextBatch command.body description = .ok ⟨"documents", raws.take 2⟩ :=
    Work.ok_of_toOption (by decide +kernel)
  have routing : encodeFields? (command.routing description.type)
      = some [2, 36, 100, 98, 0, 3, 0, 0, 0, 100, 98, 0] := by decide +kernel
  obtain ⟨plain, -, longest, -, taken⟩ :=
    message_of_nextBatch (by decide) made (by decide) batched routing (by decide)
  refine ⟨payload, _, ?_, batched, rfl, plain, longest, taken⟩
  rw [ofDocuments, made]
  rfl

end Beside

end DocWire
