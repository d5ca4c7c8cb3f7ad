import DocWire.Proofs.Command.Batch
import DocWire.Proofs.Command.Run

/-! The document behind a batch. To see where a batch ends, the document behind it is looked at, and
it is judged by its length before it is found not to belong to the batch: a document that no message
can hold keeps the whole batch in front of it from being sent. -/

namespace DocWire

namespace Payload

section Gathering

variable {description : ConnectionDescription} {budget position place used : Nat}
  {documents rest front : List RawDocument} {document long : RawDocument}

/-- Documents that are within the limits are gathered when nothing stands behind them. -/
theorem gather_self
    (short : ∀ document ∈ documents, document.bytes.length ≤ description.documentBytes)
    (counted : place + documents.length ≤ description.batchLimit)
    (paid : used + weight description place documents ≤ budget) :
    gather description budget position place used documents = .ok documents := by
  induction documents generalizing place used with
  | nil => rfl
  | cons document rest ih =>
    obtain ⟨first, others⟩ := List.forall_mem_cons.mp short
    rw [List.length_cons] at counted
    rw [weight] at paid
    -- Neither the number nor the budget is used up before this document.
    have open_ : ¬ (place = description.batchLimit ∨
        budget < used + cost description place document.bytes.length) := by
      omega
    have behind : gather description budget position (place + 1)
        (used + cost description place document.bytes.length) rest = .ok rest := by
      apply ih others
      · omega
      · omega
    simp only [gather, if_neg (Nat.not_lt.mpr first), if_neg open_, behind]
    rfl

/-- From a place on, a document that is too long stands right behind a front that is within the
limits on documents, on their number and on the budget. -/
structure Obstructed (description : ConnectionDescription) (budget place used : Nat)
    (documents front : List RawDocument) (long : RawDocument) : Prop where
  behind : front ++ [long] <+: documents
  short : ∀ document ∈ front, document.bytes.length ≤ description.documentBytes
  counted : place + front.length ≤ description.batchLimit
  paid : used + weight description place front ≤ budget
  tooLong : description.documentBytes < long.bytes.length

/-- A document that is too long is not in the front. -/
theorem Obstructed.of_long
    (obstructed : Obstructed description budget place used (document :: rest) front long)
    (excess : description.documentBytes < document.bytes.length) : front = [] ∧ long = document := by
  obtain ⟨before, short, -, -, -⟩ := obstructed
  cases front with
  | nil =>
    obtain ⟨same, -⟩ := List.cons_prefix_cons.mp before
    exact ⟨rfl, same⟩
  | cons first others =>
    -- The front would begin with a document that it has no room for.
    obtain ⟨rfl, -⟩ := List.cons_prefix_cons.mp before
    have := short first (List.mem_cons_self ..)
    omega

/-- A document that is not too long is the first of the front, and the rest is obstructed. -/
theorem obstructed_cons (fits : ¬ description.documentBytes < document.bytes.length) :
    Obstructed description budget place used (document :: rest) front long ↔
      ∃ others, front = document :: others ∧ Obstructed description budget (place + 1)
        (used + cost description place document.bytes.length) rest others long := by
  constructor
  · rintro ⟨before, short, counted, paid, tooLong⟩
    cases front with
    | nil =>
      -- The document right behind an empty front is the first one, and it is not too long.
      obtain ⟨rfl, -⟩ := List.cons_prefix_cons.mp before
      exact absurd tooLong fits
    | cons first others =>
      obtain ⟨rfl, behind⟩ := List.cons_prefix_cons.mp before
      rw [List.length_cons] at counted
      rw [weight] at paid
      exact ⟨others, rfl, behind, (List.forall_mem_cons.mp short).2, by omega, by omega, tooLong⟩
  · rintro ⟨others, rfl, behind, short, counted, paid, tooLong⟩
    refine ⟨List.cons_prefix_cons.mpr ⟨rfl, behind⟩,
      List.forall_mem_cons.mpr ⟨Nat.le_of_not_lt fits, short⟩, ?_, ?_, tooLong⟩
    · rw [List.length_cons]
      omega
    · rw [weight]
      omega

/-- Where a document joins the batch, gathering fails when it fails behind it. -/
theorem gather_cons_eq_error {cause : Cause}
    (fits : ¬ description.documentBytes < document.bytes.length)
    (free : ¬ (place = description.batchLimit ∨
      budget < used + cost description place document.bytes.length)) :
    gather description budget position place used (document :: rest) = .error cause ↔
      gather description budget position (place + 1)
        (used + cost description place document.bytes.length) rest = .error cause := by
  simp only [gather, if_neg fits, if_neg free]
  -- A failure behind it is handed on, and what was gathered there is no failure.
  cases gather description budget position (place + 1)
    (used + cost description place document.bytes.length) rest with
  | error other => exact Iff.rfl
  | ok others =>
    constructor
    · intro failed
      cases failed
    · intro failed
      cases failed

/-- Gathering fails exactly when a document that is too long stands right behind a front that is
within the limits, be the front full or not. -/
theorem gather_eq_error {cause : Cause} (room : place ≤ description.batchLimit)
    (spent : used ≤ budget) :
    gather description budget position place used documents = .error cause ↔
      ∃ front long, Obstructed description budget place used documents front long ∧
        cause = .argument (.payloadDocumentTooLarge (position + (place + front.length))
          long.bytes.length description.documentBytes) := by
  -- The induction follows the documents that are looked at, one after another.
  induction documents generalizing place used with
  | nil =>
    constructor
    · intro failed
      cases failed
    · rintro ⟨front, long, obstructed, -⟩
      have := obstructed.behind.length_le
      simp at this
  | cons document rest ih =>
    by_cases excess : description.documentBytes < document.bytes.length
    · -- The document is looked at, and nothing in front of it can have failed.
      have refused : gather description budget position place used (document :: rest)
          = refuse (.payloadDocumentTooLarge (position + place) document.bytes.length
            description.documentBytes) := by
        simp only [gather, if_pos excess]
      rw [refused]
      constructor
      · intro failed
        cases failed
        exact ⟨[], document,
          ⟨by simp, by simp, by simpa using room, by simpa [weight] using spent, excess⟩, rfl⟩
      · rintro ⟨front, long, obstructed, rfl⟩
        obtain ⟨rfl, rfl⟩ := obstructed.of_long excess
        rfl
    · simp only [obstructed_cons excess]
      by_cases full : place = description.batchLimit ∨
          budget < used + cost description place document.bytes.length
      · -- The batch ends here, and what stands behind the document is never looked at.
        have ended : gather description budget position place used (document :: rest) = .ok [] := by
          simp only [gather, if_neg excess, if_pos full]
        rw [ended]
        constructor
        · intro failed
          cases failed
        · rintro ⟨front, long, ⟨others, rfl, obstructed⟩, -⟩
          have counted := obstructed.counted
          have paid := obstructed.paid
          omega
      · -- The document joins the batch, and the rest decides.
        have place_eq (others : List RawDocument) :
            place + (document :: others).length = place + 1 + others.length := by
          rw [List.length_cons]
          omega
        rw [gather_cons_eq_error excess full, ih (by omega) (by omega)]
        constructor
        · rintro ⟨others, long, obstructed, rfl⟩
          refine ⟨document :: others, long, ⟨others, rfl, obstructed⟩, ?_⟩
          rw [place_eq]
        · rintro ⟨front, long, ⟨others, rfl, obstructed⟩, rfl⟩
          refine ⟨others, long, obstructed, ?_⟩
          rw [place_eq]

end Gathering

variable {payload : Payload} {command : Document} {description : ConnectionDescription}
  {plain : RawDocument} {length : Nat} {front : List RawDocument} {first long : RawDocument}

/-- The documents of the payload up to so many of those that are left. -/
def upTo (payload : Payload) (count : Nat) : Payload :=
  { payload with
    documents := payload.documents.take (payload.position + count)
    bounded := by
      have := payload.bounded
      rw [List.length_take]
      omega }

/-- What is left of a payload that ends with a front of what was left is this front. -/
theorem remaining_upTo (before : front <+: payload.remaining) :
    (payload.upTo front.length).remaining = front := by
  show (payload.documents.take (payload.position + front.length)).drop payload.position = front
  rw [List.drop_take, Nat.add_sub_cancel_left]
  exact (List.prefix_iff_eq_take.mp before).symm

/-- A front of what is left is within the limits on documents, on their number and on the message,
when a command of some length goes with it. -/
structure Within (payload : Payload) (description : ConnectionDescription) (length : Nat)
    (front : List RawDocument) : Prop where
  before : front <+: payload.remaining
  short : ∀ document ∈ front, document.bytes.length ≤ description.documentBytes
  counted : front.length ≤ description.batchLimit
  paid : weight description 0 front ≤ payload.budget length description

/-- A document that is too long for the server stands right behind a front within the limits. -/
structure Blocked (payload : Payload) (description : ConnectionDescription) (length : Nat)
    (front : List RawDocument) (long : RawDocument) : Prop where
  within : payload.Within description length front
  behind : front ++ [long] <+: payload.remaining
  tooLong : description.documentBytes < long.bytes.length

/-- A payload is blocked when what is left of it is obstructed within its budget. -/
theorem blocked_iff :
    payload.Blocked description length front long ↔
      Obstructed description (payload.budget length description) 0 0 payload.remaining front
        long := by
  constructor
  · rintro ⟨⟨-, short, counted, paid⟩, behind, tooLong⟩
    exact ⟨behind, short, by omega, by omega, tooLong⟩
  · rintro ⟨behind, short, counted, paid, tooLong⟩
    have before : front <+: payload.remaining := (List.prefix_append ..).trans behind
    exact ⟨⟨before, short, by omega, by omega⟩, behind, tooLong⟩

/-- A document that is too long is refused when it is looked at, and so is the batch before it. -/
theorem Blocked.nextBatch_eq (blocked : payload.Blocked description plain.bytes.length front long)
    (encoded : command.encode = .ok plain) :
    payload.nextBatch command description
      = refuse (.payloadDocumentTooLarge (payload.position + front.length) long.bytes.length
        description.documentBytes) := by
  apply nextBatch_of_gather_error encoded
  apply (gather_eq_error (Nat.zero_le _) (Nat.zero_le _)).mpr
  refine ⟨front, long, blocked_iff.mp blocked, ?_⟩
  rw [Nat.zero_add]

/-- A front within the limits is sent next when nothing stands behind it. -/
theorem Within.nextBatch_upTo (within : payload.Within description plain.bytes.length front)
    (some : front ≠ []) (encoded : command.encode = .ok plain) :
    (payload.upTo front.length).nextBatch command description
      = .ok ⟨payload.kind.identifier, front⟩ := by
  obtain ⟨before, short, counted, paid⟩ := within
  -- With nothing behind it, the front is all that is left, and all of it is gathered.
  have left := remaining_upTo before
  have gathered : gather description (payload.budget plain.bytes.length description)
      payload.position 0 0 (payload.upTo front.length).remaining = .ok front := by
    rw [left]
    exact gather_self short (by omega) (by omega)
  rw [nextBatch_of_gather encoded gathered]
  have full : front.isEmpty = false := by
    cases front with
    | nil => exact absurd rfl some
    | cons first rest => rfl
  rw [full]
  rfl

/-- Where nothing blocks it, a batch with the first document at least is sent next. -/
theorem nextBatch_of_unblocked (fits : payload.Within description plain.bytes.length [first])
    (clear : ∀ front long, ¬ payload.Blocked description plain.bytes.length front long)
    (encoded : command.encode = .ok plain) :
    ∃ batch, payload.nextBatch command description = .ok batch ∧ batch.documents ≠ [] := by
  cases gathered : gather description (payload.budget plain.bytes.length description)
      payload.position 0 0 payload.remaining with
  | error cause =>
    -- Something was too long, and it stood behind a front within the limits.
    obtain ⟨front, long, obstructed, -⟩ :=
      (gather_eq_error (Nat.zero_le _) (Nat.zero_le _)).mp gathered
    exact absurd (blocked_iff.mpr obstructed) (clear front long)
  | ok taken =>
    have some : taken ≠ [] := by
      intro none
      -- Had nothing been taken, the first document would have been too much.
      have excess := (gather_fills (Nat.zero_le _) gathered).longest [first] fits.before
        (by simp [none])
      have counted := fits.counted
      have paid := fits.paid
      omega
    refine ⟨⟨payload.kind.identifier, taken⟩, ?_, some⟩
    rw [nextBatch_of_gather encoded gathered]
    cases taken with
    | nil => exact absurd rfl some
    | cons first rest => rfl

end Payload

namespace CommandCall

/-- A call asks the payload on the line for a batch to go with a command. -/
structure Offers (call : CommandCall) (line : Line) (payload : Payload) (base : Command) : Prop
    where
  lent : line.payload = some payload
  usable : ∀ session, line.session = some session → session.ensureUsable = .ok ()
  stamped : call.stamped line.session = .ok base

/-- A command for which there is no batch is not sent, and leaves all as it was. -/
theorem Offers.run_eq {α : Type} {call : CommandCall} {line : Line} {payload : Payload}
    {base : Command} {cause : Cause} (offers : call.Offers line payload base)
    (refused : payload.nextBatch base.body line.connection.description = .error cause)
    (decoder : Decoder α) : call.run decoder line = (.error (.ofCause cause), line) := by
  obtain ⟨lent, usable, stamped⟩ := offers
  have session := Exchange.ensureSession_usable usable
  simp only [run, prepare, Work.bind_apply, session, Work.get_apply, stamped, Exchange.check_ok,
    Exchange.withBatch, lent, refused]
  rfl

end CommandCall

namespace Payload

variable {payload : Payload} {command : Document} {description : ConnectionDescription}
  {plain first : RawDocument}

/-- When the next document alone is within the limits, there is a batch with it exactly when no
document that is too long stands right behind a front within the limits. Such a document is refused
in place of the batch, although the front before it would be sent if nothing stood behind it; and
a command with this payload is not sent, however often it is run. -/
theorem nextBatch_iff_unblocked (encoded : command.encode = .ok plain)
    (fits : payload.Within description plain.bytes.length [first]) :
    ((∃ batch, payload.nextBatch command description = .ok batch ∧ batch.documents ≠ []) ↔
      ∀ front long, ¬ payload.Blocked description plain.bytes.length front long) ∧
    ∀ front long, payload.Blocked description plain.bytes.length front long →
      let fault := ArgumentFault.payloadDocumentTooLarge (payload.position + front.length)
        long.bytes.length description.documentBytes
      payload.nextBatch command description = refuse fault ∧
      (payload.upTo front.length).nextBatch command description
        = .ok ⟨payload.kind.identifier, front⟩ ∧
      ∀ (call : CommandCall) (line : Line) (base : Command), call.Offers line payload base →
        base.body = command → line.connection.description = description →
        ∀ {α : Type} (decoder : Decoder α),
          call.run decoder line = (.error (.ofCause (.argument fault)), line) := by
  constructor
  · constructor
    · rintro ⟨batch, batched, -⟩ front long blocked
      rw [blocked.nextBatch_eq encoded] at batched
      cases batched
    · intro clear
      exact nextBatch_of_unblocked fits clear encoded
  · intro front long blocked fault
    have refused : payload.nextBatch command description = refuse fault :=
      blocked.nextBatch_eq encoded
    have some : front ≠ [] := by
      rintro rfl
      -- The document that is left first is not too long.
      have same : first = long := by
        have one := List.prefix_iff_eq_take.mp fits.before
        have other := List.prefix_iff_eq_take.mp blocked.behind
        simpa using one.trans other.symm
      have short := fits.short first (List.mem_singleton_self _)
      have tooLong := blocked.tooLong
      rw [← same] at tooLong
      omega
    refine ⟨refused, blocked.within.nextBatch_upTo some encoded, ?_⟩
    rintro call line base offers rfl rfl α decoder
    exact offers.run_eq refused decoder

/-- A batch takes one document at most, and the second document is a byte too long: the first one is
not sent either. -/
theorem nextBatch_iff_unblocked_second :
    let command : Document := [("insert", .string "c")]
    let description : ConnectionDescription :=
      { address := default, documentLimit := 20, batchLimit := 1 }
    let documents : List Document := [[("_id", .int32 0)], [("_id", .int32 1), ("x", .int32 1)]]
    ∃ payload first, ofDocuments .insert documents = .ok payload ∧
      payload.nextBatch command description = refuse (.payloadDocumentTooLarge 1 21 20) ∧
      (payload.upTo 1).nextBatch command description = .ok ⟨"documents", [first]⟩ := by
  intro command description documents
  let first : RawDocument := ⟨[14, 0, 0, 0, 16, 95, 105, 100, 0, 0, 0, 0, 0, 0]⟩
  let long : RawDocument :=
    ⟨[21, 0, 0, 0, 16, 95, 105, 100, 0, 1, 0, 0, 0, 16, 120, 0, 1, 0, 0, 0, 0]⟩
  have made : encodeAll documents = .ok [first, long] := Work.ok_of_toOption (by decide +kernel)
  let payload : Payload := { kind := .insert, documents := [first, long] }
  have encoded : command.encode
      = .ok ⟨[19, 0, 0, 0, 2, 105, 110, 115, 101, 114, 116, 0, 2, 0, 0, 0, 99, 0, 0]⟩ :=
    Work.ok_of_toOption (by decide +kernel)
  have fits : payload.Within description 19 [first] :=
    ⟨⟨[long], rfl⟩, by decide, by decide, by decide +kernel⟩
  -- The first document fills the batch, and the one behind it is looked at all the same.
  have blocked : payload.Blocked description 19 [first] long := ⟨fits, ⟨[], rfl⟩, by decide⟩
  obtain ⟨refused, alone, -⟩ := (nextBatch_iff_unblocked encoded fits).2 [first] long blocked
  refine ⟨payload, first, ?_, refused, alone⟩
  rw [ofDocuments, made]
  rfl

end Payload

end DocWire
