import DocWire.Command.Reply
import DocWire.Proofs.Work

/-! Grounds for a failure: the byte stream is none of them while a request is framed and encoded,
nor while a reply that was read is judged. -/

namespace DocWire

/-- A result that does not fail over the byte stream. -/
def Grounded {α : Type} (result : Except Cause α) : Prop :=
  Spares Cause.isNetwork result

namespace Grounded

variable {α : Type}

/-- What the caller asked for is no matter of the stream. -/
theorem refuse (fault : ArgumentFault) : Grounded (DocWire.refuse fault : Except Cause α) :=
  .error rfl

/-- What a response says, or what cannot be said, is no matter of the stream. -/
theorem badResponse (fault : ResponseFault) :
    Grounded (DocWire.badResponse fault : Except Cause α) :=
  .error rfl

end Grounded

section Encoding

theorem grounded_encodeNamespace (ns : Namespace) : Grounded (encodeNamespace ns) := by
  unfold encodeNamespace
  split
  · exact .ok _
  · exact .refuse _

/-- Runs of documents are encoded one after another; each can be too large. -/
theorem grounded_encodeSequences (sequences : List DocumentSequence) :
    Grounded (encodeSequences sequences) := by
  induction sequences with
  | nil => exact .ok _
  | cons sequence rest ih =>
    refine .bind ?_ fun _ => .bind ih fun _ => .ok _
    unfold DocumentSequence.encode
    split
    · exact Grounded.refuse _
    · exact .ok _

theorem grounded_encodeBody (request : Request) : Grounded request.encodeBody := by
  cases request with
  | message content => exact .bind (grounded_encodeSequences _) fun _ => .ok _
  | query content => exact .bind (grounded_encodeNamespace _) fun _ => .ok _
  | getMore content => exact .bind (grounded_encodeNamespace _) fun _ => .ok _
  | killCursors content =>
    -- Cursors are given by their numbers alone, without a namespace.
    show Grounded content.encode
    unfold LegacyKillCursors.encode
    split
    · exact .refuse _
    · exact .ok _
  | insert content => exact .bind (grounded_encodeNamespace _) fun _ => .ok _
  | update content => exact .bind (grounded_encodeNamespace _) fun _ => .ok _
  | delete content => exact .bind (grounded_encodeNamespace _) fun _ => .ok _

/-- No request fails over the stream before its bytes are known. -/
theorem grounded_encode (request : Request) (id : Int32) : Grounded (request.encode id) := by
  refine .bind (grounded_encodeBody request) fun body => ?_
  unfold frame
  dsimp only
  split
  · exact Grounded.refuse _
  · exact .ok _

theorem grounded_checkLength (bytes : Bytes) (description : ConnectionDescription) :
    Grounded (checkLength bytes description) := by
  unfold checkLength
  split
  · exact .refuse _
  · exact .ok _

/-- A connection that cannot be used is told as such. -/
theorem grounded_ensureOpen (line : Line) : Grounded line.ensureOpen := by
  unfold Line.ensureOpen
  split
  · exact .error rfl
  · split
    · exact .error rfl
    · exact .ok _

end Encoding

section Framing

theorem grounded_encodeDocument (document : Document) : Grounded document.encode := by
  unfold Document.encode
  split
  · exact .ok _
  · exact .badResponse _

theorem grounded_decode (document : RawDocument) : Grounded document.decode := by
  unfold RawDocument.decode
  split
  · exact .ok _
  · exact .badResponse _

theorem grounded_itemsOf (documents : List RawDocument) : Grounded (Command.itemsOf documents) := by
  induction documents with
  | nil => exact .ok _
  | cons document rest ih =>
    exact .bind (grounded_decode document) fun _ => .bind ih fun _ => .ok _

/-- Sequences are put into the body one after another. -/
theorem grounded_embed (body : Document) (sequences : List DocumentSequence) :
    Grounded (Command.embed body sequences) := by
  induction sequences generalizing body with
  | nil => exact .ok _
  | cons sequence rest ih => exact .bind (grounded_itemsOf _) fun _ => ih _

theorem grounded_checkCommand (document : RawDocument) (description : ConnectionDescription) :
    Grounded (checkCommand document description) := by
  unfold checkCommand
  dsimp only
  split
  · exact .refuse _
  · exact .ok _

/-- A command has its form, or grounds not to have one, in either framing. -/
theorem Command.grounded_request (command : Command) (description : ConnectionDescription) :
    Grounded (command.request description) := by
  unfold request
  -- In either framing the command is encoded, and then its length is checked.
  split
  · refine .map _ ?_
    exact .bind (grounded_encodeDocument _) fun body =>
      .bind (grounded_checkCommand body description) fun _ => .ok _
  · refine .map _ ?_
    exact .bind (grounded_embed _ _) fun _ => .bind (grounded_encodeDocument _) fun query =>
      .bind (grounded_checkCommand query description) fun _ => .ok _

end Framing

/-- A verdict of the server is no failure to reach it. -/
theorem grounded_ensureSuccess (document : RawDocument) : Grounded document.ensureSuccess := by
  unfold RawDocument.ensureSuccess
  split
  · exact .ok _
  · split
    · rename_i broken
      exact .error (grounded_decode document _ broken)
    · exact .error rfl

end DocWire
