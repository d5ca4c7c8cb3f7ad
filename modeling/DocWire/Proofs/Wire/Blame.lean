import DocWire.Command.Reply
import DocWire.Cursor.Batch
import DocWire.Proofs.Connection.Exchange

/-! Who is to blame: what a server sends may be wrong in many ways, but none of them is told as a
refusal of what the caller asked for. -/

namespace DocWire

/-- Whether a cause refuses what the caller asked for. -/
def Cause.blames : Cause → Bool
  | argument _ => true
  | _ => false

/-- Whether work ended because what the caller asked for was refused. -/
def Halt.blames : Halt → Bool
  | .failed error => error.cause.blames
  | _ => false

/-- A result that does not refuse what the caller asked for. -/
def Blameless {α : Type} (result : Except Cause α) : Prop :=
  ∀ cause, result = .error cause → cause.blames = false

namespace Blameless

variable {α β : Type}

theorem ok (value : α) : Blameless (.ok value) :=
  Spares.ok value

theorem error {cause : Cause} (innocent : cause.blames = false) :
    Blameless (.error cause : Except Cause α) :=
  Spares.error innocent

/-- Steps that do not blame the caller do not do so together. -/
theorem bind {first : Except Cause α} {next : α → Except Cause β} (one : Blameless first)
    (two : ∀ value, Blameless (next value)) : Blameless (first >>= next) :=
  Spares.bind one two

/-- A change of the value blames nobody. -/
theorem map {result : Except Cause α} (change : α → β) (one : Blameless result) :
    Blameless (result.map change) :=
  Spares.map change one

end Blameless

/-- Bytes that are wrong are the server's fault. -/
theorem blameless_badResponse {α : Type} (fault : ResponseFault) :
    Blameless (badResponse fault : Except Cause α) := .error rfl

section Reading

variable (bytes : Bytes)

theorem blameless_readBytes (count : Nat) : Blameless (readBytes count bytes) := by
  unfold readBytes
  split
  · exact .ok _
  · exact .error rfl

theorem blameless_readInt32 : Blameless (readInt32 bytes) :=
  .bind (blameless_readBytes bytes 4) fun _ => .ok _

theorem blameless_readInt64 : Blameless (readInt64 bytes) :=
  .bind (blameless_readBytes bytes 8) fun _ => .ok _

theorem blameless_readUInt32 : Blameless (readUInt32 bytes) :=
  .bind (blameless_readBytes bytes 4) fun _ => .ok _

theorem blameless_readZeroTerminated : Blameless (readZeroTerminated bytes) := by
  unfold readZeroTerminated
  split
  · exact .error rfl
  · split
    · exact blameless_badResponse _
    · exact .ok _

theorem blameless_readDocument : Blameless (readDocument bytes) := by
  refine .bind (blameless_readInt32 bytes) fun (length, _) => ?_
  -- Whatever is wrong with the length or the bytes, they came from the server.
  dsimp only
  split
  · exact blameless_badResponse _
  · split
    · exact blameless_badResponse _
    · split
      · exact blameless_badResponse _
      · exact .ok _

theorem blameless_readDocuments : Blameless (readDocuments bytes) := by
  -- The induction follows the documents that are read, one after another.
  fun_induction readDocuments bytes with
  | case1 => exact .ok _
  | case2 bytes _ cause found => exact .error (blameless_readDocument bytes cause found)
  | case3 _ _ _ _ _ _ cause found ih => exact .error (ih cause found)
  | case4 => exact .ok _

theorem blameless_readRun (declared : Int32) (length : Nat) :
    Blameless (readRun declared length bytes) := by
  fun_induction readRun declared length bytes with
  | case1 => exact .ok _
  | case2 _ bytes _ cause found => exact .error (blameless_readDocument bytes cause found)
  | case3 => exact blameless_badResponse _
  | case4 _ _ _ _ _ _ _ _ _ cause found ih => exact .error (ih cause found)
  | case5 => exact .ok _

theorem blameless_readSequence : Blameless (readSequence bytes) := by
  -- Whatever is wrong with the size, the name or the documents is wrong with the response.
  refine .bind (blameless_readInt32 bytes) fun (declared, _) => ?_
  dsimp only
  split
  · exact blameless_badResponse _
  · refine .bind (blameless_readZeroTerminated _) fun (identifier, _) => ?_
    dsimp only
    split
    · exact blameless_badResponse _
    · exact .bind (blameless_readRun _ _ _) fun _ => .ok _

theorem blameless_readSection : Blameless (readSection bytes) := by
  unfold readSection
  split
  · exact .error rfl
  · split
    · exact .bind (blameless_readDocument _) fun _ => .ok _
    · exact .bind (blameless_readSequence _) fun _ => .ok _

theorem blameless_readSections (trailer : Nat) (seen : Sections) :
    Blameless (readSections trailer seen bytes) := by
  fun_induction readSections trailer seen bytes with
  | case1 => exact .ok _
  | case2 _ bytes _ cause found => exact .error (blameless_readSection bytes cause found)
  | case3 _ _ _ _ _ _ _ ih => exact ih
  | case4 => exact blameless_badResponse _
  | case5 _ _ _ _ _ _ _ _ ih => exact ih

/-- A message that cannot be read is the server's fault. -/
theorem blameless_message (declared : Int32) : Blameless (Message.read declared bytes) := by
  refine .bind (blameless_readUInt32 bytes) fun (word, rest) => ?_
  dsimp only
  -- How much room is kept free for a checksum has no part in who is to blame.
  generalize (if (MessageFlags.ofWord word).checksumPresent = true then 4 else 0) = trailer
  split
  · exact blameless_badResponse _
  · refine .bind (blameless_readSections _ _ _) fun (sections, _) => ?_
    dsimp only
    split
    · exact blameless_badResponse _
    · split
      · exact blameless_badResponse _
      · exact .ok _

/-- A legacy reply that cannot be read is the server's fault. -/
theorem blameless_reply : Blameless (Reply.read bytes) := by
  refine .bind (blameless_readUInt32 bytes) fun _ => .bind (blameless_readInt64 _) fun _ =>
    .bind (blameless_readInt32 _) fun _ => .bind (blameless_readInt32 _) fun _ =>
      .bind (blameless_readDocuments _) fun _ => ?_
  split
  · exact .ok _
  · exact blameless_badResponse _

/-- A frame that is no answer to the request is the server's fault. -/
theorem blameless_answer (request : Int32) (header : Header) :
    Blameless (Response.answer request header bytes) := by
  refine .bind ?_ fun response => ?_
  · unfold Response.read
    split
    · exact (blameless_reply bytes).map _
    · exact (blameless_message bytes _).map _
    · exact blameless_badResponse _
  · split
    · exact .ok _
    · exact blameless_badResponse _

end Reading

section Replies

variable (document : RawDocument)

theorem blameless_decode : Blameless document.decode := by
  unfold RawDocument.decode
  split
  · exact .ok _
  · exact blameless_badResponse _

/-- A failure that a reply reports is the server's own. -/
theorem blameless_ensureSuccess : Blameless document.ensureSuccess := by
  unfold RawDocument.ensureSuccess
  split
  · exact .ok _
  · split
    · rename_i broken
      exact .error (blameless_decode document _ broken)
    · exact .error rfl

theorem blameless_writeResult (isUpdate : Bool) : Blameless (writeResult document isUpdate) := by
  refine .bind (blameless_ensureSuccess document) fun _ => ?_
  split
  · exact .error rfl
  · split
    · exact .error rfl
    · exact .ok _

theorem blameless_lastErrorResult : Blameless (lastErrorResult document) := by
  refine .bind (blameless_ensureSuccess document) fun _ => ?_
  split
  · exact .error rfl
  · split
    · exact .error rfl
    · exact .ok _

theorem blameless_requireField {α : Type} (key : String) (kind : ElementKind)
    (field : Except RawDocument.Missing α) : Blameless (requireField key kind field) := by
  unfold requireField
  split
  · exact .ok _
  · exact blameless_badResponse _

theorem blameless_cursorNumber : Blameless (cursorNumber document) := by
  refine .bind (blameless_requireField _ _ _) fun value => ?_
  split
  · exact .ok _
  · exact blameless_badResponse _

theorem blameless_expectReply (response : Option Response) : Blameless (expectReply response) := by
  unfold expectReply
  split
  · exact .ok _
  · exact blameless_badResponse _
  · exact .error rfl

end Replies

/-- While a frame is awaited, only the server and the stream can fail. -/
theorem blames_receiveFrom {channel : Channel} {limit : Int32} {waiting : Waiting} {now time : Nat}
    {arrived : Bytes} {coming : List Parcel} {cause : Cause}
    (failed : receiveFrom channel limit waiting now arrived coming = .failed time cause) :
    cause.blames = false := by
  -- Each parcel joins the bytes that have arrived before it.
  fun_induction receiveFrom channel limit waiting now arrived coming with
  | case1 =>
    cases failed
    rfl
  | case2 => cases failed
  | case3 =>
    cases failed
    rfl
  | case4 => cases failed
  | case5 => cases failed
  | case6 _ _ _ _ _ _ _ ih => exact ih failed

/-- An exchange that is to fail has the server or the stream to blame. -/
theorem Line.blames_start {line : Line} {sending : Sending} {channel : Channel} {time : Nat}
    {cause : Cause} (failed : (line.start sending channel).2 = .failed time cause) :
    cause.blames = false := by
  cases hungUp : channel.hungUp with
  | true =>
    rw [line.start_hungUp sending hungUp] at failed
    cases failed
    rfl
  | false =>
    rw [line.start_connected sending hungUp] at failed
    dsimp only at failed
    split at failed
    · -- The receipt failed, or the frame that was received is no answer.
      generalize got : Channel.receive .. = receipt at failed
      cases receipt with
      | never => cases failed
      | failed time cause =>
        cases failed
        exact blames_receiveFrom got
      | frame time header body rest =>
        simp only [Receipt.ending] at failed
        split at failed
        · cases failed
        · rename_i wrong
          cases failed
          exact blameless_answer body sending.id header _ wrong
    · cases failed

/-- An exchange never ends with a refusal of what the caller asked for. -/
theorem blames_carryOut {sending : Sending} {line after : Line} {halt : Halt}
    (ended : carryOut sending line = (.error halt, after)) : halt.blames = false := by
  cases found : line.connection.channel with
  | none =>
    rw [carryOut_none found] at ended
    cases ended
    rfl
  | some channel =>
    rw [carryOut_some found] at ended
    -- The ending that was foreseen is what is told.
    cases foreseen : (line.start sending channel).2 with
    | completed time response rest =>
      rw [foreseen] at ended
      cases ended
    | failed time cause =>
      rw [foreseen] at ended
      cases ended
      exact Line.blames_start foreseen
    | never =>
      rw [foreseen] at ended
      cases ended
      rfl

end DocWire
