import DocWire.Proofs.Cursor.Gone
import DocWire.Proofs.Document.Elements
import DocWire.Proofs.Document.Record
import DocWire.Proofs.Executor.Mismatch

/-! What comes of a write that has to be acknowledged. A failure may be told in five places: by a
flag of the reply, by its number under `ok`, and by the fields of either dialect. The first of them
is the failure of the write, and where there is none the reply tells the result. -/

namespace DocWire

/-- The fields of a document as they are found, repeated names included. -/
def RawDocument.fields (document : RawDocument) : List (String × RawValue) :=
  foundFields document.elements

/-- A document reports a success by a whole number one, of any numeric type. -/
theorem RawDocument.reportsSuccess_iff {document : RawDocument} :
    document.reportsSuccess = true ↔
      ∃ value, document.value? "ok" = some value ∧ value.whole? = some 1 := by
  unfold reportsSuccess
  cases document.value? "ok" with
  | none => simp
  | some value => cases whole : value.whole? <;> simp [whole]

/-- What grants something is a document that reports a success. -/
theorem Response.Grants.reportsSuccess {response : Response} {document : RawDocument}
    (granted : response.Grants document) : document.reportsSuccess = true := by
  cases granted with
  | reply begins unflagged done => exact done
  | message done => exact done

section Told

variable {document : RawDocument}

/-- The item of an array of upserted documents that tells an id, by its name or by its place. -/
inductive UpsertedAs : RawValue → Value → Prop where
  | named {fields : List (String × RawValue)} {id : Value} (beside : ReadableBeside ["_id"] fields)
    (held : Required fields "_id" (fun value id => value.any? = some id) id) :
    UpsertedAs (.document fields) id
  | listed {first : RawValue} {rest : List RawValue} {id : Value} (told : first.any? = some id) :
    UpsertedAs (.array (first :: rest)) id

theorem upsertedId?_eq_some {item : RawValue} {id : Value} :
    upsertedId? item = some id ↔ UpsertedAs item id := by
  -- A record is that of a document or of an array, and of no other value is an id read.
  simp only [upsertedId?, Option.bind_eq_bind, Option.bind_eq_some_iff]
  constructor
  · rintro ⟨record, found, read⟩
    rcases Record.ofValue?_cases found with ⟨fields, rfl, beside, rfl⟩ | ⟨items, rfl, rfl⟩ | rfl
    · exact .named beside ((Record.required?_ofFields (by simp)).mp read)
    · cases items with
      | nil => cases read
      | cons first rest => exact .listed read
    · cases read
  · rintro (⟨beside, held⟩ | told)
    · exact ⟨_, Record.ofValue?_document.mpr ⟨beside, rfl⟩,
        (Record.required?_ofFields (by simp)).mpr held⟩
    · exact ⟨_, rfl, told⟩

/-- A document tells of a write that was refused, its fields being of the types expected. -/
inductive WriteError.Told : RawValue → WriteError → Prop where
  | document {fields : List (String × RawValue)} {error : WriteError}
    (beside : ReadableBeside ["index", "code", "codeName", "errmsg"] fields)
    (index : Defaulted fields "index" 0 (fun value index => value.Counts (index : Nat)) error.index)
    (code : Required fields "code" (fun value code => value.Counts code.toInt) error.code)
    (codeName : Optional fields "codeName" RawValue.Spells error.codeName)
    (message : Defaulted fields "errmsg" "" RawValue.Spells error.message) :
    Told (.document fields) error

theorem WriteError.ofValue?_of_told {value : RawValue} {error : WriteError}
    (told : Told value error) : ofValue? value = some error := by
  -- Each field is read as what it tells, in the order of the reader.
  obtain ⟨beside, index, code, codeName, message⟩ := told
  simp only [ofValue?, Option.bind_eq_bind, Option.bind_eq_some_iff]
  refine ⟨_, Record.ofValue?_document.mpr ⟨beside, rfl⟩, _,
    (Record.defaulted?_ofFields (by simp)).mpr
      (index.mono fun _ _ => RawValue.natural?_eq_some.mpr), _,
    (Record.required?_ofFields (by simp)).mpr (code.mono fun _ _ => RawValue.word?_eq_some.mpr), _,
    (Record.defaulted?_orNull (by simp)).mpr (codeName.mono fun _ _ => RawValue.text?_of_spells), _,
    (Record.defaulted?_ofFields (by simp)).mpr (message.mono fun _ _ => RawValue.text?_of_spells),
    rfl⟩

/-- A document tells of a write that was not confirmed, its fields being of the types expected. -/
inductive WriteConcernError.Told : RawValue → WriteConcernError → Prop where
  | document {fields : List (String × RawValue)} {error : WriteConcernError}
    (beside : ReadableBeside ["code", "codeName", "errmsg", "errInfo"] fields)
    (code : Required fields "code" (fun value code => value.Counts code.toInt) error.code)
    (codeName : Defaulted fields "codeName" "" RawValue.Spells error.codeName)
    (message : Defaulted fields "errmsg" "" RawValue.Spells error.message)
    (details : Optional fields "errInfo" (fun value info => value.document? = some info)
      error.details) : Told (.document fields) error

theorem WriteConcernError.ofValue?_of_told {value : RawValue} {error : WriteConcernError}
    (told : Told value error) : ofValue? value = some error := by
  -- Each field is read as what it tells, in the order of the reader.
  obtain ⟨beside, code, codeName, message, details⟩ := told
  simp only [ofValue?, Option.bind_eq_bind, Option.bind_eq_some_iff]
  refine ⟨_, Record.ofValue?_document.mpr ⟨beside, rfl⟩, _,
    (Record.required?_ofFields (by simp)).mpr (code.mono fun _ _ => RawValue.word?_eq_some.mpr), _,
    (Record.defaulted?_ofFields (by simp)).mpr (codeName.mono fun _ _ => RawValue.text?_of_spells),
    _,
    (Record.defaulted?_ofFields (by simp)).mpr (message.mono fun _ _ => RawValue.text?_of_spells),
    _, (Record.optional?_ofFields (by simp)).mpr details, rfl⟩

/-- The fields that a reply to a write command is read for. -/
def WriteReport.names : List String := ["n", "upserted", "writeErrors", "writeConcernError"]

/-- The fields of a reply to a write command tell a report, all of them having the types that are
expected. -/
structure WriteReport.Told (fields : List (String × RawValue)) (report : WriteReport) : Prop where
  beside : ReadableBeside WriteReport.names fields
  count : Defaulted fields "n" 0 (fun value count => value.Counts (count : Nat)) report.count
  upserted : Optional fields "upserted" (RawValue.Lists UpsertedAs) report.upserted
  refused : Optional fields "writeErrors" (RawValue.Lists WriteError.Told) report.refused
  unconfirmed : Optional fields "writeConcernError" WriteConcernError.Told report.unconfirmed

/-- A report is read off the fields of the document, one after another. -/
theorem WriteReport.ofRaw?_eq_some {report : WriteReport} :
    ofRaw? document = some report ↔ ReadableBeside names document.fields ∧
      Defaulted document.fields "n" 0 (fun value count => value.natural? = some count)
        report.count ∧
      Optional document.fields "upserted"
        (fun value ids => value.items? upsertedId? = some ids) report.upserted ∧
      Optional document.fields "writeErrors"
        (fun value errors => value.items? WriteError.ofValue? = some errors) report.refused ∧
      Optional document.fields "writeConcernError"
        (fun value error => WriteConcernError.ofValue? value = some error) report.unconfirmed := by
  -- The reader asks for one field after another, and each of them answers to its rule.
  simp only [ofRaw?, Option.bind_eq_bind, Option.bind_eq_some_iff]
  constructor
  · rintro ⟨record, found, count, held, upserted, ids, refused, errors, unconfirmed, error, same⟩
    cases same
    obtain ⟨beside, rfl⟩ := Record.ofValue?_document.mp found
    exact ⟨beside, (Record.defaulted?_ofFields (by simp)).mp held,
      (Record.optional?_ofFields (by simp)).mp ids,
      (Record.optional?_ofFields (by simp)).mp errors,
      (Record.optional?_ofFields (by simp)).mp error⟩
  · rintro ⟨beside, held, ids, errors, error⟩
    exact ⟨_, Record.ofValue?_document.mpr ⟨beside, rfl⟩, _,
      (Record.defaulted?_ofFields (by simp)).mpr held, _,
      (Record.optional?_ofFields (by simp)).mpr ids, _,
      (Record.optional?_ofFields (by simp)).mpr errors, _,
      (Record.optional?_ofFields (by simp)).mpr error, rfl⟩

theorem WriteReport.ofRaw?_of_told {report : WriteReport} (told : report.Told document.fields) :
    ofRaw? document = some report := by
  refine ofRaw?_eq_some.mpr ⟨told.beside, told.count.mono fun _ _ => RawValue.natural?_eq_some.mpr,
    told.upserted.mono fun _ _ ids => ?_, told.refused.mono fun _ _ errors => ?_,
    told.unconfirmed.mono fun _ _ => WriteConcernError.ofValue?_of_told⟩
  · exact RawValue.items?_eq_some.mpr (ids.mono fun _ _ => upsertedId?_eq_some.mpr)
  · exact RawValue.items?_eq_some.mpr (errors.mono fun _ _ => WriteError.ofValue?_of_told)

/-- The fields that a reply to a question for the last error is read for. -/
def LastError.names : List String :=
  ["err", "code", "codeName", "n", "updatedExisting", "upserted", "wtimeout"]

/-- The fields of a reply to a question for the last error tell a report, all of them having the
types that are expected. -/
structure LastError.Told (fields : List (String × RawValue)) (report : LastError) : Prop where
  beside : ReadableBeside LastError.names fields
  message : Optional fields "err" RawValue.Spells report.message
  code : Optional fields "code" (fun value code => value.Counts code.toInt) report.code
  codeName : Optional fields "codeName" RawValue.Spells report.codeName
  count : Defaulted fields "n" 0 (fun value count => value.Counts (count : Nat)) report.count
  updatedExisting : Defaulted fields "updatedExisting" false
    (fun value truth => value = .atom (.boolean truth)) report.updatedExisting
  upserted : Optional fields "upserted" (fun value id => value.any? = some id) report.upserted
  timedOut : Defaulted fields "wtimeout" false
    (fun value truth => value = .atom (.boolean truth)) report.timedOut

/-- A report is read off the fields of the document, one after another. -/
theorem LastError.ofRaw?_eq_some {report : LastError} :
    ofRaw? document = some report ↔ ReadableBeside names document.fields ∧
      Optional document.fields "err" (fun value text => value.text? = some text) report.message ∧
      Optional document.fields "code" (fun value code => value.word? = some code) report.code ∧
      Optional document.fields "codeName" (fun value text => value.text? = some text)
        report.codeName ∧
      Defaulted document.fields "n" 0 (fun value count => value.natural? = some count)
        report.count ∧
      Defaulted document.fields "updatedExisting" false
        (fun value truth => value.truth? = some truth) report.updatedExisting ∧
      Optional document.fields "upserted" (fun value id => value.any? = some id) report.upserted ∧
      Defaulted document.fields "wtimeout" false
        (fun value truth => value.truth? = some truth) report.timedOut := by
  -- The reader asks for one field after another, and each of them answers to its rule.
  simp only [ofRaw?, Option.bind_eq_bind, Option.bind_eq_some_iff]
  constructor
  · rintro ⟨record, found, message, text, code, word, codeName, name, count, held, updated, truth,
      upserted, id, timedOut, limit, same⟩
    cases same
    obtain ⟨beside, rfl⟩ := Record.ofValue?_document.mp found
    exact ⟨beside, (Record.optional?_ofFields (by simp)).mp text,
      (Record.optional?_ofFields (by simp)).mp word,
      (Record.optional?_ofFields (by simp)).mp name,
      (Record.defaulted?_ofFields (by simp)).mp held,
      (Record.defaulted?_ofFields (by simp)).mp truth,
      (Record.optional?_ofFields (by simp)).mp id,
      (Record.defaulted?_ofFields (by simp)).mp limit⟩
  · rintro ⟨beside, text, word, name, held, truth, id, limit⟩
    exact ⟨_, Record.ofValue?_document.mpr ⟨beside, rfl⟩, _,
      (Record.optional?_ofFields (by simp)).mpr text, _,
      (Record.optional?_ofFields (by simp)).mpr word, _,
      (Record.optional?_ofFields (by simp)).mpr name, _,
      (Record.defaulted?_ofFields (by simp)).mpr held, _,
      (Record.defaulted?_ofFields (by simp)).mpr truth, _,
      (Record.optional?_ofFields (by simp)).mpr id, _,
      (Record.defaulted?_ofFields (by simp)).mpr limit, rfl⟩

theorem LastError.ofRaw?_of_told {report : LastError} (told : report.Told document.fields) :
    ofRaw? document = some report := by
  -- Each field has one type that it is told in, and the reader takes at least that.
  have truth (value : RawValue) (truth : Bool) (same : value = .atom (.boolean truth)) :
      value.truth? = some truth := by
    rw [same]
    rfl
  exact ofRaw?_eq_some.mpr ⟨told.beside, told.message.mono fun _ _ => RawValue.text?_of_spells,
    told.code.mono fun _ _ => RawValue.word?_eq_some.mpr,
    told.codeName.mono fun _ _ => RawValue.text?_of_spells,
    told.count.mono fun _ _ => RawValue.natural?_eq_some.mpr,
    told.updatedExisting.mono truth, told.upserted, told.timedOut.mono truth⟩

end Told

namespace Write

/-- A reply to a write command tells no failure of the write, and what it tells instead. -/
structure CommandTells (document : RawDocument) (result : WriteResult) : Prop where
  accepted : ∀ value ∈ valuesUnder "writeErrors" document.fields,
    value = .atom .null ∨ value = .array []
  confirmed : ∀ value ∈ valuesUnder "writeConcernError" document.fields, value = .atom .null
  count : Defaulted document.fields "n" 0 (fun value count => value.Counts (count : Nat))
    result.count
  upserted : ∃ ids, Optional document.fields "upserted" (RawValue.Lists UpsertedAs) ids ∧
    result.upserted = ids.bind List.head?

/-- A reply to a question for the last error tells none, and what it tells instead. Both failures
of a write are told by the one text. -/
structure LastErrorTells (write : Write) (document : RawDocument) (result : WriteResult) :
    Prop where
  silent : ∀ value ∈ valuesUnder "err" document.fields, value = .atom .null
  inserted : write.statement.isInsert = true → result.count = 1
  count : write.statement.isInsert = false →
    Defaulted document.fields "n" 0 (fun value count => value.Counts (count : Nat)) result.count
  upserted : Optional document.fields "upserted" (fun value id => value.any? = some id)
    result.upserted

/-- The document of a reply tells that a write is done, and with which result. -/
structure Tells (write : Write) (commands : Bool) (document : RawDocument) (result : WriteResult) :
    Prop where
  ok : ∃ value, document.value? "ok" = some value ∧ value.whole? = some 1
  acknowledged : result.acknowledged = true
  told : if commands then CommandTells document result else write.LastErrorTells document result

/-- The first failure that a response tells, as the cause that it comes to. -/
inductive FirstFailure (commands : Bool) : Response → Cause → Prop where
  /-- A flag, and a number under "ok" that is not one, count before all that the fields tell. -/
  | failed {response : Response} {failure : RawDocument} (reported : response.Reports failure) :
    FirstFailure commands response failure.failure
  | refused {response : Response} {document : RawDocument} {report : WriteReport}
    {error : WriteError} {rest : List WriteError} (dialect : commands = true)
    (granted : response.Grants document) (told : report.Told document.fields)
    (first : report.refused = some (error :: rest)) :
    FirstFailure commands response (.write (.refused error))
  | unconfirmed {response : Response} {document : RawDocument} {report : WriteReport}
    {error : WriteConcernError} (dialect : commands = true) (granted : response.Grants document)
    (told : report.Told document.fields) (accepted : report.refused.getD [] = [])
    (failed : report.unconfirmed = some error) :
    FirstFailure commands response (.write (.unconfirmed error))
  | lastUnconfirmed {response : Response} {document : RawDocument} {report : LastError}
    {message : String} (dialect : commands = false) (granted : response.Grants document)
    (told : report.Told document.fields) (failed : report.message = some message)
    (late : report.timedOut = true ∨ report.code = some 64) :
    FirstFailure commands response (.write (.unconfirmed
      { code := report.code.getD 8
        codeName := report.codeName.getD ""
        message
        details := none }))
  | lastRefused {response : Response} {document : RawDocument} {report : LastError}
    {message : String} (dialect : commands = false) (granted : response.Grants document)
    (told : report.Told document.fields) (failed : report.message = some message)
    (timely : report.timedOut = false) (other : report.code ≠ some 64) :
    FirstFailure commands response (.write (.refused
      { index := 0, code := report.code.getD 8, codeName := report.codeName, message }))

/-- A response tells no failure at all, its fields having the types that are expected. -/
inductive Clear (commands : Bool) : Response → Prop where
  | command {response : Response} {document : RawDocument} {report : WriteReport}
    (dialect : commands = true) (granted : response.Grants document)
    (told : report.Told document.fields) (accepted : report.refused.getD [] = [])
    (confirmed : report.unconfirmed = none) : Clear commands response
  | lastError {response : Response} {document : RawDocument} {report : LastError}
    (dialect : commands = false) (granted : response.Grants document)
    (told : report.Told document.fields) (silent : report.message = none) : Clear commands response

/-- What is read from the document of a reply, in the dialect of the server. -/
def reading (write : Write) (commands : Bool) (document : RawDocument) : Except Cause WriteResult :=
  if commands then writeResult document write.statement.isUpdate
  else (lastErrorResult document).map fun result =>
    if write.statement.isInsert then { result with count := 1 } else result

section Reading

variable {write : Write} {commands : Bool} {document : RawDocument}

/-- A document that reports no success is told as the failure that it is. -/
theorem reading_failed (failed : document.reportsSuccess = false) :
    write.reading commands document = .error document.failure := by
  -- In either dialect the number is looked at before any field.
  have refused := RawDocument.ensureSuccess_failed failed
  unfold reading writeResult lastErrorResult
  rw [refused]
  cases commands <;> rfl

/-- A document is read for the failures of the write only where it reports a success. -/
theorem writeResult_done {isUpdate : Bool} (done : document.reportsSuccess = true) :
    writeResult document isUpdate = match WriteReport.ofRaw? document with
      | none => .error .undecodable
      | some report =>
        match report.failure with
        | some failure => .error (.write failure)
        | none => .ok (report.result isUpdate) := by
  unfold writeResult RawDocument.ensureSuccess
  rw [if_pos done]
  rfl

theorem lastErrorResult_done (done : document.reportsSuccess = true) :
    lastErrorResult document = match LastError.ofRaw? document with
      | none => .error .undecodable
      | some report =>
        match report.failure with
        | some failure => .error (.write failure)
        | none => .ok report.result := by
  unfold lastErrorResult RawDocument.ensureSuccess
  rw [if_pos done]
  rfl

/-- A report without a failure tells that every statement was accepted, and so was the concern. -/
theorem WriteReport.failure_eq_none {report : WriteReport} :
    report.failure = none ↔ report.refused.getD [] = [] ∧ report.unconfirmed = none := by
  unfold WriteReport.failure
  rcases report.refused with _ | ⟨_ | ⟨error, rest⟩⟩ <;> simp

/-- A result of a write command is told by a document without failures. -/
theorem commandTells_of_ofRaw? {report : WriteReport} {isUpdate : Bool}
    (found : WriteReport.ofRaw? document = some report) (silent : report.failure = none) :
    CommandTells document (report.result isUpdate) := by
  obtain ⟨-, count, upserted, refused, unconfirmed⟩ := WriteReport.ofRaw?_eq_some.mp found
  obtain ⟨accepted, confirmed⟩ := WriteReport.failure_eq_none.mp silent
  rw [confirmed] at unconfirmed
  refine ⟨fun value there => ?_, unconfirmed.silent,
    count.mono fun _ _ => RawValue.natural?_eq_some.mp, report.upserted, ?_, rfl⟩
  · cases errors : report.refused with
    | none =>
      rw [errors] at refused
      exact .inl (refused.silent value there)
    | some all =>
      -- What is there is an array then, and it has no items.
      rw [errors] at refused accepted
      obtain rfl : all = [] := accepted
      cases refused with
      | present held full listed =>
        rw [held] at there
        obtain rfl := List.mem_singleton.mp there
        exact .inr (RawValue.items?_eq_some.mp listed).nil
  · exact upserted.mono fun _ _ ids =>
      (RawValue.items?_eq_some.mp ids).mono fun _ _ => upsertedId?_eq_some.mp

/-- A result of a legacy write is told by a document without an error. -/
theorem lastErrorTells_of_ofRaw? {report : LastError}
    (found : LastError.ofRaw? document = some report) (silent : report.failure = none) :
    write.LastErrorTells document
      (if write.statement.isInsert then { report.result with count := 1 } else report.result) := by
  obtain ⟨-, message, -, -, count, -, upserted, -⟩ := LastError.ofRaw?_eq_some.mp found
  have none : report.message = none := Option.map_eq_none_iff.mp silent
  rw [none] at message
  -- The dialect counts no insertions, so the count of one is put in.
  cases insert : write.statement.isInsert with
  | true =>
    exact ⟨message.silent, fun _ => rfl, fun other => absurd (insert.symm.trans other) (by decide),
      upserted⟩
  | false =>
    exact ⟨message.silent, fun other => absurd (insert.symm.trans other) (by decide),
      fun _ => count.mono fun _ _ => RawValue.natural?_eq_some.mp, upserted⟩

/-- A result comes from a document that tells it, and that tells no failure. -/
theorem tells_of_reading {result : WriteResult} (done : document.reportsSuccess = true)
    (read : write.reading commands document = .ok result) :
    write.Tells commands document result := by
  -- A result is left only where the fields are read as a report without a failure.
  have ok := RawDocument.reportsSuccess_iff.mp done
  unfold reading at read
  cases commands with
  | true =>
    rw [if_pos rfl, writeResult_done done] at read
    split at read
    · cases read
    · rename_i report found
      split at read
      · cases read
      · rename_i silent
        cases read
        exact ⟨ok, rfl, commandTells_of_ofRaw? found silent⟩
  | false =>
    rw [if_neg (by decide)] at read
    cases inner : lastErrorResult document with
    | error cause =>
      rw [inner] at read
      cases read
    | ok before =>
      rw [inner] at read
      cases read
      rw [lastErrorResult_done done] at inner
      split at inner
      · cases inner
      · rename_i report found
        split at inner
        · cases inner
        · rename_i silent
          cases inner
          refine ⟨ok, ?_, lastErrorTells_of_ofRaw? found silent⟩
          dsimp only
          split <;> rfl

/-- The first failure of a write command that succeeds is what its reply is read as. -/
theorem reading_command {report : WriteReport} {failure : WriteFailure}
    (done : document.reportsSuccess = true) (told : report.Told document.fields)
    (failed : report.failure = some failure) :
    write.reading true document = .error (.write failure) := by
  unfold reading
  rw [if_pos rfl, writeResult_done done, WriteReport.ofRaw?_of_told told]
  simp only [failed]

/-- The failure that a last error tells is what its reply is read as. -/
theorem reading_lastError {report : LastError} {failure : WriteFailure}
    (done : document.reportsSuccess = true) (told : report.Told document.fields)
    (failed : report.failure = some failure) :
    write.reading false document = .error (.write failure) := by
  unfold reading
  rw [if_neg (by decide), lastErrorResult_done done, LastError.ofRaw?_of_told told]
  simp only [failed, Except.map]

/-- A document that tells no failure is read as a result. -/
theorem reading_command_clear {report : WriteReport} (done : document.reportsSuccess = true)
    (told : report.Told document.fields) (silent : report.failure = none) :
    ∃ result, write.reading true document = .ok result := by
  unfold reading
  rw [if_pos rfl, writeResult_done done, WriteReport.ofRaw?_of_told told]
  simp only [silent]
  exact ⟨_, rfl⟩

theorem reading_lastError_clear {report : LastError} (done : document.reportsSuccess = true)
    (told : report.Told document.fields) (silent : report.failure = none) :
    ∃ result, write.reading false document = .ok result := by
  unfold reading
  rw [if_neg (by decide), lastErrorResult_done done, LastError.ofRaw?_of_told told]
  simp only [silent, Except.map]
  exact ⟨_, rfl⟩

end Reading

/-- A request that wants an answer ends without a failure only when there is one. -/
theorem send_heard {request : Request} {context : Correlation} {line after : Line}
    {response : Option Response} (wanted : request.expectsResponse = true)
    (sent : send request context line = (.ok response, after)) :
    ∃ found, response = some found := by
  -- A request that the line does not take fails, and one that it takes is answered.
  by_cases takes : line.Takes request
  · obtain ⟨-, heard, -⟩ := send_answered takes wanted sent
    cases response with
    | none => exact absurd rfl heard
    | some found => exact ⟨found, rfl⟩
  · obtain ⟨halt, other, failed, -⟩ := send_untaken takes context
    rw [failed] at sent
    cases sent

/-- The write has asked something over the line, and a response is there. -/
def Heard (write : Write) (line : Line) (response : Response) (after : Line) : Prop :=
  ∃ request context middle, (Executor.write write).Asks line request context middle ∧
    send request context middle = (.ok (some response), after)

section Running

variable {write : Write} {line after last : Line} {response : Response} {document : RawDocument}

/-- A write for which a response is there comes to what the response says. -/
theorem Heard.run_eq (heard : write.Heard line response last) :
    write.run line = (do
      let reply ← replyDocument line.connection.id.address response
      Exchange.check (write.reading line.connection.description.hasWriteCommands reply)) last := by
  obtain ⟨request, context, middle, ⟨judged, rfl, asks⟩, sent⟩ := heard
  rw [run_apply, judged]
  dsimp only
  split at asks
  · obtain ⟨framed, rfl⟩ := asks
    rename_i commands
    simp only [commands, if_true, runCommand, Work.bind_apply, Work.get_apply, framed,
      Exchange.check_ok, sent, reading]
  · obtain ⟨acknowledged, posted, framed⟩ := asks
    rename_i legacy
    -- The legacy request does not change with whom the line is connected.
    obtain ⟨named, same⟩ := partner_sendLegacy posted
    simp only [legacy, runLegacy, confirmLegacy, Work.bind_apply, posted, acknowledged,
      if_true, Work.get_apply, same, framed, Exchange.check_ok, sent, named, reading]
    rcases replyDocument line.connection.id.address response last with ⟨halt | reply, final⟩
    · rfl
    · dsimp only
      cases lastErrorResult reply <;> rfl

/-- A write whose result is there has been answered. -/
theorem heard_of_run_ok {result : WriteResult} (acknowledged : write.concern.isAcknowledged = true)
    (done : write.run line = (.ok result, after)) :
    ∃ response last, write.Heard line response last := by
  -- In either dialect, the last thing that is sent wants an answer.
  rw [run_apply] at done
  cases judged : write.judge line.connection.description with
  | error cause =>
    rw [judged] at done
    cases done
  | ok _ =>
    rw [judged] at done
    dsimp only at done
    split at done
    · rename_i commands
      obtain ⟨_, _, got, done⟩ := Work.bind_ok done
      cases got
      obtain ⟨request, _, framed, done⟩ := Work.bind_ok done
      obtain ⟨framed, rfl⟩ := Exchange.check_eq_ok framed
      obtain ⟨response, last, sent, -⟩ := Work.bind_ok done
      have wanted : request.expectsResponse = true := by
        rw [Command.expectsResponse_request framed]
        simp [command, acknowledged]
      obtain ⟨found, rfl⟩ := send_heard wanted sent
      refine ⟨found, last, request, write.context, _, ⟨judged, rfl, ?_⟩, sent⟩
      rw [if_pos commands]
      exact ⟨framed, rfl⟩
    · rename_i legacy
      obtain ⟨_, middle, posted, done⟩ := Work.bind_ok done
      rw [if_pos acknowledged] at done
      have same := (partner_sendLegacy posted).2
      obtain ⟨_, _, got, done⟩ := Work.bind_ok done
      cases got
      obtain ⟨request, _, framed, done⟩ := Work.bind_ok done
      obtain ⟨framed, rfl⟩ := Exchange.check_eq_ok framed
      obtain ⟨response, last, sent, -⟩ := Work.bind_ok done
      have wanted : request.expectsResponse = true := by
        rw [Command.expectsResponse_request framed]
        simp [lastErrorCommand]
      obtain ⟨found, rfl⟩ := send_heard wanted sent
      refine ⟨found, last, request, write.context, _, ⟨judged, rfl, ?_⟩, sent⟩
      rw [if_neg legacy, ← same]
      exact ⟨acknowledged, posted, framed⟩

/-- A failure that the response reports is that of the write, in either dialect. -/
theorem Heard.run_reported (heard : write.Heard line response last) {failure : RawDocument}
    (reported : response.Reports failure) :
    ∃ after, write.run line = (.error (.ofCause failure.failure), after) := by
  -- A flag is looked at with the document, a number with the fields.
  rw [heard.run_eq]
  cases reported with
  | flagged begins flag =>
    simp only [replyDocument, begins, flag, if_true, Work.bind_apply, flaggedFailure_apply,
      RawDocument.failure]
    cases failure.toDocument? <;> exact ⟨_, rfl⟩
  | reply begins unflagged failed =>
    simp only [replyDocument, begins, unflagged, Bool.false_eq_true, if_false, Work.bind_apply,
      Work.pure_apply, reading_failed failed]
    exact ⟨_, rfl⟩
  | message failed =>
    simp only [replyDocument, Work.bind_apply, Work.pure_apply, reading_failed failed]
    exact ⟨_, rfl⟩

/-- A document that reports a success is read further. -/
theorem Heard.run_granted (heard : write.Heard line response last)
    (granted : response.Grants document) :
    write.run line = Exchange.check
      (write.reading line.connection.description.hasWriteCommands document) last := by
  rw [heard.run_eq]
  cases granted with
  | reply begins unflagged done =>
    simp only [replyDocument, begins, unflagged, Bool.false_eq_true, if_false, Work.bind_apply,
      Work.pure_apply]
  | message done => simp only [replyDocument, Work.bind_apply, Work.pure_apply]

/-- A result comes from a response that grants the write and tells the result. -/
theorem Heard.tells_of_run_ok (heard : write.Heard line response last) {result : WriteResult}
    (done : write.run line = (.ok result, after)) :
    ∃ document, response.Grants document ∧
      write.Tells line.connection.description.hasWriteCommands document result := by
  -- A response that reports a failure, or brings no document, would have ended the write.
  rcases response.grants_or_reports with
    ⟨document, granted⟩ | ⟨failure, reported⟩ | ⟨reply, rfl, empty⟩
  · refine ⟨document, granted, ?_⟩
    rw [heard.run_granted granted] at done
    exact tells_of_reading granted.reportsSuccess (Exchange.check_eq_ok done).1
  · obtain ⟨other, failed⟩ := heard.run_reported reported
    rw [failed] at done
    cases done
  · -- A reply without a document is none that anything could be read from.
    rw [heard.run_eq] at done
    simp only [replyDocument, empty] at done
    cases done

/-- The first failure that a response tells is that of the write. -/
theorem Heard.run_failure (heard : write.Heard line response last) {cause : Cause}
    (first : FirstFailure line.connection.description.hasWriteCommands response cause) :
    ∃ after, write.run line = (.error (.ofCause cause), after) := by
  -- Past the flag and the number, the document grants the write and is read in one of the dialects.
  have read {document : RawDocument} {failure : WriteFailure} (granted : response.Grants document)
      (read : write.reading line.connection.description.hasWriteCommands document
        = .error (.write failure)) :
      ∃ after, write.run line = (.error (.ofCause (.write failure)), after) := by
    rw [heard.run_granted granted, read]
    exact ⟨_, rfl⟩
  cases first with
  | failed reported => exact heard.run_reported reported
  | refused dialect granted told first =>
    refine read granted ?_
    rw [dialect]
    refine reading_command granted.reportsSuccess told ?_
    simp only [WriteReport.failure, first, Option.bind_some, List.head?_cons]
  | @unconfirmed document report error dialect granted told accepted failed =>
    refine read granted ?_
    rw [dialect]
    refine reading_command granted.reportsSuccess told ?_
    have none : report.refused.bind List.head? = none := by
      rcases errors : report.refused with _ | ⟨_ | ⟨first, rest⟩⟩
      · rfl
      · rfl
      · rw [errors] at accepted
        cases accepted
    simp only [WriteReport.failure, none, failed, Option.map_some]
  | @lastUnconfirmed document report message dialect granted told failed late =>
    refine read granted ?_
    rw [dialect]
    refine reading_lastError granted.reportsSuccess told ?_
    have counts : (report.timedOut || report.code.getD LastError.unknownCode
        == LastError.unconfirmedCode) = true := by
      rcases late with late | code
      · simp [late]
      · simp [code, LastError.unconfirmedCode]
    simp only [LastError.failure, failed, Option.map_some, counts, if_true]
    rfl
  | @lastRefused document report message dialect granted told failed timely other =>
    refine read granted ?_
    rw [dialect]
    refine reading_lastError granted.reportsSuccess told ?_
    have counts : (report.timedOut || report.code.getD LastError.unknownCode
        == LastError.unconfirmedCode) = false := by
      rw [timely, Bool.false_or]
      -- Without a code, the one that stands for it is another one.
      cases known : report.code with
      | none => rfl
      | some code =>
        rw [known] at other
        simpa [LastError.unconfirmedCode] using other
    simp only [LastError.failure, failed, Option.map_some, counts, Bool.false_eq_true, if_false]
    rfl

/-- A response that tells no failure lets the write succeed. -/
theorem Heard.run_clear (heard : write.Heard line response last)
    (clear : Clear line.connection.description.hasWriteCommands response) :
    ∃ result after, write.run line = (.ok result, after) := by
  have read {document : RawDocument} {result : WriteResult} (granted : response.Grants document)
      (read : write.reading line.connection.description.hasWriteCommands document = .ok result) :
      ∃ result after, write.run line = (.ok result, after) := by
    rw [heard.run_granted granted, read]
    exact ⟨_, _, rfl⟩
  -- In either dialect it is enough that the document is read without a failure.
  cases clear with
  | @command document report dialect granted told accepted confirmed =>
    have silent : report.failure = none :=
      WriteReport.failure_eq_none.mpr ⟨accepted, confirmed⟩
    obtain ⟨result, found⟩ : ∃ result, write.reading true document = .ok result :=
      reading_command_clear granted.reportsSuccess told silent
    rw [← dialect] at found
    exact read granted found
  | @lastError document report dialect granted told silent =>
    have silent : report.failure = none := Option.map_eq_none_iff.mpr silent
    obtain ⟨result, found⟩ : ∃ result, write.reading false document = .ok result :=
      reading_lastError_clear granted.reportsSuccess told silent
    rw [← dialect] at found
    exact read granted found

end Running

/-- An acknowledged write succeeds only on a response that tells no failure in any place, and its
result is the one that the response tells; the first failure that is told, where the fields have the
types that are expected, is the one that the write ends with. -/
theorem acknowledged_outcome (write : Write) (line : Line)
    (acknowledged : write.concern.isAcknowledged = true) :
    let commands := line.connection.description.hasWriteCommands
    (∀ result after, write.run line = (.ok result, after) →
      ∃ response last, write.Heard line response last) ∧
    ∀ response last, write.Heard line response last →
      (∀ result after, write.run line = (.ok result, after) →
        ∃ document, response.Grants document ∧ write.Tells commands document result) ∧
      (∀ cause, FirstFailure commands response cause →
        ∃ after, write.run line = (.error (.ofCause cause), after)) ∧
      (Clear commands response → ∃ result after, write.run line = (.ok result, after)) := by
  intro commands
  refine ⟨fun result after done => heard_of_run_ok acknowledged done, fun response last heard => ?_⟩
  refine ⟨fun result after done => heard.tells_of_run_ok done, fun cause first => ?_,
    fun clear => ?_⟩
  · exact heard.run_failure first
  · exact heard.run_clear clear

/-- A deletion that was refused and not confirmed either, although the command itself succeeded. -/
theorem acknowledged_outcome_refused :
    let address : Address := default
    let description : ConnectionDescription := { address, wireVersion := 3 }
    let code : RawElement := ⟨"code", .int32, [7, 0, 0, 0]⟩
    let refused : RawElement := ⟨"0", .document, enclosed ([code].flatMap RawElement.bytes)⟩
    let errors : RawElement :=
      ⟨"writeErrors", .array, enclosed ([refused].flatMap RawElement.bytes)⟩
    let unconfirmed : RawElement :=
      ⟨"writeConcernError", .document, enclosed ([code].flatMap RawElement.bytes)⟩
    let ok : RawElement := ⟨"ok", .int32, [1, 0, 0, 0]⟩
    let document : RawDocument := ⟨enclosed ([errors, unconfirmed, ok].flatMap RawElement.bytes)⟩
    let reply : Reply := { flags := {}, count := 1, documents := [document] }
    let answer : Delivery :=
      { bytes := Bytes.ofNat 4 (36 + document.bytes.length) ++ [0, 0, 0, 0, 0, 0, 0, 0, 1, 0, 0, 0,
          0, 0, 0, 0, 0, 0, 0, 0, 0, 0, 0, 0, 0, 0, 0, 0, 1, 0, 0, 0] ++ document.bytes }
    let line : Line :=
      { connection := .fresh ⟨address, 1⟩ description {}
        network := { script := [fun _ => [answer]] } }
    let write : Write := { target := ⟨"db", "c"⟩, statement := .delete [] true }
    (∃ last, write.Heard line (.reply reply) last) ∧
      ∃ after, write.run line = (.error (.ofCause (.write (.refused
        { index := 0, code := 7, codeName := none, message := "" }))), after) := by
  intro address description code refused errors unconfirmed ok document reply answer line write
  have heard : ∃ last, write.Heard line (.reply reply) last := by
    have framed : (match write.command.request description with
        | .ok framed => heardReply? (send framed {} line).1
        | .error _ => none) = some reply := by decide +kernel
    split at framed
    · rename_i spelled
      obtain ⟨last, sent⟩ := send_of_heard framed
      exact ⟨last, _, _, line, ⟨rfl, rfl, spelled, rfl⟩, sent⟩
    · cases framed
  obtain ⟨last, heard⟩ := heard
  refine ⟨⟨last, heard⟩, ?_⟩
  obtain ⟨-, outcome⟩ := acknowledged_outcome write line rfl
  obtain ⟨-, fails, -⟩ := outcome (.reply reply) last heard
  -- What is read from the bytes, from the innermost document outwards.
  have coded : ∀ element ∈ [code], element.Sound := by
    simpa using (⟨by decide, fun _ => rfl⟩ : code.Sound)
  have single : ∀ element ∈ [refused], element.Sound := by
    simpa using (⟨by decide, embeddedSize?_enclosed (by decide)⟩ : refused.Sound)
  have whole : ∀ element ∈ [errors, unconfirmed, ok], element.Sound := by
    simpa using (⟨⟨by decide, embeddedSize?_enclosed (by decide)⟩,
      ⟨by decide, embeddedSize?_enclosed (by decide)⟩, ⟨by decide, fun _ => rfl⟩⟩ :
        errors.Sound ∧ unconfirmed.Sound ∧ ok.Sound)
  have seven : foundValue .int32 [7, 0, 0, 0] = .atom (.int32 7) := by
    simp [foundValue, decodeScalar?]
    decide
  have one : foundValue .int32 [1, 0, 0, 0] = .atom (.int32 1) := by
    simp [foundValue, decodeScalar?]
    decide
  have inner : foundValue .document (enclosed ([code].flatMap RawElement.bytes))
      = .document [("code", .atom (.int32 7))] := by
    rw [foundValue, drop_enclosed, RawElement.foundFields_flatMap coded]
    simp [code, seven]
  have fields : document.fields = [("writeErrors", .array [.document [("code", .atom (.int32 7))]]),
      ("writeConcernError", .document [("code", .atom (.int32 7))]), ("ok", .atom (.int32 1))] := by
    show foundFields ((enclosed _).drop 4) = _
    rw [drop_enclosed, RawElement.foundFields_flatMap whole]
    simp only [List.map_cons, List.map_nil, errors, unconfirmed, ok, one, inner]
    rw [foundValue, drop_enclosed, RawElement.foundFields_flatMap single, List.map_cons,
      List.map_cons, inner]
    rfl
  have sevens : RawValue.Counts (.atom (.int32 7)) (Int32.toInt 7) := .int32 7
  have error : WriteError.Told (.document [("code", .atom (.int32 7))])
      { index := 0, code := 7, codeName := none, message := "" } :=
    .document (by simp [ReadableBeside]) (.inl ⟨rfl, rfl⟩) ⟨_, rfl, sevens⟩ (.absent rfl)
      (.inl ⟨rfl, rfl⟩)
  have late : WriteConcernError.Told (.document [("code", .atom (.int32 7))])
      { code := 7, codeName := "", message := "", details := none } :=
    .document (by simp [ReadableBeside]) ⟨_, rfl, sevens⟩ (.inl ⟨rfl, rfl⟩) (.inl ⟨rfl, rfl⟩)
      (.absent rfl)
  have told : (⟨0, none, some [{ index := 0, code := 7, codeName := none, message := "" }],
      some { code := 7, codeName := "", message := "", details := none }⟩ : WriteReport).Told
        document.fields := by
    rw [fields]
    refine ⟨?_, .inl ⟨rfl, rfl⟩, .absent rfl, .present rfl nofun ?_, .present rfl nofun late⟩
    · simp [ReadableBeside, WriteReport.names, RawValue.isWhole, RawValue.whole?]
    · exact ⟨_, rfl, .cons error .nil⟩
  have success : document.reportsSuccess = true := by decide +kernel
  exact fails _ (.refused rfl (.reply rfl rfl success) told rfl)

end Write

end DocWire
