import DocWire.Proofs.Document.Restored
import DocWire.Proofs.Operation.Concern

/-! The time limit of a write concern, which is told in milliseconds as a long word. A limit that no
long word can tell goes around it: the server is told another limit, and one below zero is not read
back at all. -/

namespace DocWire

section Reading

/-- The number under the name of the time limit, among the options of a concern. -/
def timeLimitIn? (options : List RawElement) : Option Int :=
  (options.find? (·.key = "wtimeout")).bind fun element =>
    (foundValue element.kind element.payload).integer?

/-- The time limit in the options of a write, as the server reads it. -/
def Mandate.timeLimit? (mandate : Mandate) : Option Int := timeLimitIn? mandate.options

/-- The time limit in a field of a command. -/
def Value.timeLimit? : Value → Option Int
  | .document options => (Document.get? options "wtimeout").bind fun limit => limit.raw.integer?
  | _ => none

end Reading

section Found

theorem readsBack_int64 (word : Int64) : (Value.int64 word).ReadsBack := by
  intro payload encoded _
  rw [Value.encode?] at encoded
  cases encoded
  rw [Value.kind, decodeScalar?, Bytes.toInt64_ofInt64]

/-- A value without parts is found in the payload that it is written as. -/
theorem foundValue_of_decodeScalar? {kind : ElementKind} {payload : Bytes} {value : Value}
    (decoded : decodeScalar? kind payload = some value) :
    foundValue kind payload = .atom value := by
  cases kind with
  | document | array | codeWithScope => cases decoded
  | _ => simp [foundValue, decoded]

/-- Fields without parts are found in the bytes that they are written as. -/
theorem foundFields_encode {fields : List (String × Value)} {bytes : Bytes}
    (flat : ∀ field ∈ fields, field.2.kind.isPlain = true ∧ field.2.ReadsBack ∧
      field.2.raw = .atom field.2)
    (encoded : encodeFields? fields = some bytes) (small : bytes.length ≤ largestWord) :
    foundFields (bytes ++ [0]) = rawFields fields := by
  -- By induction on the fields, each of which is found in front of the bytes of the others.
  induction fields generalizing bytes with
  | nil =>
    cases encoded
    exact foundFields_end
  | cons field rest ih =>
    obtain ⟨key, value⟩ := field
    obtain ⟨⟨plain, back, whole⟩, others⟩ := List.forall_mem_cons.mp flat
    obtain ⟨named, payload, tail, first, last, rfl⟩ := encodeFields?_cons.mp encoded
    simp only [List.length_cons, List.length_append] at small
    have short : payload.length ≤ largestWord := by omega
    rw [foundFields_cons named (payloadSize?_encode plain first short),
      foundValue_of_decodeScalar? (back payload first short), ih others last (by omega), rawFields,
      whole]

end Found

theorem RawValue.natural?_int64 (word : Int64) :
    RawValue.natural? (.atom (.int64 word))
      = if 0 ≤ word.toInt then some word.toInt.toNat else none := by
  have high := word.toInt_lt
  simp only [natural?, integerWithin?, integer?, Option.bind_eq_bind, Option.bind_some]
  by_cases positive : 0 ≤ word.toInt
  · rw [if_pos ⟨positive, by omega⟩, if_pos positive]
    rfl
  · rw [if_neg fun within => positive within.1, if_neg positive]
    rfl

namespace Acknowledgment

/-- Which members are to take a write is read back, unless a custom name is that of the majority. -/
theorem ofValue?_toValue {members : Acknowledgment} :
    ofValue? members.toValue.raw = some members ↔ members ≠ .custom "majority" := by
  cases members with
  | nodes count =>
    have low := count.le_toInt
    have high := count.toInt_lt
    -- Any word fits, so a number is never taken for a name.
    have word : RawValue.word? (.atom (.int32 count)) = some count := by
      simp only [RawValue.word?, RawValue.integerWithin?, RawValue.integer?, Option.bind_eq_bind,
        Option.bind_some]
      rw [if_pos (by omega), Option.map_some, Int32.ofInt_toInt]
    simp [toValue, Value.raw, ofValue?, word]
  | majority => simp [toValue, Value.raw, ofValue?, RawValue.word?, RawValue.integerWithin?,
      RawValue.integer?, RawValue.text?, ofName]
  | custom name => simp [toValue, Value.raw, ofValue?, RawValue.word?, RawValue.integerWithin?,
      RawValue.integer?, RawValue.text?, ofName]

end Acknowledgment

namespace WriteConcern

/-- The milliseconds that are told of a time limit: as many as a long word tells, which goes around
when there are more. -/
def told (concern : WriteConcern) : Option Int :=
  concern.timeout.map fun limit => (limit.millis : Int).bmod (2 ^ 64)

theorem toInt_timeoutWord (limit : Duration) :
    (timeoutWord limit).toInt = (limit.millis : Int).bmod (2 ^ 64) := Int64.toInt_ofInt

/-- All milliseconds are told exactly when there are not too many for a long word. -/
theorem bmod_eq_self_iff (millis : Nat) :
    (millis : Int).bmod (2 ^ 64) = millis ↔ millis < 2 ^ 63 := by
  have size : ((2 ^ 64 : Nat) : Int) = 18446744073709551616 := rfl
  rw [Int.bmod, size]
  omega

/-- What is told is below zero in every second stretch of as many milliseconds as a long word has
room for. -/
theorem bmod_neg_iff (millis : Nat) :
    (millis : Int).bmod (2 ^ 64) < 0 ↔ 2 ^ 63 ≤ millis % 2 ^ 64 := by
  have size : ((2 ^ 64 : Nat) : Int) = 18446744073709551616 := rfl
  rw [Int.bmod, size]
  omega

variable {concern : WriteConcern}

section ReadBack

variable (concern)

/-- A concern is read as a record of the fields that it is written as. -/
theorem ofValue?_document :
    Record.ofValue? ["w", "wtimeout", "j"] (Value.document concern.toDocument).raw
      = some (.named (rawFields concern.toDocument)) := by
  obtain ⟨members, timeout, journal⟩ := concern
  cases members <;> cases timeout <;> cases journal <;> rfl

theorem entry?_members (place : Nat) :
    Record.entry? (Record.named (rawFields concern.toDocument)) place ["w"]
      = some (match concern.members with
        | none => .absent
        | some members => .present members.toValue.raw) := by
  obtain ⟨members, timeout, journal⟩ := concern
  cases members <;> cases timeout <;> cases journal <;> rfl

theorem entry?_timeout (place : Nat) :
    Record.entry? (Record.named (rawFields concern.toDocument)) place ["wtimeout"]
      = some (match concern.timeout with
        | none => .absent
        | some limit => .present (.atom (.int64 (timeoutWord limit)))) := by
  obtain ⟨members, timeout, journal⟩ := concern
  cases members <;> cases timeout <;> cases journal <;> rfl

theorem entry?_journal (place : Nat) :
    Record.entry? (Record.named (rawFields concern.toDocument)) place ["j"]
      = some (match concern.journal with
        | none => .absent
        | some journal => .present (.atom (.boolean journal))) := by
  obtain ⟨members, timeout, journal⟩ := concern
  cases members <;> cases timeout <;> cases journal <;> rfl

end ReadBack

theorem optional?_members (named : concern.members ≠ some (.custom "majority")) (place : Nat) :
    (Record.named (rawFields concern.toDocument)).optional? place ["w"] Acknowledgment.ofValue?
      = some concern.members := by
  rw [Record.optional?, entry?_members]
  cases chosen : concern.members with
  | none => rfl
  | some members =>
    -- A name is read back as it was, but for the one that stands for the majority.
    have back : Acknowledgment.ofValue? members.toValue.raw = some members :=
      Acknowledgment.ofValue?_toValue.mpr fun custom => named (by rw [chosen, custom])
    have full : Record.orNull Acknowledgment.ofValue? members.toValue.raw
        = (Acknowledgment.ofValue? members.toValue.raw).map some := by cases members <;> rfl
    simp only [Option.bind_eq_bind, Option.bind_some, full, back, Option.map_some]

theorem defaulted?_timeout (concern : WriteConcern) (place : Nat) :
    (Record.named (rawFields concern.toDocument)).defaulted? place ["wtimeout"] none
        (Record.orNull RawValue.natural?)
      = match concern.told with
        | none => some none
        | some millis => if 0 ≤ millis then some (some millis.toNat) else none := by
  rw [Record.defaulted?, entry?_timeout, told]
  cases concern.timeout with
  | none => rfl
  | some limit =>
    simp only [Option.bind_eq_bind, Option.bind_some, Record.orNull, RawValue.natural?_int64,
      toInt_timeoutWord, Option.map_some]
    split <;> rfl

theorem optional?_journal (concern : WriteConcern) (place : Nat) :
    (Record.named (rawFields concern.toDocument)).optional? place ["j"] RawValue.truth?
      = some concern.journal := by
  rw [Record.optional?, entry?_journal]
  cases concern.journal <;> rfl

/-- A concern is read back as it was, but for the time limit: that is what was told, and when less
than nothing was told, nothing is read back. -/
theorem ofValue?_toDocument (named : concern.members ≠ some (.custom "majority")) :
    ofValue? (Value.document concern.toDocument).raw = match concern.told with
      | none => some concern
      | some millis =>
        if 0 ≤ millis then some { concern with timeout := some (.ofMillis millis.toNat) }
        else none := by
  simp only [ofValue?, ofValue?_document, optional?_members named, defaulted?_timeout,
    optional?_journal, Option.bind_eq_bind, Option.bind_some, Option.pure_def]
  -- A negative number of milliseconds is no time limit.
  cases said : concern.told with
  | none =>
    obtain ⟨members, timeout, journal⟩ := concern
    obtain rfl : timeout = none := Option.map_eq_none_iff.mp said
    rfl
  | some millis =>
    dsimp only
    split <;> rfl

/-- The fields of a concern have no parts, and each of them is read back as it was. -/
theorem flat_toDocument (concern : WriteConcern) :
    ∀ field ∈ concern.toDocument, field.2.kind.isPlain = true ∧ field.2.ReadsBack ∧
      field.2.raw = .atom field.2 := by
  obtain ⟨members, timeout, journal⟩ := concern
  intro field among
  refine ⟨Write.plain_concern _ field among, ?_⟩
  simp only [toDocument, List.mem_append, Option.mem_toList, Option.map_eq_some_iff] at among
  rcases among with (⟨members, -, rfl⟩ | ⟨timeout, -, rfl⟩) | ⟨journal, -, rfl⟩
  · -- Which members have to take the write is told by a word or by a text.
    cases members with
    | nodes count => exact ⟨readsBack_int32 count, rfl⟩
    | majority => exact ⟨readsBack_string "majority", rfl⟩
    | custom name => exact ⟨readsBack_string name, rfl⟩
  · exact ⟨readsBack_int64 _, rfl⟩
  · exact ⟨readsBack_boolean journal, rfl⟩

/-- Whoever reads the bytes of a concern finds the fields that it was written with. -/
theorem found_encode {raw : RawDocument} (encoded : concern.toDocument.encode = .ok raw)
    (small : raw.bytes.length ≤ largestWord) :
    raw.found = (Value.document concern.toDocument).raw := by
  obtain ⟨bytes, inner, rfl⟩ := Document.encode_eq_ok.mp encoded
  rw [length_enclosed] at small
  rw [RawDocument.found, RawDocument.elements, drop_enclosed,
    foundFields_encode concern.flat_toDocument inner (by omega), Value.raw]

theorem get?_timeout (concern : WriteConcern) :
    concern.toDocument.get? "wtimeout"
      = concern.timeout.map fun limit => .int64 (timeoutWord limit) := by
  obtain ⟨members, timeout, journal⟩ := concern
  cases members <;> cases timeout <;> cases journal <;> rfl

/-- Whoever looks the time limit up in the fields of a concern finds what was told. -/
theorem timeLimit?_toDocument (concern : WriteConcern) :
    (Value.document concern.toDocument).timeLimit? = concern.told := by
  rw [Value.timeLimit?, get?_timeout, told]
  cases concern.timeout with
  | none => rfl
  | some limit => exact congrArg some (toInt_timeoutWord limit)

/-- Whoever looks the time limit up in the options that a concern is written as finds what was told.
-/
theorem timeLimitIn?_options {options : List RawElement}
    (listed : rawElements? concern.toDocument = some options) :
    timeLimitIn? options = concern.told := by
  have held := concern.get?_timeout
  rw [timeLimitIn?, told]
  cases set : concern.timeout with
  | none =>
    rw [set] at held
    rw [Document.Written.find?_of_absent listed held]
    rfl
  | some limit =>
    rw [set] at held
    obtain ⟨payload, coded, first⟩ := Document.Written.find?_of_get? listed held
    rw [Value.encode?] at coded
    cases coded
    -- Whatever number was told, it comes back from its eight bytes.
    have found : foundValue .int64 (Bytes.ofInt64 (timeoutWord limit))
        = .atom (.int64 (timeoutWord limit)) :=
      foundValue_of_decodeScalar? (by rw [decodeScalar?, Bytes.toInt64_ofInt64])
    rw [first, Option.bind_some]
    dsimp only [Value.kind]
    rw [found, RawValue.integer?, toInt_timeoutWord, Option.map_some]

end WriteConcern

namespace Write

variable {write : Write} {line : Line}

/-- Messages of a write in which a server reads a time limit, as far as they bear a concern: a
legacy request bears none, and the question after it bears one as a write command does. -/
inductive TellsLimit (told : Option Int) : List Bytes → Prop where
  | unsent : TellsLimit told []
  | posted {posted : Bytes} {target : String} {task : WriteTask}
    (read : legacyTask? posted = some (target, task)) : TellsLimit told [posted]
  | command {command : Bytes} {mandate : Mandate} (read : Mandate.ofCommand? command = some mandate)
    (limit : mandate.timeLimit? = told) : TellsLimit told [command]
  | question {posted asked : Bytes} {mandate : Mandate}
    (read : Mandate.ofLegacy? posted asked = some mandate) (limit : mandate.timeLimit? = told) :
    TellsLimit told [posted, asked]

/-- The options of what a write asks for are those of its concern. -/
theorem timeLimit?_mandate {mandate : Mandate} (meant : write.mandate? = some mandate) :
    mandate.timeLimit? = write.concern.told := by
  simp only [mandate?, Option.bind_eq_bind, Option.bind_eq_some_iff, Option.pure_def,
    Option.some.injEq] at meant
  obtain ⟨task, -, options, listed, rfl⟩ := meant
  exact WriteConcern.timeLimitIn?_options listed

/-- Nothing but the legacy request goes out when nobody asks how it went. -/
theorem tellsLimit_unacknowledged (silent : write.concern.isAcknowledged = false)
    (legacy : line.connection.description.hasWriteCommands = false) :
    ∃ messages, line.Sends (write.run line).2 messages ∧
      TellsLimit write.concern.told messages := by
  rw [run_apply]
  cases write.judge line.connection.description with
  | error cause => exact ⟨[], line.sends_nil rfl, .unsent⟩
  | ok _ =>
    simp only [legacy, Bool.false_eq_true, if_false]
    obtain ⟨messages, sends, posted⟩ := write.posted_runLegacy line
    refine ⟨messages, sends, ?_⟩
    -- There is no question, for only an acknowledged write asks one.
    cases posted with
    | unsent => exact .unsent
    | alone framed encoded =>
      obtain ⟨task, -, read⟩ := legacyTask?_legacyRequest framed encoded
      exact .posted read
    | asked _ _ acknowledged => simp [silent] at acknowledged

/-- Every write tells the server what its concern has told. -/
theorem tellsLimit_run (write : Write) (line : Line) :
    ∃ messages, line.Sends (write.run line).2 messages ∧
      TellsLimit write.concern.told messages := by
  -- A command bears the concern itself; of a legacy write the question does, if there is one.
  cases commands : line.connection.description.hasWriteCommands with
  | true =>
    obtain ⟨messages, sent, out⟩ := write.commandOut_run commands
    refine ⟨messages, sent, ?_⟩
    generalize (write.run line).1 = result at out
    cases out with
    | unsent => exact .unsent
    | sent meant read => exact .command read (timeLimit?_mandate meant)
  | false =>
    cases acknowledged : write.concern.isAcknowledged with
    | false => exact tellsLimit_unacknowledged acknowledged commands
    | true =>
      obtain ⟨messages, sent, out⟩ := write.legacyOut_run acknowledged commands
      refine ⟨messages, sent, ?_⟩
      generalize (write.run line).1 = result at out
      cases out with
      | unsent => exact .unsent
      | unasked meant read => exact .posted read
      | sent meant read => exact .question read (timeLimit?_mandate meant)

end Write

namespace DropUser

/-- The command that a user is dropped by tells the server what its concern has told. -/
theorem bears_told {operation : DropUser} {api : Option ServerApi} {line after : Line}
    {command : Command} {request : Request}
    (prepared : (operation.call api).prepare line = (.ok (command, request), after)) :
    ∃ held, request.Bears "writeConcern" held ∧
      held.bind Value.timeLimit? = (operation.concern.getD {}).told := by
  refine ⟨_, bears_own_concern prepared, ?_⟩
  cases given : operation.concern with
  | none =>
    simp only [DropUser.command, given]
    rfl
  | some concern =>
    cases empty : concern.isEmpty with
    | true =>
      -- A concern that asks for nothing is left out, and it has no time limit either.
      have unset : concern.told = none := by
        simp only [WriteConcern.isEmpty, Bool.and_eq_true, Option.isNone_iff_eq_none] at empty
        rw [WriteConcern.told, empty.1.2, Option.map_none]
      simp only [DropUser.command, given, Option.filter, empty]
      exact unset.symm
    | false =>
      rw [get?_command_full given empty]
      exact concern.timeLimit?_toDocument

end DropUser

namespace WriteConcern

/-- The forms that a concern is serialized in: a document, or the bytes of one. -/
inductive Serialized (concern : WriteConcern) : RawValue → Prop where
  | value : Serialized concern (Value.document concern.toDocument).raw
  | bytes {raw : RawDocument} (encoded : concern.toDocument.encode = .ok raw)
    (small : raw.bytes.length ≤ largestWord) : Serialized concern raw.found

variable {concern : WriteConcern} {held : RawValue}

theorem Serialized.eq_raw (serialized : concern.Serialized held) :
    held = (Value.document concern.toDocument).raw := by
  cases serialized with
  | value => rfl
  | bytes encoded small => exact found_encode encoded small

/-- All of a time limit is told exactly when a long word can tell its milliseconds. -/
theorem told_eq_iff (concern : WriteConcern) :
    concern.told = concern.timeout.map (fun limit => (limit.millis : Int)) ↔
      ∀ limit ∈ concern.timeout, limit.millis < 2 ^ 63 := by
  rw [told]
  cases concern.timeout with
  | none => simp
  | some limit => simpa using bmod_eq_self_iff limit.millis

/-- Less than nothing is told of a time limit whose milliseconds go around a long word half way. -/
theorem told_neg_iff (concern : WriteConcern) :
    (∃ millis ∈ concern.told, millis < 0) ↔
      ∃ limit ∈ concern.timeout, 2 ^ 63 ≤ limit.millis % 2 ^ 64 := by
  rw [told]
  cases concern.timeout with
  | none => simp
  | some limit => simpa using bmod_neg_iff limit.millis

/-- The whole milliseconds of a time limit are read back exactly when they were told. -/
theorem ofValue?_toDocument_iff (named : concern.members ≠ some (.custom "majority")) :
    ofValue? (Value.document concern.toDocument).raw = some { concern with
        timeout := concern.timeout.map fun limit => .ofMillis limit.millis } ↔
      ∀ limit ∈ concern.timeout, limit.millis < 2 ^ 63 := by
  rw [ofValue?_toDocument named]
  obtain ⟨members, timeout, journal⟩ := concern
  cases timeout with
  | none => simp [told]
  | some limit =>
    simp only [told, Option.map_some, Option.mem_def, Option.some.injEq, forall_eq',
      ← bmod_eq_self_iff]
    -- Equal time limits have equal numbers of milliseconds.
    split
    · rename_i positive
      simp only [Option.some.injEq, mk.injEq, true_and, and_true, Duration.ofMillis,
        Duration.mk.injEq]
      omega
    · rename_i negative
      simp only [reduceCtorEq, false_iff]
      omega

/-- A time limit reaches the server as its whole milliseconds, and is read back as these, exactly
when they are fewer than half of what a long word has room for. Of a longer time limit the server is
told what is left when the word has gone around, in the concern of a write command, in the question
for the last error and in the command that drops a user. When that is less than nothing, what was
written cannot be read back; and else another time limit is. -/
theorem timeLimit_kept_iff (concern : WriteConcern)
    (named : concern.members ≠ some (.custom "majority")) :
    (∀ (write : Write) (line : Line), write.concern = concern → ∃ messages,
      line.Sends (write.run line).2 messages ∧ Write.TellsLimit concern.told messages) ∧
    (∀ (operation : DropUser) (api : Option ServerApi) (line after : Line) (command : Command)
      (request : Request), operation.concern = some concern →
      (operation.call api).prepare line = (.ok (command, request), after) → ∃ held,
      request.Bears "writeConcern" held ∧ held.bind Value.timeLimit? = concern.told) ∧
    (concern.told = concern.timeout.map (fun limit => (limit.millis : Int)) ↔
      ∀ limit ∈ concern.timeout, limit.millis < 2 ^ 63) ∧
    ((∃ millis ∈ concern.told, millis < 0) ↔
      ∃ limit ∈ concern.timeout, 2 ^ 63 ≤ limit.millis % 2 ^ 64) ∧
    ∀ held, concern.Serialized held →
      (ofValue? held = match concern.told with
        | none => some concern
        | some millis =>
          if 0 ≤ millis then some { concern with timeout := some (.ofMillis millis.toNat) }
          else none) ∧
      (ofValue? held = some { concern with
          timeout := concern.timeout.map fun limit => .ofMillis limit.millis } ↔
        ∀ limit ∈ concern.timeout, limit.millis < 2 ^ 63) := by
  refine ⟨fun write line same => ?_, fun operation api line after command request same prepared =>
    ?_, concern.told_eq_iff, concern.told_neg_iff, fun held serialized => ?_⟩
  · subst same
    exact write.tellsLimit_run line
  · have bears := DropUser.bears_told prepared
    rwa [same] at bears
  · rw [serialized.eq_raw]
    exact ⟨ofValue?_toDocument named, ofValue?_toDocument_iff named⟩

/-- A time limit that is one millisecond too long for a long word: the server is told the least
number of all, which nobody reads back as a time limit. -/
theorem timeLimit_kept_iff_overlong :
    let line : Line := {
      connection := .fresh ⟨default, 1⟩ { address := default, wireVersion := 6 } {}
      network := {} }
    let concern : WriteConcern := {
      members := some (.nodes 1)
      timeout := some (.ofMillis (2 ^ 63))
      journal := some true }
    let write : Write :=
      { target := ⟨"db", "c"⟩, statement := .insert [("_id", .int32 0)], concern }
    concern.validate = .ok () ∧ concern.members ≠ some (.custom "majority") ∧
      (∃ command mandate, (write.run line).2.network.sent = [(1, command)] ∧
        Mandate.ofCommand? command = some mandate ∧ mandate.timeLimit? = some (-9223372036854775808)) ∧
      ofValue? (Value.document concern.toDocument).raw = none := by
  intro line concern write
  have named : concern.members ≠ some (.custom "majority") := by decide
  have told : concern.told = some (-9223372036854775808) := by decide +kernel
  obtain ⟨sent, -, -, -, back⟩ := timeLimit_kept_iff concern named
  rw [told] at sent back
  refine ⟨rfl, named, ?_, (back _ .value).1⟩
  obtain ⟨messages, out, tells⟩ := sent write line rfl
  have one : (write.run line).2.network.sent.length = 1 := by decide +kernel
  rw [show (write.run line).2.network.sent = _ from out] at one ⊢
  have command : ((write.run line).2.network.sent.map fun sent => legacyTask? sent.2) = [none] := by
    decide +kernel
  rw [show (write.run line).2.network.sent = _ from out] at command
  -- One message has gone out, and it is not a legacy request.
  cases tells with
  | unsent => cases one
  | posted read =>
    simp [line, read] at command
  | command read limit => exact ⟨_, _, rfl, read, limit⟩
  | question => cases one

end WriteConcern

end DocWire
