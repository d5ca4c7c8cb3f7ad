import DocWire.Proofs.Wire.Leaves
import DocWire.Proofs.Wire.Reading

/-! The grammar of what a server sends: which bytes are the body of a reply or of a message, said
without the readers, which accept these bytes and no others. -/

namespace DocWire

section Sections

/-- The document of a section that holds the body. -/
def Section.body? : Section → Option RawDocument
  | body document => some document
  | sequence _ => none

/-- The documents of a section beside the body, under their name. -/
def Section.sequence? : Section → Option DocumentSequence
  | body _ => none
  | sequence documents => some documents

/-- The bytes of a section: a zero and the body, or any other byte, the size of all that follows it,
the name up to a zero, and the documents one after another. -/
inductive Section.Spelled : Section → Bytes → Prop
  | body {document : RawDocument} (measured : document.Measured) :
      Spelled (.body document) (0 :: document.bytes)
  | sequence {kind : UInt8} {word : Bytes} {sequence : DocumentSequence} (other : kind ≠ 0)
      (four : word.length = 4) (counted : (Bytes.toInt32 word).toInt = sequence.size)
      (named : '\x00' ∉ sequence.identifier.toList)
      (measured : ∀ document ∈ sequence.documents, document.Measured) :
      Spelled (.sequence sequence)
        (kind :: (word ++ (Bytes.ofString sequence.identifier ++ 0 :: sequence.content)))

variable {bytes rest : Bytes}

/-- The documents beside the body are read exactly where their size is right. -/
theorem readSequence_eq_ok {sequence : DocumentSequence} :
    readSequence bytes = .ok (sequence, rest) ↔
      '\x00' ∉ sequence.identifier.toList ∧ (∀ document ∈ sequence.documents, document.Measured) ∧
      ∃ word, word.length = 4 ∧ (Bytes.toInt32 word).toInt = sequence.size ∧
        bytes = word ++ (Bytes.ofString sequence.identifier ++ 0 :: (sequence.content ++ rest)) := by
  constructor
  · intro read
    -- The size comes first, then the name, and what the size leaves is for the documents.
    obtain ⟨⟨declared, after⟩, sized, read⟩ := Work.except_bind_ok read
    obtain ⟨word, four, rfl, joined⟩ := readInt32_eq_ok.mp sized
    dsimp only at read
    split at read
    · cases read
    · rename_i large
      obtain ⟨⟨identifier, others⟩, texts, read⟩ := Work.except_bind_ok read
      obtain ⟨named, tail⟩ := readZeroTerminated_eq_ok.mp texts
      dsimp only at read
      split at read
      · cases read
      · rename_i room
        obtain ⟨⟨documents, last⟩, run, read⟩ := Work.except_bind_ok read
        cases read
        obtain ⟨measured, filled, back⟩ := readRun_eq_ok.mp run
        refine ⟨named, measured, word, four, ?_, by rw [joined, tail, back]; rfl⟩
        -- The size has room for its own four bytes and for the name, and the documents fill the rest.
        simp only [Int32.lt_iff_toInt_lt, Int.not_lt] at large
        have least : (4 : Int32).toInt = 4 := rfl
        simp only [DocumentSequence.size, DocumentSequence.content]
        omega
  · rintro ⟨named, measured, word, four, counted, rfl⟩
    have sized : readInt32 (word ++ (Bytes.ofString sequence.identifier ++
        0 :: (sequence.content ++ rest))) = .ok (Bytes.toInt32 word, _) :=
      readInt32_eq_ok.mpr ⟨word, four, rfl, rfl⟩
    have texts : readZeroTerminated (Bytes.ofString sequence.identifier ++
        0 :: (sequence.content ++ rest)) = .ok (sequence.identifier, sequence.content ++ rest) :=
      readZeroTerminated_eq_ok.mpr ⟨named, rfl⟩
    have least : ¬ Bytes.toInt32 word < 4 := by
      have four : (4 : Int32).toInt = 4 := rfl
      rw [Int32.lt_iff_toInt_lt, counted, DocumentSequence.size]
      omega
    have total : (Bytes.toInt32 word).toInt.toNat = sequence.size := by
      rw [counted, Int.toNat_natCast]
    have room : ¬ sequence.size - 4 < (Bytes.ofString sequence.identifier).length + 1 := by
      rw [DocumentSequence.size]
      omega
    have left : sequence.size - 4 - ((Bytes.ofString sequence.identifier).length + 1)
        = sequence.content.length := by
      rw [DocumentSequence.size]
      omega
    have run : readRun (Bytes.toInt32 word) sequence.content.length (sequence.content ++ rest)
        = .ok (sequence.documents, rest) := readRun_eq_ok.mpr ⟨measured, rfl, rfl⟩
    simp only [readSequence, sized, bind, Except.bind, if_neg least, texts, total, if_neg room,
      left, run]
    rfl

/-- A section is read exactly where one is spelled. -/
theorem readSection_eq_ok {part : Section} :
    readSection bytes = .ok (part, rest) ↔
      ∃ front, part.Spelled front ∧ bytes = front ++ rest := by
  constructor
  · intro read
    cases bytes with
    | nil => cases read
    | cons kind bytes =>
      unfold readSection at read
      dsimp only at read
      split at read
      · rename_i zero
        obtain ⟨⟨document, after⟩, found, read⟩ := Work.except_bind_ok read
        cases read
        obtain ⟨measured, rfl⟩ := readDocument_eq_ok.mp found
        exact ⟨0 :: document.bytes, .body measured, by rw [zero, List.cons_append]⟩
      · rename_i other
        obtain ⟨⟨sequence, after⟩, found, read⟩ := Work.except_bind_ok read
        cases read
        obtain ⟨named, measured, word, four, counted, rfl⟩ := readSequence_eq_ok.mp found
        exact ⟨_, .sequence other four counted named measured, by simp⟩
  · rintro ⟨front, spelled, rfl⟩
    -- The byte in front tells the two kinds apart, for the reader as for the grammar.
    cases spelled with
    | body measured =>
      have found := readDocument_eq_ok.mpr ⟨measured, Eq.refl (_ ++ rest)⟩
      simp only [readSection, List.cons_append, if_true, found, bind, Except.bind]
      rfl
    | @sequence kind word sequence other four counted named measured =>
      have found : readSequence (word ++ (Bytes.ofString sequence.identifier ++
          0 :: (sequence.content ++ rest))) = .ok (sequence, rest) :=
        readSequence_eq_ok.mpr ⟨named, measured, word, four, counted, rfl⟩
      simp only [readSection, List.cons_append, List.append_assoc, if_neg other, found, bind,
        Except.bind]
      rfl

theorem Section.Spelled.solid {part : Section} {front : Bytes} (spelled : part.Spelled front) :
    0 < front.length := by
  cases spelled <;> simp

variable {trailer : Nat} {seen : Sections}

/-- The section at the front is read first, and a second body is refused. -/
theorem readSections_append {part : Section} {front : Bytes} (spelled : part.Spelled front)
    (room : trailer ≤ rest.length) :
    readSections trailer seen (front ++ rest) = match part with
      | .sequence sequence =>
        readSections trailer { seen with sequences := seen.sequences ++ [sequence] } rest
      | .body document =>
        if seen.body.isSome then badResponse .bodySections
        else readSections trailer { seen with body := some document } rest := by
  have found := readSection_eq_ok.mpr ⟨front, spelled, Eq.refl (front ++ rest)⟩
  have solid := spelled.solid
  rw [readSections, if_neg (by rw [List.length_append]; omega)]
  -- What the reader finds at the front is the section that is spelled there.
  split
  · rename_i cause wrong
    rw [found] at wrong
    cases wrong
  · rename_i sequence after read
    rw [found] at read
    cases read
    rfl
  · rename_i document after read
    rw [found] at read
    cases read
    rfl

/-- What was read in front of the trailer is a row of sections, with one body at most. -/
theorem readSections_ok {sections : Sections}
    (read : readSections trailer seen bytes = .ok (sections, rest)) :
    rest.length ≤ trailer ∧ ∃ parts : List (Section × Bytes),
      (∀ part ∈ parts, part.1.Spelled part.2) ∧ bytes = parts.flatMap (·.2) ++ rest ∧
      sections.body.toList = seen.body.toList ++ parts.filterMap (·.1.body?) ∧
      sections.sequences = seen.sequences ++ parts.filterMap (·.1.sequence?) := by
  -- The induction takes one section off the front at a time.
  fun_induction readSections trailer seen bytes with
  | case1 seen bytes short =>
    cases read
    exact ⟨short, [], by simp⟩
  | case2 => cases read
  | case3 seen bytes _ sequence after found _ ih =>
    obtain ⟨front, spelled, rfl⟩ := readSection_eq_ok.mp found
    obtain ⟨short, parts, others, rfl, bodies, sequences⟩ := ih read
    refine ⟨short, (.sequence sequence, front) :: parts, List.forall_mem_cons.mpr ⟨spelled, others⟩,
      by simp, by simp [bodies, Section.body?], by simp [sequences, Section.sequence?]⟩
  | case4 => cases read
  | case5 seen bytes _ document after found _ first ih =>
    obtain ⟨front, spelled, rfl⟩ := readSection_eq_ok.mp found
    obtain ⟨short, parts, others, rfl, bodies, sequences⟩ := ih read
    have none : seen.body = none := by simpa using first
    refine ⟨short, (.body document, front) :: parts, List.forall_mem_cons.mpr ⟨spelled, others⟩,
      by simp, by simp [bodies, none, Section.body?], by simp [sequences, Section.sequence?]⟩

/-- A row of sections with one body at most is read up to the trailer. -/
theorem readSections_flatMap {parts : List (Section × Bytes)}
    (spelled : ∀ part ∈ parts, part.1.Spelled part.2)
    (single : (seen.body.toList ++ parts.filterMap (·.1.body?)).length ≤ 1) (rest : Bytes) :
    readSections rest.length seen (parts.flatMap (·.2) ++ rest)
      = .ok (⟨(seen.body.toList ++ parts.filterMap (·.1.body?)).head?,
          seen.sequences ++ parts.filterMap (·.1.sequence?)⟩, rest) := by
  induction parts generalizing seen with
  | nil =>
    rw [readSections, if_pos (by simp)]
    obtain ⟨_ | body, sequences⟩ := seen <;> simp
  | cons part others ih =>
    obtain ⟨part, front⟩ := part
    obtain ⟨first, clean⟩ := List.forall_mem_cons.mp spelled
    rw [List.flatMap_cons, List.append_assoc, readSections_append first (by simp)]
    cases part with
    | sequence sequence =>
      dsimp only
      rw [ih clean (by simpa [Section.body?] using single)]
      simp [Section.body?, Section.sequence?]
    | body document =>
      -- Nothing was seen before the only body, and nothing comes after it.
      have none : seen.body = none := by
        cases before : seen.body with
        | none => rfl
        | some other => simp [before, Section.body?] at single
      dsimp only
      rw [none, if_neg (by simp), ih clean (by simpa [none, Section.body?] using single)]
      simp [Section.body?, Section.sequence?]

/-- A row of sections of which one is a body is read with nothing seen before it. -/
theorem readSections_single {parts : List (Section × Bytes)} {body : RawDocument}
    {sequences : List DocumentSequence} (spelled : ∀ part ∈ parts, part.1.Spelled part.2)
    (single : parts.filterMap (·.1.body?) = [body])
    (others : parts.filterMap (·.1.sequence?) = sequences) (rest : Bytes) :
    readSections rest.length {} (parts.flatMap (·.2) ++ rest)
      = .ok (⟨some body, sequences⟩, rest) := by
  let seen : Sections := {}
  have room : (seen.body.toList ++ parts.filterMap (·.1.body?)).length ≤ 1 := by
    simp [seen, single]
  have found := readSections_flatMap spelled room rest
  simpa [seen, single, others] using found

end Sections

section Messages

/-- The bytes of a message taken apart: the word of its flags, its sections and a trailer. -/
structure MessageParts where
  word : Bytes
  sections : List (Section × Bytes)
  trailer : Bytes

/-- The parts make up the bytes and spell the message: one section holds the body, the others the
documents beside it, and there is a trailer of four bytes just when the flags tell of a checksum. -/
structure MessageParts.Spell (parts : MessageParts) (message : Message) (bytes : Bytes) : Prop where
  joined : bytes = parts.word ++ (parts.sections.flatMap (·.2) ++ parts.trailer)
  four : parts.word.length = 4
  flags : message.flags = MessageFlags.ofWord (Bytes.toUInt32 parts.word)
  spelled : ∀ part ∈ parts.sections, part.1.Spelled part.2
  body : parts.sections.filterMap (·.1.body?) = [message.body]
  sequences : parts.sections.filterMap (·.1.sequence?) = message.sequences
  trailed : parts.trailer.length = if message.flags.checksumPresent then 4 else 0

/-- The bytes can be taken apart into flags, sections and a trailer that spell the message. -/
def Message.Spelled (message : Message) (bytes : Bytes) : Prop :=
  ∃ parts : MessageParts, parts.Spell message bytes

namespace Message

variable {declared : Int32} {message : Message} {bytes : Bytes}

theorem read_eq_ok : Message.read declared bytes = .ok message ↔ message.Spelled bytes := by
  constructor
  · intro read
    -- Flags, sections and what is left behind them are the parts; each test is one of their laws.
    obtain ⟨⟨number, after⟩, flagged, read⟩ := Work.except_bind_ok read
    obtain ⟨word, four, rfl, joined⟩ := readUInt32_eq_ok.mp flagged
    dsimp only at read
    generalize room : (if (MessageFlags.ofWord (Bytes.toUInt32 word)).checksumPresent = true
      then 4 else 0) = trailer at read
    split at read
    · cases read
    · obtain ⟨⟨sections, rest⟩, found, read⟩ := Work.except_bind_ok read
      obtain ⟨-, parts, spelled, rfl, bodies, sequences⟩ := readSections_ok found
      dsimp only at read
      split at read
      · cases read
      · rename_i trailed
        split at read
        · cases read
        · rename_i body single
          cases read
          refine ⟨⟨word, parts, rest⟩, joined, four, rfl, spelled, ?_, sequences.symm, ?_⟩
          · simpa [single] using bodies.symm
          · rw [room]
            exact Decidable.not_not.mp trailed
  · rintro ⟨⟨word, parts, rest⟩, joined, four, flags, spelled, body, sequences, trailed⟩
    dsimp only at joined four flags spelled body sequences trailed
    have flagged : readUInt32 bytes = .ok (Bytes.toUInt32 word, parts.flatMap (·.2) ++ rest) :=
      readUInt32_eq_ok.mpr ⟨word, four, rfl, joined⟩
    have found := readSections_single spelled body sequences rest
    rw [flags] at trailed
    -- The reader leaves room for a trailer as long as the one that is there.
    simp only [Message.read, flagged, bind, Except.bind, ← trailed, found]
    rw [if_neg (by simp), if_neg (by simp), ← flags]
    rfl

end Message

/-- A section as it is written is one that can be read. -/
theorem DocumentSequence.spelled_code {sequence : DocumentSequence} (formed : sequence.WellFormed)
    (small : sequence.size ≤ largestWord) : (Section.sequence sequence).Spelled sequence.code := by
  have measured : ∀ document ∈ sequence.documents, document.Measured := by
    intro document among
    apply (formed.framed document among).measured
    -- No document is longer than all of them together.
    have part : document.bytes.length ≤ sequence.content.length := by
      rw [content, List.flatMap]
      exact (List.sublist_flatten_of_mem (List.mem_map_of_mem among)).length_le
    rw [size] at small
    omega
  have code : sequence.code = 1 :: (Bytes.ofNat 4 sequence.size ++
      (Bytes.ofString sequence.identifier ++ 0 :: sequence.content)) := by
    simp [DocumentSequence.code]
  rw [code]
  exact .sequence (by decide) (Bytes.length_ofNat 4 _) (Bytes.toInt32_ofNat small) formed.named
    measured

/-- Sequences whose sizes fit a word are all written. -/
theorem encodeSequences_eq {sequences : List DocumentSequence}
    (small : ∀ sequence ∈ sequences, sequence.size ≤ largestWord) :
    encodeSequences sequences = .ok (sequences.flatMap DocumentSequence.code) := by
  induction sequences with
  | nil => rfl
  | cons sequence others ih =>
    obtain ⟨first, rest⟩ := List.forall_mem_cons.mp small
    have front : sequence.encode = .ok sequence.code := if_neg (Nat.not_lt.mpr first)
    rw [encodeSequences, front, ih rest]
    rfl

namespace Message

variable {message : Message}

/-- A message without a checksum is written, and what is written spells it. -/
theorem spelled_of_encode (plain : message.flags.checksumPresent = false)
    (body : message.body.Measured)
    (formed : ∀ sequence ∈ message.sequences, sequence.WellFormed)
    (small : ∀ sequence ∈ message.sequences, sequence.size ≤ largestWord) :
    ∃ bytes, message.encode = .ok bytes ∧ message.Spelled bytes := by
  -- The writer puts the body first and the sequences after it, in their order.
  let sections := (Section.body message.body, 0 :: message.body.bytes) ::
    message.sequences.map fun sequence => (Section.sequence sequence, sequence.code)
  let word := Bytes.ofUInt32 message.flags.toWord
  have encoded : message.encode = .ok (word ++ (sections.flatMap (·.2) ++ [])) := by
    rw [Message.encode, encodeSequences_eq small]
    simp [word, sections, bind, Except.bind, pure, Except.pure, List.flatMap_map]
  have number : MessageFlags.ofWord (Bytes.toUInt32 word) = message.flags :=
    (congrArg MessageFlags.ofWord (Bytes.toUInt32_ofUInt32 _)).trans
      (MessageFlags.ofWord_toWord message.flags)
  refine ⟨_, encoded, ⟨word, sections, []⟩, rfl, Bytes.length_ofNat 4 _, number.symm, ?_, ?_, ?_,
    by simp [plain]⟩
  · intro part among
    rcases List.mem_cons.mp among with rfl | beside
    · exact .body body
    · obtain ⟨sequence, held, rfl⟩ := List.mem_map.mp beside
      exact DocumentSequence.spelled_code (formed sequence held) (small sequence held)
  · -- No section behind the first one holds a body.
    have none : (message.sequences.map fun sequence =>
        (Section.sequence sequence, sequence.code)).filterMap (·.1.body?) = [] := by
      refine List.filterMap_eq_nil_iff.mpr ?_
      simp [Section.body?]
    exact congrArg (message.body :: ·) none
  · exact List.filterMap_map.trans List.filterMap_some

/-- A message without a checksum is read back from its bytes as it was, whatever length its header
declared, and the sections behind its flags are read to the last byte. -/
theorem read_encode (plain : message.flags.checksumPresent = false)
    (body : message.body.Measured)
    (formed : ∀ sequence ∈ message.sequences, sequence.WellFormed)
    (small : ∀ sequence ∈ message.sequences, sequence.size ≤ largestWord) :
    ∃ bytes, message.encode = .ok bytes ∧
      (∀ declared, Message.read declared bytes = .ok message) ∧
      readSections 0 {} (bytes.drop 4) = .ok (⟨some message.body, message.sequences⟩, []) := by
  obtain ⟨bytes, encoded, spelled⟩ := spelled_of_encode plain body formed small
  refine ⟨bytes, encoded, fun declared => read_eq_ok.mpr spelled, ?_⟩
  obtain ⟨⟨word, parts, rest⟩, joined, four, flags, sections, body, sequences, trailed⟩ := spelled
  dsimp only at joined four sections body sequences trailed
  -- Without a checksum there is no trailer.
  obtain rfl : rest = [] := by simpa [plain] using trailed
  have found := readSections_single sections body sequences []
  rw [joined, List.drop_left' four]
  exact found

/-- Two runs of documents beside the body, one of them empty, and a flag that wants no answer. -/
theorem read_encode_sequences :
    let document : RawDocument := ⟨[5, 0, 0, 0, 0]⟩
    let message : Message := {
      flags := { moreToCome := true }
      body := document
      sequences := [⟨"documents", [document, document]⟩, ⟨"é", []⟩] }
    (∀ sequence ∈ message.sequences, sequence.WellFormed ∧ sequence.size ≤ largestWord) ∧
    ∃ bytes, message.encode = .ok bytes ∧
      (∀ declared, Message.read declared bytes = .ok message) ∧
      readSections 0 {} (bytes.drop 4) = .ok (⟨some message.body, message.sequences⟩, []) := by
  intro document message
  have measured : document.Measured := ⟨by decide, by decide, by decide⟩
  have formed : ∀ sequence ∈ message.sequences,
      sequence.WellFormed ∧ sequence.size ≤ largestWord := by
    intro sequence among
    simp only [message, List.mem_cons, List.not_mem_nil, or_false] at among
    -- An identifier is a text like any other, and there may be no documents at all.
    rcases among with rfl | rfl
    · exact ⟨⟨by decide, by simp [measured.framed]⟩, by decide⟩
    · exact ⟨⟨by decide, by simp⟩, by decide⟩
  exact ⟨formed, read_encode rfl measured (fun sequence among => (formed sequence among).1)
    fun sequence among => (formed sequence among).2⟩

end Message

end Messages

section Replies

/-- The bytes are four words, and then the documents of the reply, as many as the last word says and
with nothing after them. -/
structure Reply.Spelled (reply : Reply) (bytes : Bytes) : Prop where
  long : 20 ≤ bytes.length
  flags : reply.flags = ReplyFlags.ofWord (Bytes.toUInt32 (bytes.take 4))
  cursor : reply.cursor = Bytes.toInt64 ((bytes.drop 4).take 8)
  startingFrom : reply.startingFrom = Bytes.toInt32 ((bytes.drop 12).take 4)
  count : reply.count = Bytes.toInt32 ((bytes.drop 16).take 4)
  tiled : bytes.drop 20 = reply.documents.flatMap (·.bytes)
  measured : ∀ document ∈ reply.documents, document.Measured
  counted : reply.count.toInt = reply.documents.length

namespace Reply

variable {bytes : Bytes}

/-- With enough bytes for the four words, the rest decides. -/
theorem read_of_long (long : 20 ≤ bytes.length) :
    Reply.read bytes = (do
      let documents ← readDocuments (bytes.drop 20)
      let count := Bytes.toInt32 ((bytes.drop 16).take 4)
      if count.toInt = documents.length then
        return {
          flags := ReplyFlags.ofWord (Bytes.toUInt32 (bytes.take 4))
          cursor := Bytes.toInt64 ((bytes.drop 4).take 8)
          startingFrom := Bytes.toInt32 ((bytes.drop 12).take 4)
          count
          documents }
      else badResponse (.documentCount count documents.length)) := by
  -- Each word is cut off what the words before it have left.
  have cut (place width : Nat) (room : place + width ≤ 20) :
      readBytes width (bytes.drop place)
        = .ok ((bytes.drop place).take width, bytes.drop (place + width)) := by
    refine readBytes_eq_ok.mpr ⟨?_, ?_⟩
    · rw [List.length_take, List.length_drop]
      omega
    · rw [← List.drop_drop, List.take_append_drop]
  have word := cut 0 4 (by decide)
  rw [List.drop_zero] at word
  simp only [Reply.read, readUInt32, readInt64, readInt32, word, cut 4 8 (by decide),
    cut 12 4 (by decide), cut 16 4 (by decide), bind, Except.bind, pure, Except.pure,
    Nat.reduceAdd]

/-- Bytes that end within the four words are no reply. -/
theorem long_of_read {reply : Reply} (read : Reply.read bytes = .ok reply) : 20 ≤ bytes.length := by
  -- Four parts of fixed sizes come before the documents.
  obtain ⟨⟨word, afterWord⟩, first, read⟩ := Work.except_bind_ok read
  obtain ⟨⟨cursor, afterCursor⟩, second, read⟩ := Work.except_bind_ok read
  obtain ⟨⟨start, afterStart⟩, third, read⟩ := Work.except_bind_ok read
  obtain ⟨⟨count, afterCount⟩, fourth, -⟩ := Work.except_bind_ok read
  obtain ⟨a, four, -, rfl⟩ := readUInt32_eq_ok.mp first
  obtain ⟨b, eight, -, rfl⟩ := readInt64_eq_ok.mp second
  obtain ⟨c, fourAgain, -, rfl⟩ := readInt32_eq_ok.mp third
  obtain ⟨d, fourMore, -, rfl⟩ := readInt32_eq_ok.mp fourth
  simp only [List.length_append]
  omega

theorem read_eq_ok {reply : Reply} : Reply.read bytes = .ok reply ↔ reply.Spelled bytes := by
  constructor
  · intro read
    -- The words are there once anything was read, so only the documents are left to look at.
    have long := long_of_read read
    rw [read_of_long long] at read
    obtain ⟨documents, found, read⟩ := Work.except_bind_ok read
    obtain ⟨measured, tiled⟩ := readDocuments_eq_ok.mp found
    dsimp only at read
    split at read
    · rename_i counted
      cases read
      exact ⟨long, rfl, rfl, rfl, rfl, tiled, measured, counted⟩
    · cases read
  · rintro ⟨long, flags, cursor, startingFrom, count, tiled, measured, counted⟩
    have found := readDocuments_eq_ok.mpr ⟨measured, tiled⟩
    rw [count] at counted
    rw [read_of_long long, found]
    show (if _ then _ else _) = _
    rw [if_pos counted]
    cases reply
    cases flags
    cases cursor
    cases startingFrom
    cases count
    rfl

/-- A reply is read from the bytes that spell it, and all other bytes are an error. -/
theorem accepted_iff_tiled (bytes : Bytes) :
    (∀ reply, Reply.read bytes = .ok reply ↔ reply.Spelled bytes) ∧
      ((∃ cause, Reply.read bytes = .error cause) ↔ ¬ ∃ reply : Reply, reply.Spelled bytes) :=
  ⟨fun _ => read_eq_ok, exists_error_iff fun _ => read_eq_ok⟩

end Reply

end Replies

end DocWire
