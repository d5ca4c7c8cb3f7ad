import DocWire.Proofs.Wire.Grammar

/-! Reading a message with lengths that trap: what has been read is counted upwards, and a length
that would be less than nothing is the end of everything. No bytes ever lead to such an end, so the
reader whose lengths stop at zero says the same. -/

namespace DocWire

/-- What comes of a reading whose lengths trap: nothing at all comes of one that was trapped. -/
abbrev Trapping (α : Type) := Option (Except Cause α)

namespace Trapping

/-- What a length has beyond a part of it. -/
def less (whole part : Nat) : Option Nat := if part ≤ whole then some (whole - part) else none

theorem less_of_le {whole part : Nat} (room : part ≤ whole) :
    less whole part = some (whole - part) := if_pos room

theorem less_of_lt {whole part : Nat} (short : whole < part) : less whole part = none :=
  if_neg (Nat.not_le.mpr short)

/-- A document: its first word, and as many bytes after the word as the word tells. -/
def document (bytes : Bytes) : Trapping (RawDocument × Bytes) :=
  match readInt32 bytes with
  | .error cause => some (.error cause)
  | .ok (length, after) =>
    if length < 5 then some (badResponse (.documentLength length))
    else
      let size := length.toInt.toNat
      -- The word has been read, and the length counts it.
      (less size 4).bind fun missing =>
        match Bytes.split? missing after with
        | none => some (badResponse (.documentCut size (4 + after.length)))
        | some (back, rest) =>
          match RawDocument.ofBytes? (bytes.take 4 ++ back) with
          | none => some (badResponse .malformed)
          | some document => some (.ok (document, rest))

/-- The length of a document never traps, for its least value is five. -/
theorem document_eq (bytes : Bytes) : document bytes = some (readDocument bytes) := by
  unfold document readDocument
  cases word : readInt32 bytes with
  | error cause => rfl
  | ok read =>
    obtain ⟨length, after⟩ := read
    obtain ⟨front, four, -, rfl⟩ := readInt32_eq_ok.mp word
    simp only [bind, Except.bind]
    split
    · rfl
    · rename_i large
      have long : 4 ≤ length.toInt.toNat := by
        simp only [Int32.lt_iff_toInt_lt, Int.not_lt] at large
        have five : (5 : Int32).toInt = 5 := rfl
        omega
      rw [less_of_le long, Option.bind_some, List.take_left' four]
      -- The word and what is missing are the front of the bytes.
      by_cases room : length.toInt.toNat - 4 ≤ after.length
      · have whole : length.toInt.toNat ≤ (front ++ after).length := by
          rw [List.length_append]
          omega
        have joined : (front ++ after).take length.toInt.toNat
            = front ++ after.take (length.toInt.toNat - 4) := by
          rw [List.take_append, four, List.take_of_length_le (by omega)]
        have tail : (front ++ after).drop length.toInt.toNat
            = after.drop (length.toInt.toNat - 4) := by
          rw [List.drop_append, four, List.drop_of_length_le (by omega), List.nil_append]
        simp only [Bytes.split?, if_pos room, if_pos whole, joined, tail]
        cases RawDocument.ofBytes? (front ++ after.take (length.toInt.toNat - 4)) <;> rfl
      · have cut : ¬ length.toInt.toNat ≤ (front ++ after).length := by
          rw [List.length_append]
          omega
        simp only [Bytes.split?, if_neg room, if_neg cut]
        rw [List.length_append, four]

/-- Documents up to a length of which so much has been read; the length is compared at the end. -/
def run (declared : Int32) (length count : Nat) (bytes : Bytes) :
    Trapping (List RawDocument × Bytes) :=
  if count < length then
    match found : document bytes with
    | none => none
    | some (.error cause) => some (.error cause)
    | some (.ok (document, rest)) =>
      have := length_readDocument (Option.some.inj ((document_eq bytes).symm.trans found))
      match run declared length (count + document.bytes.length) rest with
      | none => none
      | some (.error cause) => some (.error cause)
      | some (.ok (others, rest)) => some (.ok (document :: others, rest))
  else if count = length then some (.ok ([], bytes))
  else
    -- What stands before the documents is what the section has beyond their length.
    (less declared.toInt.toNat length).bind fun before =>
      some (badResponse (.sizeMismatch declared (before + count)))
termination_by bytes.length

/-- While the length is not reached, the document at the front is read first. -/
theorem run_step {declared : Int32} {length count : Nat} (short : count < length) (bytes : Bytes) :
    run declared length count bytes = match readDocument bytes with
      | .error cause => some (.error cause)
      | .ok (document, rest) =>
        match run declared length (count + document.bytes.length) rest with
        | none => none
        | some (.error cause) => some (.error cause)
        | some (.ok (others, rest)) => some (.ok (document :: others, rest)) := by
  rw [run, if_pos short]
  -- What the counting reader found is what the plain one finds.
  have same := document_eq bytes
  split
  · rename_i trapped
    rw [trapped] at same
    cases same
  · rename_i failed
    rw [← Option.some.inj (failed.symm.trans same)]
  · rename_i read
    rw [← Option.some.inj (read.symm.trans same)]

/-- No length traps in a run of documents that is a part of its section. -/
theorem run_eq {declared : Int32} {length count left : Nat}
    (inside : length ≤ declared.toInt.toNat) (split : count + left = length) (bytes : Bytes) :
    run declared length count bytes = some (readRun declared left bytes) := by
  -- The induction follows the documents, and what is counted moves on as what is left shrinks.
  fun_induction readRun declared left bytes generalizing count with
  | case1 bytes =>
    rw [run, if_neg (by omega), if_pos (by omega)]
  | case2 left bytes _ cause found =>
    rw [run_step (by omega), found]
  | case3 left bytes _ document rest found _ past =>
    -- The document goes beyond the section, which shows when it has been counted.
    rw [run_step (by omega), found]
    dsimp only
    rw [run, if_neg (by omega), if_neg (by omega), less_of_le inside, Option.bind_some]
    have beyond : declared.toInt.toNat - length + (count + document.bytes.length)
        = declared.toInt.toNat + (document.bytes.length - left) := by omega
    rw [beyond]
    rfl
  | case4 left bytes _ document rest found =>
    rename_i inner ih
    rw [run_step (by omega), found]
    dsimp only
    rw [ih (by omega), inner]
  | case5 left bytes _ document rest found =>
    rename_i inner ih
    rw [run_step (by omega), found]
    dsimp only
    rw [ih (by omega), inner]

/-- The documents beside the body, and how many bytes they took with their size and their name. -/
def sequence (bytes : Bytes) : Trapping (DocumentSequence × Nat × Bytes) :=
  match readInt32 bytes with
  | .error cause => some (.error cause)
  | .ok (declared, after) =>
    if declared < 0 then some (badResponse (.sectionSize declared))
    else
      -- The first two differences are looked at before they are used.
      match less declared.toInt.toNat 4 with
      | none => some (badResponse (.sectionSize declared))
      | some beside =>
        match readZeroTerminated after with
        | .error cause => some (.error cause)
        | .ok (identifier, after) =>
          let named := (Bytes.ofString identifier).length + 1
          match less beside named with
          | none => some (badResponse .identifierTooLong)
          | some length =>
            (run declared length 0 after).map (·.map fun (documents, rest) =>
              (⟨identifier, documents⟩, 4 + named + length, rest))

/-- Documents beside the body took as many bytes as their size says. -/
theorem sequence_eq (bytes : Bytes) :
    sequence bytes = some ((readSequence bytes).map fun (sequence, rest) =>
      (sequence, sequence.size, rest)) := by
  unfold sequence readSequence
  cases sized : readInt32 bytes with
  | error cause => rfl
  | ok read =>
    obtain ⟨declared, after⟩ := read
    have least : (4 : Int32).toInt = 4 := rfl
    have zero : (0 : Int32).toInt = 0 := rfl
    simp only [bind, Except.bind]
    -- A negative size is refused on its own here, a small one because nothing is beside it.
    by_cases small : declared < 4
    · rw [if_pos small]
      simp only [Int32.lt_iff_toInt_lt, least] at small
      split
      · rfl
      · rw [less_of_lt (by omega)]
        rfl
    · rw [if_neg small]
      simp only [Int32.lt_iff_toInt_lt, least] at small
      rw [if_neg (by rw [Int32.lt_iff_toInt_lt]; omega), less_of_le (by omega)]
      dsimp only
      cases texts : readZeroTerminated after with
      | error cause => rfl
      | ok read =>
        obtain ⟨identifier, others⟩ := read
        dsimp only
        by_cases short : declared.toInt.toNat - 4 < (Bytes.ofString identifier).length + 1
        · rw [if_pos short, less_of_lt short]
          rfl
        · rw [if_neg short, less_of_le (Nat.le_of_not_lt short)]
          dsimp only
          rw [run_eq (Nat.le_trans (Nat.sub_le _ _) (Nat.sub_le _ _)) (Nat.zero_add _)]
          cases ran : readRun declared (declared.toInt.toNat - 4 -
              ((Bytes.ofString identifier).length + 1)) others with
          | error cause => rfl
          | ok read =>
            obtain ⟨documents, rest⟩ := read
            obtain ⟨-, filled, -⟩ := readRun_eq_ok.mp ran
            have size : (⟨identifier, documents⟩ : DocumentSequence).size
                = 4 + ((Bytes.ofString identifier).length + 1) + (declared.toInt.toNat - 4 -
                    ((Bytes.ofString identifier).length + 1)) := by
              simp only [DocumentSequence.size, DocumentSequence.content, filled]
              omega
            show some (Except.ok _) = some (Except.ok (_, _, _))
            rw [size]

/-- The section at the front, and how many bytes it took with its kind byte. -/
def part (bytes : Bytes) : Trapping (Section × Nat × Bytes) :=
  match bytes with
  | [] => some (.error (.stream .endOfStream))
  | kind :: after =>
    if kind = 0 then
      (document after).map (·.map fun (document, rest) =>
        (.body document, 1 + document.bytes.length, rest))
    else
      (sequence after).map (·.map fun (sequence, taken, rest) =>
        (.sequence sequence, 1 + taken, rest))

/-- How many bytes a section is spelled with. -/
def extent : Section → Nat
  | .body document => 1 + document.bytes.length
  | .sequence sequence => 1 + sequence.size

theorem length_of_spelled {part : Section} {front : Bytes} (spelled : part.Spelled front) :
    front.length = extent part := by
  cases spelled with
  | body measured => simp [extent, Nat.add_comm]
  | sequence other four counted named measured =>
    simp [extent, DocumentSequence.size, four]
    omega

theorem part_eq (bytes : Bytes) :
    part bytes = some ((readSection bytes).map fun (part, rest) => (part, extent part, rest)) := by
  -- Both kinds of section count what their own readers count, and the kind byte.
  unfold part readSection
  cases bytes with
  | nil => rfl
  | cons kind after =>
    dsimp only
    split
    · rw [document_eq]
      cases readDocument after <;> rfl
    · rw [sequence_eq]
      cases readSequence after <;> rfl

theorem part_ok {bytes rest : Bytes} {found : Section} {taken : Nat}
    (read : part bytes = some (.ok (found, taken, rest))) :
    readSection bytes = .ok (found, rest) ∧ bytes.length = taken + rest.length := by
  rw [part_eq] at read
  cases section' : readSection bytes with
  | error cause =>
    rw [section'] at read
    cases read
  | ok pair =>
    rw [section'] at read
    cases read
    -- What was counted is what the section that was read is spelled with.
    obtain ⟨front, spelled, rfl⟩ := readSection_eq_ok.mp section'
    exact ⟨rfl, by rw [List.length_append, length_of_spelled spelled]⟩

/-- Sections up to a limit of which so much has been read, and how much has been read then. -/
def parts (limit count : Nat) (seen : Sections) (bytes : Bytes) : Trapping (Sections × Nat) :=
  if count < limit then
    match found : part bytes with
    | none => none
    | some (.error cause) => some (.error cause)
    | some (.ok (.sequence sequence, taken, rest)) =>
      have := length_readSection (part_ok found).1
      parts limit (count + taken) { seen with sequences := seen.sequences ++ [sequence] } rest
    | some (.ok (.body document, taken, rest)) =>
      have := length_readSection (part_ok found).1
      if seen.body.isSome then some (badResponse .bodySections)
      else parts limit (count + taken) { seen with body := some document } rest
  else some (.ok (seen, count))
termination_by bytes.length

/-- The section at the front is read first, and its bytes are counted. -/
theorem parts_step {limit count : Nat} (short : count < limit) (seen : Sections) (bytes : Bytes) :
    parts limit count seen bytes = match readSection bytes with
      | .error cause => some (.error cause)
      | .ok (.sequence sequence, rest) =>
        parts limit (count + extent (.sequence sequence))
          { seen with sequences := seen.sequences ++ [sequence] } rest
      | .ok (.body document, rest) =>
        if seen.body.isSome then some (badResponse .bodySections)
        else parts limit (count + extent (.body document)) { seen with body := some document }
          rest := by
  rw [parts, if_pos short]
  -- What the counting reader found is what the plain one finds.
  have same := part_eq bytes
  split
  · rename_i trapped
    rw [trapped] at same
    cases same
  · rename_i cause failed
    rw [failed] at same
    cases read : readSection bytes with
    | error other =>
      rw [read] at same
      cases same
      rfl
    | ok pair =>
      rw [read] at same
      cases same
  · rename_i sequence taken rest read
    rw [read, (part_ok read).1] at same
    cases same
    rw [(part_ok read).1]
  · rename_i document taken rest read
    rw [read, (part_ok read).1] at same
    cases same
    rw [(part_ok read).1]

/-- What is counted and what is left make up the whole, so the count is where the reader is. -/
theorem parts_eq {limit trailer count : Nat} {seen : Sections} {bytes : Bytes}
    (whole : count + bytes.length = limit + trailer) :
    parts limit count seen bytes = some ((readSections trailer seen bytes).map
      fun (sections, rest) => (sections, limit + trailer - rest.length)) := by
  -- The induction follows the sections; both readers stop at the same place, by the sum.
  fun_induction readSections trailer seen bytes generalizing count with
  | case1 seen bytes short =>
    rw [parts, if_neg (by omega)]
    have place : limit + trailer - bytes.length = count := by omega
    show _ = some (Except.ok (_, limit + trailer - bytes.length))
    rw [place]
  | case2 seen bytes long cause found =>
    rw [parts_step (by omega), found]
    rfl
  | case3 seen bytes long sequence rest found _ ih =>
    obtain ⟨front, spelled, rfl⟩ := readSection_eq_ok.mp found
    have taken := length_of_spelled spelled
    rw [List.length_append] at whole long
    rw [parts_step (by omega), found]
    exact ih (by omega)
  | case4 seen bytes long document rest found _ second =>
    rw [parts_step (by omega), found]
    dsimp only
    rw [if_pos second]
    rfl
  | case5 seen bytes long document rest found _ first ih =>
    obtain ⟨front, spelled, rfl⟩ := readSection_eq_ok.mp found
    have taken := length_of_spelled spelled
    rw [List.length_append] at whole long
    rw [parts_step (by omega), found]
    dsimp only
    rw [if_neg first]
    exact ih (by omega)

/-- A message without its header, of which the header declared a length. -/
def message (declared : Int32) (bytes : Bytes) : Trapping Message :=
  match readUInt32 bytes with
  | .error cause => some (.error cause)
  | .ok (word, after) =>
    (less bytes.length 4).bind fun left =>
      let flags := MessageFlags.ofWord word
      let trailer := if flags.checksumPresent then 4 else 0
      match less left trailer with
      | none => some (badResponse .checksumCut)
      | some limit =>
        match parts limit 0 {} after with
        | none => none
        | some (.error cause) => some (.error cause)
        | some (.ok (sections, count)) =>
          if count ≠ limit then
            some (badResponse (.sizeMismatch declared (headerLength + 4 + count + trailer)))
          else
            match sections.body with
            | none => some (badResponse .bodySections)
            | some body => some (.ok { flags, body, sequences := sections.sequences })

/-- No length traps in any message. -/
theorem message_eq (declared : Int32) (bytes : Bytes) :
    message declared bytes = some (Message.read declared bytes) := by
  unfold message Message.read
  cases flagged : readUInt32 bytes with
  | error cause => rfl
  | ok read =>
    obtain ⟨word, after⟩ := read
    obtain ⟨front, four, -, rfl⟩ := readUInt32_eq_ok.mp flagged
    simp only [bind, Except.bind]
    rw [less_of_le (by rw [List.length_append]; omega), Option.bind_some, List.length_append, four,
      Nat.add_sub_cancel_left]
    generalize (if (MessageFlags.ofWord word).checksumPresent = true then 4 else 0) = trailer
    by_cases cut : after.length < trailer
    · rw [if_pos cut, less_of_lt cut]
    · rw [if_neg cut, less_of_le (Nat.le_of_not_lt cut)]
      dsimp only
      rw [parts_eq (show 0 + after.length = after.length - trailer + trailer by omega)]
      cases found : readSections trailer {} after with
      | error cause => rfl
      | ok read =>
        obtain ⟨sections, rest⟩ := read
        obtain ⟨short, sections', -, joined, -, -⟩ := readSections_ok found
        have inside : rest.length ≤ after.length := by
          rw [joined, List.length_append]
          omega
        have whole : after.length - trailer + trailer = after.length := by omega
        dsimp only [Except.map]
        rw [whole]
        -- The count misses the limit by as much as the rest misses the trailer.
        by_cases trailed : rest.length = trailer
        · rw [if_neg (by omega), if_neg (by omega)]
          cases sections.body <;> rfl
        · rw [if_pos (by omega), if_pos (by omega)]

end Trapping

/-- A message is read from the bytes that spell it, in which one section is a body and the others
are documents beside it, and all other bytes are an error; the length that the header declared has
no part in it. Lengths that trap below zero never do so on the way. -/
theorem Message.accepted_iff_spelled (declared : Int32) (bytes : Bytes) :
    (∀ message, Message.read declared bytes = .ok message ↔ message.Spelled bytes) ∧
      ((∃ cause, Message.read declared bytes = .error cause) ↔
        ¬ ∃ message : Message, message.Spelled bytes) ∧
      Trapping.message declared bytes = some (Message.read declared bytes) :=
  ⟨fun _ => read_eq_ok, exists_error_iff fun _ => read_eq_ok, Trapping.message_eq declared bytes⟩

end DocWire
