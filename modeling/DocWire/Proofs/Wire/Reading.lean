import DocWire.Proofs.Wire.Cuts
import DocWire.Proofs.Work
import DocWire.Wire.Request
import DocWire.Wire.Response

/-! Requests and their bytes: every part of a message can be cut off the front, so that what was
sent is known to whoever reads it. Of a namespace only the full name is sent, which does not tell
where the name of the database ends. -/

namespace DocWire

section Flags

/-- The known flags of a word. -/
def QueryFlags.ofWord (word : UInt32) : QueryFlags where
  tailable := hasBit word 1
  secondaryOk := hasBit word 2
  oplogReplay := hasBit word 3
  noCursorTimeout := hasBit word 4
  awaitData := hasBit word 5
  exhaust := hasBit word 6
  partialResults := hasBit word 7

/-- The known flags of a word. -/
def UpdateFlags.ofWord (word : UInt32) : UpdateFlags := ⟨hasBit word 0, hasBit word 1⟩

theorem MessageFlags.ofWord_toWord (flags : MessageFlags) : ofWord flags.toWord = flags := by
  rcases flags with ⟨_ | _, _ | _, _ | _⟩ <;> rfl

theorem QueryFlags.ofWord_toWord (flags : QueryFlags) : ofWord flags.toWord = flags := by
  obtain ⟨tailable, secondary, oplog, timeout, awaits, exhaust, partialResults⟩ := flags
  -- No two flags share a bit, as each of the combinations shows.
  revert tailable secondary oplog timeout awaits exhaust partialResults
  decide

theorem UpdateFlags.ofWord_toWord (flags : UpdateFlags) : ofWord flags.toWord = flags := by
  rcases flags with ⟨_ | _, _ | _⟩ <;> rfl

/-- The flags of a message are cut off with their word. -/
theorem MessageFlags.cuts_toWord :
    Cuts (fun _ => True) fun flags : MessageFlags => Bytes.ofUInt32 flags.toWord := by
  apply Bytes.cuts_ofUInt32.comap
  intro first second words
  rw [← ofWord_toWord first, words, ofWord_toWord]

/-- The flags of a query are cut off with their word. -/
theorem QueryFlags.cuts_toWord :
    Cuts (fun _ => True) fun flags : QueryFlags => Bytes.ofUInt32 flags.toWord := by
  apply Bytes.cuts_ofUInt32.comap
  intro first second words
  rw [← ofWord_toWord first, words, ofWord_toWord]

/-- The flags of an update are cut off with their word. -/
theorem UpdateFlags.cuts_toWord :
    Cuts (fun _ => True) fun flags : UpdateFlags => Bytes.ofUInt32 flags.toWord := by
  apply Bytes.cuts_ofUInt32.comap
  intro first second words
  rw [← ofWord_toWord first, words, ofWord_toWord]

/-- A flag that has a word for itself is cut off with the word. -/
theorem cuts_flag : Cuts (fun _ => True) fun flag => Bytes.ofNat 4 (bitIf flag 0) := by
  intro first second _ _ rest other same
  have fits (flag : Bool) : bitIf flag 0 < Nat.pow 256 4 := by
    cases flag <;> decide
  obtain ⟨equal, back⟩ := Bytes.cuts_ofNat 4 (fits first) (fits second) same
  refine ⟨?_, back⟩
  revert equal
  cases first <;> cases second <;> decide

end Flags

namespace DocumentSequence

/-- The name of the sequence holds no zero, and its documents are framed. -/
structure WellFormed (sequence : DocumentSequence) : Prop where
  named : '\x00' ∉ sequence.identifier.toList
  framed : ∀ document ∈ sequence.documents, document.Framed

/-- The section that holds the documents, whether its size fits a word or not. -/
def code (sequence : DocumentSequence) : Bytes :=
  [1] ++ Bytes.ofNat 4 sequence.size ++ Bytes.ofString sequence.identifier ++ [0] ++
    sequence.content

theorem encode_ok {sequence : DocumentSequence} {bytes : Bytes}
    (encoded : sequence.encode = .ok bytes) :
    sequence.size ≤ largestWord ∧ bytes = sequence.code := by
  unfold encode at encoded
  split at encoded
  · cases encoded
  · rename_i small
    cases encoded
    exact ⟨Nat.le_of_not_lt small, rfl⟩

/-- A section is cut off where its size says, and its name where the zero is. -/
theorem cuts_code :
    Cuts (fun sequence => sequence.WellFormed ∧ sequence.size ≤ largestWord) code := by
  rintro first second ⟨sound, small⟩ ⟨clean, little⟩ rest other same
  have fits {size : Nat} (bound : size ≤ largestWord) : size < Nat.pow 256 4 :=
    Nat.lt_of_le_of_lt bound (by decide)
  simp only [code, List.append_assoc, List.cons_append, List.nil_append, List.cons.injEq,
    true_and] at same
  obtain ⟨long, same⟩ := Bytes.cuts_ofNat 4 (fits small) (fits little) same
  have texts : (Bytes.ofString first.identifier ++ [0]) ++ (first.content ++ rest)
      = (Bytes.ofString second.identifier ++ [0]) ++ (second.content ++ other) := by
    simpa using same
  obtain ⟨name, same⟩ := Bytes.cuts_terminated sound.named clean.named texts
  -- The size leaves as much for the documents of the one as for those of the other.
  have alike : first.content.length = second.content.length := by
    simp only [size, name] at long
    omega
  obtain ⟨held, back⟩ := List.append_inj same alike
  have documents := RawDocument.flatMap_bytes_inj sound.framed clean.framed held
  refine ⟨?_, back⟩
  cases first
  cases second
  cases name
  cases documents
  rfl

end DocumentSequence

theorem encodeSequences_ok {sequences : List DocumentSequence} {bytes : Bytes}
    (encoded : encodeSequences sequences = .ok bytes) :
    (∀ sequence ∈ sequences, sequence.size ≤ largestWord) ∧
      bytes = sequences.flatMap DocumentSequence.code := by
  induction sequences generalizing bytes with
  | nil =>
    cases encoded
    simp
  | cons sequence rest ih =>
    obtain ⟨front, first, encoded⟩ := Work.except_bind_ok encoded
    obtain ⟨back, others, encoded⟩ := Work.except_bind_ok encoded
    cases encoded
    -- Each sequence is checked by itself; there is no bound on all of them together.
    obtain ⟨small, rfl⟩ := DocumentSequence.encode_ok first
    obtain ⟨all, rfl⟩ := ih others
    exact ⟨List.forall_mem_cons.mpr ⟨small, all⟩, rfl⟩

section Namespaces

variable {first second : Namespace} {front back rest other : Bytes}

theorem encodeNamespace_ok (encoded : encodeNamespace first = .ok front) :
    '\x00' ∉ first.text.toList ∧ front = Bytes.ofString first.text ++ [0] := by
  unfold encodeNamespace zeroTerminated? at encoded
  by_cases zero : '\x00' ∈ first.text.toList
  · simp [zero, refuse] at encoded
  · simp only [zero, if_false, Except.ok.injEq] at encoded
    exact ⟨zero, encoded.symm⟩

/-- A namespace is cut off with its zero, and its full name is known then. -/
theorem encodeNamespace_cuts (encoded : encodeNamespace first = .ok front)
    (again : encodeNamespace second = .ok back) (same : front ++ rest = back ++ other) :
    first.text = second.text ∧ rest = other := by
  obtain ⟨sound, rfl⟩ := encodeNamespace_ok encoded
  obtain ⟨clean, rfl⟩ := encodeNamespace_ok again
  exact Bytes.cuts_terminated sound clean same

theorem encodeNamespace_congr (same : first.text = second.text) :
    encodeNamespace first = encodeNamespace second := by
  unfold encodeNamespace
  rw [same]

end Namespaces

section Headers

/-- A signed word is read back from its bytes. -/
theorem Bytes.toInt32_ofInt32 (word : Int32) : toInt32 (ofInt32 word) = word := by
  rw [toInt32, ofInt32, toNat_ofNat 4 _ word.toUInt32.toNat_lt, UInt32.ofNat_toNat,
    Int32.toInt32_toUInt32]

/-- A length that fits a signed word is read back as it is. -/
theorem Bytes.toInt32_ofNat {length : Nat} (small : length ≤ largestWord) :
    (toInt32 (ofNat 4 length)).toInt = length := by
  have below : length < 2 ^ 31 := by
    simp only [largestWord] at small
    omega
  rw [toInt32, toNat_ofNat 4 length (Nat.lt_of_le_of_lt small (by decide))]
  show (Int32.ofNat length).toInt = length
  exact Int32.toInt_ofNat_of_lt below

/-- The number at a place of a header is the one that was put there. -/
theorem wordAt_append {front : Bytes} {place : Nat} (long : front.length = place) (number : Nat)
    (rest : Bytes) :
    wordAt (front ++ (Bytes.ofNat 4 number ++ rest)) place
      = Bytes.toInt32 (Bytes.ofNat 4 number) := by
  rw [wordAt, List.drop_left' long]
  exact congrArg Bytes.toInt32 (List.take_left' (Bytes.length_ofNat 4 number))

theorem wordAt_ofInt32 {front : Bytes} {place : Nat} (long : front.length = place) (word : Int32)
    (rest : Bytes) : wordAt (front ++ (Bytes.ofInt32 word ++ rest)) place = word := by
  have read := wordAt_append long word.toUInt32.toNat rest
  exact read.trans (Bytes.toInt32_ofInt32 word)

theorem OpCode.ofNumber?_number (code : OpCode) : ofNumber? code.number = some code := by
  cases code <;> rfl

/-- Frames with the same bytes have the same id, kind and body. -/
theorem frame_inj {first second : OpCode} {id other answering : Int32} {body content bytes : Bytes}
    (made : frame first id answering body = .ok bytes)
    (again : frame second other answering content = .ok bytes) :
    id = other ∧ first = second ∧ body = content := by
  have fits {length : Nat} (small : ¬ largestWord < length) : length < Nat.pow 256 4 :=
    Nat.lt_of_le_of_lt (Nat.le_of_not_lt small) (by decide)
  unfold frame at made again
  dsimp only at made again
  split at made
  · cases made
  · rename_i small
    split at again
    · cases again
    · rename_i little
      cases made
      have same := (Except.ok.inj again).symm
      simp only [List.append_assoc] at same
      -- The words of the header are cut off one by one.
      obtain ⟨-, same⟩ := Bytes.cuts_ofNat 4 (fits small) (fits little) same
      obtain ⟨ids, same⟩ := Bytes.cuts_ofInt32 trivial trivial same
      obtain ⟨-, same⟩ := Bytes.cuts_ofInt32 trivial trivial same
      obtain ⟨numbers, same⟩ := Bytes.cuts_ofInt32 trivial trivial same
      have kinds := congrArg OpCode.ofNumber? numbers
      rw [OpCode.ofNumber?_number, OpCode.ofNumber?_number] at kinds
      exact ⟨ids, Option.some.inj kinds, same⟩

/-- A frame begins with a header that tells its length, its ids and its code. -/
theorem Header.ofBytes_frame {code : OpCode} {id answering : Int32} {body bytes : Bytes}
    (made : frame code id answering body = .ok bytes) :
    ∃ header, Header.ofBytes (bytes.take headerLength) = .ok header ∧
      header.length.toInt = bytes.length ∧ header.id = id ∧ header.answering = answering ∧
      header.code = code := by
  unfold frame at made
  dsimp only at made
  split at made
  · cases made
  · rename_i small
    cases made
    -- The four words stand one after another, four bytes each.
    let length := Bytes.ofNat 4 (headerLength + body.length)
    have width (number : Nat) : (Bytes.ofNat 4 number).length = 4 := Bytes.length_ofNat 4 number
    have start : ([] : Bytes).length = 0 := rfl
    have eight : (length ++ Bytes.ofInt32 id).length = 8 := by
      simp [length, Bytes.ofInt32, width]
    have twelve : (length ++ Bytes.ofInt32 id ++ Bytes.ofInt32 answering).length = 12 := by
      simp [length, Bytes.ofInt32, width]
    have long : (length ++ Bytes.ofInt32 id ++ Bytes.ofInt32 answering ++
        Bytes.ofInt32 code.number).length = headerLength := by
      simp [length, Bytes.ofInt32, width, headerLength]
    have first := wordAt_append start (headerLength + body.length)
      (Bytes.ofInt32 id ++ (Bytes.ofInt32 answering ++ Bytes.ofInt32 code.number))
    have second := wordAt_ofInt32 (width (headerLength + body.length)) id
      (Bytes.ofInt32 answering ++ Bytes.ofInt32 code.number)
    have third := wordAt_ofInt32 eight answering (Bytes.ofInt32 code.number)
    have fourth := wordAt_ofInt32 twelve code.number []
    simp only [length, List.nil_append, List.append_nil, List.append_assoc]
      at first second third fourth long
    refine ⟨⟨Bytes.toInt32 length, id, answering, code⟩, ?_, ?_, rfl, rfl, rfl⟩
    · rw [List.take_left' (by simpa using long)]
      simp only [List.append_assoc, Header.ofBytes, first, second, third, fourth,
        OpCode.ofNumber?_number, length]
    · show (Bytes.toInt32 length).toInt = _
      rw [Bytes.toInt32_ofNat (Nat.le_of_not_lt small)]
      simp [Bytes.ofInt32, width, headerLength]
      omega

end Headers

/-- All documents of a request are framed, and no name of a sequence holds a zero. -/
def Request.WellFormed : Request → Prop
  | .message content => content.body.Framed ∧ ∀ sequence ∈ content.sequences, sequence.WellFormed
  | .query content => content.query.Framed ∧ ∀ fields ∈ content.fields, fields.Framed
  | .getMore _ | .killCursors _ => True
  | .insert content => ∀ document ∈ content.documents, document.Framed
  | .update content => content.selector.Framed ∧ content.update.Framed
  | .delete content => content.selector.Framed

/-- Two requests are of one kind and agree in all fields, a namespace being known by its full
name. -/
def Request.Alike : Request → Request → Prop
  | .message first, .message second => first = second
  | .query first, .query second =>
    first.target.text = second.target.text ∧ { first with target := second.target } = second
  | .getMore first, .getMore second =>
    first.target.text = second.target.text ∧ { first with target := second.target } = second
  | .killCursors first, .killCursors second => first = second
  | .insert first, .insert second =>
    first.target.text = second.target.text ∧ { first with target := second.target } = second
  | .update first, .update second =>
    first.target.text = second.target.text ∧ { first with target := second.target } = second
  | .delete first, .delete second =>
    first.target.text = second.target.text ∧ { first with target := second.target } = second
  | _, _ => False

namespace Request

section Bodies

variable {bytes : Bytes}

theorem message_inj {first second : Message} (sound : (message first).WellFormed)
    (clean : (message second).WellFormed) (encoded : first.encode = .ok bytes)
    (again : second.encode = .ok bytes) : first = second := by
  obtain ⟨sections, parts, encoded⟩ := Work.except_bind_ok encoded
  obtain ⟨others, pieces, again⟩ := Work.except_bind_ok again
  cases encoded
  obtain ⟨small, rfl⟩ := encodeSequences_ok parts
  obtain ⟨little, rfl⟩ := encodeSequences_ok pieces
  have same := (Except.ok.inj again).symm
  simp only [List.append_assoc, List.cons_append, List.nil_append] at same
  -- Front to back: the flags, the kind byte of the body, the body and the other sections.
  obtain ⟨flags, same⟩ := MessageFlags.cuts_toWord trivial trivial same
  obtain ⟨-, same⟩ := List.cons.inj same
  obtain ⟨bodies, same⟩ := RawDocument.cuts_bytes sound.1 clean.1 same
  have sequences : first.sequences = second.sequences := by
    apply DocumentSequence.cuts_code.flatMap_inj _ _ _ same
    · intro sequence _
      simp [DocumentSequence.code]
    · intro sequence among
      exact ⟨sound.2 sequence among, small sequence among⟩
    · intro sequence among
      exact ⟨clean.2 sequence among, little sequence among⟩
  cases first
  cases second
  cases flags
  cases bodies
  cases sequences
  rfl

theorem query_inj {first second : LegacyQuery} (sound : (query first).WellFormed)
    (clean : (query second).WellFormed) (encoded : first.encode = .ok bytes)
    (again : second.encode = .ok bytes) :
    (query first).Alike (query second) := by
  obtain ⟨front, named, encoded⟩ := Work.except_bind_ok encoded
  obtain ⟨back, called, again⟩ := Work.except_bind_ok again
  cases encoded
  have same := (Except.ok.inj again).symm
  simp only [List.append_assoc] at same
  obtain ⟨flags, same⟩ := QueryFlags.cuts_toWord trivial trivial same
  obtain ⟨names, same⟩ := encodeNamespace_cuts named called same
  obtain ⟨skips, same⟩ := Bytes.cuts_ofInt32 trivial trivial same
  obtain ⟨counts, same⟩ := Bytes.cuts_ofInt32 trivial trivial same
  obtain ⟨queries, same⟩ := RawDocument.cuts_bytes sound.1 clean.1 same
  -- A projection is there when the query is not the end.
  have fields : first.fields = second.fields := by
    have run (fields : Option RawDocument) :
        (fields.map (·.bytes)).getD [] = fields.toList.flatMap RawDocument.bytes := by
      cases fields <;> simp
    rw [run, run] at same
    have lists : first.fields.toList = second.fields.toList := by
      apply RawDocument.flatMap_bytes_inj _ _ same
      · intro fields among
        exact sound.2 fields (Option.mem_toList.mp among)
      · intro fields among
        exact clean.2 fields (Option.mem_toList.mp among)
    simpa using congrArg List.head? lists
  obtain ⟨_, _, _, _, _, _⟩ := first
  cases second
  cases flags
  cases skips
  cases counts
  cases queries
  cases fields
  exact ⟨names, rfl⟩

theorem getMore_inj {first second : LegacyGetMore} (encoded : first.encode = .ok bytes)
    (again : second.encode = .ok bytes) : (getMore first).Alike (getMore second) := by
  obtain ⟨front, named, encoded⟩ := Work.except_bind_ok encoded
  obtain ⟨back, called, again⟩ := Work.except_bind_ok again
  cases encoded
  have same := (Except.ok.inj again).symm
  simp only [List.append_assoc, List.append_cancel_left_eq] at same
  -- Part by part comes off the front of both, the name first; the cursor is all that is left.
  obtain ⟨names, same⟩ := encodeNamespace_cuts named called same
  obtain ⟨counts, same⟩ := Bytes.cuts_ofInt32 trivial trivial same
  have cursors := Bytes.cuts_ofInt64.inj trivial trivial same
  obtain ⟨_, _, _⟩ := first
  cases second
  cases counts
  cases cursors
  exact ⟨names, rfl⟩

theorem killCursors_inj {first second : LegacyKillCursors} (encoded : first.encode = .ok bytes)
    (again : second.encode = .ok bytes) : first = second := by
  unfold LegacyKillCursors.encode at encoded again
  split at encoded
  · cases encoded
  · split at again
    · cases again
    · rename_i small little
      cases encoded
      have same := (Except.ok.inj again).symm
      simp only [List.append_assoc, List.append_cancel_left_eq] at same
      have fits {count : Nat} (bound : ¬ largestWord < count) : count < Nat.pow 256 4 :=
        Nat.lt_of_le_of_lt (Nat.le_of_not_lt bound) (by decide)
      obtain ⟨-, same⟩ := Bytes.cuts_ofNat 4 (fits small) (fits little) same
      -- Eight bytes each, up to the end.
      have cursors : first.cursors = second.cursors := by
        apply Bytes.cuts_ofInt64.flatMap_inj _ (by simp) (by simp) same
        intro cursor _ empty
        have long := Bytes.length_ofNat 8 cursor.toUInt64.toNat
        rw [show Bytes.ofNat 8 cursor.toUInt64.toNat = [] from empty] at long
        cases long
      cases first
      cases second
      cases cursors
      rfl

theorem insert_inj {first second : LegacyInsert} (sound : (insert first).WellFormed)
    (clean : (insert second).WellFormed) (encoded : first.encode = .ok bytes)
    (again : second.encode = .ok bytes) : (insert first).Alike (insert second) := by
  obtain ⟨front, named, encoded⟩ := Work.except_bind_ok encoded
  obtain ⟨back, called, again⟩ := Work.except_bind_ok again
  cases encoded
  have same := (Except.ok.inj again).symm
  simp only [List.append_assoc] at same
  obtain ⟨flags, same⟩ := cuts_flag trivial trivial same
  obtain ⟨names, same⟩ := encodeNamespace_cuts named called same
  -- The documents run to the end, and each tells where it ends.
  have documents := RawDocument.flatMap_bytes_inj sound clean same
  obtain ⟨_, _, _⟩ := first
  cases second
  cases flags
  cases documents
  exact ⟨names, rfl⟩

theorem update_inj {first second : LegacyUpdate} (sound : (update first).WellFormed)
    (clean : (update second).WellFormed) (encoded : first.encode = .ok bytes)
    (again : second.encode = .ok bytes) : (update first).Alike (update second) := by
  obtain ⟨front, named, encoded⟩ := Work.except_bind_ok encoded
  obtain ⟨back, called, again⟩ := Work.except_bind_ok again
  cases encoded
  have same := (Except.ok.inj again).symm
  simp only [List.append_assoc, List.append_cancel_left_eq] at same
  -- Behind the name the parts have fixed sizes or tell their own.
  obtain ⟨names, same⟩ := encodeNamespace_cuts named called same
  obtain ⟨flags, same⟩ := UpdateFlags.cuts_toWord trivial trivial same
  obtain ⟨selectors, same⟩ := RawDocument.cuts_bytes sound.1 clean.1 same
  have updates := RawDocument.cuts_bytes.inj sound.2 clean.2 same
  obtain ⟨_, _, _, _⟩ := first
  cases second
  cases flags
  cases selectors
  cases updates
  exact ⟨names, rfl⟩

theorem delete_inj {first second : LegacyDelete} (sound : (delete first).WellFormed)
    (clean : (delete second).WellFormed) (encoded : first.encode = .ok bytes)
    (again : second.encode = .ok bytes) : (delete first).Alike (delete second) := by
  obtain ⟨front, named, encoded⟩ := Work.except_bind_ok encoded
  obtain ⟨back, called, again⟩ := Work.except_bind_ok again
  cases encoded
  have same := (Except.ok.inj again).symm
  simp only [List.append_assoc, List.append_cancel_left_eq] at same
  obtain ⟨names, same⟩ := encodeNamespace_cuts named called same
  obtain ⟨flags, same⟩ := cuts_flag trivial trivial same
  -- The selector is the last part.
  have selectors := RawDocument.cuts_bytes.inj sound clean same
  obtain ⟨_, _, _⟩ := first
  cases second
  cases flags
  cases selectors
  exact ⟨names, rfl⟩

end Bodies

/-- Requests of one kind whose bodies have the same bytes agree in all fields. -/
theorem alike_of_encodeBody {first second : Request} {body : Bytes} (sound : first.WellFormed)
    (clean : second.WellFormed) (kinds : first.opCode = second.opCode)
    (encoded : first.encodeBody = .ok body) (again : second.encodeBody = .ok body) :
    first.Alike second := by
  -- The opcode tells the kind, so only requests of one kind are left to compare.
  cases first with
  | message first =>
    cases second with
    | message second => exact message_inj sound clean encoded again
    | _ => cases kinds
  | query first =>
    cases second with
    | query second => exact query_inj sound clean encoded again
    | _ => cases kinds
  | getMore first =>
    cases second with
    | getMore second => exact getMore_inj encoded again
    | _ => cases kinds
  | killCursors first =>
    cases second with
    | killCursors second => exact killCursors_inj encoded again
    | _ => cases kinds
  | insert first =>
    cases second with
    | insert second => exact insert_inj sound clean encoded again
    | _ => cases kinds
  | update first =>
    cases second with
    | update second => exact update_inj sound clean encoded again
    | _ => cases kinds
  | delete first =>
    cases second with
    | delete second => exact delete_inj sound clean encoded again
    | _ => cases kinds

/-- Nothing but the full name of a namespace goes into a message. -/
theorem Alike.encode_eq {first second : Request} (alike : first.Alike second) (id : Int32) :
    first.encode id = second.encode id := by
  cases first with
  | message first =>
    cases second with
    | message second => rw [show first = second from alike]
    | _ => cases alike
  | killCursors first =>
    cases second with
    | killCursors second => rw [show first = second from alike]
    | _ => cases alike
  -- The others differ in the namespace at most.
  | query first =>
    cases second with
    | query second =>
      obtain ⟨names, same⟩ := alike
      rw [← same]
      simp only [encode, encodeBody, LegacyQuery.encode, encodeNamespace_congr names, opCode]
    | _ => cases alike
  | getMore first =>
    cases second with
    | getMore second =>
      obtain ⟨names, same⟩ := alike
      rw [← same]
      simp only [encode, encodeBody, LegacyGetMore.encode, encodeNamespace_congr names, opCode]
    | _ => cases alike
  | insert first =>
    cases second with
    | insert second =>
      obtain ⟨names, same⟩ := alike
      rw [← same]
      simp only [encode, encodeBody, LegacyInsert.encode, encodeNamespace_congr names, opCode]
    | _ => cases alike
  | update first =>
    cases second with
    | update second =>
      obtain ⟨names, same⟩ := alike
      rw [← same]
      simp only [encode, encodeBody, LegacyUpdate.encode, encodeNamespace_congr names, opCode]
    | _ => cases alike
  | delete first =>
    cases second with
    | delete second =>
      obtain ⟨names, same⟩ := alike
      rw [← same]
      simp only [encode, encodeBody, LegacyDelete.encode, encodeNamespace_congr names, opCode]
    | _ => cases alike

/-- The header of a message tells its length, its id and its kind, and the message has a single
reading: another request has the same bytes just when it agrees in id, kind and all fields. -/
theorem single_reading {first second : Request} {id other : Int32} {bytes : Bytes}
    (sound : first.WellFormed) (clean : second.WellFormed)
    (encoded : first.encode id = .ok bytes) :
    (∃ header, Header.ofBytes (bytes.take headerLength) = .ok header ∧
      header.length.toInt = bytes.length ∧ header.id = id ∧ header.answering = 0 ∧
      header.code = first.opCode) ∧
    (second.encode other = .ok bytes ↔ other = id ∧ first.Alike second) := by
  obtain ⟨body, bodies, framed⟩ := Work.except_bind_ok encoded
  refine ⟨Header.ofBytes_frame framed, ?_, ?_⟩
  · intro again
    obtain ⟨found, contents, made⟩ := Work.except_bind_ok again
    -- The headers tell the ids and the kinds apart, and leave equal bodies.
    obtain ⟨ids, kinds, rfl⟩ := frame_inj framed made
    exact ⟨ids.symm, alike_of_encodeBody sound clean kinds bodies contents⟩
  · rintro ⟨rfl, alike⟩
    rw [← alike.encode_eq]
    exact encoded

/-- Where the name of the database ends is not told: two queries for the full name `a.b.c`. -/
theorem single_reading_dotted :
    let document : RawDocument := ⟨[5, 0, 0, 0, 0]⟩
    let first := query { target := ⟨"a.b", "c"⟩, query := document }
    let second := query { target := ⟨"a", "b.c"⟩, query := document }
    first.encode 1 = second.encode 1 ∧ first ≠ second ∧ first.Alike second := by
  intro document first second
  have framed : document.Framed := rfl
  have sound : first.WellFormed := ⟨framed, by simp⟩
  have clean : second.WellFormed := ⟨framed, by simp⟩
  -- Both are written as these bytes, in which `a.b.c` is one text with a zero behind.
  have encoded : first.encode 1 = .ok
      [39, 0, 0, 0, 1, 0, 0, 0, 0, 0, 0, 0, 212, 7, 0, 0, 0, 0, 0, 0, 97, 46, 98, 46, 99, 0,
        0, 0, 0, 0, 0, 0, 0, 0, 5, 0, 0, 0, 0] :=
    Work.ok_of_toOption (by decide +kernel)
  have alike : first.Alike second := ⟨rfl, rfl⟩
  have reading := (single_reading sound clean encoded).2.mpr ⟨rfl, alike⟩
  exact ⟨encoded.trans reading.symm, by decide, alike⟩

end Request

end DocWire
