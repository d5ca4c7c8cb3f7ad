import DocWire.Proofs.Connection.Stream
import DocWire.Proofs.Wire.Cuts
import DocWire.Proofs.Work
import Mathlib.Algebra.Group.Nat.Defs

/-! What the readers of words, texts and documents take off the front of a body: each of them
succeeds exactly on the bytes that spell its value, and leaves what stands after them. -/

namespace DocWire

namespace Bytes

/-- A number is below the capacity of its bytes. -/
theorem toNat_lt (bytes : Bytes) : toNat bytes < 256 ^ bytes.length := by
  -- Each byte adds one place, and fills less than all of it.
  induction bytes with
  | nil => simp [toNat]
  | cons byte rest ih =>
    have small := byte.toNat_lt
    rw [toNat, List.length_cons, Nat.pow_succ]
    omega

/-- A signed word that is not negative is the number that its four bytes spell. -/
theorem toNat_of_toInt32 {bytes : Bytes} (four : bytes.length = 4) {length : Nat}
    (word : (toInt32 bytes).toInt = length) : toNat bytes = length := by
  have small := toNat_lt bytes
  rw [four] at small
  -- The upper half of the unsigned words is the negative half of the signed ones.
  have signed : (toInt32 bytes).toInt = (toNat bytes : Int).bmod (2 ^ 32) :=
    Int32.toInt_ofNat'
  rw [signed, Int.bmod_def] at word
  split at word <;> omega

theorem toUInt32_ofUInt32 (word : UInt32) : toUInt32 (ofUInt32 word) = word := by
  rw [toUInt32, ofUInt32, toNat_ofNat 4 _ word.toNat_lt, UInt32.ofNat_toNat]

/-- A text that bytes spell has these bytes. -/
theorem ofString_of_toString? {bytes : Bytes} {text : String} (read : toString? bytes = some text) :
    ofString text = bytes := by
  -- A text is its bytes with a proof that they are well-formed.
  unfold toString? String.fromUTF8? at read
  split at read
  · cases read
    simp [ofString, String.fromUTF8]
  · cases read

/-- A zero in a text is a zero among its bytes. -/
theorem zero_not_mem_toList {text : String} (clean : (0 : UInt8) ∉ ofString text) :
    '\x00' ∉ text.toList := by
  intro found
  apply clean
  rw [ofString_eq_flatMap]
  exact List.mem_flatMap.mpr ⟨'\x00', found, by decide⟩

/-- The cut at the first zero is where it says: nothing before it is a zero. -/
theorem splitAtZero?_eq_some {bytes front rest : Bytes} :
    splitAtZero? bytes = some (front, rest) ↔ (0 : UInt8) ∉ front ∧ bytes = front ++ 0 :: rest := by
  constructor
  · intro cut
    -- Each byte that is passed over is no zero.
    induction bytes generalizing front with
    | nil => cases cut
    | cons byte bytes ih =>
      rw [splitAtZero?] at cut
      split at cut
      · rename_i zero
        cases cut
        exact ⟨List.not_mem_nil, by rw [zero, List.nil_append]⟩
      · rename_i other
        obtain ⟨⟨before, after⟩, inner, same⟩ := Option.map_eq_some_iff.mp cut
        cases same
        obtain ⟨clean, rfl⟩ := ih inner
        refine ⟨?_, rfl⟩
        intro among
        rcases List.mem_cons.mp among with zero | deeper
        · exact other zero.symm
        · exact clean deeper
  · rintro ⟨clean, rfl⟩
    exact splitAtZero?_append clean rest

end Bytes

/-- What is accepted just when it is spelled is an error just when nothing is spelled. -/
theorem exists_error_iff {α : Type} {result : Except Cause α} {spelled : α → Prop}
    (accepts : ∀ value, result = .ok value ↔ spelled value) :
    (∃ cause, result = .error cause) ↔ ¬ ∃ value, spelled value := by
  constructor
  · rintro ⟨cause, failed⟩ ⟨value, found⟩
    rw [(accepts value).mpr found] at failed
    cases failed
  · intro none
    cases read : result with
    | error cause => exact ⟨cause, rfl⟩
    | ok value => exact absurd ⟨value, (accepts value).mp read⟩ none

section Words

variable {bytes rest : Bytes}

theorem readBytes_eq_ok {count : Nat} {front : Bytes} :
    readBytes count bytes = .ok (front, rest) ↔ front.length = count ∧ bytes = front ++ rest := by
  unfold readBytes
  constructor
  · intro read
    -- There are as many bytes, or the reader runs out.
    split at read
    · rename_i cut
      cases read
      exact Bytes.split?_some cut
    · cases read
  · rintro ⟨rfl, rfl⟩
    rw [Bytes.split?_append]

/-- A word of any width is what so many bytes at the front spell. -/
theorem readWord_eq_ok {α : Type} {count : Nat} {spell : Bytes → α} {word : α} :
    (do
      let (front, rest) ← readBytes count bytes
      return (spell front, rest) : Except Cause (α × Bytes)) = .ok (word, rest) ↔
      ∃ front, front.length = count ∧ spell front = word ∧ bytes = front ++ rest := by
  constructor
  · intro read
    obtain ⟨⟨front, after⟩, taken, read⟩ := Work.except_bind_ok read
    cases read
    obtain ⟨long, joined⟩ := readBytes_eq_ok.mp taken
    exact ⟨front, long, rfl, joined⟩
  · rintro ⟨front, long, rfl, joined⟩
    rw [readBytes_eq_ok.mpr ⟨long, joined⟩]
    rfl

theorem readInt32_eq_ok {word : Int32} : readInt32 bytes = .ok (word, rest) ↔
    ∃ front, front.length = 4 ∧ Bytes.toInt32 front = word ∧ bytes = front ++ rest :=
  readWord_eq_ok

theorem readInt64_eq_ok {word : Int64} : readInt64 bytes = .ok (word, rest) ↔
    ∃ front, front.length = 8 ∧ Bytes.toInt64 front = word ∧ bytes = front ++ rest :=
  readWord_eq_ok

theorem readUInt32_eq_ok {word : UInt32} : readUInt32 bytes = .ok (word, rest) ↔
    ∃ front, front.length = 4 ∧ Bytes.toUInt32 front = word ∧ bytes = front ++ rest :=
  readWord_eq_ok

/-- A text is read when its bytes stand before the first zero. -/
theorem readZeroTerminated_eq_ok {text : String} :
    readZeroTerminated bytes = .ok (text, rest) ↔
      '\x00' ∉ text.toList ∧ bytes = Bytes.ofString text ++ 0 :: rest := by
  unfold readZeroTerminated
  constructor
  · intro read
    split at read
    · cases read
    · rename_i front after cut
      split at read
      · cases read
      · -- The bytes before the zero are those of the text, which has no zero then.
        rename_i found spelled
        cases read
        obtain ⟨clean, joined⟩ := Bytes.splitAtZero?_eq_some.mp cut
        rw [← Bytes.ofString_of_toString? spelled] at clean joined
        exact ⟨Bytes.zero_not_mem_toList clean, joined⟩
  · rintro ⟨clean, rfl⟩
    rw [Bytes.splitAtZero?_append (Bytes.zero_not_mem clean)]
    simp only [Bytes.toString?_ofString]

end Words

/-- The bytes of a document are at least five, their first word is how many they are, and the last
of them is zero. -/
structure RawDocument.Measured (document : RawDocument) : Prop where
  long : 5 ≤ document.bytes.length
  counted : (Bytes.toInt32 (document.bytes.take 4)).toInt = document.bytes.length
  ended : document.bytes.getLast? = some 0

namespace RawDocument

variable {document : RawDocument}

/-- The first word of a measured document is its length, read with or without a sign. -/
theorem Measured.framed (sound : document.Measured) : document.Framed := by
  have four : (document.bytes.take 4).length = 4 := by
    have := sound.long
    rw [List.length_take]
    omega
  have number := Bytes.toNat_of_toInt32 four sound.counted
  simp [Framed, DocWire.framed, sound.long, number, sound.ended]

/-- A framed document is measured unless it is longer than a signed word can tell. -/
theorem Framed.measured (sound : document.Framed)
    (small : document.bytes.length ≤ largestWord) : document.Measured := by
  obtain ⟨long, number⟩ := sound.counts
  simp only [Framed, DocWire.framed, Bool.and_eq_true, beq_iff_eq] at sound
  refine ⟨long, ?_, sound.2⟩
  -- Below half of the words a sign makes no difference.
  have below : document.bytes.length < 2 ^ 31 := by
    simp only [largestWord] at small
    omega
  rw [Bytes.toInt32, number]
  exact Int32.toInt_ofNat_of_lt below

end RawDocument

section Documents

variable {bytes rest : Bytes}

/-- A document is read exactly where one stands at the front. -/
theorem readDocument_eq_ok {document : RawDocument} :
    readDocument bytes = .ok (document, rest) ↔
      document.Measured ∧ bytes = document.bytes ++ rest := by
  unfold readDocument
  constructor
  · intro read
    -- The length is refused, or it goes beyond the bytes, or a frame of that length is looked at.
    obtain ⟨⟨length, after⟩, word, read⟩ := Work.except_bind_ok read
    obtain ⟨front, four, rfl, joined⟩ := readInt32_eq_ok.mp word
    dsimp only at read
    split at read
    · cases read
    · rename_i large
      split at read
      · cases read
      · rename_i content others cut
        unfold RawDocument.ofBytes? at read
        split at read
        · cases read
        · rename_i found framed
          split at framed
          · rename_i sound
            cases framed
            cases read
            obtain ⟨size, joined'⟩ := Bytes.split?_some cut
            simp only [framed, Bool.and_eq_true, decide_eq_true_eq, beq_iff_eq] at sound
            -- The word that was looked at is the word that the document begins with.
            have start : content.take 4 = front := by
              have heads : (front ++ after).take 4 = (content ++ rest).take 4 := by
                rw [← joined, joined']
              rw [List.take_left' four, List.take_append_of_le_length (by omega)] at heads
              exact heads.symm
            refine ⟨⟨sound.1.1, ?_, sound.2⟩, joined'⟩
            show (Bytes.toInt32 (content.take 4)).toInt = content.length
            simp only [Int32.lt_iff_toInt_lt, Int.not_lt] at large
            have five : (5 : Int32).toInt = 5 := rfl
            rw [start]
            omega
          · cases framed
  · rintro ⟨sound, rfl⟩
    have long := sound.long
    -- The document begins with its own length, which none of the tests refuses.
    have word : readInt32 (document.bytes ++ rest)
        = .ok (Bytes.toInt32 (document.bytes.take 4), document.bytes.drop 4 ++ rest) := by
      refine readInt32_eq_ok.mpr ⟨document.bytes.take 4, ?_, rfl, ?_⟩
      · rw [List.length_take]
        omega
      · rw [← List.append_assoc, List.take_append_drop]
    have large : ¬ Bytes.toInt32 (document.bytes.take 4) < 5 := by
      have five : (5 : Int32).toInt = 5 := rfl
      rw [Int32.lt_iff_toInt_lt, sound.counted]
      omega
    have whole : RawDocument.ofBytes? document.bytes = some document := if_pos sound.framed
    rw [word]
    simp only [bind, Except.bind, large, if_false, sound.counted, Int.toNat_natCast,
      Bytes.split?_append, whole]

theorem readDocuments_nil : readDocuments [] = .ok [] := by
  rw [readDocuments]
  rfl

/-- The document at the front is read first. -/
theorem readDocuments_append {document : RawDocument} (sound : document.Measured) (rest : Bytes) :
    readDocuments (document.bytes ++ rest) = (readDocuments rest).map (document :: ·) := by
  have found := readDocument_eq_ok.mpr ⟨sound, Eq.refl (document.bytes ++ rest)⟩
  -- A document is never empty, so there is something to read.
  have filled : (document.bytes ++ rest).isEmpty = false := by
    have long := sound.long
    simp only [List.isEmpty_eq_false_iff]
    intro empty
    simp [(List.append_eq_nil_iff.mp empty).1] at long
  rw [readDocuments, filled]
  simp only [Bool.false_eq_true, if_false]
  split
  · rename_i cause wrong
    rw [found] at wrong
    cases wrong
  · rename_i first after read
    rw [found] at read
    cases read
    cases readDocuments rest <;> rfl

/-- Documents are read up to the end exactly where they fill all of the bytes. -/
theorem readDocuments_eq_ok {documents : List RawDocument} :
    readDocuments bytes = .ok documents ↔
      (∀ document ∈ documents, document.Measured) ∧ bytes = documents.flatMap (·.bytes) := by
  constructor
  · intro read
    -- The induction takes one document off the front at a time.
    fun_induction readDocuments bytes generalizing documents with
    | case1 bytes empty =>
      cases read
      exact ⟨by simp, List.isEmpty_iff.mp empty⟩
    | case2 => cases read
    | case3 => cases read
    | case4 bytes filled document rest found _ others inner ih =>
      cases read
      obtain ⟨sound, rfl⟩ := readDocument_eq_ok.mp found
      obtain ⟨clean, tail⟩ := ih inner
      refine ⟨List.forall_mem_cons.mpr ⟨sound, clean⟩, ?_⟩
      rw [List.flatMap_cons, ← tail]
  · rintro ⟨sound, rfl⟩
    induction documents with
    | nil => exact readDocuments_nil
    | cons document others ih =>
      obtain ⟨first, clean⟩ := List.forall_mem_cons.mp sound
      rw [List.flatMap_cons, readDocuments_append first, ih clean]
      rfl

variable {declared : Int32} {length : Nat}

theorem readRun_zero : readRun declared 0 bytes = .ok ([], bytes) := by
  rw [readRun, if_pos rfl]

/-- The document at the front is read first, when the run has room for it. -/
theorem readRun_append {document : RawDocument} (sound : document.Measured)
    (room : document.bytes.length ≤ length) (rest : Bytes) :
    readRun declared length (document.bytes ++ rest)
      = (readRun declared (length - document.bytes.length) rest).map
          fun (others, rest) => (document :: others, rest) := by
  have found := readDocument_eq_ok.mpr ⟨sound, Eq.refl (document.bytes ++ rest)⟩
  have long := sound.long
  -- A measured document is not empty, so the run that it fits in is not empty either.
  rw [readRun, if_neg (by omega)]
  split
  · rename_i cause wrong
    rw [found] at wrong
    cases wrong
  · rename_i first after read
    rw [found] at read
    cases read
    rw [if_neg (by omega)]
    cases readRun declared (length - document.bytes.length) rest <;> rfl

/-- A run of documents is read exactly where documents fill its length. -/
theorem readRun_eq_ok {documents : List RawDocument} :
    readRun declared length bytes = .ok (documents, rest) ↔
      (∀ document ∈ documents, document.Measured) ∧
        (documents.flatMap (·.bytes)).length = length ∧
        bytes = documents.flatMap (·.bytes) ++ rest := by
  constructor
  · intro read
    -- The induction takes one document off the run at a time.
    fun_induction readRun declared length bytes generalizing documents with
    | case1 bytes =>
      cases read
      simp
    | case2 => cases read
    | case3 => cases read
    | case4 => cases read
    | case5 length bytes _ document after found =>
      rename_i fits others last inner ih
      cases read
      obtain ⟨sound, rfl⟩ := readDocument_eq_ok.mp found
      obtain ⟨clean, filled, rfl⟩ := ih inner
      refine ⟨List.forall_mem_cons.mpr ⟨sound, clean⟩, ?_, ?_⟩
      · rw [List.flatMap_cons, List.length_append, filled]
        omega
      · rw [List.flatMap_cons, List.append_assoc]
  · rintro ⟨sound, rfl, rfl⟩
    induction documents with
    | nil => exact readRun_zero
    | cons document others ih =>
      obtain ⟨first, clean⟩ := List.forall_mem_cons.mp sound
      have joined : ((document :: others).flatMap (·.bytes)).length
          = document.bytes.length + (others.flatMap (·.bytes)).length := by
        rw [List.flatMap_cons, List.length_append]
      rw [joined, List.flatMap_cons, List.append_assoc, readRun_append first (by omega),
        Nat.add_sub_cancel_left, ih clean]
      rfl

end Documents

end DocWire
