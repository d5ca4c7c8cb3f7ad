import DocWire.Wire.Message

/-! Codes that can be cut off the front of a stream: whatever follows the code of a value, the value
and what follows are told from the bytes alone. -/

namespace DocWire

/-- The code of a valid value can be told from whatever comes after it, and the value from the
code. -/
def Cuts {α : Type} (valid : α → Prop) (code : α → Bytes) : Prop :=
  ∀ ⦃first second : α⦄, valid first → valid second → ∀ ⦃rest other : Bytes⦄,
    code first ++ rest = code second ++ other → first = second ∧ rest = other

namespace Cuts

variable {α : Type} {valid : α → Prop} {code : α → Bytes}

/-- A code that can be cut off the front can also be read when nothing follows it. -/
theorem inj (cuts : Cuts valid code) {first second : α} (sound : valid first)
    (clean : valid second) (same : code first = code second) : first = second := by
  have front : code first ++ [] = code second ++ [] := by rw [same]
  exact (cuts sound clean front).1

/-- Codes that follow one another up to the end are told apart one by one, if none of them is
empty. -/
theorem flatMap_inj (cuts : Cuts valid code) (solid : ∀ value, valid value → code value ≠ [])
    {first second : List α} (sound : ∀ value ∈ first, valid value)
    (clean : ∀ value ∈ second, valid value)
    (same : first.flatMap code = second.flatMap code) : first = second := by
  -- The induction takes one code off the front of both runs.
  induction first generalizing second with
  | nil =>
    cases second with
    | nil => rfl
    | cons value others =>
      -- A run that goes on is longer than one that has ended.
      have empty : code value = [] := (List.append_eq_nil_iff.mp same.symm).1
      exact absurd empty (solid value (clean value (by simp)))
  | cons value rest ih =>
    cases second with
    | nil =>
      have empty : code value = [] := (List.append_eq_nil_iff.mp same).1
      exact absurd empty (solid value (sound value (by simp)))
    | cons found others =>
      simp only [List.flatMap_cons] at same
      obtain ⟨rfl, back⟩ := cuts (sound value (by simp)) (clean found (by simp)) same
      have tails : rest = others := by
        apply ih _ _ back
        · intro value among
          exact sound value (by simp [among])
        · intro value among
          exact clean value (by simp [among])
      rw [tails]

/-- What is kept in another value is cut off with that value. -/
theorem comap {β : Type} (cuts : Cuts (fun _ => True) code) {part : β → α}
    (inj : ∀ first second, part first = part second → first = second) :
    Cuts (fun _ => True) fun value => code (part value) := by
  intro first second _ _ rest other same
  obtain ⟨equal, back⟩ := cuts trivial trivial same
  exact ⟨inj first second equal, back⟩

end Cuts

namespace Bytes

/-- A word of a given width is cut off by counting, and holds one number only. -/
theorem cuts_ofNat (width : Nat) : Cuts (· < Nat.pow 256 width) (ofNat width) := by
  intro first second small little rest other same
  have long : (ofNat width first).length = (ofNat width second).length := by
    rw [length_ofNat, length_ofNat]
  obtain ⟨front, back⟩ := List.append_inj same long
  -- The number is what the bytes are read as.
  have read := congrArg toNat front
  rw [toNat_ofNat width first small, toNat_ofNat width second little] at read
  exact ⟨read, back⟩

theorem cuts_ofUInt32 : Cuts (fun _ => True) ofUInt32 := by
  intro first second _ _ rest other same
  obtain ⟨equal, back⟩ := cuts_ofNat 4 first.toNat_lt second.toNat_lt same
  exact ⟨UInt32.toNat_inj.mp equal, back⟩

theorem cuts_ofInt32 : Cuts (fun _ => True) ofInt32 := by
  intro first second _ _ rest other same
  -- A signed word is the unsigned one with the same bits.
  obtain ⟨equal, back⟩ := cuts_ofUInt32 trivial trivial same
  have words : first = second := by
    rw [← Int32.toInt32_toUInt32 first, equal, Int32.toInt32_toUInt32]
  exact ⟨words, back⟩

theorem cuts_ofInt64 : Cuts (fun _ => True) ofInt64 := by
  intro first second _ _ rest other same
  obtain ⟨equal, back⟩ := cuts_ofNat 8 first.toUInt64.toNat_lt second.toUInt64.toNat_lt same
  have words : first = second := by
    rw [← Int64.toInt64_toUInt64 first, UInt64.toNat_inj.mp equal, Int64.toInt64_toUInt64]
  exact ⟨words, back⟩

/-- A text is told from its bytes. -/
theorem ofString_inj {first second : String} (same : ofString first = ofString second) :
    first = second := by
  have read := congrArg toString? same
  rw [toString?_ofString, toString?_ofString] at read
  exact Option.some.inj read

/-- Of all characters, only the zero has a zero among its bytes. -/
theorem eq_zero_of_mem {c : Char} (found : (0 : UInt8) ∈ String.utf8EncodeChar c) :
    c = '\x00' := by
  have marked (n : Nat) (high : 128 ≤ n) (small : n < 256) : (0 : UInt8) ≠ UInt8.ofNat n := by
    intro zero
    have same := congrArg UInt8.toNat zero
    simp only [UInt8.toNat_ofNat', UInt8.toNat_zero] at same
    omega
  unfold String.utf8EncodeChar at found
  dsimp only at found
  -- The split is on how many bytes the character takes.
  split at found
  · have same := congrArg UInt8.toNat (List.mem_singleton.mp found)
    simp only [UInt8.toNat_ofNat', UInt8.toNat_zero] at same
    apply Char.ext
    apply UInt32.toNat_inj.mp
    show c.val.toNat = 0
    omega
  · -- In a longer code every byte has its highest bit set.
    exfalso
    split at found
    · simp only [List.mem_cons, List.not_mem_nil, or_false] at found
      rcases found with zero | zero <;> exact marked _ (by omega) (by omega) zero
    · split at found
      · simp only [List.mem_cons, List.not_mem_nil, or_false] at found
        rcases found with zero | zero | zero <;> exact marked _ (by omega) (by omega) zero
      · simp only [List.mem_cons, List.not_mem_nil, or_false] at found
        rcases found with zero | zero | zero | zero <;> exact marked _ (by omega) (by omega) zero

/-- The bytes of a text are those of its characters, one after another. -/
theorem ofString_eq_flatMap (text : String) :
    ofString text = text.toList.flatMap String.utf8EncodeChar := by
  rw [ofString, String.toUTF8_eq_toByteArray, ← String.utf8Encode_toList]
  simp [List.utf8Encode]

/-- A text without a zero has none among its bytes. -/
theorem zero_not_mem {text : String} (clean : '\x00' ∉ text.toList) :
    (0 : UInt8) ∉ ofString text := by
  intro found
  rw [ofString_eq_flatMap] at found
  -- The zero would be a byte of one of the characters.
  obtain ⟨c, among, inside⟩ := List.mem_flatMap.mp found
  rw [eq_zero_of_mem inside] at among
  exact clean among

/-- The cut at the first zero finds what was put before it. -/
theorem splitAtZero?_append {front : Bytes} (clean : (0 : UInt8) ∉ front) (rest : Bytes) :
    splitAtZero? (front ++ 0 :: rest) = some (front, rest) := by
  induction front with
  | nil => simp [splitAtZero?]
  | cons byte front ih =>
    simp only [List.mem_cons, not_or] at clean
    simp [splitAtZero?, Ne.symm clean.1, ih clean.2]

/-- A text that ends in a zero is cut off at its first zero. -/
theorem cuts_terminated : Cuts (fun text : String => '\x00' ∉ text.toList)
    (fun text => ofString text ++ [0]) := by
  intro first second sound clean rest other same
  -- Both are cut at their first zero, which is the one behind the text.
  have cut : splitAtZero? (ofString first ++ 0 :: rest)
      = splitAtZero? (ofString second ++ 0 :: other) := by
    congr 1
    simpa using same
  rw [splitAtZero?_append (zero_not_mem sound), splitAtZero?_append (zero_not_mem clean)] at cut
  simp only [Option.some.injEq, Prod.mk.injEq] at cut
  exact ⟨ofString_inj cut.1, cut.2⟩

end Bytes

/-- The bytes of a document are framed as a document. -/
def RawDocument.Framed (document : RawDocument) : Prop := framed document.bytes = true

namespace RawDocument

variable {document : RawDocument}

/-- A document is as long as its first four bytes say, and that is five bytes at least. -/
theorem Framed.counts (sound : document.Framed) :
    5 ≤ document.bytes.length ∧ Bytes.toNat (document.bytes.take 4) = document.bytes.length := by
  simp only [Framed, framed, Bool.and_eq_true, decide_eq_true_eq, beq_iff_eq] at sound
  exact sound.1

theorem Framed.solid (sound : document.Framed) : document.bytes ≠ [] := by
  have long := sound.counts.1
  intro empty
  simp [empty] at long

/-- A document is cut off where its length says. -/
theorem cuts_bytes : Cuts Framed bytes := by
  intro first second sound clean rest other same
  obtain ⟨long, counted⟩ := sound.counts
  obtain ⟨tall, numbered⟩ := clean.counts
  -- Both begin with the same four bytes, which count the same number of bytes then.
  have head : first.bytes.take 4 = second.bytes.take 4 := by
    have front := congrArg (List.take 4) same
    rwa [List.take_append_of_le_length (by omega), List.take_append_of_le_length (by omega)]
      at front
  have alike : first.bytes.length = second.bytes.length := by
    rw [← counted, head, numbered]
  obtain ⟨front, back⟩ := List.append_inj same alike
  exact ⟨congrArg mk front, back⟩

/-- Documents that follow one another up to the end are told apart. -/
theorem flatMap_bytes_inj {first second : List RawDocument}
    (sound : ∀ document ∈ first, document.Framed) (clean : ∀ document ∈ second, document.Framed)
    (same : first.flatMap bytes = second.flatMap bytes) : first = second :=
  cuts_bytes.flatMap_inj (fun _ => Framed.solid) sound clean same

end RawDocument

end DocWire
