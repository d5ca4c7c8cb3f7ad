import Mathlib.Data.List.TakeWhile
import DocWire.Address
import DocWire.Namespace

/-! Names in texts: which texts are addresses and which are namespaces, told apart from the readers
that take them, and what is read again from what they are written as. -/

namespace DocWire

namespace Text

section Cuts

variable {mark : Char} {front back chars : List Char}

theorem passes (clear : mark ∉ chars) : ∀ c ∈ chars, decide (c ≠ mark) = true :=
  fun _ among => decide_eq_true fun same => clear (same ▸ among)

/-- What stands before the first mark is taken, and no more. -/
theorem takeWhile_cut (clear : mark ∉ front) :
    (front ++ mark :: back).takeWhile (· ≠ mark) = front := by
  rw [List.takeWhile_append_of_pos (passes clear)]
  simp

theorem dropWhile_cut (clear : mark ∉ front) :
    (front ++ mark :: back).dropWhile (· ≠ mark) = mark :: back := by
  rw [List.dropWhile_append_of_pos (passes clear)]
  simp

/-- A text without the mark is taken as a whole, and nothing is left. -/
theorem takeWhile_whole (clear : mark ∉ chars) : chars.takeWhile (· ≠ mark) = chars :=
  List.takeWhile_eq_self_iff.mpr (passes clear)

theorem dropWhile_whole (clear : mark ∉ chars) : chars.dropWhile (· ≠ mark) = [] :=
  List.dropWhile_eq_nil_iff.mpr (passes clear)

/-- A text is without the mark, or it is cut at the first one. -/
theorem whole_or_cut (mark : Char) (text : String) :
    mark ∉ text.toList ∨ ∃ front back : String,
      mark ∉ front.toList ∧ text = front ++ String.singleton mark ++ back := by
  by_cases among : mark ∈ text.toList
  · obtain ⟨front, back, joined, clear⟩ := List.eq_append_cons_of_mem among
    refine .inr ⟨String.ofList front, String.ofList back, by simpa using clear, ?_⟩
    rw [← String.toList_inj, joined]
    simp
  · exact .inl among

end Cuts

end Text

namespace Number

/-- Decimal digits spell a number, at least one of them, and in front of them perhaps a plus sign.
Zeros in front do not count. -/
inductive Spelled : List Char → Nat → Prop where
  | bare {digits : List Char} (any : digits ≠ [])
    (decimal : ∀ digit ∈ digits, digit.isDigit = true) :
    Spelled digits (Nat.ofDigitChars 10 digits 0)
  | plus {digits : List Char} (any : digits ≠ [])
    (decimal : ∀ digit ∈ digits, digit.isDigit = true) :
    Spelled ('+' :: digits) (Nat.ofDigitChars 10 digits 0)

section Reading

variable {chars : List Char} {number : Nat}

theorem digits?_eq_some : digits? chars = some number ↔
    chars ≠ [] ∧ (∀ digit ∈ chars, digit.isDigit = true) ∧
      Nat.ofDigitChars 10 chars 0 = number := by
  -- The reader folds the digits as the library does, but for the order of the product.
  have value : chars.foldl (fun n c => n * 10 + (c.toNat - 48)) 0
      = Nat.ofDigitChars 10 chars 0 := by
    simp only [Nat.ofDigitChars_eq_foldl, Nat.mul_comm]
    rfl
  rw [digits?, value]
  by_cases decimal : chars ≠ [] ∧ chars.all Char.isDigit = true
  · rw [if_pos decimal, Option.some.injEq]
    obtain ⟨any, all⟩ := decimal
    exact ⟨fun same => ⟨any, List.all_eq_true.mp all, same⟩, fun ⟨_, _, same⟩ => same⟩
  · rw [if_neg decimal]
    exact ⟨nofun, fun ⟨any, all, _⟩ => absurd ⟨any, List.all_eq_true.mpr all⟩ decimal⟩

/-- The reader of numbers without a minus takes what spells a number, and nothing else. -/
theorem unsigned?_eq_some : unsigned? chars = some number ↔ Spelled chars number := by
  constructor
  · intro read
    rw [unsigned?] at read
    split at read
    · rename_i sign
      obtain ⟨digits, rfl⟩ := List.head?_eq_some_iff.mp sign
      obtain ⟨any, decimal, rfl⟩ := digits?_eq_some.mp read
      exact .plus any decimal
    · obtain ⟨any, decimal, rfl⟩ := digits?_eq_some.mp read
      exact .bare any decimal
  · intro spelled
    cases spelled with
    | bare any decimal =>
      -- A plus sign is no digit, so there is none to leave out.
      have digit : chars.head? ≠ some '+' := fun sign =>
        absurd (decimal '+' (List.mem_of_mem_head? sign)) (by decide)
      rw [unsigned?, if_neg digit]
      exact digits?_eq_some.mpr ⟨any, decimal, rfl⟩
    | plus any decimal => exact digits?_eq_some.mpr ⟨any, decimal, rfl⟩

/-- What a number is written as spells it. -/
theorem spelled_toString (number : Nat) : Spelled (toString number).toList number := by
  have spelled : Spelled (Nat.toDigits 10 number)
      (Nat.ofDigitChars 10 (Nat.toDigits 10 number) 0) :=
    .bare Nat.toDigits_ne_nil fun _ among =>
      Nat.isDigit_of_mem_toDigits (by omega) (by omega) among
  rwa [Nat.ofDigitChars_ten_toDigits, ← String.toList_ofList (l := Nat.toDigits 10 number),
    ← Nat.toString_eq_ofList_toDigits] at spelled

end Reading

end Number

namespace Address

section Writing

variable {a b : Address}

theorem same_iff : a.same b = true ↔ a.identity = b.identity := beq_iff_eq

/-- What stands on both sides of the last colon is told by the whole. -/
theorem split_at_last_colon {xs ys ds es : List Char} (first : ':' ∉ ds) (second : ':' ∉ es)
    (joined : xs ++ ':' :: ds = ys ++ ':' :: es) : xs = ys ∧ ds = es := by
  rcases List.append_eq_append_iff.mp joined with ⟨more, rfl, rest⟩ | ⟨more, rfl, rest⟩
  all_goals
    -- Were one front longer, its colon would be among what follows the other.
    cases more with
    | nil => simp_all
    | cons c more => simp_all

/-- Two addresses read the same just when they lead to the same server, whatever colons there are in
the host. -/
theorem text_eq_iff : a.text = b.text ↔ a.identity = b.identity := by
  constructor
  · intro same
    have chars := congrArg String.toList same
    simp only [text, String.toList_append, List.append_assoc] at chars
    -- A number is written without colons, so the last colon of the text stands before the port.
    obtain ⟨host, digits⟩ := split_at_last_colon (Number.not_mem_toString rfl _)
      (Number.not_mem_toString rfl _) chars
    have number := congrArg (Nat.ofDigitChars 10 · 0) digits
    have port : a.effectivePort.toNat = b.effectivePort.toNat := by
      simpa [Nat.toString_eq_ofList_toDigits] using number
    exact Prod.ext (String.toList_inj.mp host) (UInt16.toNat_inj.mp port)
  · intro same
    obtain ⟨host, port⟩ := Prod.mk.inj same
    rw [text, text, host, port]

end Writing

/-- A text spells an address: a host that is not empty and has no colon, alone, or with a colon and
then nothing but a port, which is not zero. -/
inductive Spelled : String → Address → Prop where
  | alone {host : String} (named : host ≠ "") (whole : ':' ∉ host.toList) :
    Spelled host ⟨host, none⟩
  | withPort {host digits : String} {port : UInt16} (named : host ≠ "")
    (whole : ':' ∉ host.toList) (spelled : Number.Spelled digits.toList port.toNat)
    (least : 1 ≤ port.toNat) : Spelled (host ++ ":" ++ digits) ⟨host, some port⟩

variable {text : String} {address : Address}

/-- A port is a number that is spelled, from one up to the largest of sixteen bits. -/
theorem port?_eq_some {chars : List Char} {port : UInt16} :
    port? chars = some port ↔ Number.Spelled chars port.toNat ∧ 1 ≤ port.toNat := by
  simp only [port?, Option.bind_eq_bind, Option.bind_eq_some_iff, Number.unsigned?_eq_some]
  constructor
  · rintro ⟨number, spelled, found⟩
    split at found
    · rename_i bounds
      cases found
      -- A number within the bounds is not cut when it becomes a port.
      rw [UInt16.toNat_ofNat_of_lt' bounds.2]
      exact ⟨spelled, bounds.1⟩
    · cases found
  · rintro ⟨spelled, least⟩
    exact ⟨port.toNat, spelled, by rw [if_pos ⟨least, port.toNat_lt⟩, UInt16.ofNat_toNat]⟩

theorem parse?_whole (whole : ':' ∉ text.toList) :
    parse? text = if text = "" then none else some ⟨text, none⟩ := by
  simp only [parse?, Text.takeWhile_whole whole, Text.dropWhile_whole whole,
    String.toList_eq_nil_iff, String.ofList_toList]

theorem parse?_cut {host : String} (whole : ':' ∉ host.toList) (digits : String) :
    parse? (host ++ ":" ++ digits) = if host = "" then none
      else (port? digits.toList).map fun port => ⟨host, some port⟩ := by
  have joined : (host ++ ":" ++ digits).toList = host.toList ++ ':' :: digits.toList := by simp
  simp only [parse?, joined, Text.takeWhile_cut whole, Text.dropWhile_cut whole,
    String.toList_eq_nil_iff, String.ofList_toList]

/-- The reader takes what spells an address, and nothing else. -/
theorem parse?_eq_some : parse? text = some address ↔ Spelled text address := by
  constructor
  · intro read
    -- Without a colon all of the text is the host; with one, the first ends the host and what is
    -- behind has to be a port.
    rcases Text.whole_or_cut ':' text with whole | ⟨host, digits, whole, rfl⟩
    · rw [parse?_whole whole] at read
      split at read
      · cases read
      · rename_i named
        cases read
        exact .alone named whole
    · have read := (parse?_cut whole digits).symm.trans read
      split at read
      · cases read
      · rename_i named
        obtain ⟨port, found, rfl⟩ := Option.map_eq_some_iff.mp read
        obtain ⟨spelled, least⟩ := port?_eq_some.mp found
        exact .withPort named whole spelled least
  · intro spelled
    cases spelled with
    | alone named whole => rw [parse?_whole whole, if_neg named]
    | withPort named whole spelled least =>
      rw [parse?_cut whole, if_neg named, port?_eq_some.mpr ⟨spelled, least⟩]
      rfl

/-- What an address that was spelled is written as spells the same address, with its port. -/
theorem Spelled.again (spelled : Spelled text address) :
    Spelled address.text ⟨address.host, some address.effectivePort⟩ := by
  cases spelled with
  | alone named whole =>
    exact .withPort named whole (Number.spelled_toString _) (show 1 ≤ defaultPort.toNat by decide)
  | withPort named whole _ least =>
    exact .withPort named whole (Number.spelled_toString _) least

/-- Just the texts that spell an address are read, as the address that they spell. An address that
was read is read again from what it is written as: it leads to the same server, and is written the
same, although the port may have been left out before, or spelled in another way. -/
theorem parsed_iff_spelled (text : String) :
    (∀ address, parse? text = some address ↔ Spelled text address) ∧
      ∀ address, parse? text = some address →
        ∃ again, parse? address.text = some again ∧ again.same address = true ∧
          again.text = address.text := by
  refine ⟨fun address => parse?_eq_some, fun address read => ?_⟩
  have again := (parse?_eq_some.mp read).again
  exact ⟨_, parse?_eq_some.mpr again, same_iff.mpr rfl, rfl⟩

/-- A port may be spelled with a sign and with zeros in front, which are not written. -/
theorem parsed_iff_spelled_signed :
    let address : Address := ⟨"a", some 80⟩
    parse? "a:+00080" = some address ∧ address.text = "a:80" ∧
      ∃ again, parse? address.text = some again ∧ again.same address = true ∧
        again.text = address.text := by
  intro address
  have read : parse? "a:+00080" = some address := by decide +kernel
  exact ⟨read, by decide +kernel, (parsed_iff_spelled "a:+00080").2 address read⟩

end Address

namespace Namespace

/-- The database and the collection have names, and a dot in the full name is the end of the
database before it is anything else. -/
structure Proper (ns : Namespace) : Prop where
  database : ns.database ≠ ""
  undotted : '.' ∉ ns.database.toList
  collection : ns.collection ≠ ""

variable {text : String} {ns : Namespace}

theorem parse?_whole (whole : '.' ∉ text.toList) : parse? text = none := by
  simp only [parse?, Text.dropWhile_whole whole]

theorem parse?_cut {database : String} (whole : '.' ∉ database.toList) (collection : String) :
    parse? (database ++ "." ++ collection) = if database = "" ∨ collection = "" then none
      else some ⟨database, collection⟩ := by
  have joined : (database ++ "." ++ collection).toList
      = database.toList ++ '.' :: collection.toList := by simp
  simp only [parse?, joined, Text.takeWhile_cut whole, Text.dropWhile_cut whole,
    String.toList_eq_nil_iff, String.ofList_toList]

/-- The reader takes the full names of proper namespaces, and nothing else. -/
theorem parse?_eq_some : parse? text = some ns ↔ ns.Proper ∧ ns.text = text := by
  constructor
  · intro read
    -- There has to be a dot, and the first one ends the database.
    rcases Text.whole_or_cut '.' text with whole | ⟨database, collection, whole, rfl⟩
    · rw [parse?_whole whole] at read
      cases read
    · have read := (parse?_cut whole collection).symm.trans read
      split at read
      · cases read
      · rename_i named
        cases read
        rw [not_or] at named
        exact ⟨⟨named.1, whole, named.2⟩, rfl⟩
  · rintro ⟨proper, rfl⟩
    rw [Namespace.text, parse?_cut proper.undotted,
      if_neg (not_or.mpr ⟨proper.database, proper.collection⟩)]

end Namespace

end DocWire
