import DocWire.Proofs.Cursor.Inquiry

/-! Queries in either dialect: where a find command and a legacy query with the same options ask for
the same, and where they do not. -/

namespace DocWire

namespace QueryOptions

variable (options : QueryOptions)

/-- How many documents a legacy query asks to return, by the numbers of the words. -/
theorem toInt_toReturn :
    options.toReturn.toInt =
      if options.limit.toInt < 0 then options.limit.toInt
      else if options.limit.toInt = 0 then options.batchSize.toInt
      else if options.batchSize.toInt = 0 then options.limit.toInt
      else if options.batchSize.toInt < 0 then
        -min options.limit.toInt (min options.batchSize.toInt.natAbs (2 ^ 31 - 1) : Nat)
      else min options.limit.toInt options.batchSize.toInt := by
  have zero : (0 : Int32).toInt = 0 := rfl
  have limit := toInt_magnitude options.limit
  have batchSize := toInt_magnitude options.batchSize
  have less := toInt_lesser (magnitude options.limit) (magnitude options.batchSize)
  have high := options.limit.toInt_lt
  simp only [toReturn, Int32.lt_iff_toInt_lt, ← Int32.toInt_inj, zero]
  split
  · rfl
  · split
    · rfl
    · split
      · rfl
      · split
        · -- The lesser of two sizes is not the least word, so that its sign can be changed.
          rw [Int32.toInt_neg, Int.bmod, less]
          omega
        · exact toInt_lesser _ _

/-- A legacy query asks to close the cursor when either number is negative. -/
theorem toReturn_neg_iff :
    options.toReturn < 0 ↔ options.limit < 0 ∨ options.batchSize < 0 := by
  have zero : (0 : Int32).toInt = 0 := rfl
  simp only [Int32.lt_iff_toInt_lt, zero, toInt_toReturn]
  split <;> (try split) <;> (try split) <;> (try split) <;> omega

/-- Of two numbers the lesser counts, and one that is zero does not count. -/
theorem min?_filter_pair (one other : Nat) :
    ([one, other].filter (0 < ·)).min?
      = if one = 0 then if other = 0 then none else some other
        else if other = 0 then some one else some (min one other) := by
  by_cases first : one = 0 <;> by_cases second : other = 0 <;>
    simp [first, second, Nat.pos_iff_ne_zero, List.min?_cons]

theorem natAbs_magnitude (word : Int32) :
    (magnitude word).toInt.natAbs = min word.toInt.natAbs (2 ^ 31 - 1) := by
  have size := toInt_magnitude word
  omega

theorem natAbs_eq_zero {word : Int32} : min word.toInt.natAbs (2 ^ 31 - 1) = 0 ↔ word = 0 := by
  have zero : (0 : Int32).toInt = 0 := rfl
  rw [← Int32.toInt_inj, zero]
  omega

/-- How many documents a find command asks for at most. -/
theorem bound_asked (alone : Bool) (projection : Option RawDocument) :
    (options.asked alone projection).first.bound =
      if options.limit = 0 then
        if options.batchSize = 0 then none
        else some (min options.batchSize.toInt.natAbs (2 ^ 31 - 1))
      else if options.batchSize = 0 then some (min options.limit.toInt.natAbs (2 ^ 31 - 1))
      else some (min (min options.limit.toInt.natAbs (2 ^ 31 - 1))
        (min options.batchSize.toInt.natAbs (2 ^ 31 - 1))) := by
  simp only [asked, FirstBatch.ofSizes, min?_filter_pair, natAbs_magnitude, natAbs_eq_zero]

/-- How many documents a legacy query asks for at most. -/
theorem bound_queried (projection : Option RawDocument) :
    (options.queried projection).first.bound =
      if options.limit < 0 then some options.limit.toInt.natAbs
      else if options.limit = 0 then
        if options.batchSize = 0 then none else some options.batchSize.toInt.natAbs
      else if options.batchSize = 0 then some options.limit.toInt.natAbs
      else some (min options.limit.toInt.natAbs
        (min options.batchSize.toInt.natAbs (2 ^ 31 - 1))) := by
  have zero : (0 : Int32).toInt = 0 := rfl
  have high := options.batchSize.toInt_lt
  have toReturn := options.toInt_toReturn
  simp only [queried, FirstBatch.ofWord, Int32.lt_iff_toInt_lt, ← Int32.toInt_inj, zero]
  by_cases negative : options.limit.toInt < 0
  · rw [if_pos negative] at toReturn ⊢
    rw [if_neg (by omega), toReturn]
  · rw [if_neg negative] at toReturn ⊢
    by_cases none : options.limit.toInt = 0
    · rw [if_pos none] at toReturn ⊢
      rw [toReturn]
    · rw [if_neg none] at toReturn ⊢
      by_cases alone : options.batchSize.toInt = 0
      · rw [if_pos alone] at toReturn ⊢
        rw [if_neg (by omega), toReturn]
      · -- The number to return has the sign of the size of a batch.
        rw [if_neg alone] at toReturn ⊢
        rw [if_neg (by split at toReturn <;> omega), Option.some.injEq]
        split at toReturn <;> omega

/-- The two dialects ask for as many documents exactly where a negative limit is not beyond the size
of a batch, and no number has a size that a word cannot tell. -/
theorem bounds_agree_iff (alone : Bool) (projection other : Option RawDocument) :
    (options.asked alone projection).first.bound = (options.queried other).first.bound ↔
      (options.limit < 0 → options.limit ≠ Int32.minValue ∧ (options.batchSize = 0 ∨
        options.limit.toInt.natAbs ≤ options.batchSize.toInt.natAbs)) ∧
      (options.limit = 0 → options.batchSize ≠ Int32.minValue) := by
  have zero : (0 : Int32).toInt = 0 := rfl
  have lowLimit := options.limit.le_toInt
  have lowSize := options.batchSize.le_toInt
  have highLimit := options.limit.toInt_lt
  have highSize := options.batchSize.toInt_lt
  rw [bound_asked, bound_queried]
  simp only [← Int32.toInt_inj, Int32.lt_iff_toInt_lt, ne_eq, Int32.toInt_minValue, zero]
  -- Nothing but the two numbers counts, in whole numbers: whether each is zero and which sign they
  -- have.
  generalize options.limit.toInt = limit at *
  generalize options.batchSize.toInt = size at *
  by_cases none : limit = 0
  · by_cases alone : size = 0 <;> simp [none, alone]
    omega
  · by_cases alone : size = 0 <;> by_cases negative : limit < 0 <;> simp [none, alone, negative] <;>
      omega

end QueryOptions

namespace Query

variable {α : Type} {query : Query} {decoder : Decoder α} {line newer older : Line}
  {bytes command posted : Bytes}

/-- A query sends one message, or it fails and sends none. -/
theorem sends_run (query : Query) (decoder : Decoder α) (line : Line) :
    (line.Sends (query.run decoder line).2 [] ∧ ∃ halt, (query.run decoder line).1 = .error halt) ∨
      ∃ bytes, line.Sends (query.run decoder line).2 [bytes] := by
  rcases query.asked_run decoder line with ⟨same, failed⟩ | ⟨_, _, bytes, -, -, posted⟩
  · exact .inl ⟨line.sends_nil same, failed⟩
  · exact .inr ⟨bytes, posted⟩

/-- A run that has sent one message over a line has sent the message of the query. -/
theorem exists_sends (query : Query) (decoder : Decoder α) (line : Line)
    (sent : line.network.sent = []) (one : (query.run decoder line).2.network.sent.length = 1) :
    ∃ bytes, line.Sends (query.run decoder line).2 [bytes] := by
  rcases query.sends_run decoder line with ⟨none, -⟩ | sends
  · rw [show (query.run decoder line).2.network.sent = _ from none, sent] at one
    cases one
  · exact sends

/-- What was sent is the request of the query. -/
theorem request_of_sends (sent : line.Sends (query.run decoder line).2 [bytes]) :
    ∃ request id, query.request line.connection.description = .ok request ∧
      request.encode id = .ok bytes := by
  rcases query.asked_run decoder line with ⟨same, -⟩ | ⟨request, id, other, framed, encoded, posted⟩
  · have more := congrArg List.length (same.symm.trans sent)
    simp at more
  · have alike := List.append_cancel_left (sent.symm.trans posted)
    simp only [List.map_cons, List.map_nil, List.cons.injEq, Prod.mk.injEq, true_and,
      and_true] at alike
    exact ⟨request, id, framed, alike ▸ encoded⟩

/-- What was sent to a server of the find command asks for what the options ask for. -/
theorem ofFind?_run (finds : line.connection.description.hasFindCommand = true)
    (sent : line.Sends (query.run decoder line).2 [bytes]) :
    ∃ projection, query.options.projection.mapM (·.encode) = Except.ok projection ∧
      Inquiry.ofFind? bytes = some (query.options.asked
        (line.connection.description.hasMessages &&
          line.connection.description.type = .standalone) projection) := by
  obtain ⟨request, id, framed, encoded⟩ := request_of_sends sent
  rw [Query.request, if_pos finds] at framed
  cases messages : line.connection.description.hasMessages with
  | true => exact ofFind?_message messages framed encoded
  | false => exact ofFind?_query messages framed encoded

/-- What was sent to an older server asks for what the options ask for. -/
theorem ofLegacy?_run (legacy : line.connection.description.hasFindCommand = false)
    (sent : line.Sends (query.run decoder line).2 [bytes]) :
    ∃ projection, query.options.projection.mapM (·.encode) = Except.ok projection ∧
      Inquiry.ofLegacy? bytes = some (query.options.queried projection) := by
  obtain ⟨request, id, framed, encoded⟩ := request_of_sends sent
  rw [Query.request, legacy] at framed
  exact ofLegacy?_legacyRequest framed encoded

/-- The first batch that a find command asks for is closed after a negative limit, and the one that
a legacy query asks for after either negative number; so they agree unless the size of a batch alone
is negative. They are bounded alike unless a negative limit is beyond the size of a batch, or a
number has a size that no word can tell. -/
theorem firstBatches_agree_iff (query : Query) (decoder : Decoder α)
    (finds : newer.connection.description.hasFindCommand = true)
    (legacy : older.connection.description.hasFindCommand = false)
    (asked : newer.Sends (query.run decoder newer).2 [command])
    (queried : older.Sends (query.run decoder older).2 [posted]) :
    ∃ find old, Inquiry.ofFind? command = some find ∧ Inquiry.ofLegacy? posted = some old ∧
      find.first.closes = decide (query.options.limit < 0) ∧
      old.first.closes = decide (query.options.limit < 0 ∨ query.options.batchSize < 0) ∧
      (find.first.closes = old.first.closes ↔
        (query.options.batchSize < 0 → query.options.limit < 0)) ∧
      (find.first.bound = old.first.bound ↔
        (query.options.limit < 0 → query.options.limit ≠ Int32.minValue ∧
          (query.options.batchSize = 0 ∨
            query.options.limit.toInt.natAbs ≤ query.options.batchSize.toInt.natAbs)) ∧
        (query.options.limit = 0 → query.options.batchSize ≠ Int32.minValue)) := by
  obtain ⟨projection, -, find⟩ := ofFind?_run finds asked
  obtain ⟨other, -, old⟩ := ofLegacy?_run legacy queried
  have closes : (query.options.queried other).first.closes
      = decide (query.options.limit < 0 ∨ query.options.batchSize < 0) :=
    decide_eq_decide.mpr query.options.toReturn_neg_iff
  refine ⟨_, _, find, old, rfl, closes, ?_, query.options.bounds_agree_iff _ _ _⟩
  -- The one closes after a negative limit, the other after either, so they differ by the size
  -- alone.
  rw [closes]
  show decide (query.options.limit < 0) = _ ↔ _
  rw [decide_eq_decide]
  exact ⟨fun same negative => same.mpr (.inr negative),
    fun only => ⟨.inl, fun either => either.elim id only⟩⟩

/-- A batch of a negative size is asked for: the legacy query asks to close the cursor after it, and
the find command does not. -/
theorem firstBatches_agree_iff_negative :
    let lineOf (wireVersion : Int32) : Line :=
      { connection := .fresh ⟨default, 1⟩ { address := default, wireVersion } {}, network := {} }
    let query : Query := { target := ⟨"db", "c"⟩, filter := [], options := { batchSize := -3 } }
    (lineOf 4).connection.description.hasFindCommand = true ∧
    (lineOf 3).connection.description.hasFindCommand = false ∧
    ∃ command posted find old,
      (lineOf 4).Sends (query.run Decoder.document (lineOf 4)).2 [command] ∧
      (lineOf 3).Sends (query.run Decoder.document (lineOf 3)).2 [posted] ∧
      Inquiry.ofFind? command = some find ∧ Inquiry.ofLegacy? posted = some old ∧
      find.first.closes = false ∧ old.first.closes = true := by
  intro lineOf query
  obtain ⟨command, asked⟩ := exists_sends query Decoder.document (lineOf 4) rfl (by decide +kernel)
  obtain ⟨posted, queried⟩ := exists_sends query Decoder.document (lineOf 3) rfl (by decide +kernel)
  obtain ⟨find, old, read, again, closes, other, -⟩ :=
    firstBatches_agree_iff query Decoder.document rfl rfl asked queried
  exact ⟨rfl, rfl, command, posted, find, old, asked, queried, read, again, closes, other⟩

/-- Whatever the options are, both dialects ask for the same fields and set the same flags, and both
skip what is to be skipped. That a secondary may answer is told in the one dialect when it is
preferred, and in the other also when it is merely allowed. -/
theorem inquiries_agree_iff (query : Query) (decoder : Decoder α)
    (finds : newer.connection.description.hasFindCommand = true)
    (legacy : older.connection.description.hasFindCommand = false)
    (several : newer.connection.description.type ≠ .standalone)
    (asked : newer.Sends (query.run decoder newer).2 [command])
    (queried : older.Sends (query.run decoder older).2 [posted]) :
    ∃ find old, Inquiry.ofFind? command = some find ∧ Inquiry.ofLegacy? posted = some old ∧
      query.options.projection.mapM (·.encode) = Except.ok find.projection ∧
      find = { old with skip := find.skip, first := find.first, secondary := find.secondary } ∧
      (old.tailable = query.options.tailable ∧ old.awaitData = query.options.awaitData ∧
        old.noCursorTimeout = query.options.noCursorTimeout ∧
        old.partialResults = query.options.partialResults ∧
        old.oplogReplay = query.options.oplogReplay) ∧
      (0 < query.options.skip →
        find.skip = query.options.skip ∧ old.skip = query.options.skip) ∧
      find.secondary = query.options.prefersOthers ∧
      old.secondary = (query.options.secondaryOk || query.options.prefersOthers) ∧
      (find.secondary = old.secondary ↔
        (query.options.secondaryOk → query.options.prefersOthers)) := by
  obtain ⟨projection, chosen, find⟩ := ofFind?_run finds asked
  obtain ⟨other, again, old⟩ := ofLegacy?_run legacy queried
  obtain rfl : projection = other := Except.ok.inj (chosen.symm.trans again)
  have others (alone : Bool) (several : alone = false) :
      (query.options.asked alone projection).secondary = query.options.prefersOthers := by
    rw [several]
    rfl
  -- A standalone server is told no preference, but this one is of another type.
  have secondary := others _ (by simp [several] : (newer.connection.description.hasMessages &&
    decide (newer.connection.description.type = .standalone)) = false)
  have either : (query.options.queried projection).secondary
      = (query.options.secondaryOk || query.options.prefersOthers) :=
    query.options.allowsSecondary_eq
  refine ⟨_, _, find, old, chosen, rfl, ⟨rfl, rfl, rfl, rfl, rfl⟩,
    fun positive => ⟨if_pos positive, rfl⟩, secondary, either, ?_⟩
  rw [secondary, either]
  cases query.options.secondaryOk <;> cases query.options.prefersOthers <;> simp

/-- A secondary may answer, although none is preferred: the legacy query says so, and the find
command does not. -/
theorem inquiries_agree_iff_allowed :
    let lineOf (wireVersion : Int32) : Line :=
      { connection := .fresh ⟨default, 1⟩
          { address := default, wireVersion, type := .rsSecondary } {}
        network := {} }
    let query : Query := { target := ⟨"db", "c"⟩, filter := [], options := { secondaryOk := true } }
    (lineOf 4).connection.description.hasFindCommand = true ∧
    (lineOf 3).connection.description.hasFindCommand = false ∧
    (lineOf 4).connection.description.type ≠ .standalone ∧
    ∃ command posted find old,
      (lineOf 4).Sends (query.run Decoder.document (lineOf 4)).2 [command] ∧
      (lineOf 3).Sends (query.run Decoder.document (lineOf 3)).2 [posted] ∧
      Inquiry.ofFind? command = some find ∧ Inquiry.ofLegacy? posted = some old ∧
      find.secondary = false ∧ old.secondary = true := by
  intro lineOf query
  obtain ⟨command, asked⟩ := exists_sends query Decoder.document (lineOf 4) rfl (by decide +kernel)
  obtain ⟨posted, queried⟩ := exists_sends query Decoder.document (lineOf 3) rfl (by decide +kernel)
  obtain ⟨find, old, read, again, -, -, -, -, preferred, either, -⟩ :=
    inquiries_agree_iff query Decoder.document rfl rfl (by decide) asked queried
  exact ⟨rfl, rfl, by decide, command, posted, find, old, asked, queried, read, again, preferred,
    either⟩

end Query

end DocWire
