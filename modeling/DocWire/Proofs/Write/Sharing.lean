import DocWire.Proofs.Write.Mandate

/-! Legacy writes of several writers over clones of one connection. An acknowledged write takes two
exchanges, the write and the question for its outcome, and nothing holds the connection between
them: a server answers the question about the last write that it got, whosever that was. -/

namespace DocWire

namespace Write

/-- The first exchange of a legacy write: the write is judged and goes out. -/
def post (write : Write) : Exchange Unit := do
  let line ← get
  Exchange.check (write.judge line.connection.description)
  write.sendLegacy

/-- A legacy write whose outcome is wanted is its two exchanges, one after the other. -/
theorem run_eq_exchanges {write : Write} {line : Line}
    (acknowledged : write.concern.isAcknowledged = true)
    (legacy : line.connection.description.hasWriteCommands = false) :
    write.run line = (do write.post; write.confirmLegacy) line := by
  rw [run_apply]
  simp only [post, Work.bind_apply, Work.get_apply]
  cases write.judge line.connection.description with
  | error cause => rfl
  | ok _ =>
    simp only [legacy, Bool.false_eq_true, if_false, runLegacy, Work.bind_apply, acknowledged,
      if_true, Exchange.check_ok]

theorem lasting_post (write : Write) : Work.Keeps Line.lasting write.post :=
  .bind .get fun _ => .bind (Exchange.keeps_check _) fun _ => write.lasting_sendLegacy

theorem lasting_confirmLegacy (write : Write) : Work.Keeps Line.lasting write.confirmLegacy := by
  refine .bind .get fun _ => .bind (Exchange.keeps_check _) fun request =>
    .bind (lasting_send request _) fun response => ?_
  cases response with
  | none => exact .throw _
  | some response =>
    exact .bind (Exchange.keeps_replyDocument (fun _ _ => rfl) _ _) fun _ =>
      .bind (Exchange.keeps_check _) fun _ => .pure _

/-- What goes out when a write is posted is its legacy request, or nothing and it has failed. -/
theorem asked_post (write : Write) (line : Line) :
    Asked write.legacyRequest line (write.post line) := by
  simp only [post, Work.bind_apply, Work.get_apply]
  cases write.judge line.connection.description with
  | error cause => exact .inl ⟨rfl, _, rfl⟩
  | ok _ => exact write.asked_sendLegacy line

end Write

/-- How far a writer has come: its write is to go out, or it has gone out and its outcome is to be
asked for, or it has come to an end. -/
inductive Writer.Stage where
  | posting
  | asking
  | ended (result : Except Halt WriteResult)

/-- Somebody who wants a write done and wants to hear of it. -/
structure Writer where
  write : Write
  stage : Writer.Stage := .posting

namespace Writer

/-- Whether the next exchange of the writer is its question. -/
def asks (writer : Writer) : Bool :=
  match writer.stage with
  | .asking => true
  | _ => false

/-- What the writer has been told, if its write has ended with a result. -/
def told? (writer : Writer) : Option WriteResult :=
  match writer.stage with
  | .ended result => result.toOption
  | _ => none

/-- One exchange of a writer, if it has not come to an end. -/
def turn (writer : Writer) (line : Line) : Writer × Line :=
  match writer.stage with
  | .posting =>
    match writer.write.post line with
    | (.ok _, line) => ({ writer with stage := .asking }, line)
    | (.error halt, line) => ({ writer with stage := .ended (.error halt) }, line)
  | .asking =>
    let (result, line) := writer.write.confirmLegacy line
    ({ writer with stage := .ended result }, line)
  | .ended _ => (writer, line)

end Writer

/-- What a writer has sent: its write, or the question for its outcome. -/
structure Utterance where
  place : Nat
  asks : Bool
  message : Nat × Bytes
deriving DecidableEq, Repr

/-- Writers over one connection, and what they have sent until now. -/
structure Sharing where
  writers : List Writer
  line : Line
  said : List Utterance := []

namespace Sharing

/-- Writers that have not begun. -/
def start (writes : List Write) (line : Line) : Sharing :=
  { writers := writes.map (⟨·, .posting⟩), line }

/-- The writer at a place takes its turn. -/
def step (state : Sharing) (place : Nat) : Sharing :=
  match state.writers[place]? with
  | none => state
  | some writer =>
    let (next, line) := writer.turn state.line
    -- Whatever has been sent in the turn is the writer's own.
    let fresh := line.network.sent.drop state.line.network.sent.length
    { writers := state.writers.set place next
      line
      said := state.said ++ fresh.map (⟨place, writer.asks, ·⟩) }

/-- The writers take turns in this order, each turn an exchange. -/
def run (schedule : List Nat) (state : Sharing) : Sharing := schedule.foldl step state

end Sharing

section Turns

variable {writer : Writer} {line : Line}

/-- The message of a write, or of the question for its outcome, over a connection. -/
def Utterance.Spells (utterance : Utterance) (write : Write) (line : Line) : Prop :=
  utterance.message.1 = line.connection.id.number ∧
    ∃ request id, request.encode id = .ok utterance.message.2 ∧
      (if utterance.asks then write.lastErrorCommand.request line.connection.description
        else write.legacyRequest) = .ok request

/-- Over which line a message was sent does not matter where no exchange changes it. -/
theorem Utterance.Spells.of_lasting {utterance : Utterance} {write : Write} {other : Line}
    (spells : utterance.Spells write other) (same : other.lasting = line.lasting) :
    utterance.Spells write line := by
  have number : other.connection.id = line.connection.id := congrArg Line.Lasting.id same
  have description : other.connection.description = line.connection.description :=
    congrArg Line.Lasting.description same
  unfold Utterance.Spells at spells ⊢
  rwa [number, description] at spells

/-- What can happen in the turn of a writer. Nothing is sent, and the writer is at its end; or its
write is sent, and the question is next unless the exchange has failed; or its question is sent, and
that is its end. -/
theorem Writer.turn_cases (writer : Writer) (line : Line) (place : Nat) :
    (writer.turn line).1.write = writer.write ∧
    (writer.turn line).2.lasting = line.lasting ∧
    ((writer.turn line).2.network.sent = line.network.sent ∧
        (∃ result, (writer.turn line).1.stage = .ended result) ∨
      ∃ message, (writer.turn line).2.network.sent = line.network.sent ++ [message] ∧
        Utterance.Spells ⟨place, writer.asks, message⟩ writer.write line ∧
        (writer.stage = .posting ∧ ((writer.turn line).1.stage = .asking ∨
            ∃ result, (writer.turn line).1.stage = .ended result) ∨
          writer.stage = .asking ∧ ∃ result, (writer.turn line).1.stage = .ended result)) := by
  obtain ⟨write, stage⟩ := writer
  cases stage with
  | posting =>
    -- The turn sends the write, and has the writer ask next or end with what went wrong.
    have kept := write.lasting_post line
    have first := write.asked_post line
    simp only [turn]
    rcases posted : write.post line with ⟨halt | _, after⟩ <;> rw [posted] at kept first
    · refine ⟨rfl, kept, ?_⟩
      rcases first with ⟨same, -⟩ | ⟨request, id, bytes, framed, encoded, sent⟩
      · exact .inl ⟨same, _, rfl⟩
      · exact .inr ⟨_, sent, ⟨rfl, request, id, encoded, framed⟩, .inl ⟨trivial, .inr ⟨_, rfl⟩⟩⟩
    · refine ⟨rfl, kept, ?_⟩
      rcases first with ⟨-, halt, failed⟩ | ⟨request, id, bytes, framed, encoded, sent⟩
      · cases failed
      · exact .inr ⟨_, sent, ⟨rfl, request, id, encoded, framed⟩, .inl ⟨trivial, .inl rfl⟩⟩
  | asking =>
    refine ⟨rfl, write.lasting_confirmLegacy line, ?_⟩
    rcases write.asked_confirmLegacy line with
      ⟨same, -⟩ | ⟨request, id, bytes, framed, encoded, sent⟩
    · exact .inl ⟨same, _, rfl⟩
    · exact .inr ⟨_, sent, ⟨rfl, request, id, encoded, framed⟩, .inr ⟨rfl, _, rfl⟩⟩
  | ended result => exact ⟨rfl, rfl, .inl ⟨rfl, result, rfl⟩⟩

end Turns

namespace Sharing

section Orders

/-- Whatever follows a write at once is the question for its outcome. -/
def Paired (said : List Utterance) : Prop :=
  ∀ (i : Nat) (post next : Utterance), said[i]? = some post → said[i + 1]? = some next →
    post.asks = false → next.place = post.place ∧ next.asks = true

/-- Every question is about the writer's own write: of the writes that went out before it, that is
the last. -/
def Own (said : List Utterance) : Prop :=
  ∀ (i : Nat) (question : Utterance), said[i]? = some question → question.asks = true →
    ∃ (j : Nat) (post : Utterance), j < i ∧ said[j]? = some post ∧ post.asks = false ∧
      post.place = question.place ∧
      ∀ (k : Nat) (between : Utterance), j < k → k < i → said[k]? = some between →
        between.asks = true

/-- Every write that anything follows is asked about. -/
def Answered (said : List Utterance) : Prop :=
  ∀ (i : Nat) (post next : Utterance), said[i]? = some post → said[i + 1]? = some next →
    post.asks = false → ∃ question ∈ said, question.place = post.place ∧ question.asks = true

/-- Each writer sends a write and then a question, and nothing after that. -/
structure Orderly (said : List Utterance) : Prop where
  apart : ∀ (i j : Nat) (first second : Utterance), i < j → said[i]? = some first →
    said[j]? = some second → first.place = second.place → first.asks = false ∧ second.asks = true
  begun : ∀ (i : Nat) (question : Utterance), said[i]? = some question → question.asks = true →
    ∃ (j : Nat) (post : Utterance), j < i ∧ said[j]? = some post ∧ post.place = question.place

variable {said : List Utterance} {utterance : Utterance}

/-- What has been said is found where it was, and the last of it at the end. -/
theorem getElem?_said {i : Nat} {found : Utterance} :
    (said ++ [utterance])[i]? = some found ↔
      said[i]? = some found ∨ (i = said.length ∧ found = utterance) := by
  rcases Nat.lt_trichotomy i said.length with before | rfl | behind
  · simp [List.getElem?_append_left before, Nat.ne_of_lt before]
  · simp [eq_comm]
  · rw [List.getElem?_eq_none (by simp; omega), List.getElem?_eq_none (by omega)]
    simp
    omega

/-- A write may be the first that a writer sends, and a question may follow nothing of the writer's
but its write. -/
theorem Orderly.snoc (orderly : Orderly said)
    (first : utterance.asks = false → ∀ other ∈ said, other.place ≠ utterance.place)
    (second : utterance.asks = true → (∃ post ∈ said, post.place = utterance.place) ∧
      ∀ other ∈ said, other.place = utterance.place → other.asks = false) :
    Orderly (said ++ [utterance]) where
  apart := by
    intro i j one other before found later same
    rw [getElem?_said] at found later
    rcases later with later | ⟨rfl, rfl⟩
    · have inside := (List.getElem?_eq_some_iff.mp later).1
      rcases found with found | ⟨rfl, rfl⟩
      · exact orderly.apart i j one other before found later same
      · omega
    · rcases found with found | ⟨rfl, -⟩
      · -- The last of what was said is a question, as the writer had said something before.
        have among := List.mem_of_getElem? found
        cases asks : other.asks with
        | false => exact absurd same (first asks one among)
        | true => exact ⟨(second asks).2 one among same, rfl⟩
      · omega
  begun := by
    intro i question found asks
    rw [getElem?_said] at found
    rcases found with found | ⟨rfl, rfl⟩
    · obtain ⟨j, post, before, there, same⟩ := orderly.begun i question found asks
      exact ⟨j, post, before, getElem?_said.mpr (.inl there), same⟩
    · obtain ⟨post, among, same⟩ := (second asks).1
      obtain ⟨j, inside, there⟩ := List.getElem_of_mem among
      exact ⟨j, post, inside,
        getElem?_said.mpr (.inl (List.getElem?_eq_some_iff.mpr ⟨inside, there⟩)), same⟩

/-- Another write leaves every question what it was about, and so does a question that is about its
own writer's write. -/
theorem Own.snoc (own : Own said)
    (last : utterance.asks = true → ∃ post, said.getLast? = some post ∧ post.asks = false ∧
      post.place = utterance.place) : Own (said ++ [utterance]) := by
  intro i question found asks
  rw [getElem?_said] at found
  rcases found with found | ⟨rfl, rfl⟩
  · -- A question that was there before has all that is between it and its write before the new one.
    have inside := (List.getElem?_eq_some_iff.mp found).1
    obtain ⟨j, post, before, there, posts, same, quiet⟩ := own i question found asks
    refine ⟨j, post, before, getElem?_said.mpr (.inl there), posts, same,
      fun k between after under spoken => ?_⟩
    rcases getElem?_said.mp spoken with spoken | ⟨rfl, -⟩
    · exact quiet k between after under spoken
    · omega
  · -- A new question has its write right in front of it, and nothing between.
    obtain ⟨post, there, posts, same⟩ := last asks
    rw [List.getLast?_eq_getElem?] at there
    have inside := (List.getElem?_eq_some_iff.mp there).1
    refine ⟨said.length - 1, post, by omega, getElem?_said.mpr (.inl there), posts, same,
      fun k between after under _ => ?_⟩
    omega

/-- A writer sends one write only. -/
theorem Orderly.write_unique (orderly : Orderly said) {i j : Nat} {first second : Utterance}
    (found : said[i]? = some first) (other : said[j]? = some second)
    (posts : first.asks = false) (again : second.asks = false)
    (same : first.place = second.place) : i = j := by
  -- Of two things that one writer says, the later one is a question.
  rcases Nat.lt_trichotomy i j with before | here | after
  · have asks := (orderly.apart i j first second before found other same).2
    rw [again] at asks
    cases asks
  · exact here
  · have asks := (orderly.apart j i second first after other found same.symm).2
    rw [posts] at asks
    cases asks

/-- Where the question follows its write at once, there is no other write between the two. -/
theorem Orderly.own_of_paired (orderly : Orderly said) (paired : Paired said) : Own said := by
  intro i question found asks
  obtain ⟨j, post, before, there, same⟩ := orderly.begun i question found asks
  have posts := (orderly.apart j i post question before there found same).1
  -- Between the two there is nothing at all, as it would be a second question.
  have next : j + 1 = i := by
    rcases Nat.lt_or_ge (j + 1) i with between | done
    · have inside := (List.getElem?_eq_some_iff.mp found).1
      have room : j + 1 < said.length := by omega
      have other := List.getElem?_eq_getElem room
      obtain ⟨mine, questions⟩ := paired j post _ there other posts
      have only := (orderly.apart (j + 1) i _ question between other found (mine.trans same)).1
      rw [only] at questions
      cases questions
    · omega
  exact ⟨j, post, before, there, posts, same, fun k _ after under _ => by omega⟩

/-- Where no question is about another's write, what follows a write cannot be anything but its
question. -/
theorem Orderly.paired_of_own (orderly : Orderly said) (own : Own said) (answered : Answered said) :
    Paired said := by
  intro i post next there behind posts
  cases asks : next.asks with
  | true =>
    -- The last write before the next message is the one that it follows.
    obtain ⟨j, mine, before, found, -, same, quiet⟩ := own (i + 1) next behind asks
    rcases Nat.lt_or_ge j i with earlier | here
    · have questions := quiet i post earlier (Nat.lt_succ_self i) there
      rw [posts] at questions
      cases questions
    · obtain rfl : j = i := by omega
      rw [there] at found
      cases found
      exact ⟨same.symm, rfl⟩
  | false =>
    -- The question for the first write would be about the second, or about one later still.
    exfalso
    obtain ⟨question, among, about, questions⟩ := answered i post next there behind posts
    obtain ⟨m, asked⟩ := List.mem_iff_getElem?.mp among
    obtain ⟨j, mine, before, found, single, same, quiet⟩ := own m question asked questions
    obtain rfl := orderly.write_unique found there single posts (same.trans about)
    rcases Nat.lt_or_ge (j + 1) m with between | done
    · have questions := quiet (j + 1) next (Nat.lt_succ_self j) between behind
      rw [asks] at questions
      cases questions
    · obtain rfl : m = j + 1 := by omega
      rw [behind] at asked
      cases asked
      rw [asks] at questions
      cases questions

/-- What follows every write at once is its own question exactly when every question is about its
own write and every write that anything follows is asked about. -/
theorem Orderly.paired_iff (orderly : Orderly said) : Paired said ↔ Own said ∧ Answered said := by
  refine ⟨fun paired => ⟨orderly.own_of_paired paired, fun i post next there behind posts => ?_⟩,
    fun both => orderly.paired_of_own both.1 both.2⟩
  exact ⟨next, List.mem_of_getElem? behind, paired i post next there behind posts⟩

end Orders

section Steps

variable {writes : List Write} {line : Line} {state : Sharing} {place : Nat} {writer : Writer}

/-- Where there is no writer, there is no turn. -/
theorem step_absent (absent : state.writers[place]? = none) : state.step place = state := by
  simp only [step, absent]

/-- A turn in which nothing is sent adds nothing to what was said. -/
theorem step_quiet (found : state.writers[place]? = some writer)
    (quiet : (writer.turn state.line).2.network.sent = state.line.network.sent) :
    state.step place = ⟨state.writers.set place (writer.turn state.line).1,
      (writer.turn state.line).2, state.said⟩ := by
  simp only [step, found, quiet, List.drop_length, List.map_nil, List.append_nil]

/-- A turn in which a message is sent adds this message. -/
theorem step_sent (found : state.writers[place]? = some writer) {message : Nat × Bytes}
    (sent : (writer.turn state.line).2.network.sent = state.line.network.sent ++ [message]) :
    state.step place = ⟨state.writers.set place (writer.turn state.line).1,
      (writer.turn state.line).2, state.said ++ [⟨place, writer.asks, message⟩]⟩ := by
  simp only [step, found, sent, List.drop_left, List.map_cons, List.map_nil]

/-- What the stage of a writer tells of what it has said: nothing before its write has gone out, and
no question before its turn to ask. -/
def Spoken (said : List Utterance) (place : Nat) : Writer.Stage → Prop
  | .posting => ∀ utterance ∈ said, utterance.place ≠ place
  | .asking => (∃ post ∈ said, post.place = place) ∧
      ∀ utterance ∈ said, utterance.place = place → utterance.asks = false
  | .ended _ => True

/-- What others say changes nothing in what a writer has said. -/
theorem Spoken.snoc {said : List Utterance} {utterance : Utterance} {stage : Writer.Stage}
    (spoken : Spoken said place stage) (apart : utterance.place ≠ place) :
    Spoken (said ++ [utterance]) place stage := by
  -- What is said anew has another place, so it is neither a write nor a question of this writer.
  cases stage with
  | posting =>
    intro other among
    rcases List.mem_append.mp among with before | last
    · exact spoken other before
    · rw [List.mem_singleton.mp last]
      exact apart
  | asking =>
    obtain ⟨⟨post, among, same⟩, silent⟩ := spoken
    refine ⟨⟨post, List.mem_append_left _ among, same⟩, fun other among same => ?_⟩
    rcases List.mem_append.mp among with before | last
    · exact silent other before same
    · rw [List.mem_singleton.mp last] at same
      exact absurd same apart
  | ended => trivial

/-- A writer that has said its write, and nothing before it, may ask next. -/
theorem Spoken.posted {said : List Utterance} {utterance : Utterance}
    (spoken : Spoken said utterance.place .posting) (posts : utterance.asks = false) :
    Spoken (said ++ [utterance]) utterance.place .asking := by
  refine ⟨⟨utterance, List.mem_append_right _ (List.mem_singleton_self _), rfl⟩,
    fun other among same => ?_⟩
  rcases List.mem_append.mp among with before | new
  · exact absurd same (spoken other before)
  · rwa [List.mem_singleton.mp new]

/-- What holds of writers that began with these writes over this line. -/
structure Sound (writes : List Write) (line : Line) (state : Sharing) : Prop where
  given : state.writers.map (·.write) = writes
  lasting : state.line.lasting = line.lasting
  sent : state.line.network.sent = line.network.sent ++ state.said.map (·.message)
  spelled : ∀ utterance ∈ state.said, ∃ write, writes[utterance.place]? = some write ∧
    utterance.Spells write line
  orderly : Orderly state.said
  spoken : ∀ place writer, state.writers[place]? = some writer →
    Spoken state.said place writer.stage

theorem sound_start (writes : List Write) (line : Line) :
    Sound writes line (start writes line) where
  given := by simp [start, Function.comp_def]
  lasting := rfl
  sent := (List.append_nil _).symm
  spelled := by simp [start]
  orderly := ⟨by simp [start], by simp [start]⟩
  spoken := by
    intro place writer found
    simp only [start, List.getElem?_map, Option.map_eq_some_iff] at found
    obtain ⟨write, -, rfl⟩ := found
    simp [Spoken, start]

/-- The next stage of a writer is known, and the others are where they were. -/
theorem Sound.replaced (sound : Sound writes line state) {next : Writer} {said : List Utterance}
    (found : state.writers[place]? = some writer) (mine : Spoken said place next.stage)
    (others : ∀ other stage, other ≠ place → Spoken state.said other stage →
      Spoken said other stage) :
    ∀ other writer, (state.writers.set place next)[other]? = some writer →
      Spoken said other writer.stage := by
  intro other writer there
  have inside := (List.getElem?_eq_some_iff.mp found).1
  -- The turn is that of one writer, and all others stand where they stood.
  by_cases same : other = place
  · rw [same, List.getElem?_set_self inside] at there
    cases there
    rwa [same]
  · rw [List.getElem?_set_ne (Ne.symm same)] at there
    exact others other writer.stage same (sound.spoken other writer there)

/-- Whichever writer takes a turn, what holds of the writers still holds. -/
theorem Sound.step (sound : Sound writes line state) (place : Nat) :
    Sound writes line (state.step place) := by
  cases found : state.writers[place]? with
  | none => rwa [step_absent found]
  | some writer =>
    obtain ⟨write, kept, turn⟩ := writer.turn_cases state.line place
    have mine : writes[place]? = some writer.write := by
      rw [← sound.given, List.getElem?_map, found, Option.map_some]
    have given : (state.writers.set place (writer.turn state.line).1).map (·.write) = writes := by
      obtain ⟨inside, same⟩ := List.getElem?_eq_some_iff.mp mine
      rw [List.map_set, write, sound.given, ← same, List.set_getElem_self inside]
    rcases turn with ⟨quiet, result, last⟩ | ⟨message, sent, spells, stages⟩
    · rw [step_quiet found quiet]
      refine ⟨given, kept.trans sound.lasting, quiet.trans sound.sent, sound.spelled,
        sound.orderly, sound.replaced found ?_ fun _ _ _ spoken => spoken⟩
      rw [last]
      trivial
    · rw [step_sent found sent]
      have spoken := sound.spoken place writer found
      refine ⟨given, kept.trans sound.lasting, ?_, ?_, ?_, sound.replaced found ?_
        fun _ _ apart spoken => spoken.snoc (Ne.symm apart)⟩
      · rw [sent, sound.sent, List.map_append, List.append_assoc]
        rfl
      · intro utterance among
        rcases List.mem_append.mp among with before | new
        · exact sound.spelled utterance before
        · rw [List.mem_singleton.mp new]
          exact ⟨writer.write, mine, spells.of_lasting sound.lasting⟩
      · -- A write is the first that its writer says, and a question is the second.
        rcases stages with ⟨posting, -⟩ | ⟨asking, -⟩
        · rw [posting] at spoken
          refine sound.orderly.snoc (fun _ => spoken) fun asks => ?_
          simp [Writer.asks, posting] at asks
        · rw [asking] at spoken
          refine sound.orderly.snoc (fun asks => ?_) fun _ => spoken
          simp [Writer.asks, asking] at asks
      · rcases stages with ⟨posting, next | ⟨result, next⟩⟩ | ⟨asking, result, next⟩
        · rw [posting] at spoken
          rw [next]
          exact Spoken.posted spoken (by simp [Writer.asks, posting])
        · rw [next]
          trivial
        · rw [next]
          trivial

theorem Sound.run (sound : Sound writes line state) (schedule : List Nat) :
    Sound writes line (state.run schedule) := by
  induction schedule generalizing state with
  | nil => exact sound
  | cons place rest ih => exact ih (sound.step place)

/-- Whoever takes a turn becomes what the turn makes of it, and the line as well. -/
theorem step_found (found : state.writers[place]? = some writer) :
    (state.step place).writers[place]? = some (writer.turn state.line).1 ∧
      (state.step place).line = (writer.turn state.line).2 := by
  have inside := (List.getElem?_eq_some_iff.mp found).1
  simp only [step, found]
  exact ⟨List.getElem?_set_self inside, trivial⟩

/-- A turn leaves all other writers as they are. -/
theorem step_others {other : Nat} (apart : other ≠ place) :
    (state.step place).writers[other]? = state.writers[other]? := by
  cases found : state.writers[place]? with
  | none => rw [step_absent found]
  | some writer =>
    simp only [step, found]
    exact List.getElem?_set_ne (Ne.symm apart)

/-- Two turns in a row are the whole of a write: the line and the result are those of its run. -/
theorem turns_eq_run {write : Write} (found : state.writers[place]? = some ⟨write, .posting⟩)
    (acknowledged : write.concern.isAcknowledged = true)
    (legacy : state.line.connection.description.hasWriteCommands = false) :
    ((state.step place).step place).line = (write.run state.line).2 ∧
      ((state.step place).step place).writers[place]?
        = some ⟨write, .ended (write.run state.line).1⟩ := by
  obtain ⟨first, middle⟩ := step_found found
  obtain ⟨second, last⟩ := step_found first
  rw [second, last, middle, Write.run_eq_exchanges acknowledged legacy, Work.bind_apply]
  -- A write that was not posted has come to its end in the first turn.
  simp only [Writer.turn]
  rcases write.post state.line with ⟨halt | _, after⟩
  · exact ⟨rfl, rfl⟩
  · exact ⟨rfl, rfl⟩

/-- What was said stays said. -/
theorem said_prefix_step (state : Sharing) (place : Nat) :
    state.said <+: (state.step place).said := by
  cases found : state.writers[place]? with
  | none => simp only [step_absent found, List.prefix_rfl]
  | some writer =>
    simp only [step, found]
    exact List.prefix_append ..

theorem said_prefix_run (state : Sharing) (schedule : List Nat) :
    state.said <+: (state.run schedule).said := by
  induction schedule generalizing state with
  | nil => exact List.prefix_rfl
  | cons place rest ih => exact (state.said_prefix_step place).trans (ih (state.step place))

/-- Once somebody else has said something after a write, the write is not paired with its question
any more, whatever comes later. -/
theorem unpaired_of_turn {post : Utterance} (last : state.said.getLast? = some post)
    (posts : post.asks = false) (apart : place ≠ post.place)
    (spoke : (state.step place).said ≠ state.said) (more : List Nat) :
    ¬ Paired ((state.step place).run more).said := by
  intro paired
  cases found : state.writers[place]? with
  | none => exact spoke (by rw [step_absent found])
  | some writer =>
    obtain ⟨-, -, turn⟩ := writer.turn_cases state.line place
    rcases turn with ⟨quiet, -⟩ | ⟨message, sent, -⟩
    · exact spoke (by rw [step_quiet found quiet])
    · -- The write and what was said after it stand side by side for good.
      obtain ⟨rest, whole⟩ := (state.step place).said_prefix_run more
      rw [List.getLast?_eq_getElem?] at last
      have inside := (List.getElem?_eq_some_iff.mp last).1
      have said : ((state.step place).run more).said
          = state.said ++ (⟨place, writer.asks, message⟩ :: rest) := by
        rw [← whole, step_sent found sent, List.append_assoc, List.singleton_append]
      refine apart (paired (state.said.length - 1) post ⟨place, writer.asks, message⟩ ?_ ?_ posts).1
      · rw [said, List.getElem?_append_left inside, last]
      · rw [said, Nat.sub_add_cancel (by omega), List.getElem?_append_right (Nat.le_refl _)]
        simp

/-- A writer that has come to an end says nothing in its turn, and is as it was. -/
theorem step_ended (found : state.writers[place]? = some writer)
    {result : Except Halt WriteResult} (ended : writer.stage = .ended result) :
    (state.step place).said = state.said ∧ (state.step place).writers[place]? = some writer := by
  have same : writer.turn state.line = (writer, state.line) := by
    unfold Writer.turn
    rw [ended]
  rw [step_quiet found (by rw [same]), same]
  exact ⟨rfl, List.getElem?_set_self (List.getElem?_eq_some_iff.mp found).1⟩

/-- Nobody is about to ask. -/
def Idle (state : Sharing) : Prop :=
  ∀ (place : Nat) (writer : Writer), state.writers[place]? = some writer → writer.stage ≠ .asking

/-- When the writer whose turns these are has come to its end, nobody is about to ask again. -/
theorem Idle.turns (idle : Idle state) {next : Writer} {result : Except Halt WriteResult}
    (mine : ((state.step place).step place).writers[place]? = some next)
    (ended : next.stage = .ended result) : Idle ((state.step place).step place) := by
  intro other last known asking
  -- Of the writers, only the one who took both turns has changed, and it has ended.
  by_cases same : other = place
  · rw [same, mine] at known
    cases known
    rw [ended] at asking
    cases asking
  · rw [step_others same, step_others same] at known
    exact idle other last known asking

/-- Two turns in a row bring a writer to its end when nobody was about to ask, and a question that
is asked in them is about the write that has just gone out. -/
theorem own_turns (idle : Idle state) (own : Own state.said) (place : Nat) :
    Idle ((state.step place).step place) ∧ Own ((state.step place).step place).said := by
  cases found : state.writers[place]? with
  | none =>
    rw [step_absent found, step_absent found]
    exact ⟨idle, own⟩
  | some writer =>
    have there := (step_found found).1
    obtain ⟨-, -, turn⟩ := writer.turn_cases state.line place
    rcases turn with ⟨quiet, result, ended⟩ | ⟨message, sent, -, stages⟩
    · -- Nothing was sent in the first turn, and nothing is in the second.
      obtain ⟨said, mine⟩ := step_ended there ended
      refine ⟨idle.turns mine ended, ?_⟩
      rw [said, step_quiet found quiet]
      exact own
    · rcases stages with ⟨posting, next⟩ | ⟨asking, -⟩
      · have first := step_sent found sent
        have posts : writer.asks = false := by simp [Writer.asks, posting]
        have owned : Own (state.step place).said := by
          rw [first]
          exact own.snoc fun asks => by rw [posts] at asks; cases asks
        rcases next with asking | ⟨result, ended⟩
        · -- The write is the last that was said when its question is asked.
          obtain ⟨-, -, answer⟩ :=
            (writer.turn state.line).1.turn_cases (state.step place).line place
          have mine := (step_found there).1
          rcases answer with
            ⟨quiet, result, ended⟩ | ⟨question, asked, -, ⟨again, -⟩ | ⟨-, result, ended⟩⟩
          · refine ⟨idle.turns mine ended, ?_⟩
            rw [step_quiet there quiet]
            exact owned
          · rw [asking] at again
            cases again
          · refine ⟨idle.turns mine ended, ?_⟩
            rw [step_sent there asked]
            refine owned.snoc fun _ => ⟨⟨place, writer.asks, message⟩, ?_, posts, rfl⟩
            rw [first]
            simp
        · obtain ⟨said, mine⟩ := step_ended there ended
          refine ⟨idle.turns mine ended, ?_⟩
          rw [said]
          exact owned
      · exact absurd asking (idle place writer found)

/-- The turns of writers that each take both of theirs in a row. -/
def whole (order : List Nat) : List Nat := order.flatMap fun place => [place, place]

theorem own_of_whole (idle : Idle state) (own : Own state.said) (order : List Nat) :
    Own (state.run (whole order)).said := by
  induction order generalizing state with
  | nil => exact own
  | cons place rest ih =>
    obtain ⟨still, mine⟩ := own_turns idle own place
    exact ih still mine

end Steps

/-- Writers over one connection that take turns in any order. What goes out is each writer's own
write and its own question, the write first. What follows every write is its question exactly when
every question that is asked is about its own writer's write and no write is left unasked about with
something after it; as soon as anybody else has sent anything between the two, that is lost for
good. Writers that take both turns in a row are those that run their writes one after the other, and
they ask about their own. -/
theorem run_paired_iff (writes : List Write) (line : Line)
    (acknowledged : ∀ write ∈ writes, write.concern.isAcknowledged = true)
    (legacy : line.connection.description.hasWriteCommands = false) (schedule : List Nat) :
    let state := (start writes line).run schedule
    state.line.network.sent = line.network.sent ++ state.said.map (·.message) ∧
    (∀ utterance ∈ state.said, ∃ write, writes[utterance.place]? = some write ∧
      utterance.Spells write line) ∧
    Orderly state.said ∧
    (Paired state.said ↔ Own state.said ∧ Answered state.said) ∧
    (∀ post place more, state.said.getLast? = some post → post.asks = false →
      place ≠ post.place → (state.step place).said ≠ state.said →
      ¬ Paired ((state.step place).run more).said) ∧
    (∀ place write, state.writers[place]? = some ⟨write, .posting⟩ →
      ((state.step place).step place).line = (write.run state.line).2 ∧
      ((state.step place).step place).writers[place]?
        = some ⟨write, .ended (write.run state.line).1⟩) ∧
    ∀ order, Own ((start writes line).run (whole order)).said := by
  intro state
  have sound : Sound writes line state := (sound_start writes line).run schedule
  refine ⟨sound.sent, sound.spelled, sound.orderly, sound.orderly.paired_iff,
    fun post place more last posts apart spoke => unpaired_of_turn last posts apart spoke more,
    fun place write found => ?_, fun order => ?_⟩
  · -- The server is as old as in the beginning, so the two turns are what a whole run does.
    have given : write ∈ writes := by
      rw [← sound.given]
      exact List.mem_map_of_mem (List.mem_of_getElem? found)
    have same : state.line.connection.description = line.connection.description :=
      congrArg Line.Lasting.description sound.lasting
    exact turns_eq_run found (acknowledged write given) (by rw [same, legacy])
  · refine own_of_whole (fun place writer found asking => ?_) (fun i question found => ?_) order
    · simp only [start, List.getElem?_map, Option.map_eq_some_iff] at found
      obtain ⟨write, -, rfl⟩ := found
      cases asking
    · simp [start] at found

/-- Two deletions that the server takes one after the other, and after them both questions: it
answers both with the five documents that the second deletion has removed, and the first writer is
told them. -/
theorem run_paired_iff_crossed :
    let description : ConnectionDescription := { address := default, wireVersion := 1 }
    let answer (request : UInt8) : Delivery :=
      let document := enclosed ([(⟨"n", .int32, [5, 0, 0, 0]⟩ : RawElement),
        ⟨"ok", .int32, [1, 0, 0, 0]⟩].flatMap RawElement.bytes)
      { bytes := Bytes.ofNat 4 (36 + document.length) ++ [0, 0, 0, 0, request, 0, 0, 0, 1, 0, 0, 0,
          0, 0, 0, 0, 0, 0, 0, 0, 0, 0, 0, 0, 0, 0, 0, 0, 1, 0, 0, 0] ++ document }
    let line : Line :=
      { connection := .fresh ⟨default, 1⟩ description {}
        network :=
          { script := [fun _ => [], fun _ => [], fun _ => [answer 2], fun _ => [answer 3]] } }
    let first : Write := { target := ⟨"db", "c"⟩, statement := .delete [("a", .int32 0)] true }
    let second : Write := { target := ⟨"db", "c"⟩, statement := .delete [("a", .int32 1)] true }
    let state := (start [first, second] line).run [0, 1, 0, 1]
    state.said.map (fun utterance => (utterance.place, utterance.asks))
        = [(0, false), (1, false), (0, true), (1, true)] ∧
      ¬ Paired state.said ∧ ¬ Own state.said ∧
      state.writers.map (fun writer => writer.told?.map (·.count)) = [some 5, some 5] := by
  intro description answer line first second state
  have said : state.said.map (fun utterance => (utterance.place, utterance.asks))
      = [(0, false), (1, false), (0, true), (1, true)] := by decide +kernel
  have lost : ¬ Own state.said := by
    intro own
    obtain ⟨posted, _, spelled, -, said⟩ := List.map_eq_cons_iff.mp said
    obtain ⟨between, _, rfl, second, said⟩ := List.map_eq_cons_iff.mp said
    obtain ⟨question, rest, rfl, third, -⟩ := List.map_eq_cons_iff.mp said
    obtain ⟨other, posts⟩ := Prod.mk.inj second
    obtain ⟨mine, asks⟩ := Prod.mk.inj third
    obtain ⟨j, post, before, there, -, same, quiet⟩ := own 2 question (by rw [spelled]; rfl) asks
    rcases Nat.lt_or_ge j 1 with first | last
    · -- The other write went out after the first.
      have questions := quiet 1 between first (by decide) (by rw [spelled]; rfl)
      rw [posts] at questions
      cases questions
    · obtain rfl : j = 1 := by omega
      rw [spelled] at there
      cases there
      rw [other, mine] at same
      cases same
  obtain ⟨-, -, -, paired, -⟩ :=
    run_paired_iff [first, second] line (by decide) (by decide) [0, 1, 0, 1]
  exact ⟨said, fun one => lost (paired.mp one).1, lost, by decide +kernel⟩

end Sharing

end DocWire
