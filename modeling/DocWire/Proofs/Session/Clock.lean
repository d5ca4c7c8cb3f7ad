import DocWire.Proofs.Command.Bearing
import DocWire.Proofs.Document.Record
import Mathlib.Algebra.Group.Nat.Defs

/-! The times that a session has seen: along every run of commands they are the latest that any
reply has told, whatever became of the commands, and each command goes out with the cluster time of
its moment. -/

namespace DocWire

namespace Timestamp

/-- Where a moment stands in the history of a cluster. -/
def place (moment : Timestamp) : Nat := moment.1.toNat * 2 ^ 32 + moment.2.toNat

/-- One moment comes before another when it stands before it. -/
theorem before_iff (a b : Timestamp) : before a b = true ↔ a.place < b.place := by
  -- The count within a second never fills the second.
  have first := a.2.toNat_lt
  have second := b.2.toNat_lt
  simp only [before, place, Bool.or_eq_true, Bool.and_eq_true, decide_eq_true_eq, beq_iff_eq,
    UInt32.lt_iff_toNat_lt, ← UInt32.toNat_inj]
  omega

/-- One moment does not come before another that stands no later. -/
theorem not_before_iff (a b : Timestamp) : before a b = false ↔ b.place ≤ a.place := by
  rw [← Bool.not_eq_true, before_iff, Nat.not_lt]

/-- Moments that stand at one place are the same. -/
theorem place_inj {a b : Timestamp} (same : a.place = b.place) : a = b := by
  have first := a.2.toNat_lt
  have second := b.2.toNat_lt
  simp only [place] at same
  refine Prod.ext (UInt32.toNat_inj.mp ?_) (UInt32.toNat_inj.mp ?_) <;> omega

end Timestamp

/-- The latest of the moments that are told; there is none only where none is told. -/
def IsLatest (told : Timestamp → Prop) : Option Timestamp → Prop
  | none => ∀ moment, ¬told moment
  | some latest => told latest ∧ ∀ moment, told moment → Timestamp.before latest moment = false

/-- What has been seen was seen later, or something that does not come before it. -/
def NotEarlier (earlier later : Option Timestamp) : Prop :=
  ∀ seen ∈ earlier, ∃ moment ∈ later, Timestamp.before moment seen = false

/-- The later of what was seen and what is told, if anything is. -/
def laterOf (seen : Option Timestamp) : Option Timestamp → Option Timestamp
  | none => seen
  | some told => some (match seen with
    | none => told
    | some moment => if Timestamp.before moment told then told else moment)

namespace IsLatest

variable {told others : Timestamp → Prop} {seen : Option Timestamp}

/-- Moments have one latest at most, however they were told. -/
theorem unique {one other : Option Timestamp} (first : IsLatest told one)
    (second : IsLatest others other) (same : ∀ moment, told moment ↔ others moment) :
    one = other := by
  cases one with
  | none =>
    cases other with
    | none => rfl
    | some moment => exact absurd ((same moment).mpr second.1) (first moment)
  | some latest =>
    cases other with
    | none => exact absurd ((same latest).mp first.1) (second latest)
    | some moment =>
      -- Neither of the two comes before the other.
      have left := first.2 moment ((same moment).mpr second.1)
      have right := second.2 latest ((same latest).mp first.1)
      rw [Timestamp.not_before_iff] at left right
      rw [Timestamp.place_inj (Nat.le_antisymm right left)]

/-- With what is told besides, the later of the two is the latest. -/
theorem later (latest : IsLatest told seen) {heard : Option Timestamp}
    (tells : ∀ moment, others moment ↔ heard = some moment) :
    IsLatest (fun moment => told moment ∨ others moment) (laterOf seen heard) := by
  cases heard with
  | none =>
    -- Nothing is told besides.
    have silent (moment : Timestamp) : ¬others moment := fun told => nomatch (tells moment).mp told
    cases seen with
    | none => exact fun moment => not_or.mpr ⟨latest moment, silent moment⟩
    | some moment =>
      exact ⟨.inl latest.1, fun other among => latest.2 other (among.resolve_right (silent other))⟩
  | some heard =>
    cases seen with
    | none =>
      refine ⟨.inr ((tells heard).mpr rfl), fun other among => ?_⟩
      obtain rfl := Option.some.inj ((tells other).mp (among.resolve_left (latest other)))
      exact (Timestamp.not_before_iff _ _).mpr (Nat.le_refl _)
    | some moment =>
      obtain ⟨member, bound⟩ := latest
      simp only [laterOf, IsLatest, Timestamp.not_before_iff] at bound ⊢
      split
      · rename_i before
        rw [Timestamp.before_iff] at before
        -- What did not come after the one seen comes before the one told.
        refine ⟨.inr ((tells heard).mpr rfl), fun other among => ?_⟩
        rcases among with old | new
        · exact Nat.le_trans (bound other old) (Nat.le_of_lt before)
        · cases (tells other).mp new
          exact Nat.le_refl _
      · rename_i notBefore
        rw [Bool.not_eq_true, Timestamp.not_before_iff] at notBefore
        refine ⟨.inl member, fun other among => ?_⟩
        rcases among with old | new
        · exact bound other old
        · cases (tells other).mp new
          exact notBefore

end IsLatest

/-- Whatever is told, what has been seen is not lost. -/
theorem notEarlier_laterOf (seen told : Option Timestamp) :
    NotEarlier seen (laterOf seen told) := by
  intro moment held
  cases held
  -- What is told replaces what was seen only when it is later.
  cases told with
  | none => exact ⟨moment, rfl, (Timestamp.not_before_iff _ _).mpr (Nat.le_refl _)⟩
  | some told =>
    refine ⟨_, rfl, ?_⟩
    rw [Timestamp.not_before_iff]
    dsimp only
    split
    · rename_i before
      rw [Timestamp.before_iff] at before
      exact Nat.le_of_lt before
    · exact Nat.le_refl _

/-- The moment of the cluster time that a session has seen. -/
def ClientSession.clusterMoment (session : ClientSession) : Option Timestamp :=
  session.clusterTime.map (·.moment)

section Reports

variable {reply : RawDocument}

/-- The fields of a document tell a cluster time: the moment and the signature stand there once each
and have the right types, and whatever stands beside them can be read. -/
structure ClusterTime.Told (fields : List (String × RawValue)) (time : ClusterTime) : Prop where
  beside : ReadableBeside ["clusterTime", "signature"] fields
  moment : Required fields "clusterTime" (fun value moment => value.timestamp? = some moment)
    time.moment
  signature : Required fields "signature" (fun value signature => value.document? = some signature)
    time.signature

theorem ClusterTime.ofValue?_eq_some {fields : List (String × RawValue)} {time : ClusterTime} :
    ofValue? (.document fields) = some time ↔ Told fields time := by
  -- The record is read first, and then each of its two fields by itself.
  simp only [ofValue?, Option.bind_eq_bind, Option.bind_eq_some_iff]
  constructor
  · rintro ⟨record, found, moment, first, signature, second, same⟩
    cases same
    obtain ⟨beside, rfl⟩ := Record.ofValue?_document.mp found
    exact ⟨beside, (Record.required?_ofFields (by simp)).mp first,
      (Record.required?_ofFields (by simp)).mp second⟩
  · rintro ⟨beside, moment, signature⟩
    exact ⟨_, Record.ofValue?_document.mpr ⟨beside, rfl⟩, _,
      (Record.required?_ofFields (by simp)).mpr moment, _,
      (Record.required?_ofFields (by simp)).mpr signature, rfl⟩

/-- A reply tells the cluster time that the document under its name tells, and none if there is no
such document or it tells none. -/
theorem RawDocument.clusterTime?_eq_some {time : ClusterTime} :
    reply.clusterTime? = some time ↔ ∃ inner, reply.document "$clusterTime" = .ok inner ∧
      time.Told (foundFields inner.elements) := by
  simp only [clusterTime?, found, Option.bind_eq_bind, Option.bind_eq_some_iff,
    ClusterTime.ofValue?_eq_some]
  cases reply.document "$clusterTime" <;> simp [Except.toOption]

/-- A reply tells the moment of the field itself, which must be of no other type. -/
theorem RawDocument.operationTime?_eq_some {moment : Timestamp} :
    reply.operationTime? = some moment
      ↔ reply.scalar "operationTime" .timestamp = .ok moment.toValue := by
  unfold operationTime? Timestamp.toValue
  cases reply.scalar "operationTime" .timestamp with
  | error missing => simp [Except.toOption]
  | ok value => cases value <;> simp [Except.toOption, Prod.ext_iff]

/-- A reply tells a moment as the time of the cluster, whatever its signature. -/
def RawDocument.TellsClusterTime (reply : RawDocument) (moment : Timestamp) : Prop :=
  ∃ inner time, reply.document "$clusterTime" = .ok inner ∧
    ClusterTime.Told (foundFields inner.elements) time ∧ time.moment = moment

/-- A reply tells a moment as the time of the operation. -/
def RawDocument.TellsOperationTime (reply : RawDocument) (moment : Timestamp) : Prop :=
  reply.scalar "operationTime" .timestamp = .ok moment.toValue

theorem RawDocument.tellsClusterTime_iff {moment : Timestamp} :
    reply.TellsClusterTime moment ↔ reply.clusterTime?.map (·.moment) = some moment := by
  simp only [TellsClusterTime, Option.map_eq_some_iff, clusterTime?_eq_some]
  constructor
  · rintro ⟨inner, time, found, told, at_⟩
    exact ⟨time, ⟨inner, found, told⟩, at_⟩
  · rintro ⟨time, ⟨inner, found, told⟩, at_⟩
    exact ⟨inner, time, found, told, at_⟩

end Reports

/-- Of what replies tell, a session has seen the latest: one more reply makes it the later of what
was seen and what that reply tells, which is one moment at most. -/
def Clock (seen : ClientSession → Option Timestamp) (tells : RawDocument → Timestamp → Prop) :
    Prop :=
  ∀ session reply, ∃ told : Option Timestamp, (∀ moment, tells reply moment ↔ told = some moment) ∧
    seen (session.observe reply) = laterOf (seen session) told

namespace ClientSession

variable (session : ClientSession)

/-- A cluster time that is told concerns nothing but the cluster time that the session has seen, and
of the two the later one is kept. -/
theorem advanceClusterTime_eq (time : ClusterTime) : ∃ seen : Option ClusterTime,
    session.advanceClusterTime time = { session with clusterTime := seen } ∧
      seen.map (·.moment) = laterOf session.clusterMoment (some time.moment) := by
  unfold advanceClusterTime clusterMoment laterOf
  cases found : session.clusterTime with
  | none => exact ⟨some time, rfl, rfl⟩
  | some seen =>
    -- Which of two times is the later one is a matter of their moments alone.
    simp only [Option.map_some, ClusterTime.before]
    by_cases before : Timestamp.before seen.moment time.moment = true
    · exact ⟨some time, by simp [before], by simp [before]⟩
    · exact ⟨some seen, by simp [before, ← found], by simp [before]⟩

/-- So it is with an operation time. -/
theorem advanceOperationTime_eq (moment : Timestamp) : session.advanceOperationTime moment
    = { session with operationTime := laterOf session.operationTime (some moment) } := by
  unfold advanceOperationTime laterOf
  cases found : session.operationTime with
  | none => rfl
  | some seen =>
    dsimp only
    split
    · rfl
    · rw [← found]

/-- A reply concerns nothing but the times that a session has seen, each of which becomes the later
one of what was seen and what is told. -/
theorem observe_eq (reply : RawDocument) : ∃ seen : Option ClusterTime,
    session.observe reply = { session with
      clusterTime := seen
      operationTime := laterOf session.operationTime reply.operationTime? } ∧
    seen.map (·.moment)
      = laterOf session.clusterMoment (reply.clusterTime?.map (·.moment)) := by
  unfold observe
  -- The operation time comes second, and has no part in the other.
  cases reply.clusterTime? with
  | none =>
    refine ⟨session.clusterTime, ?_, rfl⟩
    cases reply.operationTime? with
    | none => rfl
    | some moment => exact session.advanceOperationTime_eq moment
  | some time =>
    obtain ⟨seen, advanced, later⟩ := session.advanceClusterTime_eq time
    refine ⟨seen, ?_, later⟩
    dsimp only
    rw [advanced]
    cases reply.operationTime? with
    | none => rfl
    | some moment => exact advanceOperationTime_eq _ moment

end ClientSession

theorem clock_clusterMoment : Clock ClientSession.clusterMoment RawDocument.TellsClusterTime := by
  intro session reply
  obtain ⟨seen, observed, later⟩ := session.observe_eq reply
  refine ⟨_, fun moment => RawDocument.tellsClusterTime_iff, ?_⟩
  rw [observed]
  exact later

theorem clock_operationTime :
    Clock ClientSession.operationTime RawDocument.TellsOperationTime := by
  intro session reply
  obtain ⟨seen, observed, -⟩ := session.observe_eq reply
  refine ⟨_, fun moment => RawDocument.operationTime?_eq_some.symm, ?_⟩
  rw [observed]

namespace Clock

variable {seen : ClientSession → Option Timestamp} {tells : RawDocument → Timestamp → Prop}

/-- After many replies, a session has seen the latest of what it had seen before and of what they
have told. -/
theorem isLatest (clock : Clock seen tells) (session : ClientSession) {told : Timestamp → Prop}
    (latest : IsLatest told (seen session)) (replies : List RawDocument) :
    IsLatest (fun moment => told moment ∨ ∃ reply ∈ replies, tells reply moment)
      (seen (replies.foldl ClientSession.observe session)) := by
  -- By induction on the replies, of which each is compared with the latest so far.
  induction replies generalizing session told with
  | nil => simpa using latest
  | cons reply rest ih =>
    obtain ⟨heard, same, observed⟩ := clock session reply
    have later := latest.later same
    rw [← observed] at later
    rw [List.foldl_cons]
    simpa only [List.mem_cons, exists_eq_or_imp, or_assoc] using ih _ later

end Clock

/-- The document of a response in which the server reports; there is none in a reply that is flagged
as a failure. -/
def Response.reported? : Response → Option RawDocument
  | message content => some content.body
  | reply content => if content.flags.queryFailure then none else content.documents.head?

namespace Exchange

variable {response : Response}

/-- A flagged failure leaves the session as it is, and ends the work. -/
theorem session_flaggedFailure {α : Type} (address : Address) (document : RawDocument)
    (line : Line) : ∃ halt after, (flaggedFailure address document : Exchange α) line
      = (.error halt, after) ∧ after.session = line.session := by
  simp only [flaggedFailure, Work.bind_apply]
  cases document.decode with
  | error cause => exact ⟨_, _, rfl, rfl⟩
  | ok fields => exact ⟨_, _, rfl, rfl⟩

/-- The document in which the server reports is the one that is read. -/
theorem replyDocument_reported {reply : RawDocument} (reported : response.reported? = some reply)
    (address : Address) (line : Line) :
    replyDocument address response line = (.ok reply, line) := by
  cases response with
  | message message =>
    cases reported
    rfl
  | reply found =>
    simp only [Response.reported?] at reported
    split at reported
    · cases reported
    · rename_i unflagged
      -- A report stands in the first document of a reply without a failure flag.
      obtain ⟨rest, listed⟩ : ∃ rest, found.documents = reply :: rest := by
        cases documents : found.documents with
        | nil => simp [documents] at reported
        | cons first rest =>
          rw [documents] at reported
          cases reported
          exact ⟨rest, rfl⟩
      simp only [replyDocument, listed, unflagged]
      rfl

/-- Where the server reports in no document, the work ends there and the session is left alone. -/
theorem replyDocument_unreported (unreported : response.reported? = none) (address : Address)
    (line : Line) : ∃ halt after, replyDocument address response line = (.error halt, after) ∧
      after.session = line.session := by
  cases response with
  | message message => cases unreported
  | reply found =>
    simp only [Response.reported?] at unreported
    -- There is no document at all, or the flag says that the first one tells of a failure.
    cases listed : found.documents with
    | nil => exact ⟨_, _, by simp only [replyDocument, listed]; rfl, rfl⟩
    | cons first rest =>
      rw [listed] at unreported
      split at unreported
      · rename_i flagged
        simp only [replyDocument, listed, flagged, if_true]
        exact session_flaggedFailure address first line
      · cases unreported

end Exchange

namespace CommandCall

variable {α : Type}

/-- The document in which the server reports to the command, when it does. -/
def heard? (call : CommandCall) (line : Line) : Option RawDocument :=
  match call.prepare line with
  | (.error _, _) => none
  | (.ok (_, request), line) =>
    match (send request call.context line).1 with
    | .ok response => response.bind Response.reported?
    | .error _ => none

/-- What is made of a response lets the session observe the report, whatever the report says. -/
theorem session_conclude (decoder : Decoder α) (command : Command) (response : Option Response)
    (line : Line) : (conclude decoder command response line).2.session = line.session.map
      ((response.bind Response.reported?).toList.foldl ClientSession.observe) := by
  cases response with
  | none => simp [conclude, Exchange.advancePayload]
  | some response =>
    simp only [conclude, Work.bind_apply, Exchange.advancePayload, Work.modify_apply,
      Work.get_apply, Option.bind_some]
    cases reported : response.reported? with
    | none =>
      obtain ⟨halt, after, ended, kept⟩ := Exchange.replyDocument_unreported reported
        line.connection.id.address
        { line with payload := line.payload.map (·.advance
            (command.sequences.flatMap (·.documents)).length) }
      rw [ended]
      simpa using kept
    | some reply =>
      rw [Exchange.replyDocument_reported reported]
      -- After the times are taken over, neither a failure nor a decoder touches the session.
      have rest : Work.Keeps (fun line : Line => line.session)
          (do Exchange.check reply.ensureSuccess; return some (← Exchange.decode decoder reply)) :=
        .bind (Exchange.keeps_check _) fun _ => .bind (Exchange.keeps_decode _ _) fun _ => .pure _
      simpa [Exchange.observe] using rest _

/-- A command lets its session observe what is reported to it, and does nothing else to it. -/
theorem session_run (call : CommandCall) (decoder : Decoder α) (line : Line) :
    (call.run decoder line).2.session
      = line.session.map ((call.heard? line).toList.foldl ClientSession.observe) := by
  simp only [run, heard?, Work.bind_apply]
  rcases prepared : call.prepare line with ⟨halt | ⟨command, request⟩, middle⟩ <;>
    obtain rfl := Work.Keeps.same (keeps_prepare call) prepared
  · simp
  · dsimp only
    have kept := congrArg Line.Lasting.session (lasting_send request call.context middle)
    -- To prepare and to send leave the session as it is, so only what is made of the response
    -- counts.
    rcases ended : send request call.context middle with ⟨halt | response, last⟩ <;>
      rw [ended] at kept <;> dsimp only at kept ⊢
    · exact kept.trans (by simp [Line.lasting])
    · rw [session_conclude]
      exact congrArg (Option.map _) kept

end CommandCall

/-- A command to be run under a session, over a connection of its own choice and against a server
that may do anything. -/
structure Errand where
  {α : Type}
  call : CommandCall
  decoder : Decoder α
  connection : Connection
  payload : Option Payload
  network : Network

namespace Errand

variable (errand : Errand) (session : ClientSession)

/-- The line that the command is run on. -/
def line : Line where
  connection := errand.connection
  session := some session
  payload := errand.payload
  network := errand.network

/-- The command run under the session. -/
def run : Except Halt (Option errand.α) × Line :=
  errand.call.run errand.decoder (errand.line session)

/-- The document in which the server reports, when it does. -/
def heard? : Option RawDocument := errand.call.heard? (errand.line session)

/-- The session when the command has ended. -/
def after : ClientSession := (errand.run session).2.session.getD session

/-- The session when many commands have ended, each begun after the one before. -/
def afterAll : List Errand → ClientSession :=
  List.foldl (fun session errand => errand.after session) session

/-- The documents in which the servers report to many commands. -/
def heardAll (session : ClientSession) : List Errand → List RawDocument
  | [] => []
  | errand :: rest => (errand.heard? session).toList ++ heardAll (errand.after session) rest

/-- The session is the same one as before, and has observed the report. -/
theorem session_run : (errand.run session).2.session
    = some ((errand.heard? session).toList.foldl ClientSession.observe session) :=
  errand.call.session_run errand.decoder (errand.line session)

theorem after_eq : errand.after session
    = (errand.heard? session).toList.foldl ClientSession.observe session := by
  unfold after
  rw [session_run, Option.getD_some]

/-- After many commands the session has observed all reports, in the order in which they came. -/
theorem afterAll_eq (errands : List Errand) : afterAll session errands
    = (heardAll session errands).foldl ClientSession.observe session := by
  induction errands generalizing session with
  | nil => rfl
  | cons errand rest ih =>
    rw [heardAll, List.foldl_append, ← after_eq]
    exact ih _

variable {session}

section Clock

variable {seen : ClientSession → Option Timestamp} {tells : RawDocument → Timestamp → Prop}

/-- After many commands a session has seen the latest of what was told, whatever kind of time is
asked for. -/
theorem isLatest_afterAll (clock : Clock seen tells) (errands : List Errand) :
    IsLatest
      (fun moment => seen session = some moment ∨
        ∃ reply ∈ heardAll session errands, tells reply moment)
      (seen (afterAll session errands)) := by
  rw [afterAll_eq]
  refine clock.isLatest session ?_ (heardAll session errands)
  cases found : seen session with
  | none => exact fun _ => nofun
  | some moment =>
    refine ⟨rfl, fun other same => ?_⟩
    cases same
    exact (Timestamp.not_before_iff _ _).mpr (Nat.le_refl _)

/-- One more command brings no session back in time. -/
theorem notEarlier_after (clock : Clock seen tells) (errand : Errand) :
    NotEarlier (seen session) (seen (errand.after session)) := by
  rw [after_eq]
  cases errand.heard? session with
  | none => exact notEarlier_laterOf _ none
  | some reply =>
    obtain ⟨told, -, observed⟩ := clock session reply
    rw [Option.toList_some, List.foldl_cons, List.foldl_nil, observed]
    exact notEarlier_laterOf _ _

/-- The same reports leave a session with the same time, in whatever order they come. -/
theorem seen_eq_of_perm (clock : Clock seen tells) {errands others : List Errand}
    (same : (heardAll session others).Perm (heardAll session errands)) :
    seen (afterAll session others) = seen (afterAll session errands) :=
  (isLatest_afterAll clock others).unique (isLatest_afterAll clock errands) fun moment => by
    simp only [same.mem_iff]

end Clock

end Errand

end DocWire
