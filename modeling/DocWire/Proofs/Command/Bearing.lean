import DocWire.Proofs.Command.Framing
import DocWire.Proofs.Command.Run

/-! What a command bears when it goes out: its stamps are fields of the document that is sent, in
either framing, and nothing else is sent. -/

namespace DocWire

/-- The document of a command holds a value under a name, or none, in either framing; routers may
get the document in a wrapper. -/
def Request.Bears (request : Request) (name : String) (value : Option Value) : Prop :=
  match request with
  | .message content =>
    ∃ body, Document.encode body = .ok content.body ∧ Document.get? body name = value
  | .query content =>
    ∃ body, Document.get? body name = value ∧
      (Document.encode body = .ok content.query ∨
        ∃ preference, Document.encode (Command.wrapped body preference) = .ok content.query)
  | _ => False

/-- A name for stamps alone: it is neither one that tells where a command goes, nor one under which
documents travel beside it. -/
def Private (name : String) : Prop :=
  name ∉ routingNames ∧ ∀ kind : PayloadKind, name ≠ kind.identifier

theorem private_lsid : Private "lsid" := by
  refine ⟨by decide, fun kind => ?_⟩
  cases kind <;> decide

theorem private_clusterTime : Private "$clusterTime" := by
  refine ⟨by decide, fun kind => ?_⟩
  cases kind <;> decide

/-- The interface that is declared has no stamps that tell of a session. -/
theorem not_mem_declared (api : Option ServerApi) (name : String)
    (session : name ∈ ["lsid", "$clusterTime"]) :
    name ∉ Document.names ((api.map ServerApi.toDocument).getD []) := by
  -- A declaration of the version has three names at most, and neither of these.
  cases api with
  | none => simp [Document.names]
  | some api =>
    obtain ⟨version, strict, errors⟩ := api
    rcases List.mem_cons.mp session with rfl | other
    · cases strict <;> cases errors <;> simp [ServerApi.toDocument, Document.names]
    · obtain rfl := List.mem_singleton.mp other
      cases strict <;> cases errors <;> simp [ServerApi.toDocument, Document.names]

namespace Command

variable {command : Command} {description : ConnectionDescription} {request : Request}
  {name : String}

/-- A request bears what the body of its command holds under a private name. -/
theorem bears_request (framed : command.request description = .ok request)
    (routed : name ∉ routingNames) (beside : ∀ sequence ∈ command.sequences,
      name ≠ sequence.identifier) : request.Bears name (Document.get? command.body name) := by
  unfold Command.request at framed
  split at framed
  · -- In a message, the fields that tell where it goes are all that is put in.
    obtain ⟨message, made, rfl⟩ := Work.except_map_ok framed
    obtain ⟨body, encoded, made⟩ := Work.except_bind_ok made
    obtain ⟨_, _, made⟩ := Work.except_bind_ok made
    cases made
    refine ⟨command.messageBody description.type, encoded, ?_⟩
    rw [messageBody_eq]
    refine Document.get?_extend_of_not_mem fun among => ?_
    exact routed ((command.names_routing description.type).mem among)
  · -- In a query, the sequences are put in as arrays.
    obtain ⟨query, made, rfl⟩ := Work.except_map_ok framed
    obtain ⟨body, embedded, made⟩ := Work.except_bind_ok made
    obtain ⟨encoded, encodes, made⟩ := Work.except_bind_ok made
    obtain ⟨_, _, made⟩ := Work.except_bind_ok made
    cases made
    rw [embed_eq] at embedded
    obtain ⟨fields, listed, rfl⟩ := Work.except_map_ok embedded
    refine ⟨command.body.extend fields, Document.get?_extend_of_not_mem fun among => ?_, ?_⟩
    · rw [(arrays_ok listed).1] at among
      obtain ⟨sequence, member, same⟩ := List.mem_map.mp among
      exact beside sequence member same.symm
    · rcases queryBody_cases command _ description.type with bare | ⟨preference, wrapped⟩
      · rw [bare] at encodes
        exact .inl encodes
      · rw [wrapped] at encodes
        exact .inr ⟨preference, encodes⟩

end Command

namespace CommandCall

variable {α : Type} {call : CommandCall} {line after : Line} {command : Command}
  {request : Request} {name : String}

/-- A command that was stamped has nothing beside it yet. -/
theorem sequences_stampedIn {context : SessionContext}
    (stamped : call.stampedIn context = .ok command) : command.sequences = [] := by
  obtain ⟨made, built, stamped⟩ := Work.except_bind_ok stamped
  unfold Command.ofDocument at built
  split at built
  · cases built
  · cases built
    cases stamped
    rfl

/-- What is prepared is the caller's command with its stamps, and a batch of the payload beside it
if there is one. -/
theorem prepare_stamped (prepared : call.prepare line = (.ok (command, request), after)) :
    command.body = call.command.extend (stamps (.ofSession line.session) call.api) ∧
      (∀ sequence ∈ command.sequences, ∃ kind : PayloadKind,
        sequence.identifier = kind.identifier) ∧
      command.request line.connection.description = .ok request := by
  -- Nothing is changed on the way, so the session is the one of the line.
  obtain ⟨_, _, judged, afterSession⟩ := Work.bind_ok prepared
  obtain rfl := Work.Keeps.same Exchange.keeps_ensureSession judged
  obtain ⟨_, _, found, afterLook⟩ := Work.bind_ok afterSession
  cases found
  obtain ⟨made, _, stamped, afterStamp⟩ := Work.bind_ok afterLook
  obtain ⟨stamped, rfl⟩ := Exchange.check_eq_ok stamped
  obtain ⟨batched, _, beside, afterBatch⟩ := Work.bind_ok afterStamp
  obtain rfl := Work.Keeps.same (Exchange.keeps_withBatch made) beside
  obtain ⟨_, _, framed, last⟩ := Work.bind_ok afterBatch
  obtain ⟨framed, rfl⟩ := Exchange.check_eq_ok framed
  cases last
  rw [stamped_eq] at stamped
  obtain ⟨-, -, body⟩ := stampedIn_ok stamped
  cases carried : after.payload with
  | none =>
    simp only [Exchange.withBatch, Work.bind_apply, Work.get_apply, carried] at beside
    cases beside
    exact ⟨body, by simp [sequences_stampedIn stamped], framed⟩
  | some payload =>
    obtain ⟨batch, cut, rfl⟩ := Exchange.withBatch_ok carried beside
    -- The batch bears the name that the kind of the payload gives it.
    refine ⟨body, fun sequence member => ?_, framed⟩
    rw [List.mem_singleton.mp member]
    exact ⟨payload.kind, (Payload.nextBatch_ok cut).1⟩

/-- A request that was prepared bears the stamps of its session, and under every other private name
what the caller has put there. -/
theorem bears_prepare (prepared : call.prepare line = (.ok (command, request), after))
    (apart : Private name) : request.Bears name
      (Document.get? (call.command.extend (stamps (.ofSession line.session) call.api)) name) := by
  obtain ⟨body, beside, framed⟩ := prepare_stamped prepared
  rw [← body]
  refine Command.bears_request framed apart.1 fun sequence member same => ?_
  obtain ⟨kind, named⟩ := beside sequence member
  exact apart.2 kind (same.trans named)

/-- What no stamp is called, a command bears as its caller has put it there. -/
theorem bears_own (prepared : call.prepare line = (.ok (command, request), after))
    (apart : Private name)
    (unstamped : name ∉ Document.names (stamps (.ofSession line.session) call.api)) :
    request.Bears name (call.command.get? name) := by
  have bears := bears_prepare prepared apart
  rwa [Document.get?_extend_of_not_mem unstamped] at bears

/-- A command without a session goes out with what its caller calls the session, if anything. -/
theorem bears_lsid_alone (alone : line.session = none)
    (prepared : call.prepare line = (.ok (command, request), after)) :
    request.Bears "lsid" (call.command.get? "lsid") := by
  refine bears_own prepared private_lsid ?_
  rw [alone]
  exact not_mem_declared call.api "lsid" (by simp)

/-- A command under a session goes out under the name of its server session. -/
theorem bears_lsid {session : ClientSession} (under : line.session = some session)
    (prepared : call.prepare line = (.ok (command, request), after)) :
    request.Bears "lsid" (some (.document session.server.id)) := by
  have bears := bears_prepare prepared private_lsid
  rw [under] at bears
  -- The stamp takes the place of whatever the caller has under the name.
  have different := (names_stamps (.ofSession (some session)) call.api).nodup (by decide)
  have among : ("lsid", .document session.server.id)
      ∈ stamps (.ofSession (some session)) call.api := by
    simp [stamps, SessionContext.fields, SessionContext.ofSession]
  rwa [Document.get?_extend_of_mem different among] at bears

/-- A command under a session goes out with the time that the session has seen, or without one when
it has seen none and the caller gives none. -/
theorem bears_clusterTime {session : ClientSession} (under : line.session = some session)
    (own : call.command.get? "$clusterTime" = none)
    (prepared : call.prepare line = (.ok (command, request), after)) :
    request.Bears "$clusterTime" (session.clusterTime.map (.document ·.toDocument)) := by
  cases seen : session.clusterTime with
  | none =>
    -- Nothing is put in under the name, neither for the session nor for the interface.
    have bears := bears_own prepared private_clusterTime (by
      rw [under]
      simp only [stamps, SessionContext.fields, SessionContext.ofSession, seen,
        Document.names_append]
      simpa [Document.names] using not_mem_declared call.api "$clusterTime" (by simp))
    rwa [own] at bears
  | some time =>
    have bears := bears_prepare prepared private_clusterTime
    rw [under] at bears
    have different := (names_stamps (.ofSession (some session)) call.api).nodup (by decide)
    have among : ("$clusterTime", .document time.toDocument)
        ∈ stamps (.ofSession (some session)) call.api := by
      simp [stamps, SessionContext.fields, SessionContext.ofSession, seen]
    rwa [Document.get?_extend_of_mem different among] at bears

/-- What a command sends is the request that it was prepared to, once, or nothing. -/
theorem sent_run (call : CommandCall) (decoder : Decoder α) (line : Line) :
    (call.run decoder line).2.network.sent = line.network.sent ∨
      ∃ command request id bytes, call.prepare line = (.ok (command, request), line) ∧
        request.encode id = .ok bytes ∧ (call.run decoder line).2.network.sent
          = line.network.sent ++ [(line.connection.id.number, bytes)] := by
  simp only [run, Work.bind_apply]
  rcases prepared : call.prepare line with ⟨halt | ⟨command, request⟩, middle⟩ <;>
    obtain rfl := Work.Keeps.same (keeps_prepare call) prepared
  · exact .inl rfl
  · -- What is made of the response sends nothing more.
    have quiet (response : Option Response) :
        Work.Keeps (fun line : Line => line.network.sent) (conclude decoder command response) :=
      keeps_conclude (fun _ _ => rfl) (fun _ _ => rfl) (fun _ _ => rfl) _ _ _
    have sent := sent_send request call.context middle
    dsimp only
    rcases ended : send request call.context middle with ⟨halt | response, last⟩ <;>
      rw [ended] at sent <;> dsimp only at sent ⊢
    · rcases sent with kept | ⟨id, bytes, encoded, posted⟩
      · exact .inl kept
      · exact .inr ⟨command, request, id, bytes, rfl, encoded, posted⟩
    · rcases sent with kept | ⟨id, bytes, encoded, posted⟩
      · exact .inl ((quiet response last).trans kept)
      · exact .inr ⟨command, request, id, bytes, rfl, encoded, (quiet response last).trans posted⟩

end CommandCall

end DocWire
