import DocWire.Wire.Response

/-! Channels: the byte stream from a server, part of it arrived and part of it still coming. -/

namespace DocWire

/-- Bytes that can be read from a moment on. -/
structure Parcel where
  ready : Nat
  bytes : Bytes
deriving DecidableEq, Repr, Inhabited

/-- One thing that a server does on a message: after a delay it sends bytes, and it may hang up. -/
structure Delivery where
  delay : Nat := 0
  bytes : Bytes := []
  hangsUp : Bool := false
deriving DecidableEq, Repr, Inhabited

/-- What a server does on a message with an id. -/
abbrev Behaviour := Int32 → List Delivery

/-- The stream of an open connection. It is queued when something was once sent while an earlier
parcel was still on its way. -/
structure Channel where
  arrived : Bytes := []
  coming : List Parcel := []
  hungUp : Bool := false
  queued : Bool := false
deriving DecidableEq, Repr, Inhabited

namespace Channel

/-- Whether a parcel is still on its way. -/
def awaits (channel : Channel) (now : Nat) : Bool :=
  channel.coming.any fun parcel => now < parcel.ready

/-- Whether nothing that is sent from now on is ever seen: parcels had to queue, and the queue has
run dry. -/
def spent (channel : Channel) : Bool :=
  -- What is left of an earlier parcel keeps the channel going.
  channel.queued && channel.arrived.isEmpty && channel.coming.isEmpty

/-- The channel after the server has done one thing. -/
def take (channel : Channel) (now : Nat) (delivery : Delivery) : Channel :=
  let hungUp := channel.hungUp || delivery.hangsUp
  -- A delivery without bytes leaves no parcel, but it may still hang up.
  if delivery.bytes.isEmpty || channel.spent then { channel with hungUp }
  else
    { channel with
      coming := channel.coming ++ [⟨now + delivery.delay, delivery.bytes⟩]
      hungUp
      queued := channel.queued || channel.awaits now }

/-- The channel after the server has done several things. -/
def deliver (channel : Channel) (now : Nat) (deliveries : List Delivery) : Channel :=
  deliveries.foldl (fun channel delivery => channel.take now delivery) channel

/-- The channel after whoever waited for a frame has given up: what had arrived is lost. -/
def forsake (channel : Channel) (now : Nat) : Channel :=
  -- What is still on its way comes to whoever reads next, and so does what queues behind it.
  { channel with
    arrived := []
    coming := channel.coming.dropWhile fun parcel => parcel.ready ≤ now }

end Channel

/-- What waiting for a frame comes to. -/
inductive Receipt where
  | frame (time : Nat) (header : Header) (body : Bytes) (channel : Channel)
  | failed (time : Nat) (cause : Cause)
  | never
deriving Repr, Inhabited

/-- How long somebody waits, and what then: until a moment, or only while more is coming. -/
structure Waiting where
  last : Nat
  blocking : Bool
deriving DecidableEq, Repr, Inhabited

/-- Waits until the bytes that arrive over a channel begin with a whole frame. -/
def receiveFrom (channel : Channel) (limit : Int32) (waiting : Waiting) (now : Nat)
    (arrived : Bytes) (coming : List Parcel) : Receipt :=
  match Incoming.read limit arrived with
  | .broken fault => .failed now (.response fault)
  | .frame header body rest => .frame now header body { channel with arrived := rest, coming }
  | .incomplete =>
    match coming with
    -- The stream of a server that neither sends nor hangs up has no end to wait for.
    | [] =>
      if channel.hungUp || waiting.blocking then .failed now (.stream .endOfStream) else .never
    | parcel :: others =>
      -- A parcel that was ready earlier is read at once.
      let time := max now parcel.ready
      if waiting.last < time then .never
      else receiveFrom channel limit waiting time (arrived ++ parcel.bytes) others

/-- Waits for the next frame of a channel. -/
def Channel.receive (channel : Channel) (limit : Int32) (waiting : Waiting) (now : Nat) : Receipt :=
  receiveFrom channel limit waiting now channel.arrived channel.coming

/-- The moments at which parcels can be read one after another. -/
def arrivals (now : Nat) : List Parcel → List Nat
  | [] => []
  | parcel :: others =>
    -- A parcel waits for those before it.
    let time := max now parcel.ready
    time :: arrivals time others

end DocWire
