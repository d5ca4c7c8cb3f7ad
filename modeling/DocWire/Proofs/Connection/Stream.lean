import DocWire.Connection.Channel

/-! The stream of a channel: it grows at its end with what the server sends, and loses whole frames
at its front. -/

namespace DocWire

/-- A cut takes as many bytes off the front as it is asked to. -/
theorem Bytes.split?_some {count : Nat} {bytes front rest : Bytes}
    (cut : Bytes.split? count bytes = some (front, rest)) :
    front.length = count ∧ bytes = front ++ rest := by
  unfold Bytes.split? at cut
  split at cut
  · cases cut
    exact ⟨List.length_take_of_le ‹_›, (List.take_append_drop count bytes).symm⟩
  · cases cut

/-- Bytes are cut where their front ends. -/
theorem Bytes.split?_append (front rest : Bytes) :
    Bytes.split? front.length (front ++ rest) = some (front, rest) := by
  simp [Bytes.split?]

/-- The length of a message is within its bounds, and counts the header and the body. -/
theorem Header.bodyLength_ok {header : Header} {limit : Int32} {length : Nat}
    (bounded : header.bodyLength limit = .ok length) :
    16 ≤ header.length.toInt ∧ header.length ≤ limit ∧ header.length.toInt = 16 + length := by
  unfold Header.bodyLength at bounded
  split at bounded
  · cases bounded
  · -- The length is not too great, and leaves room for the header.
    split at bounded
    · cases bounded
    · rename_i short long
      simp only [headerLength] at long bounded
      cases bounded
      refine ⟨by omega, Int32.not_lt.mp short, by omega⟩

/-- The bytes are one frame, from the first to the last. -/
def IsFrame (limit : Int32) (header : Header) (body bytes : Bytes) : Prop :=
  Incoming.read limit bytes = .frame header body []

namespace Incoming

variable {limit : Int32} {arrived front body rest : Bytes} {header : Header}

/-- What is read off the front as a frame is a header and as many bytes as it announces. -/
theorem read_eq_frame (read : Incoming.read limit arrived = .frame header body rest) :
    ∃ front, front.length = headerLength ∧ Header.ofBytes front = .ok header ∧
      header.bodyLength limit = .ok body.length ∧ arrived = front ++ (body ++ rest) := by
  unfold Incoming.read at read
  -- Whatever is missing or out of bounds is no frame.
  split at read
  · cases read
  · rename_i front after cut
    split at read
    · cases read
    · rename_i found spelled
      split at read
      · cases read
      · rename_i length bounded
        split at read
        · cases read
        · rename_i inside beyond cutAgain
          cases read
          obtain ⟨sixteen, first⟩ := Bytes.split?_some cut
          obtain ⟨long, second⟩ := Bytes.split?_some cutAgain
          exact ⟨front, sixteen, spelled, by rw [long, bounded], by rw [first, second]⟩

/-- A header and as many bytes as it announces are read off the front as a frame. -/
theorem read_append (sixteen : front.length = headerLength)
    (spelled : Header.ofBytes front = .ok header)
    (bounded : header.bodyLength limit = .ok body.length) (rest : Bytes) :
    Incoming.read limit (front ++ (body ++ rest)) = .frame header body rest := by
  have cut := Bytes.split?_append front (body ++ rest)
  rw [sixteen] at cut
  unfold Incoming.read
  simp only [cut, spelled, bounded, Bytes.split?_append]

/-- A frame that is read comes off the front whole. -/
theorem read_frame (read : Incoming.read limit arrived = .frame header body rest) :
    ∃ whole, arrived = whole ++ rest ∧ IsFrame limit header body whole := by
  obtain ⟨front, sixteen, spelled, bounded, all⟩ := read_eq_frame read
  refine ⟨front ++ body, by rw [all, List.append_assoc], ?_⟩
  -- Nothing that comes after a frame has a part in it.
  have whole := read_append sixteen spelled bounded []
  rwa [List.append_nil] at whole

end Incoming

/-- A frame is as long as its header says, and that is within the bounds. -/
theorem IsFrame.length {limit : Int32} {header : Header} {body bytes : Bytes}
    (framed : IsFrame limit header body bytes) :
    header.length.toInt = bytes.length ∧ 16 ≤ header.length.toInt ∧ header.length ≤ limit := by
  obtain ⟨front, sixteen, _, bounded, all⟩ := Incoming.read_eq_frame framed
  obtain ⟨least, most, counted⟩ := Header.bodyLength_ok bounded
  refine ⟨?_, least, most⟩
  simp only [all, List.append_nil, List.length_append, sixteen, headerLength]
  omega

namespace Channel

/-- The bytes that are still to be read, those that are on their way included. -/
def unread (channel : Channel) : Bytes := channel.arrived ++ channel.coming.flatMap (·.bytes)

/-- What the server does adds to the end of the stream. -/
theorem unread_take (channel : Channel) (now : Nat) (delivery : Delivery) :
    channel.unread <+: (channel.take now delivery).unread := by
  unfold Channel.take
  -- A delivery that leaves no parcel leaves the stream as it was.
  split
  · exact List.prefix_rfl
  · refine ⟨delivery.bytes, ?_⟩
    simp [unread]

/-- All that the server does adds to the end of the stream. -/
theorem unread_deliver (channel : Channel) (now : Nat) (deliveries : List Delivery) :
    channel.unread <+: (channel.deliver now deliveries).unread := by
  -- Each delivery adds to what those before it left.
  unfold deliver
  induction deliveries generalizing channel with
  | nil => exact List.prefix_rfl
  | cons delivery rest ih => exact (channel.unread_take now delivery).trans (ih _)

/-- Whoever gives up waiting loses bytes at the front of the stream. -/
theorem unread_forsake (channel : Channel) (now : Nat) :
    (channel.forsake now).unread <:+ channel.unread := by
  unfold forsake unread
  rw [List.nil_append]
  refine List.IsSuffix.trans ?_ (List.suffix_append _ _)
  -- The parcels that are lost come before all that are kept.
  obtain ⟨lost, split⟩ := List.dropWhile_suffix (l := channel.coming)
    fun parcel : Parcel => decide (parcel.ready ≤ now)
  exact ⟨lost.flatMap (·.bytes), by rw [← List.flatMap_append, split]⟩

end Channel

/-- Whoever waits for a frame gets the front of the stream, whatever arrives when. -/
theorem receiveFrom_frame {channel after : Channel} {limit : Int32} {waiting : Waiting}
    {now time : Nat} {arrived body : Bytes} {coming : List Parcel} {header : Header}
    (got : receiveFrom channel limit waiting now arrived coming = .frame time header body after) :
    ∃ whole, arrived ++ coming.flatMap (·.bytes) = whole ++ after.unread ∧
      IsFrame limit header body whole := by
  -- Each parcel joins the bytes that have arrived before it.
  fun_induction receiveFrom channel limit waiting now arrived coming with
  | case1 _ _ _ fault => cases got
  | case2 now arrived coming found inside rest read =>
    cases got
    obtain ⟨whole, all, framed⟩ := Incoming.read_frame read
    exact ⟨whole, by simp [Channel.unread, all], framed⟩
  | case3 => cases got
  | case4 => cases got
  | case5 => cases got
  | case6 _ _ _ parcel others _ _ ih =>
    obtain ⟨whole, all, framed⟩ := ih got
    exact ⟨whole, by rw [← all, List.flatMap_cons, List.append_assoc], framed⟩

end DocWire
