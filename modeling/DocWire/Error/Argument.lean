import DocWire.Text.Quoted

/-! What a caller can get wrong before anything is sent. -/

namespace DocWire

/-- A refusal of what the caller asked for. -/
inductive ArgumentFault where
  | address (text : String)
  | namespaceText (text : String)
  | apiVersion (text : String)
  | primaryWithTags
  | negativeNodes
  | journalUnacknowledged
  | fieldName (name : String)
  | interiorZero (text : String)
  | emptyCommand
  | documentTooLarge (size limit : Nat)
  | payloadDocumentTooLarge (index size limit : Nat)
  | payloadTooLarge
  | commandTooLarge (size limit : Nat)
  | messageTooLarge (size : Nat) (limit : Int32)
  | sequenceTooLarge
  | tooManyCursors
  | bodyTooLarge (size : Nat)
deriving DecidableEq, Repr

/-- The text of a refusal. -/
def ArgumentFault.text : ArgumentFault → String
  | .address text => s!"invalid server address: {Text.quoted text}"
  | .namespaceText text => s!"invalid namespace: {Text.quoted text}"
  | .apiVersion text => s!"invalid server api version string: {text}"
  | .primaryWithTags =>
    "read preference tags can only be specified when a non-primary mode is specified"
  | .negativeNodes => "write concern `w` field cannot be negative integer"
  | .journalUnacknowledged => "write concern cannot have w=0 and j=true"
  | .fieldName name => s!"invalid BSON field name '{name}'"
  | .interiorZero text => s!"cstring with interior null: {Text.quoted text}"
  | .emptyCommand => "an empty document cannot be run as a command"
  | .documentTooLarge size limit =>
    s!"document of {size} bytes exceeds the maximum document size of {limit} bytes"
  | .payloadDocumentTooLarge index size limit =>
    s!"document at index {index} is {size} bytes, over the maximum of {limit} bytes"
  | .payloadTooLarge => "the next document of the payload does not fit in a message"
  | .commandTooLarge size limit =>
    s!"command document of {size} bytes exceeds the maximum of {limit} bytes"
  | .messageTooLarge size limit =>
    s!"message of {size} bytes exceeds the maximum message size of {limit} bytes"
  | .sequenceTooLarge => "document sequence too large"
  | .tooManyCursors => "too many cursors to kill in one message"
  | .bodyTooLarge size => s!"message body of {size} bytes is too large"

end DocWire
