import DocWire.Document.Record
import DocWire.Number.Integer
import DocWire.Text.Quoted

/-! Server addresses: a host and a port that may be left out. -/

namespace DocWire

/-- The port of an address that names none. -/
def defaultPort : UInt16 := 27017

/-- The address of a server. -/
structure Address where
  host : String
  port : Option UInt16
deriving DecidableEq, Repr, Inhabited

namespace Address

/-- The address on this machine with the default port. -/
def localhost : Address := ⟨"localhost", none⟩

/-- The port that a connection goes to. -/
def effectivePort (address : Address) : UInt16 := address.port.getD defaultPort

/-- What tells servers apart: the host and the port that a connection goes to. -/
def identity (address : Address) : String × UInt16 := (address.host, address.effectivePort)

/-- Whether two addresses lead to the same server. -/
def same (a b : Address) : Bool := a.identity == b.identity

/-- The host and the port that a connection goes to. -/
def text (address : Address) : String := address.host ++ ":" ++ toString address.effectivePort.toNat

/-- A port between 1 and 65535. -/
def port? (digits : List Char) : Option UInt16 := do
  let number ← Number.unsigned? digits
  -- Port zero leads nowhere.
  if 1 ≤ number ∧ number < 65536 then some (UInt16.ofNat number) else none

/-- Reads a host that is not empty, alone or with a colon and a port after it. -/
def parse? (text : String) : Option Address :=
  let host := text.toList.takeWhile (· ≠ ':')
  if host = [] then none
  else
    -- All that follows the first colon has to be a port.
    match text.toList.dropWhile (· ≠ ':') with
    | [] => some ⟨String.ofList host, none⟩
    | _ :: digits => (port? digits).map fun port => ⟨String.ofList host, some port⟩

/-- The address that a value holds as text. -/
def ofValue? (value : RawValue) : Option Address := value.text?.bind parse?

end Address
end DocWire
