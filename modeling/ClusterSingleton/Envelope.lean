import ClusterSingleton.Error
import ClusterSingleton.Event
import ClusterSingleton.Json.Parser
import ClusterSingleton.Json.Printer
import ClusterSingleton.Json.Read
import ClusterSingleton.Timestamp

/-!
# Envelopes

A message on its way between two coordinators, with the version of the protocol, an identifier, its
sender and the time of sending. On the wire it is a JSON object; of the versions only one is
understood.
-/

namespace ClusterSingleton

def protocolVersion : String := "1.0"

structure Envelope : Type where
  version : String
  messageId : MessageId
  sender : Address
  sentAt : Timestamp
  message : Message
deriving DecidableEq, Repr

def Error.unsupportedVersion (version : String) : Error :=
  codec ("unsupported protocol version " ++ version ++ ", expected " ++ protocolVersion)

/-! ## JSON forms -/

namespace Json.Value

def uuid? (v : Value) : Option Uuid := v.text?.bind (fun s => Uuid.parse? s.toList)

def address? (v : Value) : Option Address := v.text?.map Address.mk

def timestamp? (v : Value) : Option Timestamp := v.text?.bind (fun s => Timestamp.parse? s.toList)

def message? (v : Value) : Option Message := v.name?.bind Message.ofTag?

end Json.Value

namespace Envelope

open Json (Value)

/-- A message of this version of the protocol. -/
def create (id : MessageId) (sender : Address) (sentAt : Timestamp) (message : Message) :
    Envelope :=
  ⟨protocolVersion, id, sender, sentAt, message⟩

/-- The names of the fields, in the order in which they are written. -/
def fieldNames : List String := ["version", "message_id", "sender", "sent_at", "message"]

def toValue (e : Envelope) : Value :=
  .ofFields
    [ ("version", .ofString e.version),
      ("message_id", .ofString e.messageId.uuid.text),
      ("sender", .ofString e.sender.text),
      ("sent_at", .ofString e.sentAt.text),
      ("message", .ofString e.message.tag) ]

def ofValue? (v : Value) : Option Envelope :=
  match v.record? fieldNames with
  | some [version, id, sender, sentAt, message] => do
      pure ⟨← version.text?, ⟨← id.uuid?⟩, ← sender.address?, ← sentAt.timestamp?,
        ← message.message?⟩
  | _ => none

/-- The text of an envelope on the wire. -/
def encode (e : Envelope) : String := e.toValue.render

/-- Reads an envelope. Its version is looked at last; `complaint` gives the words for bytes that are no
envelope. -/
def decode (complaint : List UInt8 → String) (bytes : List UInt8) : Except Error Envelope :=
  match (Json.parse? bytes).bind ofValue? with
  | none => .error (.codec (complaint bytes))
  | some e =>
      if e.version = protocolVersion then .ok e else .error (.unsupportedVersion e.version)

/-- What the coordinator at the other end hears. -/
def event (e : Envelope) : Event := .peer e.sender e.message

end Envelope

end ClusterSingleton
