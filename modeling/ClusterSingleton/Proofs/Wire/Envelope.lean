import ClusterSingleton.Envelope
import ClusterSingleton.Proofs.Json.Records
import ClusterSingleton.Proofs.Json.RoundTrip
import ClusterSingleton.Proofs.Wire.Identifier
import ClusterSingleton.Proofs.Wire.Time

/-!
# Envelopes on the wire

An envelope is read from the record that was written for it, and so the bytes of an envelope are
read as that envelope. The version is looked at last: an envelope of another version is read in full
and then refused, with its version in the error.
-/

namespace ClusterSingleton

/-! ## The fields of an envelope -/

namespace Json.Value

theorem uuid?_text (u : Uuid) : (ofString u.text).uuid? = some u := by
  rw [uuid?, text?_ofString, Option.bind_some, Uuid.text, String.toList_ofList, Uuid.parse?_chars]

theorem timestamp?_text (t : Timestamp) : (ofString t.text).timestamp? = some t := by
  rw [timestamp?, text?_ofString, Option.bind_some, Timestamp.text, String.toList_ofList,
    Timestamp.parse?_chars]

theorem message?_tag (m : Message) : (ofString m.tag).message? = some m := by
  cases m <;> decide

end Json.Value

namespace Envelope

open Json.Value (ofString)

theorem record?_toValue (e : Envelope) :
    e.toValue.record? fieldNames =
      some [ofString e.version, ofString e.messageId.uuid.text, ofString e.sender.text,
        ofString e.sentAt.text, ofString e.message.tag] := by
  have once : fieldNames.Nodup := by decide
  exact Json.Value.record?_ofFields once

theorem ofValue?_toValue (e : Envelope) : ofValue? e.toValue = some e := by
  simp only [ofValue?, record?_toValue, Json.Value.uuid?_text, Json.Value.timestamp?_text,
    Json.Value.message?_tag]
  rfl

/-! ## The bytes of an envelope -/

/-- The bytes of an envelope. -/
def wire (e : Envelope) : List UInt8 := e.encode.toUTF8.data.toList

variable (complaint : List UInt8 → String)

theorem decode_wire (e : Envelope) :
    decode complaint e.wire =
      if e.version = protocolVersion then .ok e else .error (.unsupportedVersion e.version) := by
  have read : Json.parse? e.wire = some e.toValue := Json.ofText?_render e.toValue
  rw [decode, read, Option.bind_some, ofValue?_toValue]

theorem version_of_decode {bytes : List UInt8} {e : Envelope}
    (read : decode complaint bytes = .ok e) : e.version = protocolVersion := by
  unfold decode at read
  split at read
  next => cases read
  next other _ =>
    split at read
    next current =>
      cases read
      exact current
    next => cases read

/-- **Nothing is lost on the wire.** The bytes of an envelope are read as that envelope, unless its
version is another one, which is reported; and what is read from any bytes, however they are spelt,
is of this version and survives being written and read again. -/
theorem wire_roundTrip :
    (∀ e : Envelope,
      decode complaint e.wire =
        if e.version = "1.0" then .ok e
        else .error (.codec ("unsupported protocol version " ++ e.version ++ ", expected 1.0"))) ∧
    ∀ (bytes : List UInt8) (e : Envelope), decode complaint bytes = .ok e →
      e.version = "1.0" ∧ decode complaint e.wire = .ok e := by
  constructor
  · intro e
    have text : Error.unsupportedVersion e.version =
        .codec ("unsupported protocol version " ++ e.version ++ ", expected 1.0") :=
      congrArg Error.codec String.append_assoc
    rw [decode_wire, text]
    rfl
  · intro bytes e read
    have current := version_of_decode complaint read
    refine ⟨current, ?_⟩
    rw [decode_wire, if_pos current]

/-- An end of a hand-over, sent in a leap second by a node with an odd name. -/
def leapSecond : Envelope where
  version := "1.0"
  messageId := ⟨⟨0x67e5504410b1426f9247bb680e5fe0c8⟩⟩
  sender := ⟨"a\"\u0007é"⟩
  sentAt := ⟨⟨2024, 1, 2⟩, ⟨1, 34, 60, 500000000⟩, by decide, by decide⟩
  message := .handOverDone

/-- Its bytes as another writer may spell them: the identifier in braces and upper case, the time at
another offset, the letters of the name escaped, the fields in another order and not alone. -/
def respelt : List UInt8 :=
  utf8 ("\x7b \"message\": \x7b\"HAND_OVER_DONE\": null\x7d, \"hops\": [1, -2.5e3], ".toList ++
    "\"sent_at\": \"+2024-1-2 03:04:60.5+01:30\", ".toList ++
    "\"sender\": \"\\u0061\\\"\\u0007\\u00E9\", ".toList ++
    "\"message_id\": \"\x7b67E55044-10B1-426F-9247-BB680E5FE0C8\x7d\", ".toList ++
    "\"version\": \"1.0\" \x7d".toList)

theorem wire_roundTrip_respelt :
    let complaint : List UInt8 → String := fun _ => "expected value at line 1 column 1"
    respelt ≠ leapSecond.wire ∧ decode complaint respelt = .ok leapSecond ∧
      leapSecond.version = "1.0" ∧ decode complaint leapSecond.wire = .ok leapSecond := by
  intro complaint
  have read : decode complaint respelt = .ok leapSecond := by decide +kernel
  exact ⟨by decide +kernel, read, (wire_roundTrip complaint).2 respelt leapSecond read⟩

end Envelope

end ClusterSingleton
