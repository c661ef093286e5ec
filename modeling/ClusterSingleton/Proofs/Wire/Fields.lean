import ClusterSingleton.Proofs.Wire.Envelope

/-!
# Envelopes of other writers

Another writer may put the fields of an envelope in another order, leave white space between them,
spell their values in another way, and add members of its own. All this makes no difference, as long
as each field stands there once.
-/

namespace ClusterSingleton.Envelope

open Json (Spells Spelt Value)
open Json.Value (named ofFields ofString)

/-- A value for each field of an envelope, in whatever form the field is read from it. -/
structure FieldValues (e : Envelope) : Type where
  version : Value
  messageId : Value
  sender : Value
  sentAt : Value
  message : Value
  readsVersion : version.text? = some e.version
  readsMessageId : messageId.uuid? = some e.messageId.uuid
  readsSender : sender.address? = some e.sender
  readsSentAt : sentAt.timestamp? = some e.sentAt
  readsMessage : message.message? = some e.message

namespace FieldValues

variable {e : Envelope}

/-- The fields with their names, in the order in which they are written. -/
def fields (known : FieldValues e) : List (String × Value) :=
  [ ("version", known.version),
    ("message_id", known.messageId),
    ("sender", known.sender),
    ("sent_at", known.sentAt),
    ("message", known.message) ]

theorem ofValue?_of_perm (known : FieldValues e) {fields others : List (String × Value)}
    (unknown : ∀ o ∈ others, o.1 ∉ fieldNames) (perm : fields.Perm (known.fields ++ others)) :
    ofValue? (ofFields fields) = some e := by
  have once : (known.fields.map Prod.fst).Nodup := by
    show fieldNames.Nodup
    decide
  have read : (ofFields fields).record? fieldNames = some (known.fields.map Prod.snd) :=
    Json.Value.record?_of_perm once unknown perm
  simp only [ofValue?, read, FieldValues.fields, List.map_cons, List.map_nil, known.readsVersion,
    known.readsMessageId, known.readsSender, known.readsSentAt, known.readsMessage]
  rfl

end FieldValues

/-- Without one of its fields, or with one of them twice, an object is no envelope. -/
theorem ofValue?_eq_none {members : List (Option String × Value)} {name : String}
    (mem : name ∈ fieldNames) (count : members.countP (fun m => m.1 == some name) ≠ 1) :
    ofValue? (.object members) = none := by
  rw [ofValue?, Json.Value.record?_eq_none mem count]

/-- **Each field is needed once, and nothing else matters.** Whatever the order of the fields, the
white space between them, the spelling of their values and the members of other names, the envelope
is read; and any object in which a field is missing or repeated is refused. -/
theorem fields_in_any_order (complaint : List UInt8 → String) :
    (∀ (e : Envelope) (known : FieldValues e) (others fields : List (String × Value))
        (text : List Char),
      e.version = "1.0" →
      (∀ o ∈ others, o.1 ∉ fieldNames) →
      fields.Perm (known.fields ++ others) →
      Spelt (ofFields fields) text →
        decode complaint (utf8 text) = .ok e) ∧
    ∀ (members : List (Option String × Value)) (text : List Char) (name : String),
      name ∈ fieldNames →
      members.countP (fun m => m.1 == some name) ≠ 1 →
      Spelt (.object members) text →
        decode complaint (utf8 text) = .error (.codec (complaint (utf8 text))) := by
  constructor
  · intro e known others fields text current unknown perm spelt
    rw [decode, Json.parse?_spelt spelt, Option.bind_some, known.ofValue?_of_perm unknown perm]
    exact if_pos current
  · intro members text name mem count spelt
    rw [decode, Json.parse?_spelt spelt, Option.bind_some, ofValue?_eq_none mem count]

/-- The fields of `leapSecond` in other forms: the identifier in braces and upper case, the time at
another offset, the message as the key of a null. -/
def otherForms : FieldValues leapSecond where
  version := ofString "1.0"
  messageId := ofString "\x7b67E55044-10B1-426F-9247-BB680E5FE0C8\x7d"
  sender := ofString "a\"\u0007é"
  sentAt := ofString "+2024-1-2 03:04:60.5+01:30"
  message := .object [(some "HAND_OVER_DONE", .null)]
  readsVersion := rfl
  readsMessageId := by decide +kernel
  readsSender := rfl
  readsSentAt := by decide +kernel
  readsMessage := by decide +kernel

/-- Members that no reader asks for, one of them twice. -/
def hops : List (String × Value) :=
  [("hops", .array [.number (some 1), .number none]), ("hops", .object [(none, .text none)])]

def reversed : List (String × Value) := (otherForms.fields ++ hops).reverse

/-- The members in reverse order, one on each line. -/
def lines : List Char :=
  "\x7b\n\t\"hops\": \x7b\"\\ud800\":\"\\ud800\"\x7d,\n\t\"hops\": [1,-0],".toList ++
    "\n\t\"message\": \x7b\"HAND_OVER_DONE\":null\x7d,".toList ++
    "\n\t\"sent_at\": \"+2024-1-2 03:04:60.5+01:30\",".toList ++
    "\n\t\"sender\": \"a\\\"\\u0007é\",".toList ++
    "\n\t\"message_id\": \"\x7b67E55044-10B1-426F-9247-BB680E5FE0C8\x7d\",".toList ++
    "\n\t\"version\": \"1.0\"\n\x7d\n".toList

theorem spelt_lines : Spelt (ofFields reversed) lines := by
  have none := Json.isSpace_nil
  have line : Json.IsSpace ['\n'] := by decide
  have indent : Json.IsSpace ['\n', '\t'] := by decide
  have blank : Json.IsSpace [' '] := by decide
  have member (name : String) (v : Value) :=
    Spells.member (Json.spells_textChars (some name)) none blank (Json.spells_chars v)
  have next {name : String} {v : Value} {ms : List (Option String × Value)} {cs : List Char}
      (rest : Spells (.members ms) cs) := Spells.nextMember none indent (member name v) rest
  obtain ⟨cs, object, same⟩ :
      ∃ cs, Spells (.value (ofFields reversed)) cs ∧ lines = [] ++ cs ++ ['\n'] :=
    ⟨_, .object indent (member _ _) (next (next (next (next (next (next (.noMember line))))))),
      by decide +kernel⟩
  rw [same]
  exact .text none object line

/-- The members of `lines` without the message, in one line. -/
def incomplete : List UInt8 := utf8 (Value.object (named (reversed.drop 3))).chars

/-- The members of `lines` with another version, in one line. -/
def doubled : List UInt8 := utf8 (Value.object (named (("version", .null) :: reversed))).chars

theorem fields_in_any_order_lines :
    let complaint : List UInt8 → String := fun bytes =>
      if bytes = incomplete then "missing field `message`" else "duplicate field `version`"
    Spelt (ofFields reversed) lines ∧ decode complaint (utf8 lines) = .ok leapSecond ∧
      decode complaint incomplete = .error (.codec "missing field `message`") ∧
      decode complaint doubled = .error (.codec "duplicate field `version`") := by
  intro complaint
  have unknown : ∀ o ∈ hops, o.1 ∉ fieldNames := by decide
  obtain ⟨reads, refuses⟩ := fields_in_any_order complaint
  have read := reads leapSecond otherForms hops reversed lines rfl unknown (List.reverse_perm _)
    spelt_lines
  have missing : decode complaint incomplete = .error (.codec (complaint incomplete)) :=
    refuses (named (reversed.drop 3)) _ "message" (by decide) (by decide) (Json.spelt_chars _)
  have repeated : decode complaint doubled = .error (.codec (complaint doubled)) :=
    refuses (named (("version", .null) :: reversed)) _ "version" (by decide) (by decide)
      (Json.spelt_chars _)
  have other : doubled ≠ incomplete := by decide +kernel
  rw [show complaint incomplete = "missing field `message`" from if_pos rfl] at missing
  rw [show complaint doubled = "duplicate field `version`" from if_neg other] at repeated
  exact ⟨spelt_lines, read, missing, repeated⟩

end ClusterSingleton.Envelope
