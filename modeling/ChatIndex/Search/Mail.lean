import ChatIndex.Json
import ChatIndex.Text.Space

/-! # Who takes part in a mail

A mail is shown to an account only if the account's address is among its participants.  Mails
are written by another service, so nothing is assumed about the form of a document: a
participant field may hold a list, one object, or anything else, which counts as nobody.
-/

namespace ChatIndex.Search

/-- The fields that name participants. -/
def participantFields : List String :=
  ["from", "to", "cc", "bcc"]

/-- The participants that a field holds. -/
def participants (source : Document) (field : String) : List Json :=
  match source.get? field with
  | some (.array items) => items
  | some (.object members) => [.object members]
  | _ => []

/-- Whether an address is that of a participant, up to the case of ASCII letters. -/
def hasAddress (email : String) (participant : Json) : Bool :=
  (participant.getString? "address").any fun address => Text.eqIgnoreAsciiCase address email

/-- Whether an address takes part in a mail. -/
def mailInvolves (source : Document) (email : String) : Bool :=
  participantFields.any fun field => (participants source field).any (hasAddress email)

end ChatIndex.Search
