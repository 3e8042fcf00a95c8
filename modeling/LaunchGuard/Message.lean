/-
# Messages

A later launch sends the running instance one short command per connection.  A payload is
classified by the command that it starts with; whatever follows the command is ignored.

The reply to the question for the owner is a marker followed by the name of the account.  A name
that does not fit into a message is cut at the last boundary between characters that does.  The
reader replaces invalid bytes, and drops blanks and NUL characters from the end of the name.

Payloads that are no request, and replies that lack their marker, are shown in a short printable
form: the escaped text of their first bytes.
-/
import LaunchGuard.Text.Classes
import LaunchGuard.Text.Escaped
import LaunchGuard.Text.Utf8

namespace LaunchGuard

/-! ### Limits and rejections -/

/-- The longest message in bytes, in either direction. -/
def messageLimit : Nat := 256

/-- The number of bytes of a payload that its printable form shows. -/
def shownBytes : Nat := 32

/-- The marker at the start of a reply that names the owner. -/
def ownerMarker : String := "USER_INFO:"

/-- The printable form of a payload: the escaped text of its first bytes. -/
def printable (payload : List UInt8) : String :=
  String.ofList (Text.Escaped.encode (Text.Utf8.decodeLossy (payload.take shownBytes)))

/-- Why a message is rejected. -/
inductive MessageFault where
  | empty
  /-- The payload starts with no command; its printable form is `shown`. -/
  | unknownRequest (shown : String)
  /-- The reply lacks the owner marker; its printable form is `shown`. -/
  | missingMarker (shown : String)
deriving DecidableEq, Repr

/-- The text of a rejection. -/
def MessageFault.message : MessageFault → String
  | empty => "Empty payload"
  | unknownRequest shown => "Unknown request: " ++ Text.quote shown
  | missingMarker shown => "Reply lacks " ++ ownerMarker ++ " prefix: " ++ Text.quote shown

/-! ### Requests -/

/-- What a later launch asks of the running instance. -/
inductive Request where
  /-- Bring the main window to the front. -/
  | showWindow
  /-- Name the account that owns the running instance. -/
  | ownerUser
deriving DecidableEq, Repr

namespace Request

/-- The command of a request. -/
def command : Request → String
  | showWindow => "SHOW_WINDOW"
  | ownerUser => "GET_USER_INFO"

/-- The bytes of the command. -/
def wire (r : Request) : List UInt8 := Text.Utf8.bytesOf r.command

/-- Whether the running instance answers the request before it closes the connection. -/
def expectsReply : Request → Bool
  | showWindow => false
  | ownerUser => true

/-- Classifies a payload by the command that it starts with. -/
def parse (payload : List UInt8) : Except MessageFault Request :=
  if payload.isEmpty then .error .empty
  else if showWindow.wire.isPrefixOf payload then .ok showWindow
  else if ownerUser.wire.isPrefixOf payload then .ok ownerUser
  else .error (.unknownRequest (printable payload))

end Request

/-! ### Replies -/

/-- The answer of the running instance. -/
inductive Reply where
  /-- No bytes at all. -/
  | empty
  /-- The name of the account that owns the running instance. -/
  | owner (name : String)
deriving DecidableEq, Repr

namespace Reply

/-- The bytes that are left for a name in one message. -/
def nameRoom : Nat := messageLimit - (Text.Utf8.bytesOf ownerMarker).length

/-- Whether a character starts at place `i` of the bytes, or the bytes end there. -/
def isBoundary (bs : List UInt8) (i : Nat) : Bool :=
  match bs.drop i with
  | [] => i ≤ bs.length
  | b :: _ => b < 0x80 || 0xc0 ≤ b

/-- The last boundary between characters that is not beyond place `i`. -/
def lastBoundary (bs : List UInt8) : Nat → Nat
  | 0 => 0
  | i + 1 => if isBoundary bs (i + 1) then i + 1 else lastBoundary bs i

/-- The bytes of a name, cut to the room that a message has for it. -/
def cut (bs : List UInt8) : List UInt8 :=
  bs.take (lastBoundary bs (min bs.length nameRoom))

/-- The bytes of a reply. -/
def encode : Reply → List UInt8
  | empty => []
  | owner name => Text.Utf8.bytesOf ownerMarker ++ cut (Text.Utf8.bytesOf name)

/-- The reply that names an owner, or the empty one for an empty name. -/
def ofName (name : List Char) : Reply :=
  if name.isEmpty then empty else owner (String.ofList name)

/-- Reads a reply. -/
def decode (payload : List UInt8) : Except MessageFault Reply :=
  if payload.isEmpty then .ok empty
  else if (Text.Utf8.bytesOf ownerMarker).isPrefixOf payload then
    let rest := payload.drop (Text.Utf8.bytesOf ownerMarker).length
    .ok (ofName (Text.dropTail Text.isPadding (Text.Utf8.decodeLossy rest)))
  else .error (.missingMarker (printable payload))

/-- The longest prefix of whole characters with at most `room` bytes. -/
def fitting (room : Nat) : List Char → List Char
  | [] => []
  | c :: cs => if c.utf8Size ≤ room then c :: fitting (room - c.utf8Size) cs else []

/-- What remains of a name on the far side of the wire. -/
def canonical (name : String) : List Char :=
  Text.dropTail Text.isPadding (fitting nameRoom name.toList)

end Reply

end LaunchGuard
