/-
# Who runs the other instance

The owner of the running instance is known by name or not at all.  A later launch warns its user
of the running instance unless the owner is known to be that very user.
-/
import LaunchGuard.Log.Entry
import LaunchGuard.Text.Escaped

namespace LaunchGuard

/-- The owner of the running instance, as far as a later launch can tell. -/
inductive Owner where
  | known (name : String)
  | unknown
deriving DecidableEq, Repr

namespace Owner

/-- The owner as log lines show it. -/
def shown : Owner → String
  | known name => "Known(" ++ Text.quote name ++ ")"
  | unknown => "Unknown"

/-- Whether the user is told of the running instance: not if the owner is this user. -/
def deservesWarning : Owner → Option String → Bool
  | known owner, some user => owner != user
  | _, _ => true

end Owner

namespace Warning

/-- The first line of a warning. -/
def headline (owner : Owner) (user : Option String) : String :=
  match owner with
  | .known name =>
    "Backup Database is already running under the user \"" ++ name ++ "\" (you are \""
      ++ user.getD "unknown" ++ "\")."
  | .unknown =>
    "Backup Database is already running on this computer, possibly under another user account."

/-- The second line of a warning. -/
def explanation : String := "Only one instance can run on this computer at a time."

/-- The text of a warning, in two lines. -/
def text (owner : Owner) (user : Option String) : String :=
  headline owner user ++ "\n" ++ explanation

/-- The text with each line break replaced by a space. -/
def onOneLine (s : String) : String :=
  String.ofList (s.toList.map fun c => if c = '\n' then ' ' else c)

/-- Warns the user: the text goes to the log on one line. -/
def give (owner : Owner) (user : Option String) : Logged Unit :=
  Logged.write .warn .host (onOneLine (text owner user))

end Warning

end LaunchGuard
