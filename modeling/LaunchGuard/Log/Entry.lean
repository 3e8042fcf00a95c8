/-
# Log entries

Everything that a launch decides is logged.  An entry has a level, the part of the program that it
comes from, and a text.  `Logged α` is a value together with the entries written on the way to it,
in order.
-/
import LaunchGuard.Text.Escaped

namespace LaunchGuard

/-- How much an entry matters. -/
inductive Level where
  | error | warn | info | debug | trace
deriving DecidableEq, Repr

namespace Level

/-- The name of a level as entries show it. -/
def name : Level → String
  | error => "ERROR"
  | warn => "WARN"
  | info => "INFO"
  | debug => "DEBUG"
  | trace => "TRACE"

/-- The rank of a level: the more an entry matters, the lower. -/
def rank : Level → Nat
  | error => 1
  | warn => 2
  | info => 3
  | debug => 4
  | trace => 5

end Level

/-- The part of the program that an entry comes from. -/
inductive Source where
  | runner | settings | mode | claim | lock | duplicate | client | server | host | identity
deriving DecidableEq, Repr

/-- The name of a source, as directives select it. -/
def Source.path : Source → String
  | runner => "backup_runner"
  | settings => "backup_runner::config"
  | mode => "backup_runner::mode"
  | claim => "backup_runner::single_instance"
  | lock => "backup_runner::single_instance::lock"
  | duplicate => "backup_runner::single_instance::duplicate"
  | client => "backup_runner::single_instance::client"
  | server => "backup_runner::single_instance::server"
  | host => "backup_runner::host"
  | identity => "backup_runner::identity"

/-- One entry of the log. -/
structure Entry where
  level : Level
  source : Source
  text : String
deriving DecidableEq, Repr

namespace Entry

/-- The names of the fields of every entry, as directives ask for them. -/
def fields : List (List Char) := ["message".toList]

/-- The entry without its source: the level and the text. -/
def brief (e : Entry) : String := e.level.name ++ " " ++ e.text

/-- The entry in full: the level, the source and the text as a terminal may show it. -/
def full (e : Entry) : String :=
  e.level.name ++ " " ++ e.source.path ++ ": " ++ Text.tamed e.text

end Entry

/-- A value and the entries that were written on the way to it. -/
structure Logged (α : Type) where
  value : α
  log : List Entry
deriving Repr

namespace Logged

instance : Monad Logged where
  pure a := ⟨a, []⟩
  bind x f := ⟨(f x.value).value, x.log ++ (f x.value).log⟩

/-- Writes one entry. -/
def write (level : Level) (source : Source) (text : String) : Logged Unit :=
  ⟨(), [⟨level, source, text⟩]⟩

variable {α β : Type}

@[simp] theorem pure_value (a : α) : (pure a : Logged α).value = a := rfl

@[simp] theorem pure_log (a : α) : (pure a : Logged α).log = [] := rfl

@[simp] theorem bind_value (x : Logged α) (f : α → Logged β) :
    (x >>= f).value = (f x.value).value := rfl

@[simp] theorem bind_log (x : Logged α) (f : α → Logged β) :
    (x >>= f).log = x.log ++ (f x.value).log := rfl

@[simp] theorem write_log (level : Level) (source : Source) (text : String) :
    (write level source text).log = [⟨level, source, text⟩] := rfl

end Logged

end LaunchGuard
