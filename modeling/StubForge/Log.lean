/-!
The records of a run: what it reports, each with a level of importance.
-/

set_option autoImplicit false

namespace StubForge

inductive Level where
  | trace
  | debug
  | info
  | success
  | warning
  | error
  | critical
  deriving DecidableEq, Repr

namespace Level

def all : List Level := [.trace, .debug, .info, .success, .warning, .error, .critical]

def name : Level → String
  | trace => "TRACE"
  | debug => "DEBUG"
  | info => "INFO"
  | success => "SUCCESS"
  | warning => "WARNING"
  | error => "ERROR"
  | critical => "CRITICAL"

def importance : Level → Nat
  | trace => 5
  | debug => 10
  | info => 20
  | success => 25
  | warning => 30
  | error => 40
  | critical => 50

def ofName? (text : String) : Option Level := all.find? fun level => level.name == text

theorem of_name_name (level : Level) : ofName? level.name = some level := by
  cases level <;> decide

end Level

structure Record where
  level : Level
  message : String
  deriving DecidableEq, Repr

def Record.select (least : Level) (records : List Record) : List Record :=
  records.filter fun record => least.importance ≤ record.level.importance

end StubForge
