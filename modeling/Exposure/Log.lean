/-
# Log — records of what a run noticed

A record has a level, a message and named fields.  Functions that notice
something return their records beside their result, in the order in which they
were made; nothing is printed here.
-/

namespace Exposure.Log

set_option autoImplicit false

/-- How much a record matters. -/
inductive Level where
  | debug
  | info
  | warn
  | error
  deriving DecidableEq, Repr

namespace Level

def text : Level → String
  | .debug => "DEBUG"
  | .info => "INFO"
  | .warn => "WARN"
  | .error => "ERROR"

/-- Whether a record of this level calls for attention. -/
def isNotable : Level → Bool
  | .warn => true
  | .error => true
  | _ => false

end Level

/-- The value of a field. -/
inductive Value where
  | text (s : String)
  | number (n : Int)
  | flag (b : Bool)
  | texts (ss : List String)
  | duration (nanoseconds : Int)
  deriving DecidableEq, Repr

/-- One record. -/
structure Record where
  level : Level
  message : String
  fields : List (String × Value)
  deriving DecidableEq, Repr

def debug (message : String) (fields : List (String × Value)) : Record := ⟨.debug, message, fields⟩
def info (message : String) (fields : List (String × Value)) : Record := ⟨.info, message, fields⟩
def warn (message : String) (fields : List (String × Value)) : Record := ⟨.warn, message, fields⟩
def error (message : String) (fields : List (String × Value)) : Record := ⟨.error, message, fields⟩

end Exposure.Log
