/-!
# Logs

What a job says while it runs, by importance.
-/

namespace Pamphlet

inductive Level
  | info
  | warning
  | error
  deriving DecidableEq, Repr

def Level.name : Level → String
  | .info => "INFO"
  | .warning => "WARNING"
  | .error => "ERROR"

structure LogLine where
  level : Level
  message : String
  deriving DecidableEq, Repr

end Pamphlet
