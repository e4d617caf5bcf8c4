import HaxeBuild.Text.Basic

namespace HaxeBuild

inductive Level where
  | debug
  | info
  | warning
  | error
  deriving DecidableEq

structure LogEntry where
  level : Level
  message : Text
  deriving DecidableEq

abbrev Log := List LogEntry

namespace Level

def rank : Level → Nat
  | debug => 10
  | info => 20
  | warning => 30
  | error => 40

def label : Level → Text
  | debug => "DEBUG"
  | info => "INFO"
  | warning => "WARNING"
  | error => "ERROR"

end Level

end HaxeBuild
