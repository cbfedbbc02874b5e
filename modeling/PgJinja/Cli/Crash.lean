import PgJinja.Config.Settings
import PgJinja.Failure
import PgJinja.Files.Discovery

/-! What ends a run before its report, and the console that its messages go to. -/
namespace PgJinja

structure MessageFault where
  text : String
  isBadValue : Bool
  deriving DecidableEq, Repr

/-- What a console makes of a text. A message has styled parts, which are marked in its text; names are escaped
before they go into one. -/
structure Console where
  printed : String → String
  styled : String → String
  escaped : String → String
  fault? : String → Option MessageFault

inductive Crash where
  /-- An argument lacks its value. -/
  | noValue
  | misfit (m : Misfit)
  | exceeded (limit : Limit)
  | config (fault : ConfigFault)
  | message (fault : MessageFault)
  | nullByte
  /-- A path could not be looked up, or the log could not be opened. -/
  | file (fault : FileFault)
  | search (fault : SearchFault)
  deriving DecidableEq, Repr

namespace Crash

def text : Crash → String
  | noValue => "expected a value"
  | misfit m => m.message
  | exceeded limit => limit.message
  | config fault => fault.message
  | message fault => fault.text
  | nullByte => PathError.nullByte.text
  | file fault => fault.message
  | search fault => fault.message

/-- Values that are wrong but of the right shape are reported to the user; anything else is an error
of the program. -/
def isBadValue : Crash → Bool
  | misfit (.numeral _) | misfit .undefinedNumber | misfit (.negativeIndent _) => true
  | misfit _ => false
  | exceeded limit => limit = .digits
  | config (.notAPath _) | config (.file _) | config .tooDeep => false
  | config _ | nullByte => true
  | message fault => fault.isBadValue
  | search (.glob fault) => fault ≠ .absolute
  | file _ | search (.file _) | noValue => false

end Crash
end PgJinja
