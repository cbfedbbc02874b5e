import PgJinja.Diagnostic.Basic

/-! Log records. The log file gets all of them, the console those from warnings up. -/
namespace PgJinja

inductive LogLevel where
  | info
  | warning
  | error
  deriving DecidableEq, Repr

def LogLevel.text : LogLevel → String
  | .info => "INFO"
  | .warning => "WARNING"
  | .error => "ERROR"

structure LogRecord where
  logger : String
  level : LogLevel
  message : String
  deriving DecidableEq, Repr

namespace LogRecord

def fileLine (r : LogRecord) : String :=
  r.logger ++ " - " ++ r.level.text ++ " - " ++ r.message ++ "\n"

def consoleLine (r : LogRecord) : String :=
  if r.level = .info then "" else r.level.text ++ ": " ++ r.message ++ "\n"

def fileText (rs : List LogRecord) : String := String.join (rs.map fileLine)

def consoleText (rs : List LogRecord) : String := String.join (rs.map consoleLine)

def batchLogger : String := "plpgsql_dbt.translator.cli"
def mainLogger : String := "plpgsql_dbt.main"

/-- The record of a warning that was raised while compiling. One whose line cannot be written is dropped. -/
def ofDiagnostic? (d : Diagnostic) : Option LogRecord :=
  if d.code = some .severalFunctions then
    some ⟨"plpgsql_dbt.translator.compiler", .warning, d.file ++ ": " ++ d.message⟩
  else if isShort d.line.value then
    some ⟨"plpgsql_dbt.translator.codegen.visitors.statements", .warning,
      d.file ++ ":" ++ intText d.line.value ++ ": " ++ d.message⟩
  else none

end LogRecord
end PgJinja
