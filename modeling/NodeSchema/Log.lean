/-!
# Log records

What a run reports beside its result. A record has a level, the part of the program that it comes
from, and a message; records are kept in the order in which they were made.
-/

namespace NodeSchema.Log

inductive Level where
  | debug
  | warning
  deriving DecidableEq, Repr

def Level.label : Level → String
  | .debug => "DEBUG"
  | .warning => "WARNING"

inductive Source where
  | resolver
  | runner
  | writer
  deriving DecidableEq, Repr

def Source.label : Source → String
  | .resolver => "ast_typegen.schema.resolver"
  | .runner => "ast_typegen.runner"
  | .writer => "ast_typegen.writer"

structure Record where
  level : Level
  source : Source
  message : String
  deriving DecidableEq, Repr

def Record.line (r : Record) : String :=
  r.level.label ++ " " ++ r.source.label ++ ": " ++ r.message

end NodeSchema.Log
