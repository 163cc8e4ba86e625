/-
  EngineBindings/Log/Record.lean
  ==============================
  **Log records.**

  Every part of a run tells what it does in records: a level, the name of the logger that it
  speaks through, a message, and the failure that made it speak, if there was one.  A part
  returns its records in order; where they are shown is decided elsewhere.
-/
import EngineBindings.Failure
import EngineBindings.Log.Level
import EngineBindings.Text.Affix

namespace EngineBindings.Log

structure Record where
  level : Int
  logger : String
  message : String
  failure : Option Failure := none

/-! ### Loggers -/

/-- The logger above all loggers of this package. -/
def packageLogger : String := "godot_codegen"

def filesLogger : String := packageLogger ++ ".utils"

def emissionLogger : String := packageLogger ++ ".emitters.rust_emitter"

def runLogger : String := packageLogger ++ ".generate_bindings"

/-- Whether a logger is the package's or below it. -/
def ofPackage (logger : String) : Bool :=
  logger == packageLogger || (Text.after? (packageLogger ++ ".") logger).isSome

/-! ### Records of one level -/

/-- A record of what a close look asks for. -/
def debug (logger message : String) : Record := { level := debugLevel, logger, message }

/-- A record of what a run tells. -/
def info (logger message : String) : Record := { level := infoLevel, logger, message }

/-- A record of what may be wrong. -/
def warning (logger message : String) : Record := { level := warningLevel, logger, message }

/-- A record of a step that was given up. -/
def failed (logger message : String) (failure : Failure) : Record :=
  { level := errorLevel, logger, message, failure := some failure }

end EngineBindings.Log
