/-
# Settings

The settings of a tracker come from named variables, each of which may be absent.
They are looked up one after the other, and the first one with a bad value ends the
look-up. A timeout is a decimal number of milliseconds from one to 2^64 - 1.
-/

import PartitionLedger.Identity.Basic
import PartitionLedger.Journal.Filter
import PartitionLedger.Journal.Line

namespace PartitionLedger

/-- How journal lines are written. -/
inductive LogFormat where
  | json
  | pretty
  deriving DecidableEq, Repr

namespace LogFormat

/-- The name of a format. -/
def name : LogFormat → String
  | json => "json"
  | pretty => "pretty"

/-- The format of a name. -/
def ofName? (text : String) : Option LogFormat :=
  [json, pretty].find? fun format => format.name = text

/-- An event as a line of the format. -/
def line : LogFormat → Event → String
  | json => Event.jsonLine
  | pretty => Event.prettyLine

end LogFormat

/-- The settings of a tracker; the timeout is in milliseconds. -/
structure Settings where
  jobId : JobId
  timeout : Nat
  logLevel : String
  logFormat : LogFormat
  deriving DecidableEq, Repr

namespace Settings

/-- The time that a call may take unless something else is set. -/
def defaultTimeout : Nat := 10000

/-- The level of the journal unless something else is set. -/
def defaultLogLevel : String := "info"

/-- The settings of a job without any variables. -/
def ofJob (jobId : JobId) : Settings := ⟨jobId, defaultTimeout, defaultLogLevel, .json⟩

end Settings

/-- A variable that settings are loaded from. -/
inductive Variable where
  | jobId
  | timeout
  | logLevel
  | logFormat
  deriving DecidableEq, Repr

namespace Variable

/-- The name of a variable. -/
def name : Variable → String
  | jobId => "SHOAL_JOB_ID"
  | timeout => "SHOAL_RPC_TIMEOUT_MS"
  | logLevel => "SHOAL_LOG_LEVEL"
  | logFormat => "SHOAL_LOG_FORMAT"

/-- All variables in the order in which they are looked up. -/
def all : List Variable := [jobId, timeout, logLevel, logFormat]

end Variable

/-- Why a text is no whole number below 2^64. -/
inductive CountError where
  | empty
  | badDigit
  | tooLarge
  deriving DecidableEq, Repr

/-- The wording of a bad number. -/
def CountError.message : CountError → String
  | empty => "cannot parse integer from empty string"
  | badDigit => "invalid digit found in string"
  | tooLarge => "number too large to fit in target type"

/-- Continue a number below 2^64 by decimal digits. -/
def readCountFrom (high : Nat) : List Char → Except CountError Nat
  | [] => .ok high
  | char :: rest =>
    if char.isDigit then
      let number := high * 10 + (char.toNat - '0'.toNat)
      if number < UInt64.size then readCountFrom number rest else .error .tooLarge
    else .error .badDigit

/-- Read a number below 2^64: decimal digits, with a plus sign in front or not. -/
def readCount (chars : List Char) : Except CountError Nat :=
  match chars with
  | [] => .error .empty
  | first :: rest =>
    if first = '+' then
      if rest.isEmpty then .error .badDigit else readCountFrom 0 rest
    else readCountFrom 0 chars

/-- What is wrong with a variable. -/
inductive SettingsError where
  | badJobId (raw : String) (cause : IdError)
  | badTimeout (raw : String) (cause : CountError)
  | zeroTimeout
  | badLogFormat (raw : String)
  deriving DecidableEq, Repr

namespace SettingsError

/-- The variable that is to blame. -/
def blamed : SettingsError → Variable
  | badJobId .. => .jobId
  | badTimeout .. | zeroTimeout => .timeout
  | badLogFormat _ => .logFormat

/-- The wording of the error and of what caused it, outermost first. -/
def chain : SettingsError → List String
  | badJobId raw cause => ["invalid " ++ Variable.jobId.name ++ " '" ++ raw ++ "'", cause.message]
  | badTimeout raw cause =>
    ["invalid " ++ Variable.timeout.name ++ " '" ++ raw ++ "'", cause.message]
  | zeroTimeout => [Variable.timeout.name ++ " must be greater than zero"]
  | badLogFormat raw =>
    ["invalid " ++ Variable.logFormat.name ++ " '" ++ raw ++ "', expected json or pretty"]

/-- The outermost wording. -/
def message (error : SettingsError) : String := error.chain.headD ""

end SettingsError

/-- The outcome of loading, and the variables that were looked up for it. -/
structure Loaded where
  asked : List Variable
  result : Except SettingsError Settings

namespace Settings

/-- The job, or a fresh one. -/
def readJobId (fresh : JobId) : Option String → Except SettingsError JobId
  | none => .ok fresh
  | some raw => (Id.parse .job raw).mapError (.badJobId raw)

/-- The timeout, or the default one. -/
def readTimeout : Option String → Except SettingsError Nat
  | none => .ok defaultTimeout
  | some raw =>
    match readCount raw.toList with
    | .error cause => .error (.badTimeout raw cause)
    | .ok 0 => .error .zeroTimeout
    | .ok (milliseconds + 1) => .ok (milliseconds + 1)

/-- The format of the journal, or the default one. -/
def readLogFormat : Option String → Except SettingsError LogFormat
  | none => .ok .json
  | some raw =>
    match LogFormat.ofName? raw with
    | some format => .ok format
    | none => .error (.badLogFormat raw)

/-- Load settings through a look-up by variable. The job is `fresh` if none is set. -/
def load (lookup : Variable → Option String) (fresh : JobId) : Loaded :=
  match readJobId fresh (lookup .jobId) with
  | .error error => ⟨[.jobId], .error error⟩
  | .ok jobId =>
    match readTimeout (lookup .timeout) with
    | .error error => ⟨[.jobId, .timeout], .error error⟩
    | .ok timeout =>
      let logLevel := (lookup .logLevel).getD defaultLogLevel
      match readLogFormat (lookup .logFormat) with
      | .error error => ⟨Variable.all, .error error⟩
      | .ok logFormat => ⟨Variable.all, .ok ⟨jobId, timeout, logLevel, logFormat⟩⟩

end Settings

end PartitionLedger
