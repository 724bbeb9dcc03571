/-
# Journal output

A process prints the journal once the output has been set up, which can be done
only once. The filter in force is the one given from outside, if that is valid, and
otherwise the level of the settings. A set-up with a bad level fails and leaves the
output as it was.
-/

import PartitionLedger.Session
import PartitionLedger.Settings

namespace PartitionLedger

/-- The journal output of a process. -/
structure Output where
  filter : Filter
  format : LogFormat
  deriving DecidableEq, Repr

/-- Why the output could not be set up. -/
inductive OutputError where
  | badFilter (cause : FilterError)
  | alreadySet
  deriving DecidableEq, Repr

/-- The wording of a failed set-up. -/
def OutputError.message : OutputError → String
  | badFilter cause => cause.message
  | alreadySet => "a global default trace dispatcher has already been set"

namespace Output

/-- The filter in force, given an outer filter text that may be absent or invalid. -/
def chooseFilter (outer : Option String) (logLevel : String) : Except FilterError Filter :=
  match outer.map Filter.parse with
  | some (.ok filter) => .ok filter
  | _ => Filter.parse logLevel

/-- Set up the output of a process that may have one already. -/
def setUp (present : Option Output) (outer : Option String) (settings : Settings) :
    Except OutputError Output :=
  match chooseFilter outer settings.logLevel with
  | .error cause => .error (.badFilter cause)
  | .ok filter =>
    match present with
    | some _ => .error .alreadySet
    | none => .ok ⟨filter, settings.logFormat⟩

/-- The lines that a journal prints. -/
def lines (output : Output) (journal : List Entry) : List String :=
  (journal.filter fun entry => output.filter.passes entry.event).map fun entry =>
    output.format.line entry.event

end Output

end PartitionLedger
