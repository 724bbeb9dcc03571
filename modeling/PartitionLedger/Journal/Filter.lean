/-
# Journal filters

A filter is a list of directives between commas. Of the directives that are about an
event the most specific one counts, and of equally specific ones the last; the event
passes if that directive allows its verbosity. Without any directive only errors pass.
-/

import PartitionLedger.Journal.Directive

namespace PartitionLedger

/-- A filter by directives. -/
structure Filter where
  directives : List Directive
  deriving DecidableEq, Repr

namespace Filter

/-- The pieces of a text between commas. -/
def pieces : List Char → List (List Char)
  | [] => [[]]
  | char :: rest =>
    if char = ',' then [] :: pieces rest
    else match pieces rest with
      | [] => [[char]]
      | piece :: later => (char :: piece) :: later

/-- Read a filter; empty pieces are ignored, and the first bad directive decides. -/
def parse (text : String) : Except FilterError Filter := do
  let directives ← ((pieces text.toList).filter (!·.isEmpty)).mapM Directive.read
  return ⟨directives⟩

/-- The directive that counts for an event. -/
def directiveFor? (filter : Filter) (event : Event) : Option Directive :=
  filter.directives.foldl
    (fun best directive =>
      if directive.appliesTo event && best.all (Directive.noMoreSpecific · directive) then
        some directive
      else best)
    none

/-- The event passes the filter. -/
def passes (filter : Filter) (event : Event) : Bool :=
  match filter.directives with
  | [] => event.level.verbosity ≤ Level.error.verbosity
  | _ =>
    match filter.directiveFor? event with
    | some directive => event.level.verbosity ≤ directive.verbosity
    | none => false

end Filter

end PartitionLedger
