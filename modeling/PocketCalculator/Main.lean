import PocketCalculator.Journal.Session

/-!
# The program's start

The program writes the record of its start to the journal, under the filter
that it is given.
-/

open PocketCalculator

/-- Starts the program.  The first argument, if there is one, is the filter of
the journal. -/
def main (arguments : List String) : IO Unit := do
  let filter := Filter.read (arguments.head?.map String.toList)
  for line in startLog filter do
    IO.println (String.ofList line)
