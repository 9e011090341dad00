import FacetSearch.CommandLine
/-!
# The program

Arguments, environment and files go in, texts and an exit code come out. The program has no
network of its own: when it comes to listening, every address fails to bind.
-/

namespace FacetSearch

/-- The text of a file, if it can be read. -/
def readText (path : String) : IO (Option String) := do
  match ← (IO.FS.readFile path).toBaseIO with
  | .ok text => return some text
  | .error _ => return none

/-- The text of the first file that exists among the candidates, if it is one to be read. -/
def findFile : List String → IO (Option String)
  | [] => return none
  | path :: rest => do
    match ← readText path with
    | some text => return if CommandLine.isReadable path then some text else none
    | none => findFile rest

/-- The variables of the environment of this process. -/
def readEnvironment : IO (List (String × String)) := do
  let text := (← readText "/proc/self/environ").getD ""
  return (text.splitToList (· = '\x00')).filterMap fun entry =>
    (Text.cut? ['='] entry.toList).map fun (name, value) =>
      (String.ofList name, String.ofList value)

/-- Run the program and give its exit code. -/
def program (arguments : List String) : IO UInt32 := do
  let environment ← readEnvironment
  let file ← match CommandLine.configPath? arguments environment with
    | some path => findFile (CommandLine.candidates path)
    | none => pure none
  let outcome := match CommandLine.start arguments environment file with
    | .stop outcome => outcome
    | .listen address _ _ => CommandLine.bindFailure address
  IO.print outcome.output
  IO.eprint outcome.errors
  return outcome.code.toUInt32

end FacetSearch

def main (arguments : List String) : IO UInt32 := FacetSearch.program arguments
