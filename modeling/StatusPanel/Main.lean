import StatusPanel.CommandLine.Reader
import StatusPanel.OneShot
import StatusPanel.Session.Basic

/-!
# The command

Serves a session on standard input and output, or draws one document into files. Whatever the
session or the plan asks for is done here, and nothing else.
-/

namespace StatusPanel.Main

/-- A failure as the operating system tells it. -/
def errorText : IO.Error → String
  | .noFileOrDirectory _ code details => s!"{details} (os error {code})"
  | .inappropriateType (some _) code details => s!"{details} (os error {code})"
  | .permissionDenied _ code details => s!"{details} (os error {code})"
  | e => toString e

/-- The outcome of an action, with the text of its failure. -/
def attempt {α : Type} (action : IO α) : IO (Except String α) := do
  match ← action.toBaseIO with
  | .ok value => return .ok value
  | .error e => return .error (errorText e)

def readFile (path : String) : IO (Except String Bytes) :=
  attempt (return (← IO.FS.readBinFile path).toList)

def writeFile (path : String) (contents : Bytes) : IO (Except String Unit) :=
  attempt (IO.FS.writeBinFile path ⟨contents.toArray⟩)

/-- Carries out a plan. -/
def carryOut : Plan → IO (Except String Unit)
  | .done result => return result
  | .read path resume => do carryOut (resume (← readFile path))
  | .write path contents resume => do carryOut (resume (← writeFile path contents))

/-- Reads at most so many bytes of the input. -/
def readInput (most : Nat) : IO Delivery := do
  match ← attempt (do (← IO.getStdin).read (.ofNat (min most 65536))) with
  | .ok piece => return if piece.isEmpty then .ended else .bytes piece.toList
  | .error text => return .failed text

/-- Tells the events that matter. -/
def tell (events : List Event) : IO Unit :=
  for e in events do
    if e.level = .warn then IO.eprintln e.line

/-- Gives the session what it needs until it has ended. -/
partial def converse (s : Session) : IO Session := do
  tell s.log
  let s := { s with log := [] }
  match s.next with
  | .go s => converse s
  | .read most resume => converse (resume (← readInput most))
  | .load path resume => converse (resume (← readFile path))
  | .write part resume =>
    let written ← attempt (do (← IO.getStdout).write ⟨part.toArray⟩)
    converse (resume (written.map fun () => part.length))
  | .flush resume => converse (resume (← attempt (do (← IO.getStdout).flush)))
  | .stop => return s

/-- Serves the requests of the input. -/
def serve (settings : Settings) : IO (Except String Unit) := do
  match Renderer.ofFile settings (← readFile settings.fontPath) with
  | .error fault => return .error (Session.failureText fault)
  | .ok (renderer, _) =>
    let s ← converse { renderer }
    match s.phase with
    | .closed (.error fault) => return .error (Session.failureText fault)
    | _ => return .ok ()

/-- What is said to those who ask how to use the command. -/
def usage : String :=
  "Usage: lcd-renderer [OPTIONS] [serve | render --input FILE --output FILE [--packed FILE]]\n" ++
  "Options: --font FILE, --font-size NUMBER, --width NUMBER, --height NUMBER,\n" ++
  "  --max-frame-bytes NUMBER, --reload-font, --on-error terminate|empty-frame"

/-- The exit status of a run. -/
def report (result : Except String Unit) : IO UInt32 := do
  match result with
  | .ok () => return 0
  | .error text =>
    IO.eprintln s!"lcd-renderer failed: {text}"
    return 1

end StatusPanel.Main

open StatusPanel StatusPanel.Main

def main (args : List String) : IO UInt32 := do
  match CommandLine.read args with
  | .help =>
    IO.println usage
    return 0
  | .version =>
    IO.println "lcd-renderer"
    return 0
  | .refused =>
    IO.eprintln usage
    return 2
  | .serve settings => report (← serve settings)
  | .render settings input output packed =>
    report (← carryOut (OneShot.plan settings input output packed))
