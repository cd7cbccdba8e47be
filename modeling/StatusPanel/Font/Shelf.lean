import StatusPanel.Event
import StatusPanel.Files
import StatusPanel.Font.Basic

/-!
# Font shelves

Fonts are read from files once and kept by their paths. A shelf that reloads reads them again each
time they are wanted, so that a font can be exchanged while the program runs.
-/

namespace StatusPanel

/-- A font with the path that it was read from. -/
structure ShelvedFont where
  font : Font
  path : String

/-- The font in a file that was read, or the fault of reading it. -/
def ShelvedFont.ofFile (path : String) (contents : Except String Bytes) :
    Except Fault ShelvedFont :=
  match contents with
  | .error text => .error (.font s!"Failed to read font {path}: {text}")
  | .ok bytes =>
    match Font.read? bytes.toArray with
    | some font => .ok ⟨font, path⟩
    | none => .error (.font s!"{Font.unreadable} ({path})")

/-- The fonts read so far. -/
structure Shelf where
  reloads : Bool
  fonts : List (List String × ShelvedFont) := []

namespace Shelf

/-- The font of a path, if no file has to be read for it. -/
def ready? (s : Shelf) (path : String) : Option ShelvedFont :=
  if s.reloads then none else s.fonts.lookup (Path.components path)

/-- The font in a file that was read for a path, the shelf with it, and what there is to tell. -/
def receive (s : Shelf) (path : String) (contents : Except String Bytes) :
    Except Fault (ShelvedFont × Shelf × Event) :=
  (ShelvedFont.ofFile path contents).map fun font =>
    (font, { s with fonts := (Path.components path, font) :: s.fonts },
      if s.reloads then .reloaded path else .loaded path)

/-- The font of a path, from the shelf or from its file. -/
def load (s : Shelf) (files : Files) (path : String) :
    Except Fault ShelvedFont × Shelf × List Event :=
  match s.ready? path with
  | some font => (.ok font, s, [])
  | none =>
    match s.receive path ((files.read path).mapError FileFault.text) with
    | .ok (font, s, event) => (.ok font, s, [event])
    | .error fault => (.error fault, s, [])

end Shelf

end StatusPanel
