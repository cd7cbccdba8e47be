import StatusPanel.Panel
import StatusPanel.Png.Reader
import StatusPanel.Png.Writer
import StatusPanel.Renderer

/-!
# Drawing one document

A document in a file is drawn into a picture file and, if that is asked for, packed into the pages
of a panel. The work is a plan of readings and writings; whoever carries it out supplies what is
read.
-/

namespace StatusPanel

/-- A plan of readings and writings, each with what follows its outcome. In the end the plan has
succeeded, or there is something to say. -/
inductive Plan where
  | done (result : Except String Unit)
  | read (path : String) (resume : Except String Bytes → Plan)
  | write (path : String) (contents : Bytes) (resume : Except String Unit → Plan)

/-- Carries out a plan. -/
def Plan.run (files : Files) : Plan → Except String Unit × Files
  | .done result => (result, files)
  | .read path resume => (resume ((files.read path).mapError FileFault.text)).run files
  | .write path contents resume =>
    match files.write path contents with
    | .ok files => (resume (.ok ())).run files
    | .error fault => (resume (.error fault.text)).run files

namespace OneShot

/-- The end of a plan that has failed. -/
def failed (fault : Fault) : Plan :=
  .done (.error fault.message)

/-- Writes a file and goes on. -/
def writing (path : String) (contents : Bytes) (next : Plan) : Plan :=
  .write path contents fun
    | .ok () => next
    | .error text => .done (.error s!"writing {path}: {text}")

/-- The pages of the panel that shows the picture of a file. -/
def pages (file : Bytes) : Except Fault Bytes := do
  let picture ← Png.read file
  (Panel.ofPicture picture).pages

/-- Writes the picture, and the pages that are made of its file after it. -/
def deliver (output : String) (packed : Option String) (picture : Picture) : Plan :=
  writing output (Png.write picture) <|
    match packed with
    | none => .done (.ok ())
    | some path =>
      match pages (Png.write picture) with
      | .ok bytes => writing path bytes (.done (.ok ()))
      | .error fault => failed fault

/-- Draws a document and delivers the picture. -/
def draw (output : String) (packed : Option String) (d : Document) (r : Renderer) (font : Font) :
    Plan :=
  match r.draw font d with
  | .ok picture => deliver output packed picture
  | .error fault => failed fault

/-- Makes a renderer and draws a document with it. -/
def render (settings : Settings) (output : String) (packed : Option String) (d : Document) : Plan :=
  match settings.validate with
  | .error fault => failed fault
  | .ok () =>
    .read settings.fontPath fun contents =>
      match Renderer.ofFile settings contents with
      | .error fault => failed fault
      | .ok (r, _) =>
        match r.fontNeed with
        | .ready font => draw output packed d r font
        | .file path => .read path fun contents =>
          match r.receive path contents with
          | .error fault => failed fault
          | .ok (font, r, _) => draw output packed d r font

/-- Draws the document in a file. -/
def plan (settings : Settings) (input output : String) (packed : Option String) : Plan :=
  .read input fun
    | .error text => .done (.error s!"reading {input}: {text}")
    | .ok payload =>
      match Document.read payload with
      | .error fault => .done (.error s!"decoding {input}: {fault.message}")
      | .ok d => render settings output packed d

end OneShot

end StatusPanel
