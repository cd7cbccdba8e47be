import StatusPanel.CommandLine.Number
import StatusPanel.Settings

/-!
# Options

The options of the command line. Those that concern the renderer may stand before or after the name
of a command; each may be given once on either side, and the one after the name counts.
-/

namespace StatusPanel.CommandLine

/-- Where on the command line an option stands. -/
inductive Level where
  | outside
  | serve
  | render
  deriving DecidableEq

/-- An option. -/
inductive Parameter where
  | font
  | fontSize
  | width
  | height
  | maxFrame
  | reloadFont
  | onError
  | input
  | output
  | packed
  | help
  | version
  deriving DecidableEq

namespace Parameter

/-- The option of a name. -/
def ofName? (level : Level) (name : String) : Option Parameter :=
  match name with
  | "font" => some .font
  | "font-size" => some .fontSize
  | "width" => some .width
  | "height" => some .height
  | "max-frame-bytes" => some .maxFrame
  | "reload-font" => some .reloadFont
  | "on-error" => some .onError
  | "help" => some .help
  | "version" => if level = .outside then some .version else none
  | "input" => if level = .render then some .input else none
  | "output" => if level = .render then some .output else none
  | "packed" => if level = .render then some .packed else none
  | _ => none

/-- The option of a letter. -/
def ofLetter? (level : Level) (letter : Char) : Option Parameter :=
  match letter with
  | 'h' => some .help
  | 'V' => if level = .outside then some .version else none
  | 'i' => if level = .render then some .input else none
  | 'o' => if level = .render then some .output else none
  | _ => none

/-- Does the option come with a value? -/
def takesValue : Parameter → Bool
  | .reloadFont => false
  | .help => false
  | .version => false
  | _ => true

end Parameter

/-- What was chosen on one side of the name of a command. -/
structure Choices where
  font : Option String := none
  fontSize : Option Single := none
  width : Option Nat := none
  height : Option Nat := none
  maxFrame : Option Nat := none
  reloadFont : Option Unit := none
  policy : Option FailurePolicy := none
  input : Option String := none
  output : Option String := none
  packed : Option String := none

namespace Choices

/-- The policy of a name. -/
def policy? (name : String) : Option FailurePolicy :=
  match name with
  | "terminate" => some .terminate
  | "empty-frame" => some .emptyFrame
  | _ => none

/-- A path; there is no empty one. -/
def path? (text : String) : Option String :=
  if text.isEmpty then none else some text

/-- Chooses a value that can be read, unless one was chosen already. -/
def fresh {α : Type} (old new : Option α) : Option (Option α) :=
  if old.isSome || new.isNone then none else some new

/-- Gives an option its value. -/
def set (c : Choices) (p : Parameter) (value : String) : Option Choices :=
  match p with
  | .font => (fresh c.font (path? value)).map fun font => { c with font }
  | .fontSize => (fresh c.fontSize (single? value)).map fun fontSize => { c with fontSize }
  | .width => (fresh c.width (whole? (1 <<< 32) value)).map fun width => { c with width }
  | .height => (fresh c.height (whole? (1 <<< 32) value)).map fun height => { c with height }
  | .maxFrame =>
    (fresh c.maxFrame (natural? (1 <<< 64) value)).map fun maxFrame => { c with maxFrame }
  | .reloadFont => (fresh c.reloadFont (some ())).map fun reloadFont => { c with reloadFont }
  | .onError => (fresh c.policy (policy? value)).map fun policy => { c with policy }
  | .input => (fresh c.input (path? value)).map fun input => { c with input }
  | .output => (fresh c.output (path? value)).map fun output => { c with output }
  | .packed => (fresh c.packed (path? value)).map fun packed => { c with packed }
  | .help => some c
  | .version => some c

/-- The settings chosen, the second choices counting before the first ones. -/
def settings (outer inner : Choices) : Settings :=
  let d : Settings := {}
  { width := (inner.width <|> outer.width).getD d.width
    height := (inner.height <|> outer.height).getD d.height
    fontPath := (inner.font <|> outer.font).getD d.fontPath
    fontSize := (inner.fontSize <|> outer.fontSize).getD d.fontSize
    maxFrame := (inner.maxFrame <|> outer.maxFrame).getD d.maxFrame
    reloadFont := (inner.reloadFont <|> outer.reloadFont).isSome
    policy := (inner.policy <|> outer.policy).getD d.policy }

end Choices

end StatusPanel.CommandLine
