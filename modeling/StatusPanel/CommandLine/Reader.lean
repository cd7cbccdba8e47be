import StatusPanel.CommandLine.Choices

/-!
# Reading the command line

Arguments are read from left to right. An option's value is looked at when the next option begins,
so what an argument asks for may come before the fault of the one in front of it.
-/

namespace StatusPanel.CommandLine

/-- What the command line asks for. -/
inductive Command where
  | help
  | version
  /-- It cannot be understood. -/
  | refused
  /-- To answer requests. -/
  | serve (settings : Settings)
  /-- To draw one document into files. -/
  | render (settings : Settings) (input output : String) (packed : Option String)

/-- What has been read at a level: the choices, and an option that was named last, with its value
once it is there. -/
structure Reading where
  level : Level
  choices : Choices := {}
  pending : Option (Parameter × Option String) := none

namespace Reading

/-- Gives the option that was named last its value. -/
def settle (r : Reading) : Except Command Reading :=
  match r.pending with
  | none => .ok r
  | some (_, none) => .error .refused
  | some (p, some value) =>
    match r.choices.set p value with
    | some choices => .ok { r with choices, pending := none }
    | none => .error .refused

/-- Is the next argument the value of an option? -/
def awaitsValue (r : Reading) : Bool :=
  r.pending.any fun (_, value) => value.isNone

/-- Takes an option, with a value if one is attached to it. -/
def take (r : Reading) (p : Parameter) (attached : Option String) : Except Command Reading := do
  let r ← r.settle
  match p with
  | .help => .error .help
  | .version => .error .version
  | p =>
    match attached with
    | some value => settle { r with pending := some (p, some value) }
    | none =>
      if p.takesValue then .ok { r with pending := some (p, none) }
      else settle { r with pending := some (p, some "") }

/-- Takes an option that is named by a word, which may go on with a value after an equals sign. -/
def takeWord (r : Reading) (word : List Char) : Except Command Reading :=
  let name := String.ofList (word.takeWhile (· ≠ '='))
  let attached :=
    match word.dropWhile (· ≠ '=') with
    | [] => none
    | _ :: value => some (String.ofList value)
  match Parameter.ofName? r.level name with
  | none => .error .refused
  | some p => if attached.isSome && !p.takesValue then .error .refused else r.take p attached

/-- Takes an option that is named by a letter, which may go on with a value. -/
def takeLetter (r : Reading) (letter : Char) (rest : List Char) : Except Command Reading :=
  match Parameter.ofLetter? r.level letter with
  | none => .error .refused
  | some p =>
    match rest with
    | [] => r.take p none
    | '=' :: value => r.take p (some (String.ofList value))
    | value => r.take p (some (String.ofList value))

/-- Takes an argument that begins with a hyphen. -/
def takeOption (r : Reading) (arg : List Char) : Except Command Reading :=
  if r.awaitsValue then .error .refused
  else
    match arg with
    | '-' :: '-' :: word => r.takeWord word
    | '-' :: letter :: rest => r.takeLetter letter rest
    | _ => .error .refused

/-- Does an argument name an option? A lone hyphen does not. -/
def isOption (arg : List Char) : Bool :=
  match arg with
  | '-' :: _ :: _ => true
  | _ => false

end Reading

/-- The commands that are explained when their names follow a request for help. -/
def commandNames : List String :=
  ["serve", "render", "help"]

/-- Reads the arguments after the name of a command. -/
def readInside (r : Reading) : List String → Except Command Choices
  | [] => r.settle.map Reading.choices
  | arg :: rest =>
    if arg = "--" then
      if rest.isEmpty then r.settle.map Reading.choices else .error .refused
    else if Reading.isOption arg.toList then
      match r.takeOption arg.toList with
      | .ok r => readInside r rest
      | .error c => .error c
    else
      match r.pending with
      | some (p, none) => readInside { r with pending := some (p, some arg) } rest
      | _ => .error .refused

/-- Reads the arguments of a command, `outside` being what stood before its name. -/
def readCommand (outside : Reading) (level : Level) (args : List String) :
    Except Command Command := do
  let inner ← readInside { level } args
  match level with
  | .render =>
    match inner.input, inner.output with
    | some input, some output =>
      let outer ← outside.settle
      return .render (outer.choices.settings inner) input output inner.packed
    | _, _ => .error .refused
  | _ =>
    let outer ← outside.settle
    return .serve (outer.choices.settings inner)

/-- Reads the arguments up to the name of a command, and those after it. -/
def readOutside (r : Reading) : List String → Except Command Command
  | [] => r.settle.map fun r => .serve (r.choices.settings {})
  | arg :: rest =>
    if arg = "--" then
      if rest.isEmpty then r.settle.map fun r => .serve (r.choices.settings {})
      else .error .refused
    else if Reading.isOption arg.toList then
      match r.takeOption arg.toList with
      | .ok r => readOutside r rest
      | .error c => .error c
    else
      match r.pending with
      | some (p, none) => readOutside { r with pending := some (p, some arg) } rest
      | _ =>
        match arg with
        | "serve" => readCommand r .serve rest
        | "render" => readCommand r .render rest
        | "help" =>
          match rest with
          | [] => .error .help
          | [name] => .error (if name ∈ commandNames then .help else .refused)
          | _ => .error .refused
        | _ => .error .refused

/-- What the arguments ask for. -/
def read (args : List String) : Command :=
  match readOutside { level := .outside } args with
  | .ok c => c
  | .error c => c

end StatusPanel.CommandLine
