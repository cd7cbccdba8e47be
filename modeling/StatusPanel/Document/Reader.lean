import StatusPanel.Fault
import StatusPanel.Json.Skipped

/-!
# Reading documents

A document is an object with a list `layout` of widgets and an optional object `values`, or the
list of the two. Its parts are checked as they are read, so the first fault in the text decides. A
widget, though, is read to its end before its fields are looked at, all but its `type`.
-/

namespace StatusPanel

open Json (Read Rest)

/-- A fault for a value that begins at the front of `s`, its blanks already dropped: not what was
expected, unless it is not even a value. -/
def Json.unexpected {α : Type} (expected : String) (s : Bytes) : Read α s :=
  match s with
  | [] => .error .unfinishedValue
  | b :: t =>
    if b = 0x5b then .error (.wrongType .sequence expected)
    else if b = 0x7b then .error (.wrongType .map expected)
    else (Json.readScalar (b :: t)).check fun v => .error (.wrongType v.found expected)

/-- Reads what begins with the byte `first`; anything else is not what was expected. -/
def Json.startingWith {α : Type} (first : UInt8) (expected : String)
    (read : (s : Bytes) → Read α s) : (s : Bytes) → Read α s :=
  Json.onFirst fun b t =>
    if b = first then (read t).afterByte else Json.unexpected expected (b :: t)

/-! ## Pairs of coordinates -/

/-- A coordinate. -/
def coordinate : Json → Except Json.Fault Single
  | .number n => .ok n.toFloating
  | v => .error (.wrongType v.found "f32")

/-- Two coordinates. -/
def coordinates : Json → Except Json.Fault (Single × Single)
  | .array [] => .error (.wrongLength 0 "an array of length 2")
  | .array [a] => do
    let _ ← coordinate a
    .error (.wrongLength 1 "an array of length 2")
  | .array (a :: b :: more) => do
    let x ← coordinate a
    let y ← coordinate b
    if more.isEmpty then .ok (x, y)
    else .error (.wrongLength (more.length + 2) "2 elements in sequence")
  | v => .error (.wrongType v.found "an array of length 2")

/-- Reads a coordinate. -/
def readCoordinate : (s : Bytes) → Read Single s :=
  Json.onFirst fun b t =>
    if b = 0x2d then ((Json.readUnsigned true t).map (·.toFloating)).afterByte
    else if Json.isDigit b then (Json.readUnsigned false (b :: t)).map (·.toFloating)
    else Json.unexpected "f32" (b :: t)

/-- Reads two coordinates, the opening bracket already read. -/
def readCoordinateList (s : Bytes) : Read (Single × Single) s :=
  match Json.firstElement s with
  | .error e => .error e
  | .ok (.close _) => .error (.wrongLength 0 "an array of length 2")
  | .ok (.part t ht) =>
    Read.widen ht <| (readCoordinate t).andThen fun x r =>
      match Json.nextElement r with
      | .error e => .error e
      | .ok (.close _) => .error (.wrongLength 1 "an array of length 2")
      | .ok (.part u hu) =>
        Read.widen hu <| (readCoordinate u).andThen fun y r =>
          (Json.endList r).map fun rest => ((x, y), rest)

/-- Reads a text that is a pair of coordinates. -/
def readCoordinates (s : Bytes) : Except Json.Fault (Single × Single) :=
  Json.finish (Json.startingWith 0x5b "an array of length 2" readCoordinateList s)

/-! ## Widgets -/

/-- The types of widget. -/
inductive WidgetType where
  | label
  | gauge

namespace WidgetType

/-- The names of a widget's fields, in the order of its list form. -/
def fields : WidgetType → List String
  | .label => ["origin", "size", "center", "invert", "value"]
  | .gauge => ["origin", "size", "value"]

/-- What a list form that is too short should have been. -/
def expected : WidgetType → String
  | .label => "struct TextSpec with 5 elements"
  | .gauge => "struct ProgressBarSpec with 3 elements"

/-- The type of a name. -/
def ofName (name : String) : Except Json.Fault WidgetType :=
  if name = "text" then .ok .label
  else if name = "progressbar" then .ok .gauge
  else .error (.unknownVariant name ["text", "progressbar"])

end WidgetType

namespace Widget

/-- The fields of a widget found so far. -/
structure Draft where
  origin : Option Point := none
  size : Option Size := none
  center : Option Bool := none
  invert : Option Bool := none
  value : Option String := none

namespace Draft

/-- A flag. -/
def flag : Json → Except Json.Fault Bool
  | .boolean b => .ok b
  | v => .error (.wrongType v.found "a boolean")

/-- A name. -/
def name : Json → Except Json.Fault String
  | .string s => .ok s
  | v => .error (.wrongType v.found "a string")

/-- A field that is given a value, unless it has one. -/
def once {α : Type} (field : String) (old : Option α) (new : Except Json.Fault α) :
    Except Json.Fault (Option α) :=
  if old.isSome then .error (.duplicateField field) else new.map some

/-- Takes in a member. Members that are no fields of the type are passed over. -/
def add (type : WidgetType) (d : Draft) (field : String) (v : Json) : Except Json.Fault Draft :=
  if field ∉ type.fields then .ok d
  else if field = "origin" then
    (once field d.origin ((coordinates v).map fun (x, y) => ⟨x, y⟩)).map ({ d with origin := · })
  else if field = "size" then
    (once field d.size ((coordinates v).map fun (x, y) => ⟨x, y⟩)).map ({ d with size := · })
  else if field = "center" then
    (once field d.center (flag v)).map ({ d with center := · })
  else if field = "invert" then
    (once field d.invert (flag v)).map ({ d with invert := · })
  else
    (once field d.value (name v)).map ({ d with value := · })

/-- Takes in members in order. -/
def ofMembers (type : WidgetType) (members : List (String × Json)) : Except Json.Fault Draft :=
  members.foldlM (fun (d : Draft) (m : String × Json) => d.add type m.1 m.2) {}

/-- The widget, once all its fields are in. -/
def finish (type : WidgetType) (d : Draft) : Except Json.Fault Widget :=
  match d.origin, d.value with
  | none, _ => .error (.missingField "origin")
  | _, none => .error (.missingField "value")
  | some origin, some key =>
    let size := d.size.getD {}
    match type with
    | .label =>
      .ok (.label { origin, size, centered := d.center.getD false, inverted := d.invert.getD false,
                    key })
    | .gauge => .ok (.gauge { origin, size, key })

end Draft

/-- The widget with the given members. -/
def ofMembers (type : WidgetType) (members : List (String × Json)) : Except Json.Fault Widget := do
  let draft ← Draft.ofMembers type members
  draft.finish type

/-- The widget with the given fields in order. -/
def ofItems (type : WidgetType) (items : List Json) : Except Json.Fault Widget := do
  let count := type.fields.length
  let draft ← Draft.ofMembers type (type.fields.zip items)
  if items.isEmpty then .error (.wrongLength 0 type.expected)
  else if items.length < count then .error (.wrongLength (count - 1) type.expected)
  else if items.length > count then
    .error (.wrongLength items.length s!"{count} elements in sequence")
  else draft.finish type

/-- Reads the name of a type. -/
def readType (s : Bytes) : Read WidgetType s :=
  Json.startingWith 0x22 "variant identifier"
    (fun t => (Json.readString t).check WidgetType.ofName) s

/-- The brackets that may stand in a member of a widget: a widget stands inside three. -/
def levels : Nat := Json.maxLevels - 3

/-- Reads a member of a widget, given the type and the members before it, the last one first. -/
def readMember (state : Option WidgetType × List (String × Json)) (key : String) (s : Bytes) :
    Read (Option WidgetType × List (String × Json)) s :=
  if key = "type" then
    if state.1.isSome then .error (.duplicateField "type")
    else (Json.afterColon readType s).map fun type => (some type, state.2)
  else
    (Json.afterColon (Json.readValue levels) s).map fun v => (state.1, (key, v) :: state.2)

/-- Reads an item of a widget's list form. The first one is the type. -/
def readItem (state : Option WidgetType × List Json) (s : Bytes) :
    Read (Option WidgetType × List Json) s :=
  if state.1.isNone then (readType s).map fun type => (some type, state.2)
  else (Json.readValue levels s).map fun v => (state.1, v :: state.2)

/-- Reads a widget. -/
def read : (s : Bytes) → Read Widget s :=
  Json.onFirst fun b t =>
    if b = 0x7b then
      Read.afterByte <| (Json.foldMembers readMember (none, []) t).check fun
        | (none, _) => .error (.missingField "type")
        | (some type, members) => ofMembers type members.reverse
    else if b = 0x5b then
      Read.afterByte <| (Json.foldElements readItem (none, []) t).check fun
        | (none, _) => .error (.missingField "type")
        | (some type, items) => ofItems type items.reverse
    else Json.unexpected "internally tagged enum WidgetSpec" (b :: t)

end Widget

/-! ## Values -/

/-- The value that a JSON value stands for. -/
def Value.ofJson : Json → Except Json.Fault Value
  | .string s => .ok (.string s)
  | .number n => .ok (.number n.toFloating)
  | .boolean b => .ok (.boolean b)
  | _ => .error (.noVariant "Value")

/-! ## Documents -/

namespace Document

/-- Reads the widgets. -/
def readLayout : (s : Bytes) → Read (List Widget) s :=
  Json.startingWith 0x5b "a sequence" fun t =>
    (Json.foldElements (fun widgets u => (Widget.read u).map (· :: widgets)) [] t).map List.reverse

/-- Reads the values. A later value takes the place of an earlier one of the same name. -/
def readValues : (s : Bytes) → Read (List (String × Value)) s :=
  Json.startingWith 0x7b "a map" fun t =>
    Json.foldMembers (fun values key u =>
      ((Json.afterColon (Json.readValue (Json.maxLevels - 2)) u).check Value.ofJson).map
        (insertValue values key)) [] t

/-- The members of a document found so far. -/
structure Draft where
  layout : Option (List Widget) := none
  values : Option (List (String × Value)) := none

/-- Reads a member of a document. -/
def readMember (d : Draft) (key : String) (s : Bytes) : Read Draft s :=
  if key = "layout" then
    if d.layout.isSome then .error (.duplicateField "layout")
    else (Json.afterColon readLayout s).map fun layout => { d with layout := some layout }
  else if key = "values" then
    if d.values.isSome then .error (.duplicateField "values")
    else (Json.afterColon readValues s).map fun values => { d with values := some values }
  else (Json.afterColon Json.skip s).map fun _ => d

/-- The document, once all its members are in. -/
def Draft.finish (d : Draft) : Except Json.Fault Document :=
  match d.layout with
  | none => .error (.missingField "layout")
  | some widgets => .ok { widgets, values := d.values.getD [] }

/-- Reads the list form of a document, the opening bracket already read. -/
def readItems (s : Bytes) : Read Document s :=
  match Json.firstElement s with
  | .error e => .error e
  | .ok (.close _) => .error (.wrongLength 0 "struct LayoutDocument with 2 elements")
  | .ok (.part t ht) =>
    Read.widen ht <| (readLayout t).andThen fun widgets r =>
      match Json.nextElement r with
      | .error e => .error e
      | .ok (.close rest) => .ok ({ widgets }, rest)
      | .ok (.part u hu) =>
        Read.widen hu <| (readValues u).andThen fun values v =>
          (Json.endList v).map fun rest => ({ widgets, values }, rest)

/-- Reads a document at the front of `s`. -/
def readFront : (s : Bytes) → Read Document s :=
  Json.onFirst fun b t =>
    if b = 0x7b then ((Json.foldMembers readMember {} t).check Draft.finish).afterByte
    else if b = 0x5b then (readItems t).afterByte
    else Json.unexpected "struct LayoutDocument" (b :: t)

/-- Reads a text that is a document. -/
def read? (s : Bytes) : Except Json.Fault Document :=
  Json.finish (readFront s)

/-- Reads a payload. -/
def read (payload : Bytes) : Except Fault Document :=
  (read? payload).mapError fun e => .document e.message

end Document

end StatusPanel
