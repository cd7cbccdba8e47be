import StatusPanel.Fault

/-!
# Resolving references

A widget's value has to be there and of the kind that the widget can show.
-/

namespace StatusPanel

/-- A widget with what it shows. -/
inductive Resolved where
  | label (label : Label) (text : String)
  | gauge (gauge : Gauge) (progress : Double)

namespace Document

/-- The text of the given name. -/
def text (d : Document) (key : String) : Except Fault String :=
  match d.value? key with
  | none => .error (.unresolved key .string)
  | some (.string s) => .ok s
  | some v => .error (.mismatched key .string v.kind)

/-- The number of the given name. -/
def number (d : Document) (key : String) : Except Fault Double :=
  match d.value? key with
  | none => .error (.unresolved key .number)
  | some (.number x) => .ok x
  | some v => .error (.mismatched key .number v.kind)

/-- A widget with its value. -/
def resolve (d : Document) : Widget → Except Fault Resolved
  | .label l => (d.text l.key).map (.label l)
  | .gauge g => (d.number g.key).map (.gauge g)

/-- All widgets with their values, or the fault of the first one without. -/
def resolveAll (d : Document) : Except Fault (List Resolved) :=
  d.widgets.mapM d.resolve

end Document

end StatusPanel
