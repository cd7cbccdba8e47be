import StatusPanel.Geometry

/-!
# Panel documents

A document is a list of widgets, painted in order at places of their own, and a bag of named
values that the widgets show. A name has at most one value.
-/

namespace StatusPanel

/-- The kinds of value. -/
inductive Kind where
  | string
  | number
  | boolean
  deriving DecidableEq

/-- The kind's name. -/
def Kind.name : Kind → String
  | .string => "string"
  | .number => "number"
  | .boolean => "boolean"

/-- A value that a widget may show. -/
inductive Value where
  | string (text : String)
  | number (value : Double)
  | boolean (value : Bool)
  deriving DecidableEq

def Value.kind : Value → Kind
  | .string _ => .string
  | .number _ => .number
  | .boolean _ => .boolean

/-- A line of text. A zero in `size` stands for the size of the text. -/
structure Label where
  origin : Point
  size : Size := {}
  centered : Bool := false
  inverted : Bool := false
  key : String
  deriving DecidableEq

/-- A bar that shows how much is left of something. -/
structure Gauge where
  origin : Point
  size : Size := {}
  key : String
  deriving DecidableEq

/-- What a document places on the panel. -/
inductive Widget where
  | label (label : Label)
  | gauge (gauge : Gauge)
  deriving DecidableEq

/-- The name of the value that the widget shows. -/
def Widget.key : Widget → String
  | .label l => l.key
  | .gauge g => g.key

/-- The kind of value that the widget can show. -/
def Widget.kind : Widget → Kind
  | .label _ => .string
  | .gauge _ => .number

/-- A widget list and the values it refers to. -/
structure Document where
  widgets : List Widget := []
  values : List (String × Value) := []
  deriving DecidableEq

namespace Document

/-- Gives `key` the value `v`, in place of any it had. -/
def insertValue (values : List (String × Value)) (key : String) (v : Value) :
    List (String × Value) :=
  values.filter (·.1 ≠ key) ++ [(key, v)]

/-- The value of a name. -/
def value? (d : Document) (key : String) : Option Value :=
  d.values.lookup key

theorem lookup_insertValue (values : List (String × Value)) (key other : String) (v : Value) :
    (insertValue values key v).lookup other =
      if other = key then some v else values.lookup other := by
  induction values with
  | nil =>
    by_cases h : other = key
    · simp [insertValue, h]
    · have hb : (other == key) = false := by simpa using h
      simp [insertValue, List.lookup_cons, h, hb]
  | cons p rest ih =>
    obtain ⟨k, w⟩ := p
    simp only [insertValue] at ih ⊢
    by_cases hk : k = key
    · subst hk
      rw [List.filter_cons_of_neg (by simp), ih, List.lookup_cons]
      by_cases h : other = k
      · simp [h]
      · have hb : (other == k) = false := by simpa using h
        simp [h, hb]
    · rw [List.filter_cons_of_pos (by simpa using hk), List.cons_append, List.lookup_cons,
        List.lookup_cons, ih]
      by_cases h : other = k
      · subst h
        simp [hk]
      · have hb : (other == k) = false := by simpa using h
        simp [hb]

end Document

end StatusPanel
