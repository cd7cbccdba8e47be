import Mathlib.Tactic.Tauto
import Mathlib.Tactic.MkIffOfInductiveProp
import StatusPanel.Proofs.DocumentReading

/-!
# The schema of widgets

Which objects are widgets, and which widget each of them is, told from the members of an object by
their names. Members of other names do not matter, and neither does the order of the members. Main
statements: an object stands for the widget that its members say
(`Widget.ofJson?_object_eq_some_iff`), and there is one if and only if the object conforms to the
schema (`Widget.exists_saidBy_iff`).
-/

namespace StatusPanel

theorem bind_eq_ok_iff {ε α β : Type} {x : Except ε α} {f : α → Except ε β} {b : β} :
    x >>= f = .ok b ↔ ∃ a, x = .ok a ∧ f a = .ok b := by
  cases x <;> simp [bind, Except.bind]

theorem toOption_eq_some_iff {ε α : Type} {x : Except ε α} {a : α} :
    x.toOption = some a ↔ x = .ok a := by
  cases x <;> simp [Except.toOption]

namespace Json

variable {α : Type}

/-! ## Members of a name -/

/-- The values of the members of a name, in order. -/
def named (members : List (String × Json)) (name : String) : List Json :=
  (members.filter (·.1 = name)).map (·.2)

@[simp] theorem named_nil (name : String) : named [] name = [] := rfl

theorem named_cons (key : String) (v : Json) (rest : List (String × Json)) (name : String) :
    named ((key, v) :: rest) name =
      if key = name then v :: named rest name else named rest name := by
  by_cases h : key = name <;> simp [named, h]

@[simp] theorem named_cons_self (name : String) (v : Json) (rest : List (String × Json)) :
    named ((name, v) :: rest) name = v :: named rest name := by
  simp [named_cons]

theorem named_cons_of_ne {key name : String} (h : key ≠ name) (v : Json)
    (rest : List (String × Json)) : named ((key, v) :: rest) name = named rest name := by
  simp [named_cons, h]

theorem named_filter_ne {members : List (String × Json)} {name other : String} (h : name ≠ other) :
    named (members.filter (·.1 ≠ other)) name = named members name := by
  unfold named
  rw [List.filter_filter]
  congr 1
  refine List.filter_congr fun m _ => ?_
  by_cases hm : m.1 = name
  · simp [hm, h]
  · simp [hm]

/-- A number, rounded once to the 32-bit format. -/
inductive Number.RoundsTo : Number → Single → Prop
  | whole (n : Int) : RoundsTo (.whole n) (.ofInt n)
  | real (x : Double) : RoundsTo (.real x) x.convert

theorem Number.roundsTo (n : Number) : n.RoundsTo n.toFloating := by
  cases n with
  | whole n => exact .whole n
  | real x => exact .real x

theorem Number.roundsTo_iff {n : Number} {x : Single} : n.RoundsTo x ↔ x = n.toFloating := by
  constructor
  · rintro (n | x) <;> rfl
  · rintro rfl
    exact n.roundsTo

/-- The values are one list of two numbers, which round to `x` and `y`. -/
def IsPair (values : List Json) (x y : Single) : Prop :=
  ∃ m n, values = [.array [.number m, .number n]] ∧ Number.RoundsTo m x ∧ Number.RoundsTo n y

/-- The values are one boolean, or there is none and the flag is off. -/
def IsFlag (values : List Json) (b : Bool) : Prop :=
  values = [] ∧ b = false ∨ values = [.boolean b]

/-- The values are one pair, or there is none and the size is `(0, 0)`. -/
def IsSize (values : List Json) (size : Size) : Prop :=
  values = [] ∧ size = ⟨0, 0⟩ ∨ IsPair values size.width size.height

theorem exists_isFlag_iff {values : List Json} :
    (∃ b, IsFlag values b) ↔ values = [] ∨ ∃ b, values = [.boolean b] := by
  constructor
  · rintro ⟨b, ⟨hnone, -⟩ | hv⟩
    · exact .inl hnone
    · exact .inr ⟨b, hv⟩
  · rintro (hnone | ⟨b, hv⟩)
    · exact ⟨false, .inl ⟨hnone, rfl⟩⟩
    · exact ⟨b, .inr hv⟩

theorem exists_isSize_iff {values : List Json} :
    (∃ size, IsSize values size) ↔
      values = [] ∨ ∃ m n, values = [.array [.number m, .number n]] := by
  constructor
  · rintro ⟨size, ⟨hnone, -⟩ | ⟨m, n, hv, -⟩⟩
    · exact .inl hnone
    · exact .inr ⟨m, n, hv⟩
  · rintro (hnone | ⟨m, n, hv⟩)
    · exact ⟨_, .inl ⟨hnone, rfl⟩⟩
    · exact ⟨⟨m.toFloating, n.toFloating⟩, .inr ⟨m, n, hv, m.roundsTo, n.roundsTo⟩⟩

end Json

/-! ## The schema -/

open Json (named)

/-- The objects that are widgets. -/
structure Widget.Conforms (members : List (String × Json)) : Prop where
  type : ∃ name, named members "type" = [.string name] ∧ (name = "text" ∨ name = "progressbar")
  origin : ∃ m n, named members "origin" = [.array [.number m, .number n]]
  size : named members "size" = [] ∨ ∃ m n, named members "size" = [.array [.number m, .number n]]
  value : ∃ key, named members "value" = [.string key]
  center : named members "type" = [.string "text"] →
    named members "center" = [] ∨ ∃ b, named members "center" = [.boolean b]
  invert : named members "type" = [.string "text"] →
    named members "invert" = [] ∨ ∃ b, named members "invert" = [.boolean b]

/-- The members of an object say what a label is. -/
@[mk_iff]
structure Label.SaidBy (members : List (String × Json)) (l : Label) : Prop where
  origin : Json.IsPair (named members "origin") l.origin.x l.origin.y
  size : Json.IsSize (named members "size") l.size
  value : named members "value" = [.string l.key]
  center : Json.IsFlag (named members "center") l.centered
  invert : Json.IsFlag (named members "invert") l.inverted

/-- The members of an object say what a gauge is. -/
@[mk_iff]
structure Gauge.SaidBy (members : List (String × Json)) (g : Gauge) : Prop where
  origin : Json.IsPair (named members "origin") g.origin.x g.origin.y
  size : Json.IsSize (named members "size") g.size
  value : named members "value" = [.string g.key]

/-- The members of an object say what a widget is. -/
def Widget.SaidBy (members : List (String × Json)) : Widget → Prop
  | .label l => named members "type" = [.string "text"] ∧ l.SaidBy members
  | .gauge g => named members "type" = [.string "progressbar"] ∧ g.SaidBy members

/-- The type is no field of a label. -/
theorem Label.saidBy_filter {members : List (String × Json)} {l : Label} :
    l.SaidBy (members.filter (·.1 ≠ "type")) ↔ l.SaidBy members := by
  have hnamed {name : String} (h : name ≠ "type") :
      named (members.filter (·.1 ≠ "type")) name = named members name := Json.named_filter_ne h
  rw [saidBy_iff, saidBy_iff, hnamed (by decide), hnamed (by decide), hnamed (by decide),
    hnamed (by decide), hnamed (by decide)]

theorem Gauge.saidBy_filter {members : List (String × Json)} {g : Gauge} :
    g.SaidBy (members.filter (·.1 ≠ "type")) ↔ g.SaidBy members := by
  have hnamed {name : String} (h : name ≠ "type") :
      named (members.filter (·.1 ≠ "type")) name = named members name := Json.named_filter_ne h
  rw [saidBy_iff, saidBy_iff, hnamed (by decide), hnamed (by decide), hnamed (by decide)]

namespace Json

/-! ## Places that are filled once -/

variable {α : Type} {f : Json → Option α}

/-- The values that a field is given, one after the other, change what its place holds from `old` to
`new`: there is no value, or there is one and the place was empty. -/
def Fills (f : Json → Option α) (old : Option α) (values : List Json) (new : Option α) : Prop :=
  match old, values with
  | old, [] => new = old
  | none, [v] => ∃ a, f v = some a ∧ new = some a
  | _, _ => False

theorem fills_nil {old new : Option α} : Fills f old [] new ↔ new = old := by
  simp [Fills]

theorem fills_cons {old new : Option α} {v : Json} {rest : List Json} :
    Fills f old (v :: rest) new ↔ old = none ∧ ∃ a, f v = some a ∧ Fills f (some a) rest new := by
  cases old <;> cases rest <;> simp [Fills]

theorem fills_none {values : List Json} {new : Option α} :
    Fills f none values new ↔
      values = [] ∧ new = none ∨ ∃ v a, values = [v] ∧ f v = some a ∧ new = some a := by
  rcases values with _ | ⟨v, _ | ⟨w, rest⟩⟩ <;> simp [Fills]

theorem fills_none_some {values : List Json} {a : α} :
    Fills f none values (some a) ↔ ∃ v, values = [v] ∧ f v = some a := by
  simp [fills_none]

/-- A field that may be missing has its value or the default. -/
theorem fills_getD_iff {values : List Json} {default a : α} :
    (∃ found, Fills f none values found ∧ a = found.getD default) ↔
      values = [] ∧ a = default ∨ ∃ v, values = [v] ∧ f v = some a := by
  simp only [fills_none]
  constructor
  · rintro ⟨found, ⟨hnone, rfl⟩ | ⟨v, a, hv, ha, rfl⟩, rfl⟩
    · exact .inl ⟨hnone, rfl⟩
    · exact .inr ⟨v, hv, ha⟩
  · rintro (⟨hnone, rfl⟩ | ⟨v, hv, ha⟩)
    · exact ⟨none, .inl ⟨hnone, rfl⟩, rfl⟩
    · exact ⟨some a, .inr ⟨v, a, hv, ha, rfl⟩, rfl⟩

end Json

/-! ## The fields of a widget -/

namespace Widget.Draft

open Json (Fills named)

/-- The values that a field of a widget is given. A type of widget has fields of its own. -/
def given (type : WidgetType) (members : List (String × Json)) (field : String) : List Json :=
  if field ∈ type.fields then named members field else []

def point? (v : Json) : Option Point :=
  ((coordinates v).map fun (x, y) => (⟨x, y⟩ : Point)).toOption

def size? (v : Json) : Option Size :=
  ((coordinates v).map fun (x, y) => (⟨x, y⟩ : Size)).toOption

/-- Members change the fields of a widget found so far from `old` to `new`. -/
@[mk_iff]
structure Filled (type : WidgetType) (members : List (String × Json)) (old new : Draft) : Prop where
  origin : Fills point? old.origin (given type members "origin") new.origin
  size : Fills size? old.size (given type members "size") new.size
  center : Fills (fun v => (flag v).toOption) old.center (given type members "center") new.center
  invert : Fills (fun v => (flag v).toOption) old.invert (given type members "invert") new.invert
  value : Fills (fun v => (name v).toOption) old.value (given type members "value") new.value

theorem filled_nil {type : WidgetType} {old new : Draft} : Filled type [] old new ↔ new = old := by
  have hgiven (field : String) : given type [] field = [] := by
    unfold given
    split <;> rfl
  constructor
  · intro h
    obtain ⟨horigin, hsize, hcenter, hinvert, hvalue⟩ := h
    simp only [hgiven, Json.fills_nil] at horigin hsize hcenter hinvert hvalue
    cases old
    cases new
    simp_all
  · rintro rfl
    constructor <;> simp [hgiven, Json.fills_nil]

theorem given_cons_self {type : WidgetType} {field : String} (h : field ∈ type.fields) (v : Json)
    (rest : List (String × Json)) :
    given type ((field, v) :: rest) field = v :: given type rest field := by
  simp [given, h]

theorem given_cons_of_ne {type : WidgetType} {key field : String} (h : key ≠ field) (v : Json)
    (rest : List (String × Json)) :
    given type ((key, v) :: rest) field = given type rest field := by
  simp [given, Json.named_cons_of_ne h]

theorem given_cons_of_not_mem {type : WidgetType} {key : String} (h : key ∉ type.fields) (v : Json)
    (rest : List (String × Json)) (field : String) :
    given type ((key, v) :: rest) field = given type rest field := by
  unfold given
  split
  · next hfield =>
    rw [Json.named_cons_of_ne]
    rintro rfl
    exact h hfield
  · rfl

theorem once_map_eq_ok_iff {α β : Type} {field : String} {old : Option α}
    {new : Except Json.Fault α} {g : Option α → β} {b : β} :
    (once field old new).map g = .ok b ↔
      old = none ∧ ∃ a, new.toOption = some a ∧ b = g (some a) := by
  unfold once
  cases old with
  | none => cases new <;> simp [Except.map, Except.toOption, eq_comm]
  | some a => simp [Except.map]

theorem filled_cons {type : WidgetType} {key : String} {v : Json} {rest : List (String × Json)}
    {old new : Draft} : Filled type ((key, v) :: rest) old new ↔
      ∃ next, old.add type key v = .ok next ∧ Filled type rest next new := by
  by_cases hkey : key ∈ type.fields
  · have hcases :
        key = "origin" ∨ key = "size" ∨ key = "center" ∨ key = "invert" ∨ key = "value" := by
      cases type with
      | label =>
        simpa only [WidgetType.fields, List.mem_cons, List.not_mem_nil, or_false] using hkey
      | gauge =>
        simp only [WidgetType.fields, List.mem_cons, List.not_mem_nil, or_false] at hkey
        tauto
    -- the member fills the place of its field, and the others stay as they are
    rcases hcases with rfl | rfl | rfl | rfl | rfl
    all_goals
      simp only [filled_iff, add, not_true, hkey, if_false, if_true, given_cons_self hkey,
        ne_eq, String.reduceEq, not_false_iff, given_cons_of_ne, Json.fills_cons,
        once_map_eq_ok_iff]
      grind [point?, size?]
  · simp only [filled_iff, given_cons_of_not_mem hkey, add, if_pos hkey]
    simp

theorem foldlM_add_eq_ok_iff {type : WidgetType} {members : List (String × Json)}
    {old new : Draft} :
    members.foldlM (fun (d : Draft) (m : String × Json) => d.add type m.1 m.2) old = .ok new ↔
      Filled type members old new := by
  induction members generalizing old with
  | nil => simp [filled_nil, pure, Except.pure, eq_comm]
  | cons m rest ih =>
    obtain ⟨key, v⟩ := m
    rw [List.foldlM_cons, filled_cons]
    cases old.add type key v with
    | error e => simp [bind, Except.bind]
    | ok next => simp [bind, Except.bind, ih]

theorem finish_eq_ok_iff {type : WidgetType} {d : Draft} {w : Widget} :
    d.finish type = .ok w ↔ ∃ origin key, d.origin = some origin ∧ d.value = some key ∧
      w = match type with
        | .label => .label ⟨origin, d.size.getD {}, d.center.getD false, d.invert.getD false, key⟩
        | .gauge => .gauge ⟨origin, d.size.getD {}, key⟩ := by
  unfold finish
  rcases d with ⟨_ | origin, size, center, invert, _ | key⟩
  · simp
  · simp
  · simp
  · cases type <;> simp [eq_comm]

/-! ## The values of a field -/

theorem coordinate_eq_ok_iff {v : Json} {x : Single} :
    coordinate v = .ok x ↔ ∃ n, v = .number n ∧ Json.Number.RoundsTo n x := by
  simp only [Json.Number.roundsTo_iff]
  cases v <;> simp [coordinate, eq_comm]

theorem coordinates_eq_ok_iff {v : Json} {x y : Single} :
    coordinates v = .ok (x, y) ↔
      ∃ m n, v = .array [.number m, .number n] ∧
        Json.Number.RoundsTo m x ∧ Json.Number.RoundsTo n y := by
  unfold coordinates
  split
  · simp
  · next a => cases coordinate a <;> simp [bind, Except.bind]
  · next a b more =>
    constructor
    · intro h
      obtain ⟨x', ha, hrest⟩ := bind_eq_ok_iff.1 h
      obtain ⟨y', hb, hpair⟩ := bind_eq_ok_iff.1 hrest
      obtain ⟨m, rfl, hm⟩ := coordinate_eq_ok_iff.1 ha
      obtain ⟨n, rfl, hn⟩ := coordinate_eq_ok_iff.1 hb
      cases more with
      | nil =>
        cases hpair
        exact ⟨m, n, rfl, hm, hn⟩
      | cons _ _ => cases hpair
    · rintro ⟨m, n, h, hm, hn⟩
      cases h
      rw [coordinate_eq_ok_iff.2 ⟨m, rfl, hm⟩, coordinate_eq_ok_iff.2 ⟨n, rfl, hn⟩]
      rfl
  · next hlist =>
    constructor
    · intro h
      cases h
    · rintro ⟨m, n, rfl, -, -⟩
      exact absurd rfl (hlist _ _ _)

theorem exists_coordinates_iff {values : List Json} {x y : Single} :
    (∃ v, values = [v] ∧ coordinates v = .ok (x, y)) ↔ Json.IsPair values x y := by
  simp only [coordinates_eq_ok_iff, Json.IsPair]
  constructor
  · rintro ⟨_, rfl, m, n, rfl, hx, hy⟩
    exact ⟨m, n, rfl, hx, hy⟩
  · rintro ⟨m, n, rfl, hx, hy⟩
    exact ⟨_, rfl, m, n, rfl, hx, hy⟩

theorem fills_point_iff {values : List Json} {origin : Point} :
    Fills point? none values (some origin) ↔ Json.IsPair values origin.x origin.y := by
  have hpoint (v : Json) : point? v = some origin ↔ coordinates v = .ok (origin.x, origin.y) := by
    rw [point?, toOption_eq_some_iff]
    cases coordinates v with
    | error e => simp [Except.map]
    | ok pair => cases origin; simp [Except.map, Prod.ext_iff]
  simp only [Json.fills_none_some, hpoint, exists_coordinates_iff]

theorem fills_size_iff {values : List Json} {size : Size} :
    (∃ found, Fills size? none values found ∧ size = found.getD {}) ↔ Json.IsSize values size := by
  have hsize (v : Json) : size? v = some size ↔ coordinates v = .ok (size.width, size.height) := by
    rw [size?, toOption_eq_some_iff]
    cases coordinates v with
    | error e => simp [Except.map]
    | ok pair => cases size; simp [Except.map, Prod.ext_iff]
  simp only [Json.fills_getD_iff, hsize, exists_coordinates_iff, Json.IsSize]

theorem fills_flag_iff {values : List Json} {b : Bool} :
    (∃ found, Fills (fun v => (flag v).toOption) none values found ∧ b = found.getD false) ↔
      Json.IsFlag values b := by
  have hflag (v : Json) : (flag v).toOption = some b ↔ v = .boolean b := by
    cases v <;> simp [flag, Except.toOption]
  simp [Json.fills_getD_iff, hflag, Json.IsFlag]

theorem fills_name_iff {values : List Json} {key : String} :
    Fills (fun v => (name v).toOption) none values (some key) ↔ values = [.string key] := by
  have hname (v : Json) : (name v).toOption = some key ↔ v = .string key := by
    cases v <;> simp [name, Except.toOption]
  simp [Json.fills_none_some, hname]

end Widget.Draft

/-! ## Widgets -/

namespace Widget

open Json (Fills named)

theorem ofMembers_eq_ok_iff {type : WidgetType} {members : List (String × Json)} {w : Widget} :
    ofMembers type members = .ok w ↔
      ∃ d, Draft.Filled type members {} d ∧ d.finish type = .ok w := by
  unfold ofMembers Draft.ofMembers
  simp only [bind_eq_ok_iff, Draft.foldlM_add_eq_ok_iff]

theorem ofMembers_label_eq_ok_iff {members : List (String × Json)} {w : Widget} :
    ofMembers .label members = .ok w ↔ ∃ l, w = .label l ∧ l.SaidBy members := by
  simp only [ofMembers_eq_ok_iff, Draft.finish_eq_ok_iff, Draft.filled_iff, Draft.given,
    WidgetType.fields, Label.saidBy_iff, ← Draft.fills_point_iff, ← Draft.fills_size_iff,
    ← Draft.fills_flag_iff, ← Draft.fills_name_iff]
  constructor
  · rintro ⟨⟨origin, size, center, invert, value⟩, ⟨ho, hs, hc, hi, hv⟩, o, key, rfl, rfl, rfl⟩
    exact ⟨_, rfl, ho, ⟨_, hs, rfl⟩, hv, ⟨_, hc, rfl⟩, ⟨_, hi, rfl⟩⟩
  · rintro ⟨⟨origin, size, centered, inverted, key⟩, rfl, ho, ⟨s, hs, rfl⟩, hv, ⟨c, hc, rfl⟩,
      ⟨i, hi, rfl⟩⟩
    exact ⟨⟨some origin, s, c, i, some key⟩, ⟨ho, hs, hc, hi, hv⟩, origin, key, rfl, rfl, rfl⟩

/-- The flags are no fields of a gauge. -/
theorem ofMembers_gauge_eq_ok_iff {members : List (String × Json)} {w : Widget} :
    ofMembers .gauge members = .ok w ↔ ∃ g, w = .gauge g ∧ g.SaidBy members := by
  simp only [ofMembers_eq_ok_iff, Draft.finish_eq_ok_iff, Draft.filled_iff, Draft.given,
    WidgetType.fields, Gauge.saidBy_iff, ← Draft.fills_point_iff, ← Draft.fills_size_iff,
    ← Draft.fills_name_iff]
  constructor
  · rintro ⟨⟨origin, size, center, invert, value⟩, ⟨ho, hs, -, -, hv⟩, o, key, rfl, rfl, rfl⟩
    exact ⟨_, rfl, ho, ⟨_, hs, rfl⟩, hv⟩
  · rintro ⟨⟨origin, size, key⟩, rfl, ho, ⟨s, hs, rfl⟩, hv⟩
    exact ⟨⟨some origin, s, none, none, some key⟩, ⟨ho, hs, rfl, rfl, hv⟩, origin, key, rfl, rfl,
      rfl⟩

/-- The type is taken out of the members of a widget, wherever it stands. -/
theorem foldlM_addMember?_eq_some_iff {members : List (String × Json)}
    {state state' : Option WidgetType × List (String × Json)} :
    members.foldlM addMember? state = some state' ↔
      Fills WidgetType.ofJson? state.1 (named members "type") state'.1 ∧
        state'.2 = (members.filter (·.1 ≠ "type")).reverse ++ state.2 := by
  induction members generalizing state with
  | nil =>
    obtain ⟨type, before⟩ := state
    obtain ⟨type', after⟩ := state'
    simp [Json.fills_nil, eq_comm]
  | cons m rest ih =>
    obtain ⟨key, v⟩ := m
    obtain ⟨type, before⟩ := state
    rw [List.foldlM_cons, Option.bind_eq_bind, Option.bind_eq_some_iff]
    simp only [ih, addMember?]
    by_cases hkey : key = "type"
    · subst hkey
      cases type with
      | none => simp [Json.fills_cons, ← and_assoc, exists_and_right]
      | some type => simp [Json.fills_cons]
    · simp [hkey, Json.named_cons_of_ne hkey]

theorem ofName_eq_ok_iff {name : String} {type : WidgetType} :
    WidgetType.ofName name = .ok type ↔
      type = .label ∧ name = "text" ∨ type = .gauge ∧ name = "progressbar" := by
  unfold WidgetType.ofName
  split
  · next h => subst h; cases type <;> simp
  · next h =>
    split
    · next h' => subst h'; cases type <;> simp
    · next h' => simp [h, h']

theorem fills_type_iff {values : List Json} {type : WidgetType} :
    Fills WidgetType.ofJson? none values (some type) ↔
      type = .label ∧ values = [.string "text"] ∨
        type = .gauge ∧ values = [.string "progressbar"] := by
  have htype (v : Json) : WidgetType.ofJson? v = some type ↔
      type = .label ∧ v = .string "text" ∨ type = .gauge ∧ v = .string "progressbar" := by
    cases v <;> simp [WidgetType.ofJson?, Json.text?, toOption_eq_some_iff, ofName_eq_ok_iff]
  rw [Json.fills_none_some]
  constructor
  · rintro ⟨v, rfl, hv⟩
    rcases (htype v).1 hv with ⟨rfl, rfl⟩ | ⟨rfl, rfl⟩
    · exact .inl ⟨rfl, rfl⟩
    · exact .inr ⟨rfl, rfl⟩
  · rintro (⟨rfl, rfl⟩ | ⟨rfl, rfl⟩)
    · exact ⟨_, rfl, rfl⟩
    · exact ⟨_, rfl, rfl⟩

/-- The widget of an object is that of its type and of its other members. -/
theorem ofJson?_object_eq_some {members : List (String × Json)} {w : Widget} :
    ofJson? (.object members) = some w ↔
      ∃ type, Fills WidgetType.ofJson? none (named members "type") (some type) ∧
        ofMembers type (members.filter (·.1 ≠ "type")) = .ok w := by
  rw [ofJson?, Option.bind_eq_some_iff]
  simp only [foldlM_addMember?_eq_some_iff]
  constructor
  · rintro ⟨⟨_ | type, fields⟩, ⟨htype, rfl⟩, hw⟩
    · cases hw
    · refine ⟨type, htype, ?_⟩
      simpa [toOption_eq_some_iff] using hw
  · rintro ⟨type, htype, hw⟩
    refine ⟨(some type, _), ⟨htype, rfl⟩, ?_⟩
    simpa [toOption_eq_some_iff] using hw

/-- **An object stands for the widget that its members say.** -/
theorem ofJson?_object_eq_some_iff {members : List (String × Json)} {w : Widget} :
    ofJson? (.object members) = some w ↔ SaidBy members w := by
  rw [ofJson?_object_eq_some]
  constructor
  · rintro ⟨type, htype, hw⟩
    rcases fills_type_iff.1 htype with ⟨rfl, htag⟩ | ⟨rfl, htag⟩
    · obtain ⟨l, rfl, hl⟩ := ofMembers_label_eq_ok_iff.1 hw
      exact ⟨htag, Label.saidBy_filter.1 hl⟩
    · obtain ⟨g, rfl, hg⟩ := ofMembers_gauge_eq_ok_iff.1 hw
      exact ⟨htag, Gauge.saidBy_filter.1 hg⟩
  · intro hsaid
    cases w with
    | label l =>
      refine ⟨.label, fills_type_iff.2 (.inl ⟨rfl, hsaid.1⟩), ?_⟩
      exact ofMembers_label_eq_ok_iff.2 ⟨l, rfl, Label.saidBy_filter.2 hsaid.2⟩
    | gauge g =>
      refine ⟨.gauge, fills_type_iff.2 (.inr ⟨rfl, hsaid.1⟩), ?_⟩
      exact ofMembers_gauge_eq_ok_iff.2 ⟨g, rfl, Gauge.saidBy_filter.2 hsaid.2⟩

/-- **The members of an object say a widget if and only if the object conforms to the schema.** -/
theorem exists_saidBy_iff {members : List (String × Json)} :
    (∃ w, SaidBy members w) ↔ Conforms members := by
  constructor
  · rintro ⟨w, hsaid⟩
    cases w with
    | label l =>
      obtain ⟨htype, ⟨m, n, horigin, -⟩, hsize, hvalue, hcenter, hinvert⟩ := hsaid
      exact
        { type := ⟨_, htype, .inl rfl⟩
          origin := ⟨m, n, horigin⟩
          size := Json.exists_isSize_iff.1 ⟨_, hsize⟩
          value := ⟨_, hvalue⟩
          center := fun _ => Json.exists_isFlag_iff.1 ⟨_, hcenter⟩
          invert := fun _ => Json.exists_isFlag_iff.1 ⟨_, hinvert⟩ }
    | gauge g =>
      obtain ⟨htype, ⟨m, n, horigin, -⟩, hsize, hvalue⟩ := hsaid
      have hno : named members "type" ≠ [.string "text"] := by
        rw [htype]
        simp
      exact
        { type := ⟨_, htype, .inr rfl⟩
          origin := ⟨m, n, horigin⟩
          size := Json.exists_isSize_iff.1 ⟨_, hsize⟩
          value := ⟨_, hvalue⟩
          center := fun h => absurd h hno
          invert := fun h => absurd h hno }
  · rintro ⟨⟨name, htype, hname⟩, ⟨m, n, horigin⟩, hsize, ⟨key, hvalue⟩, hcenter, hinvert⟩
    have hpair : Json.IsPair (named members "origin") m.toFloating n.toFloating :=
      ⟨m, n, horigin, m.roundsTo, n.roundsTo⟩
    obtain ⟨size, hsize⟩ := Json.exists_isSize_iff.2 hsize
    rcases hname with rfl | rfl
    · obtain ⟨centered, hcenter⟩ := Json.exists_isFlag_iff.2 (hcenter htype)
      obtain ⟨inverted, hinvert⟩ := Json.exists_isFlag_iff.2 (hinvert htype)
      exact ⟨.label ⟨⟨_, _⟩, size, centered, inverted, key⟩, htype, hpair, hsize, hvalue, hcenter,
        hinvert⟩
    · exact ⟨.gauge ⟨⟨_, _⟩, size, key⟩, htype, hpair, hsize, hvalue⟩

end Widget

end StatusPanel
