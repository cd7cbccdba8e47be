import Mathlib.Data.List.Forall2
import StatusPanel.Proofs.ExactValues
import StatusPanel.Proofs.WidgetSchema

/-!
# The schema of documents

Which objects are documents, and which document each of them is, told from the members of an object
by their names. Members of other names do not matter, and neither does the order of the members.
Main statement: a payload that is an object with lists of objects for its layouts is read if and
only if it conforms to the schema (`Document.read_ok_iff_conforms`).
-/

namespace StatusPanel

/-! ## The schema -/

/-- A value is a string, a number or a boolean. -/
inductive Json.IsScalar : Json → Prop
  | string (text : String) : IsScalar (.string text)
  | number (n : Number) : IsScalar (.number n)
  | boolean (b : Bool) : IsScalar (.boolean b)

/-- A string, a number or a boolean says itself. A whole number is rounded to the 64-bit format, any
other is in it already. -/
inductive Value.SaidBy : Json → Value → Prop
  | string (text : String) : SaidBy (.string text) (.string text)
  | whole (n : Int) : SaidBy (.number (.whole n)) (.number (.ofInt n))
  | real (x : Double) : SaidBy (.number (.real x)) (.number x)
  | boolean (b : Bool) : SaidBy (.boolean b) (.boolean b)

open Json (named)

/-- The objects that are documents. -/
structure Document.Conforms (members : List (String × Json)) : Prop where
  layout : ∃ items : List (List (String × Json)),
    named members "layout" = [.array (items.map .object)] ∧ ∀ item ∈ items, Widget.Conforms item
  values : named members "values" = [] ∨ ∃ entries,
    named members "values" = [.object entries] ∧ ∀ entry ∈ entries, entry.2.IsScalar

/-- The document that the members of an object say: a widget for each element of the layout, in
order, and for each name the last value given to it. -/
structure Document.SaidBy (members : List (String × Json)) (d : Document) : Prop where
  widgets : ∃ items : List (List (String × Json)),
    named members "layout" = [.array (items.map .object)] ∧
      List.Forall₂ Widget.SaidBy items d.widgets
  values : ∃ entries : List (String × Json),
    (named members "values" = [] ∧ entries = [] ∨ named members "values" = [.object entries]) ∧
      ∀ key value, d.value? key = some value ↔
        ∃ v, (named entries key).getLast? = some v ∧ Value.SaidBy v value

namespace Widget

theorem exists_forall₂_saidBy_iff {items : List (List (String × Json))} :
    (∃ widgets, List.Forall₂ SaidBy items widgets) ↔ ∀ item ∈ items, Conforms item := by
  induction items with
  | nil => simp
  | cons item rest ih =>
    rw [List.forall_mem_cons, ← ih, ← exists_saidBy_iff]
    constructor
    · rintro ⟨_, _ | ⟨hw, hws⟩⟩
      exact ⟨⟨_, hw⟩, ⟨_, hws⟩⟩
    · rintro ⟨⟨w, hw⟩, ⟨ws, hws⟩⟩
      exact ⟨w :: ws, .cons hw hws⟩

end Widget

namespace Value

/-! ## Values -/

theorem ofJson_eq_ok_iff {v : Json} {value : Value} :
    ofJson v = .ok value ↔ SaidBy v value := by
  constructor
  · intro h
    cases v with
    | string text =>
      cases h
      exact .string text
    | number n =>
      cases h
      cases n with
      | whole n => exact .whole n
      | real x =>
        rw [Json.Number.toFloating, Floating.convert_self]
        exact .real x
    | boolean b =>
      cases h
      exact .boolean b
    | null => cases h
    | array _ => cases h
    | object _ => cases h
  · rintro (text | n | x | b)
    case real => rw [ofJson, Json.Number.toFloating, Floating.convert_self]
    all_goals rfl

theorem exists_saidBy_iff {v : Json} : (∃ value, SaidBy v value) ↔ v.IsScalar := by
  constructor
  · rintro ⟨_, text | n | x | b⟩
    · exact .string text
    · exact .number _
    · exact .number _
    · exact .boolean b
  · rintro (text | n | b)
    · exact ⟨_, .string text⟩
    · cases n with
      | whole n => exact ⟨_, .whole n⟩
      | real x => exact ⟨_, .real x⟩
    · exact ⟨_, .boolean b⟩

theorem exists_ofJson_eq_ok_iff {v : Json} :
    (∃ value, ofJson v = .ok value) ↔ v.IsScalar := by
  simp only [ofJson_eq_ok_iff, exists_saidBy_iff]

end Value

namespace Document

open Json (Fills named)

/-! ## Bags of values -/

theorem exists_foldlM_addValue?_iff {entries : List (String × Json)}
    {before : List (String × Value)} :
    (∃ values, entries.foldlM addValue? before = some values) ↔
      ∀ entry ∈ entries, entry.2.IsScalar := by
  induction entries generalizing before with
  | nil => simp
  | cons m rest ih =>
    simp only [List.foldlM_cons, Option.bind_eq_bind, Option.bind_eq_some_iff, List.forall_mem_cons]
    constructor
    · rintro ⟨values, next, hnext, hrest⟩
      obtain ⟨value, hvalue, -⟩ := Option.map_eq_some_iff.1 hnext
      exact ⟨Value.exists_ofJson_eq_ok_iff.1 ⟨value, toOption_eq_some_iff.1 hvalue⟩,
        ih.1 ⟨values, hrest⟩⟩
    · rintro ⟨hm, hrest⟩
      obtain ⟨value, hvalue⟩ := Value.exists_ofJson_eq_ok_iff.2 hm
      obtain ⟨values, hvalues⟩ := (@ih (insertValue before m.1 value)).2 hrest
      exact ⟨values, _, by rw [addValue?, hvalue]; rfl, hvalues⟩

/-- The last value that is given to a name takes the place of those before. -/
theorem lookup_of_foldlM_addValue? {entries : List (String × Json)}
    {before values : List (String × Value)}
    (h : entries.foldlM addValue? before = some values) (key : String) :
    values.lookup key =
      match (named entries key).getLast? with
      | none => before.lookup key
      | some v => (Value.ofJson v).toOption := by
  induction entries generalizing before with
  | nil =>
    cases h
    rfl
  | cons m rest ih =>
    obtain ⟨name, v⟩ := m
    rw [List.foldlM_cons, Option.bind_eq_bind, Option.bind_eq_some_iff] at h
    obtain ⟨next, hnext, hrest⟩ := h
    obtain ⟨value, hvalue, rfl⟩ := Option.map_eq_some_iff.1 hnext
    rw [ih hrest, lookup_insertValue, Json.named_cons]
    by_cases hname : name = key
    · rw [if_pos hname, List.getLast?_cons]
      cases (named rest key).getLast? with
      | none => simp [hname, hvalue]
      | some last => rfl
    · rw [if_neg hname, if_neg fun h => hname h.symm]

theorem valuesOf?_eq_some_iff {v : Json} {values : List (String × Value)} :
    valuesOf? v = some values ↔
      ∃ entries, v = .object entries ∧ entries.foldlM addValue? [] = some values := by
  cases v <;> simp [valuesOf?, Json.members?]

/-! ## Documents -/

theorem layoutOf?_objects_eq_some_iff {items : List (List (String × Json))}
    {widgets : List Widget} :
    layoutOf? (.array (items.map .object)) = some widgets ↔
      List.Forall₂ Widget.SaidBy items widgets := by
  simp only [layoutOf?, Json.items?, Option.bind_some]
  induction items generalizing widgets with
  | nil => simp [eq_comm]
  | cons item rest ih =>
    rw [List.map_cons, List.mapM_cons, Option.bind_eq_bind, Option.bind_eq_some_iff]
    simp only [Widget.ofJson?_object_eq_some_iff, Option.bind_eq_bind, Option.bind_eq_some_iff, ih]
    constructor
    · rintro ⟨w, hw, ws, hws, h⟩
      cases h
      exact .cons hw hws
    · rintro (_ | ⟨hw, hws⟩)
      exact ⟨_, hw, _, hws, rfl⟩

theorem foldlM_addMember?_eq_some_iff {members : List (String × Json)} {old new : Draft} :
    members.foldlM addMember? old = some new ↔
      Fills layoutOf? old.layout (named members "layout") new.layout ∧
        Fills valuesOf? old.values (named members "values") new.values := by
  induction members generalizing old with
  | nil =>
    cases old
    cases new
    simp [Json.fills_nil, eq_comm]
  | cons m rest ih =>
    obtain ⟨key, v⟩ := m
    obtain ⟨layout, values⟩ := old
    rw [List.foldlM_cons, Option.bind_eq_bind, Option.bind_eq_some_iff]
    simp only [ih, addMember?]
    by_cases hlayout : key = "layout"
    · subst hlayout
      cases layout with
      | none => simp [Json.fills_cons, Json.named_cons_of_ne, ← and_assoc, exists_and_right]
      | some layout => simp [Json.fills_cons]
    · by_cases hvalues : key = "values"
      · subst hvalues
        cases values with
        | none =>
          simp only [if_neg hlayout, if_true, Option.isSome_none, Bool.false_eq_true, if_false,
            Option.map_eq_some_iff, Json.named_cons_of_ne hlayout, Json.named_cons_self,
            Json.fills_cons, true_and]
          constructor
          · rintro ⟨_, ⟨a, ha, rfl⟩, hl, hv⟩
            exact ⟨hl, a, ha, hv⟩
          · rintro ⟨hl, a, ha, hv⟩
            exact ⟨_, ⟨a, ha, rfl⟩, hl, hv⟩
        | some values => simp [Json.fills_cons]
      · simp [hlayout, hvalues, Json.named_cons_of_ne]

/-- An object is the document that its layout and its values give. -/
theorem ofJson?_object_eq_some_iff {members : List (String × Json)} {d : Document} :
    ofJson? (.object members) = some d ↔
      (∃ layout, named members "layout" = [layout] ∧ layoutOf? layout = some d.widgets) ∧
        (named members "values" = [] ∧ d.values = [] ∨
          ∃ entries, named members "values" = [.object entries] ∧
            entries.foldlM addValue? [] = some d.values) := by
  rw [ofJson?, Option.bind_eq_some_iff]
  simp only [foldlM_addMember?_eq_some_iff, Json.fills_none, toOption_eq_some_iff]
  constructor
  · rintro ⟨⟨layout, values⟩, ⟨hlayout, hvalues⟩, hfinish⟩
    obtain ⟨-, rfl⟩ | ⟨v, widgets, hv, hwidgets, rfl⟩ := hlayout
    · cases hfinish
    · cases hfinish
      refine ⟨⟨v, hv, hwidgets⟩, ?_⟩
      obtain ⟨hnone, rfl⟩ | ⟨v, bag, hv, hbag, rfl⟩ := hvalues
      · exact .inl ⟨hnone, rfl⟩
      · obtain ⟨entries, rfl, hfold⟩ := valuesOf?_eq_some_iff.1 hbag
        exact .inr ⟨entries, hv, hfold⟩
  · obtain ⟨widgets, bag⟩ := d
    rintro ⟨⟨layout, hlayout, hwidgets⟩, hvalues⟩
    obtain ⟨hnone, rfl⟩ | ⟨entries, hentries, hfold⟩ := hvalues
    · exact ⟨⟨some widgets, none⟩,
        ⟨.inr ⟨layout, widgets, hlayout, hwidgets, rfl⟩, .inl ⟨hnone, rfl⟩⟩, rfl⟩
    · have hbag := valuesOf?_eq_some_iff.2 ⟨entries, rfl, hfold⟩
      exact ⟨⟨some widgets, some bag⟩,
        ⟨.inr ⟨layout, widgets, hlayout, hwidgets, rfl⟩, .inr ⟨_, bag, hentries, hbag, rfl⟩⟩, rfl⟩

/-- **The schema of documents.** A payload that is an object with lists of objects for its layouts
is read if and only if it conforms to the schema, and the document is then the one that its members
say. -/
theorem read_ok_iff_conforms {payload : Bytes} {members : List (String × Json)}
    (tree : Json.read payload = .ok (.object members))
    (objects : ∀ v ∈ named members "layout",
      ∃ items : List (List (String × Json)), v = .array (items.map .object)) :
    ((∃ d, read payload = .ok d) ↔ Conforms members) ∧
      ∀ d, read payload = .ok d → SaidBy members d := by
  have hread (d : Document) : read payload = .ok d ↔ ofJson? (.object members) = some d := by
    rw [← toOption_read tree, toOption_eq_some_iff]
  simp only [hread, ofJson?_object_eq_some_iff]
  refine ⟨⟨?accepted, ?conforms⟩, ?said⟩
  case accepted =>
    rintro ⟨d, ⟨layout, hlayout, hwidgets⟩, hvalues⟩
    obtain ⟨items, rfl⟩ := objects layout (by simp [hlayout])
    have hsaid := layoutOf?_objects_eq_some_iff.1 hwidgets
    refine ⟨⟨items, hlayout, Widget.exists_forall₂_saidBy_iff.1 ⟨_, hsaid⟩⟩, ?_⟩
    obtain ⟨hnone, -⟩ | ⟨entries, hentries, hfold⟩ := hvalues
    · exact .inl hnone
    · exact .inr ⟨entries, hentries, exists_foldlM_addValue?_iff.1 ⟨_, hfold⟩⟩
  case conforms =>
    rintro ⟨⟨items, hlayout, hitems⟩, hvalues⟩
    obtain ⟨widgets, hwidgets⟩ := Widget.exists_forall₂_saidBy_iff.2 hitems
    have hlayout := And.intro hlayout (layoutOf?_objects_eq_some_iff.2 hwidgets)
    obtain hnone | ⟨entries, hentries, hscalars⟩ := hvalues
    · exact ⟨⟨widgets, []⟩, ⟨_, hlayout⟩, .inl ⟨hnone, rfl⟩⟩
    · obtain ⟨values, hfold⟩ := exists_foldlM_addValue?_iff.2 hscalars
      exact ⟨⟨widgets, values⟩, ⟨_, hlayout⟩, .inr ⟨entries, hentries, hfold⟩⟩
  case said =>
    rintro d ⟨⟨layout, hlayout, hwidgets⟩, hvalues⟩
    obtain ⟨items, rfl⟩ := objects layout (by simp [hlayout])
    refine ⟨⟨items, hlayout, layoutOf?_objects_eq_some_iff.1 hwidgets⟩, ?_⟩
    obtain ⟨hnone, hempty⟩ | ⟨entries, hentries, hfold⟩ := hvalues
    · refine ⟨[], .inl ⟨hnone, rfl⟩, ?_⟩
      intro key value
      simp [value?, hempty]
    · refine ⟨entries, .inr hentries, ?_⟩
      intro key value
      rw [value?, lookup_of_foldlM_addValue? hfold]
      cases (named entries key).getLast? with
      | none => simp
      | some v => simp [toOption_eq_some_iff, Value.ofJson_eq_ok_iff]

/-- The type comes last, the flag is no field of a gauge, and the second value of a name counts. -/
theorem read_ok_iff_conforms_type_last :
    let payload := Bytes.ofString
      ("\x7b\"values\":\x7b\"a\":1,\"b\":0.5,\"a\":true\x7d,\"layout\":[" ++
        "\x7b\"center\":0,\"origin\":[1,2],\"value\":\"a\",\"type\":\"progressbar\"\x7d]\x7d")
    ∃ d, read payload = .ok d ∧ d.value? "a" = some (.boolean true) ∧
      d.value? "b" = some (.number (.ofDecimal 5 1)) := by
  intro payload
  let entries : List (String × Json) :=
    [("a", .number (.whole 1)), ("b", .number (.real (.ofDecimal 5 1))), ("a", .boolean true)]
  let item : List (String × Json) :=
    [("center", .number (.whole 0)), ("origin", .array [.number (.whole 1), .number (.whole 2)]),
      ("value", .string "a"), ("type", .string "progressbar")]
  let members : List (String × Json) :=
    [("values", .object entries), ("layout", .array [.object item])]
  have tree : Json.read payload = .ok (.object members) :=
    toOption_eq_some_iff.1 (by decide +kernel)
  have hlayout : named members "layout" = [.array ([item].map .object)] := rfl
  have hvalues : named members "values" = [.object entries] := rfl
  have objects : ∀ v ∈ named members "layout",
      ∃ items : List (List (String × Json)), v = .array (items.map .object) := by
    intro v hv
    rw [hlayout, List.mem_singleton] at hv
    exact ⟨_, hv⟩
  obtain ⟨accepted, said⟩ := read_ok_iff_conforms tree objects
  have hitem : Widget.Conforms item := by
    have htype : named item "type" ≠ [.string "text"] := by simp [item, Json.named_cons]
    exact ⟨⟨_, rfl, .inr rfl⟩, ⟨_, _, rfl⟩, .inl rfl, ⟨_, rfl⟩, fun h => absurd h htype,
      fun h => absurd h htype⟩
  have hentries : ∀ entry ∈ entries, entry.2.IsScalar := by
    simp only [entries, List.forall_mem_cons]
    exact ⟨.number _, .number _, .boolean _, by simp⟩
  obtain ⟨d, hd⟩ := accepted.2
    ⟨⟨[item], hlayout, List.forall_mem_singleton.2 hitem⟩, .inr ⟨entries, hvalues, hentries⟩⟩
  refine ⟨d, hd, ?_⟩
  obtain ⟨found, ⟨hnone, -⟩ | hfound, hvalue⟩ := (said d hd).values
  · rw [hvalues] at hnone
    cases hnone
  · rw [hvalues] at hfound
    cases hfound
    exact ⟨(hvalue "a" _).2 ⟨_, rfl, .boolean true⟩, (hvalue "b" _).2 ⟨_, rfl, .real _⟩⟩

end Document

end StatusPanel
