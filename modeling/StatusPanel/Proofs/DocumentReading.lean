import StatusPanel.Document.Reader
import StatusPanel.Proofs.Skipping

/-!
# Documents and trees

Documents are checked while they are read, and never as a tree. Here is what they are as trees:
`Document.ofJson?` is the document that a tree stands for. Main statement: a text that can be read
as a tree is read as the document that the tree stands for, or is refused if there is none
(`Document.toOption_read`).
-/

namespace StatusPanel

namespace Json

variable {α : Type} {levels : Nat}

/-- The elements of a list. -/
def items? : Json → Option (List Json)
  | .array items => some items
  | _ => none

/-- The members of an object. -/
def members? : Json → Option (List (String × Json))
  | .object members => some members
  | _ => none

/-- The characters of a string. -/
def text? : Json → Option String
  | .string text => some text
  | _ => none

@[simp] theorem result?_unexpected (expected : String) (s : Bytes) :
    (unexpected expected s : Read α s).result? = none := by
  unfold unexpected
  split
  · rfl
  · split
    · rfl
    · split
      · rfl
      · rw [Read.result?_check]
        cases (readScalar _).result? <;> rfl

/-- A value that begins with another byte than `first` has to stand for nothing. -/
theorem follows_startingWith {first : UInt8} {expected : String} {read : (s : Bytes) → Read α s}
    {f : Json → Option α}
    (hfirst : ∀ {t v r}, Begins levels first t v r → (read t).result? = (f v).map (·, r))
    (hother : ∀ {b t v r}, Begins levels b t v r → b ≠ first → f v = none) :
    Follows (readValue levels) (startingWith first expected read) f := by
  intro s v r hv
  obtain ⟨b, t, hs, hbegins⟩ := begins_of_readValue hv
  unfold startingWith
  rw [Read.result?_onFirst, hs]
  dsimp only
  split
  · next hb =>
    subst hb
    rw [Read.result?_afterByte, hfirst hbegins]
  · next hb =>
    rw [result?_unexpected, hother hbegins hb]
    rfl

/-! ## Lists that end -/

theorem Elements.ne_nil {s r : Bytes} {items : List Json} (h : Elements levels s items r) :
    items ≠ [] := by
  cases h <;> simp

theorem endList_of_close {s : Bytes} {rest : Rest s} (h : nextElement s = .ok (.close rest)) :
    endList s = .ok rest := by
  have hs := skipBlanks_of_nextElement_close h
  unfold endList
  split
  · next hs' =>
    rw [hs] at hs'
    cases hs'
  · next hs' =>
    rw [hs] at hs'
    cases hs'
    rfl

theorem endList_of_part {s t : Bytes} {ht : t.length ≤ s.length}
    (h : nextElement s = .ok (.part t ht)) : ∃ e, endList s = .error e := by
  obtain ⟨u, hs, -⟩ := skipBlanks_of_nextElement_part h
  unfold endList
  split
  · exact ⟨_, rfl⟩
  · next hs' =>
    rw [hs] at hs'
    cases hs'
    rw [if_neg (by decide), if_pos rfl]
    split
    · split <;> exact ⟨_, rfl⟩
    · exact ⟨_, rfl⟩

/-- A whole text is a value and blanks. -/
theorem finish_eq_ok_iff {s : Bytes} {x : Read α s} {a : α} :
    finish x = .ok a ↔ ∃ r, x.result? = some (a, r) ∧ skipBlanks r = [] := by
  rcases x with e | ⟨b, u⟩
  · simp [finish]
  · simp only [finish, Read.result?_ok, Option.some.injEq, Prod.mk.injEq]
    split
    · next hr =>
      constructor
      · intro h
        cases h
        exact ⟨u.1, ⟨rfl, rfl⟩, hr⟩
      · rintro ⟨_, ⟨rfl, rfl⟩, _⟩
        rfl
    · next hr =>
      constructor
      · intro h
        cases h
      · rintro ⟨_, ⟨rfl, rfl⟩, h⟩
        exact absurd h hr

end Json

namespace WidgetType

/-- The type of widget that a value names. -/
def ofJson? (v : Json) : Option WidgetType :=
  v.text?.bind fun name => (ofName name).toOption

end WidgetType

namespace Widget

open Json (Read Begins Follows readValue afterColon)

theorem follows_readType (depth : Nat) :
    Follows (readValue depth) readType WidgetType.ofJson? := by
  refine Json.follows_startingWith ?_ ?_
  · intro t v r h
    obtain ⟨text, rfl, hread⟩ := h.string_of_quote
    rw [Read.result?_check, hread]
    rfl
  · intro b t v r h hne
    cases h with
    | string hb => exact absurd hb hne
    | _ => rfl

/-- Takes a member of a widget in, given the type and the members before it, the last one first. -/
def addMember? (state : Option WidgetType × List (String × Json)) (m : String × Json) :
    Option (Option WidgetType × List (String × Json)) :=
  if m.1 = "type" then
    if state.1.isSome then none
    else (WidgetType.ofJson? m.2).map fun type => (some type, state.2)
  else some (state.1, m :: state.2)

theorem follows_readMember (state : Option WidgetType × List (String × Json)) (key : String) :
    Follows (afterColon (readValue levels)) (readMember state key)
      fun v => addMember? state (key, v) := by
  unfold readMember addMember?
  dsimp only
  split
  · split
    · exact Json.follows_error _
    · exact (follows_readType levels).afterColon.map _
  · exact Json.follows_self.map _

/-- Takes an item of a widget's list form in. -/
def addItem? (state : Option WidgetType × List Json) (v : Json) :
    Option (Option WidgetType × List Json) :=
  if state.1.isNone then (WidgetType.ofJson? v).map fun type => (some type, state.2)
  else some (state.1, v :: state.2)

theorem follows_readItem (state : Option WidgetType × List Json) :
    Follows (readValue levels) (readItem state) (addItem? state) := by
  unfold readItem addItem?
  split
  · exact (follows_readType levels).map _
  · exact Json.follows_self.map _

/-- The widget that a tree stands for. -/
def ofJson? : Json → Option Widget
  | .object members =>
    (members.foldlM addMember? (none, [])).bind fun
      | (none, _) => none
      | (some type, fields) => (ofMembers type fields.reverse).toOption
  | .array items =>
    (items.foldlM addItem? (none, [])).bind fun
      | (none, _) => none
      | (some type, items) => (ofItems type items.reverse).toOption
  | _ => none

theorem follows_read : Follows (readValue (levels + 1)) read ofJson? := by
  intro s v r hv
  obtain ⟨b, t, hs, hbegins⟩ := Json.begins_of_readValue hv
  unfold read
  rw [Read.result?_onFirst, hs]
  dsimp only
  split
  · next hb =>
    subst hb
    obtain ⟨inner, members, hl, rfl, hobject⟩ := hbegins.object_of_brace
    cases hl
    rw [Read.result?_afterByte, Read.result?_check, hobject.foldMembers follows_readMember,
      Option.bind_map, ofJson?, Option.map_bind]
    congr 1
    funext state
    rcases state with ⟨_ | type, fields⟩ <;> rfl
  · split
    · next hb =>
      subst hb
      obtain ⟨inner, items, hl, rfl, hlist⟩ := hbegins.array_of_bracket
      cases hl
      rw [Read.result?_afterByte, Read.result?_check, hlist.foldElements follows_readItem,
        Option.bind_map, ofJson?, Option.map_bind]
      congr 1
      funext state
      rcases state with ⟨_ | type, fields⟩ <;> rfl
    · rw [Json.result?_unexpected]
      cases hbegins with
      | array hb => contradiction
      | object hb => contradiction
      | _ => rfl

end Widget

/-- Elements that are read one in front of the other. -/
theorem foldlM_cons_eq_mapM {α β : Type} (f : α → Option β) (items : List α) (before : List β) :
    items.foldlM (fun found v => (f v).map (· :: found)) before =
      (items.mapM f).map fun new => new.reverse ++ before := by
  induction items generalizing before with
  | nil => rfl
  | cons v rest ih =>
    rw [List.foldlM_cons, List.mapM_cons]
    cases hv : f v with
    | none => rfl
    | some a =>
      rw [Option.map_some, Option.bind_eq_bind, Option.bind_some, ih]
      cases rest.mapM f <;> simp

namespace Document

open Json (Read Begins Follows readValue afterColon maxLevels)

/-- The widgets that a tree stands for. -/
def layoutOf? (v : Json) : Option (List Widget) :=
  v.items?.bind fun items => items.mapM Widget.ofJson?

theorem follows_readLayout : Follows (readValue (maxLevels - 1)) readLayout layoutOf? := by
  refine Json.follows_startingWith ?_ ?_
  · intro t v r h
    obtain ⟨inner, items, hl, rfl, hlist⟩ := h.array_of_bracket
    cases hl
    have hfold := hlist.foldElements (fun widgets => Widget.follows_read.map (· :: widgets)) []
    rw [Read.result?_map, hfold, foldlM_cons_eq_mapM]
    simp only [layoutOf?, Json.items?, Option.bind_some, Option.map_map]
    congr 1
    funext widgets
    simp
  · intro b t v r h hne
    cases h with
    | array hb => exact absurd hb hne
    | _ => rfl

/-- Takes a value in, in place of an earlier one of the same name. -/
def addValue? (values : List (String × Value)) (m : String × Json) :
    Option (List (String × Value)) :=
  (Value.ofJson m.2).toOption.map (insertValue values m.1)

/-- The values that a tree stands for. -/
def valuesOf? (v : Json) : Option (List (String × Value)) :=
  v.members?.bind fun members => members.foldlM addValue? []

theorem follows_readValues : Follows (readValue (maxLevels - 1)) readValues valuesOf? := by
  refine Json.follows_startingWith ?_ ?_
  · intro t v r h
    obtain ⟨inner, members, hl, rfl, hobject⟩ := h.object_of_brace
    cases hl
    exact hobject.foldMembers (fun values key =>
      (Json.follows_self.check Value.ofJson).map (insertValue values key)) []
  · intro b t v r h hne
    cases h with
    | object hb => exact absurd hb hne
    | _ => rfl

/-- Takes a member of a document in. -/
def addMember? (d : Draft) (m : String × Json) : Option Draft :=
  if m.1 = "layout" then
    if d.layout.isSome then none
    else (layoutOf? m.2).map fun layout => { d with layout := some layout }
  else if m.1 = "values" then
    if d.values.isSome then none
    else (valuesOf? m.2).map fun values => { d with values := some values }
  else some d

theorem follows_readMember (d : Draft) (key : String) :
    Follows (afterColon (readValue (maxLevels - 1))) (readMember d key)
      fun v => addMember? d (key, v) := by
  unfold readMember addMember?
  dsimp only
  split
  · split
    · exact Json.follows_error _
    · exact follows_readLayout.afterColon.map _
  · split
    · split
      · exact Json.follows_error _
      · exact follows_readValues.afterColon.map _
    · exact (Json.follows_skip _).afterColon.map _

/-- The document that the elements of its list form stand for. -/
def ofItems? : List Json → Option Document
  | [layout] => (layoutOf? layout).map ({ widgets := · })
  | [layout, values] =>
    (layoutOf? layout).bind fun widgets =>
      (valuesOf? values).map fun values => { widgets, values }
  | _ => none

theorem ofItems?_of_more {layout values : Json} {more : List Json} (h : more ≠ []) :
    ofItems? (layout :: values :: more) = none := by
  cases more with
  | nil => exact absurd rfl h
  | cons _ _ => rfl

/-- The list form holds at most two elements: what follows the second one is its end. -/
theorem result?_readItems {t r : Bytes} {items : List Json}
    (h : Json.ListAt (maxLevels - 1) t items r) :
    (readItems t).result? = (ofItems? items).map (·, r) := by
  unfold readItems
  cases h with
  | empty hturn =>
    rw [hturn]
    rfl
  | elements hturn hitems =>
    rw [hturn]
    dsimp only
    rw [Read.result?_widen, Read.result?_andThen]
    cases hitems with
    | @last _ _ layout _ hlayout hturn =>
      rw [follows_readLayout hlayout]
      cases hwidgets : layoutOf? layout with
      | none => simp [ofItems?, hwidgets]
      | some widgets => simp [ofItems?, hwidgets, hturn]
    | @more _ _ _ _ layout _ _ hlayout hturn hitems =>
      rw [follows_readLayout hlayout]
      cases hitems with
      | @last _ _ values _ hvalues hend =>
        cases hwidgets : layoutOf? layout with
        | none => simp [ofItems?, hwidgets]
        | some widgets =>
          simp only [Option.map_some, Option.bind_some, hturn, Read.result?_widen,
            Read.result?_andThen, follows_readValues hvalues]
          cases hbag : valuesOf? values with
          | none => simp [ofItems?, hwidgets, hbag]
          | some bag => simp [ofItems?, hwidgets, hbag, Json.endList_of_close hend, Except.map]
      | @more _ _ _ _ values _ _ hvalues hend hitems =>
        rw [ofItems?_of_more hitems.ne_nil]
        cases layoutOf? layout with
        | none => rfl
        | some widgets =>
          obtain ⟨e, he⟩ := Json.endList_of_part hend
          simp only [Option.map_some, Option.bind_some, hturn, Read.result?_widen,
            Read.result?_andThen, follows_readValues hvalues]
          cases valuesOf? values with
          | none => rfl
          | some bag => simp [he, Except.map]

/-- The document that a tree stands for. -/
def ofJson? : Json → Option Document
  | .object members => (members.foldlM addMember? {}).bind fun d => d.finish.toOption
  | .array items => ofItems? items
  | _ => none

theorem follows_readFront : Follows (readValue maxLevels) readFront ofJson? := by
  intro s v r hv
  obtain ⟨b, t, hs, hbegins⟩ := Json.begins_of_readValue hv
  unfold readFront
  rw [Read.result?_onFirst, hs]
  dsimp only
  split
  · next hb =>
    subst hb
    obtain ⟨inner, members, hl, rfl, hobject⟩ := hbegins.object_of_brace
    cases hl
    rw [Read.result?_afterByte, Read.result?_check, hobject.foldMembers follows_readMember,
      Option.bind_map, ofJson?, Option.map_bind]
    rfl
  · split
    · next hb =>
      subst hb
      obtain ⟨inner, items, hl, rfl, hlist⟩ := hbegins.array_of_bracket
      cases hl
      rw [Read.result?_afterByte, result?_readItems hlist]
      rfl
    · rw [Json.result?_unexpected]
      cases hbegins with
      | array hb => contradiction
      | object hb => contradiction
      | _ => rfl

/-- **Reading a document is decoding its tree.** A payload that can be read as a tree is read as the
document that the tree stands for, or is refused if it stands for none. -/
theorem toOption_read {payload : Bytes} {v : Json} (h : Json.read payload = .ok v) :
    (read payload).toOption = ofJson? v := by
  unfold Json.read at h
  unfold read read?
  obtain ⟨r, hv, hr⟩ := Json.finish_eq_ok_iff.1 h
  have hfront := follows_readFront hv
  cases hd : ofJson? v with
  | none =>
    rw [hd] at hfront
    obtain ⟨e, he⟩ := Read.result?_eq_none_iff.1 hfront
    rw [he]
    rfl
  | some d =>
    rw [hd] at hfront
    rw [Json.finish_eq_ok_iff.2 ⟨r, hfront, hr⟩]
    rfl

end Document

end StatusPanel
