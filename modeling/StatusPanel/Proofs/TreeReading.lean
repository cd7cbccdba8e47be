import StatusPanel.Json.Container

/-!
# Readers and trees

`readValue` makes a tree of a text. Any other reader can be told by what it makes of the trees: it
follows a function on trees if it reads a text that is a tree as the function says, and leaves the
same rest (`Follows`). A reader that goes through the parts of a list or an object one after the
other follows the fold over the parts of the tree (`ListAt.foldElements`,
`ObjectAt.foldMembers`).
-/

namespace StatusPanel.Json

/-! ## Outcomes -/

namespace Read

variable {α β : Type} {s : Bytes}

/-- What was read and what is left, or nothing after a fault. -/
def result? : Read α s → Option (α × Bytes)
  | .error _ => none
  | .ok (a, r) => some (a, r.1)

theorem result?_eq_some_iff {x : Read α s} {a : α} {r : Bytes} :
    x.result? = some (a, r) ↔ ∃ h, x = .ok (a, ⟨r, h⟩) := by
  rcases x with _ | ⟨b, t, ht⟩
  · simp [result?]
  · constructor
    · intro h
      cases h
      exact ⟨ht, rfl⟩
    · rintro ⟨_, h⟩
      cases h
      rfl

theorem result?_eq_none_iff {x : Read α s} : x.result? = none ↔ ∃ e, x = .error e := by
  rcases x with e | a <;> simp [result?]

/-- Reading makes progress. -/
theorem length_lt_of_result? {x : Read α s} {a : α} {r : Bytes} (h : x.result? = some (a, r)) :
    r.length < s.length := by
  obtain ⟨hlt, -⟩ := result?_eq_some_iff.1 h
  exact hlt

@[simp] theorem result?_error (e : Fault) : result? (.error e : Read α s) = none := rfl

@[simp] theorem result?_ok (a : α) (r : Rest s) :
    result? (.ok (a, r) : Read α s) = some (a, r.1) := rfl

@[simp] theorem result?_map (g : α → β) (x : Read α s) :
    (x.map g).result? = x.result?.map fun (a, r) => (g a, r) := by
  rcases x with _ | ⟨a, r⟩ <;> rfl

@[simp] theorem result?_check (g : α → Except Fault β) (x : Read α s) :
    (x.check g).result? = x.result?.bind fun (a, r) => (g a).toOption.map (·, r) := by
  rcases x with _ | ⟨a, r⟩
  · rfl
  · simp only [check, result?_ok, Option.bind_some]
    cases g a <;> rfl

@[simp] theorem result?_widen {t : Bytes} (h : t.length ≤ s.length) (x : Read α t) :
    (x.widen h).result? = x.result? := by
  rcases x with _ | ⟨a, r⟩ <;> rfl

@[simp] theorem result?_inside (r : Rest s) (x : Read α r.1) : (x.inside r).result? = x.result? :=
  result?_widen _ x

@[simp] theorem result?_afterByte {b : UInt8} (x : Read α s) :
    (x.afterByte (b := b)).result? = x.result? :=
  result?_widen _ x

@[simp] theorem result?_andThen (x : Read α s) (next : α → (r : Bytes) → Read β r) :
    (x.andThen next).result? = x.result?.bind fun (a, r) => (next a r).result? := by
  rcases x with _ | ⟨a, r⟩
  · rfl
  · simp [andThen]

theorem result?_onFirst {read : (b : UInt8) → (t : Bytes) → Read α (b :: t)} {s : Bytes} :
    (onFirst read s).result? =
      match skipBlanks s with
      | [] => none
      | b :: t => (read b t).result? := by
  unfold onFirst
  split
  · next h => rw [h]; rfl
  · next b t h => rw [result?_widen, h]

end Read

/-! ## Readers that follow the tree -/

variable {α β σ : Type} {tree : (s : Bytes) → Read Json s} {levels : Nat}

/-- Where `tree` reads a value, another reader makes what `f` makes of the value, and leaves the
same rest. -/
def Follows (tree : (s : Bytes) → Read Json s) (read : (s : Bytes) → Read α s)
    (f : Json → Option α) : Prop :=
  ∀ ⦃s v r⦄, (tree s).result? = some (v, r) → (read s).result? = (f v).map (·, r)

theorem follows_self : Follows tree tree some := by
  intro s v r hv
  exact hv

theorem follows_error (e : Fault) :
    Follows tree (fun _ => (.error e : Read α _)) fun _ => none := by
  intro s v r hv
  rfl

namespace Follows

variable {read : (s : Bytes) → Read α s} {f : Json → Option α}

theorem map (h : Follows tree read f) (g : α → β) :
    Follows tree (fun s => (read s).map g) (fun v => (f v).map g) := by
  intro s v r hv
  rw [Read.result?_map, h hv, Option.map_map, Option.map_map]
  rfl

theorem check (h : Follows tree read f) (g : α → Except Fault β) :
    Follows tree (fun s => (read s).check g) (fun v => (f v).bind fun a => (g a).toOption) := by
  intro s v r hv
  rw [Read.result?_check, h hv, Option.bind_map, Option.map_bind]
  rfl

/-- The value of a member stands after its colon. -/
theorem afterColon (h : Follows tree read f) :
    Follows (Json.afterColon tree) (Json.afterColon read) f := by
  intro s v r hv
  unfold Json.afterColon at hv ⊢
  cases hc : colon s with
  | error e => simp [hc] at hv
  | ok u =>
    simp only [hc, Read.result?_inside] at hv ⊢
    exact h hv

end Follows

/-! ## Lists -/

/-- Where the reading began does not matter to what is read and left. -/
theorem result?_foldElementsFrom_start {element : σ → (s : Bytes) → Read σ s} (state : σ)
    {start start' s : Bytes} (h : s.length ≤ start.length) (h' : s.length ≤ start'.length) :
    (foldElementsFrom element state s h).result? =
      (foldElementsFrom element state s h').result? := by
  fun_induction foldElementsFrom element state s h with
  | case1 state s h e he =>
    rw [foldElementsFrom, he]
    rfl
  | case2 state s h next r he e hn =>
    rw [foldElementsFrom, he]
    dsimp only
    rw [hn]
    rfl
  | case3 state s h next r he rest hn =>
    rw [foldElementsFrom, he]
    dsimp only
    rw [hn]
    rfl
  | case4 state s h next r he t ht hn hlt ih =>
    refine (ih (Nat.le_trans (Nat.le_of_lt hlt) h')).trans ?_
    conv => rhs; rw [foldElementsFrom, he]
    dsimp only
    rw [hn]

/-- The elements from `s` on, whatever stands before them. -/
theorem result?_foldElementsFrom (element : σ → (s : Bytes) → Read σ s) (state : σ)
    {start s : Bytes} (h : s.length ≤ start.length) :
    (foldElementsFrom element state s h).result? =
      (element state s).result?.bind fun (state, r) =>
        match nextElement r with
        | .error _ => none
        | .ok (.close rest) => some (state, rest.1)
        | .ok (.part t _) => (foldElementsFrom element state t (length_le_self t)).result? := by
  rw [foldElementsFrom]
  cases he : element state s with
  | error e => rfl
  | ok read =>
    obtain ⟨next, r⟩ := read
    simp only [Read.result?_ok, Option.bind_some]
    cases hn : nextElement r.1 with
    | error e => rfl
    | ok turn =>
      cases turn with
      | close rest => rfl
      | part t ht => exact result?_foldElementsFrom_start _ _ _

/-- The elements of a list that are read as trees, from the first one to the closing bracket. -/
inductive Elements (levels : Nat) : Bytes → List Json → Bytes → Prop
  | last {s w : Bytes} {v : Json} {rest : Rest w}
    (hv : (readValue levels s).result? = some (v, w))
    (hturn : nextElement w = .ok (.close rest)) : Elements levels s [v] rest.1
  | more {s w t r : Bytes} {v : Json} {items : List Json} {ht : t.length ≤ w.length}
    (hv : (readValue levels s).result? = some (v, w))
    (hturn : nextElement w = .ok (.part t ht)) (hitems : Elements levels t items r) :
    Elements levels s (v :: items) r

/-- A list that is read as a tree, its opening bracket already read. -/
inductive ListAt (levels : Nat) (s : Bytes) : List Json → Bytes → Prop
  | empty {rest : Rest s} (hturn : firstElement s = .ok (.close rest)) :
    ListAt levels s [] rest.1
  | elements {t r : Bytes} {items : List Json} {ht : t.length ≤ s.length}
    (hturn : firstElement s = .ok (.part t ht)) (hitems : Elements levels t items r) :
    ListAt levels s items r

theorem elements_of_readValue {s r : Bytes} {before items : List Json}
    (h : (foldElementsFrom (fun items u => (readValue levels u).map (· :: items)) before s
      (length_le_self s)).result? = some (items, r)) :
    ∃ new, items = new.reverse ++ before ∧ Elements levels s new r := by
  induction hlength : s.length using Nat.strongRecOn generalizing s before with
  | ind n ih =>
    rw [result?_foldElementsFrom, Read.result?_map] at h
    obtain ⟨⟨_, w⟩, hread, hnext⟩ := Option.bind_eq_some_iff.1 h
    obtain ⟨⟨v, _⟩, hv, heq⟩ := Option.map_eq_some_iff.1 hread
    cases heq
    dsimp only at hnext
    split at hnext
    · cases hnext
    · next rest hturn =>
      cases hnext
      exact ⟨[v], rfl, .last hv hturn⟩
    · next t ht hturn =>
      have hlt : t.length < n := hlength ▸ Nat.lt_of_le_of_lt ht (Read.length_lt_of_result? hv)
      obtain ⟨new, rfl, hnew⟩ := ih t.length hlt hnext rfl
      exact ⟨v :: new, by simp, .more hv hturn hnew⟩

theorem listAt_of_readValue {s r : Bytes} {items : List Json}
    (h : (foldElements (fun items u => (readValue levels u).map (· :: items)) [] s).result? =
      some (items, r)) : ListAt levels s items.reverse r := by
  unfold foldElements at h
  split at h
  · cases h
  · next rest hturn =>
    cases h
    exact .empty hturn
  · next t ht hturn =>
    rw [result?_foldElementsFrom_start _ _ (length_le_self t)] at h
    obtain ⟨new, rfl, hnew⟩ := elements_of_readValue h
    exact .elements hturn (by simpa using hnew)

section

variable {element : σ → (s : Bytes) → Read σ s} {step : σ → Json → Option σ}
  (follows : ∀ state, Follows (readValue levels) (element state) (step state))

include follows

theorem Elements.foldElementsFrom {s r : Bytes} {items : List Json} (h : Elements levels s items r)
    (state : σ) : (foldElementsFrom element state s (length_le_self s)).result? =
      (items.foldlM step state).map (·, r) := by
  induction h generalizing state with
  | last hv hturn =>
    rw [result?_foldElementsFrom, follows state hv]
    cases hstep : step state _ with
    | none => simp [hstep]
    | some next => simp [hstep, hturn]
  | more hv hturn _ ih =>
    rw [result?_foldElementsFrom, follows state hv]
    cases hstep : step state _ with
    | none => simp [hstep]
    | some next => simp [hstep, hturn, ih]

/-- Going through a list follows going through its elements. -/
theorem ListAt.foldElements {s r : Bytes} {items : List Json} (h : ListAt levels s items r)
    (state : σ) : (foldElements element state s).result? =
      (items.foldlM step state).map (·, r) := by
  unfold Json.foldElements
  cases h with
  | empty hturn =>
    rw [hturn]
    rfl
  | elements hturn hitems =>
    rw [hturn]
    exact (result?_foldElementsFrom_start _ _ _).trans (hitems.foldElementsFrom follows state)

end

/-! ## Objects -/

theorem result?_foldMembersFrom_start {member : σ → String → (s : Bytes) → Read σ s} (state : σ)
    {start start' s : Bytes} (h : s.length ≤ start.length) (h' : s.length ≤ start'.length) :
    (foldMembersFrom member state s h).result? = (foldMembersFrom member state s h').result? := by
  fun_induction foldMembersFrom member state s h with
  | case1 state s h e hk =>
    rw [foldMembersFrom, hk]
    rfl
  | case2 state s h key k hk e he =>
    rw [foldMembersFrom, hk]
    dsimp only
    rw [he]
    rfl
  | case3 state s h key k hk next r he hr e hn =>
    rw [foldMembersFrom, hk]
    dsimp only
    rw [he]
    dsimp only
    rw [hn]
    rfl
  | case4 state s h key k hk next r he hr rest hn =>
    rw [foldMembersFrom, hk]
    dsimp only
    rw [he]
    dsimp only
    rw [hn]
    rfl
  | case5 state s h key k hk next r he hr t ht hn hlt ih =>
    refine (ih (Nat.le_trans (Nat.le_of_lt hlt) h')).trans ?_
    conv => rhs; rw [foldMembersFrom, hk]
    dsimp only
    rw [he]
    dsimp only
    rw [hn]

/-- The members from `s` on, whatever stands before them. -/
theorem result?_foldMembersFrom (member : σ → String → (s : Bytes) → Read σ s) (state : σ)
    {start s : Bytes} (h : s.length ≤ start.length) :
    (foldMembersFrom member state s h).result? =
      (readString s).result?.bind fun (key, k) =>
        (member state key k).result?.bind fun (state, r) =>
          match nextMember r with
          | .error _ => none
          | .ok (.close rest) => some (state, rest.1)
          | .ok (.part t _) => (foldMembersFrom member state t (length_le_self t)).result? := by
  rw [foldMembersFrom]
  cases hk : readString s with
  | error e => rfl
  | ok read =>
    obtain ⟨key, k⟩ := read
    simp only [Read.result?_ok, Option.bind_some]
    cases he : member state key k.1 with
    | error e => rfl
    | ok read =>
      obtain ⟨next, r⟩ := read
      simp only [Read.result?_ok, Option.bind_some]
      cases hn : nextMember r.1 with
      | error e => rfl
      | ok turn =>
        cases turn with
        | close rest => rfl
        | part t ht => exact result?_foldMembersFrom_start _ _ _

/-- The members of an object that are read as trees, from inside the first key to the closing
brace. -/
inductive Members (levels : Nat) : Bytes → List (String × Json) → Bytes → Prop
  | last {s k w : Bytes} {key : String} {v : Json} {rest : Rest w}
    (hkey : (readString s).result? = some (key, k))
    (hv : (afterColon (readValue levels) k).result? = some (v, w))
    (hturn : nextMember w = .ok (.close rest)) : Members levels s [(key, v)] rest.1
  | more {s k w t r : Bytes} {key : String} {v : Json} {members : List (String × Json)}
    {ht : t.length ≤ w.length} (hkey : (readString s).result? = some (key, k))
    (hv : (afterColon (readValue levels) k).result? = some (v, w))
    (hturn : nextMember w = .ok (.part t ht)) (hmembers : Members levels t members r) :
    Members levels s ((key, v) :: members) r

/-- An object that is read as a tree, its opening brace already read. -/
inductive ObjectAt (levels : Nat) (s : Bytes) : List (String × Json) → Bytes → Prop
  | empty {rest : Rest s} (hturn : firstMember s = .ok (.close rest)) :
    ObjectAt levels s [] rest.1
  | members {t r : Bytes} {members : List (String × Json)} {ht : t.length ≤ s.length}
    (hturn : firstMember s = .ok (.part t ht)) (hmembers : Members levels t members r) :
    ObjectAt levels s members r

theorem members_of_readValue {s r : Bytes} {before members : List (String × Json)}
    (h : (foldMembersFrom (fun members key u =>
      (afterColon (readValue levels) u).map fun v => (key, v) :: members) before s
        (length_le_self s)).result? = some (members, r)) :
    ∃ new, members = new.reverse ++ before ∧ Members levels s new r := by
  induction hlength : s.length using Nat.strongRecOn generalizing s before with
  | ind n ih =>
    rw [result?_foldMembersFrom] at h
    obtain ⟨⟨key, k⟩, hkey, h⟩ := Option.bind_eq_some_iff.1 h
    dsimp only at h
    rw [Read.result?_map] at h
    obtain ⟨⟨_, w⟩, hread, hnext⟩ := Option.bind_eq_some_iff.1 h
    obtain ⟨⟨v, _⟩, hv, heq⟩ := Option.map_eq_some_iff.1 hread
    cases heq
    dsimp only at hnext
    split at hnext
    · cases hnext
    · next rest hturn =>
      cases hnext
      exact ⟨[(key, v)], rfl, .last hkey hv hturn⟩
    · next t ht hturn =>
      have hw : w.length < s.length :=
        Nat.lt_trans (Read.length_lt_of_result? hv) (Read.length_lt_of_result? hkey)
      have hlt : t.length < n := hlength ▸ Nat.lt_of_le_of_lt ht hw
      obtain ⟨new, rfl, hnew⟩ := ih t.length hlt hnext rfl
      exact ⟨(key, v) :: new, by simp, .more hkey hv hturn hnew⟩

theorem objectAt_of_readValue {s r : Bytes} {members : List (String × Json)}
    (h : (foldMembers (fun members key u =>
      (afterColon (readValue levels) u).map fun v => (key, v) :: members) [] s).result? =
        some (members, r)) : ObjectAt levels s members.reverse r := by
  unfold foldMembers at h
  split at h
  · cases h
  · next rest hturn =>
    cases h
    exact .empty hturn
  · next t ht hturn =>
    rw [result?_foldMembersFrom_start _ _ (length_le_self t)] at h
    obtain ⟨new, rfl, hnew⟩ := members_of_readValue h
    exact .members hturn (by simpa using hnew)

section

variable {member : σ → String → (s : Bytes) → Read σ s} {step : σ → String × Json → Option σ}
  (follows : ∀ state key, Follows (afterColon (readValue levels)) (member state key)
    fun v => step state (key, v))

include follows

theorem Members.foldMembersFrom {s r : Bytes} {members : List (String × Json)}
    (h : Members levels s members r) (state : σ) :
    (foldMembersFrom member state s (length_le_self s)).result? =
      (members.foldlM step state).map (·, r) := by
  induction h generalizing state with
  | @last _ _ _ key v _ hkey hv hturn =>
    rw [result?_foldMembersFrom, hkey, Option.bind_some]
    dsimp only
    rw [follows state key hv]
    cases hstep : step state (key, v) with
    | none => simp [hstep]
    | some next => simp [hstep, hturn]
  | @more _ _ _ _ _ key v _ _ hkey hv hturn _ ih =>
    rw [result?_foldMembersFrom, hkey, Option.bind_some]
    dsimp only
    rw [follows state key hv]
    cases hstep : step state (key, v) with
    | none => simp [hstep]
    | some next => simp [hstep, hturn, ih]

/-- Going through an object follows going through its members. -/
theorem ObjectAt.foldMembers {s r : Bytes} {members : List (String × Json)}
    (h : ObjectAt levels s members r) (state : σ) :
    (foldMembers member state s).result? = (members.foldlM step state).map (·, r) := by
  unfold Json.foldMembers
  cases h with
  | empty hturn =>
    rw [hturn]
    rfl
  | members hturn hmembers =>
    rw [hturn]
    exact (result?_foldMembersFrom_start _ _ _).trans (hmembers.foldMembersFrom follows state)

end

/-! ## Values by their first byte -/

/-- What the first byte `b` of a value, the bytes `t` after it and the brackets it may have tell of
the value and of the bytes after it. -/
inductive Begins (levels : Nat) (b : UInt8) (t : Bytes) : Json → Bytes → Prop
  | null {r : Bytes} (hb : b = 0x6e) (h : word [0x75, 0x6c, 0x6c] t = .ok r) :
    Begins levels b t .null r
  | yes {r : Bytes} (hb : b = 0x74) (h : word [0x72, 0x75, 0x65] t = .ok r) :
    Begins levels b t (.boolean true) r
  | no {r : Bytes} (hb : b = 0x66) (h : word [0x61, 0x6c, 0x73, 0x65] t = .ok r) :
    Begins levels b t (.boolean false) r
  | string {text : String} {r : Bytes} (hb : b = 0x22)
    (h : (readString t).result? = some (text, r)) : Begins levels b t (.string text) r
  | negative {n : Number} {r : Bytes} (hb : b = 0x2d)
    (h : (readUnsigned true t).result? = some (n, r)) : Begins levels b t (.number n) r
  | positive {n : Number} {r : Bytes} (hb : isDigit b = true)
    (h : (readUnsigned false (b :: t)).result? = some (n, r)) : Begins levels b t (.number n) r
  | array {inner : Nat} {items : List Json} {r : Bytes} (hb : b = 0x5b)
    (hl : levels = inner + 1) (h : ListAt inner t items r) : Begins levels b t (.array items) r
  | object {inner : Nat} {members : List (String × Json)} {r : Bytes} (hb : b = 0x7b)
    (hl : levels = inner + 1) (h : ObjectAt inner t members r) :
    Begins levels b t (.object members) r

theorem Begins.string_of_quote {t r : Bytes} {v : Json} (h : Begins levels 0x22 t v r) :
    ∃ text, v = .string text ∧ (readString t).result? = some (text, r) := by
  cases h with
  | string _ h => exact ⟨_, rfl, h⟩
  | positive hb => cases hb
  | null hb => cases hb
  | yes hb => cases hb
  | no hb => cases hb
  | negative hb => cases hb
  | array hb => cases hb
  | object hb => cases hb

theorem Begins.array_of_bracket {t r : Bytes} {v : Json} (h : Begins levels 0x5b t v r) :
    ∃ inner items, levels = inner + 1 ∧ v = .array items ∧ ListAt inner t items r := by
  cases h with
  | array _ hl h => exact ⟨_, _, hl, rfl, h⟩
  | positive hb => cases hb
  | null hb => cases hb
  | yes hb => cases hb
  | no hb => cases hb
  | string hb => cases hb
  | negative hb => cases hb
  | object hb => cases hb

theorem Begins.object_of_brace {t r : Bytes} {v : Json} (h : Begins levels 0x7b t v r) :
    ∃ inner members, levels = inner + 1 ∧ v = .object members ∧ ObjectAt inner t members r := by
  cases h with
  | object _ hl h => exact ⟨_, _, hl, rfl, h⟩
  | positive hb => cases hb
  | null hb => cases hb
  | yes hb => cases hb
  | no hb => cases hb
  | string hb => cases hb
  | negative hb => cases hb
  | array hb => cases hb

theorem result?_readWord_eq_some {a a' : α} {letters s r : Bytes} {b : UInt8}
    (h : (readWord a letters s (b := b)).result? = some (a', r)) :
    a' = a ∧ word letters s = .ok r := by
  unfold readWord at h
  split at h
  · cases h
  · next hw =>
    cases h
    exact ⟨rfl, hw⟩

theorem begins_of_readScalar {b : UInt8} {t r : Bytes} {v : Json}
    (h : (readScalar (b :: t)).result? = some (v, r)) : Begins levels b t v r := by
  simp only [readScalar] at h
  split at h
  · next hb =>
    obtain ⟨rfl, hw⟩ := result?_readWord_eq_some h
    exact .null hb hw
  · split at h
    · next hb =>
      obtain ⟨rfl, hw⟩ := result?_readWord_eq_some h
      exact .yes hb hw
    · split at h
      · next hb =>
        obtain ⟨rfl, hw⟩ := result?_readWord_eq_some h
        exact .no hb hw
      · split at h
        · next hb =>
          rw [Read.result?_afterByte, Read.result?_map] at h
          obtain ⟨⟨text, _⟩, hs, heq⟩ := Option.map_eq_some_iff.1 h
          cases heq
          exact .string hb hs
        · split at h
          · next hb =>
            rw [Read.result?_afterByte, Read.result?_map] at h
            obtain ⟨⟨n, _⟩, hn, heq⟩ := Option.map_eq_some_iff.1 h
            cases heq
            exact .negative hb hn
          · split at h
            · next hb =>
              rw [Read.result?_map] at h
              obtain ⟨⟨n, _⟩, hn, heq⟩ := Option.map_eq_some_iff.1 h
              cases heq
              exact .positive hb hn
            · cases h

/-- A value is told by its first byte that is no blank. -/
theorem begins_of_readValue {s r : Bytes} {v : Json}
    (h : (readValue levels s).result? = some (v, r)) :
    ∃ b t, skipBlanks s = b :: t ∧ Begins levels b t v r := by
  unfold readValue at h
  rw [Read.result?_onFirst] at h
  split at h
  · cases h
  · next b t hs =>
    refine ⟨b, t, hs, ?_⟩
    split at h
    · next hb =>
      split at h
      · cases h
      · next inner =>
        rw [Read.result?_afterByte, Read.result?_map] at h
        obtain ⟨⟨items, _⟩, hi, heq⟩ := Option.map_eq_some_iff.1 h
        cases heq
        exact .array hb rfl (listAt_of_readValue hi)
    · split at h
      · next hb =>
        split at h
        · cases h
        · next inner =>
          rw [Read.result?_afterByte, Read.result?_map] at h
          obtain ⟨⟨members, _⟩, hm, heq⟩ := Option.map_eq_some_iff.1 h
          cases heq
          exact .object hb rfl (objectAt_of_readValue hm)
      · exact begins_of_readScalar h

end StatusPanel.Json
