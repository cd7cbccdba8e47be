import Mathlib.Data.List.DropRight
import StatusPanel.Json.Skipped
import StatusPanel.Proofs.TreeReading

/-!
# Skipping what could be read

A value that can be read as a tree is skipped to the same place (`follows_skip`). The converse is
not true: skipping is less strict about strings, numbers and brackets.
-/

namespace StatusPanel.Json

variable {levels : Nat}

@[simp] theorem skipBlanks_skipBlanks (s : Bytes) : skipBlanks (skipBlanks s) = skipBlanks s :=
  List.dropWhile_idempotent _ _

/-! ## Strings -/

/-- The second half of a surrogate pair is an escape of its own. -/
theorem result?_skipEscape_of_lowSurrogate {s r : Bytes} {low : Nat}
    (h : (lowSurrogate s).result? = some (low, r)) :
    ∃ t, s = 0x5c :: t ∧ (skipEscape t).result? = some ((), r) := by
  unfold lowSurrogate at h
  split at h
  · cases h
  · next b t =>
    split at h
    · cases h
    · next hb =>
      obtain rfl : b = 0x5c := Decidable.not_not.1 hb
      refine ⟨t, rfl, ?_⟩
      split at h
      · cases h
      · next c u =>
        split at h
        · cases h
        · next hc =>
          obtain rfl : c = 0x75 := Decidable.not_not.1 hc
          rw [Read.result?_afterByte, Read.result?_afterByte, Read.result?_check] at h
          obtain ⟨⟨n, _⟩, hn, hlow⟩ := Option.bind_eq_some_iff.1 h
          obtain ⟨_, -, heq⟩ := Option.map_eq_some_iff.1 hlow
          cases heq
          simp [skipEscape, hn]

/-- An escape is skipped in one step, or in two if it is a surrogate pair. -/
theorem result?_skipEscape_of_escape {s r : Bytes} {bytes : Bytes}
    (h : (escape s).result? = some (bytes, r)) :
    (skipEscape s).result? = some ((), r) ∨
      ∃ t, (skipEscape s).result? = some ((), 0x5c :: t) ∧
        (skipEscape t).result? = some ((), r) := by
  unfold escape at h
  split at h
  · cases h
  · next b t =>
    split at h
    · next hb =>
      rw [Read.result?_afterByte] at h
      unfold pointEscape at h
      split at h
      · cases h
      · next n u hn =>
        have hskip : (skipEscape (b :: t)).result? = some ((), u.1) := by
          simp [skipEscape, hb, hn]
        split at h
        · cases h
        · split at h
          · -- the first half of a pair
            rw [Read.result?_inside, Read.result?_map] at h
            obtain ⟨⟨low, _⟩, hlow, heq⟩ := Option.map_eq_some_iff.1 h
            cases heq
            obtain ⟨m, hm, hsecond⟩ := result?_skipEscape_of_lowSurrogate hlow
            exact .inr ⟨m, hm ▸ hskip, hsecond⟩
          · cases h
            exact .inl hskip
    · next hb =>
      split at h
      · next c hc =>
        cases h
        left
        simp [skipEscape, hb, hc]
      · cases h

theorem skipStringFrom_of_skipEscape {start t r : Bytes} (ht : (0x5c :: t).length ≤ start.length)
    (hr : r.length ≤ start.length) (h : (skipEscape t).result? = some ((), r)) :
    skipStringFrom (0x5c :: t) ht = skipStringFrom r hr := by
  obtain ⟨_, hskip⟩ := Read.result?_eq_some_iff.1 h
  rw [skipStringFrom]
  simp [hskip]

theorem result?_skipStringFrom {start start' s r : Bytes} {front : Bytes} {text : String}
    (hs : s.length ≤ start.length) (hs' : s.length ≤ start'.length)
    (h : (stringFrom front s hs).result? = some (text, r)) :
    (skipStringFrom s hs').result? = some ((), r) := by
  induction hlength : s.length using Nat.strongRecOn generalizing s front with
  | ind n ih =>
    cases s with
    | nil =>
      rw [stringFrom] at h
      cases h
    | cons b t =>
      rw [stringFrom] at h
      split at h
      · next hb =>
        subst hb
        split at h
        · cases h
          simp [skipStringFrom]
        · cases h
      · next hquote =>
        split at h
        · next hb =>
          subst hb
          split at h
          · cases h
          · next bytes u hu =>
            have hread : (escape t).result? = some (bytes, u.1) := by
              rw [hu]
              rfl
            have hlt : u.1.length < n := hlength ▸ Nat.lt_succ_of_lt u.2
            have hu' : u.1.length ≤ start'.length := Nat.le_of_lt (Nat.lt_trans u.2 hs')
            rw [← ih _ hlt _ hu' h rfl]
            rcases result?_skipEscape_of_escape hread with hone | ⟨m, hfirst, hsecond⟩
            · rw [skipStringFrom_of_skipEscape hs' hu' hone]
            · have hm : (0x5c :: m).length ≤ start'.length :=
                Nat.le_of_lt (Nat.lt_trans (Read.length_lt_of_result? hfirst) hs')
              rw [skipStringFrom_of_skipEscape hs' hm hfirst,
                skipStringFrom_of_skipEscape hm hu' hsecond]
        · next hescape =>
          split at h
          · cases h
          · next hcontrol =>
            rw [skipStringFrom, if_neg hquote, if_neg hescape, if_neg hcontrol]
            exact ih t.length (hlength ▸ Nat.lt_succ_self _) _ (Nat.le_of_lt hs') h rfl

theorem result?_skipString {s r : Bytes} {text : String}
    (h : (readString s).result? = some (text, r)) : (skipString s).result? = some ((), r) :=
  result?_skipStringFrom _ _ h

/-! ## Numbers -/

theorem eq_of_map_eq_ok {n : Except Fault Number} {x : Number} {t r : Bytes}
    (h : n.map (·, t) = .ok (x, r)) : t = r := by
  cases n with
  | error e => cases h
  | ok n =>
    cases h
    rfl

theorem skipDigits_cons {d : UInt8} {t : Bytes} (h : isDigit d = true) :
    ∃ hr, skipDigits (d :: t) = .ok ⟨(d :: t).dropWhile isDigit, hr⟩ := by
  have hdrop : (d :: t).dropWhile isDigit = t.dropWhile isDigit := List.dropWhile_cons_of_pos h
  refine ⟨hdrop ▸ Nat.lt_succ_of_le (length_dropWhile_le _ _), ?_⟩
  simp only [skipDigits, if_pos h, hdrop]

theorem skipExponent_of_exponentPart {negative : Bool} {significand : Nat} {exponent : Int}
    {s r : Bytes} {x : Number} (h : exponentPart negative significand exponent s = .ok (x, r)) :
    ∃ hr, skipExponent s = .ok ⟨r, hr⟩ := by
  unfold exponentPart at h
  split at h
  next down t hsign =>
    split at h
    · cases h
    · next d u =>
      split at h
      · next hd =>
        have hr : (d :: u).dropWhile isDigit = r := by
          dsimp only at h
          split at h
          · exact eq_of_map_eq_ok h
          · split at h
            · cases h
            · exact eq_of_map_eq_ok h
        obtain ⟨hlt, hdigits⟩ := skipDigits_cons (t := u) hd
        subst hr
        split at hsign
        · cases hsign
          exact ⟨Nat.le_of_lt (Nat.lt_succ_of_lt hlt), by simp [skipExponent, hdigits, Except.map]⟩
        · cases hsign
          exact ⟨Nat.le_of_lt (Nat.lt_succ_of_lt hlt), by simp [skipExponent, hdigits, Except.map]⟩
        · next hplus hminus =>
          cases hsign
          have hnosign : ¬(d = 0x2b ∨ d = 0x2d) := by
            rintro (rfl | rfl)
            · exact hplus u rfl
            · exact hminus u rfl
          refine ⟨Nat.le_of_lt hlt, ?_⟩
          simp only [skipExponent, if_neg hnosign, hdigits, Except.map]
      · cases h

theorem skipOptionalExponent_of_ne {s : Bytes} (he : ∀ t, s ≠ 0x65 :: t) (hE : ∀ t, s ≠ 0x45 :: t) :
    skipOptionalExponent s = .ok ⟨s, Nat.le_refl _⟩ := by
  unfold skipOptionalExponent
  split
  · rfl
  · next b t =>
    rw [if_neg]
    rintro (rfl | rfl)
    · exact he t rfl
    · exact hE t rfl

theorem skipOptionalExponent_of_exponentPart {negative : Bool} {significand : Nat} {exponent : Int}
    {b : UInt8} {t r : Bytes} {x : Number} (hb : b = 0x65 ∨ b = 0x45)
    (h : exponentPart negative significand exponent t = .ok (x, r)) :
    ∃ hr, skipOptionalExponent (b :: t) = .ok ⟨r, hr⟩ := by
  obtain ⟨hr, hskip⟩ := skipExponent_of_exponentPart h
  refine ⟨Nat.le_succ_of_le hr, ?_⟩
  simp only [skipOptionalExponent, if_pos hb, hskip]
  rfl

theorem skipAfterInteger_of_skipOptionalExponent {d : UInt8} {t r : Bytes}
    (hd : isDigit d = true)
    (h : ∃ hr, skipOptionalExponent ((d :: t).dropWhile isDigit) = .ok ⟨r, hr⟩) :
    ∃ hr, skipAfterInteger (0x2e :: d :: t) = .ok ⟨r, hr⟩ := by
  obtain ⟨hr, hskip⟩ := h
  obtain ⟨hlt, hdigits⟩ := skipDigits_cons (t := t) hd
  refine ⟨Nat.le_trans hr (Nat.le_of_lt (Nat.lt_succ_of_lt hlt)), ?_⟩
  simp [skipAfterInteger, hdigits, hskip, Except.map]

theorem skipAfterInteger_of_fractionPart {negative : Bool} {significand : Nat} {exponent : Int}
    {t r : Bytes} {x : Number} (h : fractionPart negative significand exponent t = .ok (x, r)) :
    ∃ hr, skipAfterInteger (0x2e :: t) = .ok ⟨r, hr⟩ := by
  unfold fractionPart at h
  dsimp only at h
  split at h
  · cases h
  · cases h
  · next d digits rest hdigits =>
    cases t with
    | nil => cases hdigits
    | cons c u =>
      have hd : isDigit c = true := by
        by_cases hc : isDigit c = true
        · exact hc
        · rw [List.takeWhile_cons_of_neg hc] at hdigits
          cases hdigits
      refine skipAfterInteger_of_skipOptionalExponent hd ?_
      split at h
      · next v hv =>
        rw [hv]
        exact skipOptionalExponent_of_exponentPart (.inl rfl) h
      · next v hv =>
        rw [hv]
        exact skipOptionalExponent_of_exponentPart (.inr rfl) h
      · next he hE =>
        rw [← eq_of_map_eq_ok h]
        exact ⟨_, skipOptionalExponent_of_ne he hE⟩

theorem skipAfterInteger_of_afterInteger {negative : Bool} {significand dropped : Nat}
    {s r : Bytes} {x : Number} (h : afterInteger negative significand dropped s = .ok (x, r)) :
    ∃ hr, skipAfterInteger s = .ok ⟨r, hr⟩ := by
  unfold afterInteger at h
  split at h
  · exact skipAfterInteger_of_fractionPart h
  · next t => exact skipOptionalExponent_of_exponentPart (.inl rfl) h
  · next t => exact skipOptionalExponent_of_exponentPart (.inr rfl) h
  · next hpoint he hE =>
    have hrest : s = r := by
      split at h
      · cases h
        rfl
      · exact eq_of_map_eq_ok h
    subst hrest
    refine ⟨Nat.le_refl _, ?_⟩
    unfold skipAfterInteger
    split
    · rfl
    · next b t =>
      have hb : b ≠ 0x2e := by
        rintro rfl
        exact hpoint t rfl
      rw [if_neg hb]
      exact skipOptionalExponent_of_ne he hE

theorem result?_skipUnsigned {negative : Bool} {s r : Bytes} {n : Number}
    (h : unsigned negative s = .ok (n, r)) : (skipUnsigned s).result? = some ((), r) := by
  cases s with
  | nil => cases h
  | cons b t =>
    simp only [unsigned] at h
    split at h
    · next hb =>
      have hafter : afterInteger negative 0 0 t = .ok (n, r) ∧ t.head?.any isDigit = false := by
        split at h
        · next d u =>
          split at h
          · cases h
          · next hd => exact ⟨h, by simpa using hd⟩
        · exact ⟨h, rfl⟩
      obtain ⟨_, hskip⟩ := skipAfterInteger_of_afterInteger hafter.1
      simp [skipUnsigned, hb, hafter.2, hskip, Except.map]
    · next hzero =>
      split at h
      · next hb =>
        have hdrop : (b :: t).dropWhile isDigit = t.dropWhile isDigit :=
          List.dropWhile_cons_of_pos hb
        rw [hdrop] at h
        obtain ⟨_, hskip⟩ := skipAfterInteger_of_afterInteger h
        simp [skipUnsigned, hzero, hb, hskip, Except.map]
      · cases h

theorem result?_skipUnsigned_of_readUnsigned {negative : Bool} {s r : Bytes} {n : Number}
    (h : (readUnsigned negative s).result? = some (n, r)) :
    (skipUnsigned s).result? = some ((), r) := by
  unfold readUnsigned at h
  split at h
  · cases h
  · next hread =>
    cases h
    exact result?_skipUnsigned hread

/-! ## Values without parts -/

theorem result?_readWord {α : Type} {a : α} {letters s r : Bytes} {b : UInt8}
    (h : word letters s = .ok r) : (readWord a letters s (b := b)).result? = some (a, r) := by
  unfold readWord
  split
  · next hw =>
    rw [h] at hw
    cases hw
  · next hw =>
    rw [h] at hw
    cases hw
    rfl

theorem ne_of_isDigit {b c : UInt8} (hb : isDigit b = true) (hc : isDigit c = false) : b ≠ c := by
  rintro rfl
  rw [hb] at hc
  cases hc

theorem result?_skipScalar {b : UInt8} {t r : Bytes} {v : Json} (h : Begins levels b t v r)
    (hlist : b ≠ 0x5b) (hobject : b ≠ 0x7b) :
    (skipScalar (b :: t)).result? = some ((), r) := by
  cases h with
  | null hb h => simp [skipScalar, hb, result?_readWord h]
  | yes hb h => simp [skipScalar, hb, result?_readWord h]
  | no hb h => simp [skipScalar, hb, result?_readWord h]
  | string hb h => simp [skipScalar, hb, result?_skipString h]
  | negative hb h => simp [skipScalar, hb, result?_skipUnsigned_of_readUnsigned h]
  | positive hb h =>
    have hn := ne_of_isDigit hb (c := 0x6e) rfl
    have ht := ne_of_isDigit hb (c := 0x74) rfl
    have hf := ne_of_isDigit hb (c := 0x66) rfl
    have hquote := ne_of_isDigit hb (c := 0x22) rfl
    have hminus := ne_of_isDigit hb (c := 0x2d) rfl
    simp [skipScalar, hb, hn, ht, hf, hquote, hminus, result?_skipUnsigned_of_readUnsigned h]
  | array hb => exact absurd hb hlist
  | object hb => exact absurd hb hobject

/-! ## Commas and brackets -/

theorem skipBlanks_of_nextElement_close {s : Bytes} {rest : Rest s}
    (h : nextElement s = .ok (.close rest)) : skipBlanks s = 0x5d :: rest.1 := by
  unfold nextElement at h
  split at h
  · cases h
  · next b t hs =>
    dsimp only at h
    split at h
    · next hb =>
      cases h
      exact hb ▸ hs
    · split at h
      · split at h
        · cases h
        · split at h <;> cases h
      · cases h

theorem skipBlanks_of_nextElement_part {s t : Bytes} {ht : t.length ≤ s.length}
    (h : nextElement s = .ok (.part t ht)) :
    ∃ u, skipBlanks s = 0x2c :: u ∧ skipBlanks u = skipBlanks t := by
  unfold nextElement at h
  split at h
  · cases h
  · next b u hs =>
    dsimp only at h
    split at h
    · cases h
    · split at h
      · next hb =>
        split at h
        · cases h
        · next c w hu =>
          split at h
          · cases h
          · cases h
            exact ⟨u, hb ▸ hs, by rw [← hu, skipBlanks_skipBlanks]⟩
      · cases h

theorem skipBlanks_of_nextMember_close {s : Bytes} {rest : Rest s}
    (h : nextMember s = .ok (.close rest)) : skipBlanks s = 0x7d :: rest.1 := by
  unfold nextMember at h
  split at h
  · cases h
  · next b t hs =>
    dsimp only at h
    split at h
    · next hb =>
      cases h
      exact hb ▸ hs
    · split at h
      · split at h
        · cases h
        · split at h
          · cases h
          · split at h <;> cases h
      · cases h

theorem skipBlanks_of_nextMember_part {s t : Bytes} {ht : t.length ≤ s.length}
    (h : nextMember s = .ok (.part t ht)) :
    ∃ u, skipBlanks s = 0x2c :: u ∧ skipBlanks u = 0x22 :: t := by
  unfold nextMember at h
  split at h
  · cases h
  · next b u hs =>
    dsimp only at h
    split at h
    · cases h
    · split at h
      · next hb =>
        split at h
        · cases h
        · next c w hu =>
          split at h
          · next hc =>
            cases h
            exact ⟨u, hb ▸ hs, hc ▸ hu⟩
          · split at h <;> cases h
      · cases h

theorem result?_nextSkipped_list {s t : Bytes} {b : UInt8} (hs : skipBlanks s = b :: t) :
    (nextSkipped .list s).result? =
      if b = 0x5d then some (false, t) else if b = 0x2c then some (true, t) else none := by
  unfold nextSkipped
  split
  · next hs' =>
    rw [hs] at hs'
    cases hs'
  · next hs' =>
    rw [hs] at hs'
    cases hs'
    dsimp only
    split
    · rfl
    · split <;> rfl

theorem result?_nextSkipped_object_close {s t : Bytes} (hs : skipBlanks s = 0x7d :: t) :
    (nextSkipped .object s).result? = some (false, t) := by
  unfold nextSkipped
  split
  · next hs' =>
    rw [hs] at hs'
    cases hs'
  · next hs' =>
    rw [hs] at hs'
    cases hs'
    rfl

theorem result?_nextSkipped_object_key {s t u : Bytes} (hs : skipBlanks s = 0x2c :: t)
    (ht : skipBlanks t = 0x22 :: u) :
    (nextSkipped .object s).result? = (skipKey u).result?.map fun (_, r) => (true, r) := by
  unfold nextSkipped
  split
  · next hs' =>
    rw [hs] at hs'
    cases hs'
  · next hs' =>
    rw [hs] at hs'
    cases hs'
    dsimp only
    rw [if_neg (by decide), if_pos rfl]
    split
    · next ht' =>
      rw [ht] at ht'
      cases ht'
    · next ht' =>
      rw [ht] at ht'
      cases ht'
      simp

/-! ## Lists and objects -/

theorem skipOuter_cons_of_closed {bracket : Bracket} {outer : List Bracket} {start s r : Bytes}
    (hs : s.length < start.length) (hr : r.length < start.length)
    (h : (nextSkipped bracket s).result? = some (false, r)) :
    skipOuter (bracket :: outer) s hs = skipOuter outer r hr := by
  obtain ⟨_, hnext⟩ := Read.result?_eq_some_iff.1 h
  rw [skipOuter, hnext]
  rfl

theorem skipOuter_cons_of_more {bracket : Bracket} {outer : List Bracket} {start s r : Bytes}
    (hs : s.length < start.length) (hr : r.length ≤ start.length)
    (h : (nextSkipped bracket s).result? = some (true, r)) :
    skipOuter (bracket :: outer) s hs = skipValue (bracket :: outer) r hr := by
  obtain ⟨_, hnext⟩ := Read.result?_eq_some_iff.1 h
  rw [skipOuter, hnext]
  rfl

/-- Where a value is read, skipping comes to the same rest; blanks before the value do not count. -/
def SkipsTo (levels : Nat) : Prop :=
  ∀ ⦃s v r⦄, (readValue levels s).result? = some (v, r) →
    ∀ (outer : List Bracket) (start s' : Bytes) (hs : s'.length ≤ start.length)
      (hr : r.length < start.length), skipBlanks s' = skipBlanks s →
        skipValue outer s' hs = skipOuter outer r hr

theorem SkipsTo.elements (skips : SkipsTo levels) {s r : Bytes} {items : List Json}
    (h : Elements levels s items r) (outer : List Bracket) {start s' : Bytes}
    (hs : s.length ≤ start.length) (hs' : s'.length ≤ start.length) (hr : r.length < start.length)
    (hblanks : skipBlanks s' = skipBlanks s) :
    skipValue (.list :: outer) s' hs' = skipOuter outer r hr := by
  induction h generalizing s' with
  | last hv hturn =>
    have hw := Nat.lt_of_lt_of_le (Read.length_lt_of_result? hv) hs
    have hclose := skipBlanks_of_nextElement_close hturn
    rw [skips hv _ _ _ hs' hw hblanks]
    exact skipOuter_cons_of_closed _ _ (by rw [result?_nextSkipped_list hclose]; rfl)
  | @more _ w t _ _ _ ht hv hturn _ ih =>
    have hw := Nat.lt_of_lt_of_le (Read.length_lt_of_result? hv) hs
    obtain ⟨u, hcomma, hu⟩ := skipBlanks_of_nextElement_part hturn
    have hu' : u.length ≤ start.length :=
      Nat.le_of_lt (Nat.lt_trans (lt_of_skipBlanks_eq_cons hcomma) hw)
    rw [skips hv _ _ _ hs' hw hblanks,
      skipOuter_cons_of_more hw hu' (by rw [result?_nextSkipped_list hcomma]; rfl)]
    exact ih (Nat.le_trans ht (Nat.le_of_lt hw)) hu' hr hu

theorem result?_skipKey {s k r : Bytes} {key : String} {v : Json}
    (hkey : (readString s).result? = some (key, k))
    (hv : (afterColon (readValue levels) k).result? = some (v, r)) :
    ∃ u, (skipKey s).result? = some ((), u) ∧ (readValue levels u).result? = some (v, r) := by
  unfold afterColon at hv
  cases hc : colon k with
  | error e => simp [hc] at hv
  | ok u =>
    simp only [hc, Read.result?_inside] at hv
    refine ⟨u.1, ?_, hv⟩
    unfold skipKey
    rw [Read.result?_andThen, result?_skipString hkey, Option.bind_some]
    dsimp only
    rw [hc]
    rfl

theorem SkipsTo.members (skips : SkipsTo levels) {s r : Bytes} {members : List (String × Json)}
    (h : Members levels s members r) :
    ∃ u, (skipKey s).result? = some ((), u) ∧
      ∀ (outer : List Bracket) {start : Bytes} (hu : u.length ≤ start.length)
        (hr : r.length < start.length),
        skipValue (.object :: outer) u hu = skipOuter outer r hr := by
  induction h with
  | last hkey hv hturn =>
    obtain ⟨u, hskip, hvalue⟩ := result?_skipKey hkey hv
    refine ⟨u, hskip, ?_⟩
    intro outer start hu hr
    have hw := Nat.lt_of_lt_of_le (Read.length_lt_of_result? hvalue) hu
    have hclose := skipBlanks_of_nextMember_close hturn
    rw [skips hvalue _ _ _ hu hw rfl]
    exact skipOuter_cons_of_closed _ _ (result?_nextSkipped_object_close hclose)
  | @more _ _ w t _ _ _ _ ht hkey hv hturn _ ih =>
    obtain ⟨u, hskip, hvalue⟩ := result?_skipKey hkey hv
    refine ⟨u, hskip, ?_⟩
    intro outer start hu hr
    have hw := Nat.lt_of_lt_of_le (Read.length_lt_of_result? hvalue) hu
    obtain ⟨x, hcomma, hquote⟩ := skipBlanks_of_nextMember_part hturn
    obtain ⟨y, hy, hrest⟩ := ih
    have hy' : y.length ≤ start.length := Nat.le_of_lt
      (Nat.lt_trans (Nat.lt_of_lt_of_le (Read.length_lt_of_result? hy) ht) hw)
    have hmore : (nextSkipped .object w).result? = some (true, y) := by
      rw [result?_nextSkipped_object_key hcomma hquote, hy]
      rfl
    rw [skips hvalue _ _ _ hu hw rfl, skipOuter_cons_of_more hw hy' hmore]
    exact hrest outer hy' hr

/-! ## Values -/

theorem skipsTo (levels : Nat) : SkipsTo levels := by
  induction levels using Nat.strongRecOn with
  | ind levels ih =>
    intro s v r h outer start s' hs hr hblanks
    obtain ⟨b, t, hfirst, hbegins⟩ := begins_of_readValue h
    rw [hfirst] at hblanks
    rw [skipValue]
    split
    · next hs' =>
      rw [hblanks] at hs'
      cases hs'
    · next hs' =>
      rw [hblanks] at hs'
      cases hs'
      dsimp only
      split
      · next hb =>
        subst hb
        obtain ⟨inner, items, rfl, -, hlist⟩ := hbegins.array_of_bracket
        cases hlist with
        | empty hturn => rw [hturn]
        | @elements u _ _ hu hturn hitems =>
          have hus : u.length ≤ start.length :=
            Nat.le_of_lt (Nat.lt_of_le_of_lt hu (Nat.lt_of_lt_of_le
              (lt_of_skipBlanks_eq_cons hblanks) hs))
          rw [hturn]
          exact (ih inner (Nat.lt_succ_self inner)).elements hitems outer hus _ hr rfl
      · next hlist =>
        split
        · next hb =>
          subst hb
          obtain ⟨inner, members, rfl, -, hobject⟩ := hbegins.object_of_brace
          cases hobject with
          | empty hturn => rw [hturn]
          | members hturn hmembers =>
            obtain ⟨k, hkey, hrest⟩ := (ih inner (Nat.lt_succ_self inner)).members hmembers
            obtain ⟨hk, hkey⟩ := Read.result?_eq_some_iff.1 hkey
            rw [hturn]
            dsimp only
            rw [hkey]
            exact hrest outer _ hr
        · next hobject =>
          have hskip := result?_skipScalar hbegins hlist hobject
          obtain ⟨_, hread⟩ := Read.result?_eq_some_iff.1 hskip
          rw [hread]

/-- Skipping takes a value whatever it is. -/
theorem follows_skip (levels : Nat) : Follows (readValue levels) skip fun _ => some () := by
  intro s v r h
  have hr := Read.length_lt_of_result? h
  unfold skip
  rw [skipsTo levels h [] s s (length_le_self s) hr rfl, skipOuter]
  rfl

end StatusPanel.Json
