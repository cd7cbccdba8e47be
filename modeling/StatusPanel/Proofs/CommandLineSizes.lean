import Mathlib.Data.Option.Basic
import StatusPanel.CommandLine.Reader

/-!
# Sizes from the command line

Whatever the arguments are, the panel that they ask for has a size that fits in 32 bits
(`read_isSized`): it does in the choices read so far, and every argument that is taken keeps it so.
What a reading comes to is followed through its failures too, since a request for help is one.
-/

namespace StatusPanel

/-- The size of the panel fits in 32 bits. -/
def Settings.IsSized (s : Settings) : Prop :=
  s.width < 1 <<< 32 ∧ s.height < 1 <<< 32

namespace CommandLine

/-- If the command is about a panel, the size of the panel fits in 32 bits. -/
def Command.IsSized : Command → Prop
  | .serve settings => settings.IsSized
  | .render settings _ _ _ => settings.IsSized
  | _ => True

/-- A reading that keeps to sizes that fit, both in what it gives and in what it ends with. -/
def Keeps {α : Type} (good : α → Prop) : Except Command α → Prop
  | .ok a => good a
  | .error c => c.IsSized

section

variable {α β : Type} {good : α → Prop} {result : Except Command α} (h : Keeps good result)

include h in
theorem Keeps.bind {better : β → Prop} {next : α → Except Command β}
    (hnext : ∀ a, good a → Keeps better (next a)) : Keeps better (result >>= next) := by
  cases result with
  | ok a => exact hnext a h
  | error c => exact h

include h in
theorem Keeps.map {better : β → Prop} {f : α → β} (hf : ∀ a, good a → better (f a)) :
    Keeps better (result.map f) := by
  cases result with
  | ok a => exact hf a h
  | error c => exact h

end

/-! ## Choices -/

theorem lt_of_whole? {limit n : Nat} {text : String} (h : whole? limit text = some n) :
    n < limit := by
  unfold whole? at h
  simp only [Option.bind_eq_bind, Option.bind_eq_some_iff] at h
  obtain ⟨m, -, _, hguard, hm⟩ := h
  cases hm
  exact ((Option.guard_eq_some' _).1 hguard).1

namespace Choices

/-- The size chosen so far fits in 32 bits. -/
def IsSized (c : Choices) : Prop :=
  (∀ n, c.width = some n → n < 1 <<< 32) ∧ (∀ n, c.height = some n → n < 1 <<< 32)

theorem isSized_empty : IsSized {} :=
  ⟨nofun, nofun⟩

theorem eq_of_fresh {α : Type} {old new chosen : Option α} (h : fresh old new = some chosen) :
    chosen = new := by
  unfold fresh at h
  split at h
  · cases h
  · exact (Option.some.inj h).symm

theorem IsSized.set {c chosen : Choices} (h : c.IsSized) {p : Parameter} {value : String}
    (hset : c.set p value = some chosen) : chosen.IsSized := by
  cases p with
  | width =>
    obtain ⟨width, hwidth, rfl⟩ := Option.map_eq_some_iff.1 hset
    cases eq_of_fresh hwidth
    exact ⟨fun n hn => lt_of_whole? hn, h.2⟩
  | height =>
    obtain ⟨height, hheight, rfl⟩ := Option.map_eq_some_iff.1 hset
    cases eq_of_fresh hheight
    exact ⟨h.1, fun n hn => lt_of_whole? hn⟩
  | help | version =>
    cases hset
    exact h
  | _ =>
    obtain ⟨_, _, rfl⟩ := Option.map_eq_some_iff.1 hset
    exact h

theorem IsSized.settings {outer inner : Choices} (houter : outer.IsSized)
    (hinner : inner.IsSized) : (outer.settings inner).IsSized := by
  have hchosen {first second : Option Nat} (limit default : Nat) (hdefault : default < limit)
      (hfirst : ∀ n, first = some n → n < limit) (hsecond : ∀ n, second = some n → n < limit) :
      (first <|> second).getD default < limit := by
    cases first with
    | some n => exact hfirst n rfl
    | none =>
      cases second with
      | some n => exact hsecond n rfl
      | none => exact hdefault
  exact ⟨hchosen _ _ (by decide) hinner.1 houter.1, hchosen _ _ (by decide) hinner.2 houter.2⟩

end Choices

/-! ## Arguments one after the other -/

namespace Reading

/-- The size chosen in what has been read fits in 32 bits. -/
def IsSized (r : Reading) : Prop :=
  r.choices.IsSized

variable {r : Reading} (h : r.IsSized)

include h in
theorem IsSized.withPending (pending : Option (Parameter × Option String)) :
    ({ r with pending } : Reading).IsSized :=
  h

include h in
theorem keeps_settle : Keeps IsSized r.settle := by
  unfold settle
  split
  · exact h
  · trivial
  · split
    · next hset => exact Choices.IsSized.set h hset
    · trivial

include h in
theorem keeps_take (p : Parameter) (attached : Option String) :
    Keeps IsSized (r.take p attached) := by
  refine (keeps_settle h).bind fun settled hsettled => ?_
  split
  · trivial
  · trivial
  · split
    · exact keeps_settle (hsettled.withPending _)
    · split
      · exact hsettled
      · exact keeps_settle (hsettled.withPending _)

include h in
theorem keeps_takeWord (word : List Char) : Keeps IsSized (r.takeWord word) := by
  have htaken (p : Parameter) (attached : Option String) : Keeps IsSized
      (if attached.isSome && !p.takesValue then .error .refused else r.take p attached) := by
    split
    · trivial
    · exact keeps_take h p attached
  unfold takeWord
  dsimp only
  cases Parameter.ofName? r.level (String.ofList (word.takeWhile (· ≠ '='))) with
  | none => trivial
  | some p => exact htaken p _

include h in
theorem keeps_takeOption (arg : List Char) : Keeps IsSized (r.takeOption arg) := by
  unfold takeOption
  split
  · trivial
  · split
    · exact keeps_takeWord h _
    · unfold takeLetter
      split
      · trivial
      · split <;> exact keeps_take h _ _
    · trivial

end Reading

theorem keeps_readInside {r : Reading} (h : r.IsSized) (args : List String) :
    Keeps Choices.IsSized (readInside r args) := by
  have hend {r : Reading} (h : r.IsSized) :
      Keeps Choices.IsSized (r.settle.map Reading.choices) :=
    (Reading.keeps_settle h).map fun _ hsettled => hsettled
  induction args generalizing r with
  | nil => exact hend h
  | cons arg rest ih =>
    unfold readInside
    split
    · split
      · exact hend h
      · trivial
    · split
      · have hkept := Reading.keeps_takeOption h arg.toList
        split
        · next htake => exact ih (by rwa [htake] at hkept)
        · next htake => rwa [htake] at hkept
      · split
        · exact ih (h.withPending _)
        · trivial

theorem keeps_readCommand {outside : Reading} (h : outside.IsSized) (level : Level)
    (args : List String) : Keeps Command.IsSized (readCommand outside level args) := by
  have hinside : Reading.IsSized { level } := Choices.isSized_empty
  refine (keeps_readInside hinside args).bind fun inner hinner => ?_
  split
  · split
    · exact (Reading.keeps_settle h).bind fun _ houter => Choices.IsSized.settings houter hinner
    · trivial
  · exact (Reading.keeps_settle h).bind fun _ houter => Choices.IsSized.settings houter hinner

theorem keeps_readOutside {r : Reading} (h : r.IsSized) (args : List String) :
    Keeps Command.IsSized (readOutside r args) := by
  have hserve {r : Reading} (h : r.IsSized) : Keeps Command.IsSized
      (r.settle.map fun r => .serve (r.choices.settings {})) :=
    (Reading.keeps_settle h).map fun _ hsettled =>
      Choices.IsSized.settings hsettled Choices.isSized_empty
  induction args generalizing r with
  | nil => exact hserve h
  | cons arg rest ih =>
    unfold readOutside
    split
    · split
      · exact hserve h
      · trivial
    · split
      · have hkept := Reading.keeps_takeOption h arg.toList
        split
        · next htake => exact ih (by rwa [htake] at hkept)
        · next htake => rwa [htake] at hkept
      · split
        · exact ih (h.withPending _)
        · split
          · exact keeps_readCommand h _ _
          · exact keeps_readCommand h _ _
          · split
            · trivial
            · split <;> trivial
            · trivial
          · trivial

/-- **Whatever the arguments are, the panel has a size that fits in 32 bits.** -/
theorem read_isSized (args : List String) : (read args).IsSized := by
  have hempty : Reading.IsSized { level := .outside } := Choices.isSized_empty
  have hkept := keeps_readOutside hempty args
  unfold read
  split
  · next hread => rwa [hread] at hkept
  · next hread => rwa [hread] at hkept

end CommandLine

end StatusPanel
