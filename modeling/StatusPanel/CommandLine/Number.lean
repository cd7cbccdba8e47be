import StatusPanel.Floating.Integer

/-!
# Numbers on the command line

Whole numbers are decimal digits after an optional sign. Other numbers may also have a fraction and
an exponent, or be one of the words for infinity and NaN; they are rounded once.
-/

namespace StatusPanel.CommandLine

/-- The value of decimal digits, if there are any and nothing else. -/
def digits? (text : List Char) : Option Nat :=
  if !text.isEmpty && text.all Char.isDigit then
    some (text.foldl (fun n c => n * 10 + (c.toNat - '0'.toNat)) 0)
  else none

/-- A sign, `true` for a minus, and what follows it. -/
def sign (text : List Char) : Bool × List Char :=
  match text with
  | '-' :: rest => (true, rest)
  | '+' :: rest => (false, rest)
  | rest => (false, rest)

/-- A whole number below `limit`; negative zero is one. -/
def whole? (limit : Nat) (text : String) : Option Nat := do
  let (negative, rest) := sign text.toList
  let n ← digits? rest
  guard (n < limit ∧ ¬(negative ∧ n ≠ 0))
  return n

/-- A whole number below `limit` without a minus. -/
def natural? (limit : Nat) (text : String) : Option Nat := do
  guard (!(sign text.toList).1)
  whole? limit text

/-- The digits before and after a point, and what follows them. There has to be one of them. -/
def mantissa? (text : List Char) : Option (List Char × List Char × List Char) :=
  let before := text.takeWhile Char.isDigit
  let rest := text.dropWhile Char.isDigit
  let (after, rest) :=
    match rest with
    | '.' :: fraction => (fraction.takeWhile Char.isDigit, fraction.dropWhile Char.isDigit)
    | rest => ([], rest)
  if before.isEmpty && after.isEmpty then none else some (before, after, rest)

/-- An exponent, if the text is one or empty. -/
def exponent? (text : List Char) : Option Int :=
  match text with
  | [] => some 0
  | e :: rest =>
    if e = 'e' ∨ e = 'E' then
      let (negative, rest) := sign rest
      (digits? rest).map fun n => if negative then -(n : Int) else n
    else none

/-- The number `digits * 10 ^ exponent`, with `count` digits. Where it is certain to round to zero
or infinity, the power is not computed. -/
def decimal (negative : Bool) (digits count : Nat) (exponent : Int) : Single :=
  if digits = 0 then .ofRatio negative 0 1
  else if 60 < exponent then .infinite negative
  else if 0 ≤ exponent then .ofRatio negative ((digits * Nat.pow 10 exponent.toNat) <<< 149) 1
  else if (count : Int) + 60 < -exponent then .ofRatio negative 0 1
  else .ofRatio negative (digits <<< 149) (Nat.pow 10 (-exponent).toNat)

/-- A number. -/
def single? (text : String) : Option Single := do
  let (negative, rest) := sign text.toList
  let word := String.ofList (rest.map Char.toLower)
  if word = "inf" ∨ word = "infinity" then return .infinite negative
  if word = "nan" then return .nan
  let (before, after, rest) ← mantissa? rest
  let exponent ← exponent? rest
  let digits ← digits? (before ++ after)
  return decimal negative digits (before.length + after.length) (exponent - after.length)

end StatusPanel.CommandLine
