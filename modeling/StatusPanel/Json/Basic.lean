import StatusPanel.Floating.Integer

/-!
# JSON values

A value keeps the members of an object in the order in which they stand, repeated names included.
-/

namespace StatusPanel.Json

/-- A number as it is written: a whole number of 64 bits, or any other. -/
inductive Number where
  | whole (value : Int)
  | real (value : Double)
  deriving DecidableEq

/-- The number in a floating-point format, rounded once. -/
def Number.toFloating {f : Format} : Number → Floating f
  | .whole n => .ofInt n
  | .real x => x.convert

end Json

/-- A JSON value. -/
inductive Json where
  | null
  | boolean (value : Bool)
  | number (value : Json.Number)
  | string (value : String)
  | array (items : List Json)
  | object (members : List (String × Json))

namespace Json

/-! ## Equality

Values are nested in lists of values and of members, and so are the comparisons of them. -/

mutual

/-- Are two values made of the same parts? -/
def same : Json → Json → Bool
  | .null, .null => true
  | .boolean a, .boolean b => a = b
  | .number m, .number n => m = n
  | .string s, .string t => s = t
  | .array v, .array w => sameItems v w
  | .object v, .object w => sameMembers v w
  | _, _ => false

def sameItems : List Json → List Json → Bool
  | [], [] => true
  | v :: vs, w :: ws => same v w && sameItems vs ws
  | _, _ => false

def sameMembers : List (String × Json) → List (String × Json) → Bool
  | [], [] => true
  | (name, v) :: vs, (other, w) :: ws => name = other && (same v w && sameMembers vs ws)
  | _, _ => false

end

mutual

theorem same_iff : (v w : Json) → (same v w = true ↔ v = w)
  | .null, w => by cases w <;> simp [same]
  | .boolean _, w => by cases w <;> simp [same]
  | .number _, w => by cases w <;> simp [same]
  | .string _, w => by cases w <;> simp [same]
  | .array v, w => by
    cases w with
    | array w => simp [same, sameItems_iff v w]
    | _ => simp [same]
  | .object v, w => by
    cases w with
    | object w => simp [same, sameMembers_iff v w]
    | _ => simp [same]

theorem sameItems_iff : (v w : List Json) → (sameItems v w = true ↔ v = w)
  | [], w => by cases w <;> simp [sameItems]
  | _ :: _, [] => by simp [sameItems]
  | v :: vs, w :: ws => by simp [sameItems, same_iff v w, sameItems_iff vs ws]

theorem sameMembers_iff : (v w : List (String × Json)) → (sameMembers v w = true ↔ v = w)
  | [], w => by cases w <;> simp [sameMembers]
  | _ :: _, [] => by simp [sameMembers]
  | (name, v) :: vs, (other, w) :: ws => by
    simp [sameMembers, same_iff v w, sameMembers_iff vs ws, and_assoc]

end

instance : DecidableEq Json := fun v w => decidable_of_iff _ (same_iff v w)

end Json

end StatusPanel
