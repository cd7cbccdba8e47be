import StatusPanel.Bytes

/-!
# Files

A path leads through directories, piece by piece. Here files are kept by the place that their path
leads to; a directory is there if it holds a file, or if it is where paths begin.
-/

namespace StatusPanel

/-- Why a file cannot be read or written. -/
inductive FileFault where
  | notFound
  | notDirectory
  | isDirectory
  deriving DecidableEq

/-- The fault as the operating system tells it. -/
def FileFault.text : FileFault → String
  | .notFound => "No such file or directory (os error 2)"
  | .notDirectory => "Not a directory (os error 20)"
  | .isDirectory => "Is a directory (os error 21)"

namespace Path

/-- What tells a path from others: its pieces, without empty ones and without dots, except for a
slash or a dot in front. -/
def components (path : String) : List String :=
  let pieces := path.splitOn "/"
  let named := pieces.filter fun piece => piece ≠ "" ∧ piece ≠ "."
  if path.startsWith "/" then "/" :: named
  else if pieces.head? = some "." then "." :: named
  else named

/-- Where relative and absolute paths begin. -/
def start (path : String) : List String :=
  if path.startsWith "/" then ["/"] else []

/-- One piece further from a place. -/
def enter (place : List String) (piece : String) : List String :=
  if piece = "" ∨ piece = "." then place
  else if piece = ".." ∧ place.getLast?.any (· ≠ "..") then
    if place = ["/"] then place else place.dropLast
  else place ++ [piece]

end Path

/-- Files by their places. -/
structure Files where
  entries : List (List String × Bytes) := []

namespace Files

/-- Is there a directory at a place? -/
def isDirectory (f : Files) (place : List String) : Bool :=
  place.all (· = "..") || place = ["/"] ||
    f.entries.any fun (file, _) => place.isPrefixOf file && place ≠ file

/-- The place that the pieces of a path lead to. All but the last have to lead to directories. -/
def follow (f : Files) (place : List String) : List String → Except FileFault (List String)
  | [] => .ok place
  | [last] => .ok (Path.enter place last)
  | piece :: rest =>
    let next := Path.enter place piece
    if f.isDirectory next then f.follow next rest
    else if (f.entries.lookup next).isSome then .error .notDirectory
    else .error .notFound

/-- The place of a path. -/
def place (f : Files) (path : String) : Except FileFault (List String) :=
  if path = "" then .error .notFound else f.follow (Path.start path) (path.splitOn "/")

/-- The contents of a file. -/
def read (f : Files) (path : String) : Except FileFault Bytes := do
  let place ← f.place path
  match f.entries.lookup place with
  | some contents => .ok contents
  | none => .error (if f.isDirectory place then .isDirectory else .notFound)

/-- The files with one at a place, instead of any that was there. -/
def put (f : Files) (place : List String) (contents : Bytes) : Files :=
  ⟨(place, contents) :: f.entries.filter fun (file, _) => file ≠ place⟩

/-- Writes a file, which may be a new one. Its directory has to be there. -/
def write (f : Files) (path : String) (contents : Bytes) : Except FileFault Files := do
  if path ≠ "" ∧ path.endsWith "/" then
    let _ ← f.follow (Path.start path) ((path.splitOn "/").filter (· ≠ ""))
    .error .isDirectory
  else
    let place ← f.place path
    if f.isDirectory place then .error .isDirectory else .ok (f.put place contents)

/-- The files without the one at a place. -/
def remove (f : Files) (place : List String) : Files :=
  ⟨f.entries.filter fun (file, _) => file ≠ place⟩

/-- The contents of a file that is put is found again, and no other is changed. -/
theorem lookup_put (f : Files) (place other : List String) (contents : Bytes) :
    (f.put place contents).entries.lookup other =
      if other = place then some contents else f.entries.lookup other := by
  simp only [put, List.lookup_cons]
  by_cases h : other = place
  · simp [h]
  · have hb : (other == place) = false := by simpa using h
    simp only [hb, h, if_false]
    induction f.entries with
    | nil => rfl
    | cons entry rest ih =>
      obtain ⟨file, old⟩ := entry
      by_cases hf : file = place
      · subst hf
        rw [List.filter_cons_of_neg (by simp), ih, List.lookup_cons, hb]
      · rw [List.filter_cons_of_pos (by simpa using hf), List.lookup_cons, List.lookup_cons, ih]

end Files

end StatusPanel
