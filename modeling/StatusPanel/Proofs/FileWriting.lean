import StatusPanel.Files

/-!
# Writing files

A file that can be written lies in a directory that is there already (`Holds.exists_parent`), so
writing it makes no new directory (`isDirectory_put`) and paths lead where they led before
(`Holds.place_put`). Hence a file that was written is read again (`Holds.read_put`), every other
file is read as before (`Holds.sameBut_put`), and what could be written still can
(`Holds.put`).
-/

namespace StatusPanel

namespace Files

variable {f : Files} {place : List String}

/-! ## Directories -/

theorem isDirectory_iff : f.isDirectory place = true ↔
    (∀ piece ∈ place, piece = "..") ∨ place = ["/"] ∨
      ∃ entry ∈ f.entries, place <+: entry.1 ∧ place ≠ entry.1 := by
  simp [isDirectory, or_assoc]

theorem isDirectory_start (path : String) : f.isDirectory (Path.start path) = true := by
  unfold Path.start
  rw [isDirectory_iff]
  split
  · exact .inr (.inl rfl)
  · exact .inl nofun

/-- What leads to a directory leads through directories. -/
theorem isDirectory_of_append {more : List String} (h : f.isDirectory (place ++ more) = true) :
    f.isDirectory place = true := by
  rw [isDirectory_iff] at h ⊢
  rcases h with hup | hroot | ⟨entry, hentry, hbelow, hne⟩
  · exact .inl fun piece hpiece => hup piece (List.mem_append_left _ hpiece)
  · rcases List.append_eq_singleton_iff.1 hroot with ⟨rfl, -⟩ | ⟨rfl, -⟩
    · exact .inl nofun
    · exact .inr (.inl rfl)
  · refine .inr (.inr ⟨entry, hentry, (List.prefix_append ..).trans hbelow, ?_⟩)
    rintro rfl
    exact hne (hbelow.eq_of_length_le (by simp))

/-- A step from a directory to no directory is one piece further. -/
theorem enter_eq_append {piece : String} (hplace : f.isDirectory place = true)
    (h : f.isDirectory (Path.enter place piece) = false) :
    Path.enter place piece = place ++ [piece] := by
  have hstay : Path.enter place piece ≠ place := by
    intro heq
    rw [heq, hplace] at h
    cases h
  have hback : Path.enter place piece ≠ place.dropLast := by
    intro heq
    have hparent : f.isDirectory place.dropLast = true := by
      by_cases hnil : place = []
      · rw [hnil] at hplace ⊢
        exact hplace
      · rw [← List.dropLast_concat_getLast hnil] at hplace
        exact isDirectory_of_append hplace
    rw [heq, hparent] at h
    cases h
  unfold Path.enter at hstay hback ⊢
  split
  · next hnone => exact absurd (if_pos hnone) hstay
  · next hsome =>
    rw [if_neg hsome] at hstay hback
    split
    · next hup =>
      rw [if_pos hup] at hstay hback
      split
      · next hroot => exact absurd (if_pos hroot) hstay
      · next hroot => exact absurd (if_neg hroot) hback
    · rfl

/-- All but the last piece of what is followed lead to directories. -/
theorem follow_cons_cons_eq_ok_iff {start : List String} {piece next : String}
    {rest : List String} : f.follow start (piece :: next :: rest) = .ok place ↔
      f.isDirectory (Path.enter start piece) = true ∧
        f.follow (Path.enter start piece) (next :: rest) = .ok place := by
  simp only [follow]
  split
  · next h => simp [h]
  · next h => split <;> simp [h]

/-- What is followed to no directory lies in a directory. -/
theorem exists_parent_of_follow {start pieces : List String} (hstart : f.isDirectory start = true)
    (hfollow : f.follow start pieces = .ok place) (h : f.isDirectory place = false) :
    ∃ parent piece, f.isDirectory parent = true ∧ place = parent ++ [piece] := by
  induction pieces generalizing start with
  | nil =>
    cases hfollow
    rw [hstart] at h
    cases h
  | cons piece rest ih =>
    cases rest with
    | nil =>
      cases hfollow
      exact ⟨start, piece, hstart, enter_eq_append hstart h⟩
    | cons next rest =>
      obtain ⟨hnext, hrest⟩ := follow_cons_cons_eq_ok_iff.1 hfollow
      exact ih hnext hrest

/-- Paths lead where they led as long as directories are what they were. -/
theorem follow_of_isDirectory_eq {g : Files}
    (hsame : ∀ place, g.isDirectory place = f.isDirectory place) {start pieces : List String}
    (h : f.follow start pieces = .ok place) :
    g.follow start pieces = .ok place := by
  induction pieces generalizing start with
  | nil => exact h
  | cons piece rest ih =>
    cases rest with
    | nil => exact h
    | cons next rest =>
      rw [follow_cons_cons_eq_ok_iff] at h ⊢
      exact ⟨(hsame _).trans h.1, ih h.2⟩

/-! ## Places where a file can be written -/

/-- Something can be written to a path. -/
def Writable (f : Files) (path : String) : Prop :=
  ∃ contents after, f.write path contents = .ok after

/-- A path leads to a place where a file is or can be. -/
structure Holds (f : Files) (path : String) (place : List String) : Prop where
  named : ¬(path ≠ "" ∧ path.endsWith "/")
  place_eq : f.place path = .ok place
  not_isDirectory : f.isDirectory place = false

theorem Holds.write_eq {path : String} (h : f.Holds path place) (contents : Bytes) :
    f.write path contents = .ok (f.put place contents) := by
  rw [write, if_neg h.named, h.place_eq]
  simp [bind, Except.bind, h.not_isDirectory]

theorem Holds.writable {path : String} (h : f.Holds path place) : f.Writable path :=
  ⟨[], _, h.write_eq []⟩

theorem Writable.exists_holds {path : String} (h : f.Writable path) :
    ∃ place, f.Holds path place := by
  obtain ⟨contents, after, hwrite⟩ := h
  unfold write at hwrite
  split at hwrite
  · simp only [bind, Except.bind] at hwrite
    split at hwrite <;> cases hwrite
  · next hnamed =>
    cases hplace : f.place path with
    | error fault => simp [hplace, bind, Except.bind] at hwrite
    | ok place =>
      cases hdirectory : f.isDirectory place with
      | true => simp [hplace, hdirectory, bind, Except.bind] at hwrite
      | false => exact ⟨place, hnamed, hplace, hdirectory⟩

theorem Holds.exists_parent {path : String} (h : f.Holds path place) :
    ∃ parent piece, f.isDirectory parent = true ∧ place = parent ++ [piece] := by
  have hplace := h.place_eq
  unfold Files.place at hplace
  split at hplace
  · cases hplace
  · exact exists_parent_of_follow (isDirectory_start path) hplace h.not_isDirectory

/-! ## After a file was written -/

/-- A file makes no directory but those that lead to it. -/
theorem isDirectory_put {parent : List String} (hparent : f.isDirectory parent = true)
    (piece : String) (contents : Bytes) (other : List String) :
    (f.put (parent ++ [piece]) contents).isDirectory other = f.isDirectory other := by
  rw [Bool.eq_iff_iff]
  constructor
  · intro h
    rcases isDirectory_iff.1 h with hup | hroot | ⟨entry, hentry, hbelow, hne⟩
    · exact isDirectory_iff.2 (.inl hup)
    · exact isDirectory_iff.2 (.inr (.inl hroot))
    · rcases List.mem_cons.1 hentry with rfl | hold
      · obtain ⟨more, hmore⟩ := (List.prefix_concat_iff.1 hbelow).resolve_left hne
        rw [← hmore] at hparent
        exact isDirectory_of_append hparent
      · exact isDirectory_iff.2 (.inr (.inr ⟨entry, (List.mem_filter.1 hold).1, hbelow, hne⟩))
  · intro h
    rcases isDirectory_iff.1 h with hup | hroot | ⟨entry, hentry, hbelow, hne⟩
    · exact isDirectory_iff.2 (.inl hup)
    · exact isDirectory_iff.2 (.inr (.inl hroot))
    · refine isDirectory_iff.2 (.inr (.inr ?_))
      by_cases hsame : entry.1 = parent ++ [piece]
      · rw [hsame] at hbelow hne
        exact ⟨(parent ++ [piece], contents), List.mem_cons_self, hbelow, hne⟩
      · refine ⟨entry, List.mem_cons_of_mem _ (List.mem_filter.2 ⟨hentry, ?_⟩), hbelow, hne⟩
        simpa using hsame

section

variable {path : String} (h : f.Holds path place) (contents : Bytes)

include h in
theorem Holds.isDirectory_put (other : List String) :
    (f.put place contents).isDirectory other = f.isDirectory other := by
  obtain ⟨parent, piece, hparent, rfl⟩ := h.exists_parent
  exact Files.isDirectory_put hparent piece contents other

include h in
/-- Paths lead where they led before. -/
theorem Holds.place_put {other : String} {target : List String}
    (hother : f.place other = .ok target) : (f.put place contents).place other = .ok target := by
  unfold Files.place at hother ⊢
  split at hother
  · cases hother
  · next hne =>
    rw [if_neg hne]
    exact follow_of_isDirectory_eq (h.isDirectory_put contents) hother

include h in
/-- **What could be written still can.** -/
theorem Holds.put {other : String} {target : List String} (hother : f.Holds other target) :
    (f.put place contents).Holds other target :=
  ⟨hother.named, h.place_put contents hother.place_eq,
    (h.isDirectory_put contents target).trans hother.not_isDirectory⟩

include h in
theorem Holds.read_eq : f.read path =
    match f.entries.lookup place with
    | some contents => .ok contents
    | none => .error .notFound := by
  unfold Files.read
  rw [h.place_eq]
  simp only [bind, Except.bind]
  cases f.entries.lookup place with
  | none => simp [h.not_isDirectory]
  | some contents => rfl

include h in
/-- **A file that was written is read again.** -/
theorem Holds.read_put : (f.put place contents).read path = .ok contents := by
  rw [Holds.read_eq (h.put contents h), lookup_put, if_pos rfl]

end

/-- It still is when another file was written after it. -/
theorem Holds.read_put_put {path other : String} {target : List String} (h : f.Holds path place)
    (hother : f.Holds other target) (hne : target ≠ place) (contents more : Bytes) :
    ((f.put place contents).put target more).read path = .ok contents := by
  have hlast := (h.put contents hother).put more (h.put contents h)
  rw [hlast.read_eq, lookup_put, if_neg hne.symm, lookup_put, if_pos rfl]

/-- Files that none of the given paths leads to are read as before. -/
def SameBut (before after : Files) (paths : List String) : Prop :=
  ∀ other place, before.place other = .ok place →
    (∀ path ∈ paths, before.place path ≠ .ok place) → after.read other = before.read other

/-- **Every other file is read as before.** -/
theorem Holds.sameBut_put {path : String} (h : f.Holds path place) (contents : Bytes) :
    f.SameBut (f.put place contents) [path] := by
  intro other target hother hne
  have hplace : target ≠ place := by
    rintro rfl
    exact hne path List.mem_cons_self h.place_eq
  unfold Files.read
  rw [hother, h.place_put contents hother]
  simp only [bind, Except.bind, lookup_put, if_neg hplace, h.isDirectory_put contents]

/-- So it is when two files are written one after the other. -/
theorem Holds.sameBut_put_put {path other : String} {target : List String}
    (h : f.Holds path place) (hother : f.Holds other target) (contents more : Bytes) :
    f.SameBut ((f.put place contents).put target more) [path, other] := by
  intro third aim hthird hne
  have hpath : f.place path ≠ .ok aim := hne path (by simp)
  have haim : f.place other ≠ .ok aim := hne other (by simp)
  have hlast := h.put contents hother
  calc ((f.put place contents).put target more).read third
      = (f.put place contents).read third := by
        refine hlast.sameBut_put more third aim (h.place_put contents hthird) ?_
        simpa [hlast.place_eq, hother.place_eq] using haim
    _ = f.read third := h.sameBut_put contents third aim hthird (by simpa using hpath)

end Files

end StatusPanel
