import InterfaceSchema.FileSystem

/-!
# Disks

What a run relies on, and nothing more, of the disk that it is carried out on. **A whole file is read or
written at a path, or that fails without effect**: a failure has no state after it. A write that succeeds
writes to the file that the path leads to, and to no other; which file that is, and whether there is one that
several paths lead to, is the disk's to say.

A `FileSystem` is such a disk, seen from a working directory.
-/

namespace InterfaceSchema

/-- **A disk.** -/
structure Disk where
  /-- What the disk holds at some time. -/
  State : Type
  /-- Where on the disk something can be. -/
  Location : Type
  /-- What is at a location, if anything. -/
  entry? : State → Location → Option Entry
  /-- The location that writing to a path writes to. -/
  locate? : State → String → Option Location
  /-- The content of the file at a path. -/
  read : State → String → Except FileError (List UInt8)
  /-- A file written at a path, and its path in normal form. -/
  write : State → String → List UInt8 → Except FileError (State × String)
  /-- **A write that succeeds** leaves the bytes where the path leads, and everything else as it was. -/
  write_ok {s s' : State} {path written : String} {content : List UInt8}
      (h : write s path content = .ok (s', written)) :
    ∃ location, locate? s path = some location ∧ locate? s' path = some location ∧
      entry? s' location = some (.file content) ∧
      ∀ other, other ≠ location → entry? s' other = entry? s other

namespace FileSystem

variable {fs : FileSystem} {place other directory : Place} {content : List UInt8}

/-- What is put at a place is there. -/
theorem entry?_put_self (hplace : place ≠ []) :
    entry? (fs.put place content) place = some (.file content) := by
  rw [ entry?, if_neg hplace, put, List.lookup_cons_self]

/-- What is put at a place is nowhere else. -/
theorem entry?_put_of_ne (hother : other ≠ place) :
    entry? (fs.put place content) other = fs.entry? other := by
  have hlookup : ∀ entries : List (Place × Entry),
      (entries.filter fun entry => entry.1 != place).lookup other = entries.lookup other := by
    intro entries
    induction entries with
    | nil => rfl
    | cons entry entries ih =>
      obtain ⟨first, entry⟩ := entry
      by_cases hfirst : first = place
      · have hne : (other == first) = false := by simpa [hfirst] using hother
        rw [List.filter_cons_of_neg (by simpa using hfirst), List.lookup_cons, hne, ih]
      · rw [List.filter_cons_of_pos (by simpa using hfirst), List.lookup_cons, List.lookup_cons, ih]
  have hne : (other == place) = false := by simpa using hother
  rw [ entry?, entry?, put, List.lookup_cons, hne, hlookup]

/-- A place that is a directory is a step as it was, whatever is put at another. -/
theorem step_put (hplace : fs.entry? place ≠ some .directory) {name : String} {here next : Place}
    (h : fs.step here name = .ok next) : (fs.put place content).step here name = .ok next := by
  have hne : here ≠ place := by
    rintro rfl
    rw [step] at h
    split at h
    · cases h
    · cases h
    · rename_i hentry
      exact hplace hentry
  rwa [step, entry?_put_of_ne hne]

/-- **A path leads where it led** after something is put where no directory was. -/
theorem foldlM_step_put (hplace : fs.entry? place ≠ some .directory) {names : List String} {here : Place}
    (h : names.foldlM fs.step here = .ok directory) :
    names.foldlM (fs.put place content).step here = .ok directory := by
  induction names generalizing here with
  | nil => exact h
  | cons name names ih =>
    rw [List.foldlM_cons] at h ⊢
    cases hstep : fs.step here name with
    | error e =>
      rw [hstep] at h
      cases h
    | ok next =>
      rw [hstep] at h
      rw [step_put hplace hstep]
      exact ih h

/-- **A path that can be written to**: its directories are there, and at its last name is no directory. -/
theorem target_eq_ok_iff {workingDirectory : Place} {path : String} :
    fs.target workingDirectory path = .ok place ↔ pathError? path = none ∧
      ∃ last directory, (followedNames path).getLast? = some last ∧
        (followedNames path).dropLast.foldlM fs.step (origin workingDirectory path) = .ok directory ∧
        fs.step directory last = .ok place ∧
        ¬ (last = "." ∨ last = ".." ∨ Path.endsInSlash path ∨ fs.entry? place = some .directory) := by
  rw [target]
  dsimp only
  cases pathError? path with
  | some e => simp
  | none =>
    cases (followedNames path).getLast? with
    | none => simp
    | some last =>
      cases hdirectory : (followedNames path).dropLast.foldlM fs.step (origin workingDirectory path) with
      | error e => simp [bind, Except.bind]
      | ok directory =>
        cases hstep : fs.step directory last with
        | error e => simp [bind, Except.bind, hstep]
        | ok next =>
          simp only [bind, Except.bind, hstep]
          constructor
          · intro h
            split at h
            · cases h
            · rename_i hlast
              cases h
              exact ⟨trivial, last, directory, rfl, rfl, hstep, hlast⟩
          · rintro ⟨-, _, _, ⟨⟩, ⟨⟩, hplace, hlast⟩
            rw [hstep] at hplace
            cases hplace
            rw [if_neg hlast]

/-- **What is written to is a place for a file**, and goes on being where its path leads. -/
theorem target_put (content : List UInt8) {workingDirectory : Place} {path : String}
    (h : fs.target workingDirectory path = .ok place) :
    place ≠ [] ∧ (fs.put place content).target workingDirectory path = .ok place := by
  obtain ⟨hpath, last, directory, hlast, hdirectory, hstep, hfile⟩ := target_eq_ok_iff.mp h
  have hplace : fs.entry? place ≠ some .directory := fun hentry => hfile (.inr (.inr (.inr hentry)))
  have hroot : place ≠ [] := by
    rintro rfl
    exact hplace rfl
  refine ⟨hroot, target_eq_ok_iff.mpr ⟨hpath, last, directory, hlast, foldlM_step_put hplace hdirectory,
    step_put hplace hstep, ?_⟩⟩
  rintro (hdot | hdots | hslash | hentry)
  · exact hfile (.inl hdot)
  · exact hfile (.inr (.inl hdots))
  · exact hfile (.inr (.inr (.inl hslash)))
  · rw [entry?_put_self hroot] at hentry
    cases hentry

/-- **Files as a disk**, seen from a working directory. -/
def disk (workingDirectory : Place) : Disk where
  State := FileSystem
  Location := Place
  entry? := entry?
  locate? fs path := (fs.target workingDirectory path).toOption
  read fs path := fs.read workingDirectory path
  write fs path content :=
    (fs.write workingDirectory path content).map fun (fs', place) => (fs', pathOf place)
  write_ok {fs fs' path written content} h := by
    rw [write] at h
    cases htarget : fs.target workingDirectory path with
    | error e =>
      rw [htarget] at h
      cases h
    | ok place =>
      rw [htarget] at h
      cases h
      obtain ⟨hroot, hput⟩ := target_put content htarget
      rw [hput]
      exact ⟨place, rfl, rfl, entry?_put_self hroot, fun other hother => entry?_put_of_ne hother⟩

end FileSystem

end InterfaceSchema
