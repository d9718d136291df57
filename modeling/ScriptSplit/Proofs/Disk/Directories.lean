import ScriptSplit.Proofs.Disk.Resolution

namespace ScriptSplit

/-- A path, its parent, the parent of that, and so on. -/
inductive Path.Above (path : Text) : Text → Prop
  | self : Above path path
  | parent {between above : Text} (h : Above path between) (up : parent? between = some above) : Above path above

theorem Path.Above.of_parent {path parent above : Text} (up : parent? path = some parent)
    (h : Above parent above) : Above path above := by
  induction h with
  | self => exact .parent .self up
  | parent _ next ih => exact .parent ih next

namespace Disk

variable {disk later : Disk} {path : Text}

/-- On the later disk there are more directories, each on the way to a path, and all else is the same. -/
structure Furnished (path : Text) (disk later : Disk) : Prop where
  keeps : Keeps disk later
  faults : later.faults = disk.faults
  entry : ∀ location, later.entry? location = disk.entry? location ∨
    disk.entry? location = none ∧ later.entry? location = some .directory ∧
      ∃ above, Path.Above path above ∧ later.find above = .ok (location, .directory)

namespace Furnished

theorem refl (path : Text) (disk : Disk) : Furnished path disk disk := ⟨Keeps.refl disk, rfl, fun _ => .inl rfl⟩

theorem trans {last : Disk} (h : Furnished path disk later) (next : Furnished path later last) :
    Furnished path disk last := by
  refine ⟨h.keeps.trans next.keeps, next.faults.trans h.faults, fun location => ?_⟩
  rcases next.entry location with same | ⟨absent, made, leads⟩
  · rcases h.entry location with before | ⟨absent, made, above, up, found⟩
    · exact .inl (same.trans before)
    · exact .inr ⟨absent, same.trans made, above, up, next.keeps.find_directory found⟩
  · rcases h.entry location with before | ⟨-, earlier, -⟩
    · exact .inr ⟨before.symm.trans absent, made, leads⟩
    · cases absent.symm.trans earlier

theorem of_parent {parent : Text} (up : Path.parent? path = some parent) (h : Furnished parent disk later) :
    Furnished path disk later := by
  refine ⟨h.keeps, h.faults, fun location => ?_⟩
  rcases h.entry location with same | ⟨absent, made, above, way, found⟩
  · exact .inl same
  · exact .inr ⟨absent, made, above, way.of_parent up, found⟩

end Furnished

theorem isDirectory_eq_true_iff : disk.isDirectory path = true ↔
    ∃ location, disk.find path = .ok (location, .directory) := by
  unfold isDirectory
  split
  · next location found => exact ⟨fun _ => ⟨location, found⟩, fun _ => rfl⟩
  · next other =>
      refine ⟨nofun, ?_⟩
      rintro ⟨location, found⟩
      exact absurd found (other location)

theorem Keeps.isDirectory (h : Keeps disk later) (there : disk.isDirectory path = true) :
    later.isDirectory path = true := by
  obtain ⟨location, found⟩ := isDirectory_eq_true_iff.mp there
  exact isDirectory_eq_true_iff.mpr ⟨location, h.find_directory found⟩

theorem makeDirectory_eq_ok_iff : disk.makeDirectory path = .ok later ↔
    ∃ here name there, disk.locate path = .ok (here, some name) ∧ disk.child here name = .ok (there, none) ∧
      disk.denied? there = none ∧ disk.put there .directory = later := by
  simp only [makeDirectory, bind_eq_ok_iff]
  constructor
  · rintro ⟨⟨here, name?⟩, located, made⟩
    cases name? with
    | none => cases made
    | some name =>
        obtain ⟨⟨there, entry⟩, child, made⟩ := bind_eq_ok_iff.mp made
        cases entry with
        | some entry => cases made
        | none =>
            cases allowed : disk.permit there with
            | error error => simp [allowed, Except.map] at made
            | ok place =>
                obtain ⟨free, rfl⟩ := permit_eq_ok_iff.mp allowed
                simp only [allowed, Except.map, Except.ok.injEq] at made
                exact ⟨here, name, there, located, child, free, made⟩
  · rintro ⟨here, name, there, located, child, allowed, rfl⟩
    refine ⟨_, located, bind_eq_ok_iff.mpr ⟨_, child, ?_⟩⟩
    simp only [permit_eq_ok_iff.mpr ⟨allowed, rfl⟩, Except.map]

theorem furnished_of_makeDirectory (made : disk.makeDirectory path = .ok later) :
    Furnished path disk later ∧ later.isDirectory path = true := by
  obtain ⟨here, name, there, located, child, -, rfl⟩ := makeDirectory_eq_ok_iff.mp made
  obtain ⟨inside, absent, looked⟩ := (child_cases child).resolve_left fun fixed => nomatch fixed.1
  have entries (other : Location) : Disk.entry? (disk.put there .directory) other =
      if other = there then some .directory else disk.entry? other := entry?_put inside .directory other
  have keeps : Keeps disk (disk.put there .directory) := by
    refine ⟨rfl, rfl, fun location holds => ?_⟩
    rw [entries location]
    split
    · rfl
    · exact holds
  have found : (disk.put there .directory).find path = .ok (there, .directory) := by
    refine find_eq_ok_directory_iff.mpr (.inr ⟨here, name, keeps.locate located, ?_⟩)
    rw [looked, entries there, if_pos rfl]
  refine ⟨⟨keeps, rfl, fun other => ?_⟩, by rw [isDirectory, found]⟩
  by_cases same : other = there
  · exact .inr ⟨same ▸ absent.symm, by rw [entries, if_pos same], path, .self, same ▸ found⟩
  · exact .inl (by rw [entries, if_neg same])

end Disk

namespace OnDisk

open Host (makeDirectory makeDirectoriesWithin acceptExisting)

variable {disk : Disk} {path : Text}

theorem run_bind {α β : Type} (first : OnDisk α) (next : α → OnDisk β) (disk : Disk) :
    (first >>= next).run disk = (next (first.run disk).1).run (first.run disk).2 := rfl

theorem run_change (operation : Disk → Except FileError Disk) : (change operation).run disk =
    match operation disk with
    | .ok later => (.ok ⟨⟩, later)
    | .error error => (.error error, disk) := by
  cases done : operation disk <;> simp [change, done] <;> rfl

structure Made (path : Text) (disk : Disk) (result : Except FileError PUnit × Disk) : Prop where
  furnished : Disk.Furnished path disk result.2
  isDirectory : result.1 = .ok ⟨⟩ → result.2.isDirectory path = true

theorem made_acceptExisting (error : FileError) :
    Made path disk ((acceptExisting path error : OnDisk _).run disk) := by
  have asked : (Host.isDirectory path : OnDisk Bool).run disk = (disk.isDirectory path, disk) := rfl
  rw [acceptExisting, run_bind, asked]
  cases there : disk.isDirectory path with
  | true => exact ⟨.refl path disk, fun _ => there⟩
  | false => exact ⟨.refl path disk, nofun⟩

theorem made_of_makeDirectory {later : Disk} (made : disk.makeDirectory path = .ok later) :
    Made path disk (.ok ⟨⟩, later) :=
  ⟨(Disk.furnished_of_makeDirectory made).1, fun _ => (Disk.furnished_of_makeDirectory made).2⟩

theorem Made.after {later : Disk} (furnished : Disk.Furnished path disk later)
    {result : Except FileError PUnit × Disk} (h : Made path later result) : Made path disk result :=
  ⟨furnished.trans h.furnished, h.isDirectory⟩

theorem run_makeDirectory : (makeDirectory path : OnDisk (Except FileError PUnit)).run disk =
    match disk.makeDirectory path with
    | .ok later => (.ok ⟨⟩, later)
    | .error error => (.error error, disk) :=
  run_change (·.makeDirectory path)

theorem made_attempt : Made path disk ((makeDirectory path >>= fun
    | .ok _ => return .ok ⟨⟩
    | .error error => acceptExisting path error : OnDisk (Except FileError PUnit)).run disk) := by
  rw [run_bind, run_makeDirectory]
  cases made : disk.makeDirectory path with
  | ok later => exact made_of_makeDirectory made
  | error error => exact made_acceptExisting error

theorem made_makeDirectoriesWithin_succ {fuel : Nat} (nonempty : path ≠ [])
    (within : ∀ parent disk, Disk.Furnished parent disk
      ((makeDirectoriesWithin fuel parent : OnDisk (Except FileError PUnit)).run disk).2) :
    Made path disk ((makeDirectoriesWithin (fuel + 1) path : OnDisk _).run disk) := by
  rw [makeDirectoriesWithin, if_neg (by simpa using nonempty), run_bind, run_makeDirectory]
  cases made : disk.makeDirectory path with
  | ok later => exact made_of_makeDirectory made
  | error error =>
      cases error with
      | notFound =>
          cases up : Path.parent? path with
          | none => exact ⟨.refl path disk, nofun⟩
          | some parent =>
              have above := (within parent disk).of_parent up
              simp only [run_bind]
              generalize (makeDirectoriesWithin fuel parent : OnDisk _).run disk = result at above ⊢
              obtain ⟨result, later⟩ := result
              cases result with
              | error error => exact ⟨above, nofun⟩
              | ok done => exact made_attempt.after above
      | _ => exact made_acceptExisting _

theorem furnished_makeDirectoriesWithin (fuel : Nat) (path : Text) (disk : Disk) : Disk.Furnished path disk
    ((makeDirectoriesWithin fuel path : OnDisk (Except FileError PUnit)).run disk).2 := by
  induction fuel generalizing path disk with
  | zero => exact .refl path disk
  | succ fuel ih =>
      by_cases empty : path = []
      · subst empty
        exact .refl [] disk
      · exact (made_makeDirectoriesWithin_succ empty ih).furnished

end OnDisk
end ScriptSplit
