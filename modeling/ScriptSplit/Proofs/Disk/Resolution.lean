import ScriptSplit.Disk
import Mathlib.Tactic.Common

namespace ScriptSplit.Disk

variable {disk later : Disk}

theorem bind_eq_ok_iff {α β : Type} {first : Except FileError α} {next : α → Except FileError β} {value : β} :
    (first >>= next) = .ok value ↔ ∃ between, first = .ok between ∧ next between = .ok value := by
  cases first <;> simp [bind, Except.bind]

theorem lookup_filter_ne {location other : Location} (differs : other ≠ location)
    (entries : List (Location × Entry)) :
    (entries.filter (·.1 ≠ location)).lookup other = entries.lookup other := by
  induction entries with
  | nil => rfl
  | cons first rest ih =>
      by_cases same : first.1 = location
      · rw [List.filter_cons_of_neg (by simpa using same), List.lookup_cons,
          beq_eq_false_iff_ne.mpr (same ▸ differs), ih]
      · rw [List.filter_cons_of_pos (by simpa using same), List.lookup_cons, List.lookup_cons, ih]

theorem entry?_put {location : Location} (inside : location ≠ []) (entry : Entry) (other : Location) :
    Disk.entry? (disk.put location entry) other = if other = location then some entry else disk.entry? other := by
  have entries : (disk.put location entry).entries =
      disk.entries.filter (·.1 ≠ location) ++ [(location, entry)] := rfl
  unfold entry?
  rw [entries, List.lookup_append]
  by_cases same : other = location
  · have absent : (disk.entries.filter (·.1 ≠ location)).lookup other = none := by
      refine List.lookup_eq_none_iff.mpr fun held member => bne_iff_ne.mpr fun found => ?_
      exact of_decide_eq_true (List.mem_filter.mp member).2 (found.symm.trans same)
    rw [absent, same]
    simp [inside]
  · rw [lookup_filter_ne same, if_neg same]
    simp [List.lookup_cons, beq_eq_false_iff_ne.mpr same]

theorem child_cases {here there : Location} {name : Text} {entry : Option Entry}
    (found : disk.child here name = .ok (there, entry)) :
    (entry = some .directory ∧ ∀ later : Disk, later.child here name = .ok (there, some .directory)) ∨
    (there ≠ [] ∧ entry = disk.entry? there ∧
      ∀ later : Disk, later.child here name = .ok (there, later.entry? there)) := by
  unfold child at found ⊢
  by_cases stay : name = ['.']
  · rw [if_pos stay] at found
    cases found
    exact .inl ⟨rfl, fun later => if_pos stay⟩
  by_cases up : name = ['.', '.']
  · rw [if_neg stay, if_pos up] at found
    cases found
    exact .inl ⟨rfl, fun later => by rw [if_neg stay, if_pos up]⟩
  by_cases long : longestName < name.size
  · rw [if_neg stay, if_neg up, if_pos long] at found
    cases found
  · rw [if_neg stay, if_neg up, if_neg long] at found
    cases found
    exact .inr ⟨by simp, rfl, fun later => by rw [if_neg stay, if_neg up, if_neg long]⟩

theorem walk_cons_eq_ok_iff {here there : Location} {name : Text} {rest : List Text} :
    disk.walk here (name :: rest) = .ok there ↔
      ∃ next, disk.child here name = .ok (next, some .directory) ∧ disk.walk next rest = .ok there := by
  rw [walk, bind_eq_ok_iff]
  constructor
  · rintro ⟨⟨next, entry⟩, found, walked⟩
    cases entry with
    | none => cases walked
    | some entry =>
        cases entry with
        | file content => cases walked
        | directory => exact ⟨next, found, walked⟩
  · rintro ⟨next, found, walked⟩
    exact ⟨_, found, walked⟩

theorem locate_eq_ok_iff {path : Text} {here : Location} {name : Option Text} :
    disk.locate path = .ok (here, name) ↔ ∃ all, names path = .ok all ∧ all.getLast? = name ∧
      disk.walk (if Path.isAbsolute path then [] else disk.workingDirectory) all.dropLast = .ok here := by
  simp only [locate, bind_eq_ok_iff]
  constructor
  · rintro ⟨all, checked, place, walked, same⟩
    cases same
    exact ⟨all, checked, rfl, walked⟩
  · rintro ⟨all, checked, rfl, walked⟩
    exact ⟨all, checked, here, walked, rfl⟩

theorem permit_eq_ok_iff {location place : Location} :
    disk.permit location = .ok place ↔ disk.denied? location = none ∧ location = place := by
  unfold permit
  cases disk.denied? location <;> simp

theorem target_eq_ok_iff {path : Text} {location : Location} :
    disk.target path = .ok location ↔ ∃ here name, disk.locate path = .ok (here, some name) ∧
      endsInSlash path = false ∧ disk.child here name = .ok (location, disk.entry? location) ∧
      disk.entry? location ≠ some .directory ∧ location ≠ [] ∧ disk.denied? location = none := by
  simp only [target, bind_eq_ok_iff]
  constructor
  · rintro ⟨⟨here, name?⟩, located, found⟩
    cases name? with
    | none => cases found
    | some name =>
        cases slash : endsInSlash path with
        | true => simp [slash] at found
        | false =>
            simp only [slash, Bool.false_eq_true, if_false, bind_eq_ok_iff] at found
            obtain ⟨⟨there, entry⟩, child, permitted⟩ := found
            have free : entry ≠ some .directory := by
              rintro rfl
              cases permitted
            obtain ⟨inside, rfl, -⟩ := (child_cases child).resolve_left fun fixed => free fixed.1
            have passed : disk.permit there = .ok location := by
              cases held : disk.entry? there with
              | none => rwa [held] at permitted
              | some entry =>
                  cases entry with
                  | file content => rwa [held] at permitted
                  | directory => cases free held
            obtain ⟨allowed, rfl⟩ := permit_eq_ok_iff.mp passed
            exact ⟨here, name, located, rfl, child, free, inside, allowed⟩
  · rintro ⟨here, name, located, slash, child, free, inside, allowed⟩
    refine ⟨(here, some name), located, ?_⟩
    simp only [slash, Bool.false_eq_true, if_false, bind_eq_ok_iff]
    refine ⟨(location, disk.entry? location), child, ?_⟩
    have permitted : disk.permit location = .ok location := permit_eq_ok_iff.mpr ⟨allowed, rfl⟩
    cases held : disk.entry? location with
    | none => exact permitted
    | some entry =>
        cases entry with
        | file content => exact permitted
        | directory => cases free held

theorem find_of_target {path : Text} {location : Location} {content : ByteArray}
    (placed : disk.target path = .ok location) (holds : disk.entry? location = some (.file content)) :
    disk.find path = .ok (location, .file content) := by
  obtain ⟨here, name, located, slash, child, -⟩ := target_eq_ok_iff.mp placed
  rw [holds] at child
  simp only [find, located, child, slash, bind, Except.bind]
  rfl

theorem read_of_find {path : Text} {location : Location} {content : ByteArray}
    (found : disk.find path = .ok (location, .file content)) : disk.read path = .ok content := by
  rw [read, found]
  rfl

theorem exists_find_of_read {path : Text} {content : ByteArray} (held : disk.read path = .ok content) :
    ∃ location, disk.find path = .ok (location, .file content) := by
  obtain ⟨⟨location, entry⟩, found, held⟩ := bind_eq_ok_iff.mp held
  cases entry with
  | directory => cases held
  | file bytes =>
      cases held
      exact ⟨location, found⟩

/-- What a path is resolved by stays: the directories, and what may be changed. -/
structure Keeps (disk later : Disk) : Prop where
  workingDirectory : later.workingDirectory = disk.workingDirectory
  denied? : later.denied? = disk.denied?
  directory : ∀ location, disk.entry? location = some .directory → later.entry? location = some .directory

namespace Keeps

theorem refl (disk : Disk) : Keeps disk disk := ⟨rfl, rfl, fun _ => id⟩

theorem trans {last : Disk} (h : Keeps disk later) (next : Keeps later last) : Keeps disk last :=
  ⟨next.workingDirectory.trans h.workingDirectory, next.denied?.trans h.denied?,
    fun location holds => next.directory location (h.directory location holds)⟩

theorem child (h : Keeps disk later) {here there : Location} {name : Text}
    (found : disk.child here name = .ok (there, some .directory)) :
    later.child here name = .ok (there, some .directory) := by
  rcases child_cases found with ⟨-, fixed⟩ | ⟨-, holds, looked⟩
  · exact fixed later
  · rw [looked later, h.directory there holds.symm]

theorem walk (h : Keeps disk later) {here there : Location} {names : List Text}
    (walked : disk.walk here names = .ok there) : later.walk here names = .ok there := by
  induction names generalizing here with
  | nil => exact walked
  | cons name rest ih =>
      obtain ⟨next, found, onward⟩ := walk_cons_eq_ok_iff.mp walked
      exact walk_cons_eq_ok_iff.mpr ⟨next, h.child found, ih onward⟩

theorem locate (h : Keeps disk later) {path : Text} {here : Location} {name : Option Text}
    (located : disk.locate path = .ok (here, name)) : later.locate path = .ok (here, name) := by
  obtain ⟨all, checked, last, walked⟩ := locate_eq_ok_iff.mp located
  refine locate_eq_ok_iff.mpr ⟨all, checked, last, ?_⟩
  rw [h.workingDirectory]
  exact h.walk walked

theorem target (h : Keeps disk later) {path : Text} {location : Location}
    (placed : disk.target path = .ok location) (free : later.entry? location ≠ some .directory) :
    later.target path = .ok location := by
  obtain ⟨here, name, located, slash, child, notThere, inside, allowed⟩ := target_eq_ok_iff.mp placed
  obtain ⟨-, -, looked⟩ := (child_cases child).resolve_left fun fixed => notThere fixed.1
  exact target_eq_ok_iff.mpr ⟨here, name, h.locate located, slash, looked later, free, inside,
    h.denied? ▸ allowed⟩

end Keeps

theorem target_eq_ok_iff_of_keeps (there : Keeps disk later) (back : Keeps later disk) {path : Text}
    {location : Location} : later.target path = .ok location ↔ disk.target path = .ok location := by
  constructor
  · intro placed
    obtain ⟨-, -, -, -, -, free, -⟩ := target_eq_ok_iff.mp placed
    exact back.target placed fun holds => free (there.directory location holds)
  · intro placed
    obtain ⟨-, -, -, -, -, free, -⟩ := target_eq_ok_iff.mp placed
    exact there.target placed fun holds => free (back.directory location holds)

theorem find_eq_ok_directory_iff {path : Text} {location : Location} :
    disk.find path = .ok (location, .directory) ↔ disk.locate path = .ok (location, none) ∨
      ∃ here name, disk.locate path = .ok (here, some name) ∧
        disk.child here name = .ok (location, some .directory) := by
  simp only [find, bind_eq_ok_iff]
  constructor
  · rintro ⟨⟨here, name?⟩, located, found⟩
    cases name? with
    | none =>
        cases found
        exact .inl located
    | some name =>
        obtain ⟨⟨there, entry⟩, child, found⟩ := bind_eq_ok_iff.mp found
        cases entry with
        | none => cases found
        | some entry =>
            cases entry with
            | file content => cases slash : endsInSlash path <;> simp [slash, pure, Except.pure] at found
            | directory =>
                cases found
                exact .inr ⟨here, name, located, child⟩
  · rintro (located | ⟨here, name, located, child⟩)
    · exact ⟨_, located, rfl⟩
    · exact ⟨_, located, bind_eq_ok_iff.mpr ⟨_, child, rfl⟩⟩

theorem find_eq_ok_file_iff {path : Text} {location : Location} {content : ByteArray} :
    disk.find path = .ok (location, .file content) ↔ ∃ here name, disk.locate path = .ok (here, some name) ∧
      endsInSlash path = false ∧ disk.child here name = .ok (location, some (.file content)) := by
  simp only [find, bind_eq_ok_iff]
  constructor
  · rintro ⟨⟨here, name?⟩, located, found⟩
    cases name? with
    | none => cases found
    | some name =>
        obtain ⟨⟨there, entry⟩, child, found⟩ := bind_eq_ok_iff.mp found
        cases entry with
        | none => cases found
        | some entry =>
            cases entry with
            | directory => cases found
            | file held =>
                cases slash : endsInSlash path with
                | true => simp [slash] at found
                | false =>
                    simp only [slash, Bool.false_eq_true, if_false] at found
                    cases found
                    exact ⟨here, name, located, rfl, child⟩
  · rintro ⟨here, name, located, slash, child⟩
    refine ⟨_, located, bind_eq_ok_iff.mpr ⟨_, child, ?_⟩⟩
    simp only [slash]
    rfl

theorem entry?_of_find {path : Text} {location : Location} {content : ByteArray}
    (found : disk.find path = .ok (location, .file content)) : disk.entry? location = some (.file content) := by
  obtain ⟨here, name, -, -, child⟩ := find_eq_ok_file_iff.mp found
  obtain ⟨-, holds, -⟩ := (child_cases child).resolve_left fun fixed => nomatch fixed.1
  exact holds.symm

theorem Keeps.find_directory (h : Keeps disk later) {path : Text} {location : Location}
    (found : disk.find path = .ok (location, .directory)) : later.find path = .ok (location, .directory) := by
  rcases find_eq_ok_directory_iff.mp found with located | ⟨here, name, located, child⟩
  · exact find_eq_ok_directory_iff.mpr (.inl (h.locate located))
  · exact find_eq_ok_directory_iff.mpr (.inr ⟨here, name, h.locate located, h.child child⟩)

end ScriptSplit.Disk
