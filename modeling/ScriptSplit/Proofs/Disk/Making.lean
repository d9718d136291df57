import ScriptSplit.Proofs.Disk.Directories
import ScriptSplit.Proofs.Disk.Parents

namespace ScriptSplit

theorem Text.size_le_of_isPrefix {first whole : Text} (h : first <+: whole) : first.size ≤ whole.size := by
  obtain ⟨rest, rfl⟩ := h
  simp only [size, bytes, String.toUTF8, String.ofList_append, String.toByteArray_append, ByteArray.size_append]
  exact Nat.le_add_right _ _

namespace Disk

open ScriptSplit.Path

variable {disk later : Disk} {path : Text}

def start (disk : Disk) (path : Text) : Location := if isAbsolute path then [] else disk.workingDirectory

def Passable (disk : Disk) (location : Location) : Prop :=
  disk.entry? location = some .directory ∨ disk.entry? location = none ∧ disk.denied? location = none

/-- Nothing stands in the way of a directory at a path. -/
structure Clear (disk : Disk) (path : Text) : Prop where
  checked : ∃ all, names path = .ok all
  short : ∀ name ∈ steps path, name.size ≤ longestName
  passable : ∀ front, front <+: steps path → disk.Passable (front.foldl step (disk.start path))
  dot : (segments path).getLast? = some ['.'] → disk.isDirectory path = true

theorem walk_filter (here : Location) (names : List Text) :
    disk.walk here (names.filter fun name => name ≠ ['.']) = disk.walk here names := by
  induction names generalizing here with
  | nil => rfl
  | cons name rest ih =>
      by_cases dot : name = ['.']
      · rw [List.filter_cons_of_neg (by simp [dot]), ih, walk, child, if_pos dot]
        rfl
      · rw [List.filter_cons_of_pos (by simp [dot]), walk, walk]
        simp only [ih]

theorem walk_concat_eq_ok_iff {here there : Location} {front : List Text} {name : Text} :
    disk.walk here (front ++ [name]) = .ok there ↔ ∃ between, disk.walk here front = .ok between ∧
      disk.child between name = .ok (there, some .directory) := by
  induction front generalizing here with
  | nil =>
      rw [List.nil_append, walk_cons_eq_ok_iff]
      simp [walk]
  | cons first rest ih =>
      rw [List.cons_append]
      simp only [walk_cons_eq_ok_iff, ih]
      constructor
      · rintro ⟨next, found, between, walked, child⟩
        exact ⟨between, ⟨next, found, walked⟩, child⟩
      · rintro ⟨between, ⟨next, found, walked⟩, child⟩
        exact ⟨next, found, between, walked, child⟩

theorem isDirectory_iff_walk : disk.isDirectory path = true ↔ (∃ all, names path = .ok all) ∧
    ∃ location, disk.walk (disk.start path) (steps path) = .ok location := by
  simp only [isDirectory_eq_true_iff, find_eq_ok_directory_iff, locate_eq_ok_iff, ← filter_segments, walk_filter]
  constructor
  · rintro ⟨location, ⟨all, checked, last, walked⟩ | ⟨here, name, ⟨all, checked, last, walked⟩, child⟩⟩
    · obtain ⟨-, rfl⟩ := names_eq_ok checked
      rw [List.getLast?_eq_none_iff.mp last] at walked ⊢
      exact ⟨⟨_, checked⟩, location, walked⟩
    · obtain ⟨-, rfl⟩ := names_eq_ok checked
      obtain ⟨before, whole⟩ := List.getLast?_eq_some_iff.mp last
      rw [whole, List.dropLast_concat] at walked
      rw [whole]
      exact ⟨⟨_, checked⟩, location, walk_concat_eq_ok_iff.mpr ⟨here, walked, child⟩⟩
  · rintro ⟨⟨all, checked⟩, location, walked⟩
    obtain ⟨-, rfl⟩ := names_eq_ok checked
    rcases List.eq_nil_or_concat' (segments path) with none | ⟨before, name, whole⟩
    · exact ⟨location, .inl ⟨_, checked, by rw [none]; rfl, by rw [none] at walked ⊢; exact walked⟩⟩
    · rw [whole] at walked
      obtain ⟨here, walked, child⟩ := walk_concat_eq_ok_iff.mp walked
      refine ⟨location, .inr ⟨here, name, ⟨_, checked, by rw [whole, List.getLast?_concat], ?_⟩, child⟩⟩
      rw [whole, List.dropLast_concat]
      exact walked

theorem locate_of_steps (disk : Disk) {front all : List Text} {name : Text} (checked : names path = .ok all)
    (noDot : (segments path).getLast? ≠ some ['.']) (last : steps path = front ++ [name]) :
    disk.locate path = (disk.walk (disk.start path) front).map fun here => (here, some name) := by
  obtain ⟨-, rfl⟩ := names_eq_ok checked
  rcases List.eq_nil_or_concat' (segments path) with none | ⟨before, final, whole⟩
  · rw [← filter_segments, none] at last
    simp at last
  · rw [whole, List.getLast?_concat] at noDot
    rw [← filter_segments, whole, List.filter_append, List.filter_cons_of_pos (by simpa using noDot),
      List.filter_nil] at last
    obtain ⟨rfl, same⟩ := List.append_inj' last rfl
    cases same
    rw [locate, checked, walk_filter, start]
    simp only [bind, Except.bind, whole, List.dropLast_concat, List.getLast?_concat]
    cases disk.walk (if isAbsolute path then [] else disk.workingDirectory) before <;> rfl

theorem child_of_short (disk : Disk) {name : Text} (busy : isIdle name = false)
    (short : name.size ≤ longestName) (here : Location) :
    disk.child here name = .ok (step here name,
      if name = ['.', '.'] then some .directory else disk.entry? (step here name)) := by
  obtain ⟨-, dot⟩ := Bool.or_eq_false_iff.mp busy
  rw [child, if_neg (by simpa using dot), step, busy, if_neg Bool.false_ne_true]
  by_cases up : name = ['.', '.']
  · rw [if_pos up, if_pos up, if_pos up]
  · rw [if_neg up, if_neg up, if_neg up, if_neg (Nat.not_lt.mpr short)]

theorem walk_of_passable {here : Location} {way : List Text} (busy : ∀ name ∈ way, isIdle name = false)
    (short : ∀ name ∈ way, name.size ≤ longestName)
    (passable : ∀ front, front <+: way → disk.Passable (front.foldl step here)) :
    disk.walk here way = .ok (way.foldl step here) ∨ disk.walk here way = .error .notFound := by
  induction way generalizing here with
  | nil => exact .inl rfl
  | cons name rest ih =>
      obtain ⟨firstBusy, busy⟩ := List.forall_mem_cons.mp busy
      obtain ⟨firstShort, short⟩ := List.forall_mem_cons.mp short
      have onward := @ih (step here name) busy short fun front first =>
        passable (name :: front) (List.cons_prefix_cons.mpr ⟨rfl, first⟩)
      rw [walk, child_of_short disk firstBusy firstShort]
      by_cases up : name = ['.', '.']
      · rw [if_pos up]
        exact onward
      · rw [if_neg up]
        rcases passable [name] (List.cons_prefix_cons.mpr ⟨rfl, List.nil_prefix⟩) with there | ⟨absent, -⟩
        · rw [List.foldl_cons, List.foldl_nil] at there
          rw [there]
          exact onward
        · rw [List.foldl_cons, List.foldl_nil] at absent
          rw [absent]
          exact .inr rfl

theorem makeDirectory_of_isDirectory (there : disk.isDirectory path = true) :
    disk.makeDirectory path = .error .alreadyExists := by
  obtain ⟨location, found⟩ := isDirectory_eq_true_iff.mp there
  rcases find_eq_ok_directory_iff.mp found with located | ⟨here, name, located, child⟩
  · rw [makeDirectory, located]
    rfl
  · simp only [makeDirectory, located, bind, Except.bind, child]

theorem exists_names_of_isPrefix (checked : ∃ all, names path = .ok all) {first : Text} (h : first <+: path)
    (occupied : first ≠ []) : ∃ all, names first = .ok all := by
  obtain ⟨all, checked⟩ := checked
  have shorter := Text.size_le_of_isPrefix h
  unfold names at checked ⊢
  split at checked
  · cases checked
  next clear =>
    split at checked
    · cases checked
    split at checked
    · cases checked
    · next fits =>
        have clear : ¬ first.elem '\x00' = true := by
          simp only [List.elem_iff] at clear ⊢
          exact fun member => clear (h.subset member)
        rw [if_neg clear, if_neg (by simpa using occupied), if_neg (by omega)]
        exact ⟨_, rfl⟩

namespace Clear

theorem of_furnished (furnished : Furnished path disk later) {other : Text} (clear : Clear disk other) :
    Clear later other := by
  have start : later.start other = disk.start other := by rw [Disk.start, Disk.start, furnished.keeps.workingDirectory]
  refine ⟨clear.checked, clear.short, fun front first => ?_, fun dot => furnished.keeps.isDirectory (clear.dot dot)⟩
  rw [start]
  rcases furnished.entry (front.foldl step (disk.start other)) with same | ⟨-, made, -⟩
  · rw [Passable, same, furnished.keeps.denied?]
    exact clear.passable front first
  · exact .inl made

theorem exists_parent (clear : Clear disk path) {front : List Text} {name : Text}
    (last : steps path = front ++ [name]) : ∃ parent, parent? path = some parent ∧ steps parent = front ∧
      disk.start parent = disk.start path ∧ (parent ≠ [] → Clear disk parent ∧ parent.length < path.length) := by
  obtain ⟨parent, up, same, absolute, first, dot⟩ := Path.exists_parent last
  have start : disk.start parent = disk.start path := by rw [Disk.start, Disk.start, absolute]
  have within : steps parent <+: steps path := by
    rw [last, same]
    exact List.prefix_append front [name]
  refine ⟨parent, up, same, start, fun occupied => ?_⟩
  have checked := exists_names_of_isPrefix clear.checked first occupied
  refine ⟨⟨checked, fun name member => clear.short name (within.subset member), fun before initial => ?_,
    fun dots => ?_⟩, ?_⟩
  · rw [start]
    exact clear.passable before (initial.trans within)
  · refine isDirectory_iff_walk.mpr ⟨checked, disk.start parent, ?_⟩
    rw [same, dot dots]
    rfl
  · refine Nat.lt_of_le_of_ne first.length_le fun equal => ?_
    rw [first.eq_of_length equal, last] at same
    simp at same

theorem makeDirectory_cases (clear : Clear disk path) :
    disk.isDirectory path = true ∨ (∃ later, disk.makeDirectory path = .ok later) ∨
    disk.makeDirectory path = .error .notFound ∧ ∃ parent, parent? path = some parent ∧ Clear disk parent ∧
      parent.length < path.length ∧ disk.isDirectory parent = false := by
  obtain ⟨all, checked⟩ := clear.checked
  by_cases there : disk.isDirectory path = true
  · exact .inl there
  have absent (location : Location) : disk.walk (disk.start path) (steps path) ≠ .ok location :=
    fun walked => there (isDirectory_iff_walk.mpr ⟨clear.checked, location, walked⟩)
  rcases List.eq_nil_or_concat' (steps path) with none | ⟨front, name, last⟩
  · rw [none] at absent
    exact absurd rfl (absent _)
  have busy (piece : Text) (member : piece ∈ steps path) : isIdle piece = false := by
    simpa using (List.mem_filter.mp member).2
  have within : front <+: steps path := last ▸ List.prefix_append front [name]
  have final : name ∈ steps path := last ▸ List.mem_append_right _ List.mem_cons_self
  have located := locate_of_steps disk checked (fun dot => there (clear.dot dot)) last
  have child := child_of_short disk (busy name final) (clear.short name final)
    (front.foldl step (disk.start path))
  rcases walk_of_passable (fun piece member => busy piece (within.subset member))
    (fun piece member => clear.short piece (within.subset member))
    (fun before initial => clear.passable before (initial.trans within)) with walked | missing
  · -- The parent is there, so the path leads to a free place.
    have free (location : Location) : disk.child (front.foldl step (disk.start path)) name ≠
        .ok (location, some .directory) :=
      fun found => absent location (last ▸ walk_concat_eq_ok_iff.mpr ⟨_, walked, found⟩)
    have passable := clear.passable (front ++ [name]) (last ▸ List.prefix_rfl)
    rw [List.foldl_append, List.foldl_cons, List.foldl_nil] at passable
    rw [child] at free
    split at child
    · next up => exact absurd (by rw [if_pos up]) (free _)
    · next down =>
        rw [if_neg down] at free
        obtain ⟨missing, allowed⟩ := passable.resolve_left fun holds => free _ (by rw [holds])
        rw [missing] at child
        rw [walked] at located
        exact .inr (.inl ⟨_, makeDirectory_eq_ok_iff.mpr ⟨_, name, _, located, child, allowed, rfl⟩⟩)
  · refine .inr (.inr ⟨?_, ?_⟩)
    · rw [makeDirectory, located, missing]
      rfl
    · obtain ⟨parent, up, same, start, rest⟩ := clear.exists_parent last
      have gone (location : Location) : disk.walk (disk.start parent) (steps parent) ≠ .ok location := by
        rw [same, start, missing]
        intro walked
        cases walked
      have occupied : parent ≠ [] := by
        rintro rfl
        exact gone _ rfl
      obtain ⟨clear, shorter⟩ := rest occupied
      refine ⟨parent, up, clear, shorter, Bool.eq_false_iff.mpr fun there => ?_⟩
      obtain ⟨-, location, walked⟩ := isDirectory_iff_walk.mp there
      exact gone location walked

end Clear

end Disk

namespace OnDisk

open Host (makeDirectory makeDirectories makeDirectoriesWithin acceptExisting)

variable {disk : Disk} {path : Text}

theorem run_acceptExisting (there : disk.isDirectory path = true) (error : FileError) :
    (acceptExisting path error : OnDisk (Except FileError PUnit)).run disk = (.ok ⟨⟩, disk) := by
  have asked : (Host.isDirectory path : OnDisk Bool).run disk = (disk.isDirectory path, disk) := rfl
  rw [acceptExisting, run_bind, asked, there]
  rfl

theorem run_attempt_of_clear (clear : disk.Clear path) {parent : Text} (up : Path.parent? path = some parent)
    (there : disk.isDirectory parent = true) : ((makeDirectory path >>= fun
      | .ok _ => return .ok ⟨⟩
      | .error error => acceptExisting path error : OnDisk (Except FileError PUnit)).run disk).1 = .ok ⟨⟩ := by
  rw [run_bind, run_makeDirectory]
  rcases clear.makeDirectory_cases with present | ⟨later, made⟩ | ⟨-, other, same, -, -, absent⟩
  · simp only [Disk.makeDirectory_of_isDirectory present, run_acceptExisting present]
  · simp only [made]
    rfl
  · cases up.symm.trans same
    cases there.symm.trans absent

theorem run_makeDirectoriesWithin_of_clear {fuel : Nat} (clear : disk.Clear path) (enough : path.length < fuel) :
    ((makeDirectoriesWithin fuel path : OnDisk (Except FileError PUnit)).run disk).1 = .ok ⟨⟩ ∧
      ((makeDirectoriesWithin fuel path : OnDisk (Except FileError PUnit)).run disk).2.isDirectory path = true := by
  induction fuel generalizing path with
  | zero => cases enough
  | succ fuel ih =>
      obtain ⟨all, checked⟩ := clear.checked
      have nonempty := (Disk.names_eq_ok checked).1
      have made : Made path disk ((makeDirectoriesWithin (fuel + 1) path : OnDisk _).run disk) :=
        made_makeDirectoriesWithin_succ nonempty (furnished_makeDirectoriesWithin fuel)
      suffices succeeds :
          ((makeDirectoriesWithin (fuel + 1) path : OnDisk (Except FileError PUnit)).run disk).1 = .ok ⟨⟩
        from ⟨succeeds, made.isDirectory succeeds⟩
      rw [makeDirectoriesWithin, if_neg (by simpa using nonempty), run_bind, run_makeDirectory]
      rcases clear.makeDirectory_cases with there | ⟨later, made⟩ | ⟨missing, parent, up, above, shorter, -⟩
      · simp only [Disk.makeDirectory_of_isDirectory there, run_acceptExisting there]
      · simp only [made]
        rfl
      · obtain ⟨succeeds, there⟩ := ih above (Nat.lt_of_lt_of_le shorter (Nat.le_of_lt_succ enough))
        have furnished := furnished_makeDirectoriesWithin fuel parent disk
        simp only [missing, up, run_bind, succeeds]
        exact run_attempt_of_clear (clear.of_furnished furnished) up there

theorem isDirectory_makeDirectories (clear : disk.Clear path) :
    ((makeDirectories path : OnDisk (Except FileError PUnit)).run disk).2.isDirectory path = true :=
  (run_makeDirectoriesWithin_of_clear clear (Nat.lt_succ_self path.length)).2

end OnDisk
end ScriptSplit
