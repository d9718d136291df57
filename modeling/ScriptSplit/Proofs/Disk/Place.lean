import ScriptSplit.Proofs.Disk.Resolution

namespace ScriptSplit.Path

def step (here : Location) (piece : Text) : Location :=
  if isIdle piece then here else if piece = ['.', '.'] then here.dropLast else here ++ [piece]

def place (start : Location) (path : Text) : Location :=
  (path.splitOn '/').foldl step (if isAbsolute path then [] else start)

def segments (path : Text) : List Text := (path.splitOn '/').filter fun piece => !piece.isEmpty

def steps (path : Text) : List Text := (path.splitOn '/').filter fun piece => !isIdle piece

variable {path : Text} {start : Location}

theorem step_of_isIdle {piece : Text} (idle : isIdle piece = true) (here : Location) : step here piece = here :=
  if_pos idle

theorem filter_filter_isEmpty (pieces : List Text) :
    (pieces.filter fun piece => !piece.isEmpty).filter (fun piece => piece ≠ ['.']) =
      pieces.filter fun piece => !isIdle piece := by
  rw [List.filter_filter]
  refine List.filter_congr fun piece _ => ?_
  by_cases dot : piece = ['.'] <;> simp [isIdle, dot]

theorem filter_segments (path : Text) : (segments path).filter (fun piece => piece ≠ ['.']) = steps path :=
  filter_filter_isEmpty (path.splitOn '/')

theorem place_eq_foldl_steps (start : Location) (path : Text) :
    place start path = (steps path).foldl step (if isAbsolute path then [] else start) := by
  rw [place, steps, List.foldl_filter]
  congr 1
  funext here piece
  cases idle : isIdle piece with
  | true => exact step_of_isIdle idle here
  | false => rfl

@[simp]
theorem place_nil (start : Location) : place start [] = start := rfl

theorem place_of_isAbsolute (absolute : isAbsolute path = true) (start other : Location) :
    place start path = place other path := by
  rw [place, place, if_pos absolute, if_pos absolute]

theorem place_of_dots_not_mem (relative : isAbsolute path = false) (down : ['.', '.'] ∉ path.splitOn '/')
    (start : Location) : place start path = start ++ (path.splitOn '/').filter fun piece => !isIdle piece := by
  rw [place, relative, if_neg Bool.false_ne_true]
  generalize path.splitOn '/' = pieces at down
  induction pieces generalizing start with
  | nil => simp
  | cons piece rest ih =>
      obtain ⟨first, later⟩ := not_or.mp (List.mem_cons.not.mp down)
      rw [List.foldl_cons, ih _ later]
      cases idle : isIdle piece with
      | true => rw [step_of_isIdle idle, List.filter_cons_of_neg (by simp [idle])]
      | false => simp [step, idle, Ne.symm first]

/-! ## Joining -/

theorem isAbsolute_append_cons (before after : Text) :
    isAbsolute (before ++ '/' :: after) = isAbsolute (before ++ ['/']) := by
  cases before <;> rfl

theorem place_append_cons (start : Location) (before after : Text) :
    place start (before ++ '/' :: after) = (after.splitOn '/').foldl step (place start (before ++ ['/'])) := by
  rw [place, place, isAbsolute_append_cons, List.splitOn_append_cons_self, List.splitOn_append_cons_self,
    List.foldl_append, List.foldl_append]
  rfl

theorem place_append_intercalate (before : Text) {pieces : List Text} (occupied : pieces ≠ [])
    (clear : ∀ piece ∈ pieces, '/' ∉ piece) (start : Location) :
    place start (before ++ '/' :: List.intercalate ['/'] pieces) =
      pieces.foldl step (place start (before ++ ['/'])) := by
  rw [place_append_cons, List.splitOn_intercalate '/' clear occupied]

theorem place_append_slash {before : Text} (occupied : before ≠ []) (start : Location) :
    place start (before ++ ['/']) = place start before := by
  have first : isAbsolute (before ++ ['/']) = isAbsolute before := by
    obtain ⟨c, rest, rfl⟩ := List.exists_cons_of_ne_nil occupied
    rfl
  rw [place, place, first, List.splitOn_append_cons_self, List.foldl_append]
  rfl

theorem place_join (start : Location) (base path : Text) :
    place start (join base path) = place (place start base) path := by
  unfold join
  by_cases absolute : isAbsolute path = true
  · rw [if_pos (by simp [absolute]), place_of_isAbsolute absolute]
  by_cases empty : base = []
  · rw [if_pos (by simp [empty]), empty, place_nil]
  rw [if_neg (by simp [absolute, empty])]
  have onward (before : Text) : place start (before ++ '/' :: path) = place (place start (before ++ ['/'])) path := by
    rw [place_append_cons, place.eq_1 (place start _), if_neg absolute]
  split
  · next slash =>
      obtain ⟨before, rfl⟩ := List.getLast?_eq_some_iff.mp (beq_iff_eq.mp slash)
      rw [List.append_assoc, List.singleton_append, onward]
  · rw [onward, place_append_slash empty]

theorem place_eq_place_join {directory : Location} {base : Text}
    (same : isAbsolute path = true ∨ directory = place start base) :
    place directory path = place start (join base path) := by
  rw [place_join]
  rcases same with absolute | rfl
  · exact place_of_isAbsolute absolute _ _
  · rfl

theorem place_eq_place_join_iff {directory : Location} {base : Text} (down : ['.', '.'] ∉ path.splitOn '/') :
    place directory path = place start (join base path) ↔ isAbsolute path = true ∨ directory = place start base := by
  refine ⟨fun same => ?_, place_eq_place_join⟩
  cases relative : isAbsolute path with
  | true => exact .inl rfl
  | false =>
      rw [place_join, place_of_dots_not_mem relative down, place_of_dots_not_mem relative down] at same
      exact .inr (List.append_cancel_right same)

theorem isAbsolute_join_of_isAbsolute {base : Text} (absolute : isAbsolute base = true) (path : Text) :
    isAbsolute (join base path) = true := by
  unfold join
  split
  · next stays =>
      rcases (Bool.or_eq_true _ _).mp stays with own | empty
      · exact own
      · rw [List.isEmpty_iff.mp empty] at absolute
        cases absolute
  · obtain ⟨c, rest, rfl⟩ := List.exists_cons_of_ne_nil (l := base) (by rintro rfl; cases absolute)
    split <;> exact absolute

theorem slash_mem_join {base : Text} (occupied : base ≠ []) (path : Text) : '/' ∈ join base path := by
  unfold join
  split
  · next stays =>
      rcases (Bool.or_eq_true _ _).mp stays with absolute | empty
      · exact List.mem_of_mem_head? (beq_iff_eq.mp absolute)
      · exact absurd (List.isEmpty_iff.mp empty) occupied
  · split
    · next slash => exact List.mem_append_left _ (List.mem_of_getLast? (beq_iff_eq.mp slash))
    · simp

/-! ## Names -/

def IsName (name : Text) : Prop := isIdle name = false ∧ name ≠ ['.', '.'] ∧ '/' ∉ name

instance : DecidablePred IsName := fun _ => inferInstanceAs (Decidable (_ ∧ _ ∧ _))

theorem foldl_step_of_isName {names : List Text} (named : ∀ name ∈ names, IsName name) (here : Location) :
    names.foldl step here = here ++ names := by
  induction names generalizing here with
  | nil => simp
  | cons name rest ih =>
      obtain ⟨⟨busy, down, -⟩, later⟩ := List.forall_mem_cons.mp named
      rw [List.foldl_cons, ih later, step, busy, if_neg Bool.false_ne_true, if_neg down, List.append_assoc,
        List.singleton_append]

def ofLocation (location : Location) : Text := '/' :: List.intercalate ['/'] location

theorem place_ofLocation {location : Location} (named : ∀ name ∈ location, IsName name) (start : Location) :
    place start (ofLocation location) = location := by
  cases location with
  | nil => rfl
  | cons first rest =>
      have clear (name : Text) (member : name ∈ first :: rest) : '/' ∉ name := (named name member).2.2
      have led := place_append_intercalate [] (List.cons_ne_nil first rest) clear start
      rw [foldl_step_of_isName named] at led
      exact led

end ScriptSplit.Path

/-! ## What a disk finds -/

namespace ScriptSplit.Disk

open ScriptSplit.Path

variable {disk : Disk} {path : Text}

theorem step_of_child {here there : Location} {name : Text} {entry : Option Entry} (named : name ≠ [])
    (found : disk.child here name = .ok (there, entry)) :
    there = step here name ∧
      (entry = some .directory ∨ isIdle name = false ∧ ∀ other, step other name = other ++ [name]) := by
  unfold child at found
  have occupied : name.isEmpty = false := List.isEmpty_eq_false_iff.mpr named
  by_cases stay : name = ['.']
  · rw [if_pos stay] at found
    cases found
    exact ⟨(step_of_isIdle (by simp [isIdle, stay]) here).symm, .inl rfl⟩
  have busy : isIdle name = false := by simp [isIdle, occupied, stay]
  by_cases up : name = ['.', '.']
  · rw [if_neg stay, if_pos up] at found
    cases found
    exact ⟨by rw [step, busy, if_neg Bool.false_ne_true, if_pos up], .inl rfl⟩
  have down (other : Location) : step other name = other ++ [name] := by
    rw [step, busy, if_neg Bool.false_ne_true, if_neg up]
  rw [if_neg stay, if_neg up] at found
  split at found
  · cases found
  · cases found
    exact ⟨(down here).symm, .inr ⟨busy, down⟩⟩

theorem eq_foldl_of_walk {here there : Location} {names : List Text} (named : ∀ name ∈ names, name ≠ [])
    (walked : disk.walk here names = .ok there) : there = names.foldl step here := by
  induction names generalizing here with
  | nil =>
      cases walked
      rfl
  | cons name rest ih =>
      obtain ⟨next, found, onward⟩ := walk_cons_eq_ok_iff.mp walked
      obtain ⟨first, later⟩ := List.forall_mem_cons.mp named
      rw [List.foldl_cons, ← (step_of_child first found).1]
      exact ih later onward

theorem names_eq_ok {all : List Text} (checked : names path = .ok all) :
    path ≠ [] ∧ all = segments path := by
  unfold names at checked
  split at checked
  · cases checked
  split at checked
  · cases checked
  split at checked
  · cases checked
  · next occupied _ =>
      cases checked
      exact ⟨fun empty => occupied (by rw [empty]; rfl), rfl⟩

theorem place_eq_foldl_names {all : List Text} (checked : names path = .ok all) (start : Location) :
    place start path = all.foldl step (if isAbsolute path then [] else start) := by
  obtain ⟨-, rfl⟩ := names_eq_ok checked
  rw [place, segments, List.foldl_filter]
  congr 1
  funext here name
  cases name with
  | nil => rfl
  | cons c rest => rfl

theorem place_of_locate {here : Location} {name : Option Text} (located : disk.locate path = .ok (here, name)) :
    place disk.workingDirectory path = name.elim here (step here) ∧ ∀ last ∈ name, last ≠ [] := by
  obtain ⟨all, checked, rfl, walked⟩ := locate_eq_ok_iff.mp located
  have named (name : Text) (member : name ∈ all) : name ≠ [] := by
    rw [(names_eq_ok checked).2] at member
    simpa using (List.mem_filter.mp member).2
  have front := eq_foldl_of_walk (fun name member => named name (List.dropLast_subset _ member)) walked
  refine ⟨?_, fun last member => named last (List.mem_of_getLast? member)⟩
  rw [place_eq_foldl_names checked, front]
  cases last : all.getLast? with
  | none =>
      rw [List.getLast?_eq_none_iff.mp last]
      rfl
  | some name =>
      obtain ⟨before, rfl⟩ := List.getLast?_eq_some_iff.mp last
      rw [List.foldl_append, List.dropLast_concat]
      rfl

theorem eq_place_of_find {location : Location} {entry : Entry} (found : disk.find path = .ok (location, entry)) :
    location = place disk.workingDirectory path := by
  have of_child {here : Location} {name : Text} {held : Option Entry}
      (located : disk.locate path = .ok (here, some name)) (child : disk.child here name = .ok (location, held)) :
      location = place disk.workingDirectory path := by
    obtain ⟨led, named⟩ := place_of_locate located
    exact (step_of_child (named name rfl) child).1.trans led.symm
  cases entry with
  | directory =>
      rcases find_eq_ok_directory_iff.mp found with located | ⟨here, name, located, child⟩
      · exact (place_of_locate located).1.symm
      · exact of_child located child
  | file content =>
      obtain ⟨here, name, located, -, child⟩ := find_eq_ok_file_iff.mp found
      exact of_child located child

end ScriptSplit.Disk
