import ScriptSplit.Proofs.Disk.Place
import Mathlib.Data.List.DropRight

namespace ScriptSplit.Path

variable {path : Text}

/-! ## Pieces -/

theorem slash_not_mem_of_mem_splitOn {piece : Text} (member : piece ∈ path.splitOn '/') : '/' ∉ piece := by
  induction path generalizing piece with
  | nil =>
      rw [List.splitOn_nil, List.mem_singleton] at member
      simp [member]
  | cons c rest ih =>
      rw [List.splitOn_cons_eq_if_modifyHead] at member
      split at member
      · rcases List.mem_cons.mp member with rfl | later
        · simp
        · exact ih later
      · next other =>
          obtain ⟨first, later, cut⟩ := List.exists_cons_of_ne_nil (List.splitOn_ne_nil '/' rest)
          rw [cut, List.modifyHead_cons] at member
          rcases List.mem_cons.mp member with rfl | behind
          · have clear := ih (cut ▸ List.mem_cons_self)
            rw [List.mem_cons, not_or]
            exact ⟨fun same => other (beq_iff_eq.mpr same.symm), clear⟩
          · exact ih (cut ▸ List.mem_cons_of_mem _ behind)

theorem endsInSlash_of_getLast?_splitOn (last : (path.splitOn '/').getLast? = some []) :
    path = [] ∨ path.getLast? = some '/' := by
  by_cases slash : '/' ∈ path
  · obtain ⟨after, before, cut, clear⟩ := List.eq_append_cons_of_mem (List.mem_reverse.mpr slash)
    have whole : path = before.reverse ++ '/' :: after.reverse := by
      rw [← List.reverse_reverse path, cut]
      simp
    have single : after.reverse.splitOn '/' = [after.reverse] := List.splitOn_eq_singleton (by simpa using clear)
    rw [whole, List.splitOn_append_cons_self, single, List.getLast?_concat, Option.some.injEq] at last
    exact .inr (by rw [whole, last, List.getLast?_concat])
  · rw [List.splitOn_eq_singleton slash] at last
    exact .inl (Option.some.inj last)

def pieces (path : Text) : List Text := (path.drop (headLength path)).splitOn '/'

theorem head_cases (path : Text) :
    (∃ rest, path = '/' :: rest ∧ headLength path = 1) ∨
    (∃ rest later, path = '.' :: rest ∧ rest.splitOn '/' = [] :: later ∧ headLength path = 1) ∨
    headLength path = 0 ∧ (path = [] ∨ ∃ first later, path.splitOn '/' = first :: later ∧ isIdle first = false) := by
  unfold headLength
  split
  · next rest => exact .inl ⟨rest, rfl, rfl⟩
  · exact .inr (.inl ⟨[], [], rfl, rfl, rfl⟩)
  · next rest =>
      refine .inr (.inl ⟨'/' :: rest, rest.splitOn '/', rfl, ?_, rfl⟩)
      rw [List.splitOn_cons_eq_if_modifyHead]
      rfl
  · next noRoot noDot noDotSlash =>
      refine .inr (.inr ⟨rfl, ?_⟩)
      cases path with
      | nil => exact .inl rfl
      | cons c rest =>
          have other : c ≠ '/' := fun same => noRoot rest (same ▸ rfl)
          obtain ⟨first, later, cut⟩ := List.exists_cons_of_ne_nil (List.splitOn_ne_nil '/' rest)
          refine .inr ⟨c :: first, later, ?_, ?_⟩
          · rw [List.splitOn_cons_eq_if_modifyHead, if_neg (by simpa using other), cut]
            rfl
          · refine Bool.eq_false_iff.mpr fun idle => ?_
            have dot : c :: first = ['.'] := by simpa [isIdle] using idle
            cases dot
            cases rest with
            | nil => exact noDot rfl
            | cons d more =>
                rw [List.splitOn_cons_eq_if_modifyHead] at cut
                split at cut
                · next slash => exact noDotSlash more (by rw [beq_iff_eq.mp slash])
                · obtain ⟨one, others, split⟩ := List.exists_cons_of_ne_nil (List.splitOn_ne_nil '/' more)
                  rw [split] at cut
                  cases cut

theorem head?_intercalate (c : Char) (piece : Text) (rest : List Text) :
    (List.intercalate ['/'] ((c :: piece) :: rest)).head? = some c := by
  cases rest with
  | nil => rw [List.intercalate_singleton, List.head?_cons]
  | cons next others =>
      rw [List.intercalate_cons_of_ne_nil (List.cons_ne_nil next others), List.append_assoc, List.cons_append,
        List.head?_cons]

theorem isAbsolute_intercalate {first : Text} {rest : List Text} (occupied : first ≠ [])
    (clear : ∀ piece ∈ first :: rest, '/' ∉ piece) :
    isAbsolute (List.intercalate ['/'] (first :: rest)) = false := by
  obtain ⟨c, later, rfl⟩ := List.exists_cons_of_ne_nil occupied
  rw [isAbsolute, head?_intercalate, beq_eq_false_iff_ne]
  intro same
  exact clear _ List.mem_cons_self (Option.some.inj same ▸ List.mem_cons_self)

theorem segments_head_append {kept : List Text} (first : kept <+: pieces path) :
    segments (path.take (headLength path) ++ List.intercalate ['/'] kept) =
      segments (path.take (headLength path)) ++ kept.filter fun piece => !piece.isEmpty := by
  have clear (piece : Text) (member : piece ∈ kept) : '/' ∉ piece :=
    slash_not_mem_of_mem_splitOn (first.subset member)
  cases kept with
  | nil => simp
  | cons piece rest =>
      have cut := List.splitOn_intercalate '/' clear (List.cons_ne_nil piece rest)
      rcases head_cases path with ⟨root, rfl, head⟩ | ⟨dot, later, rfl, split, head⟩ | ⟨head, -⟩
      · have led := List.splitOn_append_cons_self (a := '/') [] (List.intercalate ['/'] (piece :: rest))
        rw [head, List.take_succ_cons, List.take_zero, List.singleton_append, segments, ← List.nil_append ('/' :: _),
          led, cut]
        rfl
      · -- Behind a lone dot stands a slash, so the first piece is empty.
        rw [pieces, head, List.drop_succ_cons, List.drop_zero, split] at first
        obtain rfl : piece = [] := (List.cons_prefix_cons.mp first).1
        rw [head]
        cases rest with
        | nil => rfl
        | cons next others =>
            have led := List.splitOn_append_cons_self (a := '/') ['.'] (List.intercalate ['/'] (next :: others))
            rw [List.splitOn_intercalate '/' (fun other member => clear other (List.mem_cons_of_mem _ member))
              (List.cons_ne_nil next others)] at led
            rw [List.intercalate_cons_of_ne_nil (List.cons_ne_nil next others)]
            exact congrArg (List.filter fun piece => !piece.isEmpty) led
      · rw [head, List.take_zero, List.nil_append, segments, cut]
        rfl

theorem steps_head_append {kept : List Text} (first : kept <+: pieces path) :
    steps (path.take (headLength path) ++ List.intercalate ['/'] kept) =
      kept.filter fun piece => !isIdle piece := by
  have idle : steps (path.take (headLength path)) = [] := by
    rcases head_cases path with ⟨root, rfl, head⟩ | ⟨dot, later, rfl, -, head⟩ | ⟨head, -⟩ <;> rw [head] <;> rfl
  rw [← filter_segments, segments_head_append first, List.filter_append, filter_segments, idle, List.nil_append,
    filter_filter_isEmpty]

theorem isAbsolute_head_append {kept : List Text} (first : kept <+: pieces path) :
    isAbsolute (path.take (headLength path) ++ List.intercalate ['/'] kept) = isAbsolute path := by
  rcases head_cases path with ⟨root, rfl, head⟩ | ⟨dot, later, rfl, -, head⟩ | ⟨head, initial⟩
  · rw [head]
    rfl
  · rw [head]
    rfl
  · rw [pieces, head, List.drop_zero] at first
    rw [head, List.take_zero, List.nil_append]
    rcases initial with rfl | ⟨front, later, split, busy⟩
    · cases kept with
      | nil => rfl
      | cons piece rest =>
          obtain ⟨rfl, rest⟩ := List.cons_prefix_cons.mp first
          rw [List.prefix_nil.mp rest]
          rfl
    · have occupied : front ≠ [] := by
        rintro rfl
        cases busy
      have clear (piece : Text) (member : piece ∈ front :: later) : '/' ∉ piece :=
        slash_not_mem_of_mem_splitOn (split ▸ member)
      have relative : isAbsolute path = false := by
        have joined : List.intercalate ['/'] (path.splitOn '/') = path := List.intercalate_splitOn '/'
        rw [← joined, split]
        exact isAbsolute_intercalate occupied clear
      cases kept with
      | nil => exact relative.symm
      | cons piece rest =>
          rw [split] at first
          obtain ⟨rfl, front⟩ := List.cons_prefix_cons.mp first
          rw [relative, isAbsolute_intercalate occupied fun other member =>
            clear other (List.IsPrefix.subset first member)]

theorem filter_pieces (path : Text) : (pieces path).filter (fun piece => !isIdle piece) = steps path := by
  rw [pieces, steps]
  rcases head_cases path with ⟨root, rfl, head⟩ | ⟨dot, later, rfl, split, head⟩ | ⟨head, -⟩
  · rw [head, ← List.nil_append ('/' :: root), List.splitOn_append_cons_self]
    rfl
  · rw [head, List.splitOn_cons_eq_if_modifyHead, if_neg (by decide), List.drop_succ_cons, List.drop_zero, split]
    rfl
  · rw [head, List.drop_zero]

/-! ## Parents -/

theorem getLast?_cons_iff_of_isIdle {piece name : Text} (idle : isIdle piece = true) (busy : isIdle name = false)
    (later : List Text) : (piece :: later).getLast? = some name ↔ later.getLast? = some name := by
  cases later with
  | nil =>
      rw [List.getLast?_singleton, List.getLast?_nil, Option.some.injEq]
      refine ⟨?_, nofun⟩
      rintro rfl
      cases idle.symm.trans busy
  | cons next others => rw [List.getLast?_cons_cons]

theorem getLast?_pieces {name : Text} (last : (path.splitOn '/').getLast? = some name)
    (busy : isIdle name = false) : (pieces path).getLast? = some name := by
  unfold pieces
  rcases head_cases path with ⟨root, rfl, head⟩ | ⟨dot, later, rfl, split, head⟩ | ⟨head, -⟩
  · have cut : ('/' :: root).splitOn '/' = [] :: root.splitOn '/' := List.splitOn_append_cons_self [] root
    rw [cut, getLast?_cons_iff_of_isIdle rfl busy] at last
    rw [head]
    exact last
  · rw [List.splitOn_cons_eq_if_modifyHead, if_neg (by decide), split, List.modifyHead_cons,
      getLast?_cons_iff_of_isIdle rfl busy] at last
    rw [head, List.drop_succ_cons, List.drop_zero, split, getLast?_cons_iff_of_isIdle rfl busy]
    exact last
  · rw [head]
    exact last

theorem slash_not_mem_of_kept_eq_nil {before : List Text} {name : Text} (whole : pieces path = before ++ [name])
    (noHead : path.take (headLength path) = []) (noKept : List.intercalate ['/'] (before.rdropWhile isIdle) = []) :
    '/' ∉ path := by
  rcases head_cases path with ⟨root, rfl, head⟩ | ⟨dot, later, rfl, split, head⟩ | ⟨head, initial⟩
  · rw [head] at noHead
    cases noHead
  · rw [head] at noHead
    cases noHead
  · rw [pieces, head, List.drop_zero] at whole
    cases before with
    | nil =>
        have single : List.intercalate ['/'] (path.splitOn '/') = path := List.intercalate_splitOn '/'
        have member : name ∈ path.splitOn '/' := by simp [whole]
        rw [whole, List.nil_append, List.intercalate_singleton] at single
        exact single ▸ slash_not_mem_of_mem_splitOn member
    | cons first others =>
        rcases initial with rfl | ⟨front, later, split, busy⟩
        · simp
        · obtain ⟨rfl, -⟩ := List.cons.inj (split.symm.trans whole)
          have occupied : (front :: others).rdropWhile isIdle ≠ [] := fun empty =>
            Bool.false_ne_true (busy.symm.trans (List.rdropWhile_eq_nil_iff.mp empty front List.mem_cons_self))
          obtain ⟨piece, kept, remains⟩ := List.exists_cons_of_ne_nil occupied
          have first := List.rdropWhile_prefix isIdle (front :: others)
          rw [remains] at first noKept
          obtain ⟨rfl, -⟩ := List.cons_prefix_cons.mp first
          obtain ⟨c, rest, rfl⟩ := List.exists_cons_of_ne_nil (l := piece) (by rintro rfl; cases busy)
          have initial := head?_intercalate c rest kept
          rw [noKept] at initial
          cases initial

theorem intercalate_isPrefix {first whole : List Text} (h : first <+: whole) :
    List.intercalate ['/'] first <+: List.intercalate ['/'] whole := by
  obtain ⟨rest, rfl⟩ := h
  induction first with
  | nil => exact List.nil_prefix
  | cons piece others ih =>
      cases others with
      | nil => cases rest <;> simp
      | cons next later =>
          have onward : next :: later ++ rest ≠ [] := List.cons_ne_nil next (later ++ rest)
          rw [List.cons_append, List.intercalate_cons_of_ne_nil (List.cons_ne_nil next later),
            List.intercalate_cons_of_ne_nil onward]
          exact (List.prefix_append_right_inj _).mpr ih

theorem parent?_eq {before after : List Text} {name : Text} (whole : pieces path = before ++ name :: after)
    (busy : isIdle name = false) (idle : ∀ piece ∈ after, isIdle piece = true) :
    parent? path = some (path.take (headLength path) ++ List.intercalate ['/'] (before.rdropWhile isIdle)) := by
  have backwards : piecesFromEnd path = name :: before.reverse := by
    have reversed : (pieces path).reverse = after.reverse ++ name :: before.reverse := by rw [whole]; simp
    rw [piecesFromEnd, ← pieces, reversed, List.dropWhile_append_of_pos (by simpa using idle), List.dropWhile_cons,
      busy]
    rfl
  rw [parent?, backwards]
  rfl

theorem isIdle_of_getLast?_rdropWhile (pieces : List Text) (last : Text)
    (final : (pieces.rdropWhile isIdle).getLast? = some last) : isIdle last = false := by
  have occupied : pieces.rdropWhile isIdle ≠ [] := by
    intro none
    rw [none] at final
    cases final
  have busy := List.rdropWhile_last_not isIdle pieces occupied
  rw [List.getLast?_eq_some_getLast occupied] at final
  cases final
  exact Bool.eq_false_iff.mpr busy

theorem exists_parent {front : List Text} {name : Text} (last : steps path = front ++ [name]) :
    ∃ parent, parent? path = some parent ∧ steps parent = front ∧ isAbsolute parent = isAbsolute path ∧
      parent <+: path ∧ ((segments parent).getLast? = some ['.'] → front = []) := by
  rw [← filter_pieces] at last
  obtain ⟨front, rest, whole, rfl, final⟩ := List.filter_eq_append_iff.mp last
  obtain ⟨between, after, rfl, gone, busy, idle⟩ := List.filter_eq_cons_iff.mp final
  rw [← List.append_assoc] at whole
  have up := parent?_eq whole (by simpa using busy) (by simpa using idle)
  have first : (front ++ between).rdropWhile isIdle <+: pieces path :=
    (List.rdropWhile_prefix isIdle _).trans (whole ▸ List.prefix_append _ (name :: after))
  have same : ((front ++ between).rdropWhile isIdle).filter (fun piece => !isIdle piece) =
      front.filter fun piece => !isIdle piece := by
    have dropped : ((front ++ between).rtakeWhile isIdle).filter (fun piece => !isIdle piece) = [] :=
      List.filter_eq_nil_iff.mpr fun piece member => by simp [List.mem_rtakeWhile_imp member]
    have all := congrArg (List.filter fun piece => !isIdle piece)
      (List.rdropWhile_append_rtakeWhile (p := isIdle) (l := front ++ between))
    rwa [List.filter_append, List.filter_append, dropped, List.filter_eq_nil_iff.mpr gone, List.append_nil,
      List.append_nil] at all
  refine ⟨_, up, (steps_head_append first).trans same, isAbsolute_head_append first, ?_, fun dot => ?_⟩
  · have joined : List.intercalate ['/'] (pieces path) = path.drop (headLength path) := List.intercalate_splitOn '/'
    conv_rhs => rw [← List.take_append_drop (headLength path) path, ← joined]
    exact (List.prefix_append_right_inj _).mpr (intercalate_isPrefix first)
  · rw [segments_head_append first] at dot
    rw [← same]
    have busy (last : Text) := isIdle_of_getLast?_rdropWhile (front ++ between) last
    generalize (front ++ between).rdropWhile isIdle = kept at dot busy ⊢
    rcases List.eq_nil_or_concat' kept with rfl | ⟨others, piece, rfl⟩
    · rfl
    · have ends := busy piece List.getLast?_concat
      rw [List.filter_append, List.filter_cons_of_pos (by simp [(Bool.or_eq_false_iff.mp ends).1]), List.filter_nil,
        ← List.append_assoc, List.getLast?_concat] at dot
      cases dot
      cases ends

theorem slash_not_mem_of_parent?_eq_nil {name : Text} (last : (path.splitOn '/').getLast? = some name)
    (busy : isIdle name = false) (up : parent? path = some []) : '/' ∉ path := by
  obtain ⟨before, whole⟩ := List.getLast?_eq_some_iff.mp (getLast?_pieces last busy)
  rw [parent?_eq whole busy nofun, Option.some.injEq] at up
  obtain ⟨noHead, noKept⟩ := List.append_eq_nil_iff.mp up
  exact slash_not_mem_of_kept_eq_nil whole noHead noKept

end ScriptSplit.Path

namespace ScriptSplit.Disk

open ScriptSplit.Path

variable {disk : Disk} {path : Text}

theorem getLast?_splitOn_of_names {all : List Text} (checked : names path = .ok all)
    (plain : endsInSlash path = false) : (path.splitOn '/').getLast? = all.getLast? := by
  obtain ⟨occupied, rfl⟩ := names_eq_ok checked
  obtain ⟨last, final⟩ := Option.isSome_iff_exists.mp (List.getLast?_isSome.mpr (List.splitOn_ne_nil '/' path))
  have named : last ≠ [] := by
    rintro rfl
    rcases endsInSlash_of_getLast?_splitOn final with empty | slash
    · exact occupied empty
    · rw [endsInSlash, slash] at plain
      cases plain
  obtain ⟨before, whole⟩ := List.getLast?_eq_some_iff.mp final
  rw [segments, whole, List.filter_append, List.filter_cons_of_pos (by simpa using named), List.filter_nil,
    List.getLast?_concat, List.getLast?_concat]

theorem exists_parent_of_find {location : Location} {content : ByteArray}
    (found : disk.find path = .ok (location, .file content)) :
    ∃ parent name, parent? path = some parent ∧ location = place disk.workingDirectory parent ++ [name] ∧
      (parent = [] → '/' ∉ path) := by
  obtain ⟨here, name, located, plain, child⟩ := find_eq_ok_file_iff.mp found
  obtain ⟨all, checked, last, -⟩ := locate_eq_ok_iff.mp located
  obtain ⟨busy, down⟩ := (step_of_child ((place_of_locate located).2 name rfl) child).2.resolve_left nofun
  have final := (getLast?_splitOn_of_names checked plain).trans last
  obtain ⟨before, whole⟩ := List.getLast?_eq_some_iff.mp final
  have row : steps path = before.filter (fun piece => !isIdle piece) ++ [name] := by
    rw [steps, whole, List.filter_append, List.filter_cons_of_pos (by simp [busy]), List.filter_nil]
  obtain ⟨parent, up, front, absolute, -⟩ := exists_parent row
  refine ⟨parent, name, up, ?_, fun empty => slash_not_mem_of_parent?_eq_nil final busy (empty ▸ up)⟩
  rw [eq_place_of_find found, place_eq_foldl_steps, row, List.foldl_append, ← front, ← absolute,
    ← place_eq_foldl_steps]
  exact down _

end ScriptSplit.Disk
