import ScriptSplit.Scanner

/-!
# What one line does

`Scanner.Step` has one constructor for each thing that a line can do to the scanner, with all that is known
when it happens, and `Scanner.step_feed` says that nothing else can happen. Facts about scanners are proved by
cases on it, never by opening `Scanner.feed`.
-/

namespace ScriptSplit.Scanner

def isMarked (line : Text) : Bool := line.contains "*/" || line.contains "/*"

def commentAfter (inComment : Bool) (line : Text) : Bool :=
  !line.contains "*/" && (line.contains "/*" || inComment)

def skips (scanner : Scanner) (line : Text) : Bool := isMarked line || scanner.inComment

def opened (scanner : Scanner) (line : Text) (kind : Kind) (name : Text) : Element :=
  ⟨kind, name, [line], scanner.lineNumber + 1⟩

inductive Step (scanner : Scanner) (line : Text) : Scanner → Prop where
  | comment (skipped : scanner.skips line = true) :
      Step scanner line
        { scanner with
          inComment := commentAfter scanner.inComment line
          current := scanner.current.map (·.push line)
          lineNumber := scanner.lineNumber + 1 }
  | within {element : Element} (code : scanner.skips line = false)
      (isOpen : scanner.current = some element)
      (stays : ¬ (scanner.depth + balance line = 0 ∧ 0 < scanner.depth)) :
      Step scanner line
        { scanner with
          depth := scanner.depth + balance line
          current := some (element.push line)
          lineNumber := scanner.lineNumber + 1 }
  | closing {element : Element} (code : scanner.skips line = false)
      (isOpen : scanner.current = some element)
      (level : scanner.depth + balance line = 0) (deep : 0 < scanner.depth) :
      Step scanner line
        { scanner with
          depth := 0
          current := none
          elements := scanner.elements ++ [element.push line]
          lineNumber := scanner.lineNumber + 1 }
  | opening {kind : Kind} {name : Text} (code : scanner.skips line = false)
      (free : scanner.current = none) (level : scanner.depth = 0)
      (reads : Element.opening? line.trim = some (kind, name)) (movable : kind.isMovable = true) :
      Step scanner line
        { scanner with
          depth := balance line
          current := some (scanner.opened line kind name)
          lineNumber := scanner.lineNumber + 1 }
  | single {kind : Kind} {name : Text} (code : scanner.skips line = false)
      (free : scanner.current = none) (level : scanner.depth = 0)
      (reads : Element.opening? line.trim = some (kind, name)) (shared : kind.isMovable = false) :
      Step scanner line
        { scanner with
          depth := balance line
          elements := scanner.elements ++ [scanner.opened line kind name]
          lineNumber := scanner.lineNumber + 1 }
  | idle (code : scanner.skips line = false) (free : scanner.current = none)
      (silent : scanner.depth = 0 → Element.opening? line.trim = none) :
      Step scanner line
        { scanner with depth := scanner.depth + balance line, lineNumber := scanner.lineNumber + 1 }

theorem skips_eq_false_iff {scanner : Scanner} {line : Text} :
    scanner.skips line = false ↔ isMarked line = false ∧ scanner.inComment = false :=
  Bool.or_eq_false_iff

theorem commentAfter_of_unmarked {line : Text} (unmarked : isMarked line = false) (inComment : Bool) :
    commentAfter inComment line = inComment := by
  obtain ⟨closes, opens⟩ := Bool.or_eq_false_iff.mp unmarked
  rw [commentAfter, closes, opens, Bool.not_false, Bool.true_and, Bool.false_or]

theorem feed_of_skips {scanner : Scanner} {line : Text} (skipped : scanner.skips line = true) :
    scanner.feed line =
      { scanner with
        inComment := commentAfter scanner.inComment line
        current := scanner.current.map (·.push line)
        lineNumber := scanner.lineNumber + 1 } := by
  unfold feed append commentAfter
  cases closes : line.contains "*/" with
  | true => simp only [if_true, Bool.not_true, Bool.false_and]
  | false =>
      have opens : (line.contains "/*" || scanner.inComment) = true := by
        rwa [skips, isMarked, closes, Bool.false_or] at skipped
      simp only [opens, if_true, Bool.false_eq_true, if_false, Bool.not_false, Bool.true_and]

theorem feed_of_code {scanner : Scanner} {line : Text} (code : scanner.skips line = false) :
    scanner.feed line = { scanner with lineNumber := scanner.lineNumber + 1 }.feedCode line := by
  obtain ⟨unmarked, outside⟩ := skips_eq_false_iff.mp code
  obtain ⟨closes, opens⟩ := Bool.or_eq_false_iff.mp unmarked
  unfold feed
  simp only [closes, opens, outside, Bool.false_eq_true, if_false, Bool.or_false]

theorem step_feed (scanner : Scanner) (line : Text) : Step scanner line (scanner.feed line) := by
  cases code : scanner.skips line with
  | true =>
      rw [feed_of_skips code]
      exact .comment code
  | false =>
      rw [feed_of_code code]
      cases now : scanner.current with
      | some element =>
          by_cases ends : scanner.depth + balance line = 0 ∧ 0 < scanner.depth
          · have closed := Step.closing code now ends.1 ends.2
            rw [← ends.1] at closed
            simpa only [feedCode, now, if_pos ends] using closed
          · simpa only [feedCode, now, if_neg ends] using Step.within code now ends
      | none =>
          by_cases level : scanner.depth = 0
          · cases reads : Element.opening? line.trim with
            | none =>
                simpa only [feedCode, start, now, if_pos level, reads] using Step.idle code now fun _ => reads
            | some declaration =>
                obtain ⟨kind, name⟩ := declaration
                cases movable : kind.isMovable with
                | true =>
                    simpa [feedCode, start, now, level, reads, movable, opened] using
                      Step.opening code now level reads movable
                | false =>
                    simpa [feedCode, start, now, level, reads, movable, opened] using
                      Step.single code now level reads movable
          · simpa only [feedCode, now, if_neg level] using
              Step.idle code now fun zero => absurd zero level

end ScriptSplit.Scanner
