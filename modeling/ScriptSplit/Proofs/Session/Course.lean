import ScriptSplit.Proofs.Session.Round

namespace ScriptSplit.Session

def sourceQuestion : Text := "Enter the source JavaScript file path: "

/-- What an answer may lead to. At the end of the input every answer is one step on the way out. -/
inductive Leads (session : Session) (stage : Stage) (answer : Option Text) : Text × Stage → Prop
  | close (menu : stage = .menu) : Leads session stage answer session.close
  | back (told : Text) (ended : answer = none → stage.remaining = 2) :
      Leads session stage answer (session.backToMenu told)
  | source (said : Text) (given : answer ≠ none) : Leads session stage answer (said ++ sourceQuestion, .source)
  | destinations (said : Text) (config : Config) (outline : Outline) (given : answer ≠ none) :
      Leads session stage answer (said ++ destinationQuestion, .destinations config outline)
  | selection (said : Text) (config : Config) (outline : Outline) (label : Text) (later : List Text)
      (ended : answer = none → stage.remaining = later.length + 3) :
      Leads session stage answer (said ++ selectionQuestion label, .selection config outline label later)

theorem Stage.eq_closed {stage : Stage} (done : stage.remaining = 0) : stage = .closed := by
  cases stage with
  | closed => rfl
  | _ => simp [Stage.remaining] at done

section Leads
variable {session : Session} {stage : Stage} {answer : Option Text} {said : Text} {next : Stage}

theorem Leads.remaining_of_ended (h : Leads session stage none (said, next)) :
    stage.remaining = next.remaining + 1 := by
  cases h with
  | close menu => rw [menu]; rfl
  | back told ended => exact ended rfl
  | source said given => exact absurd rfl given
  | destinations said config outline given => exact absurd rfl given
  | selection said config outline label later ended => exact ended rfl

theorem Leads.eq_farewell (h : Leads session stage answer (said, next)) (closed : next = .closed) :
    said = session.farewell := by
  cases h with
  | close menu => rfl
  | _ => cases closed

/-! ### The menu -/

def choiceQuestion : Text := "Enter your choice: "

theorem not_menu_suffix (session : Session) {ending : Text}
    (apart : ¬ choiceQuestion <:+ ending ∧ ¬ ending <:+ choiceQuestion) (front : Text) :
    ¬ session.menu <:+ front ++ ending := by
  intro shown
  have last : choiceQuestion <:+ session.menu := List.suffix_append _ choiceQuestion
  exact (List.suffix_or_suffix_of_suffix (last.trans shown) (List.suffix_append front ending)).elim apart.1 apart.2

theorem Leads.menu_suffix_iff (h : Leads session stage answer (said, next)) :
    session.menu <:+ said ↔ next = .menu := by
  cases h with
  | close menu => exact iff_of_false (session.not_menu_suffix (by decide) _) (by simp)
  | back told ended => exact iff_of_true (List.suffix_append told session.menu) rfl
  | source front given => exact iff_of_false (session.not_menu_suffix (by decide) front) (by simp)
  | destinations front config outline given =>
      exact iff_of_false (session.not_menu_suffix (by decide) front) (by simp)
  | selection front config outline label later ended =>
      rw [selectionQuestion, ← List.append_assoc]
      exact iff_of_false (session.not_menu_suffix (by decide) _) (by simp)

end Leads

/-! ## One answer -/

section Answer
variable {σ : Type} [Host (StateM σ)] {session : Session} {stage : Stage} {answer : Option Text}

theorem leads_replyMenu (answer : Option Text) :
    Leads session .menu answer (session.replyMenu (answer.map Text.trim)) := by
  cases answer with
  | none => exact .close rfl
  | some line =>
      unfold replyMenu
      split
      · exact .close rfl
      · exact .close rfl
      · exact .close rfl
      · exact .source _ (by simp)
      · exact .back _ (by simp)

theorem leads_replySource {source : Text} (given : source ≠ [] → answer ≠ none) (state : σ) :
    Leads session .source answer ((session.replySource source : StateM σ _).run state).1 := by
  unfold replySource
  split
  · exact .back _ fun _ => rfl
  · rename_i occupied
    rw [StateT.run_bind]
    cases (scanFile (session.configFor source).sourcePath : StateM σ _).run state with
    | mk result scanned =>
        cases result with
        | error error => exact .back _ fun _ => rfl
        | ok outline =>
            change Leads session .source answer ((if outline.elements.isEmpty = true then _ else _ : StateM σ _).run
              scanned).1
            split
            · exact .back _ fun _ => rfl
            · exact .destinations _ _ outline (given (mt List.isEmpty_iff.mpr occupied))

theorem leads_nextSelection (config : Config) (outline : Outline) (labels : List Text) (front : Text) (state : σ)
    (ended : answer = none → stage.remaining = labels.length + 2) :
    let asked := ((session.nextSelection config outline labels : StateM σ _).run state).1
    Leads session stage answer (front ++ asked.1, asked.2) := by
  cases labels with
  | nil =>
      have back : ∃ told, ((session.nextSelection config outline [] : StateM σ _).run state).1 =
          session.backToMenu told := ⟨_, rfl⟩
      obtain ⟨told, back⟩ := back
      change Leads session stage answer (front ++ (_ : Text × Stage).1, (_ : Text × Stage).2)
      rw [back]
      change Leads session stage answer (front ++ (told ++ session.menu), .menu)
      rw [← List.append_assoc]
      exact .back (front ++ told) ended
  | cons label later => exact .selection front config outline label later ended

theorem leads_reply (asks : stage ≠ .closed) (answer : Option Text) (state : σ) :
    Leads session stage answer ((session.reply stage answer : StateM σ _).run state).1 := by
  have given (occupied : (answer.getD []).trim ≠ []) : answer ≠ none := by
    rintro rfl
    exact occupied rfl
  cases stage with
  | menu => exact leads_replyMenu answer
  | source => exact leads_replySource given state
  | destinations config outline =>
      change Leads session _ answer ((session.replyDestination config outline _ : StateM σ _).run state).1
      unfold replyDestination
      split
      · cases listed : config.destinations with
        | nil => exact .back _ fun _ => by simp [Stage.remaining, listed, Assignment.others]
        | cons default rest =>
            have asked : Leads session (.destinations config outline) answer _ := leads_nextSelection config outline
              (Assignment.others (default :: rest)) (session.selectionHeading default) state
              fun _ => by rw [Stage.remaining, listed]
            exact asked
      · rename_i occupied
        exact .destinations [] _ outline (given (mt List.isEmpty_iff.mpr occupied))
  | selection config outline label later => exact leads_nextSelection _ outline later [] state fun _ => rfl
  | closed => exact absurd rfl asks

end Answer

/-! ## A whole session -/

structure Exchange where
  answer : Option Text
  said : Text
  next : Stage

variable {σ : Type} [Host (StateM σ)] (session : Session)

/-- The exchanges from a stage on over the lines that are still to be read, the error that breaks the session off,
and the state it leaves. After the last line every answer is the end of the input. -/
inductive Course : Stage → List (Option Text) → σ → List Exchange → Option FileError → σ → Prop
  | closed (lines : List (Option Text)) (state : σ) : Course .closed lines state [] none state
  | unreadable {stage : Stage} (asks : stage ≠ .closed) (lines : List (Option Text)) (state : σ) :
      Course stage (none :: lines) state [] (some .notUtf8) state
  | line {stage next : Stage} {line said : Text} {lines : List (Option Text)} {state later last : σ}
      {exchanges : List Exchange} {error? : Option FileError} (asks : stage ≠ .closed)
      (replied : (session.reply stage (some line) : StateM σ _).run state = ((said, next), later))
      (rest : Course next lines later exchanges error? last) :
      Course stage (some line :: lines) state (⟨some line, said, next⟩ :: exchanges) error? last
  | ended {stage next : Stage} {said : Text} {state later last : σ} {exchanges : List Exchange}
      {error? : Option FileError} (asks : stage ≠ .closed)
      (replied : (session.reply stage none : StateM σ _).run state = ((said, next), later))
      (rest : Course next [] later exchanges error? last) :
      Course stage [] state (⟨none, said, next⟩ :: exchanges) error? last

variable {session} {stage : Stage} {lines : List (Option Text)} {state last : σ} {exchanges : List Exchange}
  {error? : Option FileError}

theorem leads_of_replied {answer : Option Text} {said : Text} {next : Stage} {later : σ} (asks : stage ≠ .closed)
    (replied : (session.reply stage answer : StateM σ _).run state = ((said, next), later)) :
    Leads session stage answer (said, next) := by
  have leads : Leads session stage answer ((session.reply stage answer : StateM σ _).run state).1 :=
    leads_reply asks answer state
  rwa [replied] at leads

/-! ### What is said and read -/

def Stage.surplus : Stage → Nat
  | .menu | .closed => 0
  | _ => 1

def Exchange.shown (session : Session) (exchange : Exchange) : Bool := session.menu.isSuffixOf exchange.said

theorem Leads.shown_iff {answer : Option Text} {said : Text} {next : Stage}
    (h : Leads session stage answer (said, next)) :
    Exchange.shown session ⟨answer, said, next⟩ = true ↔ next = .menu :=
  List.isSuffixOf_iff_suffix.trans h.menu_suffix_iff

theorem Leads.shown_add_surplus_le {answer : Option Text} {said : Text} {next : Stage}
    (h : Leads session stage answer (said, next)) :
    (if Exchange.shown session ⟨answer, said, next⟩ then 1 else 0) + next.surplus ≤ 1 := by
  cases next <;> simp [h.shown_iff, Stage.surplus]

theorem Leads.shown_add_surplus_le_of_ended {said : Text} {next : Stage}
    (h : Leads session stage none (said, next)) (asks : stage ≠ .closed) :
    (if Exchange.shown session ⟨none, said, next⟩ then 1 else 0) + next.surplus ≤ stage.surplus := by
  cases stage with
  | menu =>
      -- From the menu the end of the input leads out, so nothing more is shown.
      obtain rfl : next = .closed := Stage.eq_closed (Nat.succ.inj h.remaining_of_ended).symm
      simp [h.shown_iff, Stage.surplus]
  | closed => exact absurd rfl asks
  | _ => exact h.shown_add_surplus_le

theorem Course.menus_le (course : session.Course stage lines state exchanges error? last) :
    exchanges.countP (Exchange.shown session) ≤ lines.length + stage.surplus := by
  induction course with
  | closed lines state => exact Nat.zero_le _
  | unreadable asks lines state => exact Nat.zero_le _
  | line asks replied rest ih =>
      have shown := (leads_of_replied asks replied).shown_add_surplus_le
      rw [List.countP_cons, List.length_cons]
      omega
  | ended asks replied rest ih =>
      have shown := (leads_of_replied asks replied).shown_add_surplus_le_of_ended asks
      rw [List.countP_cons]
      omega

theorem Course.nil_of_closed (course : session.Course .closed lines state exchanges error? last) :
    exchanges = [] := by
  cases course with
  | closed => rfl
  | unreadable asks => rfl
  | line asks => exact absurd rfl asks
  | ended asks => exact absurd rfl asks

theorem farewell_suffix_cons {answer : Option Text} {said : Text} {next : Stage}
    (leads : Leads session stage answer (said, next))
    (rest : session.Course next lines state exchanges error? last)
    (ih : next ≠ .closed → session.farewell <:+ exchanges.flatMap Exchange.said) :
    session.farewell <:+ (⟨answer, said, next⟩ :: exchanges).flatMap Exchange.said := by
  rw [List.flatMap_cons]
  by_cases closed : next = .closed
  · subst closed
    have last : said ++ exchanges.flatMap Exchange.said = session.farewell := by
      rw [rest.nil_of_closed, leads.eq_farewell rfl, List.flatMap_nil, List.append_nil]
    exact last ▸ List.suffix_rfl
  · exact (ih closed).trans (List.suffix_append _ _)

theorem Course.farewell_suffix (course : session.Course stage lines state exchanges error? last)
    (asks : stage ≠ .closed) (unbroken : error? = none) :
    session.farewell <:+ exchanges.flatMap Exchange.said := by
  induction course with
  | closed lines state => exact absurd rfl asks
  | unreadable asks lines state => cases unbroken
  | line asks replied rest ih => exact farewell_suffix_cons (leads_of_replied asks replied) rest (ih · unbroken)
  | ended asks replied rest ih => exact farewell_suffix_cons (leads_of_replied asks replied) rest (ih · unbroken)

theorem Course.broken (course : session.Course stage lines state exchanges error? last) {error : FileError}
    (broken : error? = some error) : error = .notUtf8 ∧ lines[exchanges.length]? = some none := by
  induction course with
  | closed lines state => cases broken
  | unreadable asks lines state => exact ⟨(Option.some.inj broken).symm, rfl⟩
  | line asks replied rest ih => exact ih broken
  | ended asks replied rest ih =>
      have absurd := (ih broken).2
      rw [List.getElem?_nil] at absurd
      cases absurd

/-! ### What the session does -/

theorem exists_course_of_ended (session : Session) (stage : Stage) (state : σ) : ∃ exchanges last,
    session.Course stage [] state exchanges none last ∧
      (session.drain stage stage.remaining : StateM σ _).run state = (exchanges.flatMap Exchange.said, last) := by
  -- At the end of the input every answer brings down what remains by one, so nothing is cut off.
  induction count : stage.remaining generalizing stage state with
  | zero =>
      obtain rfl := Stage.eq_closed count
      exact ⟨[], state, .closed [] state, rfl⟩
  | succ count ih =>
      have asks : stage ≠ .closed := by
        rintro rfl
        cases count
      obtain ⟨⟨⟨said, next⟩, later⟩, replied⟩ :
          ∃ result, (session.reply stage none : StateM σ _).run state = result := ⟨_, rfl⟩
      have fewer := (leads_of_replied asks replied).remaining_of_ended
      obtain ⟨exchanges, last, course, drained⟩ := ih next later (by omega)
      refine ⟨⟨none, said, next⟩ :: exchanges, last, .ended asks replied course, ?_⟩
      rw [drain, StateT.run_bind, replied]
      change ((fun rest => (said ++ rest.1, rest.2)) ((session.drain next _ : StateM σ _).run later)) = _
      rw [drained]
      rfl

theorem exists_course (session : Session) (stage : Stage) (lines : List (Option Text)) (state : σ) :
    ∃ exchanges error? last, session.Course stage lines state exchanges error? last ∧
      (session.follow stage lines : StateM σ _).run state = ((exchanges.flatMap Exchange.said, error?), last) := by
  induction lines generalizing stage state with
  | nil =>
      obtain ⟨exchanges, last, course, drained⟩ := exists_course_of_ended session stage state
      refine ⟨exchanges, none, last, course, ?_⟩
      rw [follow, StateT.run_bind, drained]
      rfl
  | cons answer lines ih =>
      by_cases closed : stage = .closed
      · subst closed
        exact ⟨[], none, state, .closed _ state, rfl⟩
      cases answer with
      | none =>
          refine ⟨[], some .notUtf8, state, .unreadable closed lines state, ?_⟩
          cases stage with
          | closed => exact absurd rfl closed
          | _ => rfl
      | some line =>
          obtain ⟨⟨⟨said, next⟩, later⟩, replied⟩ :
              ∃ result, (session.reply stage (some line) : StateM σ _).run state = result := ⟨_, rfl⟩
          obtain ⟨exchanges, error?, last, course, followed⟩ := ih next later
          refine ⟨⟨some line, said, next⟩ :: exchanges, error?, last, .line closed replied course, ?_⟩
          rw [run_follow_cons, replied, after, followed]
          rfl

theorem run_course (session : Session) (script : ByteArray) (state : σ) : ∃ exchanges error? last,
    session.Course .menu (answers script) state exchanges error? last ∧
    (session.run script : StateM σ _).run state =
      ((session.menu ++ exchanges.flatMap Exchange.said, error?), last) ∧
    1 + exchanges.countP (Exchange.shown session) ≤ (answers script).length + 1 ∧
    ((error? = none ∧ session.farewell <:+ session.menu ++ exchanges.flatMap Exchange.said ∧
        (session.colour = false → Text.line "Refucked!" <:+ session.menu ++ exchanges.flatMap Exchange.said)) ∨
      (error? = some .notUtf8 ∧ (answers script)[exchanges.length]? = some none)) := by
  obtain ⟨exchanges, error?, last, course, followed⟩ := exists_course session .menu (answers script) state
  have menus := course.menus_le
  refine ⟨exchanges, error?, last, course, ?_, ?_, ?_⟩
  · change prepend session.menu ((session.follow .menu (answers script) : StateM σ _).run state) = _
    rw [followed, prepend]
  · rw [Stage.surplus] at menus
    omega
  · cases error? with
    | none =>
        have last := (course.farewell_suffix (by simp) rfl).trans (List.suffix_append session.menu _)
        refine .inl ⟨rfl, last, fun plain => ?_⟩
        rwa [farewell, plain] at last
    | some error =>
        obtain ⟨rfl, unreadable⟩ := course.broken rfl
        exact .inr ⟨rfl, unreadable⟩

end ScriptSplit.Session
