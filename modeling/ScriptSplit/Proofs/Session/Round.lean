import ScriptSplit.Proofs.Outline
import ScriptSplit.Proofs.Split.Run
import ScriptSplit.Session

namespace ScriptSplit
namespace Text

theorem toList_eq_toList_data (bytes : ByteArray) : bytes.toList = bytes.data.toList := by
  have loop (i : Nat) (before : List UInt8) :
      ByteArray.toList.loop bytes i before = before.reverse ++ bytes.data.toList.drop i := by
    fun_induction ByteArray.toList.loop bytes i before with
    | case1 i before inside ih =>
        have here : i < bytes.data.size := inside
        have next : bytes.get! i = bytes.data.toList[i] := by
          rw [Array.getElem_toList]
          exact getElem!_pos bytes.data i here
        rw [ih, List.reverse_cons, List.append_assoc, List.drop_eq_getElem_cons (i := i) (by simpa using here), next]
        rfl
    | case2 i before outside => 
        rw [List.drop_eq_nil_of_le (by simpa using Nat.le_of_not_lt outside), List.append_nil]
  exact loop 0 []

def utf8 (text : Text) : List UInt8 := text.flatMap String.utf8EncodeChar

theorem toList_bytes (text : Text) : text.bytes.toList = text.utf8 := by
  rw [toList_eq_toList_data, bytes, String.toUTF8_eq_toByteArray, String.toByteArray_ofList, List.utf8Encode,
    List.data_toByteArray, List.toList_toArray, utf8]

theorem ofBytes?_utf8 (text : Text) : ofBytes? ⟨text.utf8.toArray⟩ = some text := by
  rw [← toList_bytes, toList_eq_toList_data, Array.toArray_toList]
  exact ofBytes?_bytes text

theorem utf8_append (text later : Text) : (text ++ later).utf8 = text.utf8 ++ later.utf8 := List.flatMap_append

theorem feed_not_mem_utf8EncodeChar {c : Char} (other : c ≠ '\n') : 10 ∉ String.utf8EncodeChar c := by
  have code : c.val.toNat ≠ 10 := fun same => other (Char.ext (UInt32.toNat_inj.mp same))
  have unit (n : Nat) (small : n < 256) (differs : n ≠ 10) : 10 ≠ UInt8.ofNat n := by
    intro same
    have := congrArg UInt8.toNat same
    rw [UInt8.toNat_ofNat_of_lt' small] at this
    exact differs this.symm
  intro member
  simp only [String.utf8EncodeChar] at member
  -- One to four units, by the size of the code: only the first is below 128, and only if it is alone.
  split at member
  · exact unit _ (by omega) code (List.mem_singleton.mp member)
  split at member
  · simp only [List.mem_cons, List.not_mem_nil, or_false] at member
    rcases member with same | same <;> exact unit _ (by omega) (by omega) same
  split at member
  · simp only [List.mem_cons, List.not_mem_nil, or_false] at member
    rcases member with same | same | same <;> exact unit _ (by omega) (by omega) same
  · simp only [List.mem_cons, List.not_mem_nil, or_false] at member
    rcases member with same | same | same | same <;> exact unit _ (by omega) (by omega) same

end Text

namespace Session

theorem byteLines_append_feed {line : List UInt8} (clean : 10 ∉ line) (rest : List UInt8) :
    byteLines (line ++ 10 :: rest) = line :: byteLines rest := by
  induction line with
  | nil => simp [byteLines]
  | cons byte line ih =>
      obtain ⟨other, clean⟩ := not_or.mp (List.mem_cons.not.mp clean)
      rw [List.cons_append, byteLines, if_neg (Ne.symm other), ih clean]

theorem answers_bytes {lines : List Text} (clean : ∀ line ∈ lines, '\n' ∉ line) :
    answers (Text.bytes (lines.flatMap Text.line)) = lines.map some := by
  have cut : byteLines (Text.utf8 (lines.flatMap Text.line)) = lines.map Text.utf8 := by
    induction lines with
    | nil => rfl
    | cons line rest ih =>
        obtain ⟨first, later⟩ := List.forall_mem_cons.mp clean
        have noFeed : 10 ∉ line.utf8 := by
          intro member
          obtain ⟨c, there, unit⟩ := List.mem_flatMap.mp member
          exact Text.feed_not_mem_utf8EncodeChar (fun same => first (same ▸ there)) unit
        rw [List.flatMap_cons, Text.utf8_append, Text.line, Text.utf8_append, List.append_assoc]
        exact (byteLines_append_feed noFeed _).trans (congrArg (line.utf8 :: ·) (ih later))
  rw [answers, Text.toList_bytes, cut, List.map_map]
  exact List.map_congr_left fun line _ => Text.ofBytes?_utf8 line

end Session
end ScriptSplit

/-! ## Rounds of a session -/

namespace ScriptSplit.Session

structure Round where
  source : Text
  default : Text
  later : List Text
  answers : List Text
  typed : ∀ entry ∈ source :: default :: later, entry ≠ [] ∧ entry.trim = entry
  answered : answers.length = (Assignment.others (default :: later)).length
  oneLine : ∀ line ∈ source :: default :: later ++ answers, '\n' ∉ line

namespace Round

def labels (round : Round) : List Text := round.default :: round.later

def asked (round : Round) : List Text := Assignment.others round.labels

def lines (round : Round) : List Text := ['1'] :: round.source :: (round.labels ++ [] :: round.answers)

def config (session : Session) (round : Round) : Config :=
  { source := round.source
    baseDir := session.baseDir
    outputDir := session.outputDir
    destinations := round.labels
    selections := round.asked.zip round.answers }

def listed (session : Session) (round : Round) : Config :=
  { session.configFor round.source with destinations := round.labels }

def prompts (session : Session) (round : Round) (outline : Outline) : Text :=
  Text.line "Splitting js file into multiple files" ++ "Enter the source JavaScript file path: " ++
    session.found outline ++ destinationHeading ++ destinationQuestion ++
    round.labels.flatMap (fun _ => destinationQuestion) ++ session.selectionHeading round.default ++
    round.asked.flatMap selectionQuestion ++ Text.line [] ++ Text.line "Generating output files..."

theorem invalid?_config (session : Session) (round : Round) : (round.config session).invalid? = none := by
  have typed : ∀ label ∈ round.labels, label.trim.isEmpty = false := by
    intro label member
    obtain ⟨occupied, same⟩ := round.typed label (List.mem_cons_of_mem _ member)
    rw [same]
    exact List.isEmpty_eq_false_iff.mpr occupied
  have none : (round.labels.any fun label => label.trim.isEmpty) = false :=
    List.any_eq_false.mpr fun label member => Bool.eq_false_iff.mp (typed label member)
  change (if round.labels.isEmpty then _ else
    if round.labels.any (fun label => label.trim.isEmpty) then _ else _) = _
  rw [none]
  rfl

end Round

def script (rounds : List Round) : ByteArray :=
  Text.bytes ((rounds.flatMap Round.lines ++ [['X']]).flatMap Text.line)

theorem answers_script (rounds : List Round) :
    answers (script rounds) = (rounds.flatMap Round.lines ++ [['X']]).map some := by
  refine answers_bytes fun line member => ?_
  rcases List.mem_append.mp member with typed | last
  · obtain ⟨round, -, there⟩ := List.mem_flatMap.mp typed
    have oneLine := round.oneLine
    simp only [Round.lines, Round.labels, List.mem_cons, List.mem_append] at there
    simp only [List.mem_cons, List.mem_append, List.cons_append] at oneLine
    rcases there with rfl | rfl | (rfl | there) | rfl | there
    · decide
    · exact oneLine _ (.inl rfl)
    · exact oneLine _ (.inr (.inl rfl))
    · exact oneLine _ (.inr (.inr (.inl there)))
    · exact List.not_mem_nil
    · exact oneLine _ (.inr (.inr (.inr there)))
  · rw [List.mem_singleton.mp last]
    decide

/-! ## One answer after another -/

abbrev Told (σ : Type) := (Text × Option FileError) × σ

section Told
variable {σ : Type}

def prepend (text : Text) (told : Told σ) : Told σ := ((text ++ told.1.1, told.1.2), told.2)

theorem prepend_append (text more : Text) (told : Told σ) :
    prepend (text ++ more) told = prepend text (prepend more told) := by
  simp [prepend]

end Told

variable {σ : Type} [Host (StateM σ)] (session : Session)

def after (asked : (Text × Stage) × σ) (rest : List (Option Text)) : Told σ :=
  prepend asked.1.1 ((session.follow asked.1.2 rest : StateM σ _).run asked.2)

theorem run_follow_cons (stage : Stage) (line : Text) (rest : List (Option Text)) (state : σ) :
    (session.follow stage (some line :: rest) : StateM σ _).run state =
      session.after ((session.reply stage (some line) : StateM σ _).run state) rest := by
  cases stage with
  | closed => cases rest <;> rfl
  | _ => rfl

theorem run_follow_destinations (outline : Outline) {labels : List Text}
    (typed : ∀ label ∈ labels, label ≠ [] ∧ label.trim = label) (config : Config) (rest : List (Option Text))
    (state : σ) :
    (session.follow (.destinations config outline) (labels.map some ++ rest) : StateM σ _).run state =
      prepend (labels.flatMap fun _ => destinationQuestion)
        ((session.follow (.destinations { config with destinations := config.destinations ++ labels } outline)
          rest : StateM σ _).run state) := by
  induction labels generalizing config with
  | nil =>
      rw [List.append_nil]
      rfl
  | cons label labels ih =>
      -- The configuration grows by the label, so the induction hypothesis is for the grown one.
      obtain ⟨⟨occupied, same⟩, later⟩ := List.forall_mem_cons.mp typed
      have asked : (session.reply (.destinations config outline) (some label) : StateM σ _).run state =
          ((destinationQuestion,
            .destinations { config with destinations := config.destinations ++ [label] } outline), state) := by
        simp only [reply, Option.getD_some, same, replyDestination, List.isEmpty_eq_false_iff.mpr occupied]
        rfl
      rw [List.map_cons, List.cons_append, run_follow_cons, asked, after, ih later, List.flatMap_cons, prepend_append]
      simp

theorem after_nextSelection (outline : Outline) {labels answers : List Text}
    (answered : answers.length = labels.length) (config : Config) (rest : List (Option Text)) (state : σ) :
    session.after ((session.nextSelection config outline labels : StateM σ _).run state)
        (answers.map some ++ rest) =
      prepend (labels.flatMap selectionQuestion) (session.after ((session.generate
        { config with selections := config.selections ++ Selections.trimmed (labels.zip answers) } outline :
          StateM σ _).run state) rest) := by
  induction labels generalizing config answers with
  | nil =>
      rw [List.eq_nil_of_length_eq_zero answered]
      simp [nextSelection, Selections.trimmed, prepend]
  | cons label labels ih =>
      obtain ⟨answer, answers, rfl⟩ := List.exists_cons_of_length_eq_add_one answered
      have asked : (session.nextSelection config outline (label :: labels) : StateM σ _).run state =
          ((selectionQuestion label, .selection config outline label labels), state) := rfl
      rw [asked, after, List.map_cons, List.cons_append, run_follow_cons, List.flatMap_cons, prepend_append]
      refine congrArg (prepend _) ?_
      change session.after ((session.nextSelection _ outline labels : StateM σ _).run state) _ = _
      -- A blank answer adds no selection, and any other one the trimmed text.
      rw [ih (Nat.succ.inj answered)]
      by_cases blank : answer.trim = []
      · simp [Selections.trimmed, blank]
      · simp [Selections.trimmed, blank, Config.select]

theorem run_generate (config : Config) (outline : Outline) {state next : σ} {report : Report}
    (ran : (Split.runWith config outline : StateM σ _).run state = (.ok report, next)) :
    (session.generate config outline : StateM σ _).run state =
      ((Text.line [] ++ Text.line "Generating output files..." ++ report.summary ++ session.menu, .menu), next) := by
  rw [generate, StateT.run_bind, ran]
  rfl

/-! ## A whole round -/

section Rounds
variable (round : Round) {outline : Outline} {state scanned next : σ} (rest : List (Option Text))

theorem run_follow_source
    (scan : (scanFile (round.config session).sourcePath : StateM σ _).run state = (.ok outline, scanned))
    (occupied : outline.elements ≠ []) :
    (session.follow .source (some round.source :: rest) : StateM σ _).run state =
      prepend (session.found outline ++ destinationHeading ++ destinationQuestion)
        ((session.follow (.destinations (session.configFor round.source) outline) rest : StateM σ _).run scanned) := by
  obtain ⟨present, same⟩ := round.typed round.source List.mem_cons_self
  change (scanFile (session.configFor round.source).sourcePath : StateM σ _).run state = _ at scan
  have opened : (session.reply .source (some round.source) : StateM σ _).run state =
      ((session.found outline ++ destinationHeading ++ destinationQuestion,
        .destinations (session.configFor round.source) outline), scanned) := by
    simp only [reply, Option.getD_some, same, replySource, List.isEmpty_eq_false_iff.mpr present,
      Bool.false_eq_true, if_false, StateT.run_bind]
    rw [scan]
    change (if outline.elements.isEmpty = true then _ else _ : StateM σ _).run scanned = _
    rw [if_neg (List.isEmpty_iff.not.mpr occupied)]
    rfl
  rw [run_follow_cons, opened, after]

theorem run_follow_labels (state : σ) :
    (session.follow (.destinations (session.configFor round.source) outline) (round.labels.map some ++ rest) :
        StateM σ _).run state =
      prepend (round.labels.flatMap fun _ => destinationQuestion)
        ((session.follow (.destinations (round.listed session) outline) rest : StateM σ _).run state) :=
  run_follow_destinations session outline
    (fun label member => round.typed label (List.mem_cons_of_mem _ member)) (session.configFor round.source) rest
    state

theorem run_follow_answers {report : Report}
    (ran : (Split.runWith (round.config session) outline : StateM σ _).run state = (.ok report, next)) :
    (session.follow (.destinations (round.listed session) outline)
        (some [] :: (round.answers.map some ++ rest)) : StateM σ _).run state =
      prepend (session.selectionHeading round.default ++ round.asked.flatMap selectionQuestion ++
          (Text.line [] ++ Text.line "Generating output files..." ++ report.summary ++ session.menu))
        ((session.follow .menu rest : StateM σ _).run next) := by
  have asked : (session.reply (.destinations (round.listed session) outline) (some []) : StateM σ _).run state =
      let question := (session.nextSelection (round.listed session) outline round.asked : StateM σ _).run state
      ((session.selectionHeading round.default ++ question.1.1, question.1.2), question.2) := rfl
  have answered := after_nextSelection session outline round.answered (round.listed session) rest state
  -- The session splits with trimmed selections, which makes no difference to a run.
  have trimmed : (Split.runWith { round.config session with
      selections := Selections.trimmed (round.config session).selections } outline : StateM σ _).run state =
        (.ok report, next) := by
    rw [Split.runWith_trimmed, ran]
  have split := run_generate session _ outline trimmed
  have told := answered.trans (congrArg (fun said => prepend _ (session.after said rest)) split)
  rw [run_follow_cons, asked, after, prepend_append, prepend_append, prepend_append]
  exact congrArg (prepend _) told

theorem run_follow_round {report : Report}
    (scan : (scanFile (round.config session).sourcePath : StateM σ _).run state = (.ok outline, scanned))
    (occupied : outline.elements ≠ [])
    (ran : (Split.runWith (round.config session) outline : StateM σ _).run scanned = (.ok report, next)) :
    (session.follow .menu (round.lines.map some ++ rest) : StateM σ _).run state =
      prepend (round.prompts session outline ++ report.summary ++ session.menu)
        ((session.follow .menu rest : StateM σ _).run next) := by
  have lines : round.lines.map some ++ rest = some ['1'] :: some round.source ::
      (round.labels.map some ++ some [] :: (round.answers.map some ++ rest)) := by
    simp [Round.lines]
  have chosen : (session.reply .menu (some ['1']) : StateM σ _).run state =
      ((Text.line "Splitting js file into multiple files" ++ "Enter the source JavaScript file path: ", .source),
        state) := rfl
  rw [lines, run_follow_cons, chosen, after, run_follow_source session round _ scan occupied,
    run_follow_labels, run_follow_answers session round rest ran]
  simp only [← prepend_append, Round.prompts, List.append_assoc]

end Rounds

end ScriptSplit.Session
