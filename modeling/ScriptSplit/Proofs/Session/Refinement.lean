import ScriptSplit.Proofs.Outline
import ScriptSplit.Proofs.Session.Round
import ScriptSplit.Proofs.Split.Run

namespace ScriptSplit.Session

variable {σ : Type} [Host (StateM σ)] (session : Session)

def Ready : List Round → σ → Prop
  | [], _ => True
  | round :: rest, state =>
    (∃ outline, ((scanFile (round.config session).sourcePath : StateM σ _).run state).1 = .ok outline ∧
      outline.elements ≠ []) ∧
    Ready rest ((Split.run (round.config session) : StateM σ _).run state).2

structure Visit where
  round : Round
  outline : Outline
  report : Report

/-- The runs that go with a session, one after another, and what they end with. -/
inductive Runs : σ → List Visit → σ → Prop
  | nil (state : σ) : Runs state [] state
  | cons {visit : Visit} {later : List Visit} {state scanned next last : σ}
      (scan : (scanFile (visit.round.config session).sourcePath : StateM σ _).run state =
        (.ok visit.outline, scanned))
      (run : (Split.run (visit.round.config session) : StateM σ _).run state = (.ok visit.report, next))
      (rest : Runs next later last) : Runs state (visit :: later) last

def Visit.transcript (visit : Visit) : Text :=
  visit.round.prompts session visit.outline ++ visit.report.summary ++ session.menu

theorem exists_run (round : Round) {outline : Outline} {state : σ}
    (scan : ((scanFile (round.config session).sourcePath : StateM σ _).run state).1 = .ok outline)
    (occupied : outline.elements ≠ []) :
    ∃ report scanned next,
      (scanFile (round.config session).sourcePath : StateM σ _).run state = (.ok outline, scanned) ∧
      (Split.runWith (round.config session) outline : StateM σ _).run scanned = (.ok report, next) ∧
      (Split.run (round.config session) : StateM σ _).run state = (.ok report, next) := by
  have valid := round.invalid?_config session
  have scanned : (scanFile (round.config session).sourcePath : StateM σ _).run state = (.ok outline, _) :=
    Prod.ext scan rfl
  refine ⟨_, _, _, scanned, Split.run_runWith _ outline valid occupied _, ?_⟩
  rw [← Split.run_runWith _ outline valid occupied]
  simp only [Split.run, valid, StateT.run_bind]
  rw [scanned]
  rfl

theorem follow_rounds (rounds : List Round) (state : σ) (ready : session.Ready rounds state) :
    ∃ visits last, visits.map Visit.round = rounds ∧ session.Runs state visits last ∧
      (session.follow .menu ((rounds.flatMap Round.lines ++ [['X']]).map some) : StateM σ _).run state =
        ((visits.flatMap (Visit.transcript session) ++ session.farewell, none), last) := by
  induction rounds generalizing state with
  | nil =>
      have closed : (session.reply .menu (some ['X']) : StateM σ _).run state =
          ((session.farewell, .closed), state) := rfl
      have ended : (session.follow .closed [] : StateM σ _).run state = (([], none), state) := rfl
      refine ⟨[], state, rfl, .nil state, ?_⟩
      change (session.follow .menu [some ['X']] : StateM σ _).run state = _
      rw [run_follow_cons, closed, after, ended, prepend, List.append_nil, List.flatMap_nil, List.nil_append]
  | cons round rest ih =>
      obtain ⟨⟨outline, scan, occupied⟩, later⟩ := ready
      obtain ⟨report, scanned, next, scan, split, run⟩ := session.exists_run round scan occupied
      rw [run] at later
      obtain ⟨visits, last, named, runs, told⟩ := ih next later
      -- The run of the round leaves the state in which the rest of the session starts.
      refine ⟨⟨round, outline, report⟩ :: visits, last, congrArg (round :: ·) named, .cons scan run runs, ?_⟩
      rw [List.flatMap_cons, List.append_assoc, List.map_append, run_follow_round session round _ scan occupied split,
        told]
      simp only [prepend, Visit.transcript, List.flatMap_cons, List.append_assoc]

theorem Runs.run_mapM {visits : List Visit} {state last : σ} (runs : session.Runs state visits last) :
    ((visits.map Visit.round).mapM (fun round => Split.run (round.config session)) : StateM σ _).run state =
      (visits.map fun visit => .ok visit.report, last) := by
  induction runs with
  | nil => rfl
  | cons scan run rest ih =>
      rw [List.map_cons, List.mapM_cons, StateT.run_bind, run]
      change (StateT.run (_ >>= _) _) = _
      rw [StateT.run_bind, ih]
      rfl

theorem run_script (rounds : List Round) (state : σ) (ready : session.Ready rounds state) :
    ∃ visits last, visits.map Visit.round = rounds ∧ session.Runs state visits last ∧
      (rounds.mapM (fun round => Split.run (round.config session)) : StateM σ _).run state =
        (visits.map fun visit => .ok visit.report, last) ∧
      (session.run (script rounds) : StateM σ _).run state =
        ((session.menu ++ visits.flatMap (Visit.transcript session) ++ session.farewell, none), last) := by
  obtain ⟨visits, last, named, runs, told⟩ := session.follow_rounds rounds state ready
  refine ⟨visits, last, named, runs, ?_, ?_⟩
  · rw [← named, runs.run_mapM]
  · change prepend session.menu ((session.follow .menu (answers (script rounds)) : StateM σ _).run state) = _
    rw [answers_script, told, prepend, List.append_assoc]

def pairScript : Text := "function f() \x7b\n\x7d\nfunction g() \x7b\n\x7d\n"

def pairDisk : Disk := { entries := [(["game.js"], .file pairScript.bytes)] }

def firstRound : Round where
  source := "game.js"
  default := "a.js"
  later := ["b.js", "a.js"]
  answers := [" 2 "]
  typed := by decide
  answered := by decide
  oneLine := by decide

def secondRound : Round where
  source := "b.js"
  default := "c.js"
  later := ["d.js"]
  answers := ["  "]
  typed := by decide
  answered := by decide
  oneLine := by decide

theorem ready_rounds : ({} : Session).Ready [firstRound, secondRound] pairDisk := by
  have first : pairDisk.read (firstRound.config {}).sourcePath = .ok pairScript.bytes := rfl
  have second : ((Split.run (firstRound.config {}) : OnDisk _).run pairDisk).2.read
      (secondRound.config {}).sourcePath = .ok (Text.bytes "function g() \x7b\n\x7d\n") := rfl
  exact ⟨⟨_, congrArg Prod.fst (OnDisk.run_scanFile first), by decide⟩,
    ⟨_, congrArg Prod.fst (OnDisk.run_scanFile second), by decide⟩, trivial⟩

theorem run_script_pairDisk :
    ({} : Session).Ready [firstRound, secondRound] pairDisk ∧
    ∃ visits last, visits.map Visit.round = [firstRound, secondRound] ∧
      ({} : Session).Runs pairDisk visits last ∧
      ([firstRound, secondRound].mapM (fun round => Split.run (round.config {})) : OnDisk _).run pairDisk =
        (visits.map fun visit => .ok visit.report, last) ∧
      (({} : Session).run (script [firstRound, secondRound]) : OnDisk _).run pairDisk =
        ((({} : Session).menu ++ visits.flatMap (Visit.transcript {}) ++ ({} : Session).farewell, none), last) :=
  ⟨ready_rounds, run_script {} [firstRound, secondRound] pairDisk ready_rounds⟩

end ScriptSplit.Session
