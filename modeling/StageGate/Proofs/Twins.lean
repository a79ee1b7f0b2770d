import StageGate.Proofs.Enabled

/-!
Twin projects, which differ in name and description only, each in a root of its own. Commands treat them
alike: the results are the same but for the paths in their failures, and the projects stay twins,
whatever the two texts contain.
-/

set_option autoImplicit false

namespace StageGate

open Session Store

/-! ### The same result in two places -/

inductive Layout.SameFile (l l' : Layout) : Path → Path → Prop
  | projectFile : SameFile l l' l.projectFile l'.projectFile
  | artifact {s : Stage} {path path' : Path} (h : l.artifact? s = some path)
    (h' : l'.artifact? s = some path') : SameFile l l' path path'

/-- The same failure, told of the same file where it tells of one. -/
inductive Failure.Same (l l' : Layout) : Failure → Failure → Prop
  | refused (reason : Refusal) : Same l l' (.refused reason) (.refused reason)
  | blankName : Same l l' .blankName .blankName
  | blankDescription : Same l l' .blankDescription .blankDescription
  | alreadyInitialized {path path' : Path} (h : l.SameFile l' path path') :
    Same l l' (.alreadyInitialized path) (.alreadyInitialized path')
  | blankArtifact {path path' : Path} (h : l.SameFile l' path path') :
    Same l l' (.blankArtifact path) (.blankArtifact path')
  | onDisk (attempt : Attempt) {path path' : Path} (h : l.SameFile l' path path') (fault : DiskFault) :
    Same l l' (.onDisk attempt path fault) (.onDisk attempt path' fault)

inductive SameResult (l l' : Layout) {α : Type} : Except Failure α → Except Failure α → Prop
  | ok (a : α) : SameResult l l' (.ok a) (.ok a)
  | error {e e' : Failure} (h : e.Same l l' e') : SameResult l l' (.error e) (.error e')

namespace SameResult

variable {l l' : Layout} {α β : Type} {x x' : Except Failure α}

theorem refused (x : Except Refusal α) :
    SameResult l l' (x.mapError Failure.refused) (x.mapError Failure.refused) := by
  cases x with
  | ok a => exact .ok a
  | error reason => exact .error (.refused reason)

theorem bind {f f' : α → Except Failure β} (h : SameResult l l' x x')
    (hf : ∀ a, SameResult l l' (f a) (f' a)) : SameResult l l' (x >>= f) (x' >>= f') := by
  cases h with
  | ok a => exact hf a
  | error h => exact .error h

theorem forM {xs : List β} {f f' : β → Except Failure Unit} (h : ∀ b, SameResult l l' (f b) (f' b)) :
    SameResult l l' (xs.forM f) (xs.forM f') := by
  induction xs with
  | nil => exact .ok ()
  | cons b xs ih => exact (h b).bind fun _ => ih

end SameResult

/-! ### The same documents -/

/-- Every document is the same in both layouts: the same file or folder, or there is none. -/
def SameDocuments (l : Layout) (d : Disk) (l' : Layout) (d' : Disk) : Prop :=
  ∀ s path path', l.artifact? s = some path → l'.artifact? s = some path' → d'.find path' = d.find path

namespace Command

variable {l l' : Layout} {d d' : Disk} {now : Instant}

theorem sameResult_checkArtifact (h : SameDocuments l d l' d') (s : Stage) :
    SameResult l l' (checkArtifact l d s) (checkArtifact l' d' s) := by
  cases hs : s.artifact? with
  | none =>
    have hl : l.artifact? s = none := by rw [Layout.artifact?, hs]; rfl
    have hl' : l'.artifact? s = none := by rw [Layout.artifact?, hs]; rfl
    rw [checkArtifact, checkArtifact, hl, hl']
    exact .ok ()
  | some name =>
    have hl : l.artifact? s = some (l.folder.join name) := by rw [Layout.artifact?, hs]; rfl
    have hl' : l'.artifact? s = some (l'.folder.join name) := by rw [Layout.artifact?, hs]; rfl
    have hsame : l.SameFile l' (l.folder.join name) (l'.folder.join name) := .artifact hl hl'
    have hread : d'.readText (l'.folder.join name) = d.readText (l.folder.join name) := by
      rw [Disk.readText, Disk.readText, h s _ _ hl hl']
    simp only [checkArtifact, hl, hl', hread]
    cases d.readText (l.folder.join name) with
    | error e => exact .error (.onDisk _ hsame e)
    | ok text =>
      dsimp only
      split
      · exact .error (.blankArtifact hsame)
      · exact .ok ()

theorem sameResult_change (h : SameDocuments l d l' d') (now : Instant) (p : Project) (c : Command) :
    SameResult l l' (change l d now p c) (change l' d' now p c) := by
  cases c with
  | init name description mode => exact .ok _
  | status => exact .ok _
  | start s => exact (SameResult.refused _).bind fun _ => .ok _
  | advance s => exact (SameResult.refused _).bind fun _ => .refused _
  | clarify scores =>
    refine (SameResult.refused _).bind fun _ => ?_
    cases givenScores scores with
    | none => exact .ok _
    | some list => exact .refused _
  | validate =>
    refine (SameResult.refused _).bind fun _ => ?_
    refine (SameResult.forM (sameResult_checkArtifact h)).bind fun _ => ?_
    exact (SameResult.refused _).bind fun q => .ok _

end Command

/-! ### Other texts -/

namespace Project

def retold (p : Project) (name description : String) : Project := { p with name, description }

variable (p : Project) (name description : String) (now : Instant)

theorem enterRound_retold :
    (p.retold name description).enterRound now = (p.enterRound now).retold name description := rfl

theorem stamped_retold :
    (p.retold name description).stamped now = (p.stamped now).retold name description := rfl

theorem ensureRound_retold :
    (p.retold name description).ensureRound now = (p.ensureRound now).retold name description := by
  have hc : (p.retold name description).current = p.current := rfl
  rw [ensureRound, ensureRound, hc]
  split <;> rfl

theorem advance_retold : (p.retold name description).advance now =
    (p.advance now).map (·.retold name description) := by
  have hd : (p.retold name description).destination = p.destination := rfl
  rw [advance, advance, hd]
  cases p.destination <;> rfl

theorem finish_retold : (p.retold name description).finish now =
    (p.finish now).map (·.retold name description) := by
  have hs : (p.retold name description).stage = p.stage := rfl
  rw [finish, finish, hs]
  split <;> rfl

end Project

namespace Command

variable (l : Layout) (d : Disk) (now : Instant) (p : Project) (name description : String)

theorem scored_retold (list : String) : scored (p.retold name description) list now =
    (scored p list now).map fun r => (r.1.retold name description, r.2) := by
  have hs : ({ p.retold name description with score := roundScore list } : Project) =
      ({ p with score := roundScore list } : Project).retold name description := rfl
  have ht : (p.retold name description).threshold = p.threshold := rfl
  rw [scored, scored, hs, ht, Project.advance_retold]
  split
  · cases ({ p with score := roundScore list } : Project).advance now <;> rfl
  · rfl

theorem change_retold (c : Command) : change l d now (p.retold name description) c =
    (change l d now p c).map fun r => (r.1.retold name description, r.2) := by
  have hr (s : Stage) : (p.retold name description).requireStage s = p.requireStage s := rfl
  cases c with
  | init name description mode => rfl
  | status => rfl
  | start s =>
    simp only [change, hr]
    cases p.requireStage s <;> rfl
  | advance s =>
    simp only [change, hr, completeRound, Project.ensureRound_retold, Project.advance_retold]
    cases p.requireStage s with
    | error e => rfl
    | ok u => cases (p.ensureRound now).advance now <;> rfl
  | clarify scores =>
    simp only [change, hr, Project.enterRound_retold]
    cases p.requireStage .clarify with
    | error e => rfl
    | ok u =>
      cases givenScores scores with
      | none => rfl
      | some list =>
        simp only [scored_retold]
        cases scored (p.enterRound now) list now <;> rfl
  | validate =>
    simp only [change, hr, Project.enterRound_retold, Project.finish_retold]
    cases p.requireStage .validate with
    | error e => rfl
    | ok u =>
      cases artifactsFault l d with
      | error e => rfl
      | ok u => cases (p.enterRound now).finish now <;> rfl

end Command

/-! ### In memory -/

namespace Memory

variable {l l' : Layout} {d d' : Disk}

theorem attempt_of_not_init {c : Command} (hc : c.isInit = false) (now : Instant) (p : Project) :
    attempt l d now (some p) c = c.change l d now p := by
  cases c with
  | init name description mode => cases hc
  | status => rfl
  | start s => rfl
  | advance s => rfl
  | clarify scores => rfl
  | validate => rfl

theorem attempt_retold (l : Layout) (d : Disk) (now : Instant) (p : Project) (name description : String)
    (c : Command) : attempt l d now (some (p.retold name description)) c =
      (attempt l d now (some p) c).map fun r => (r.1.retold name description, r.2) := by
  cases hi : c.isInit with
  | false =>
    rw [attempt_of_not_init hi, attempt_of_not_init hi]
    exact Command.change_retold l d now p name description c
  | true =>
    obtain ⟨other, otherDescription, mode, rfl⟩ := Command.isInit_iff.1 hi
    simp only [attempt]
    split
    · rfl
    · split <;> rfl

theorem sameResult_attempt (h : SameDocuments l d l' d') (now : Instant) (p : Project) (c : Command) :
    SameResult l l' (attempt l d now (some p) c) (attempt l' d' now (some p) c) := by
  cases hi : c.isInit with
  | false =>
    rw [attempt_of_not_init hi, attempt_of_not_init hi]
    exact Command.sameResult_change h now p c
  | true =>
    obtain ⟨name, description, mode, rfl⟩ := Command.isInit_iff.1 hi
    simp only [attempt]
    split
    · exact .error .blankName
    · split
      · exact .error .blankDescription
      · exact .error (.alreadyInitialized .projectFile)

theorem step_twins (h : SameDocuments l d l' d') (now : Instant) (p : Project)
    (name description name' description' : String) (c : Command) :
    let first := step l d now (some (p.retold name description)) c
    let second := step l' d' now (some (p.retold name' description')) c
    SameResult l l' first.1 second.1 ∧ ∃ q : Project,
      first.2 = some (q.retold name description) ∧ second.2 = some (q.retold name' description') := by
  intro first second
  have hs := sameResult_attempt h now p c
  simp only [first, second, step, attempt_retold]
  generalize attempt l d now (some p) c = x, attempt l' d' now (some p) c = x' at hs ⊢
  cases hs with
  | error h => exact ⟨.error h, p, rfl, rfl⟩
  | ok r =>
    refine ⟨.ok r.2, ?_⟩
    by_cases hc : c = .status
    · exact ⟨p, by simp [hc, Except.map], by simp [hc, Except.map]⟩
    · exact ⟨r.1.stamped now, by simp [hc, Except.map, Project.stamped_retold],
        by simp [hc, Except.map, Project.stamped_retold]⟩

end Memory

/-! ### On two disks -/

section Documents

variable {l : Layout} {d : Disk} {p : Project} {s : Stage} {path : Path}

theorem find_written_artifact (hp : project? l d = some p) (ha : l.artifact? s = some path)
    (content : ByteArray) : (Memory.written path content d).find path =
      if d.find path = .ok .folder then .ok .folder else .ok (.file content) := by
  by_cases hf : d.find path = .ok .folder
  · rw [if_pos hf, Memory.written]
    cases hw : d.write path content with
    | error e => exact hf
    | ok made =>
      obtain ⟨name, -, hname, -, rfl⟩ := Layout.exists_name ha
      rw [Disk.find_join hname] at hf
      rw [Disk.write_join hname] at hw
      cases he : d.enter l.folder with
      | error e => simp [he, Except.bind] at hf
      | ok place =>
        simp only [he, Except.bind] at hf hw
        cases hi : d.item? (place ++ [name]) with
        | none => simp [hi] at hf
        | some item =>
          obtain rfl : item = .folder := by simpa [hi] using hf
          simp [hi] at hw
  · have hfolder : d.isFolder path = false := by
      rw [Disk.isFolder]
      split
      · next h => exact absurd h hf
      · rfl
    obtain ⟨made, hw⟩ := exists_write_artifact hp ha hfolder content
    rw [if_neg hf, Memory.written, hw]
    exact Disk.find_of_write hw

def documented (l : Layout) (s : Stage) (content : ByteArray) (d : Disk) : Disk :=
  match l.artifact? s with
  | some path => Memory.written path content d
  | none => d

theorem harmless_documented (l : Layout) (s : Stage) (content : ByteArray) (d : Disk) :
    Memory.Harmless l d (documented l s content d) := by
  rw [documented]
  split
  · next ha => exact Memory.harmless_written ha content d
  · exact ⟨rfl, id⟩

theorem find_documented {t : Stage} (hp : project? l d = some p) (ht : l.artifact? t = some path)
    (s : Stage) (content : ByteArray) : (documented l s content d).find path =
      if t = s ∧ d.find path ≠ .ok .folder then .ok (.file content) else d.find path := by
  by_cases hts : t = s
  · subst hts
    rw [documented, ht]
    dsimp only
    rw [find_written_artifact hp ht]
    split <;> simp_all
  · rw [if_neg fun h => hts h.1, documented]
    cases hs : l.artifact? s with
    | none => rfl
    | some written =>
      dsimp only
      rw [Memory.written]
      cases hw : d.write written content with
      | error e => rfl
      | ok made => exact find_artifact_of_write hs ht hts hw

theorem find_artifact_of_saved_new {root : Path} (h : Memory.IsEmptyFolder d root)
    (ha : (Layout.standard root).artifact? s = some path) (p : Project) (now : Instant) :
    (saved (Layout.standard root) p d now).2.find path = .error .notFound := by
  obtain ⟨made, place, hmade, hent, hfree⟩ := Memory.made_of_isEmptyFolder h
  obtain ⟨name, -, hname, hne, rfl⟩ := Layout.exists_name ha
  have hfind : made.find ((Layout.standard root).folder.join name) = .error .notFound := by
    simp [Disk.find_join hname, hent, Except.bind, hfree]
  rw [saved, hmade]
  cases hw : made.write (Layout.standard root).projectFile (p.stamped now).toText.toUTF8 with
  | error e => simpa only [hw] using hfind
  | ok last =>
    simp only [hw]
    exact (Disk.find_write_join_of_ne hname isName_projectFileName hne hw).trans hfind

end Documents

/-- What is done about a project, told without a word on where it is: a command is called, the clock is
set, or a document is written. -/
inductive Act where
  | call (c : Command)
  | clock (now : Instant)
  | document (s : Stage) (content : ByteArray)

def Act.move (l : Layout) : Act → Move
  | call c => .call c
  | clock now => .clock now
  | document s content => .work (documented l s content)

/-- At the same time, beside the same documents, there is the same project but for its texts. -/
structure Twins (l l' : Layout) (name description name' description' : String)
    (w w' : Surroundings) : Prop where
  now : w'.now = w.now
  documents : SameDocuments l w.disk l' w'.disk
  held : ∃ p : Project, Memory.Held l w.disk (some (p.retold name description)) ∧
    Memory.Held l' w'.disk (some (p.retold name' description'))

namespace Twins

variable {l l' : Layout} {name description name' description' : String} {w w' : Surroundings}

theorem call (h : Twins l l' name description name' description' w w') (c : Command) :
    SameResult l l' (c.call l w).result (c.call l' w').result ∧
      Twins l l' name description name' description' (c.call l w).after (c.call l' w').after := by
  obtain ⟨p, hp, hp'⟩ := h.held
  obtain ⟨hr, hh⟩ := hp.step w.now c
  obtain ⟨hr', hh'⟩ := hp'.step w.now c
  obtain ⟨hsame, q, hq, hq'⟩ :=
    Memory.step_twins h.documents w.now p name description name' description' c
  rw [hq] at hh
  rw [hq'] at hh'
  refine ⟨?_, ?_, ?_, q, ?_, ?_⟩
  · rwa [Command.call_result, Command.call_result, h.now, hr, hr']
  · rw [Command.call_now, Command.call_now, h.now]
  · intro s path path' ha ha'
    rw [Command.find_artifact_of_call (project?_eq_some.2 hp) ha,
      Command.find_artifact_of_call (project?_eq_some.2 hp') ha', h.documents s path path' ha ha']
  · rwa [Command.call_disk]
  · rwa [Command.call_disk, h.now]

theorem document (h : Twins l l' name description name' description' w w') (s : Stage)
    (content : ByteArray) : Twins l l' name description name' description'
      { w with disk := documented l s content w.disk }
      { w' with disk := documented l' s content w'.disk } := by
  obtain ⟨p, hp, hp'⟩ := h.held
  refine ⟨h.now, fun t path path' ht ht' => ?_, p, hp.harmless (harmless_documented l s content _),
    hp'.harmless (harmless_documented l' s content _)⟩
  dsimp only
  rw [find_documented (project?_eq_some.2 hp) ht, find_documented (project?_eq_some.2 hp') ht',
    h.documents t path path' ht ht']

theorem run (h : Twins l l' name description name' description' w w') (acts : List Act) :
    List.Forall₂ (SameResult l l') ((Run.calls l w (acts.map (·.move l))).map (·.result))
      ((Run.calls l' w' (acts.map (·.move l'))).map (·.result)) ∧
    Twins l l' name description name' description' (Run.ending l w (acts.map (·.move l)))
      (Run.ending l' w' (acts.map (·.move l'))) := by
  induction acts generalizing w w' with
  | nil => exact ⟨.nil, h⟩
  | cons act acts ih =>
    cases act with
    | call c =>
      obtain ⟨hr, hnext⟩ := h.call c
      obtain ⟨hrs, hlast⟩ := ih hnext
      exact ⟨.cons hr hrs, hlast⟩
    | clock now => exact ih ⟨rfl, h.documents, h.held⟩
    | document s content => exact ih (h.document s content)

end Twins

/-! ### Two roots -/

section Roots

variable {root root' : Path} {w w' : Surroundings} {name description name' description' : String}

theorem init_of_isEmptyFolder (h : Memory.IsEmptyFolder w.disk root) (hn : Text.trimmed name ≠ "")
    (hd : Text.trimmed description ≠ "") (mode : Mode) :
    let l := Layout.standard root
    let call := (Command.init name description mode).call l w
    call.result = .ok .done ∧
      read l call.after.disk = .ok (Command.created name description mode w.now) ∧
      ∀ s path, l.artifact? s = some path → call.after.disk.find path = .error .notFound := by
  intro l call
  have hprepared : (Command.init name description mode).prepared l w.disk w.now =
      .ok (Project.create (Text.trimmed name) (Text.trimmed description) mode w.now, .done) := by
    simp [Command.prepared, hn, hd, l, Memory.missing_of_isEmptyFolder h]
  have hperformed := Command.performed_of_prepared_ok hprepared (by simp)
  obtain ⟨made, hm, hr⟩ :=
    Command.committed_of_writable (Memory.writable_of_isEmptyFolder h)
      (Project.create (Text.trimmed name) (Text.trimmed description) mode w.now, .done) w.now
  refine ⟨?_, ?_, fun s path ha => ?_⟩
  · rw [Command.call_result, hperformed, hm]
  · rw [Command.call_disk, hperformed, hm]
    exact hr
  · rw [Command.call_disk, hperformed]
    exact find_artifact_of_saved_new h ha _ w.now

theorem twins_of_init (h : Memory.IsEmptyFolder w.disk root) (h' : Memory.IsEmptyFolder w'.disk root')
    (hnow : w'.now = w.now) (hn : Text.trimmed name ≠ "") (hd : Text.trimmed description ≠ "")
    (hn' : Text.trimmed name' ≠ "") (hd' : Text.trimmed description' ≠ "") (mode : Mode) :
    let l := Layout.standard root
    let l' := Layout.standard root'
    let first := (Command.init name description mode).call l w
    let second := (Command.init name' description' mode).call l' w'
    SameResult l l' first.result second.result ∧
      Twins l l' (Text.trimmed name) (Text.trimmed description) (Text.trimmed name')
        (Text.trimmed description') first.after second.after := by
  intro l l' first second
  obtain ⟨hr, hread, hdocs⟩ := init_of_isEmptyFolder h hn hd mode
  obtain ⟨hr', hread', hdocs'⟩ := init_of_isEmptyFolder h' hn' hd' mode
  rw [hnow] at hread'
  refine ⟨?_, ?_, ?_, Command.created name description mode w.now, hread, hread'⟩
  · rw [hr, hr']
    exact .ok _
  · rw [Command.call_now, Command.call_now, hnow]
  · intro s path path' ha ha'
    rw [hdocs s path ha, hdocs' s path' ha']

/-- Two projects are made in empty roots at the same time, in the same mode, under names and descriptions
that are not blank, and then the same is done about both. All results are the same but for the paths in
failures, and at the end, which may come after any step, the two projects that are loaded differ in
nothing but the two texts, which are those that were given, trimmed. -/
theorem texts_without_influence (h : Memory.IsEmptyFolder w.disk root)
    (h' : Memory.IsEmptyFolder w'.disk root') (hnow : w'.now = w.now)
    (hn : Text.trimmed name ≠ "") (hd : Text.trimmed description ≠ "")
    (hn' : Text.trimmed name' ≠ "") (hd' : Text.trimmed description' ≠ "") (mode : Mode)
    (acts : List Act) :
    let l := Layout.standard root
    let l' := Layout.standard root'
    let moves := .call (.init name description mode) :: acts.map (·.move l)
    let moves' := .call (.init name' description' mode) :: acts.map (·.move l')
    List.Forall₂ (SameResult l l') ((Run.calls l w moves).map (·.result))
      ((Run.calls l' w' moves').map (·.result)) ∧
    ∃ p : Project,
      (exec (load l) (Run.ending l w moves)).1 =
        .ok { p with name := Text.trimmed name, description := Text.trimmed description } ∧
      (exec (load l') (Run.ending l' w' moves')).1 =
        .ok { p with name := Text.trimmed name', description := Text.trimmed description' } := by
  intro l l' moves moves'
  obtain ⟨hr, htwins⟩ := twins_of_init h h' hnow hn hd hn' hd' mode
  obtain ⟨hrs, hlast⟩ := htwins.run acts
  obtain ⟨p, hp, hp'⟩ := hlast.held
  refine ⟨.cons hr hrs, p, ?_, ?_⟩
  · rw [(computes_load l _).1]
    exact hp
  · rw [(computes_load l' _).1]
    exact hp'

end Roots

/-- A description that would set the score, were it not quoted. -/
def forgery : String := "\",\n  \"clarity_score\": 100,\n  \"version\": \"\\u0000"

/-- A document, an advance, a command that comes too early, and an init that comes too late. -/
def someActs : List Act :=
  [.document .propose "why".toUTF8, .call (.advance .propose), .clock leapSecond,
    .call (.clarify none), .call (.init "shop" "sells flowers" .expert)]

theorem isEmptyFolder_emptyRoot_dot : Memory.IsEmptyFolder emptyRoot ⟨"."⟩ := by
  refine ⟨["root"], by decide, fun name rest => ?_⟩
  simp [emptyRoot, Disk.empty, Disk.item?]

theorem texts_without_influence_forgery :
    let l := Layout.standard ⟨""⟩
    let l' := Layout.standard ⟨"."⟩
    let w := fresh emptyRoot newYear
    let moves := .call (.init "shop" "sells flowers" .guided) :: someActs.map (·.move l)
    let moves' := .call (.init "\"" forgery .guided) :: someActs.map (·.move l')
    Memory.IsEmptyFolder w.disk ⟨""⟩ ∧ Memory.IsEmptyFolder w.disk ⟨"."⟩ ∧
    Text.trimmed "shop" ≠ "" ∧ Text.trimmed "sells flowers" ≠ "" ∧ Text.trimmed "\"" ≠ "" ∧
    Text.trimmed forgery ≠ "" ∧
    List.Forall₂ (SameResult l l') ((Run.calls l w moves).map (·.result))
      ((Run.calls l' w moves').map (·.result)) ∧
    ∃ p : Project,
      (exec (load l) (Run.ending l w moves)).1 =
        .ok { p with name := "shop", description := "sells flowers" } ∧
      (exec (load l') (Run.ending l' w moves')).1 =
        .ok { p with name := "\"", description := forgery } := by
  intro l l' w moves moves'
  have hn : Text.trimmed "shop" ≠ "" := by decide
  have hd : Text.trimmed "sells flowers" ≠ "" := by decide
  have hn' : Text.trimmed "\"" ≠ "" := by decide
  have hd' : Text.trimmed forgery ≠ "" := by decide
  have hroot : Memory.IsEmptyFolder w.disk ⟨""⟩ := Memory.isEmptyFolder_emptyRoot
  have hroot' : Memory.IsEmptyFolder w.disk ⟨"."⟩ := isEmptyFolder_emptyRoot_dot
  have hnow : w.now = w.now := rfl
  exact ⟨hroot, hroot', hn, hd, hn', hd',
    texts_without_influence hroot hroot' hnow hn hd hn' hd' .guided someActs⟩

end StageGate
