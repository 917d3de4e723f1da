import SceneScript.Command.Run
import SceneScript.Proofs.Render.Foreign
import SceneScript.Proofs.Render.Plan
import SceneScript.Proofs.Script.Grammar
import SceneScript.Proofs.Storage.Path
import SceneScript.Proofs.Text.Utf8

/-!
# How the command exits

The command goes through four stages: it opens its log, reads the text of the script, parses it and
renders it, with files of which a guard may refuse any. It fails in at most one of them, and exits
with status 0 if it fails in none (`Command.exit_of_succeeds`). A failure is to be an exit with
status 1. It is one unless the fault escapes (`Command.exit_status`): no fault of the log is
handled, and two faults of reading are of no family that is, that of a path with the character that
no path may hold, and that of bytes that are no text.
-/

namespace SceneScript

section
variable {fault : Fault}

/-- What is wrong with the text of a script is a fault of the script. -/
theorem Script.isForeign_of_ofText_error {text : String} (h : ofText text = .error fault) :
    fault.isForeign = false := by
  obtain ⟨_, _, _, _, -, -, -, rfl⟩ := ofText_error_iff.1 h
  rfl

/-- What the file system refuses is a fault of the system. -/
theorem Fault.isForeign_file {why : FileFault} {path : String} :
    (Fault.file why path).isForeign = false := by
  cases why <;> rfl

namespace FileSystem

variable [Guard] {fs : FileSystem} {path : String}

/-- What the guard refuses is a fault of the system. -/
theorem isForeign_of_grant_error {β : Type} {access : Access} {place : List String} {answer : β}
    (h : fs.grant access place path answer = .error fault) : fault.isForeign = false := by
  unfold grant at h
  split at h
  · cases h
    exact Fault.isForeign_file
  · cases h

/-- A file is not read when its path holds the character that no path may hold, or when the file
system refuses. -/
theorem read_error (h : fs.read path = .error fault) :
    (hasNul path = true ∧ fault = .nulInPath) ∨
      (hasNul path = false ∧ fault.isForeign = false) := by
  unfold read at h
  split at h
  · next hnul =>
    cases h
    exact .inl ⟨hnul, rfl⟩
  · next hnul =>
    refine .inr ⟨Bool.eq_false_iff.2 hnul, ?_⟩
    split at h
    · exact isForeign_of_grant_error h
    all_goals
      cases h
      exact Fault.isForeign_file

/-- A path that holds the character that no path may hold is not read. -/
theorem read_of_hasNul (h : hasNul path = true) : fs.read path = .error .nulInPath := if_pos h

omit [Guard] in
/-- A path that leads to something does not hold the character that no path may hold. -/
theorem hasNul_of_exists? (h : fs.exists? path = true) : hasNul path = false := by
  rw [exists?, Bool.and_eq_true] at h
  simpa using h.1

/-- The text of a file is not read when the file is not, or when its bytes are no text. -/
theorem readText_error_iff : fs.readText path = .error fault ↔ fs.read path = .error fault ∨
    ∃ content, fs.read path = .ok content ∧ Text.decode content.toBytes = .error fault := by
  unfold readText
  cases fs.read path with
  | error fault' => simp [bind, Except.bind]
  | ok content => simp [bind, Except.bind]

end FileSystem

end

namespace Command

/-- The stages of the command. -/
inductive Stage
  | logging | reading | parsing | rendering

/-- The path of the log file, if there is one. -/
def logOf (fs : FileSystem) (a : Arguments) : Option String :=
  (a.logFile.filter (!·.isEmpty)).map (logPath fs)

/-- The file system that the script is read from. The log is open, and holds what is told before. -/
def opened [Guard] (time : String) (fs : FileSystem) (a : Arguments) : Except Fault FileSystem :=
  (writeLog fs (logOf fs a) "").map fun fs' =>
    (writeLog fs' (logOf fs a)
      (records time true (.logging a.verbose :: (announce fs' a.script).2))).toOption.getD fs'

/-- The path that the script is read from. -/
def source (fs : FileSystem) (a : Arguments) : String := (announce fs a.script).1

/-- The job of rendering a script. -/
def scene [Guard] (a : Arguments) (script : Script) : Job Float FileSystem :=
  ⟨script.operations, defaultSettings, a.directory, Disk.output⟩

/-- The state that a script is rendered from. -/
def start (fs : FileSystem) (script : Script) : RenderState Float FileSystem where
  stack := .initial
  knobs := script.knobs
  canvas := .blank ⟨500, 500⟩ .white
  output := fs

/-- The command comes to a stage and fails in it. -/
inductive Fails [Guard] (time : String) (fs : FileSystem) (a : Arguments) :
    Stage → Fault → Prop
  | logging : writeLog fs (logOf fs a) "" = .error fault → Fails time fs a .logging fault
  | reading : opened time fs a = .ok fs' → fs'.readText (source fs' a) = .error fault →
      Fails time fs a .reading fault
  | parsing : opened time fs a = .ok fs' → fs'.readText (source fs' a) = .ok text →
      Script.ofText text = .error fault → Fails time fs a .parsing fault
  | rendering : opened time fs a = .ok fs' → fs'.readText (source fs' a) = .ok text →
      Script.ofText text = .ok script → (scene a script).run (start fs' script) = .error fault s →
      Fails time fs a .rendering fault

/-- The failures that are not handled: the log cannot be opened, the path of the script holds the
character that no path may hold, or the script is no text in UTF-8. -/
inductive Escapes [Guard] (time : String) (fs : FileSystem) (a : Arguments) : Fault → Prop
  | logging : writeLog fs (logOf fs a) "" = .error fault → Escapes time fs a fault
  | path : opened time fs a = .ok fs' → FileSystem.hasNul a.script = true →
      Escapes time fs a .nulInPath
  | content : opened time fs a = .ok fs' → fs'.read (source fs' a) = .ok content →
      (∀ text : String, text.toUTF8 ≠ content.toBytes) →
      Text.decode content.toBytes = .error fault → Escapes time fs a fault

section
variable {time : String} {fs fs' : FileSystem} {args : List String} {a : Arguments} {stage : Stage}
  {fault : Fault}

/-- The path that the script is read from holds the character that no path may hold exactly if the
argument does: such a path is no sample's. -/
theorem hasNul_source : FileSystem.hasNul (source fs a) = FileSystem.hasNul a.script := by
  have hpath : FileSystem.hasNul (scriptPath fs a.script).1 = FileSystem.hasNul a.script := by
    unfold scriptPath
    split
    · rfl
    · dsimp only
      split
      · next hbundled =>
        have hnul : FileSystem.hasNul (Path.join Samples.directory a.script) = false :=
          FileSystem.hasNul_of_exists? hbundled
        cases hscript : FileSystem.hasNul a.script with
        | true => cases (FileSystem.hasNul_join hscript).symm.trans hnul
        | false => exact hnul
      · rfl
  rw [source, announce, FileSystem.hasNul_tidy, hpath]

/-- A fault that is not foreign is handled. -/
theorem ending_of_not_isForeign (h : fault.isForeign = false) :
    (ending (.error fault)).1 = .status 1 := by
  have hhandled : (fault.isScriptFault || fault.isSystemFault) = true := by
    unfold Fault.isForeign at h
    cases hs : fault.isScriptFault with
    | true => rfl
    | false => simpa [hs] using h
  simp only [ending, hhandled, if_true]

/-- A foreign fault escapes. -/
theorem ending_of_isForeign (h : fault.isForeign = true) :
    (ending (.error fault)).1 = .escaped fault := by
  have hhandled : (fault.isScriptFault || fault.isSystemFault) = false := by
    rw [Fault.isForeign, ← Bool.not_or] at h
    simpa using h
  simp only [ending, hhandled, Bool.false_eq_true, if_false]

variable [Guard]

/-- The command fails when its log cannot be opened, and then the fault escapes. -/
theorem run_of_logging_error (h : Arguments.ofList args = .run a)
    (hlog : writeLog fs (logOf fs a) "" = .error fault) :
    (run time fs args).exit = .escaped fault := by
  rw [run, h]
  dsimp only
  rw [← logOf, hlog]

/-- The command exits as its rendering ends. -/
theorem run_of_opened (h : Arguments.ofList args = .run a) (hopen : opened time fs a = .ok fs') :
    (run time fs args).exit =
      (ending (renderFile fs' a.script a.directory defaultSettings).result).1 := by
  unfold opened at hopen
  rw [run, h]
  dsimp only
  rw [← logOf]
  cases hlog : writeLog fs (logOf fs a) "" with
  | error fault => rw [hlog] at hopen; cases hopen
  | ok fs₁ =>
    rw [hlog] at hopen
    cases hopen
    rfl

/-- What a rendering comes to, by the stages behind the log. -/
theorem result_renderFile : (renderFile fs a.script a.directory defaultSettings).result =
    match fs.readText (source fs a) with
    | .error fault => .error fault
    | .ok text =>
      match Script.ofText text with
      | .error fault => .error fault
      | .ok script =>
        match (scene a script).run (start fs script) with
        | .ok report _ => .ok report
        | .error fault _ => .error fault := by
  unfold renderFile source
  cases hread : fs.readText (announce fs a.script).1 with
  | error fault =>
    dsimp only
    rw [hread]
    rfl
  | ok text =>
    dsimp only
    rw [hread]
    simp only [Except.bind]
    cases hparse : Script.ofText text with
    | error fault => rfl
    | ok script =>
      have hcanvas : Canvas.create defaultSettings.width defaultSettings.height
          defaultSettings.background = .ok (.blank ⟨500, 500⟩ .white : Canvas Float) := rfl
      dsimp only
      rw [hcanvas]
      show (match (scene a script).run (start fs script) with
        | .ok report s => (⟨.ok report, s.output, _⟩ : Rendering)
        | .error fault s => ⟨.error fault, s.output, _⟩).result = _
      cases (scene a script).run (start fs script) <;> rfl

/-- A log that is open can be opened. -/
theorem opened_ne_ok_of_error (hlog : writeLog fs (logOf fs a) "" = .error fault) :
    opened time fs a ≠ .ok fs' := by
  rw [opened, hlog]
  nofun

/-- Behind the log, what escapes are the foreign faults of reading the script. -/
theorem escapes_iff (hopen : opened time fs a = .ok fs') : Escapes time fs a fault ↔
    fs'.readText (source fs' a) = .error fault ∧ fault.isForeign = true := by
  rw [FileSystem.readText_error_iff]
  constructor
  · intro h
    cases h with
    | logging hlog => exact absurd hopen (opened_ne_ok_of_error hlog)
    | path hopen' hnul =>
      cases hopen.symm.trans hopen'
      have hsource : FileSystem.hasNul (source fs' a) = true := hasNul_source.trans hnul
      exact ⟨.inl (FileSystem.read_of_hasNul hsource), rfl⟩
    | content hopen' hcontent _ hdecode =>
      cases hopen.symm.trans hopen'
      obtain ⟨_, _, _, _, rfl⟩ := Text.exists_eq_undecodable hdecode
      exact ⟨.inr ⟨_, hcontent, hdecode⟩, rfl⟩
  · rintro ⟨hread | ⟨content, hcontent, hdecode⟩, hforeign⟩
    · rcases FileSystem.read_error hread with ⟨hnul, rfl⟩ | ⟨-, hnot⟩
      · exact .path hopen (hasNul_source.symm.trans hnul)
      · cases hnot.symm.trans hforeign
    · refine .content hopen hcontent (fun text htext => ?_) hdecode
      cases (Text.decode_ok_iff.2 htext).symm.trans hdecode

/-- How the command exits when it fails: the fault escapes, or nothing does and the status is 1. -/
theorem Fails.exit (hf : Fails time fs a stage fault) (h : Arguments.ofList args = .run a)
    (hrun : ∀ fault, Fails time fs a .rendering fault → fault.isForeign = false) :
    (Escapes time fs a fault ∧ (run time fs args).exit = .escaped fault) ∨
      ((∀ fault, ¬ Escapes time fs a fault) ∧ (run time fs args).exit = .status 1) := by
  have hhandled := hrun fault
  cases hf with
  | logging hlog => exact .inl ⟨.logging hlog, run_of_logging_error h hlog⟩
  | reading hopen hread =>
    rw [run_of_opened h hopen, result_renderFile, hread]
    dsimp only
    cases hforeign : fault.isForeign with
    | true => exact .inl ⟨(escapes_iff hopen).2 ⟨hread, hforeign⟩, ending_of_isForeign hforeign⟩
    | false =>
      refine .inr ⟨fun fault' hescapes => ?_, ending_of_not_isForeign hforeign⟩
      obtain ⟨hread', hforeign'⟩ := (escapes_iff hopen).1 hescapes
      cases hread.symm.trans hread'
      cases hforeign.symm.trans hforeign'
  | parsing hopen hread hparse =>
    rw [run_of_opened h hopen, result_renderFile, hread]
    dsimp only
    rw [hparse]
    refine .inr ⟨fun fault' hescapes => ?_,
      ending_of_not_isForeign (Script.isForeign_of_ofText_error hparse)⟩
    cases hread.symm.trans ((escapes_iff hopen).1 hescapes).1
  | rendering hopen hread hparse hfail =>
    rw [run_of_opened h hopen, result_renderFile, hread]
    dsimp only
    rw [hparse]
    dsimp only
    rw [hfail]
    refine .inr ⟨fun fault' hescapes => ?_,
      ending_of_not_isForeign (hhandled (.rendering hopen hread hparse hfail))⟩
    cases hread.symm.trans ((escapes_iff hopen).1 hescapes).1

/-- The command exits with status 0 when it fails in no stage. -/
theorem exit_of_succeeds (h : Arguments.ofList args = .run a)
    (hnone : ∀ stage fault, ¬ Fails time fs a stage fault) :
    (run time fs args).exit = .status 0 := by
  cases hlog : writeLog fs (logOf fs a) "" with
  | error fault => exact absurd (.logging hlog) (hnone .logging fault)
  | ok fs₁ =>
    obtain ⟨fs', hopen⟩ : ∃ fs', opened time fs a = .ok fs' := by
      rw [opened, hlog]
      exact ⟨_, rfl⟩
    rw [run_of_opened h hopen, result_renderFile]
    cases hread : fs'.readText (source fs' a) with
    | error fault => exact absurd (.reading hopen hread) (hnone .reading fault)
    | ok text =>
      dsimp only
      cases hparse : Script.ofText text with
      | error fault => exact absurd (.parsing hopen hread hparse) (hnone .parsing fault)
      | ok script =>
        dsimp only
        cases hrun : (scene a script).run (start fs' script) with
        | error fault s =>
          exact absurd (.rendering hopen hread hparse hrun) (hnone .rendering fault)
        | ok report s => rfl

/-- What escapes is the fault of some stage. -/
theorem Escapes.exists_fails (h : Escapes time fs a fault) :
    ∃ stage, Fails time fs a stage fault := by
  have hescapes := h
  cases h with
  | logging hlog => exact ⟨_, .logging hlog⟩
  | path hopen | content hopen => exact ⟨_, .reading hopen ((escapes_iff hopen).1 hescapes).1⟩

/-- The command exits with status 0 exactly if no stage fails. If one does, and the rendering has
no faults but those of the script and of the system, then it exits with status 1, unless the fault
is one that escapes: that of a log that cannot be opened, that of a path with the character that no
path may hold, or that of a script that is no text in UTF-8. -/
theorem exit_status (h : Arguments.ofList args = .run a)
    (hrun : ∀ fault, Fails time fs a .rendering fault → fault.isForeign = false) :
    ((run time fs args).exit = .status 0 ↔ ∀ stage fault, ¬ Fails time fs a stage fault) ∧
    ((run time fs args).exit = .status 1 ↔
      (∃ stage fault, Fails time fs a stage fault) ∧ ∀ fault, ¬ Escapes time fs a fault) ∧
    ∀ fault, (run time fs args).exit = .escaped fault ↔ Escapes time fs a fault := by
  have hescaped : ∀ fault, Escapes time fs a fault → (run time fs args).exit = .escaped fault := by
    intro fault hescapes
    obtain ⟨stage, hf⟩ := hescapes.exists_fails
    exact (hf.exit h hrun).elim And.right fun hnone => absurd hescapes (hnone.1 fault)
  by_cases hfails : ∃ stage fault, Fails time fs a stage fault
  · obtain ⟨stage, fault, hf⟩ := hfails
    rcases hf.exit h hrun with ⟨hescapes, hexit⟩ | ⟨hnone, hexit⟩
    · refine ⟨?_, ?_, fun fault' => ⟨fun hexit' => ?_, hescaped fault'⟩⟩
      · rw [hexit]
        exact ⟨nofun, fun hnot => absurd hf (hnot stage fault)⟩
      · rw [hexit]
        exact ⟨nofun, fun hnot => absurd hescapes (hnot.2 fault)⟩
      · cases hexit.symm.trans hexit'
        exact hescapes
    · refine ⟨?_, ⟨fun _ => ⟨⟨stage, fault, hf⟩, hnone⟩, fun _ => hexit⟩, fun fault' => ?_⟩
      · rw [hexit]
        exact ⟨nofun, fun hnot => absurd hf (hnot stage fault)⟩
      · rw [hexit]
        exact ⟨nofun, fun hescapes => absurd hescapes (hnone fault')⟩
  · simp only [not_exists] at hfails
    have hexit := exit_of_succeeds h hfails
    refine ⟨⟨fun _ => hfails, fun _ => hexit⟩, ?_, fun fault => ?_⟩
    · rw [hexit]
      exact ⟨nofun, fun ⟨⟨stage, fault, hf⟩, _⟩ => absurd hf (hfails stage fault)⟩
    · rw [hexit]
      refine ⟨nofun, fun hescapes => ?_⟩
      obtain ⟨stage, hf⟩ := hescapes.exists_fails
      exact absurd hf (hfails stage fault)

end

/-- A directory with a script that varies a knob over no frames, and with a file that is no text. -/
def desk : FileSystem :=
  ⟨["w"], [(["w"], .directory),
    (["w", "bad.mdl"], .file (.bytes "vary k 0 3 0 1\nbox 0 0 0 1 1 1\n".toUTF8)),
    (["w", "noise.mdl"], .file (.bytes [0xff].toByteArray))]⟩

/-- The script that is on the desk. -/
def lengthless : Script :=
  .ofStatements [.perform (.vary ⟨"k", 0, 3, 0, 1⟩), .perform (.box ⟨0, 0, 0⟩ ⟨1, 1, 1⟩)]

/-- The script on the desk fails when it is rendered, and the command exits with status 1. -/
theorem exit_status_lengthless :
    Arguments.ofList ["bad.mdl"] = .run ⟨"bad.mdl", some "anim", false, none⟩ ∧
    Fails "" desk ⟨"bad.mdl", some "anim", false, none⟩ .rendering .varyWithoutFrames ∧
    (run "" desk ["bad.mdl"]).exit = .status 1 := by
  have h : Arguments.ofList ["bad.mdl"] = .run ⟨"bad.mdl", some "anim", false, none⟩ := rfl
  have hopen : opened "" desk ⟨"bad.mdl", some "anim", false, none⟩ = .ok desk := rfl
  have hread : desk.readText (source desk ⟨"bad.mdl", some "anim", false, none⟩) =
      .ok "vary k 0 3 0 1\nbox 0 0 0 1 1 1\n" := Text.decode_ok_iff.2 rfl
  have hparse : Script.ofText "vary k 0 3 0 1\nbox 0 0 0 1 1 1\n" = .ok lengthless := rfl
  have hfail (s : RenderState Float FileSystem) :
      (scene ⟨"bad.mdl", some "anim", false, none⟩ lengthless).run s =
        .error .varyWithoutFrames s := Job.run_of_directives_error rfl
  have hfails := Fails.rendering hopen hread hparse (hfail _)
  refine ⟨h, hfails, (exit_status h fun fault hf => ?_).2.1.2 ⟨⟨_, _, hfails⟩, fun fault => ?_⟩⟩
  · cases hf with
    | rendering hopen' hread' hparse' hfail' =>
      cases hopen.symm.trans hopen'
      cases hread.symm.trans hread'
      cases hparse.symm.trans hparse'
      cases (hfail _).symm.trans hfail'
      rfl
  · intro hescapes
    cases hread.symm.trans ((escapes_iff hopen).1 hescapes).1

/-- The command does not exit with a status when its log file cannot be opened, nor when the script
is no text, and neither has anything to do with the rendering. -/
theorem exists_escape :
    Arguments.ofList ["bad.mdl", "--log-file", "/missing/x.log"] =
      .run ⟨"bad.mdl", some "anim", false, some "/missing/x.log"⟩ ∧
    (∀ fault, ¬ Fails "" desk ⟨"bad.mdl", some "anim", false, some "/missing/x.log"⟩ .rendering
      fault) ∧
    (run "" desk ["bad.mdl", "--log-file", "/missing/x.log"]).exit =
      .escaped (.file .missing "/missing/x.log") ∧
    Arguments.ofList ["noise.mdl"] = .run ⟨"noise.mdl", some "anim", false, none⟩ ∧
    (∀ fault, ¬ Fails "" desk ⟨"noise.mdl", some "anim", false, none⟩ .rendering fault) ∧
    (run "" desk ["noise.mdl"]).exit = .escaped (.undecodable 0xff 0 1 .badStart) := by
  have h : Arguments.ofList ["bad.mdl", "--log-file", "/missing/x.log"] =
    .run ⟨"bad.mdl", some "anim", false, some "/missing/x.log"⟩ := rfl
  have hlog : writeLog desk (logOf desk
      ⟨"bad.mdl", some "anim", false, some "/missing/x.log"⟩) "" =
    .error (.file .missing "/missing/x.log") := rfl
  have h' : Arguments.ofList ["noise.mdl"] = .run ⟨"noise.mdl", some "anim", false, none⟩ := rfl
  have hopen : opened "" desk ⟨"noise.mdl", some "anim", false, none⟩ = .ok desk := rfl
  have hread : desk.readText (source desk ⟨"noise.mdl", some "anim", false, none⟩) =
      .error (.undecodable 0xff 0 1 .badStart) := by
    show Text.decode [0xff].toByteArray = _
    rw [Text.decode, Text.toList_eq]
    rfl
  refine ⟨h, fun fault hf => ?_, run_of_logging_error h hlog, h', fun fault hf => ?_, ?_⟩
  · cases hf with
    | rendering hopen' => exact opened_ne_ok_of_error hlog hopen'
  · cases hf with
    | rendering hopen' hread' =>
      cases hopen.symm.trans hopen'
      cases hread.symm.trans hread'
  · rw [run_of_opened h' hopen, result_renderFile, hread]
    rfl

end Command

end SceneScript
