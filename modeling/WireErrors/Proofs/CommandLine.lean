import WireErrors.CommandLine
import WireErrors.Proofs.ErrorModule.Files
import WireErrors.Proofs.FileTree

/-!
# Runs of the command line

A run that generates goes through five stages: the parameters, the target, the input, generation and
the output. It ends as the first stage that fails says, and leaves the file tree alone unless all of
them succeed, when it has written the generated text and nothing else (`runCommand_allOrNothing`).
-/

namespace WireErrors

variable {tree : FileTree} {words : List String} {arguments : Arguments}

/-! ## Stages -/

/-- What the stages before generation give. -/
structure Prepared (tree : FileTree) (arguments : Arguments) (settings : Settings)
    (delegate : Delegate) (model : Model) : Prop where
  settings_read : Settings.read arguments.parameters = .ok settings
  target_resolved : settings.resolve.result = .ok delegate
  model_loaded :
    ModelFile.load arguments.input arguments.baseName (tree.read arguments.input) = .ok model

/-- Whether a text is the file that is generated for some arguments. -/
def Generates (tree : FileTree) (arguments : Arguments) (text : String) : Prop :=
  ∃ settings delegate model, Prepared tree arguments settings delegate model ∧
    (ErrorModule.generateFile delegate model settings.unknown).result = .ok text

/-- How the first stage that fails ends a run; a stage is come to only behind the ones before it. -/
inductive FirstFailure (tree : FileTree) (arguments : Arguments) : Report → Prop
  | parameters {error : GenerationError} (h : Settings.read arguments.parameters = .error error) :
      FirstFailure tree arguments (.failed error.inspect)
  | target {settings : Settings} {failure : Failure}
      (hsettings : Settings.read arguments.parameters = .ok settings)
      (h : settings.resolve.result = .error failure) :
      FirstFailure tree arguments (.ofFailure failure)
  | input {settings : Settings} {delegate : Delegate} {error : LoadError}
      (hsettings : Settings.read arguments.parameters = .ok settings)
      (htarget : settings.resolve.result = .ok delegate)
      (h : ModelFile.load arguments.input arguments.baseName (tree.read arguments.input) =
        .error error) :
      FirstFailure tree arguments (.failed error.inspect)
  | generation {settings : Settings} {delegate : Delegate} {model : Model} {failure : Failure}
      (hprepared : Prepared tree arguments settings delegate model)
      (h : (ErrorModule.generateFile delegate model settings.unknown).result = .error failure) :
      FirstFailure tree arguments (.ofFailure failure)
  | output {text : String} {failure : FileFailure} (htext : Generates tree arguments text)
      (h : tree.write arguments.output text = .error failure) :
      FirstFailure tree arguments (.failed failure.inspect)

theorem FirstFailure.exit_ne_zero {report : Report} (h : FirstFailure tree arguments report) :
    report.exit ≠ 0 := by
  have hfailure : ∀ failure, (Report.ofFailure failure).exit ≠ 0 := by
    intro failure
    cases failure <;> exact nofun
  cases h with
  | parameters | input | output => exact nofun
  | target | generation => exact hfailure _

/-! ## Generation -/

theorem generate_of_prepared {settings : Settings} {delegate : Delegate} {model : Model}
    (h : Prepared tree arguments settings delegate model) :
    Plan.generate arguments (tree.read arguments.input) =
      (ErrorModule.generateFile delegate model settings.unknown).result.mapError Report.ofFailure := by
  simp only [Plan.generate, h.settings_read, h.target_resolved, h.model_loaded, mapError_ok,
    except_ok_bind]

theorem generate_of_generates {text : String} (h : Generates tree arguments text) :
    Plan.generate arguments (tree.read arguments.input) = .ok text := by
  obtain ⟨settings, delegate, model, hprepared, htext⟩ := h
  rw [generate_of_prepared hprepared, htext, mapError_ok]

theorem FirstFailure.cases_of_generate {report : Report} (h : FirstFailure tree arguments report) :
    Plan.generate arguments (tree.read arguments.input) = .error report ∨
      ∃ text failure, Generates tree arguments text ∧
        tree.write arguments.output text = .error failure ∧ report = .failed failure.inspect := by
  cases h with
  | parameters h =>
    refine .inl ?_
    simp only [Plan.generate, h, mapError_error, except_error_bind]
  | target hsettings h =>
    refine .inl ?_
    simp only [Plan.generate, hsettings, h, mapError_ok, mapError_error, except_ok_bind,
      except_error_bind]
  | input hsettings htarget h =>
    refine .inl ?_
    simp only [Plan.generate, hsettings, htarget, h, mapError_ok, mapError_error, except_ok_bind,
      except_error_bind]
  | generation hprepared h => exact .inl (by rw [generate_of_prepared hprepared, h, mapError_error])
  | output htext h => exact .inr ⟨_, _, htext, h, rfl⟩

theorem writes_or_fails (tree : FileTree) (arguments : Arguments) :
    (∃ text tree', Generates tree arguments text ∧ tree.write arguments.output text = .ok tree') ∨
      ∃ report, FirstFailure tree arguments report := by
  cases hsettings : Settings.read arguments.parameters with
  | error error => exact .inr ⟨_, .parameters hsettings⟩
  | ok settings =>
    cases htarget : settings.resolve.result with
    | error failure => exact .inr ⟨_, .target hsettings htarget⟩
    | ok delegate =>
      cases hmodel : ModelFile.load arguments.input arguments.baseName (tree.read arguments.input) with
      | error error => exact .inr ⟨_, .input hsettings htarget hmodel⟩
      | ok model =>
        have hprepared : Prepared tree arguments settings delegate model :=
          ⟨hsettings, htarget, hmodel⟩
        cases htext : (ErrorModule.generateFile delegate model settings.unknown).result with
        | error failure => exact .inr ⟨_, .generation hprepared htext⟩
        | ok text =>
          have hgenerates : Generates tree arguments text :=
            ⟨settings, delegate, model, hprepared, htext⟩
          cases hwrite : tree.write arguments.output text with
          | error failure => exact .inr ⟨_, .output hgenerates hwrite⟩
          | ok tree' => exact .inl ⟨text, tree', hgenerates, hwrite⟩

/-! ## Runs -/

theorem runCommand_of_request (hrequest : Request.read words = some (.run arguments))
    (hlist : arguments.listTargets = false) :
    runCommand tree words =
      (match Plan.generate arguments (tree.read arguments.input) with
        | .ok text => Plan.write arguments.output text
        | .error report => .stop report).carryOut tree := by
  rw [runCommand, hrequest, Plan.ofRequest, hlist]
  exact congrArg (Plan.carryOut tree) (if_neg Bool.false_ne_true)

theorem runCommand_of_firstFailure (hrequest : Request.read words = some (.run arguments))
    (hlist : arguments.listTargets = false) {report : Report}
    (h : FirstFailure tree arguments report) : runCommand tree words = (report, tree) := by
  rw [runCommand_of_request hrequest hlist]
  rcases h.cases_of_generate with hgenerate | ⟨text, failure, htext, hwrite, rfl⟩
  · rw [hgenerate]
    rfl
  · rw [generate_of_generates htext]
    show Plan.carryOut tree (.write arguments.output text) = _
    rw [Plan.carryOut, hwrite]

theorem runCommand_of_generates (hrequest : Request.read words = some (.run arguments))
    (hlist : arguments.listTargets = false) {text : String} {tree' : FileTree}
    (htext : Generates tree arguments text) (hwrite : tree.write arguments.output text = .ok tree') :
    runCommand tree words = (.success, tree') := by
  rw [runCommand_of_request hrequest hlist, generate_of_generates htext]
  show Plan.carryOut tree (.write arguments.output text) = _
  rw [Plan.carryOut, hwrite]

theorem runCommand_of_no_generation
    (h : ∀ arguments, Request.read words = some (.run arguments) → arguments.listTargets = true) :
    (runCommand tree words).2 = tree := by
  rw [runCommand]
  cases hrequest : Request.read words with
  | none => rfl
  | some request =>
    cases request with
    | help => rfl
    | run arguments =>
      rw [Plan.ofRequest, h arguments hrequest, if_pos rfl]
      rfl

/-- **The command line writes all or nothing.** A run leaves the file tree alone unless it is one that
generates and succeeds; it has then written the generated file to its output and changed nothing else.
A run that does not succeed ends as the first of its stages that fails says, and each such failure
ends it. -/
theorem runCommand_allOrNothing (tree : FileTree) (words : List String) :
    ((∀ arguments, Request.read words = some (.run arguments) → arguments.listTargets = true) →
      (runCommand tree words).2 = tree) ∧
    ∀ arguments, Request.read words = some (.run arguments) → arguments.listTargets = false →
      ((runCommand tree words).1.exit ≠ 0 → (runCommand tree words).2 = tree) ∧
      ((runCommand tree words).1.exit = 0 → ∃ text place, Generates tree arguments text ∧
        tree.Written arguments.output place text (runCommand tree words).2) ∧
      ∀ report, report.exit ≠ 0 →
        ((runCommand tree words).1 = report ↔ FirstFailure tree arguments report) := by
  refine ⟨runCommand_of_no_generation, fun arguments hrequest hlist => ?_⟩
  have hfails : ∀ report, FirstFailure tree arguments report → runCommand tree words = (report, tree) :=
    fun _ => runCommand_of_firstFailure hrequest hlist
  rcases writes_or_fails tree arguments with ⟨text, tree', htext, hwrite⟩ | ⟨report, hreport⟩
  · obtain ⟨place, hwritten⟩ := FileTree.written_of_write hwrite
    have hrun := runCommand_of_generates hrequest hlist htext hwrite
    refine ⟨fun hexit => ?_, fun _ => ⟨text, place, htext, hrun ▸ hwritten⟩, fun report hexit =>
      ⟨fun hreport => ?_, fun hreport => congrArg Prod.fst (hfails report hreport)⟩⟩
    · rw [hrun] at hexit
      exact absurd rfl hexit
    · rw [hrun] at hreport
      exact absurd (hreport ▸ rfl) hexit
  · have hrun := hfails report hreport
    refine ⟨fun _ => congrArg Prod.snd hrun, fun hexit => ?_, fun other _ =>
      ⟨fun hother => ?_, fun hother => congrArg Prod.fst (hfails other hother)⟩⟩
    · rw [hrun] at hexit
      exact absurd hexit hreport.exit_ne_zero
    · rw [hrun] at hother
      exact hother ▸ hreport

theorem runCommand_allOrNothing_throttling :
    let tree : FileTree := ⟨["home", "work"], [(["models", "example.errors"], "Throttling".toUTF8)], []⟩
    let words := ["/models/example.errors", "--output", "../model_errors.rs"]
    ∃ text place,
      Generates tree ⟨"/models/example.errors", "../model_errors.rs", none, "", false⟩ text ∧
        tree.Written "../model_errors.rs" place text (runCommand tree words).2 := by
  intro tree words
  have hrequest : Request.read words =
      some (.run ⟨"/models/example.errors", "../model_errors.rs", none, "", false⟩) := rfl
  have hread : tree.read "/models/example.errors" = .ok "Throttling" := by
    refine FileTree.read_eq_ok_iff.mpr ⟨rfl, ["models", "example.errors"], rfl, ?_⟩
    exact FileTree.fromUTF8?_toUTF8 "Throttling"
  have hprepared : Prepared tree ⟨"/models/example.errors", "../model_errors.rs", none, "", false⟩
      Settings.standard Target.rust.delegate ⟨"example", ["Throttling"]⟩ :=
    ⟨rfl, rfl, by rw [hread]; rfl⟩
  have hemitted : (ErrorModule.emit Target.rust.delegate ⟨"example", ["Throttling"]⟩
      "UnknownError").result = .ok () := by
    rw [ErrorModule.result_emit]
    unfold ErrorModule.stage
    dsimp only
    rw [ErrorModule.sortedNames_singleton]
    rfl
  obtain ⟨text, htext⟩ := ErrorModule.exists_generateFile hemitted rfl
  have hwrite : tree.write "../model_errors.rs" text =
      .ok (tree.put ["home", "model_errors.rs"] text.toUTF8) := by
    rw [FileTree.write, FileTree.endsWith_slash_eq_false_iff.mpr (by decide)]
    rfl
  have hrun := runCommand_of_generates hrequest rfl ⟨_, _, _, hprepared, htext⟩ hwrite
  exact ((runCommand_allOrNothing tree _).2 _ hrequest rfl).2.1 (by rw [hrun]; rfl)

/-- A wrong parameter comes before an input that is missing. -/
example : (runCommand {} ["missing.errors", "--param", "chain"]).1 =
    .failed "Parse(\"expected key=value, got 'chain'\")" := rfl

end WireErrors
