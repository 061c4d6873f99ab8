import WireErrors.Proofs.Emission.Events
import WireErrors.Proofs.ErrorModule.Refusals
import WireErrors.Settings

/-!
# Reports of broken contracts

A broken contract is reported where a warning names the target and says what is wrong. The check of
names reports what it refuses. A policy that is refused, by generation or when settings are resolved,
and a model whose name makes no identifier are refused without a word (`reported_iff`).
-/

namespace WireErrors

open Source

/-! ## Reports -/

/-- Whether a log entry has a text in its message or in the value of a field. -/
def Event.Mentions (e : Event) (text : String) : Prop :=
  text.toList <:+: e.message.toList ∨ ∃ field ∈ e.fields, text.toList <:+: field.2.toList

namespace Emission

variable {α β : Type} {target : String} {violation : Violation}

/-- Whether a warning, the gravest kind of log entry, names a target and says what is wrong. -/
def Reports (m : Emission α) (target : String) (violation : Violation) : Prop :=
  ∃ e ∈ m.events, e.level = .warn ∧ e.Mentions target ∧ e.Mentions violation.message

theorem not_reports_of_quiet {m : Emission α} (h : m.events = []) : ¬m.Reports target violation := by
  rintro ⟨e, hmem, -⟩
  rw [h] at hmem
  cases hmem

theorem reports_congr {m : Emission α} {m' : Emission β} (h : m.events = m'.events) :
    m.Reports target violation ↔ m'.Reports target violation := by
  rw [Reports, Reports, h]

theorem reports_staged {m : Emission α} :
    m.staged.Reports target violation ↔ m.Reports target violation := by
  constructor
  · rintro ⟨e, hmem, hwarn, hmentions⟩
    rcases mem_events_staged.mp hmem with hmem | ⟨text, -, rfl⟩
    · exact ⟨e, hmem, hwarn, hmentions⟩
    · cases hwarn
  · exact fun ⟨e, hmem, h⟩ => ⟨e, mem_events_staged.mpr (.inl hmem), h⟩

end Emission

theorem mentions_rejection (target : String) (violation : Violation) :
    (rejection target violation).Mentions target ∧
      (rejection target violation).Mentions violation.message := by
  refine ⟨.inr ⟨_, List.mem_singleton_self _, List.infix_rfl⟩, .inl ?_⟩
  rw [rejection, String.toList_append]
  exact (List.suffix_append _ _).isInfix

theorem reports_refusal (target : String) (violation : Violation) :
    (refusal target violation).Reports target violation :=
  ⟨_, List.mem_singleton_self _, rfl, mentions_rejection target violation⟩

variable {target : String} {violation : Violation} {unknown : String}

theorem Decoder.reports_of_refused {strategy : Strategy} {name : String} {policy : Policy}
    {names : List String} (h : (emit strategy name policy names unknown).result =
      .error (.refused (.contract target violation))) :
    (emit strategy name policy names unknown).Reports target violation := by
  cases hnames : checkNames names unknown policy.reserved with
  | ok =>
    rw [result_emit_of_accepted strategy name hnames] at h
    split at h <;> cases h
  | error blamed =>
    have hemit : emit strategy name policy names unknown = refusal name blamed := by
      rw [emit, validateNames_of_error hnames]
      rfl
    rw [hemit] at h ⊢
    cases h
    exact reports_refusal target violation

theorem Settings.events_resolve_of_refused {settings : Settings} {failure : Failure}
    (h : settings.resolve.result = .error failure) : settings.resolve.events = [] := by
  rw [resolve] at h ⊢
  rcases Emission.of_bind_eq_error h with ⟨-, hevents⟩ | ⟨_, -, hlater, -⟩
  · rw [hevents, Emission.events_ofExcept]
  · cases hlater

/-! ## Modules -/

namespace ErrorModule

variable {delegate : Delegate} {model : Model}

/-- Behind the checks of a module only its delegate refuses anything, and only it has logged. -/
theorem events_stage_of_accepted {error : GenerationError}
    (hpolicy : delegate.policy.validate delegate.name = .ok ())
    (hnames : checkNames model.sortedNames unknown delegate.policy.reserved = .ok ())
    (herror : isIdentifier model.errorType = true)
    (h : (stage delegate model unknown).result = .error (.refused error)) :
    (stage delegate model unknown).events = (delegate.emit model.sortedNames unknown).events := by
  have haccepted := checkNames_eq_ok_iff.mp hnames
  have htypes := typeNames_of_isIdentifier delegate.policy herror haccepted.unknown_identifier
  unfold stage at h ⊢
  dsimp only at h ⊢
  rw [hpolicy, mapError_ok, Emission.ofExcept_ok, Emission.pure_bind, validateNames_of_ok hnames,
    Emission.pure_bind, if_neg (by simp [herror])] at h ⊢
  obtain ⟨types, -, h, hevents⟩ := Emission.of_quiet_bind_eq_error (Emission.events_ofExcept _)
    (by rw [Emission.result_ofExcept, htypes]; split <;> nofun) h
  rw [hevents]
  obtain ⟨imports, -, h, hevents⟩ := Emission.of_quiet_bind_eq_error (Emission.events_ofExcept _)
    (by
      rw [Emission.result_ofExcept]
      intro himport
      cases importBlock_error (check_eq_ok_of_validate hpolicy) himport) h
  rw [hevents]
  obtain ⟨_, -, h, hevents⟩ := Emission.of_quiet_bind_eq_error (Emission.events_appendAll _) nofun h
  rw [hevents]
  obtain ⟨declared, -, h, hevents⟩ := Emission.of_quiet_bind_eq_error (Emission.events_ofExcept _)
    (by rw [Emission.result_ofExcept, declare_of_accepted haccepted]; nofun) h
  rw [hevents]
  iterate 3
    obtain ⟨_, -, h, hevents⟩ := Emission.of_quiet_bind_eq_error (Emission.events_block _) nofun h
    rw [hevents]
  rcases Emission.of_bind_eq_error h with ⟨-, hevents⟩ | ⟨_, -, h, -⟩
  · exact hevents
  · simp only [Emission.result_bind, Emission.result_block] at h
    split at h <;> cases h

theorem reports_emit_of_refused {failure : Failure}
    (h : (emit delegate model unknown).result = .error failure) :
    (emit delegate model unknown).Reports target violation ↔
      (stage delegate model unknown).Reports target violation := by
  rw [emit] at h ⊢
  rcases Emission.of_bind_eq_error h with ⟨-, hevents⟩ | ⟨_, -, hlater, -⟩
  · exact (Emission.reports_congr hevents).trans Emission.reports_staged
  · cases hlater

theorem reports_stage_iff
    (h : (stage delegate model unknown).result = .error (.refused (.contract target violation))) :
    (stage delegate model unknown).Reports target violation ↔
      delegate.policy.check = .ok () ∧
        (checkNames model.sortedNames unknown delegate.policy.reserved ≠ .ok () ∨
          isIdentifier model.errorType = true ∧
            (delegate.emit model.sortedNames unknown).Reports target violation) := by
  cases hcheck : delegate.policy.check with
  | error invalid =>
    have hpolicy : delegate.policy.validate delegate.name = .error (.contract delegate.name invalid) := by
      rw [Policy.validate, hcheck, mapError_error]
    rw [stage_of_invalid_policy delegate hpolicy]
    exact iff_of_false (Emission.not_reports_of_quiet (Emission.events_refuse _)) (by simp)
  | ok =>
    have hpolicy : delegate.policy.validate delegate.name = .ok () := by
      rw [Policy.validate, hcheck, mapError_ok]
    cases hnames : checkNames model.sortedNames unknown delegate.policy.reserved with
    | error blamed =>
      rw [stage_of_unaccepted delegate hpolicy hnames] at h ⊢
      cases h
      exact iff_of_true (reports_refusal delegate.name violation) ⟨rfl, .inl (by simp)⟩
    | ok =>
      cases herror : isIdentifier model.errorType with
      | false =>
        rw [stage_of_no_identifier delegate hpolicy hnames herror]
        exact iff_of_false (Emission.not_reports_of_quiet (Emission.events_refuse _)) (by simp)
      | true =>
        rw [Emission.reports_congr (events_stage_of_accepted hpolicy hnames herror h)]
        simp

end ErrorModule

/-- **Which broken contracts are reported.** A module that is refused for its names is refused with a
report, also where its delegate finds and reports what is wrong with them, and so is every decode
routine. Nothing is logged when settings are refused, and a module is refused without a report for its
policy and for the identifier of its error type. -/
theorem reported_iff (delegate : Delegate) (model : Model) (strategy : Strategy) (name : String)
    (policy : Policy) (names : List String) (settings : Settings) (unknown target : String)
    (violation : Violation) :
    ((ErrorModule.emit delegate model unknown).result =
        .error (.refused (.contract target violation)) →
      ((ErrorModule.emit delegate model unknown).Reports target violation ↔
        delegate.policy.check = .ok () ∧
          (checkNames model.sortedNames unknown delegate.policy.reserved ≠ .ok () ∨
            isIdentifier model.errorType = true ∧
              (delegate.emit model.sortedNames unknown).Reports target violation))) ∧
    ((Decoder.emit strategy name policy names unknown).result =
        .error (.refused (.contract target violation)) →
      (Decoder.emit strategy name policy names unknown).Reports target violation) ∧
    (settings.resolve.result = .error (.refused (.contract target violation)) →
      settings.resolve.events = []) := by
  refine ⟨fun h => ?_, Decoder.reports_of_refused, Settings.events_resolve_of_refused⟩
  rw [ErrorModule.reports_emit_of_refused h]
  exact ErrorModule.reports_stage_iff ((ErrorModule.result_emit ..).symm.trans h)

/-- Names declared twice are reported, a model without a name for its error type and a trait without
one are not. -/
theorem reported_iff_missing :
    (ErrorModule.emit Target.rust.delegate ⟨"Queue", ["Missing", "Missing"]⟩ "UnknownError").Reports
        "rust" (.duplicateName "Missing") ∧
      ¬(ErrorModule.emit Target.rust.delegate ⟨"9", ["Missing"]⟩ "UnknownError").Reports
        "rust" (.invalidIdentifier "9") ∧
      (Decoder.emit .chain "rust" (.plain .none) ["Missing", "Missing"] "UnknownError").Reports
        "rust" (.duplicateName "Missing") ∧
      (Settings.resolve { Settings.standard with conformance := some (.custom "kit" "") }).events =
        [] := by
  have htwice : checkNames (Model.sortedNames ⟨"Queue", ["Missing", "Missing"]⟩) "UnknownError" [] =
      .error (.duplicateName "Missing") := by
    rw [Model.sortedNames, List.mergeSort_of_pairwise (by decide)]
    rfl
  have honce : checkNames (Model.sortedNames ⟨"9", ["Missing"]⟩) "UnknownError" [] = .ok () := by
    rw [Model.sortedNames, List.mergeSort_singleton]
    rfl
  have hnameless : isIdentifier (Model.errorType ⟨"9", ["Missing"]⟩) = false := rfl
  have hduplicate : (ErrorModule.emit Target.rust.delegate ⟨"Queue", ["Missing", "Missing"]⟩
      "UnknownError").result = .error (.refused (.contract "rust" (.duplicateName "Missing"))) := by
    rw [ErrorModule.result_emit, ErrorModule.stage_of_unaccepted Target.rust.delegate rfl htwice]
    rfl
  have hrefused : (ErrorModule.emit Target.rust.delegate ⟨"9", ["Missing"]⟩ "UnknownError").result =
      .error (.refused (.contract "rust" (.invalidIdentifier "9"))) := by
    rw [ErrorModule.result_emit, ErrorModule.stage_of_no_identifier Target.rust.delegate rfl honce
      hnameless]
    rfl
  obtain ⟨hreported, hroutine, -⟩ := reported_iff Target.rust.delegate
    ⟨"Queue", ["Missing", "Missing"]⟩ .chain "rust" (.plain .none) ["Missing", "Missing"]
    Settings.standard "UnknownError" "rust" (.duplicateName "Missing")
  obtain ⟨hsilent, -, -⟩ := reported_iff Target.rust.delegate ⟨"9", ["Missing"]⟩ .chain "rust"
    (.plain .none) [] Settings.standard "UnknownError" "rust" (.invalidIdentifier "9")
  obtain ⟨-, -, hsettings⟩ := reported_iff Target.rust.delegate ⟨"Queue", []⟩ .chain "rust"
    (.plain .none) [] { Settings.standard with conformance := some (.custom "kit" "") }
    "UnknownError" "rust" .emptyConformance
  refine ⟨(hreported hduplicate).mpr ⟨rfl, .inl fun h => nomatch htwice.symm.trans h⟩, fun h => ?_,
    hroutine rfl, hsettings rfl⟩
  rcases ((hsilent hrefused).mp h).2 with haccepted | ⟨hidentifier, -⟩
  · exact haccepted honce
  · exact nomatch hnameless.symm.trans hidentifier

/-- Settings are refused for a trait without a name, and nothing is logged. -/
theorem resolve_unreported :
    let settings : Settings := { Settings.standard with conformance := some (.custom "kit" "") }
    settings.resolve.result = .error (.refused (.contract "rust" .emptyConformance)) ∧
      settings.resolve.events = [] := ⟨rfl, rfl⟩

end WireErrors
