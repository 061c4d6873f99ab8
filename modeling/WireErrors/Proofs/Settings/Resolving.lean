import WireErrors.Proofs.ErrorModule.Refusals
import WireErrors.Settings

/-!
# What settings stand for

Settings stand for the target that they name with what they override replaced and nothing else
(`Overridden`), if its policy is valid then (`resolve_overridden`). A policy that is checked here, or
comes from a target as it is, never stops generation later on (`Usable`).
-/

namespace WireErrors

open Source

/-! ## Targets -/

namespace Target

/-- The delegate of the target with a name. -/
def get (name : String) : Except GenerationError Delegate := (find name).map delegate

theorem mem_all_of_find {name : String} {target : Target} (h : find name = .ok target) :
    target ∈ all := by
  have hspellings : ∀ entry ∈ spellings, entry.2 ∈ all := by decide
  unfold find at h
  split at h
  next hfound =>
    cases h
    obtain ⟨before, after, hentries, -⟩ := List.lookup_eq_some_iff.mp hfound
    exact hspellings (normalName name, target) (by rw [hentries]; simp)
  next => cases h

theorem validate_of_find {name : String} {target : Target} (h : find name = .ok target) :
    target.policy.validate target.name = .ok () := by
  have hall : ∀ target ∈ all, target.policy.validate target.name = .ok () := by decide
  exact hall target (mem_all_of_find h)

end Target

/-! ## Usable delegates -/

/-- A delegate with a valid policy: whatever is generated for it is refused for names only. -/
structure Usable (delegate : Delegate) : Prop where
  valid : delegate.policy.validate delegate.name = .ok ()
  blames_names : ∀ (model : Model) (unknown : String) (error : GenerationError),
    (ErrorModule.emit delegate model unknown).result = .error (.refused error) →
    (validateNames delegate.name model.sortedNames unknown delegate.policy.reserved).result =
      .error (.refused error) ∨
    isIdentifier model.errorType = false ∧
      error = .contract delegate.name (.invalidIdentifier model.baseName)

theorem usable_of_valid {target : Target} (h : target.policy.validate target.name = .ok ()) :
    Usable target.delegate where
  valid := h
  blames_names model unknown error herror := by
    rcases (ErrorModule.emit_eq_refused_iff error).mp herror with
      hpolicy | ⟨-, hnames⟩ | ⟨-, -, hidentifier, hblamed⟩
    · rw [h] at hpolicy
      cases hpolicy
    · exact .inl hnames
    · exact .inr ⟨hidentifier, hblamed⟩

theorem usable_of_get {name : String} {delegate : Delegate} (h : Target.get name = .ok delegate) :
    Usable delegate := by
  unfold Target.get at h
  cases hfind : Target.find name with
  | error error =>
    rw [hfind] at h
    cases h
  | ok target =>
    rw [hfind] at h
    cases h
    exact usable_of_valid (Target.validate_of_find hfind)

namespace Settings

/-! ## Overrides -/

/-- A value that is the one of an override, or the default where there is none. -/
def Replaced {α : Type} (override : Option α) (standard value : α) : Prop :=
  (∀ given, override = some given → value = given) ∧ (override = none → value = standard)

theorem replaced_iff {α : Type} {override : Option α} {standard value : α} :
    Replaced override standard value ↔ value = override.getD standard := by
  cases override <;> simp [Replaced, eq_comm]

/-- A target with every override in the place of its own value. -/
structure Overridden (settings : Settings) (target chosen : Target) : Prop where
  name : chosen.name = target.name
  conformance :
    Replaced settings.conformance target.policy.conformance chosen.policy.conformance
  serializable :
    Replaced settings.serializable target.policy.serializable chosen.policy.serializable
  display : Replaced settings.display target.policy.display chosen.policy.display
  validation : Replaced settings.validation target.policy.validation chosen.policy.validation
  strategy : Replaced settings.strategy target.strategy chosen.strategy

theorem overridden_iff {settings : Settings} {target chosen : Target} :
    Overridden settings target chosen ↔ chosen = settings.overlay target := by
  constructor
  · rintro ⟨hname, hconformance, hserializable, hdisplay, hvalidation, hstrategy⟩
    obtain ⟨name, ⟨conformance, serializable, display, validation⟩, strategy⟩ := chosen
    rw [replaced_iff] at hconformance hserializable hdisplay hvalidation hstrategy
    dsimp only at hname hconformance hserializable hdisplay hvalidation hstrategy
    subst hname hconformance hserializable hdisplay hvalidation hstrategy
    rfl
  · rintro rfl
    exact ⟨rfl, replaced_iff.mpr rfl, replaced_iff.mpr rfl, replaced_iff.mpr rfl,
      replaced_iff.mpr rfl, replaced_iff.mpr rfl⟩

/-- Settings that only name a target. -/
structure Plain (settings : Settings) : Prop where
  conformance : settings.conformance = none
  serializable : settings.serializable = none
  display : settings.display = none
  validation : settings.validation = none
  strategy : settings.strategy = none

theorem Plain.overlay {settings : Settings} (h : Plain settings) (target : Target) :
    settings.overlay target = target := by
  refine (overridden_iff.mp ⟨rfl, ?_, ?_, ?_, ?_, ?_⟩).symm
  · exact replaced_iff.mpr (by rw [h.conformance]; rfl)
  · exact replaced_iff.mpr (by rw [h.serializable]; rfl)
  · exact replaced_iff.mpr (by rw [h.display]; rfl)
  · exact replaced_iff.mpr (by rw [h.validation]; rfl)
  · exact replaced_iff.mpr (by rw [h.strategy]; rfl)

/-! ## Resolving -/

variable {settings : Settings} {target : Target}

theorem result_resolve (settings : Settings) : settings.resolve.result =
    (settings.choose.map Target.delegate).mapError .refused := by
  unfold resolve
  rw [Emission.result_bind, Emission.result_ofExcept]
  cases settings.choose <;> rfl

theorem result_resolve_of_unknown {error : GenerationError}
    (h : Target.find settings.target = .error error) :
    settings.resolve.result = .error (.refused error) := by
  rw [result_resolve, choose, h]
  rfl

theorem result_resolve_of_find (h : Target.find settings.target = .ok target) :
    settings.resolve.result =
      (((settings.overlay target).policy.validate target.name).map fun _ =>
        (settings.overlay target).delegate).mapError .refused := by
  rw [result_resolve, choose, h]
  show (Except.map _ ((settings.overlay target).policy.validate target.name >>= _)).mapError _ = _
  cases (settings.overlay target).policy.validate target.name <;> rfl

theorem resolve_eq_ok_iff (h : Target.find settings.target = .ok target) (delegate : Delegate) :
    settings.resolve.result = .ok delegate ↔
      (settings.overlay target).policy.validate target.name = .ok () ∧
        delegate = (settings.overlay target).delegate := by
  rw [result_resolve_of_find h]
  cases (settings.overlay target).policy.validate target.name with
  | error error => simp [Except.map]
  | ok => simp [Except.map, eq_comm]

theorem resolve_eq_error_iff (h : Target.find settings.target = .ok target)
    (error : GenerationError) :
    settings.resolve.result = .error (.refused error) ↔
      (settings.overlay target).policy.validate target.name = .error error := by
  rw [result_resolve_of_find h]
  cases (settings.overlay target).policy.validate target.name <;> simp [Except.map]

theorem resolve_unknownTarget_iff (name : String) :
    settings.resolve.result = .error (.refused (.unknownTarget name)) ↔
      Target.find settings.target = .error (.unknownTarget name) := by
  cases hfind : Target.find settings.target with
  | error error =>
    rw [result_resolve_of_unknown hfind]
    simp
  | ok target =>
    rw [resolve_eq_error_iff hfind]
    refine iff_of_false (fun h => ?_) nofun
    obtain ⟨violation, hviolation⟩ := ErrorModule.validate_error h
    cases hviolation

theorem usable_of_resolve {delegate : Delegate} (h : settings.resolve.result = .ok delegate) :
    Usable delegate := by
  cases hfind : Target.find settings.target with
  | error error =>
    rw [result_resolve_of_unknown hfind] at h
    cases h
  | ok target =>
    obtain ⟨hvalid, rfl⟩ := (resolve_eq_ok_iff hfind delegate).mp h
    exact usable_of_valid hvalid

theorem result_resolve_of_plain (h : settings.Plain) :
    settings.resolve.result = (Target.get settings.target).mapError .refused := by
  unfold Target.get
  cases hfind : Target.find settings.target with
  | error error => exact result_resolve_of_unknown hfind
  | ok target =>
    refine (resolve_eq_ok_iff hfind target.delegate).mpr ?_
    rw [h.overlay]
    exact ⟨Target.validate_of_find hfind, rfl⟩

/-- **What settings stand for.** They are refused for an unknown target exactly if the target cannot
be found. A target that is found has one form with all overrides in their places; the settings stand
for the delegate of this form if its policy is valid, and are refused for what is wrong with it if not.
Without overrides that is the delegate, or the refusal, of the target itself. No delegate of settings
or of a target is refused for its policy, whatever is generated for it. -/
theorem resolve_overridden (settings : Settings) :
    (∀ name, settings.resolve.result = .error (.refused (.unknownTarget name)) ↔
      Target.find settings.target = .error (.unknownTarget name)) ∧
    (∀ error, Target.find settings.target = .error error →
      settings.resolve.result = .error (.refused error)) ∧
    (∀ target, Target.find settings.target = .ok target → target ∈ Target.all ∧
      ∃ chosen, (∀ other, Overridden settings target other ↔ other = chosen) ∧
        (∀ delegate, settings.resolve.result = .ok delegate ↔
          chosen.policy.validate target.name = .ok () ∧
            delegate = chosen.strategy.delegate target.name chosen.policy) ∧
        ∀ error, settings.resolve.result = .error (.refused error) ↔
          chosen.policy.validate target.name = .error error) ∧
    (settings.Plain →
      settings.resolve.result = (Target.get settings.target).mapError .refused) ∧
    ∀ delegate, settings.resolve.result = .ok delegate ∨ Target.get settings.target = .ok delegate →
      Usable delegate := by
  refine ⟨resolve_unknownTarget_iff, fun error => result_resolve_of_unknown, fun target hfind => ?_,
    result_resolve_of_plain, fun delegate h => h.elim usable_of_resolve usable_of_get⟩
  exact ⟨Target.mem_all_of_find hfind, settings.overlay target, fun other => overridden_iff,
    resolve_eq_ok_iff hfind, resolve_eq_error_iff hfind⟩

/-- A target under another spelling, with a conformance and a flag of its own. -/
theorem resolve_overridden_validating :
    (Settings.resolve ⟨"Rust_Validating", some (.custom "kit" "Kind"), none, some false, none, none,
      "UnknownError"⟩).result =
      .ok (Strategy.chain.delegate "rust-validating" ⟨.custom "kit" "Kind", true, false, true⟩) := by
  obtain ⟨-, -, hfound, -⟩ := resolve_overridden
    ⟨"Rust_Validating", some (.custom "kit" "Kind"), none, some false, none, none, "UnknownError"⟩
  obtain ⟨-, chosen, hchosen, hresult, -⟩ := hfound Target.validating (by decide +kernel)
  have hchosen := overridden_iff.mp ((hchosen chosen).mpr rfl)
  rw [hchosen] at hresult
  exact (hresult _).mpr ⟨by decide +kernel, rfl⟩

end Settings

end WireErrors
