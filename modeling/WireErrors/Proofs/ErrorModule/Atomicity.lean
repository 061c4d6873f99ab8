import WireErrors.Proofs.ErrorModule.Staging

/-!
# Atomic emission

Whatever goes wrong while a module is generated, in the generator or in a delegate that has already
appended something, the destination is as it was; and when all goes well it has taken the blocks of
`blocksWith`, in this order and whatever it held before. `run` performs calls one after another on one
destination: calls that fail could as well be left out (`emission_atomic`).
-/

namespace WireErrors

open Source

variable {δ : Type} [Destination δ]

/-! ## Single calls -/

/-- What an emission makes of a destination, and what it answers. -/
def perform (d : δ) (m : Emission Unit) : δ × Except Failure Unit := ((m.into d).1, (m.into d).2.2)

theorem perform_fst (d : δ) (m : Emission Unit) :
    (perform d m).1 = m.blocks.foldl Destination.append d :=
  Emission.into_fst d m

theorem Emission.AllOrNothing.perform_fst_of_error {m : Emission Unit} (h : m.AllOrNothing)
    {failure : Failure} {d : δ} (hfailed : (perform d m).2 = .error failure) : (perform d m).1 = d := by
  rw [perform_fst, h failure hfailed]
  rfl

/-! ## Runs -/

/-- What can be asked for on one destination. -/
inductive Call where
  | append (text : String)
  /-- The decode routine of a target for names in the given order. -/
  | routine (strategy : Strategy) (target : String) (policy : Policy) (names : List String)
      (unknown : String)
  /-- The error module of a model, for any delegate. -/
  | module (delegate : Delegate) (model : Model) (unknown : String)

def Call.emission : Call → Emission Unit
  | append text => .block text
  | routine strategy target policy names unknown =>
    Decoder.emit strategy target policy names unknown
  | module delegate model unknown => ErrorModule.emit delegate model unknown

/-- The calls performed in order on a destination, with their answers. -/
def run (d : δ) : List Call → δ × List (Except Failure Unit)
  | [] => (d, [])
  | call :: rest =>
    let (d', answer) := perform d call.emission
    let (d'', answers) := run d' rest
    (d'', answer :: answers)

/-- The calls that were answered without a failure. -/
def succeeded : List Call → List (Except Failure Unit) → List Call
  | call :: calls, .ok () :: answers => call :: succeeded calls answers
  | _ :: calls, .error _ :: answers => succeeded calls answers
  | _, _ => []

theorem Call.emission_allOrNothing (call : Call) : call.emission.AllOrNothing := by
  cases call with
  | append text => exact Emission.allOrNothing_of_ok (Emission.result_block text)
  | routine strategy target policy names unknown =>
    exact Decoder.emit_allOrNothing strategy target policy names unknown
  | module delegate model unknown => exact ErrorModule.emit_allOrNothing delegate model unknown

/-- One step: a call that fails changes nothing for the calls after it. -/
theorem run_cons_of_error {d : δ} {call : Call} {rest : List Call} {failure : Failure}
    (h : call.emission.result = .error failure) :
    run d (call :: rest) = ((run d rest).1, .error failure :: (run d rest).2) := by
  have hsame : (perform d call.emission).1 = d :=
    call.emission_allOrNothing.perform_fst_of_error h
  show ((run (perform d call.emission).1 rest).1,
    call.emission.result :: (run (perform d call.emission).1 rest).2) = _
  rw [hsame, h]

theorem run_succeeded (d : δ) (calls : List Call) :
    run d (succeeded calls (run d calls).2) =
      ((run d calls).1, (run d calls).2.filter Except.isOk) := by
  induction calls generalizing d with
  | nil => rfl
  | cons call rest ih =>
    cases hanswer : call.emission.result with
    | error failure =>
      rw [run_cons_of_error hanswer]
      exact ih d
    | ok =>
      have hrun : run d (call :: rest) = ((run (perform d call.emission).1 rest).1,
          .ok () :: (run (perform d call.emission).1 rest).2) := by
        rw [← hanswer]
        rfl
      have hkept : run d (call :: succeeded rest (run (perform d call.emission).1 rest).2) =
          ((run (perform d call.emission).1
              (succeeded rest (run (perform d call.emission).1 rest).2)).1,
            .ok () :: (run (perform d call.emission).1
              (succeeded rest (run (perform d call.emission).1 rest).2)).2) := by
        rw [← hanswer]
        rfl
      rw [hrun]
      show run d (call :: succeeded rest (run (perform d call.emission).1 rest).2) = _
      rw [hkept, ih]
      rfl

/-! ## Atomicity -/

/-- **Emission is atomic, call by call and over whole runs.** A module that is not generated leaves
the destination as it was, and a generated one appends exactly its blocks: the import, the option
set, the enum, the head of the `impl` block, what the delegate appended for the sorted names, the
accessors, the closing brace and the `Display`. A decode routine is one block or none. Calls that fail
can be left out of a run. -/
theorem emission_atomic :
    (∀ (delegate : Delegate) (model : Model) (unknown : String),
      (∀ (d : δ) (failure : Failure),
        (perform d (ErrorModule.emit delegate model unknown)).2 = .error failure →
          (perform d (ErrorModule.emit delegate model unknown)).1 = d) ∧
      ((ErrorModule.emit delegate model unknown).result = .ok () →
        ∃ imports, ErrorModule.Imports delegate.policy.conformance imports ∧ ∀ d : δ,
          perform d (ErrorModule.emit delegate model unknown) =
            ((ErrorModule.blocksWith delegate model unknown imports
              (delegate.emit model.sortedNames unknown).blocks).foldl Destination.append d,
              .ok ()))) ∧
    (∀ (strategy : Strategy) (target : String) (policy : Policy) (names : List String)
        (unknown : String) (d : δ),
      (∀ failure, (perform d (Decoder.emit strategy target policy names unknown)).2 = .error failure →
        (perform d (Decoder.emit strategy target policy names unknown)).1 = d) ∧
      ((perform d (Decoder.emit strategy target policy names unknown)).2 = .ok () →
        (perform d (Decoder.emit strategy target policy names unknown)).1 =
          Destination.append d
            (Decoder.text (Decoder.members strategy policy (casesFor names) unknown)))) ∧
    ∀ (d : δ) (calls : List Call),
      run d (succeeded calls (run d calls).2) =
        ((run d calls).1, (run d calls).2.filter Except.isOk) := by
  refine ⟨fun delegate model unknown => ⟨fun d failure h => ?_, fun h => ?_⟩,
    fun strategy target policy names unknown d => ⟨fun failure h => ?_, fun h => ?_⟩,
    run_succeeded⟩
  · exact (ErrorModule.emit_allOrNothing delegate model unknown).perform_fst_of_error h
  · obtain ⟨imports, hstaged, hblocks⟩ := ErrorModule.of_emit_eq_ok h
    refine ⟨imports, hstaged.imports_emitted, fun d => Prod.ext ?_ h⟩
    rw [perform_fst, hblocks]
  · exact (Decoder.emit_allOrNothing strategy target policy names unknown).perform_fst_of_error h
  · rw [perform_fst, (Decoder.of_emit_eq_ok h).2]
    rfl

end WireErrors
