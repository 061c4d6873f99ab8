import WireErrors.Draft

/-!
# Emissions in sequence

What one emission after another gives: its result, and the blocks in it. Everything that an emission
does to a destination is determined by its blocks (`into_fst`), and a staged emission has none
(`blocks_staged`), which is what makes staging atomic. Proofs about generators take them apart with
`of_bind_eq_ok` and never open the monad.
-/

namespace WireErrors

theorem of_except_bind_eq_ok {ε α β : Type} {x : Except ε α} {f : α → Except ε β} {b : β}
    (h : (x >>= f) = .ok b) : ∃ a, x = .ok a ∧ f a = .ok b := by
  cases x with
  | error failure => cases h
  | ok a => exact ⟨a, rfl, h⟩

theorem of_except_bind_eq_error {ε α β : Type} {x : Except ε α} {f : α → Except ε β} {failure : ε}
    (h : (x >>= f) = .error failure) : x = .error failure ∨ ∃ a, x = .ok a ∧ f a = .error failure := by
  cases x with
  | error earlier => exact .inl (congrArg Except.error (Except.error.inj h))
  | ok a => exact .inr ⟨a, rfl, h⟩

theorem except_ok_bind {ε α β : Type} (a : α) (f : α → Except ε β) : (Except.ok a >>= f) = f a := rfl

theorem except_error_bind {ε α β : Type} (failure : ε) (f : α → Except ε β) :
    (Except.error failure >>= f) = .error failure := rfl

@[simp] theorem mapError_ok {ε ε' α : Type} (f : ε → ε') (a : α) :
    (Except.ok a).mapError f = .ok a := rfl

@[simp] theorem mapError_error {ε ε' α : Type} (f : ε → ε') (failure : ε) :
    (Except.error failure : Except ε α).mapError f = .error (f failure) := rfl

namespace Emission

variable {α β : Type}

/-! ## Single emissions -/

@[simp] theorem result_pure (a : α) : (pure a : Emission α).result = .ok a := rfl

@[simp] theorem blocks_pure (a : α) : (pure a : Emission α).blocks = [] := rfl

@[simp] theorem result_block (text : String) : (block text).result = .ok () := rfl

@[simp] theorem blocks_block (text : String) : (block text).blocks = [text] := rfl

@[simp] theorem result_log (e : Event) : (log e).result = .ok () := rfl

@[simp] theorem blocks_log (e : Event) : (log e).blocks = [] := rfl

@[simp] theorem result_appendAll (texts : List String) : (appendAll texts).result = .ok () := rfl

@[simp] theorem blocks_appendAll (texts : List String) : (appendAll texts).blocks = texts := by
  simp only [blocks, appendAll, List.filterMap_map]
  exact List.filterMap_some

@[simp] theorem result_fail (failure : Failure) : (fail failure : Emission α).result = .error failure :=
  rfl

@[simp] theorem blocks_fail (failure : Failure) : (fail failure : Emission α).blocks = [] := rfl

@[simp] theorem result_refuse (error : GenerationError) :
    (refuse error : Emission α).result = .error (.refused error) := rfl

@[simp] theorem blocks_refuse (error : GenerationError) : (refuse error : Emission α).blocks = [] := rfl

@[simp] theorem result_ofExcept (x : Except Failure α) : (ofExcept x).result = x := by
  cases x <;> rfl

@[simp] theorem blocks_ofExcept (x : Except Failure α) : (ofExcept x).blocks = [] := by
  cases x <;> rfl

@[simp] theorem ofExcept_ok (a : α) : ofExcept (.ok a) = pure a := rfl

/-! ## One after another -/

@[simp] theorem result_bind (m : Emission α) (f : α → Emission β) :
    (m >>= f).result = m.result.bind fun a => (f a).result := by
  show (Emission.bind m f).result = _
  unfold Emission.bind
  cases m.result <;> rfl

theorem pure_bind (a : α) (f : α → Emission β) : (pure a >>= f) = f a := rfl

theorem bind_eq_of_error {m : Emission α} {failure : Failure} (f : α → Emission β)
    (h : m.result = .error failure) : m >>= f = ⟨m.steps, .error failure⟩ := by
  show Emission.bind m f = _
  rw [Emission.bind, h]

theorem bind_eq_of_ok {m : Emission α} {a : α} (f : α → Emission β) (h : m.result = .ok a) :
    m >>= f = ⟨m.steps ++ (f a).steps, (f a).result⟩ := by
  show Emission.bind m f = _
  rw [Emission.bind, h]

theorem blocks_bind_of_error {m : Emission α} {failure : Failure} (f : α → Emission β)
    (h : m.result = .error failure) : (m >>= f).blocks = m.blocks := by
  rw [bind_eq_of_error f h]
  rfl

theorem blocks_bind_of_ok {m : Emission α} {a : α} (f : α → Emission β) (h : m.result = .ok a) :
    (m >>= f).blocks = m.blocks ++ (f a).blocks := by
  rw [bind_eq_of_ok f h]
  exact List.filterMap_append

theorem of_bind_eq_ok {m : Emission α} {f : α → Emission β} {b : β} (h : (m >>= f).result = .ok b) :
    ∃ a, m.result = .ok a ∧ (f a).result = .ok b ∧ (m >>= f).blocks = m.blocks ++ (f a).blocks := by
  cases hm : m.result with
  | error failure =>
    rw [result_bind, hm] at h
    cases h
  | ok a =>
    rw [result_bind, hm] at h
    exact ⟨a, rfl, h, blocks_bind_of_ok f hm⟩

/-! ## All or nothing -/

/-- An emission that has no blocks when it fails. -/
def AllOrNothing (m : Emission α) : Prop := ∀ failure, m.result = .error failure → m.blocks = []

theorem allOrNothing_of_ok {m : Emission α} {a : α} (h : m.result = .ok a) : m.AllOrNothing := by
  intro failure h'
  rw [h] at h'
  cases h'

theorem AllOrNothing.after {m : Emission α} {f : α → Emission β} (hquiet : m.blocks = [])
    (hf : ∀ a, m.result = .ok a → (f a).AllOrNothing) : (m >>= f).AllOrNothing := by
  intro failure h
  cases hm : m.result with
  | error earlier => rw [blocks_bind_of_error f hm, hquiet]
  | ok a =>
    rw [result_bind, hm] at h
    rw [blocks_bind_of_ok f hm, hquiet, List.nil_append]
    exact hf a hm failure h

/-! ## Logging in a loop -/

@[simp] theorem result_forM_log (names : List String) (event : String → Event) :
    (names.forM fun name => log (event name)).result = .ok () := by
  induction names with
  | nil => rfl
  | cons name rest ih =>
    show (log (event name) >>= fun _ => rest.forM fun name => log (event name)).result = _
    rw [result_bind]
    exact ih

@[simp] theorem blocks_forM_log (names : List String) (event : String → Event) :
    (names.forM fun name => log (event name)).blocks = [] := by
  induction names with
  | nil => rfl
  | cons name rest ih =>
    show (log (event name) >>= fun _ => rest.forM fun name => log (event name)).blocks = _
    rw [blocks_bind_of_ok _ (result_log _)]
    exact ih

/-! ## Destinations -/

section

variable {δ : Type} [Destination δ]

theorem into_steps_fst (d : δ) (steps : List Step) :
    (Step.into d steps).1 = (steps.filterMap fun
      | .block text => some text
      | .event _ => none).foldl Destination.append d := by
  induction steps generalizing d with
  | nil => rfl
  | cons step rest ih =>
    cases step with
    | block text => exact ih (Destination.append d text)
    | event e => exact ih d

theorem into_fst (d : δ) (m : Emission α) : (m.into d).1 = m.blocks.foldl Destination.append d :=
  into_steps_fst d m.steps

@[simp] theorem into_result (d : δ) (m : Emission α) : (m.into d).2.2 = m.result := rfl

end

@[simp] theorem result_staged (m : Emission α) : m.staged.result = m.result := rfl

@[simp] theorem blocks_staged (m : Emission α) : m.staged.blocks = [] := by
  simp only [staged, blocks, List.filterMap_map]
  exact List.filterMap_eq_nil_iff.mpr fun _ _ => rfl

end Emission

end WireErrors
