import WireErrors.Proofs.Emission.Sequencing

/-!
# Events of an emission

What an emission logs by itself, before a destination adds anything for the blocks that it takes.
-/

namespace WireErrors

namespace Emission

variable {α β : Type}

/-- The events logged, in order. -/
def events (m : Emission α) : List Event :=
  m.steps.filterMap fun
    | .block _ => none
    | .event e => some e

@[simp] theorem events_pure (a : α) : (pure a : Emission α).events = [] := rfl

@[simp] theorem events_block (text : String) : (block text).events = [] := rfl

@[simp] theorem events_log (e : Event) : (log e).events = [e] := rfl

@[simp] theorem events_appendAll (texts : List String) : (appendAll texts).events = [] := by
  simp only [events, appendAll, List.filterMap_map]
  exact List.filterMap_eq_nil_iff.mpr fun _ _ => rfl

@[simp] theorem events_refuse (error : GenerationError) : (refuse error : Emission α).events = [] := rfl

@[simp] theorem events_ofExcept (x : Except Failure α) : (ofExcept x).events = [] := by
  cases x <;> rfl

theorem events_bind_of_ok {m : Emission α} {a : α} (f : α → Emission β) (h : m.result = .ok a) :
    (m >>= f).events = m.events ++ (f a).events := by
  rw [bind_eq_of_ok f h]
  exact List.filterMap_append

theorem events_bind_of_error {m : Emission α} {failure : Failure} (f : α → Emission β)
    (h : m.result = .error failure) : (m >>= f).events = m.events := by
  rw [bind_eq_of_error f h]
  rfl

/-- A sequence that fails does so in one of its parts, which all events up to there belong to. -/
theorem of_bind_eq_error {m : Emission α} {f : α → Emission β} {failure : Failure}
    (h : (m >>= f).result = .error failure) :
    (m.result = .error failure ∧ (m >>= f).events = m.events) ∨
    ∃ a, m.result = .ok a ∧ (f a).result = .error failure ∧
      (m >>= f).events = m.events ++ (f a).events := by
  cases hm : m.result with
  | error earlier =>
    rw [result_bind, hm] at h
    exact .inl ⟨congrArg Except.error (Except.error.inj h), events_bind_of_error f hm⟩
  | ok a =>
    rw [result_bind, hm] at h
    exact .inr ⟨a, rfl, h, events_bind_of_ok f hm⟩

theorem of_quiet_bind_eq_error {m : Emission α} {f : α → Emission β} {failure : Failure}
    (hquiet : m.events = []) (hm : m.result ≠ .error failure)
    (h : (m >>= f).result = .error failure) :
    ∃ a, m.result = .ok a ∧ (f a).result = .error failure ∧ (m >>= f).events = (f a).events := by
  rcases of_bind_eq_error h with ⟨hfail, -⟩ | ⟨a, ha, hlater, hevents⟩
  · exact absurd hfail hm
  · rw [hquiet, List.nil_append] at hevents
    exact ⟨a, ha, hlater, hevents⟩

@[simp] theorem events_forM_log (names : List String) (event : String → Event) :
    (names.forM fun name => log (event name)).events = names.map event := by
  induction names with
  | nil => rfl
  | cons name rest ih =>
    show (log (event name) >>= fun _ => rest.forM fun name => log (event name)).events = _
    rw [events_bind_of_ok _ (result_log _), ih]
    rfl

/-! ## Staged emissions -/

theorem mem_into_steps {δ : Type} [Destination δ] {e : Event} (d : δ) (steps : List Step) :
    e ∈ (Step.into d steps).2 ↔
      .event e ∈ steps ∨ ∃ text, .block text ∈ steps ∧ e ∈ Destination.appendEvents δ text := by
  induction steps generalizing d with
  | nil => simp [Step.into]
  | cons step rest ih =>
    cases step with
    | block text =>
      show e ∈ Destination.appendEvents δ text ++ (Step.into (Destination.append d text) rest).2 ↔ _
      rw [List.mem_append, ih]
      constructor
      · rintro (hnow | hlater | ⟨later, hlater, he⟩)
        · exact .inr ⟨text, List.mem_cons_self, hnow⟩
        · exact .inl (List.mem_cons_of_mem _ hlater)
        · exact .inr ⟨later, List.mem_cons_of_mem _ hlater, he⟩
      · rintro (hevent | ⟨other, hother, he⟩)
        · exact .inr (.inl ((List.mem_cons.mp hevent).resolve_left nofun))
        · rcases List.mem_cons.mp hother with hnow | hlater
          · exact .inl (Step.block.inj hnow ▸ he)
          · exact .inr (.inr ⟨other, hlater, he⟩)
    | event now =>
      show e ∈ now :: (Step.into d rest).2 ↔ _
      rw [List.mem_cons, ih]
      constructor
      · rintro (rfl | hlater | ⟨later, hlater, he⟩)
        · exact .inl List.mem_cons_self
        · exact .inl (List.mem_cons_of_mem _ hlater)
        · exact .inr ⟨later, List.mem_cons_of_mem _ hlater, he⟩
      · rintro (hevent | ⟨other, hother, he⟩)
        · exact (List.mem_cons.mp hevent).imp Step.event.inj .inl
        · exact .inr (.inr ⟨other, (List.mem_cons.mp hother).resolve_left nofun, he⟩)

theorem mem_events_iff {m : Emission α} {e : Event} : e ∈ m.events ↔ .event e ∈ m.steps := by
  rw [events, List.mem_filterMap]
  constructor
  · rintro ⟨step, hstep, he⟩
    cases step with
    | block text => cases he
    | event now => exact Option.some.inj he ▸ hstep
  · exact fun h => ⟨_, h, rfl⟩

theorem mem_blocks_iff {m : Emission α} {text : String} : text ∈ m.blocks ↔ .block text ∈ m.steps := by
  rw [blocks, List.mem_filterMap]
  constructor
  · rintro ⟨step, hstep, htext⟩
    cases step with
    | block other => exact Option.some.inj htext ▸ hstep
    | event e => cases htext
  · exact fun h => ⟨_, h, rfl⟩

theorem mem_events_staged {m : Emission α} {e : Event} :
    e ∈ m.staged.events ↔ e ∈ m.events ∨ ∃ text ∈ m.blocks, e = Draft.appendEvent text := by
  have hstaged : m.staged.events = (Step.into Draft.empty m.steps).2 := by
    simp only [staged, events, List.filterMap_map]
    exact List.filterMap_some
  rw [hstaged, mem_into_steps, mem_events_iff]
  simp only [mem_blocks_iff]
  exact or_congr_right (exists_congr fun text => and_congr_right fun _ => List.mem_singleton)

end Emission

end WireErrors
