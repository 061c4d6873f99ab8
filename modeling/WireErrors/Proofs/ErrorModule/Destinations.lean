import WireErrors.Proofs.Decoder.Reading
import WireErrors.Proofs.ErrorModule.Atomicity

/-!
# Drafts and texts as destinations

A draft joins its blocks when its text is asked for; a text separates each block from what it holds
already, and so does not notice the empty blocks that come first. After any calls a text is that of
the draft without those (`run_trimmed`). The two agree all the way unless the first call that succeeds
appends an empty block and another one follows (`destinations_agree_iff`).
-/

namespace WireErrors

open Source

namespace Draft

/-! ## Drafts without the empty blocks in front -/

/-- The draft without the empty blocks that come first. -/
def trimmed (draft : Draft) : Draft := ⟨draft.blocks.dropWhile String.isEmpty⟩

theorem append_eq (draft : Draft) (block : String) :
    Destination.append draft block = ⟨draft.blocks ++ [block]⟩ := rfl

theorem trimmed_of_ne {first : String} (h : first ≠ "") (rest : List String) :
    trimmed ⟨first :: rest⟩ = ⟨first :: rest⟩ := by
  have hfirst : first.isEmpty = false := String.isEmpty_eq_false_iff.mpr h
  rw [trimmed, List.dropWhile_cons_of_neg (by simp [hfirst])]

theorem trimmed_cons_empty (rest : List String) : trimmed ⟨"" :: rest⟩ = trimmed ⟨rest⟩ := rfl

theorem trimmed_cases (draft : Draft) :
    draft.trimmed = empty ∨ ∃ first rest, draft.trimmed = ⟨first :: rest⟩ ∧ first ≠ "" := by
  obtain ⟨blocks⟩ := draft
  induction blocks with
  | nil => exact .inl rfl
  | cons first rest ih =>
    by_cases hfirst : first = ""
    · rw [hfirst, trimmed_cons_empty]
      exact ih
    · exact .inr ⟨first, rest, trimmed_of_ne hfirst rest, hfirst⟩

theorem contents_cons (first : String) {rest : List String} (h : rest ≠ []) :
    contents ⟨first :: rest⟩ = first ++ "\n" ++ contents ⟨rest⟩ :=
  String.intercalate_cons_of_ne_nil h

theorem contents_ne_empty {first : String} (h : first ≠ "") (rest : List String) :
    contents ⟨first :: rest⟩ ≠ "" := by
  cases rest with
  | nil =>
    rw [contents, String.intercalate_singleton]
    exact h
  | cons second rest =>
    rw [contents_cons first (List.cons_ne_nil _ _), String.append_assoc]
    exact fun hempty => h (String.append_eq_empty_iff.mp hempty).1

/-- One step: a block is taken by a text as by the draft whose text it is. -/
theorem append_contents (draft : Draft) (block : String) :
    Destination.append draft.trimmed.contents block =
      (Destination.append draft block).trimmed.contents := by
  have happend : (Destination.append draft block).trimmed.blocks =
      if draft.trimmed.blocks.isEmpty then [block].dropWhile String.isEmpty
      else draft.trimmed.blocks ++ [block] := List.dropWhile_append
  rw [contents, contents, happend]
  rcases draft.trimmed_cases with hempty | ⟨first, rest, hrest, hfirst⟩
  · rw [hempty]
    by_cases hblock : block = ""
    · rw [hblock]
      rfl
    · have hkept : [block].dropWhile String.isEmpty = [block] :=
        congrArg blocks (trimmed_of_ne hblock [])
      simp only [empty, List.isEmpty_nil, if_true, hkept, String.intercalate_singleton]
      rfl
  · have hnot : contents ⟨first :: rest⟩ ≠ "" := contents_ne_empty hfirst rest
    rw [hrest, if_neg (by simp), String.intercalate_append_of_ne_nil (List.cons_ne_nil _ _)
      (List.cons_ne_nil _ _), String.intercalate_singleton]
    exact if_neg fun hempty => hnot (String.isEmpty_iff.mp hempty)

theorem foldl_append_contents (draft : Draft) (blocks : List String) :
    blocks.foldl Destination.append draft.trimmed.contents =
      (blocks.foldl Destination.append draft).trimmed.contents := by
  induction blocks generalizing draft with
  | nil => rfl
  | cons block rest ih =>
    rw [List.foldl_cons, List.foldl_cons, append_contents]
    exact ih _

/-! ## When nothing is lost -/

theorem trimmed_suffix (draft : Draft) :
    draft.trimmed.contents.toList <:+ draft.contents.toList := by
  obtain ⟨blocks⟩ := draft
  induction blocks with
  | nil => exact List.suffix_rfl
  | cons first rest ih =>
    by_cases hfirst : first = ""
    · rw [hfirst, trimmed_cons_empty]
      refine ih.trans ?_
      by_cases hrest : rest = []
      · rw [hrest]
        exact List.suffix_rfl
      · rw [contents_cons _ hrest, String.toList_append]
        exact List.suffix_append _ _
    · simp only [trimmed_of_ne hfirst, List.suffix_rfl]

theorem contents_trimmed_iff (draft : Draft) :
    draft.trimmed.contents = draft.contents ↔ ∀ rest, draft.blocks = "" :: rest → rest = [] := by
  obtain ⟨blocks⟩ := draft
  cases blocks with
  | nil => exact iff_of_true rfl nofun
  | cons first rest =>
    by_cases hfirst : first = ""
    · subst hfirst
      by_cases hrest : rest = []
      · subst hrest
        exact iff_of_true rfl fun _ h => ((List.cons.inj h).2).symm
      · refine iff_of_false (fun hequal => ?_) fun h => hrest (h rest rfl)
        have hsuffix := (trimmed_suffix ⟨rest⟩).length_le
        rw [← trimmed_cons_empty, hequal, contents_cons _ hrest] at hsuffix
        simp only [String.empty_append, String.toList_append, List.length_append] at hsuffix
        exact absurd hsuffix (by simp)
    · rw [trimmed_of_ne hfirst]
      exact iff_of_true rfl fun _ h => absurd (List.cons.inj h).1 hfirst

end Draft

/-! ## Blocks of calls -/

theorem render_ne_empty {tokens : List Token} {t : Token} (hhead : tokens.head? = some t)
    (h : t.chars ≠ []) : Token.render tokens ≠ "" := by
  obtain ⟨rest, rfl⟩ := List.head?_eq_some_iff.mp hhead
  rw [Token.render, Ne, ← String.toList_inj, String.toList_ofList]
  cases rest with
  | nil => exact h
  | cons u rest =>
    rw [Token.renderChars, List.append_assoc]
    exact List.append_ne_nil_of_left_ne_nil h _

theorem Decoder.head?_routine (strategy : Strategy) (body : List Statement) :
    (routine (documentation strategy) body).tokens.head? = some (.mark '#' false) := by
  rw [tokens_routine]
  cases strategy <;> rfl

theorem Decoder.text_members_ne_empty (strategy : Strategy) (policy : Policy) (cases : List Case)
    (unknown : String) : Decoder.text (members strategy policy cases unknown) ≠ "" := by
  have hmark : (Token.mark '#' false).chars ≠ [] := List.cons_ne_nil _ _
  unfold members
  split
  · exact render_ne_empty rfl hmark
  · refine render_ne_empty ?_ hmark
    rw [List.flatMap_singleton]
    exact head?_routine strategy _

theorem ErrorModule.exists_first_block {delegate : Delegate} {model : Model} {unknown : String}
    (h : (emit delegate model unknown).result = .ok ()) :
    ∃ first rest, (emit delegate model unknown).blocks = first :: rest ∧ first ≠ "" := by
  obtain ⟨imports, hstaged, hblocks⟩ := of_emit_eq_ok h
  have himports := hstaged.imports_emitted
  have hnone : imports = [] →
      ∃ first rest, (emit delegate model unknown).blocks = first :: rest ∧ first ≠ "" := by
    rintro rfl
    exact ⟨_, _, hblocks, render_ne_empty (t := .mark '#' false) rfl (List.cons_ne_nil _ _)⟩
  cases hconformance : delegate.policy.conformance with
  | display =>
    rw [hconformance] at himports
    exact hnone himports
  | none =>
    rw [hconformance] at himports
    exact hnone himports
  | custom library interface =>
    rw [hconformance] at himports
    obtain ⟨path, -, rfl⟩ := himports
    exact ⟨_, _, hblocks, render_ne_empty (t := .ident "use") rfl (by decide)⟩

theorem Call.exists_first_block {call : Call} (h : call.emission.result = .ok ()) :
    ∃ first rest, call.emission.blocks = first :: rest ∧ (first = "" → call = .append "") := by
  cases call with
  | append text => exact ⟨text, [], rfl, congrArg Call.append⟩
  | routine strategy target policy names unknown =>
    exact ⟨_, [], (Decoder.of_emit_eq_ok h).2,
      fun hempty => absurd hempty (Decoder.text_members_ne_empty strategy policy _ unknown)⟩
  | module delegate model unknown =>
    obtain ⟨first, rest, hblocks, hfirst⟩ := ErrorModule.exists_first_block h
    exact ⟨first, rest, hblocks, fun hempty => absurd hempty hfirst⟩

/-! ## Runs -/

/-- Whether a call is answered without a failure. -/
def Call.succeeds (call : Call) : Bool := call.emission.result.isOk

theorem Call.succeeds_iff {call : Call} :
    call.succeeds = true ↔ call.emission.result = .ok () := by
  unfold succeeds
  cases call.emission.result with
  | ok => exact iff_of_true rfl rfl
  | error failure => exact iff_of_false nofun nofun

theorem Call.not_succeeds {call : Call} {failure : Failure}
    (h : call.emission.result = .error failure) : ¬call.succeeds = true := by
  rw [succeeds_iff, h]
  exact nofun

section

variable {δ : Type} [Destination δ]

theorem run_snd (d : δ) (calls : List Call) :
    (run d calls).2 = calls.map fun call => call.emission.result := by
  induction calls generalizing d with
  | nil => rfl
  | cons call rest ih => exact congrArg (call.emission.result :: ·) (ih _)

theorem succeeded_run (d : δ) (calls : List Call) :
    succeeded calls (run d calls).2 = calls.filter Call.succeeds := by
  rw [run_snd]
  induction calls with
  | nil => rfl
  | cons call rest ih =>
    cases hresult : call.emission.result with
    | ok =>
      rw [List.filter_cons_of_pos (Call.succeeds_iff.mpr hresult), List.map_cons,
        hresult, ← ih]
      rfl
    | error failure =>
      rw [List.filter_cons_of_neg (Call.not_succeeds hresult), List.map_cons,
        hresult, ← ih]
      rfl

end

/-- After any calls a text is that of the draft without the empty blocks in front, and each call has
been answered in the same way. -/
theorem run_trimmed (draft : Draft) (calls : List Call) :
    run draft.trimmed.contents calls =
      ((run draft calls).1.trimmed.contents, (run draft calls).2) := by
  induction calls generalizing draft with
  | nil => rfl
  | cons call rest ih =>
    have hstep : (perform draft.trimmed.contents call.emission).1 =
        (perform draft call.emission).1.trimmed.contents := by
      rw [perform_fst, perform_fst, Draft.foldl_append_contents]
    show ((run (perform draft.trimmed.contents call.emission).1 rest).1,
      call.emission.result :: (run (perform draft.trimmed.contents call.emission).1 rest).2) = _
    rw [hstep, ih]
    rfl

theorem blocks_foldl_append (draft : Draft) (blocks : List String) :
    (blocks.foldl Destination.append draft).blocks = draft.blocks ++ blocks := by
  induction blocks generalizing draft with
  | nil => exact (List.append_nil _).symm
  | cons block rest ih =>
    rw [List.foldl_cons, ih, Draft.append_eq, List.append_assoc, List.singleton_append]

theorem blocks_run (draft : Draft) (calls : List Call) :
    (run draft calls).1.blocks = draft.blocks ++
      (succeeded calls (run draft calls).2).flatMap fun call => call.emission.blocks := by
  rw [succeeded_run]
  induction calls generalizing draft with
  | nil => exact (List.append_nil _).symm
  | cons call rest ih =>
    show (run (perform draft call.emission).1 rest).1.blocks = _
    rw [ih, perform_fst, blocks_foldl_append]
    cases hresult : call.emission.result with
    | ok =>
      rw [List.filter_cons_of_pos (Call.succeeds_iff.mpr hresult),
        List.flatMap_cons, List.append_assoc]
    | error failure =>
      rw [List.filter_cons_of_neg (Call.not_succeeds hresult),
        call.emission_allOrNothing failure hresult, List.append_nil]

theorem leading_blank_iff (calls : List Call) :
    (∀ rest, (run Draft.empty calls).1.blocks = "" :: rest → rest = []) ↔
      ∀ later, succeeded calls (run Draft.empty calls).2 = .append "" :: later → later = [] := by
  have hok : ∀ call ∈ succeeded calls (run Draft.empty calls).2,
      call.emission.result = .ok () := by
    rw [succeeded_run]
    exact fun call hcall => Call.succeeds_iff.mp (List.mem_filter.mp hcall).2
  rw [blocks_run]
  revert hok
  generalize succeeded calls (run Draft.empty calls).2 = performed
  intro hok
  constructor
  · rintro h later rfl
    cases later with
    | nil => rfl
    | cons next later =>
      obtain ⟨first, rest, hblocks, -⟩ := Call.exists_first_block
        (hok next (List.mem_cons_of_mem _ List.mem_cons_self))
      have hnil : ((next :: later).flatMap fun call => call.emission.blocks) = [] := h _ rfl
      rw [List.flatMap_cons, hblocks] at hnil
      cases hnil
  · intro h rest hrest
    cases performed with
    | nil => cases hrest
    | cons call later =>
      obtain ⟨first, more, hblocks, hfirst⟩ := Call.exists_first_block (hok call List.mem_cons_self)
      rw [List.flatMap_cons, hblocks] at hrest
      obtain ⟨rfl, rfl⟩ := List.cons.inj hrest
      obtain rfl := hfirst rfl
      obtain rfl := h later rfl
      rw [← (List.cons.inj hblocks).2]
      rfl

/-- **When a text and a draft agree.** The same calls are answered alike by both, and the text is that
of the draft without the empty blocks in front. So they agree after each call unless the first one that
succeeds appends an empty block and another one succeeds behind it. -/
theorem destinations_agree_iff (calls : List Call) :
    (run "" calls).2 = (run Draft.empty calls).2 ∧
    (run "" calls).1 = Draft.contents ⟨(run Draft.empty calls).1.blocks.dropWhile String.isEmpty⟩ ∧
    ((∀ n, (run "" (calls.take n)).1 = (run Draft.empty (calls.take n)).1.contents) ↔
      ∀ later, succeeded calls (run Draft.empty calls).2 = .append "" :: later → later = []) := by
  have hrun : ∀ calls, run "" calls =
      ((run Draft.empty calls).1.trimmed.contents, (run Draft.empty calls).2) :=
    run_trimmed Draft.empty
  have hagree : ∀ calls, (run "" calls).1 = (run Draft.empty calls).1.contents ↔
      ∀ later, succeeded calls (run Draft.empty calls).2 = .append "" :: later → later = [] := by
    intro calls
    rw [hrun, ← leading_blank_iff]
    exact Draft.contents_trimmed_iff _
  refine ⟨by rw [hrun], by rw [hrun]; rfl, fun h => ?_, fun h n => ?_⟩
  · have hall := h calls.length
    rw [List.take_length] at hall
    exact (hagree calls).mp hall
  · refine (hagree _).mpr fun later hlater => ?_
    -- what succeeds in a part of the calls comes first in what succeeds in all of them
    have hprefix : succeeded (calls.take n) (run Draft.empty (calls.take n)).2 <+:
        succeeded calls (run Draft.empty calls).2 := by
      rw [succeeded_run, succeeded_run]
      exact (List.take_prefix n calls).filter _
    rw [hlater] at hprefix
    obtain ⟨more, hmore⟩ := hprefix
    exact (List.append_eq_nil_iff.mp (h _ hmore.symm)).1

/-- An empty block in front is lost in a text. -/
theorem destinations_empty_block :
    (run "" [.append "", .append "pub struct A;"]).1 = "pub struct A;" ∧
      (run Draft.empty [.append "", .append "pub struct A;"]).1.contents = "\npub struct A;" :=
  ⟨rfl, rfl⟩

end WireErrors
