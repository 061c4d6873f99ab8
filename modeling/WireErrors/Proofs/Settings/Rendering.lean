import WireErrors.Proofs.Settings.Reading

/-!
# Rendering settings

Settings are written as one parameter for each field that holds something, in a fixed order. What a
text can be read as is read back from this form (`read_render`): it holds no comma, no blank at an end
of a value and no colon in a trait.
-/

namespace WireErrors.Settings

open Text

/-! ## The canonical form -/

/-- The fields in the order in which they are written. -/
def Field.all : List Field :=
  [.target, .conformance, .flag .serializable, .flag .display, .flag .validation, .strategy, .unknown]

/-- The key that a field is written with. -/
def Field.key : Field → String
  | .target => "target"
  | .conformance => "option_set"
  | .flag .serializable => "serializable"
  | .flag .display => "display"
  | .flag .validation => "validation"
  | .strategy => "initializer"
  | .unknown => "unknown"

def spellConformance : Conformance → String
  | .display => "display"
  | .custom library interface => "custom:" ++ library ++ ":" ++ interface
  | .none => "none"

def spellBool (value : Bool) : String := if value then "true" else "false"

def spellStrategy : Strategy → String
  | .matching => "match"
  | .chain => "chain"

/-- The value that stands for the content of a field, unless it overrides nothing. -/
def Field.spell? : (field : Field) → field.Content → Option String
  | .target, name | .unknown, name => some name
  | .conformance, override => override.map spellConformance
  | .flag _, override => override.map spellBool
  | .strategy, override => override.map spellStrategy

def parameter? (settings : Settings) (field : Field) : Option String :=
  (field.spell? (settings.content field)).map fun value => field.key ++ "=" ++ value

/-- Settings as a text of parameters. -/
def render (settings : Settings) : String :=
  ",".intercalate (Field.all.filterMap settings.parameter?)

example : render { standard with
      target := "rust-minimal"
      conformance := some (.custom "error_kit::traits" "RecoverableError")
      display := some false
      strategy := some .chain } =
    "target=rust-minimal,option_set=custom:error_kit::traits:RecoverableError,display=false," ++
      "initializer=chain,unknown=UnknownError" := rfl

/-! ## Values that can be read back -/

/-- A value of a parameter that stands for some content and loses nothing between commas. -/
structure Spelled (value : String) (field : Field) (content : field.Content) : Prop where
  no_comma : ',' ∉ value.toList
  tight : Tight value.toList
  denotes : Denotes value ⟨field, content⟩

theorem Spelled.spell? {value : String} {field : Field} {content : field.Content}
    (h : Spelled value field content) :
    ∀ word, field.spell? content = some word → Spelled word field content := by
  obtain ⟨hcomma, htight, hdenotes⟩ := h
  intro word hword
  cases hdenotes with
  | target => cases hword; exact ⟨hcomma, htight, .target⟩
  | unknown => cases hword; exact ⟨hcomma, htight, .unknown⟩
  | display => cases hword; exact ⟨by decide, by decide, .display (.inl rfl)⟩
  | none => cases hword; exact ⟨by decide, by decide, .none rfl⟩
  | custom h hlast =>
    subst h
    cases hword
    exact ⟨hcomma, htight, .custom rfl hlast⟩
  | @flag flag b h =>
    cases hword
    cases b
    · exact ⟨by decide, by decide, .flag (by decide +kernel)⟩
    · exact ⟨by decide, by decide, .flag (by decide +kernel)⟩
  | @strategy strategy h =>
    cases hword
    cases strategy
    · exact ⟨by decide, by decide, .strategy (by decide +kernel)⟩
    · exact ⟨by decide, by decide, .strategy (by decide +kernel)⟩

/-- Whether each field has content that can be read back. -/
def Renderable (settings : Settings) : Prop :=
  ∀ field value, field.spell? (settings.content field) = some value →
    Spelled value field (settings.content field)

theorem not_mem_of_mem_parts {text : String} {part : List Char} (h : part ∈ parts text) :
    ',' ∉ part := by
  obtain ⟨pieces, -, hpieces, -, hparts⟩ := exists_pieces text
  rw [hparts, List.mem_filter, List.mem_map] at h
  obtain ⟨⟨piece, hpiece, rfl⟩, -⟩ := h
  exact fun hmem => hpieces piece hpiece (mem_of_mem_trim hmem)

theorem Assigns.exists_spelled {part : List Char} {field : Field} {content : field.Content}
    (h : Assigns part ⟨field, content⟩) (hpart : ',' ∉ part) :
    ∃ value, Spelled value field content := by
  obtain ⟨rfl, -, -, hvalue⟩ := h
  refine ⟨_, ⟨?_, ?_, hvalue⟩⟩
  · rw [String.toList_ofList]
    exact fun hmem => hpart (List.mem_append_right _ (List.mem_cons_of_mem _ (mem_of_mem_trim hmem)))
  · rw [String.toList_ofList]
    exact tight_trim _

theorem renderable_standard : Renderable standard := by
  intro field value hvalue
  cases field with
  | target => cases hvalue; exact ⟨by decide, by decide, .target⟩
  | unknown => cases hvalue; exact ⟨by decide, by decide, .unknown⟩
  | flag flag => cases flag <;> cases hvalue
  | conformance => cases hvalue
  | strategy => cases hvalue

theorem renderable_of_read {text : String} {settings : Settings} (h : read text = .ok settings) :
    Renderable settings := by
  obtain ⟨assignments, hassigned, hlast⟩ := read_eq_ok_iff.mp h
  intro field value hvalue
  generalize hcontent : settings.content field = content at hvalue ⊢
  have hwins := hlast field
  rw [hcontent] at hwins
  cases hwins with
  | untouched => exact renderable_standard field value hvalue
  | assigned h _ =>
    obtain ⟨part, hpart, hassigns⟩ :=
      exists_part_of_mem hassigned (h ▸ List.mem_append_right _ List.mem_cons_self)
    obtain ⟨spelling, hspelling⟩ := hassigns.exists_spelled (not_mem_of_mem_parts hpart)
    exact hspelling.spell? value hvalue

/-! ## Reading back -/

theorem key_mem_keys (field : Field) : (field.key, field) ∈ keys := by
  cases field with
  | flag flag => cases flag <;> decide
  | _ => decide

theorem key_word (field : Field) :
    '=' ∉ field.key.toList ∧ ',' ∉ field.key.toList ∧ Tight field.key.toList ∧ field.key ≠ "" := by
  cases field with
  | flag flag => cases flag <;> decide
  | _ => decide

section

variable {value : String} {field : Field} {content : field.Content}

theorem toList_parameter (field : Field) (value : String) :
    (field.key ++ "=" ++ value).toList = field.key.toList ++ '=' :: value.toList := by
  simp

theorem parameter_ne_empty (field : Field) (value : String) : field.key ++ "=" ++ value ≠ "" := by
  intro hempty
  have hlist := congrArg String.toList hempty
  rw [toList_parameter] at hlist
  cases (List.append_eq_nil_iff.mp hlist).2

theorem Spelled.assigns (h : Spelled value field content) :
    Assigns (field.key ++ "=" ++ value).toList ⟨field, content⟩ := by
  obtain ⟨hmark, -, htight, -⟩ := key_word field
  refine .mk (toList_parameter field value) hmark ?_ ?_
  · rw [htight.trim_eq, String.ofList_toList]
    exact key_mem_keys field
  · rw [h.tight.trim_eq, String.ofList_toList]
    exact h.denotes

theorem Spelled.not_mem_parameter (h : Spelled value field content) :
    ',' ∉ (field.key ++ "=" ++ value).toList := by
  obtain ⟨-, hcomma, -, -⟩ := key_word field
  simp [hcomma, h.no_comma]

theorem Spelled.tight_parameter (h : Spelled value field content) :
    Tight (field.key ++ "=" ++ value).toList := by
  obtain ⟨-, -, htight, -⟩ := key_word field
  have hmark : Tight ['='] := by decide
  rw [toList_parameter]
  exact htight.append (hmark.append h.tight)

end

theorem parts_intercalate {parameters : List String} (hne : parameters ≠ [])
    (h : ∀ p ∈ parameters, ',' ∉ p.toList ∧ Tight p.toList ∧ p ≠ "") :
    parts (",".intercalate parameters) = parameters.map String.toList := by
  have hcommas : ∀ piece ∈ parameters.map String.toList, ',' ∉ piece :=
    List.forall_mem_map.mpr fun p hp => (h p hp).1
  have htrim : (parameters.map String.toList).map trim = parameters.map String.toList := by
    rw [List.map_map]
    exact List.map_congr_left fun p hp => (h p hp).2.1.trim_eq
  have hkept : (parameters.map String.toList).filter (!·.isEmpty) = parameters.map String.toList := by
    refine List.filter_eq_self.mpr (List.forall_mem_map.mpr fun p hp => ?_)
    simpa using (h p hp).2.2
  rw [parts, String.toList_intercalate]
  show (((splitAt ',' (List.intercalate [','] _)).map trim).filter _) = _
  rw [splitAt_intercalate (by simpa using hne) hcommas, htrim, hkept]

/-- The assignments that the canonical form consists of. -/
def written (settings : Settings) : List Assignment :=
  Field.all.filterMap fun field =>
    (field.spell? (settings.content field)).map fun _ => ⟨field, settings.content field⟩

theorem mem_written {settings : Settings} {a : Assignment} :
    a ∈ written settings ↔ a.content = settings.content a.field ∧
      (a.field.spell? a.content).isSome := by
  obtain ⟨field, content⟩ := a
  have hall : field ∈ Field.all := by
    cases field with
    | flag flag => cases flag <;> decide
    | _ => decide
  simp only [written, List.mem_filterMap, Option.map_eq_some_iff, Option.isSome_iff_exists]
  constructor
  · rintro ⟨other, -, value, hvalue, hassignment⟩
    cases hassignment
    exact ⟨rfl, value, hvalue⟩
  · rintro ⟨rfl, value, hvalue⟩
    exact ⟨field, hall, value, hvalue, rfl⟩

theorem forall₂_written {settings : Settings} (h : Renderable settings) (fields : List Field) :
    List.Forall₂ Assigns ((fields.filterMap settings.parameter?).map String.toList)
      (fields.filterMap fun field =>
        (field.spell? (settings.content field)).map fun _ => ⟨field, settings.content field⟩) := by
  induction fields with
  | nil => exact .nil
  | cons field rest ih =>
    rw [List.filterMap_cons, List.filterMap_cons, parameter?]
    cases hspell : field.spell? (settings.content field) with
    | none => exact ih
    | some value => exact .cons (h field value hspell).assigns ih

theorem parts_render {settings : Settings} (h : Renderable settings) :
    parts settings.render = (Field.all.filterMap settings.parameter?).map String.toList := by
  refine parts_intercalate (List.cons_ne_nil _ _) fun parameter hparameter => ?_
  obtain ⟨field, -, hfield⟩ := List.mem_filterMap.mp hparameter
  obtain ⟨value, hvalue, rfl⟩ := Option.map_eq_some_iff.mp hfield
  have hspelled := h field value hvalue
  exact ⟨hspelled.not_mem_parameter, hspelled.tight_parameter, parameter_ne_empty field value⟩

/-- A field that is not written holds what it holds in the beginning. -/
theorem content_of_spell?_eq_none {settings : Settings} {field : Field}
    (h : field.spell? (settings.content field) = none) :
    settings.content field = standard.content field := by
  cases field with
  | target => cases h
  | unknown => cases h
  | conformance => exact Option.map_eq_none_iff.mp h
  | strategy => exact Option.map_eq_none_iff.mp h
  | flag flag => cases flag <;> exact Option.map_eq_none_iff.mp h

/-- **What a text can be read as is read back from its canonical form.** -/
theorem read_render_of_renderable {settings : Settings} (h : Renderable settings) :
    read settings.render = .ok settings := by
  refine read_eq_ok_iff.mpr ⟨written settings, parts_render h ▸ forall₂_written h Field.all, ?_⟩
  intro field
  obtain ⟨content, hwins⟩ := exists_lastWins (written settings) field (standard.content field)
  suffices hcontent : settings.content field = content from hcontent ▸ hwins
  cases hwins with
  -- every field is written with what it holds, so that its last assignment is no other
  | assigned hsplit _ =>
    have hmem : ⟨field, content⟩ ∈ written settings :=
      hsplit ▸ List.mem_append_right _ List.mem_cons_self
    exact (mem_written.mp hmem).1.symm
  | untouched hnone =>
    cases hspell : field.spell? (settings.content field) with
    | none => exact content_of_spell?_eq_none hspell
    | some value =>
      exact absurd rfl (hnone ⟨field, settings.content field⟩
        (mem_written.mpr ⟨rfl, hspell ▸ rfl⟩))

/-! ## Custom conformances -/

section

variable {library interface : String}

theorem spelled_custom (hlibrary : ',' ∉ library.toList) (hinterface : ',' ∉ interface.toList)
    (hcolon : ':' ∉ interface.toList) (hlast : ∀ c ∈ interface.toList.getLast?, isBlank c = false) :
    Spelled ("custom:" ++ library ++ ":" ++ interface) .conformance
      (some (.custom library interface)) := by
  have hhead : ("custom:" ++ library ++ ":" ++ interface).toList.head? = some 'c' := by simp
  have hlead : ("custom:" ++ library ++ ":").toList.getLast? = some ':' := by
    rw [String.toList_append]
    exact List.getLast?_concat
  refine ⟨by simp [hlibrary, hinterface], ⟨?_, ?_⟩, .custom rfl hcolon⟩
  · intro c hc
    obtain rfl := Option.mem_unique hc hhead
    decide
  · intro c hc
    rw [String.toList_append, List.getLast?_append, Option.mem_def, Option.or_eq_some_iff] at hc
    rcases hc with hc | ⟨-, hc⟩
    · exact hlast c hc
    · obtain rfl := Option.mem_unique hc hlead
      decide

theorem Spelled.parts_parameter {value : String} {field : Field} {content : field.Content}
    (h : Spelled value field content) :
    parts (field.key ++ "=" ++ value) = [(field.key ++ "=" ++ value).toList] := by
  have hparameters : ∀ p ∈ [field.key ++ "=" ++ value], ',' ∉ p.toList ∧ Tight p.toList ∧ p ≠ "" :=
    List.forall_mem_singleton.mpr
      ⟨h.not_mem_parameter, h.tight_parameter, parameter_ne_empty field value⟩
  have hparts := parts_intercalate (List.cons_ne_nil _ []) hparameters
  rwa [String.intercalate_singleton] at hparts

end

/-- **Settings are read back from their canonical form**, whatever text they were read from. The form
names a custom conformance by its library and its trait. Where neither holds a comma and the trait has
no colon and no blank at its end, both are read back as they are, alone or behind other parameters. -/
theorem read_render :
    (∀ text settings, read text = .ok settings → read settings.render = .ok settings) ∧
    ∀ library interface : String, ',' ∉ library.toList → ',' ∉ interface.toList →
      ':' ∉ interface.toList → (∀ c ∈ interface.toList.getLast?, isBlank c = false) →
      let value := "custom:" ++ library ++ ":" ++ interface
      readConformance value = .ok (.custom library interface) ∧
      read ("option_set=" ++ value) =
        .ok { standard with conformance := some (.custom library interface) } ∧
      ∀ text settings, read text = .ok settings →
        read (text ++ "," ++ ("option_set=" ++ value)) =
          .ok { settings with conformance := some (.custom library interface) } := by
  refine ⟨fun text settings h => read_render_of_renderable (renderable_of_read h),
    fun library interface hlibrary hinterface hcolon hlast => ?_⟩
  have hspelled := spelled_custom hlibrary hinterface hcolon hlast
  have hread : ∀ settings, (parts ("option_set=" ++ ("custom:" ++ library ++ ":" ++ interface))).foldlM
      readPart settings = .ok { settings with conformance := some (.custom library interface) } := by
    intro settings
    have hparts := hspelled.parts_parameter
    have hpart := readPart_of_assigns settings hspelled.assigns
    rw [show "option_set=" = Field.conformance.key ++ "=" from rfl, hparts, List.foldlM_cons, hpart]
    rfl
  refine ⟨readConformance_custom hcolon, hread standard, fun text settings h => ?_⟩
  rw [read_append, h, except_ok_bind]
  exact hread settings

/-- Other spellings are read back as the canonical ones. The library of a custom conformance may be a
path or empty, and the trait may be empty. -/
theorem read_render_path :
    read (render { standard with target := "rust-min", display := some true }) =
      .ok { standard with target := "rust-min", display := some true } ∧
    read "option_set=custom::" = .ok { standard with conformance := some (.custom "" "") } ∧
    read "unknown=Other,option_set=custom:error_kit::traits:RecoverableError" =
      .ok { standard with
        unknown := "Other"
        conformance := some (.custom "error_kit::traits" "RecoverableError") } := by
  have hempty : Tight "".toList := by decide
  have htrait : Tight "RecoverableError".toList := by decide
  exact ⟨read_render.1 " display = YES,,backend=rust-min" _ rfl,
    (read_render.2 "" "" (by decide) (by decide) (by decide) hempty.2).2.1,
    (read_render.2 "error_kit::traits" "RecoverableError" (by decide) (by decide) (by decide)
      htrait.2).2.2 "unknown=Other" { standard with unknown := "Other" } rfl⟩

end WireErrors.Settings
