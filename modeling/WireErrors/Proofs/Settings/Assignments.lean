import Mathlib.Data.List.Nodup
import WireErrors.Proofs.Splitting
import WireErrors.Settings

/-!
# Parameters as assignments

A parameter is `key=value`, where the key names a field of the settings and the value is spelled as
something that the field can hold (`Assigns`), or else it is refused for its first fault (`Refused`).
Every parameter is one of both (`assigns_or_refused`), and reading it does what the relation says
(`readPart_of_assigns`, `readPart_of_refused`).
-/

namespace WireErrors

open Text

/-! ## Look-ups -/

theorem lookup_eq_some_iff_mem {α β : Type} [BEq α] [LawfulBEq α] {entries : List (α × β)}
    (hnodup : (entries.map Prod.fst).Nodup) {key : α} {value : β} :
    entries.lookup key = some value ↔ (key, value) ∈ entries := by
  induction entries with
  | nil => simp
  | cons entry entries ih =>
    obtain ⟨first, other⟩ := entry
    rw [List.map_cons, List.nodup_cons] at hnodup
    by_cases hkey : key = first
    · subst hkey
      have hnot : (key, value) ∉ entries := fun h => hnodup.1 (List.mem_map.mpr ⟨_, h, rfl⟩)
      rw [List.lookup_cons_self]
      simp [hnot, eq_comm]
    · rw [List.lookup_cons, beq_false_of_ne hkey, ih hnodup.2]
      simp [hkey]

theorem lookup_eq_none_iff_not_mem {α β : Type} [BEq α] [LawfulBEq α] {entries : List (α × β)}
    (hnodup : (entries.map Prod.fst).Nodup) {key : α} :
    entries.lookup key = none ↔ ∀ value, (key, value) ∉ entries := by
  simp only [Option.eq_none_iff_forall_ne_some, ne_eq, lookup_eq_some_iff_mem hnodup]

namespace Settings

/-! ## Fields -/

inductive Flag where
  | serializable
  | display
  | validation
deriving DecidableEq, Repr

inductive Field where
  | target
  | conformance
  | flag (flag : Flag)
  | strategy
  | unknown
deriving DecidableEq, Repr

/-- What a field holds; one that overrides a policy may hold nothing. -/
abbrev Field.Content : Field → Type
  | .target | .unknown => String
  | .conformance => Option Conformance
  | .flag _ => Option Bool
  | .strategy => Option Strategy

/-- A field with what it is to hold. -/
structure Assignment where
  field : Field
  content : field.Content

def content (settings : Settings) : (field : Field) → field.Content
  | .target => settings.target
  | .conformance => settings.conformance
  | .flag .serializable => settings.serializable
  | .flag .display => settings.display
  | .flag .validation => settings.validation
  | .strategy => settings.strategy
  | .unknown => settings.unknown

/-- Settings with the content of one field replaced. -/
def put (settings : Settings) : Assignment → Settings
  | ⟨.target, name⟩ => { settings with target := name }
  | ⟨.conformance, conformance⟩ => { settings with conformance := conformance }
  | ⟨.flag .serializable, value⟩ => { settings with serializable := value }
  | ⟨.flag .display, value⟩ => { settings with display := value }
  | ⟨.flag .validation, value⟩ => { settings with validation := value }
  | ⟨.strategy, strategy⟩ => { settings with strategy := strategy }
  | ⟨.unknown, name⟩ => { settings with unknown := name }

@[simp] theorem content_put_self (settings : Settings) (field : Field) (content : field.Content) :
    (settings.put ⟨field, content⟩).content field = content := by
  cases field with
  | flag flag => cases flag <;> rfl
  | _ => rfl

theorem content_put_of_ne (settings : Settings) {assignment : Assignment} {field : Field}
    (h : assignment.field ≠ field) :
    (settings.put assignment).content field = settings.content field := by
  obtain ⟨changed, content⟩ := assignment
  cases changed with
  | flag flag =>
    cases flag <;> cases field with
    | flag other => cases other <;> first | rfl | exact absurd rfl h
    | _ => rfl
  | _ =>
    cases field with
    | flag other => cases other <;> rfl
    | _ => first | rfl | exact absurd rfl h

/-- Settings are what their fields hold. -/
theorem ext_content {first second : Settings}
    (h : ∀ field, first.content field = second.content field) : first = second := by
  cases first
  cases second
  have htarget := h .target
  have hconformance := h .conformance
  have hserializable := h (.flag .serializable)
  have hdisplay := h (.flag .display)
  have hvalidation := h (.flag .validation)
  have hstrategy := h .strategy
  have hunknown := h .unknown
  simp only [content] at *
  simp [*]

/-- The keys of parameters with the fields that they name. -/
def keys : List (String × Field) :=
  [("target", .target), ("backend", .target), ("option_set", .conformance),
   ("serializable", .flag .serializable), ("display", .flag .display),
   ("validation", .flag .validation), ("initializer", .strategy), ("unknown", .unknown)]

theorem nodup_keys : (keys.map Prod.fst).Nodup := by decide

/-! ## Values -/

/-- What the value of a parameter stands for in the field that it is meant for. -/
inductive Denotes (value : String) : Assignment → Prop
  | target : Denotes value ⟨.target, value⟩
  | unknown : Denotes value ⟨.unknown, value⟩
  | display (h : value = "display" ∨ value = "string") :
      Denotes value ⟨.conformance, some .display⟩
  | none (h : value = "none") : Denotes value ⟨.conformance, some .none⟩
  /-- The library may hold `:`, the trait may not. -/
  | custom {library interface : String} (h : value = "custom:" ++ library ++ ":" ++ interface)
      (hlast : ':' ∉ interface.toList) :
      Denotes value ⟨.conformance, some (.custom library interface)⟩
  | flag {flag : Flag} {b : Bool} (h : (lowercase value, b) ∈ booleans) :
      Denotes value ⟨.flag flag, some b⟩
  | strategy {strategy : Strategy} (h : (lowercase value, strategy) ∈ Strategy.spellings) :
      Denotes value ⟨.strategy, some strategy⟩

/-- Why the value of a key does not fit the field that the key names. -/
inductive Unfit (key value : String) : Field → String → Prop
  | conformance (hword : value ∉ ["display", "string", "none"])
      (hlead : ¬∃ rest, value = "custom:" ++ rest) :
      Unfit key value .conformance ("invalid option_set: " ++ value)
  | incomplete {rest : String} (h : value = "custom:" ++ rest) (hmark : ':' ∉ rest.toList) :
      Unfit key value .conformance ("option_set custom expects custom:<library>:<Trait>, got " ++ value)
  | flag {flag : Flag} (h : ∀ b, (lowercase value, b) ∉ booleans) :
      Unfit key value (.flag flag) (key ++ " expects a boolean, got '" ++ value ++ "'")
  | strategy (h : ∀ strategy, (lowercase value, strategy) ∉ Strategy.spellings) :
      Unfit key value .strategy ("unknown initializer strategy: " ++ lowercase value)

theorem isPrefixOf_toList_iff {start text : String} :
    start.toList.isPrefixOf text.toList = true ↔ ∃ rest, text = start ++ rest := by
  rw [List.isPrefixOf_iff_prefix]
  constructor
  · rintro ⟨rest, hrest⟩
    exact ⟨String.ofList rest, String.toList_injective (by simp [← hrest])⟩
  · rintro ⟨rest, rfl⟩
    exact ⟨rest.toList, by simp⟩

/-- Behind `custom:`, the last colon separates the library and the trait. -/
theorem readConformance_lead (rest : String) :
    readConformance ("custom:" ++ rest) =
      match splitLast? ':' rest.toList with
      | some (library, interface) =>
        .ok (.custom (String.ofList library) (String.ofList interface))
      | none => refuse (.incompleteConformance ("custom:" ++ rest)) := by
  have hword : ∀ word : String, word.toList.head? ≠ some 'c' → "custom:" ++ rest ≠ word := by
    rintro word hhead rfl
    exact hhead (by simp)
  have hdisplay : "custom:" ++ rest ≠ "display" := hword _ (by decide)
  have hstring : "custom:" ++ rest ≠ "string" := hword _ (by decide)
  have hlead : "custom:".toList.isPrefixOf ("custom:" ++ rest).toList = true :=
    isPrefixOf_toList_iff.mpr ⟨rest, rfl⟩
  have hdrop : ("custom:" ++ rest).toList.drop "custom:".toList.length = rest.toList := by simp
  rw [readConformance, if_neg (by simp [hdisplay, hstring]), if_neg (hword "none" (by decide))]
  exact (if_pos hlead).trans (hdrop ▸ rfl)

theorem readConformance_custom {library interface : String} (h : ':' ∉ interface.toList) :
    readConformance ("custom:" ++ library ++ ":" ++ interface) = .ok (.custom library interface) := by
  have hsplit : splitLast? ':' (library ++ ":" ++ interface).toList =
      some (library.toList, interface.toList) := by
    rw [splitLast?_eq_some_iff]
    exact ⟨by simp, h⟩
  have hvalue : "custom:" ++ library ++ ":" ++ interface =
      "custom:" ++ (library ++ ":" ++ interface) := by simp only [String.append_assoc]
  rw [hvalue, readConformance_lead, hsplit]
  simp

theorem readBool_eq_ok {key value : String} {b : Bool} (h : (lowercase value, b) ∈ booleans) :
    readBool key value = .ok b := by
  rw [readBool, (lookup_eq_some_iff_mem (by decide)).mpr h]

theorem readBool_eq_error {key value : String} (h : ∀ b, (lowercase value, b) ∉ booleans) :
    readBool key value = refuse (.notBoolean key value) := by
  rw [readBool, (lookup_eq_none_iff_not_mem (by decide)).mpr h]

theorem find_eq_ok {value : String} {strategy : Strategy}
    (h : (lowercase value, strategy) ∈ Strategy.spellings) : Strategy.find value = .ok strategy := by
  rw [Strategy.find, (lookup_eq_some_iff_mem (by decide)).mpr h]

theorem find_eq_error {value : String}
    (h : ∀ strategy, (lowercase value, strategy) ∉ Strategy.spellings) :
    Strategy.find value = .error (.parameter ("unknown initializer strategy: " ++ lowercase value)) := by
  rw [Strategy.find, (lookup_eq_none_iff_not_mem (by decide)).mpr h]

/-- What the value of a key is read as in the field that the key names. -/
def readContent (key value : String) : (field : Field) → Except GenerationError field.Content
  | .target | .unknown => .ok value
  | .conformance => (readConformance value).map some
  | .flag _ => (readBool key value).map some
  | .strategy => (Strategy.find value).map some

theorem readContent_of_denotes (key : String) {value : String} {field : Field}
    {content : field.Content} (h : Denotes value ⟨field, content⟩) :
    readContent key value field = .ok content := by
  cases h with
  | target => rfl
  | unknown => rfl
  | display h => rcases h with rfl | rfl <;> rfl
  | none h => subst h; rfl
  | custom h hlast => rw [readContent, h, readConformance_custom hlast]; rfl
  | flag h => rw [readContent, readBool_eq_ok h]; rfl
  | strategy h => rw [readContent, find_eq_ok h]; rfl

theorem readContent_of_unfit {key value message : String} {field : Field}
    (h : Unfit key value field message) :
    readContent key value field = .error (.parameter message) := by
  cases h with
  | conformance hword hlead =>
    simp only [List.mem_cons, List.not_mem_nil, or_false, not_or] at hword
    have hprefix : ¬"custom:".toList.isPrefixOf value.toList = true := fun h =>
      hlead (isPrefixOf_toList_iff.mp h)
    rw [readContent, readConformance, if_neg (by simp [hword]), if_neg hword.2.2]
    dsimp only
    rw [if_neg hprefix]
    rfl
  | incomplete h hmark =>
    rw [readContent, h, readConformance_lead, splitLast?_eq_none_iff.mpr hmark]
    rfl
  | flag h => rw [readContent, readBool_eq_error h]; rfl
  | strategy h => rw [readContent, find_eq_error h]; rfl

theorem denotes_or_unfit (key value : String) (field : Field) :
    (∃ content, Denotes value ⟨field, content⟩) ∨ ∃ message, Unfit key value field message := by
  cases field with
  | target => exact .inl ⟨value, .target⟩
  | unknown => exact .inl ⟨value, .unknown⟩
  | conformance =>
    by_cases hlead : ∃ rest, value = "custom:" ++ rest
    · obtain ⟨rest, rfl⟩ := hlead
      cases hsplit : splitLast? ':' rest.toList with
      | none => exact .inr ⟨_, .incomplete rfl (splitLast?_eq_none_iff.mp hsplit)⟩
      | some split =>
        obtain ⟨library, interface⟩ := split
        obtain ⟨hrest, hlast⟩ := splitLast?_eq_some_iff.mp hsplit
        have hvalue : "custom:" ++ rest =
            "custom:" ++ String.ofList library ++ ":" ++ String.ofList interface :=
          String.toList_injective (by simp [hrest])
        exact .inl ⟨_, .custom hvalue (by simpa using hlast)⟩
    · by_cases hword : value ∈ ["display", "string", "none"]
      · simp only [List.mem_cons, List.not_mem_nil, or_false] at hword
        rcases hword with hword | hword | hword
        · exact .inl ⟨_, .display (.inl hword)⟩
        · exact .inl ⟨_, .display (.inr hword)⟩
        · exact .inl ⟨_, .none hword⟩
      · exact .inr ⟨_, .conformance hword hlead⟩
  | flag flag =>
    by_cases h : ∃ b, (lowercase value, b) ∈ booleans
    · exact .inl ⟨_, .flag h.choose_spec⟩
    · exact .inr ⟨_, .flag (not_exists.mp h)⟩
  | strategy =>
    by_cases h : ∃ strategy, (lowercase value, strategy) ∈ Strategy.spellings
    · exact .inl ⟨_, .strategy h.choose_spec⟩
    · exact .inr ⟨_, .strategy (not_exists.mp h)⟩

/-! ## Parameters -/

/-- A parameter gives a value that its field can hold. -/
inductive Assigns (part : List Char) : Assignment → Prop
  | mk {key value : List Char} {assignment : Assignment} (hpart : part = key ++ '=' :: value)
      (hfirst : '=' ∉ key) (hkey : (String.ofList (trim key), assignment.field) ∈ keys)
      (hvalue : Denotes (String.ofList (trim value)) assignment) : Assigns part assignment

/-- The first fault of a parameter: no value, a key that names no field, or an unfit value. -/
inductive Refused (part : List Char) : GenerationError → Prop
  | noValue (h : '=' ∉ part) :
      Refused part (.parameter ("expected key=value, got '" ++ String.ofList part ++ "'"))
  | unknownKey {key value : List Char} (hpart : part = key ++ '=' :: value) (hfirst : '=' ∉ key)
      (hkey : ∀ field, (String.ofList (trim key), field) ∉ keys) :
      Refused part (.parameter ("unknown parameter: " ++ String.ofList (trim key)))
  | unfit {key value : List Char} {field : Field} {message : String}
      (hpart : part = key ++ '=' :: value) (hfirst : '=' ∉ key)
      (hkey : (String.ofList (trim key), field) ∈ keys)
      (hvalue : Unfit (String.ofList (trim key)) (String.ofList (trim value)) field message) :
      Refused part (.parameter message)

theorem assigns_or_refused (part : List Char) :
    (∃ assignment, Assigns part assignment) ∨ ∃ error, Refused part error := by
  cases hsplit : splitFirst? '=' part with
  | none => exact .inr ⟨_, .noValue (splitFirst?_eq_none_iff.mp hsplit)⟩
  | some split =>
    obtain ⟨hpart, hfirst⟩ := splitFirst?_eq_some_iff.mp hsplit
    by_cases hkey : ∃ field, (String.ofList (trim split.1), field) ∈ keys
    · obtain ⟨field, hkey⟩ := hkey
      rcases denotes_or_unfit (String.ofList (trim split.1)) (String.ofList (trim split.2)) field with
        ⟨content, hvalue⟩ | ⟨message, hvalue⟩
      · exact .inl ⟨_, .mk hpart hfirst hkey hvalue⟩
      · exact .inr ⟨_, .unfit hpart hfirst hkey hvalue⟩
    · exact .inr ⟨_, .unknownKey hpart hfirst (not_exists.mp hkey)⟩

theorem bind_some_eq_map {α : Type} (x : Except GenerationError α) (f : Option α → Settings) :
    (x >>= fun a => pure (f (some a))) = (x.map some).map f := by
  cases x <;> rfl

theorem assign_of_mem_keys (settings : Settings) {key : String} {field : Field}
    (h : (key, field) ∈ keys) (value : String) :
    settings.assign key value =
      (readContent key value field).map fun content => settings.put ⟨field, content⟩ := by
  simp only [keys, List.mem_cons, Prod.mk.injEq, List.not_mem_nil, or_false] at h
  rcases h with ⟨rfl, rfl⟩ | ⟨rfl, rfl⟩ | ⟨rfl, rfl⟩ | ⟨rfl, rfl⟩ | ⟨rfl, rfl⟩ | ⟨rfl, rfl⟩ |
    ⟨rfl, rfl⟩ | ⟨rfl, rfl⟩
  · rfl
  · rfl
  · exact bind_some_eq_map (readConformance value) fun c => { settings with conformance := c }
  · exact bind_some_eq_map (readBool _ value) fun b => { settings with serializable := b }
  · exact bind_some_eq_map (readBool _ value) fun b => { settings with display := b }
  · exact bind_some_eq_map (readBool _ value) fun b => { settings with validation := b }
  · exact bind_some_eq_map (Strategy.find value) fun s => { settings with strategy := s }
  · rfl

theorem assign_of_not_mem_keys (settings : Settings) {key : String}
    (h : ∀ field, (key, field) ∉ keys) (value : String) :
    settings.assign key value = refuse (.unknownKey key) := by
  have hnone : keys.lookup key = none := (lookup_eq_none_iff_not_mem nodup_keys).mpr h
  unfold assign
  split <;> first | rfl | exact absurd hnone (by decide)

theorem readPart_of_assigns (settings : Settings) {part : List Char} {assignment : Assignment}
    (h : Assigns part assignment) : settings.readPart part = .ok (settings.put assignment) := by
  obtain ⟨hpart, hfirst, hkey, hvalue⟩ := h
  rw [readPart, splitFirst?_eq_some_iff.mpr ⟨hpart, hfirst⟩]
  dsimp only
  rw [assign_of_mem_keys settings hkey, readContent_of_denotes _ hvalue]
  rfl

theorem readPart_of_refused (settings : Settings) {part : List Char} {error : GenerationError}
    (h : Refused part error) : settings.readPart part = .error error := by
  cases h with
  | noValue h =>
    rw [readPart, splitFirst?_eq_none_iff.mpr h]
    rfl
  | unknownKey hpart hfirst hkey =>
    rw [readPart, splitFirst?_eq_some_iff.mpr ⟨hpart, hfirst⟩]
    exact assign_of_not_mem_keys settings hkey _
  | unfit hpart hfirst hkey hvalue =>
    rw [readPart, splitFirst?_eq_some_iff.mpr ⟨hpart, hfirst⟩]
    dsimp only
    rw [assign_of_mem_keys settings hkey, readContent_of_unfit hvalue]
    rfl

end Settings

end WireErrors
