import SpannerDdl.Proofs.Settings.Acceptance
import SpannerDdl.Settings.Layers

/-! # Settings by layers

Every setting is taken from the uppermost layer that has a value of use for it, whatever becomes of
the other settings, and each value of no use is told once.

* `Yaml.Document.setting? d part key`: the value that a file has for a setting.
* `Settles accepts builtin values x`: what a setting is, by its values from the uppermost down.
* `Slot`, `Complains slots told`: the places where values may stand, and what is told of them.
* `Settings.ofEnvironment_settles`: the settings of all layers, and what is told of their values. -/

set_option autoImplicit false

namespace SpannerDdl

variable {α : Type}

/-! ## Values in a file -/

namespace Yaml.Document

/-- The pairs of a section among pairs: none if it is missing or not a map. -/
def partIn (d : Document) (pairs : List (Scalar × Value)) (name : String) :
    List (Scalar × Value) :=
  ((lookup pairs name).bind d.pairs?).getD []

/-- The pairs of a section of a file. -/
def part (d : Document) (name : String) : List (Scalar × Value) :=
  d.partIn ((d.pairs? d.root).getD []) name

theorem part_of_map (d : Document) {pairs : List (Scalar × Value)}
    (isMap : d.pairs? d.root = some pairs) (name : String) :
    d.part name = d.partIn pairs name := by
  rw [part, isMap, Option.getD_some]

theorem part_of_none (d : Document) (isNone : d.pairs? d.root = none) (name : String) :
    d.part name = [] := by
  rw [part, isNone]
  rfl

/-- The value under a key of a section of a file. -/
def setting? (d : Document) (name key : String) : Option Tree :=
  (lookup (d.part name) key).map d.tree

end Yaml.Document

/-- The document of a content; it is empty if the content has none. -/
def Yaml.Document.ofContent (content : List UInt8) : Yaml.Document :=
  (Yaml.Document.ofBytes content).toOption.getD ⟨.scalar .null, #[]⟩

/-- The document in a file; it is empty if there is no file. -/
def Workspace.document (w : Workspace) (path : Option String) : Yaml.Document :=
  match w.entry (Pathname.ofText (path.getD Settings.defaultPath)).text with
  | .file content => .ofContent content
  | .device content => .ofContent content
  | _ => ⟨.scalar .null, #[]⟩

/-- The file that an environment names. An empty name counts as none. -/
def Environment.file? (env : Environment) : Option String := env.configPath.filter (· != "")

/-! ## One setting in all layers -/

/-- What a setting is, by the values that the layers have for it from the uppermost down: the first
value that stands for a setting counts, and below all layers there is a built-in one. -/
inductive Settles (accepts : Yaml.Tree → α → Prop) (builtin : α) :
    List (Option Yaml.Tree) → α → Prop
  | builtin : Settles accepts builtin [] builtin
  | absent {values : List (Option Yaml.Tree)} {x : α} (below : Settles accepts builtin values x) :
    Settles accepts builtin (none :: values) x
  | taken {v : Yaml.Tree} {values : List (Option Yaml.Tree)} {x : α} (accepted : accepts v x) :
    Settles accepts builtin (some v :: values) x
  | refused {v : Yaml.Tree} {values : List (Option Yaml.Tree)} {x : α}
    (useless : ∀ y, ¬ accepts v y) (below : Settles accepts builtin values x) :
    Settles accepts builtin (some v :: values) x

theorem Settles.unique {accepts : Yaml.Tree → α → Prop} {builtin : α}
    (functional : ∀ v x y, accepts v x → accepts v y → x = y)
    {values : List (Option Yaml.Tree)} {x y : α} (hx : Settles accepts builtin values x)
    (hy : Settles accepts builtin values y) : x = y := by
  induction hx with
  | builtin =>
    cases hy
    rfl
  | absent _ ih =>
    cases hy with
    | absent below => exact ih below
  | taken accepted =>
    cases hy with
    | taken accepted' => exact functional _ _ _ accepted accepted'
    | refused useless _ => exact absurd accepted (useless _)
  | refused useless _ ih =>
    cases hy with
    | taken accepted => exact absurd accepted (useless _)
    | refused _ below => exact ih below

theorem Covers.settles {accepts : Yaml.Tree → α → Prop} {kind : SettingKind} {place : String}
    {builtin below x : α} {v? : Option Yaml.Tree} {values : List (Option Yaml.Tree)}
    {told : List SettingWarning} (covers : Covers accepts kind place below v? x told)
    (settles : Settles accepts builtin values below) :
    Settles accepts builtin (v? :: values) x := by
  cases covers with
  | absent => exact .absent settles
  | taken accepted => exact .taken accepted
  | refused useless _ => exact .refused useless settles

/-! ## What is told -/

/-- A place where a value for a setting of a kind may stand. -/
structure Slot where
  kind : SettingKind
  place : String
  value? : Option Yaml.Tree

/-- One warning for every value that is of no use, in the order of their places. -/
inductive Complains : List Slot → List SettingWarning → Prop
  | nil : Complains [] []
  | silent {slot : Slot} {slots : List Slot} {told : List SettingWarning}
    (useful : ∀ v, slot.value? = some v → slot.kind.Accepts v) (rest : Complains slots told) :
    Complains (slot :: slots) told
  | warned {slot : Slot} {slots : List Slot} {told : List SettingWarning} {v : Yaml.Tree}
    {text : Text.CodePoints} {kept : String} (present : slot.value? = some v)
    (useless : ¬ slot.kind.Accepts v) (shown : v.plain = .ok text)
    (rest : Complains slots told) :
    Complains (slot :: slots) (.unusable slot.kind slot.place text kept :: told)

theorem Complains.append {slots slots' : List Slot} {told told' : List SettingWarning}
    (h : Complains slots told) (h' : Complains slots' told') :
    Complains (slots ++ slots') (told ++ told') := by
  induction h with
  | nil => exact h'
  | silent useful _ ih => exact .silent useful ih
  | warned present useless shown _ ih => exact .warned present useless shown ih

theorem Covers.complains {accepts : Yaml.Tree → α → Prop} {kind : SettingKind} {place : String}
    {below x : α} {v? : Option Yaml.Tree} {told : List SettingWarning}
    (h : Covers accepts kind place below v? x told)
    (accepts_iff : ∀ v, kind.Accepts v ↔ ∃ y, accepts v y) :
    Complains [⟨kind, place, v?⟩] told := by
  cases h with
  | absent => exact .silent (by rintro v ⟨⟩) .nil
  | taken accepted =>
    refine .silent ?_ .nil
    rintro v ⟨⟩
    exact (accepts_iff _).2 ⟨x, accepted⟩
  | refused useless shown =>
    exact .warned rfl (fun h => (accepts_iff _).1 h |>.elim useless) shown .nil

/-- Whether a warning is about a value. -/
def SettingWarning.isOfValue : SettingWarning → Bool
  | .unusable _ _ _ _ => true
  | _ => false

/-- The warnings about values. -/
def valueWarnings (told : List SettingWarning) : List SettingWarning :=
  told.filter SettingWarning.isOfValue

theorem valueWarnings_append (told told' : List SettingWarning) :
    valueWarnings (told ++ told') = valueWarnings told ++ valueWarnings told' :=
  List.filter_append ..

theorem valueWarnings_eq_nil {told : List SettingWarning}
    (h : ∀ w ∈ told, w.isOfValue = false) : valueWarnings told = [] :=
  List.filter_eq_nil_iff.2 fun w hw => by simp [h w hw]

theorem Covers.valueWarnings_eq {accepts : Yaml.Tree → α → Prop} {kind : SettingKind}
    {place : String} {below x : α} {v? : Option Yaml.Tree} {told : List SettingWarning}
    (h : Covers accepts kind place below v? x told) : valueWarnings told = told := by
  cases h <;> rfl

/-! ## One layer -/

/-- A layer: where a value for a setting of each kind stands in it, and the value, if any. -/
structure Layer where
  place : SettingKind → String
  value? : SettingKind → Option Yaml.Tree

namespace Layer

/-- The layer of a decoded file. -/
def ofDocument (d : Yaml.Document) : Layer where
  place
    | .level => "logging.level"
    | .pretty => "output.pretty"
    | .indent => "output.indent"
    | .format => "diagram.format"
  value?
    | .level => d.setting? "logging" "level"
    | .pretty => d.setting? "output" "pretty"
    | .indent => d.setting? "output" "indent"
    | .format => d.setting? "diagram" "format"

/-- The layer of an environment. -/
def ofEnvironment (env : Environment) : Layer where
  place
    | .level => "SPANNERSPY_LOG_LEVEL"
    | .pretty => "SPANNERSPY_PRETTY"
    | .indent => "SPANNERSPY_INDENT"
    | .format => "SPANNERSPY_FORMAT"
  value? kind :=
    Option.map Settings.given <| match kind with
      | .level => env.level
      | .pretty => env.pretty
      | .indent => env.indent
      | .format => env.format

/-- The places of a layer. -/
def slots (l : Layer) : List Slot :=
  [.level, .pretty, .indent, .format].map fun kind => ⟨kind, l.place kind, l.value? kind⟩

/-- What a layer makes of the settings below it, and what is told of its values. -/
inductive Covers (l : Layer) (below : Settings) : Settings → List SettingWarning → Prop
  | intro {level : Severity} {pretty : Bool} {indent : Nat} {format : DiagramFormat}
    {t₁ t₂ t₃ t₄ : List SettingWarning}
    (levels : SpannerDdl.Covers NamesLevel .level (l.place .level) below.level
      (l.value? .level) level t₁)
    (pretties : SpannerDdl.Covers Tells .pretty (l.place .pretty) below.pretty
      (l.value? .pretty) pretty t₂)
    (indents : SpannerDdl.Covers IsIndent .indent (l.place .indent) below.indent
      (l.value? .indent) indent t₃)
    (formats : SpannerDdl.Covers NamesFormat .format (l.place .format) below.format
      (l.value? .format) format t₄) :
    Covers l below { level, pretty, indent, format } (t₁ ++ (t₂ ++ (t₃ ++ t₄)))

theorem Covers.complains {l : Layer} {below s : Settings} {told : List SettingWarning}
    (h : l.Covers below s told) : Complains l.slots told := by
  obtain ⟨levels, pretties, indents, formats⟩ := h
  have levels' := levels.complains fun _ => .rfl
  have pretties' := pretties.complains fun _ => .rfl
  have indents' := indents.complains fun _ => .rfl
  have formats' := formats.complains fun _ => .rfl
  exact levels'.append (pretties'.append (indents'.append formats'))

theorem Covers.valueWarnings_eq {l : Layer} {below s : Settings} {told : List SettingWarning}
    (h : l.Covers below s told) : valueWarnings told = told := by
  obtain ⟨levels, pretties, indents, formats⟩ := h
  simp only [valueWarnings_append, levels.valueWarnings_eq, pretties.valueWarnings_eq,
    indents.valueWarnings_eq, formats.valueWarnings_eq]

end Layer

/-- Every setting is what the layers, from the uppermost down, and the built-in value make it. -/
structure Settings.IsSettled (layers : List Layer) (s : Settings) : Prop where
  level (x : Severity) :
    Settles NamesLevel .warning (layers.map (·.value? .level)) x ↔ x = s.level
  pretty (x : Bool) : Settles Tells false (layers.map (·.value? .pretty)) x ↔ x = s.pretty
  indent (x : Nat) : Settles IsIndent 2 (layers.map (·.value? .indent)) x ↔ x = s.indent
  format (x : DiagramFormat) :
    Settles NamesFormat .mermaid (layers.map (·.value? .format)) x ↔ x = s.format

namespace Settings

theorem settles_iff {accepts : Yaml.Tree → α → Prop} {builtin x y : α} {s : Setting α}
    {values : List (Option Yaml.Tree)}
    (reads : ∀ {v x}, s.read v = .ok (some x) ↔ accepts v x)
    (settles : Settles accepts builtin values y) : Settles accepts builtin values x ↔ x = y := by
  have functional : ∀ v x y, accepts v x → accepts v y → x = y := by
    intro v x y hx hy
    have same := (reads.2 hx).symm.trans (reads.2 hy)
    exact Option.some.inj (Except.ok.inj same)
  constructor
  · exact fun h => h.unique functional settles
  · rintro rfl
    exact settles

theorem isSettled_builtin : IsSettled [] {} where
  level _ := settles_iff Setting.read_level_iff .builtin
  pretty _ := settles_iff Setting.read_pretty_iff .builtin
  indent _ := settles_iff Setting.read_indent_iff .builtin
  format _ := settles_iff Setting.read_format_iff .builtin

/-- One more layer on top. -/
theorem IsSettled.cover {l : Layer} {layers : List Layer} {below s : Settings}
    {told : List SettingWarning} (settled : IsSettled layers below) (h : l.Covers below s told) :
    IsSettled (l :: layers) s := by
  obtain ⟨levels, pretties, indents, formats⟩ := h
  exact
    { level := fun _ => settles_iff Setting.read_level_iff
        (levels.settles ((settled.level _).2 rfl))
      pretty := fun _ => settles_iff Setting.read_pretty_iff
        (pretties.settles ((settled.pretty _).2 rfl))
      indent := fun _ => settles_iff Setting.read_indent_iff
        (indents.settles ((settled.indent _).2 rfl))
      format := fun _ => settles_iff Setting.read_format_iff
        (formats.settles ((settled.format _).2 rfl)) }

/-! ## The environment -/

theorem covers_override {below s : Settings} {env : Environment}
    (h : (below.override env).result = .ok s) :
    (Layer.ofEnvironment env).Covers below s (below.override env).notes := by
  rw [override] at h ⊢
  obtain ⟨level, level_eq, h⟩ := Traced.result_bind_eq_ok_iff.1 h
  obtain ⟨pretty, pretty_eq, h⟩ := Traced.result_bind_eq_ok_iff.1 h
  obtain ⟨indent, indent_eq, h⟩ := Traced.result_bind_eq_ok_iff.1 h
  obtain ⟨format, format_eq, h⟩ := Traced.result_bind_eq_ok_iff.1 h
  cases h
  rw [Traced.notes_bind_of_ok _ level_eq, Traced.notes_bind_of_ok _ pretty_eq,
    Traced.notes_bind_of_ok _ indent_eq, Traced.notes_bind_of_ok _ format_eq,
    Traced.notes_pure, List.append_nil]
  exact .intro (Setting.covers_choose Setting.read_level_iff level_eq)
    (Setting.covers_choose Setting.read_pretty_iff pretty_eq)
    (Setting.covers_choose Setting.read_indent_iff indent_eq)
    (Setting.covers_choose Setting.read_format_iff format_eq)

/-! ## Files -/

theorem isOfValue_of_mem_noteUnknown (section? : Option String) (known : List String)
    (pairs : List (Yaml.Scalar × Yaml.Value)) :
    ∀ w ∈ (noteUnknown section? known pairs).notes, w.isOfValue = false := by
  rw [noteUnknown]
  induction (pairs.map Prod.fst).filter (!isKnown known ·) with
  | nil =>
    intro w hw
    cases hw
  | cons key keys ih =>
    rw [List.forM]
    refine Traced.forall_notes_bind (Traced.forall_notes_bind ?_ ?_) fun _ => ih
    · intro w hw
      cases hw
    · intro text w hw
      rw [List.mem_singleton.1 hw]
      rfl

theorem result_partOf (d : Yaml.Document) (pairs : List (Yaml.Scalar × Yaml.Value))
    (name : String) :
    (partOf d pairs name).result =
      (noteUnknown (some name) ((sections.lookup name).getD []) (d.partIn pairs name)).result.map
        fun _ => d.partIn pairs name := by
  rw [partOf, Yaml.Document.partIn]
  split
  · next missing =>
    rw [missing]
    rfl
  · next null =>
    rw [null]
    rfl
  · next v isNot found =>
    rw [found, Option.bind_some]
    split
    · next part isPart =>
      rw [isPart, Traced.result_bind]
      rfl
    · next isNone =>
      rw [isNone]
      rfl

theorem part_eq_of_partOf {d : Yaml.Document} {pairs part : List (Yaml.Scalar × Yaml.Value)}
    {name : String} (isMap : d.pairs? d.root = some pairs)
    (h : (partOf d pairs name).result = .ok part) : d.part name = part := by
  rw [result_partOf] at h
  obtain ⟨_, _, part_eq⟩ := map_eq_ok_iff.1 h
  rw [← part_eq, d.part_of_map isMap]

theorem isOfValue_of_mem_partOf (d : Yaml.Document) (pairs : List (Yaml.Scalar × Yaml.Value))
    (name : String) : ∀ w ∈ (partOf d pairs name).notes, w.isOfValue = false := by
  rw [partOf]
  split
  · simp [Traced.done]
  · simp [Traced.done]
  · split
    · refine Traced.forall_notes_bind (isOfValue_of_mem_noteUnknown _ _ _) fun _ => ?_
      simp
    · simp [SettingWarning.isOfValue]

/-- A file that is no map is a layer without values. -/
theorem value?_of_none {d : Yaml.Document} (h : d.pairs? d.root = none) (kind : SettingKind) :
    (Layer.ofDocument d).value? kind = none := by
  have absent : ∀ name key, d.setting? name key = none := by
    intro name key
    rw [Yaml.Document.setting?, d.part_of_none h]
    rfl
  cases kind <;> exact absent _ _

theorem covers_ofDocument_of_none {d : Yaml.Document} (h : d.pairs? d.root = none) :
    (Layer.ofDocument d).Covers {} {} [] := by
  have covers := @Layer.Covers.intro (Layer.ofDocument d) {}
  simp only [value?_of_none h] at covers
  exact covers .absent .absent .absent .absent

theorem covers_ofDocument {d : Yaml.Document} {s : Settings} (h : (ofDocument d).result = .ok s) :
    (Layer.ofDocument d).Covers {} s (valueWarnings (ofDocument d).notes) := by
  rw [ofDocument] at h ⊢
  split at h
  · next isNone =>
    cases h
    exact covers_ofDocument_of_none isNone
  · next pairs isMap =>
    have silent := fun name => valueWarnings_eq_nil (isOfValue_of_mem_partOf d pairs name)
    obtain ⟨_, unknown, h⟩ := Traced.result_bind_eq_ok_iff.1 h
    obtain ⟨logging, logging_eq, h⟩ := Traced.result_bind_eq_ok_iff.1 h
    obtain ⟨level, level_eq, h⟩ := Traced.result_bind_eq_ok_iff.1 h
    obtain ⟨output, output_eq, h⟩ := Traced.result_bind_eq_ok_iff.1 h
    obtain ⟨pretty, pretty_eq, h⟩ := Traced.result_bind_eq_ok_iff.1 h
    obtain ⟨indent, indent_eq, h⟩ := Traced.result_bind_eq_ok_iff.1 h
    obtain ⟨diagram, diagram_eq, h⟩ := Traced.result_bind_eq_ok_iff.1 h
    obtain ⟨format, format_eq, h⟩ := Traced.result_bind_eq_ok_iff.1 h
    cases h
    obtain rfl := part_eq_of_partOf isMap logging_eq
    obtain rfl := part_eq_of_partOf isMap output_eq
    obtain rfl := part_eq_of_partOf isMap diagram_eq
    have levels := Setting.covers_choose Setting.read_level_iff level_eq
    have pretties := Setting.covers_choose Setting.read_pretty_iff pretty_eq
    have indents := Setting.covers_choose Setting.read_indent_iff indent_eq
    have formats := Setting.covers_choose Setting.read_format_iff format_eq
    rw [Traced.notes_bind_of_ok _ unknown, Traced.notes_bind_of_ok _ logging_eq,
      Traced.notes_bind_of_ok _ level_eq, Traced.notes_bind_of_ok _ output_eq,
      Traced.notes_bind_of_ok _ pretty_eq, Traced.notes_bind_of_ok _ indent_eq,
      Traced.notes_bind_of_ok _ diagram_eq, Traced.notes_bind_of_ok _ format_eq,
      Traced.notes_pure, List.append_nil]
    simp only [valueWarnings_append, valueWarnings_eq_nil (isOfValue_of_mem_noteUnknown _ _ _),
      silent, List.nil_append, levels.valueWarnings_eq, pretties.valueWarnings_eq,
      indents.valueWarnings_eq, formats.valueWarnings_eq]
    exact .intro levels pretties indents formats

theorem covers_ofContent {path : String} {content : List UInt8} {s : Settings}
    (h : (ofContent path content).result = .ok s) :
    (Layer.ofDocument (.ofContent content)).Covers {} s
      (valueWarnings (ofContent path content).notes) := by
  unfold Yaml.Document.ofContent
  unfold ofContent at h ⊢
  cases read : Yaml.Document.ofBytes content with
  | ok d =>
    rw [read] at h
    exact covers_ofDocument h
  | error f =>
    rw [read] at h
    cases f <;> cases h
    exact covers_ofDocument_of_none rfl

theorem covers_ofFile {w : Workspace} {path : Option String} {s : Settings}
    (h : (ofFile w path).result = .ok s) :
    (Layer.ofDocument (w.document path)).Covers {} s (valueWarnings (ofFile w path).notes) := by
  unfold ofFile at h ⊢
  unfold Workspace.document
  generalize (Pathname.ofText (path.getD defaultPath)).text = place at h ⊢
  dsimp only at h ⊢
  generalize w.entry place = entry at h ⊢
  cases entry with
  | file content =>
    exact covers_ofContent h
  | device content =>
    exact covers_ofContent h
  | noPlace fault =>
    cases fault <;> cases h
    exact covers_ofDocument_of_none rfl
  | _ =>
    cases h
    exact covers_ofDocument_of_none rfl

/-! ## All layers -/

/-- Each setting is that of the uppermost layer with a value that stands for one, and each value
that stands for none is told once. An indentation is a natural number. -/
theorem ofEnvironment_settles (w : Workspace) (env : Environment) {s : Settings}
    (h : (ofEnvironment w env).result = .ok s) :
    let layers := [Layer.ofEnvironment env, Layer.ofDocument (w.document env.file?)]
    s.IsSettled layers ∧
      s.level.name ∈ ["DEBUG", "INFO", "WARNING", "ERROR", "CRITICAL"] ∧
      s.format.name ∈ ["mermaid", "mmd", "json"] ∧ 0 ≤ (s.indent : Int) ∧
      Complains (layers.reverse.flatMap Layer.slots)
        (valueWarnings (ofEnvironment w env).notes) := by
  intro layers
  obtain ⟨below, below_eq, h⟩ := Traced.result_bind_eq_ok_iff.1 h
  have file := covers_ofFile below_eq
  have covered := covers_override h
  have told : valueWarnings (ofEnvironment w env).notes =
      valueWarnings (ofFile w env.file?).notes ++ (below.override env).notes := by
    have notes_eq : (ofEnvironment w env).notes =
        (ofFile w env.file?).notes ++ (below.override env).notes :=
      Traced.notes_bind_of_ok _ below_eq
    rw [notes_eq, valueWarnings_append, covered.valueWarnings_eq]
  refine ⟨(isSettled_builtin.cover file).cover covered, ?_, ?_, Int.natCast_nonneg _, ?_⟩
  · cases s.level <;> decide
  · cases s.format <;> decide
  · rw [told]
    exact file.complains.append covered.complains

theorem ofText_letter : Pathname.ofText "a" = ⟨"", ["a"]⟩ := by
  rw [Pathname.ofText, Pathname.pieces_letter (.inl rfl)]
  decide +kernel

/-- What is at the top under a name of one letter. -/
theorem entry_letter {w : Workspace} (atTop : w.cwd.parts = []) (top : w.find [] = .directory) :
    w.entry (Pathname.ofText "a").text = w.find ["a"] := by
  have text_eq : (⟨"", ["a"]⟩ : Pathname).text = "a" := by decide +kernel
  rw [ofText_letter, text_eq, Workspace.entry, Pathname.pieces_letter (.inl rfl), atTop]
  simp only [List.reverse_nil, Workspace.follow, top]
  rfl

/-- The content of a file under a name of one letter. -/
theorem entry_ofFiles_alone (content : List UInt8) :
    (Workspace.ofFiles ⟨"/", []⟩ [("a", content)]).entry (Pathname.ofText "a").text =
      .file content := by
  have found : (Workspace.ofFiles ⟨"/", []⟩ [("a", content)]).find =
      Workspace.entryOfFiles [] [(["a"], content)] := by
    rw [Workspace.ofFiles, List.map_singleton, ofText_letter]
    rfl
  rw [entry_letter rfl (by rw [found]; rfl), found]
  rfl

/-- A file that gives settings, some of them of no use. -/
def mixedFile : String :=
  "logging:\n  level: debug\noutput:\n  pretty: maybe\n  indent: 4.7\n  width: 3\ndiagram: [mmd]\n"

/-- A working directory with that file. -/
def mixedWorkspace : Workspace := .ofFiles ⟨"/", []⟩ [("a", mixedFile.toUTF8.data.toList)]

/-- An environment with a severity and a format of no use and an indentation of use. -/
def mixedEnvironment : Environment :=
  { configPath := some "a", level := some "LOUD", indent := some " 7 ", format := some "dot" }

/-- The severity comes from the file, the indentation from the environment, and the rest is built
in. -/
theorem ofEnvironment_settles_mixed :
    (ofEnvironment mixedWorkspace mixedEnvironment).result =
      .ok { level := .debug, indent := 7 } ∧
    let layers := [Layer.ofEnvironment mixedEnvironment,
      Layer.ofDocument (mixedWorkspace.document mixedEnvironment.file?)]
    let s : Settings := { level := .debug, indent := 7 }
    s.IsSettled layers ∧
      s.level.name ∈ ["DEBUG", "INFO", "WARNING", "ERROR", "CRITICAL"] ∧
      s.format.name ∈ ["mermaid", "mmd", "json"] ∧ 0 ≤ (s.indent : Int) ∧
      Complains (layers.reverse.flatMap Layer.slots)
        (valueWarnings (ofEnvironment mixedWorkspace mixedEnvironment).notes) := by
  have file : (ofFile mixedWorkspace (some "a")).result = .ok { level := .debug, indent := 4 } := by
    rw [ofFile, Option.getD_some, mixedWorkspace, entry_ofFiles_alone, ← toOption_eq_some_iff]
    decide +kernel
  have covered : (override { level := .debug, indent := 4 } mixedEnvironment).result =
      .ok { level := .debug, indent := 7 } := by
    rw [← toOption_eq_some_iff]
    decide +kernel
  have all : (ofEnvironment mixedWorkspace mixedEnvironment).result =
      .ok { level := .debug, indent := 7 } :=
    Traced.result_bind_eq_ok_iff.2 ⟨_, file, covered⟩
  exact ⟨all, ofEnvironment_settles _ _ all⟩

end Settings

end SpannerDdl
