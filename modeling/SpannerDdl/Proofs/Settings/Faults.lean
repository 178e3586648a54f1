import SpannerDdl.Proofs.Settings.Layers
import SpannerDdl.Proofs.Yaml.Showing

/-! # Settings that cannot be read

A value of no use costs nothing but a warning, with two exceptions: an endless indentation stops the
reading, and so does a warning that would have to show an integer of too many digits.

* `SettingFault.IsOfValue e`: the two faults.
* `SettingKind.IsHarmless kept kind v`, `Layer.IsHarmless kept l`: values that stop nothing.
* `Yaml.Document.IsUnknownKey d key`: keys that mean nothing.
* `Settings.returnsIf_ofDocument`, `Settings.returnsIf_override`: when a layer is read to its end.
* `Settings.ofEnvironment_returns_iff`: when settings are read to the end. -/

set_option autoImplicit false

namespace SpannerDdl

variable {α : Type}

/-- The faults of values: an endless indentation, and an integer that is too large to be shown. -/
def SettingFault.IsOfValue (e : SettingFault) : Prop :=
  e = .endlessIndent ∨ e = .yaml .tooLargeToShow

/-! ## Values that stop nothing -/

/-- An endless number. -/
def IsEndless (v : Yaml.Tree) : Prop :=
  ∃ x negative, v = .scalar (.float x) ∧ Decimal.Binary.ofFloat x = .infinite negative

/-- A value that stops nothing as a setting of a kind, where the indentation would stay as it was.
Words have to be shown even to be read. -/
def SettingKind.IsHarmless (kept : Nat) : SettingKind → Yaml.Tree → Prop
  | .indent, v => ¬ IsEndless v ∧ ((∀ n, ¬ IsIndent v n) → v.IsShowable ∧ Yaml.IsShort kept)
  | _, v => v.IsShowable

/-- A layer whose values stop nothing. -/
def Layer.IsHarmless (kept : Nat) (l : Layer) : Prop :=
  ∀ kind v, l.value? kind = some v → kind.IsHarmless kept v

/-- Texts in an environment can be shown. They stop nothing but where an indentation of no use
would leave one of too many digits. -/
theorem Layer.isHarmless_ofEnvironment_iff {kept : Nat} {env : Environment} :
    (Layer.ofEnvironment env).IsHarmless kept ↔
      ∀ text, env.indent = some text → (∀ n, ¬ IsIndent (Settings.given text) n) →
        Yaml.IsShort kept := by
  have isShowable : ∀ text, (Settings.given text).IsShowable := fun text =>
    Yaml.Tree.isShowable_scalar.2 (by rintro n ⟨⟩)
  constructor
  · intro harmless text given useless
    have indent : (Layer.ofEnvironment env).value? .indent = some (Settings.given text) := by
      simp [ofEnvironment, given]
    exact ((harmless .indent _ indent).2 useless).2
  · intro short kind v present
    obtain ⟨text, given, rfl⟩ := Option.map_eq_some_iff.1 present
    cases kind with
    | indent =>
      refine ⟨?_, fun useless => ⟨isShowable text, short text given useless⟩⟩
      rintro ⟨x, negative, ⟨⟩, _⟩
    | _ => exact isShowable text

/-! ## Single settings -/

namespace Setting

theorem returnsIf_plain (v : Yaml.Tree) :
    ReturnsIf SettingFault.IsOfValue v.IsShowable (plain v) :=
  v.returnsIf_plain.mapError fun _ he => .inr (congrArg SettingFault.yaml he)

theorem returnsIf_word? (v : Yaml.Tree) :
    ReturnsIf SettingFault.IsOfValue v.IsShowable (word? v) :=
  (returnsIf_plain v).map _

theorem returnsIf_read_pretty (v : Yaml.Tree) :
    ReturnsIf SettingFault.IsOfValue v.IsShowable (pretty.read v) := by
  simp only [pretty]
  split
  · exact .ok (by rintro n ⟨⟩) _
  · exact (returnsIf_word? v).map _

theorem returnsIf_read_indent (v : Yaml.Tree) :
    ReturnsIf SettingFault.IsOfValue (¬ IsEndless v) (indent.read v) := by
  have returnsIf_integer : ReturnsIf SettingFault.IsOfValue (¬ IsEndless v) (integer v) := by
    unfold integer
    split
    · exact .ok (by rintro ⟨x, negative, ⟨⟩, _⟩) _
    · exact .ok (by rintro ⟨x, negative, ⟨⟩, _⟩) _
    · exact .ok (by rintro ⟨x, negative, ⟨⟩, _⟩) _
    · next x =>
      split
      · next negative infinite => exact .error (fun h => h ⟨x, negative, rfl, infinite⟩) (.inl rfl)
      · next finite =>
        refine .ok ?_ _
        rintro ⟨x', negative, ⟨⟩, infinite⟩
        exact finite _ infinite
    · next isNot =>
      refine .ok ?_ _
      rintro ⟨x, negative, rfl, _⟩
      exact isNot x rfl
  exact returnsIf_integer.map _

theorem returnsIf_text_indent (kept : Nat) :
    ReturnsIf SettingFault.IsOfValue (Yaml.IsShort kept) (indent.text kept) := by
  have isShowable_iff : (Yaml.Scalar.int kept).IsShowable ↔ Yaml.IsShort kept := by
    constructor
    · exact fun h => h kept rfl
    · rintro short n ⟨⟩
      exact short
  have shows := (Yaml.Scalar.int kept).returnsIf_literal.congr isShowable_iff
  simp only [indent]
  exact shows.mapError fun _ he => .inr (congrArg SettingFault.yaml he)

/-- A value for a setting is told or taken, once it is read. -/
theorem returnsIf_choose {s : Setting α} {accepts : Yaml.Tree → α → Prop} {legible shown : Prop}
    {v : Yaml.Tree} {kept : α} (reads : ∀ {v x}, s.read v = .ok (some x) ↔ accepts v x)
    (read : ReturnsIf SettingFault.IsOfValue legible (s.read v))
    (text : ReturnsIf SettingFault.IsOfValue shown (s.text kept)) (place : String) :
    ReturnsIf SettingFault.IsOfValue
      (legible ∧ ((∀ x, ¬ accepts v x) → v.IsShowable ∧ shown))
      (s.choose place (some v) kept).result := by
  rw [choose, Traced.result_bind, Traced.result_ofExcept]
  refine read.bind fun x? x?_eq => ?_
  cases x? with
  | some x => exact .ok (fun useless => absurd (reads.1 x?_eq) (useless x)) x
  | none =>
    have useless : ∀ x, ¬ accepts v x := fun x accepted => by
      rw [reads.2 accepted] at x?_eq
      cases x?_eq
    have refuse : ReturnsIf SettingFault.IsOfValue (v.IsShowable ∧ shown)
        (s.refuse place v kept).result := by
      rw [Setting.refuse, Traced.result_bind]
      refine (returnsIf_plain v).bind fun value _ => ?_
      rw [Traced.result_bind]
      exact (text.bind fun used _ => .ok trivial kept).congr (iff_of_eq (and_true _))
    exact refuse.congr ⟨fun h _ => h, fun h => h useless⟩

/-- The same where a value may be missing. -/
theorem returnsIf_choose_option {s : Setting α} {place : String} {kept : α}
    {p : Yaml.Tree → Prop}
    (h : ∀ v, ReturnsIf SettingFault.IsOfValue (p v) (s.choose place (some v) kept).result)
    (v? : Option Yaml.Tree) :
    ReturnsIf SettingFault.IsOfValue (∀ v, v? = some v → p v) (s.choose place v? kept).result := by
  cases v? with
  | none => exact .ok (by simp) kept
  | some v => exact (h v).congr (by simp)

/-- Words are read only if they can be shown. -/
theorem returnsIf_choose_word {s : Setting α} {accepts : Yaml.Tree → α → Prop} {kept : α}
    (reads : ∀ {v x}, s.read v = .ok (some x) ↔ accepts v x)
    (read : ∀ v, ReturnsIf SettingFault.IsOfValue v.IsShowable (s.read v))
    (text : ReturnsIf SettingFault.IsOfValue True (s.text kept)) (place : String)
    (v? : Option Yaml.Tree) :
    ReturnsIf SettingFault.IsOfValue (∀ v, v? = some v → v.IsShowable)
      (s.choose place v? kept).result := by
  refine returnsIf_choose_option (fun v => ?_) v?
  exact (returnsIf_choose reads (read v) text place).congr
    ⟨fun h => h.1, fun h => ⟨h, fun _ => ⟨h, trivial⟩⟩⟩

theorem returnsIf_choose_level (place : String) (v? : Option Yaml.Tree) (kept : Severity) :
    ReturnsIf SettingFault.IsOfValue (∀ v, v? = some v → v.IsShowable)
      (level.choose place v? kept).result :=
  returnsIf_choose_word read_level_iff (fun v => (returnsIf_word? v).map _) (.ok trivial _) place v?

theorem returnsIf_choose_pretty (place : String) (v? : Option Yaml.Tree) (kept : Bool) :
    ReturnsIf SettingFault.IsOfValue (∀ v, v? = some v → v.IsShowable)
      (pretty.choose place v? kept).result :=
  returnsIf_choose_word read_pretty_iff returnsIf_read_pretty (.ok trivial _) place v?

theorem returnsIf_choose_format (place : String) (v? : Option Yaml.Tree) (kept : DiagramFormat) :
    ReturnsIf SettingFault.IsOfValue (∀ v, v? = some v → v.IsShowable)
      (format.choose place v? kept).result :=
  returnsIf_choose_word read_format_iff (fun v => (returnsIf_word? v).map _) (.ok trivial _) place
    v?

theorem returnsIf_choose_indent (place : String) (v? : Option Yaml.Tree) (kept : Nat) :
    ReturnsIf SettingFault.IsOfValue
      (∀ v, v? = some v → SettingKind.indent.IsHarmless kept v)
      (indent.choose place v? kept).result :=
  returnsIf_choose_option (fun v => returnsIf_choose read_indent_iff (returnsIf_read_indent v)
    (returnsIf_text_indent kept) place) v?

end Setting

/-! ## Layers -/

theorem Layer.isHarmless_iff {kept : Nat} {l : Layer} :
    l.IsHarmless kept ↔
      (∀ v, l.value? .level = some v → v.IsShowable) ∧
      (∀ v, l.value? .pretty = some v → v.IsShowable) ∧
      (∀ v, l.value? .indent = some v → SettingKind.indent.IsHarmless kept v) ∧
      ∀ v, l.value? .format = some v → v.IsShowable := by
  constructor
  · exact fun h => ⟨h .level, h .pretty, h .indent, h .format⟩
  · rintro ⟨level, pretty, indent, format⟩ kind
    cases kind with
    | level => exact level
    | pretty => exact pretty
    | indent => exact indent
    | format => exact format

namespace Settings

theorem returnsIf_override (below : Settings) (env : Environment) :
    ReturnsIf SettingFault.IsOfValue ((Layer.ofEnvironment env).IsHarmless below.indent)
      (below.override env).result := by
  simp only [override, Traced.result_bind]
  refine ((Setting.returnsIf_choose_level _ _ _).bind fun level _ =>
    (Setting.returnsIf_choose_pretty _ _ _).bind fun pretty _ =>
    (Setting.returnsIf_choose_indent _ _ _).bind fun indent _ =>
    (Setting.returnsIf_choose_format _ _ _).bind fun format _ =>
    .ok trivial _).congr ?_
  rw [Layer.isHarmless_iff, and_true]
  rfl

/-- Keys that mean nothing are told, and so they have to be shown. -/
theorem returnsIf_noteUnknown (section? : Option String) (known : List String)
    (pairs : List (Yaml.Scalar × Yaml.Value)) :
    ReturnsIf SettingFault.IsOfValue
      (∀ key ∈ (pairs.map Prod.fst).filter (!isKnown known ·), key.IsShowable)
      (noteUnknown section? known pairs).result := by
  rw [noteUnknown]
  induction (pairs.map Prod.fst).filter (!isKnown known ·) with
  | nil => exact .ok (by simp) ()
  | cons key keys ih =>
    rw [List.forM, Traced.result_bind]
    refine (ReturnsIf.bind ?_ fun _ _ => ih).congr List.forall_mem_cons.symm
    rw [Traced.result_bind]
    have text : ReturnsIf SettingFault.IsOfValue key.IsShowable
        (key.plain.mapError SettingFault.yaml) :=
      key.returnsIf_plain.mapError fun _ he => .inr (congrArg SettingFault.yaml he)
    exact (text.bind fun _ _ => .ok trivial ()).congr (iff_of_eq (and_true _))

end Settings

/-- A key that means nothing: in a file, or in one of its sections. -/
inductive Yaml.Document.IsUnknownKey (d : Yaml.Document) (key : Yaml.Scalar) : Prop
  | ofFile (mem : key ∈ ((d.pairs? d.root).getD []).map Prod.fst)
    (unknown : Settings.isKnown (Settings.sections.map Prod.fst) key = false)
  | ofPart {name : String} {known : List String} (isPart : (name, known) ∈ Settings.sections)
    (mem : key ∈ (d.part name).map Prod.fst) (unknown : Settings.isKnown known key = false)

/-- A file whose settings are read to the end: every key that means nothing can be shown, and no
value stops the reading. -/
structure Yaml.Document.IsHarmless (d : Yaml.Document) : Prop where
  keys : ∀ key, d.IsUnknownKey key → key.IsShowable
  values : (Layer.ofDocument d).IsHarmless 2

/-- In an environment no indentation of no use stands over one of too many digits. -/
def Environment.IsHarmlessOver (env : Environment) (d : Yaml.Document) : Prop :=
  ∀ text kept, env.indent = some text → (∀ n, ¬ IsIndent (Settings.given text) n) →
    Settles IsIndent 2 [d.setting? "output" "indent"] kept → Yaml.IsShort kept

namespace Settings

theorem forall_isUnknownKey_iff {d : Yaml.Document} {pairs : List (Yaml.Scalar × Yaml.Value)}
    {p : Yaml.Scalar → Prop} (isMap : d.pairs? d.root = some pairs) :
    (∀ key, d.IsUnknownKey key → p key) ↔
      (∀ key ∈ (pairs.map Prod.fst).filter (!isKnown (sections.map Prod.fst) ·), p key) ∧
      (∀ key ∈ ((d.part "logging").map Prod.fst).filter (!isKnown ["level"] ·), p key) ∧
      (∀ key ∈ ((d.part "output").map Prod.fst).filter (!isKnown ["pretty", "indent"] ·), p key) ∧
      ∀ key ∈ ((d.part "diagram").map Prod.fst).filter (!isKnown ["format"] ·), p key := by
  simp only [List.mem_filter, Bool.not_eq_true']
  constructor
  · intro h
    refine ⟨fun key mem => h key (.ofFile ?_ mem.2), fun key mem => h key (.ofPart ?_ mem.1 mem.2),
      fun key mem => h key (.ofPart ?_ mem.1 mem.2), fun key mem => h key (.ofPart ?_ mem.1 mem.2)⟩
    · rw [isMap]
      exact mem.1
    all_goals simp [sections]
  · rintro ⟨ofFile, logging, output, diagram⟩ key (⟨mem, unknown⟩ | ⟨isPart, mem, unknown⟩)
    · rw [isMap] at mem
      exact ofFile key ⟨mem, unknown⟩
    · simp only [sections, List.mem_cons, Prod.mk.injEq, List.not_mem_nil, or_false] at isPart
      obtain ⟨rfl, rfl⟩ | ⟨rfl, rfl⟩ | ⟨rfl, rfl⟩ := isPart
      · exact logging key ⟨mem, unknown⟩
      · exact output key ⟨mem, unknown⟩
      · exact diagram key ⟨mem, unknown⟩

theorem returnsIf_ofDocument (d : Yaml.Document) :
    ReturnsIf SettingFault.IsOfValue d.IsHarmless (ofDocument d).result := by
  rw [ofDocument]
  split
  · next isNone =>
    refine .ok ⟨?_, ?_⟩ _
    · rintro key (⟨mem, _⟩ | ⟨_, mem, _⟩)
      · simp [isNone] at mem
      · simp [d.part_of_none isNone] at mem
    · intro kind v present
      rw [value?_of_none isNone] at present
      cases present
  · next pairs isMap =>
    simp only [Traced.result_bind, result_partOf, bind_map, ← d.part_of_map isMap]
    refine ((returnsIf_noteUnknown _ _ _).bind fun _ _ =>
      (returnsIf_noteUnknown _ _ _).bind fun _ _ =>
      (Setting.returnsIf_choose_level _ _ _).bind fun _ _ =>
      (returnsIf_noteUnknown _ _ _).bind fun _ _ =>
      (Setting.returnsIf_choose_pretty _ _ _).bind fun _ _ =>
      (Setting.returnsIf_choose_indent _ _ _).bind fun _ _ =>
      (returnsIf_noteUnknown _ _ _).bind fun _ _ =>
      (Setting.returnsIf_choose_format _ _ _).bind fun _ _ =>
      .ok trivial _).congr ?_
    constructor
    · rintro ⟨keys, logging, level, output, pretty, indent, diagram, format, _⟩
      exact ⟨(forall_isUnknownKey_iff isMap).2 ⟨keys, logging, output, diagram⟩,
        Layer.isHarmless_iff.2 ⟨level, pretty, indent, format⟩⟩
    · rintro ⟨keysShown, values⟩
      obtain ⟨keys, logging, output, diagram⟩ := (forall_isUnknownKey_iff isMap).1 keysShown
      obtain ⟨level, pretty, indent, format⟩ := Layer.isHarmless_iff.1 values
      exact ⟨keys, logging, level, output, pretty, indent, diagram, format, trivial⟩

theorem result_ofFile {w : Workspace} {path : Option String} {content : List UInt8}
    {d : Yaml.Document} (found : w.entry (Pathname.ofText (path.getD defaultPath)).text =
      .file content) (read : Yaml.Document.ofBytes content = .ok d) :
    (ofFile w path).result = (ofDocument d).result := by
  unfold ofFile
  simp only [found]
  unfold ofContent
  rw [read]

/-! ## All layers -/

/-- Where a file has a document, its settings are read to the end exactly if that stops nothing, and
those of all layers exactly if the environment stops nothing either. Then every value of no use has
left its setting as it was below. -/
theorem ofEnvironment_returns_iff {w : Workspace} {env : Environment} {content : List UInt8}
    {d : Yaml.Document}
    (found : w.entry (Pathname.ofText (env.file?.getD defaultPath)).text = .file content)
    (read : Yaml.Document.ofBytes content = .ok d) :
    ((∃ s, (ofFile w env.file?).result = .ok s) ↔ d.IsHarmless) ∧
      ((∃ s, (ofEnvironment w env).result = .ok s) ↔ d.IsHarmless ∧ env.IsHarmlessOver d) ∧
      (∀ e, (ofFile w env.file?).result = .error e → e.IsOfValue) ∧
      (∀ e, (ofEnvironment w env).result = .error e → e.IsOfValue) ∧
      ∀ s, (ofEnvironment w env).result = .ok s →
        s.IsSettled [Layer.ofEnvironment env, Layer.ofDocument d] := by
  have file : ReturnsIf SettingFault.IsOfValue d.IsHarmless (ofFile w env.file?).result := by
    rw [result_ofFile found read]
    exact returnsIf_ofDocument d
  have settled : ∀ below, (ofFile w env.file?).result = .ok below →
      below.IsSettled [Layer.ofDocument d] := by
    intro below h
    rw [result_ofFile found read] at h
    exact isSettled_builtin.cover (covers_ofDocument h)
  have all : ReturnsIf SettingFault.IsOfValue (d.IsHarmless ∧ env.IsHarmlessOver d)
      (ofEnvironment w env).result := by
    rw [ofEnvironment, Traced.result_bind]
    refine file.bind fun below below_eq => (returnsIf_override below env).congr ?_
    have kept_iff := (settled below below_eq).indent
    rw [Layer.isHarmless_ofEnvironment_iff]
    constructor
    · intro short text kept given useless settles
      rw [(kept_iff kept).1 settles]
      exact short text given useless
    · exact fun short text given useless =>
        short text below.indent given useless ((kept_iff _).2 rfl)
  refine ⟨file.exists_iff, all.exists_iff, fun e h => file.isFault_of_error h,
    fun e h => all.isFault_of_error h, fun s h => ?_⟩
  obtain ⟨below, below_eq, rest⟩ := Traced.result_bind_eq_ok_iff.1 h
  exact (settled below below_eq).cover (covers_override rest)

/-- The file of settings in which some are of no use. -/
theorem ofEnvironment_returns_mixed : ∃ d : Yaml.Document,
    let w := mixedWorkspace
    let env := mixedEnvironment
    w.entry (Pathname.ofText (env.file?.getD defaultPath)).text =
      .file mixedFile.toUTF8.data.toList ∧
    Yaml.Document.ofBytes mixedFile.toUTF8.data.toList = .ok d ∧
    ((∃ s, (ofFile w env.file?).result = .ok s) ↔ d.IsHarmless) ∧
    ((∃ s, (ofEnvironment w env).result = .ok s) ↔ d.IsHarmless ∧ env.IsHarmlessOver d) ∧
    (∀ e, (ofFile w env.file?).result = .error e → e.IsOfValue) ∧
    (∀ e, (ofEnvironment w env).result = .error e → e.IsOfValue) ∧
    ∀ s, (ofEnvironment w env).result = .ok s →
      s.IsSettled [Layer.ofEnvironment env, Layer.ofDocument d] := by
  have decodes : (Yaml.Document.ofBytes mixedFile.toUTF8.data.toList).toOption.isSome = true := by
    decide +kernel
  obtain ⟨d, d_eq⟩ := Option.isSome_iff_exists.1 decodes
  have found := entry_ofFiles_alone mixedFile.toUTF8.data.toList
  have read := toOption_eq_some_iff.1 d_eq
  exact ⟨d, found, read, ofEnvironment_returns_iff found read⟩

/-- A file with an endless indentation. -/
def endlessFile : String := "output:\n  indent: .inf\n"

/-- It has a document, and yet its settings are not read to the end. -/
theorem ofFile_of_endless_indentation :
    let w : Workspace := .ofFiles ⟨"/", []⟩ [("a", endlessFile.toUTF8.data.toList)]
    (∃ d, Yaml.Document.ofBytes endlessFile.toUTF8.data.toList = .ok d) ∧
      (ofFile w (some "a")).result = .error .endlessIndent ∧
      (ofEnvironment w { configPath := some "a" }).result = .error .endlessIndent := by
  intro w
  have decodes : (Yaml.Document.ofBytes endlessFile.toUTF8.data.toList).toOption.isSome = true := by
    decide +kernel
  obtain ⟨d, d_eq⟩ := Option.isSome_iff_exists.1 decodes
  have stops : (ofFile w (some "a")).result = .error .endlessIndent := by
    rw [ofFile, Option.getD_some, entry_ofFiles_alone]
    decide +kernel
  refine ⟨⟨d, toOption_eq_some_iff.1 d_eq⟩, stops, ?_⟩
  have first : (({ configPath := some "a" } : Environment).configPath.filter (· != "")) =
      some "a" := rfl
  rw [ofEnvironment, first, Traced.result_bind, stops]
  rfl

end Settings

end SpannerDdl
