import SpannerDdl.Proofs.Except
import SpannerDdl.Settings.Basic

/-! # What values stand for

* `HasWord v word`, `StandsFor v n`: the word and the integer that a value is.
* `NamesLevel v severity`, `Tells v b`, `IsIndent v n`, `NamesFormat v format`: what a value stands
  for as a setting of each kind.
* `SettingKind.Accepts kind v`: a value stands for something.
* `Covers accepts kind place below v? x told`: what a value at a place makes of a setting, and what
  is told of it.
* `Setting.covers_choose`: a setting is chosen so. -/

set_option autoImplicit false

namespace SpannerDdl

open Text (CodePoints)

variable {α : Type}

/-! ## Words -/

/-- The word that a value is: its text without the blanks around it. -/
def HasWord (v : Yaml.Tree) (word : String) : Prop :=
  ∃ text, v.plain = .ok (.ofString text) ∧ Text.trim text = word

/-- A severity is named in any case. -/
def NamesLevel (v : Yaml.Tree) (severity : Severity) : Prop :=
  ∃ word, HasWord v word ∧ Text.upper word = severity.name

/-- A truth value stands for itself, and some words in any case stand for one. -/
inductive Tells : Yaml.Tree → Bool → Prop
  | self (b : Bool) : Tells (.scalar (.bool b)) b
  | yes {v : Yaml.Tree} {word : String} (hasWord : HasWord v word)
    (mem : word.toLower ∈ Setting.trueWords) : Tells v true
  | no {v : Yaml.Tree} {word : String} (hasWord : HasWord v word)
    (mem : word.toLower ∈ Setting.falseWords) : Tells v false

/-- A format is named in any case. -/
def NamesFormat (v : Yaml.Tree) (format : DiagramFormat) : Prop :=
  ∃ word, HasWord v word ∧ word.toLower = format.name

/-! ## Numbers -/

/-- The integer that a value stands for: it may be written in a text or in ASCII bytes, and a
floating-point number loses its fraction. A truth value stands for none. -/
inductive StandsFor : Yaml.Tree → Int → Prop
  | self (n : Int) : StandsFor (.scalar (.int n)) n
  | text {s : String} {n : Int} (reads : Text.integer? s = some n) :
    StandsFor (.scalar (.str (.ofString s))) n
  | bytes {bs : List UInt8} {n : Int} (ascii : ∀ b ∈ bs, b < 0x80)
    (reads : Text.integer? (String.ofList (bs.map fun b => Char.ofNat b.toNat)) = some n) :
    StandsFor (.scalar (.bytes bs)) n
  | float {x : Float} {n : Int} (reads : Decimal.truncate? x = some n) :
    StandsFor (.scalar (.float x)) n

/-- An indentation is an integer that is not negative. -/
def IsIndent (v : Yaml.Tree) (n : Nat) : Prop := StandsFor v n

/-- Something is what a value stands for as a setting of a kind. -/
def SettingKind.Accepts : SettingKind → Yaml.Tree → Prop
  | .level, v => ∃ severity, NamesLevel v severity
  | .pretty, v => ∃ b, Tells v b
  | .indent, v => ∃ n, IsIndent v n
  | .format, v => ∃ format, NamesFormat v format

/-! ## Reading -/

namespace Setting

theorem word?_eq_some_iff {v : Yaml.Tree} {word : String} :
    word? v = .ok (some word) ↔ HasWord v word := by
  constructor
  · intro h
    obtain ⟨text, plain_eq, h⟩ := map_eq_ok_iff.1 h
    obtain ⟨s, text_eq, trim_eq⟩ := Option.map_eq_some_iff.1 h
    rw [CodePoints.toString?_eq_some_iff] at text_eq
    exact ⟨s, text_eq ▸ mapError_eq_ok_iff.1 plain_eq, trim_eq⟩
  · rintro ⟨s, plain_eq, rfl⟩
    rw [word?, plain, plain_eq]
    simp [Except.mapError, Except.map]

/-- A setting that is read from a word. -/
theorem map_word?_eq_ok_iff {f : String → Option α} {v : Yaml.Tree} {a : α} :
    ((word? v).map fun word => word.bind f) = .ok (some a) ↔
      ∃ word, HasWord v word ∧ f word = some a := by
  rw [map_eq_ok_iff]
  constructor
  · rintro ⟨word, word_eq, h⟩
    obtain ⟨w, rfl, read_eq⟩ := Option.bind_eq_some_iff.1 h
    exact ⟨w, word?_eq_some_iff.1 word_eq, read_eq⟩
  · rintro ⟨w, hasWord, read_eq⟩
    exact ⟨some w, word?_eq_some_iff.2 hasWord, read_eq⟩


theorem read_level_iff {v : Yaml.Tree} {severity : Severity} :
    level.read v = .ok (some severity) ↔ NamesLevel v severity := by
  simp only [level, map_word?_eq_ok_iff, Severity.ofName?_eq_some_iff, NamesLevel]

theorem read_format_iff {v : Yaml.Tree} {f : DiagramFormat} :
    format.read v = .ok (some f) ↔ NamesFormat v f := by
  simp only [format, map_word?_eq_ok_iff, DiagramFormat.ofName?_eq_some_iff, NamesFormat]

/-- The words for yes and those for no have nothing in common. -/
theorem truth?_eq_some_iff {word : String} {b : Bool} :
    truth? word = some b ↔
      b = true ∧ word.toLower ∈ trueWords ∨ b = false ∧ word.toLower ∈ falseWords := by
  have apart : ∀ w ∈ trueWords, w ∉ falseWords := by decide
  rw [truth?]
  by_cases isTrue : word.toLower ∈ trueWords
  · rw [if_pos (List.contains_iff_mem.2 isTrue)]
    simp [isTrue, apart _ isTrue, eq_comm]
  · rw [if_neg (mt List.contains_iff_mem.1 isTrue)]
    by_cases isFalse : word.toLower ∈ falseWords
    · rw [if_pos (List.contains_iff_mem.2 isFalse)]
      simp [isTrue, isFalse, eq_comm]
    · rw [if_neg (mt List.contains_iff_mem.1 isFalse)]
      simp [isTrue, isFalse]

theorem tells_iff_of_word {v : Yaml.Tree} {b : Bool} (h : ∀ c, v ≠ .scalar (.bool c)) :
    Tells v b ↔ ∃ word, HasWord v word ∧ truth? word = some b := by
  constructor
  · intro tells
    cases tells with
    | self => exact absurd rfl (h b)
    | yes hasWord mem => exact ⟨_, hasWord, truth?_eq_some_iff.2 (.inl ⟨rfl, mem⟩)⟩
    | no hasWord mem => exact ⟨_, hasWord, truth?_eq_some_iff.2 (.inr ⟨rfl, mem⟩)⟩
  · rintro ⟨word, hasWord, truth_eq⟩
    obtain ⟨rfl, mem⟩ | ⟨rfl, mem⟩ := truth?_eq_some_iff.1 truth_eq
    · exact .yes hasWord mem
    · exact .no hasWord mem

theorem word_of_bool {b : Bool} {word : String} (h : HasWord (.scalar (.bool b)) word) :
    word.toLower = if b then "true" else "false" := by
  obtain ⟨text, plain_eq, rfl⟩ := h
  have text_eq : text = if b then "True" else "False" := by
    cases b <;> exact (CodePoints.ofString_inj.1 (Except.ok.inj plain_eq)).symm
  rw [text_eq]
  cases b <;> decide +kernel

/-- The word for a truth value stands for the same value. -/
theorem tells_bool_iff {b c : Bool} : Tells (.scalar (.bool b)) c ↔ c = b := by
  constructor
  · intro tells
    cases tells with
    | self => rfl
    | yes hasWord mem =>
      rw [word_of_bool hasWord] at mem
      revert mem
      cases b <;> decide
    | no hasWord mem =>
      rw [word_of_bool hasWord] at mem
      revert mem
      cases b <;> decide
  · rintro rfl
    exact .self c

theorem read_pretty_iff {v : Yaml.Tree} {b : Bool} :
    pretty.read v = .ok (some b) ↔ Tells v b := by
  by_cases isBool : ∃ c, v = .scalar (.bool c)
  · obtain ⟨c, rfl⟩ := isBool
    rw [tells_bool_iff]
    simp [pretty, eq_comm]
  · have isWord : ∀ c, v ≠ .scalar (.bool c) := fun c eq => isBool ⟨c, eq⟩
    have read_eq : pretty.read v = (word? v).map fun word => word.bind truth? := by
      simp only [pretty]
    rw [read_eq, map_word?_eq_ok_iff, tells_iff_of_word isWord]

theorem integer_eq_some_iff {v : Yaml.Tree} {n : Int} :
    integer v = .ok (some n) ↔ StandsFor v n := by
  constructor
  · intro h
    unfold integer at h
    split at h
    next m =>
      cases h
      exact .self n
    next text =>
      obtain ⟨s, text_eq, reads⟩ := Option.bind_eq_some_iff.1 (Except.ok.inj h)
      rw [CodePoints.toString?_eq_some_iff.1 text_eq]
      exact .text reads
    next bs =>
      have reads := Except.ok.inj h
      split at reads
      next ascii => exact .bytes (by simpa using ascii) reads
      next => cases reads
    next x =>
      split at h
      next => cases h
      next => exact .float (Except.ok.inj h)
    next => cases h
  · rintro (_ | reads | ⟨ascii, reads⟩ | reads)
    · rfl
    · simpa [integer] using reads
    · simpa [integer] using ⟨ascii, reads⟩
    · rw [integer]
      have finite := reads
      unfold Decimal.truncate? at finite
      split
      · next infinite => simp [infinite] at finite
      · next => rw [reads]

theorem read_indent_iff {v : Yaml.Tree} {n : Nat} :
    indent.read v = .ok (some n) ↔ IsIndent v n := by
  rw [IsIndent, ← integer_eq_some_iff, indent, map_eq_ok_iff]
  constructor
  · rintro ⟨read, integer_eq, h⟩
    obtain ⟨m, rfl, nat_eq⟩ := Option.bind_eq_some_iff.1 h
    by_cases isNegative : m < 0
    · rw [if_pos isNegative] at nat_eq
      cases nat_eq
    · rw [if_neg isNegative] at nat_eq
      rw [integer_eq, ← Option.some.inj nat_eq, Int.toNat_of_nonneg (Int.not_lt.1 isNegative)]
  · intro integer_eq
    exact ⟨some n, integer_eq, by simp⟩

end Setting

/-! ## Choosing -/

/-- What a value at a place makes of a setting, and what is told of it: without a value it is what
it was below; a value that stands for a setting is taken; any other value is told with its text. -/
inductive Covers (accepts : Yaml.Tree → α → Prop) (kind : SettingKind) (place : String)
    (below : α) : Option Yaml.Tree → α → List SettingWarning → Prop
  | absent : Covers accepts kind place below none below []
  | taken {v : Yaml.Tree} {x : α} (accepted : accepts v x) :
    Covers accepts kind place below (some v) x []
  | refused {v : Yaml.Tree} {text : CodePoints} {kept : String} (useless : ∀ x, ¬ accepts v x)
    (shown : v.plain = .ok text) :
    Covers accepts kind place below (some v) below [.unusable kind place text kept]

theorem Setting.covers_choose {s : Setting α} {accepts : Yaml.Tree → α → Prop}
    (reads : ∀ {v x}, s.read v = .ok (some x) ↔ accepts v x) {place : String}
    {v? : Option Yaml.Tree} {below x : α} (h : (s.choose place v? below).result = .ok x) :
    Covers accepts s.kind place below v? x (s.choose place v? below).notes := by
  cases v? with
  | none =>
    cases h
    exact .absent
  | some v =>
    cases read : s.read v with
    | error e => simp [s.choose_of_fault place below read, Traced.fail] at h
    | ok x? =>
      cases x? with
      | some y =>
        rw [s.choose_of_read place below read] at h ⊢
        cases h
        exact .taken (reads.1 read)
      | none =>
        have useless : ∀ x, ¬ accepts v x := fun x accepted => by
          rw [reads.2 accepted] at read
          cases read
        rw [s.choose_of_unread place below read] at h ⊢
        obtain ⟨text, shown, h⟩ := Traced.result_bind_eq_ok_iff.1 h
        obtain ⟨kept, kept_eq, h⟩ := Traced.result_bind_eq_ok_iff.1 h
        cases h
        rw [s.refuse_of_shown place shown kept_eq]
        exact .refused useless (mapError_eq_ok_iff.1 shown)

end SpannerDdl
