import Mathlib.Data.List.TakeWhile
import SpannerDdl.Proofs.Json.RoundTrip

/-! # Which values come back from their text

A value is read back from what is dumped of it, and something is dumped of it unless its indentation
cannot be made or one of its integers has too many digits.

* `IsDiscrete v`: there is no floating-point number in a value, and no key twice in an object.
* `HasShortIntegers v`: no integer in a value has too many digits. Values that are read are of this
  kind, so they can be written again: `dump_of_read`.
* `Layout.IsPossible`: the indentation of a layout can be made.
* `dump_eq_ok_iff`, `dump_eq_noIndex_iff`, `dump_eq_longInteger_iff`: what becomes of a document.
* `read_dump_iff`: when a value comes back. -/

set_option autoImplicit false

namespace SpannerDdl.Json

/-- A value without floating-point numbers, and without a key that an object has twice. -/
inductive IsDiscrete : Json → Prop where
  | null : IsDiscrete .null
  | bool (b : Bool) : IsDiscrete (.bool b)
  | int (n : Int) : IsDiscrete (.int n)
  | str (s : String) : IsDiscrete (.str s)
  | arr {items : List Json} (h : ∀ v ∈ items, IsDiscrete v) : IsDiscrete (.arr items)
  | obj {members : Members} (keys : (members.map Prod.fst).Nodup)
      (h : ∀ m ∈ members, IsDiscrete m.2) : IsDiscrete (.obj members)

/-- A value in which no integer has more digits than are written and read. -/
inductive HasShortIntegers : Json → Prop where
  | null : HasShortIntegers .null
  | bool (b : Bool) : HasShortIntegers (.bool b)
  | int {n : Int} (h : (Nat.toDigits 10 n.natAbs).length ≤ Text.digitLimit) :
    HasShortIntegers (.int n)
  | float (x : Float) : HasShortIntegers (.float x)
  | str (s : String) : HasShortIntegers (.str s)
  | arr {items : List Json} (h : ∀ v ∈ items, HasShortIntegers v) : HasShortIntegers (.arr items)
  | obj {members : Members} (h : ∀ m ∈ members, HasShortIntegers m.2) :
    HasShortIntegers (.obj members)

theorem IsDiscrete.exact {v : Json} (h : IsDiscrete v) (short : HasShortIntegers v) : Exact v := by
  induction h with
  | null => exact .null
  | bool b => exact .bool b
  | int n =>
    cases short with
    | int h => exact .int h
  | str s => exact .str s
  | arr _ ih =>
    cases short with
    | arr short => exact .arr fun v hv => ih v hv (short v hv)
  | obj keys _ ih =>
    cases short with
    | obj short => exact .obj keys fun m hm => ih m hm (short m hm)

theorem Exact.hasShortIntegers {v : Json} (h : Exact v) : v.HasShortIntegers := by
  induction h with
  | null => exact .null
  | bool b => exact .bool b
  | int h => exact .int h
  | str s => exact .str s
  | arr _ ih => exact .arr ih
  | obj _ _ ih => exact .obj ih

/-! ## Integers that are written -/

theorem hasShortIntegers_int_iff {n : Int} :
    (Json.int n).HasShortIntegers ↔ (Nat.toDigits 10 n.natAbs).length ≤ Text.digitLimit :=
  ⟨fun | .int h => h, .int⟩

theorem hasShortIntegers_arr_iff {items : List Json} :
    (Json.arr items).HasShortIntegers ↔ ∀ v ∈ items, v.HasShortIntegers :=
  ⟨fun | .arr h => h, .arr⟩

theorem hasShortIntegers_obj_iff {members : Members} :
    (Json.obj members).HasShortIntegers ↔ ∀ m ∈ members, m.2.HasShortIntegers :=
  ⟨fun | .obj h => h, .obj⟩

mutual

/-- Every integer in a value is written just if none has too many digits. -/
theorem all_isShort_integers_iff (v : Json) : v.integers.all isShort = true ↔ v.HasShortIntegers := by
  match v with
  | .null => exact iff_of_true rfl .null
  | .bool b => exact iff_of_true rfl (.bool b)
  | .int n =>
    rw [integers, List.all_cons, List.all_nil, Bool.and_true, isShort, Text.isSome_decimal?_iff,
      hasShortIntegers_int_iff]
  | .float x => exact iff_of_true rfl (.float x)
  | .str s => exact iff_of_true rfl (.str s)
  | .arr items => rw [integers, all_isShort_itemIntegers_iff items, hasShortIntegers_arr_iff]
  | .obj members => rw [integers, all_isShort_memberIntegers_iff members, hasShortIntegers_obj_iff]

theorem all_isShort_itemIntegers_iff (items : List Json) :
    (itemIntegers items).all isShort = true ↔ ∀ v ∈ items, v.HasShortIntegers := by
  match items with
  | [] => exact iff_of_true rfl (List.forall_mem_nil _)
  | item :: items =>
    rw [itemIntegers, List.all_append, Bool.and_eq_true, all_isShort_integers_iff item,
      all_isShort_itemIntegers_iff items, List.forall_mem_cons]

theorem all_isShort_memberIntegers_iff (members : Members) :
    (memberIntegers members).all isShort = true ↔ ∀ m ∈ members, m.2.HasShortIntegers := by
  match members with
  | [] => exact iff_of_true rfl (List.forall_mem_nil _)
  | (key, value) :: members =>
    rw [memberIntegers, List.all_append, Bool.and_eq_true, all_isShort_integers_iff value,
      all_isShort_memberIntegers_iff members, List.forall_mem_cons]

end

/-! ## Numbers that are read -/

theorem foldl_digits_lt {digits : List Char} (h : ∀ c ∈ digits, c.isDigit = true) (n : Nat) :
    digits.foldl (fun n c => n * 10 + (c.toNat - 0x30)) n < (n + 1) * 10 ^ digits.length := by
  induction digits generalizing n with
  | nil => simp
  | cons c digits ih =>
    have digit : c.toNat - 0x30 ≤ 9 := by
      have upper : c.toNat ≤ 0x39 := (Char.isDigit_iff_toNat.1 (h c List.mem_cons_self)).2
      omega
    have rest := ih (fun d hd => h d (List.mem_cons_of_mem c hd)) (n * 10 + (c.toNat - 0x30))
    have first : n * 10 + (c.toNat - 0x30) + 1 ≤ (n + 1) * 10 := by omega
    rw [List.foldl_cons]
    calc _ < (n * 10 + (c.toNat - 0x30) + 1) * 10 ^ digits.length := rest
      _ ≤ (n + 1) * 10 * 10 ^ digits.length := Nat.mul_le_mul_right _ first
      _ = (n + 1) * 10 ^ (c :: digits).length := by
        rw [List.length_cons, Nat.pow_succ, Nat.mul_assoc, Nat.mul_comm 10]

theorem decimalValue_lt {digits : List Char} (h : ∀ c ∈ digits, c.isDigit = true) :
    decimalValue digits < 10 ^ digits.length := by
  have bound := foldl_digits_lt h 0
  rwa [Nat.zero_add, Nat.one_mul] at bound

theorem hasShortIntegers_of_readDigits {negative : Bool} {digits : List Char} {v : Json}
    (h : ∀ c ∈ digits, c.isDigit = true) (read : readDigits negative digits = .ok v) :
    v.HasShortIntegers := by
  rw [readDigits] at read
  split at read
  · cases read
  · rename_i short
    cases read
    have value := Nat.lt_of_lt_of_le (decimalValue_lt h)
      (Nat.pow_le_pow_right (by decide) (Nat.not_lt.1 short))
    refine .int ?_
    rw [Nat.length_toDigits_le_iff (by decide) (by decide)]
    cases negative with
    | false => simpa using value
    | true => simpa using value

theorem isDigit_of_mem_spanWhole {cs : List Char} : ∀ c ∈ (spanWhole cs).1, c.isDigit = true := by
  unfold spanWhole
  split
  · exact List.forall_mem_singleton.2 rfl
  · intro c hc
    exact List.mem_takeWhile_imp hc

theorem hasShortIntegers_of_readUnsigned? {negative : Bool} {cs rest : List Char} {v : Json}
    (h : readUnsigned? negative cs = some (.ok v, rest)) : v.HasShortIntegers := by
  unfold readUnsigned? at h
  simp only at h
  split at h
  · cases h
  · split at h
    · rw [Option.some.injEq, Prod.mk.injEq] at h
      exact hasShortIntegers_of_readDigits isDigit_of_mem_spanWhole h.1
    · cases h
      exact .float _

theorem hasShortIntegers_of_readNumber? {cs rest : List Char} {v : Json}
    (h : readNumber? cs = some (.ok v, rest)) : v.HasShortIntegers := by
  unfold readNumber? at h
  split at h
  · exact hasShortIntegers_of_readUnsigned? h
  · exact hasShortIntegers_of_readUnsigned? h

theorem hasShortIntegers_of_readWord? {cs rest : List Char} {v : Json}
    (h : readWord? cs = some (v, rest)) : v.HasShortIntegers := by
  obtain ⟨⟨word, value⟩, hw, hv⟩ := List.exists_of_findSome?_eq_some h
  have values : ∀ p ∈ wordValues, p.2.HasShortIntegers := by
    simp only [wordValues, List.forall_mem_cons]
    exact ⟨.null, .bool true, .bool false, .float _, .float _, .float _, List.forall_mem_nil _⟩
  have short := values _ hw
  simp only at hv
  split at hv
  · cases hv
    exact short
  · cases hv

theorem hasShortIntegers_of_readScalar {cs : List Char} {r : Reading cs Json}
    (h : readScalar cs = .ok r) : r.value.HasShortIntegers := by
  unfold readScalar at h
  split at h
  · rename_i hw
    cases h
    exact hasShortIntegers_of_readWord? hw
  · split at h
    · rename_i hn
      cases h
      exact hasShortIntegers_of_readNumber? hn
    · cases h
    · cases h

/-! ## Values that are read -/

theorem Members.forall_put {P : Json → Prop} {members : Members} {key : String} {value : Json}
    (h : ∀ m ∈ members, P m.2) (hv : P value) : ∀ m ∈ members.put key value, P m.2 := by
  induction members with
  | nil => exact List.forall_mem_singleton.2 hv
  | cons m members ih =>
    obtain ⟨k, v⟩ := m
    obtain ⟨first, others⟩ := List.forall_mem_cons.1 h
    rw [Members.put]
    split
    · exact List.forall_mem_cons.2 ⟨hv, others⟩
    · exact List.forall_mem_cons.2 ⟨first, ih others⟩

theorem Members.forall_ofList {P : Json → Prop} {pairs : List (String × Json)}
    (h : ∀ p ∈ pairs, P p.2) : ∀ m ∈ Members.ofList pairs, P m.2 := by
  have step : ∀ members : Members, (∀ m ∈ members, P m.2) →
      ∀ m ∈ pairs.foldl (fun members pair => members.put pair.1 pair.2) members, P m.2 := by
    induction pairs with
    | nil => exact fun members hm => hm
    | cons pair pairs ih =>
      obtain ⟨first, others⟩ := List.forall_mem_cons.1 h
      exact fun members hm => ih others _ (Members.forall_put hm first)
  exact step [] (List.forall_mem_nil _)

mutual

theorem hasShortIntegers_of_readValue (cs : List Char) {r : Reading cs Json}
    (h : readValue cs = .ok r) : r.value.HasShortIntegers := by
  unfold readValue at h
  split at h
  · split at h
    · cases h
    · cases h
      exact .str _
  · rename_i rest
    split at h
    · cases h
      exact .arr (List.forall_mem_nil _)
    · split at h
      · cases h
      · rename_i items hi
        cases h
        exact .arr (hasShortIntegers_of_readItems rest hi)
  · rename_i rest
    split at h
    · cases h
      exact .obj (List.forall_mem_nil _)
    · split at h
      · cases h
      · rename_i members hm
        cases h
        exact .obj (Members.forall_ofList (hasShortIntegers_of_readMembers rest hm))
  · exact hasShortIntegers_of_readScalar h
termination_by (cs.length, 0)

theorem hasShortIntegers_of_readItems (cs : List Char) {r : Reading cs (List Json)}
    (h : readItems cs = .ok r) : ∀ v ∈ r.value, v.HasShortIntegers := by
  have hcs := length_skipGap_le cs
  unfold readItems at h
  split at h
  · cases h
  · rename_i item hitem
    have first := hasShortIntegers_of_readValue (skipGap cs) hitem
    have hbehindItem := item.shorter
    split at h
    · cases h
      exact List.forall_mem_singleton.2 first
    · rename_i behind hb
      have hbehind := length_of_skipGap_eq hb
      split at h
      · cases h
      · rename_i items hi
        cases h
        exact List.forall_mem_cons.2 ⟨first, hasShortIntegers_of_readItems behind hi⟩
    · cases h
termination_by (cs.length, 1)
decreasing_by
  · simp only [Prod.lex_def]; omega
  · simp only [Prod.lex_def]; omega

theorem hasShortIntegers_of_readMembers (cs : List Char) {r : Reading cs (List (String × Json))}
    (h : readMembers cs = .ok r) : ∀ m ∈ r.value, m.2.HasShortIntegers := by
  unfold readMembers at h
  split at h
  · rename_i afterQuote hkey
    have hquote := length_of_skipGap_eq hkey
    split at h
    · cases h
    · rename_i key hk
      have hafterKey := key.shorter
      split at h
      · rename_i afterColon hcolon
        have hc := length_of_skipGap_eq hcolon
        have hgap := length_skipGap_le afterColon
        split at h
        · cases h
        · rename_i value hvalue
          have first := hasShortIntegers_of_readValue (skipGap afterColon) hvalue
          have hbehindValue := value.shorter
          split at h
          · cases h
            exact List.forall_mem_singleton.2 first
          · rename_i behind hb
            have hbehind := length_of_skipGap_eq hb
            split at h
            · cases h
            · rename_i members hm
              cases h
              exact List.forall_mem_cons.2 ⟨first, hasShortIntegers_of_readMembers behind hm⟩
          · cases h
      · cases h
  · cases h
termination_by (cs.length, 1)
decreasing_by
  · simp only [Prod.lex_def]; omega
  · simp only [Prod.lex_def]; omega

end

/-- No integer that is read has too many digits. -/
theorem hasShortIntegers_of_read {cs : List Char} {v : Json} (h : read cs = .ok v) :
    v.HasShortIntegers := by
  unfold read at h
  split at h
  · cases h
  · split at h
    · cases h
    · rename_i r hr
      split at h
      · cases h
        exact hasShortIntegers_of_readValue _ hr
      · cases h

/-! ## Texts that are dumped -/

/-- The width of an indentation is an index. -/
def Layout.IsPossible (layout : Layout) : Prop :=
  ∀ width, layout = .indented width → -indexBound ≤ width ∧ width < indexBound

theorem Layout.isPossible_compact : Layout.compact.IsPossible := by
  intro width h
  cases h

theorem Layout.isPossible_indented_iff {width : Int} :
    (Layout.indented width).IsPossible ↔ -indexBound ≤ width ∧ width < indexBound := by
  constructor
  · intro h
    exact h width rfl
  · intro h width' e
    cases e
    exact h

theorem Layout.fault?_of_isPossible {layout : Layout} (h : layout.IsPossible) :
    layout.fault? = none := by
  cases layout with
  | compact => rfl
  | indented width =>
    obtain ⟨low, high⟩ := isPossible_indented_iff.1 h
    exact if_neg (not_or.2 ⟨Int.not_lt.2 low, Int.not_le.2 high⟩)

theorem Layout.fault?_of_not_isPossible {layout : Layout} (h : ¬layout.IsPossible) :
    layout.fault? = some .noIndex := by
  cases layout with
  | compact => exact absurd isPossible_compact h
  | indented width =>
    rw [isPossible_indented_iff, not_and_or, Int.not_le, Int.not_lt] at h
    exact if_pos h

theorem dump_of_not_str (layout : Layout) {v : Json} (h : ∀ s, v ≠ .str s) :
    dump layout v = match layout.fault? with
      | some fault => .error fault
      | none => if v.integers.all isShort then .ok (render layout v) else .error .longInteger := by
  cases v with
  | str s => exact absurd rfl (h s)
  | _ => rfl

/-- What becomes of a document: a text by itself is written whatever the layout, and the indentation
is made before the integers are come to. -/
theorem dump_cases (layout : Layout) (v : Json) :
    ((layout.IsPossible ∨ ∃ s, v = .str s) ∧ v.HasShortIntegers ∧
      dump layout v = .ok (render layout v)) ∨
    (¬layout.IsPossible ∧ (∀ s, v ≠ .str s) ∧ dump layout v = .error .noIndex) ∨
    (layout.IsPossible ∧ ¬v.HasShortIntegers ∧ dump layout v = .error .longInteger) := by
  by_cases text : ∃ s, v = .str s
  · obtain ⟨s, rfl⟩ := text
    exact .inl ⟨.inr ⟨s, rfl⟩, .str s, rfl⟩
  · have other : ∀ s, v ≠ .str s := fun s e => text ⟨s, e⟩
    rw [dump_of_not_str layout other]
    by_cases possible : layout.IsPossible
    · rw [Layout.fault?_of_isPossible possible]
      by_cases short : v.HasShortIntegers
      · exact .inl ⟨.inl possible, short, if_pos ((all_isShort_integers_iff v).2 short)⟩
      · exact .inr (.inr ⟨possible, short, if_neg (mt (all_isShort_integers_iff v).1 short)⟩)
    · rw [Layout.fault?_of_not_isPossible possible]
      exact .inr (.inl ⟨possible, other, rfl⟩)

theorem dump_eq_ok_iff {layout : Layout} {v : Json} {out : String} :
    dump layout v = .ok out ↔
      (layout.IsPossible ∨ ∃ s, v = .str s) ∧ v.HasShortIntegers ∧ out = render layout v := by
  obtain ⟨possible, short, e⟩ | ⟨impossible, other, e⟩ | ⟨-, long, e⟩ := dump_cases layout v
  · rw [e, Except.ok.injEq, eq_comm]
    exact ⟨fun h => ⟨possible, short, h⟩, fun h => h.2.2⟩
  · rw [e]
    refine iff_of_false (fun h => by cases h) ?_
    rintro ⟨possible | ⟨s, rfl⟩, -⟩
    · exact impossible possible
    · exact other s rfl
  · rw [e]
    exact iff_of_false (fun h => by cases h) fun h => long h.2.1

theorem dump_eq_noIndex_iff {layout : Layout} {v : Json} :
    dump layout v = .error .noIndex ↔ ¬layout.IsPossible ∧ ∀ s, v ≠ .str s := by
  obtain ⟨possible, -, e⟩ | ⟨impossible, other, e⟩ | ⟨possible, -, e⟩ := dump_cases layout v
  · rw [e]
    refine iff_of_false (fun h => by cases h) ?_
    rintro ⟨impossible, other⟩
    exact possible.elim impossible fun ⟨s, text⟩ => other s text
  · exact iff_of_true e ⟨impossible, other⟩
  · rw [e]
    exact iff_of_false (fun h => by cases h) fun h => h.1 possible

theorem dump_eq_longInteger_iff {layout : Layout} {v : Json} :
    dump layout v = .error .longInteger ↔ layout.IsPossible ∧ ¬v.HasShortIntegers := by
  obtain ⟨-, short, e⟩ | ⟨impossible, -, e⟩ | ⟨possible, long, e⟩ := dump_cases layout v
  · rw [e]
    exact iff_of_false (fun h => by cases h) fun h => h.2 short
  · rw [e]
    exact iff_of_false (fun h => by cases h) fun h => impossible h.1
  · exact iff_of_true e ⟨possible, long⟩

/-- What is read is written again in every layout whose indentation can be made. -/
theorem dump_of_read {cs : List Char} {v : Json} (h : read cs = .ok v) {layout : Layout}
    (possible : layout.IsPossible) : dump layout v = .ok (render layout v) :=
  dump_eq_ok_iff.2 ⟨.inl possible, hasShortIntegers_of_read h, rfl⟩

/-- Something is dumped of a value, and the value is read back from it, just if the indentation can
be made, unless the value is a text, and no integer in it has too many digits. Else the fault is that
of the indentation if there is one. The layout makes no difference to what a text denotes. -/
theorem read_dump_iff {v : Json} (discrete : v.IsDiscrete) :
    (∀ layout, (∃ out, dump layout v = .ok out ∧ read out.toList = .ok v) ↔
      (layout.IsPossible ∨ ∃ s, v = .str s) ∧ v.HasShortIntegers) ∧
    (∀ layout, dump layout v = .error .noIndex ↔ ¬layout.IsPossible ∧ ∀ s, v ≠ .str s) ∧
    (∀ layout, dump layout v = .error .longInteger ↔ layout.IsPossible ∧ ¬v.HasShortIntegers) ∧
    ∀ layout layout' out out', dump layout v = .ok out → dump layout' v = .ok out' →
      read out.toList = read out'.toList := by
  refine ⟨fun layout => ⟨?_, ?_⟩, fun _ => dump_eq_noIndex_iff, fun _ => dump_eq_longInteger_iff, ?_⟩
  · rintro ⟨out, dumped, -⟩
    obtain ⟨possible, short, -⟩ := dump_eq_ok_iff.1 dumped
    exact ⟨possible, short⟩
  · rintro ⟨possible, short⟩
    exact ⟨_, dump_eq_ok_iff.2 ⟨possible, short, rfl⟩, read_render (discrete.exact short) layout⟩
  · intro layout layout' out out' dumped dumped'
    obtain ⟨-, short, rfl⟩ := dump_eq_ok_iff.1 dumped
    obtain ⟨-, -, rfl⟩ := dump_eq_ok_iff.1 dumped'
    rw [read_render (discrete.exact short) layout, read_render (discrete.exact short) layout']

/-- An object of empty and other values, with keys and texts that have to be escaped. -/
def crowdedValue : Json :=
  .obj [("a\n", .arr [.int (-12), .arr [], .obj [], .null]), ("", .str "\"\\\x01")]

theorem read_dump_crowdedValue : crowdedValue.IsDiscrete ∧ crowdedValue.HasShortIntegers ∧
    dump .compact crowdedValue = .ok "\x7b\"a\\n\":[-12,[],\x7b\x7d,null],\"\":\"\\\"\\\\\\u0001\"\x7d" ∧
    (∀ layout : Layout, layout.IsPossible → ∃ out,
      dump layout crowdedValue = .ok out ∧ read out.toList = .ok crowdedValue) ∧
    Layout.compact.IsPossible ∧ (Layout.indented 0).IsPossible ∧
    (Layout.indented (-3)).IsPossible := by
  have discrete : crowdedValue.IsDiscrete := by
    refine .obj (by decide) (List.forall_mem_cons.2 ⟨.arr ?_, List.forall_mem_singleton.2 (.str _)⟩)
    simp only [List.forall_mem_cons]
    exact ⟨.int _, .arr (List.forall_mem_nil _), .obj .nil (List.forall_mem_nil _), .null,
      List.forall_mem_nil _⟩
  have short : crowdedValue.HasShortIntegers := by
    refine .obj (List.forall_mem_cons.2 ⟨.arr ?_, List.forall_mem_singleton.2 (.str _)⟩)
    simp only [List.forall_mem_cons]
    exact ⟨.int (by decide), .arr (List.forall_mem_nil _), .obj (List.forall_mem_nil _), .null,
      List.forall_mem_nil _⟩
  refine ⟨discrete, short, dump_eq_ok_iff.2 ⟨.inl Layout.isPossible_compact, short, rfl⟩,
    fun layout possible => ?_, Layout.isPossible_compact,
    Layout.isPossible_indented_iff.2 (by decide), Layout.isPossible_indented_iff.2 (by decide)⟩
  exact ((read_dump_iff discrete).1 layout).2 ⟨.inl possible, short⟩

/-- Of an array there is no text with an indentation that is no index, and of an integer with one
digit too many there is none in any layout. -/
theorem not_read_dump_of_wide_or_long :
    (IsDiscrete (.arr []) ∧ dump (.indented 9223372036854775808) (.arr []) = .error .noIndex) ∧
    IsDiscrete (.int (10 ^ Text.digitLimit : Nat)) ∧
    dump .compact (.int (10 ^ Text.digitLimit : Nat)) = .error .longInteger ∧
    ∀ layout out, dump layout (.int (10 ^ Text.digitLimit : Nat)) ≠ .ok out := by
  have long : ¬HasShortIntegers (.int (10 ^ Text.digitLimit : Nat)) := by
    rw [hasShortIntegers_int_iff, Int.natAbs_natCast, Nat.not_le]
    exact lt_length_toDigits_pow (by decide)
  refine ⟨⟨.arr (List.forall_mem_nil _), rfl⟩, .int _, ?_, ?_⟩
  · exact dump_eq_longInteger_iff.2 ⟨Layout.isPossible_compact, long⟩
  · exact fun layout out dumped => long (dump_eq_ok_iff.1 dumped).2.1

end SpannerDdl.Json
