import Mathlib.Algebra.Group.Nat.Defs
import SpannerDdl.Proofs.Json.Scalars

/-! # Reading back documents

The text of a value without floating-point numbers, in either layout and at any indentation, is read
back as that value, with its members in their order. -/

set_option autoImplicit false

namespace SpannerDdl.Json

/-- A value that its text determines: it has no floating-point numbers, no integers of more digits
than one is read from, and no object with two members of one key. -/
inductive Exact : Json → Prop where
  | null : Exact .null
  | bool (b : Bool) : Exact (.bool b)
  | int {n : Int} (h : (Nat.toDigits 10 n.natAbs).length ≤ Text.digitLimit) : Exact (.int n)
  | str (s : String) : Exact (.str s)
  | arr {items : List Json} (h : ∀ v ∈ items, Exact v) : Exact (.arr items)
  | obj {members : Members} (keys : (members.map Prod.fst).Nodup)
      (h : ∀ m ∈ members, Exact m.2) : Exact (.obj members)

/-! ## Objects without repeated keys -/

theorem Members.foldl_put (members pairs : Members)
    (h : ((members ++ pairs).map Prod.fst).Nodup) :
    pairs.foldl (fun members pair => members.put pair.1 pair.2) members = members ++ pairs := by
  induction pairs generalizing members with
  | nil => rw [List.foldl_nil, List.append_nil]
  | cons pair pairs ih =>
    have hp : pair.1 ∉ members.map Prod.fst := by
      intro hm
      rw [List.map_append, List.map_cons] at h
      exact (List.nodup_append.1 h).2.2 _ hm _ List.mem_cons_self rfl
    rw [List.foldl_cons, Members.put_of_notMem pair.2 hp, ih, List.append_assoc]
    · rfl
    · rwa [List.append_assoc]

theorem Members.ofList_of_nodup {pairs : Members} (h : (pairs.map Prod.fst).Nodup) :
    Members.ofList pairs = pairs :=
  Members.foldl_put [] pairs h

/-! ## Blanks that the printer puts between tokens -/

theorem skipGap_cons {c : Char} (h : isGap c = false) (cs : List Char) :
    skipGap (c :: cs) = c :: cs := by
  rw [skipGap, List.dropWhile_cons, h]
  rfl

theorem skipGap_break (layout : Layout) (depth : Nat) {c : Char} (h : isGap c = false)
    (cs : List Char) : skipGap (layout.break depth ++ c :: cs) = c :: cs := by
  cases layout with
  | compact => exact skipGap_cons h cs
  | indented width =>
    have hb : ∀ a ∈ List.replicate (width.toNat * depth) ' ', isGap a := by
      intro a ha
      rw [List.eq_of_mem_replicate ha]
      rfl
    show List.dropWhile isGap ('\n' :: (_ ++ _)) = _
    rw [List.dropWhile_cons_of_pos rfl, List.dropWhile_append_of_pos hb]
    exact skipGap_cons h cs

theorem skipGap_colon (layout : Layout) {c : Char} (h : isGap c = false) (cs : List Char) :
    ∃ tail, skipGap (layout.colon ++ c :: cs) = ':' :: tail ∧ skipGap tail = c :: cs := by
  cases layout with
  | compact => exact ⟨c :: cs, rfl, skipGap_cons h cs⟩
  | indented width =>
    refine ⟨' ' :: c :: cs, rfl, ?_⟩
    rw [skipGap, List.dropWhile_cons_of_pos rfl]
    exact skipGap_cons h cs

theorem endsValue_break (layout : Layout) (depth : Nat) {c : Char}
    (h : c = ']' ∨ c = '\x7d') (rest : List Char) :
    EndsValue (layout.break depth ++ c :: rest) := by
  cases layout with
  | compact => exact endsValue_cons (.inr (.inr h)) rest
  | indented width => exact endsValue_cons (.inr (.inl rfl)) _

theorem endsValue_items (layout : Layout) (depth : Nat) (items : List Json) {rest : List Char}
    (h : EndsValue rest) : EndsValue (writeItems layout depth items ++ rest) := by
  cases items with
  | nil => exact h
  | cons item items => exact endsValue_cons (.inl rfl) _

theorem endsValue_members (layout : Layout) (depth : Nat) (members : Members)
    {rest : List Char} (h : EndsValue rest) :
    EndsValue (writeMembers layout depth members ++ rest) := by
  cases members with
  | nil => exact h
  | cons member members => exact endsValue_cons (.inl rfl) _

/-- The text of a value starts with a character that is neither a blank nor a closing bracket nor
a mark of the byte order. -/
theorem Exact.exists_head {v : Json} (h : Exact v) (layout : Layout) (depth : Nat) :
    ∃ c cs, write layout depth v = c :: cs ∧ isGap c = false ∧ c ≠ ']' ∧ c ≠ '\uFEFF' := by
  cases h with
  | null => exact ⟨_, _, rfl, rfl, by decide, by decide⟩
  | bool b =>
    cases b with
    | false => exact ⟨_, _, rfl, rfl, by decide, by decide⟩
    | true => exact ⟨_, _, rfl, rfl, by decide, by decide⟩
  | @int n hn =>
    rw [write, intText]
    split
    · exact ⟨_, _, rfl, rfl, by decide, by decide⟩
    · obtain ⟨d, ds, e, hd⟩ := exists_toDigits_eq_cons n.natAbs
      refine ⟨d, ds, e, ?_, ?_, ?_⟩
      · rw [Bool.eq_false_iff]
        intro hg
        simp only [isGap, Bool.or_eq_true, beq_iff_eq] at hg
        rcases hg with ((rfl | rfl) | rfl) | rfl <;> cases hd
      · rintro rfl
        cases hd
      · rintro rfl
        cases hd
  | str s => exact ⟨_, _, rfl, rfl, by decide, by decide⟩
  | @arr items hi =>
    cases items with
    | nil => exact ⟨_, _, rfl, rfl, by decide, by decide⟩
    | cons item items => exact ⟨_, _, rfl, rfl, by decide, by decide⟩
  | @obj members hk hm =>
    cases members with
    | nil => exact ⟨_, _, rfl, rfl, by decide, by decide⟩
    | cons member members => exact ⟨_, _, rfl, rfl, by decide, by decide⟩

/-! ## What the readers give -/

theorem readValue_scalar {c : Char} (hq : c ≠ '"') (ha : c ≠ '[') (ho : c ≠ '\x7b')
    (cs : List Char) : readValue (c :: cs) = readScalar (c :: cs) := by
  rw [readValue]
  · exact fun _ h => hq (List.cons.inj h).1
  · exact fun _ h => ha (List.cons.inj h).1
  · exact fun _ h => ho (List.cons.inj h).1

theorem readValue_word {c : Char} {word rest : List Char} {v : Json} (hq : c ≠ '"')
    (ha : c ≠ '[') (ho : c ≠ '\x7b') (h : readWord? (c :: word ++ rest) = some (v, rest)) :
    Gives (readValue (c :: word ++ rest)) v rest := by
  rw [List.cons_append, readValue_scalar hq ha ho]
  exact readScalar_word h

/-- An integer starts with its sign or a digit. -/
theorem exists_intText_eq_cons (n : Int) :
    ∃ c cs, intText n = c :: cs ∧ (c = '-' ∨ c.isDigit) := by
  rw [intText]
  split
  · exact ⟨_, _, rfl, .inl rfl⟩
  · obtain ⟨d, ds, e, hd⟩ := exists_toDigits_eq_cons n.natAbs
    exact ⟨d, ds, e, .inr hd⟩

theorem readValue_intText (n : Int) (rest : List Char) :
    readValue (intText n ++ rest) = readScalar (intText n ++ rest) := by
  obtain ⟨c, cs, e, hc⟩ := exists_intText_eq_cons n
  have differs : ∀ d : Char, ¬(d = '-' ∨ d.isDigit) → c ≠ d := fun d hd he => hd (he ▸ hc)
  rw [e, List.cons_append]
  exact readValue_scalar (differs '"' (by decide)) (differs '[' (by decide))
    (differs '\x7b' (by decide)) _

theorem readValue_int {n : Int} {rest : List Char} (hr : EndsValue rest)
    (h : (Nat.toDigits 10 n.natAbs).length ≤ Text.digitLimit) :
    Gives (readValue (intText n ++ rest)) (.int n) rest := by
  rw [readValue_intText]
  exact readScalar_intText hr h

theorem readValue_str (s : String) (rest : List Char) :
    Gives (readValue (stringText s ++ rest)) (.str s) rest := by
  obtain ⟨x, hx, hv, hr⟩ := readString_text s rest
  have e : stringText s ++ rest = '"' :: (s.toList.flatMap escapeChar ++ '"' :: rest) := by
    simp [stringText]
  rw [e, readValue, hx]
  exact ⟨_, rfl, congrArg Json.str hv, hr⟩

theorem readValue_arr_nil {cs rest : List Char} (h : skipGap cs = ']' :: rest) :
    Gives (readValue ('[' :: cs)) (.arr []) rest := by
  rw [readValue]
  split
  · rename_i behind hb
    rw [h] at hb
    cases hb
    exact ⟨_, rfl, rfl, rfl⟩
  · rename_i hne
    exact absurd h (hne rest)

theorem readValue_arr {cs rest : List Char} {items : List Json}
    (h : ∀ behind, skipGap cs ≠ ']' :: behind) (hi : Gives (readItems cs) items rest) :
    Gives (readValue ('[' :: cs)) (.arr items) rest := by
  obtain ⟨x, hx, hv, hr⟩ := hi
  rw [readValue]
  split
  · rename_i behind hb
    exact absurd hb (h behind)
  · rw [hx]
    exact ⟨_, rfl, congrArg Json.arr hv, hr⟩

theorem readValue_obj_nil {cs rest : List Char} (h : skipGap cs = '\x7d' :: rest) :
    Gives (readValue ('\x7b' :: cs)) (.obj []) rest := by
  rw [readValue]
  split
  · rename_i behind hb
    rw [h] at hb
    cases hb
    exact ⟨_, rfl, rfl, rfl⟩
  · rename_i hne
    exact absurd h (hne rest)

theorem readValue_obj {cs rest : List Char} {members : Members}
    (keys : (members.map Prod.fst).Nodup) (h : ∀ behind, skipGap cs ≠ '\x7d' :: behind)
    (hm : Gives (readMembers cs) members rest) :
    Gives (readValue ('\x7b' :: cs)) (.obj members) rest := by
  obtain ⟨x, hx, hv, hr⟩ := hm
  rw [readValue]
  split
  · rename_i behind hb
    exact absurd hb (h behind)
  · rw [hx]
    refine ⟨_, rfl, ?_, hr⟩
    show Json.obj (Members.ofList x.value) = _
    rw [hv, Members.ofList_of_nodup keys]

theorem readItems_last {cs mid rest : List Char} {v : Json}
    (hv : Gives (readValue (skipGap cs)) v mid) (h : skipGap mid = ']' :: rest) :
    Gives (readItems cs) [v] rest := by
  obtain ⟨x, hx, rfl, rfl⟩ := hv
  rw [readItems]
  simp only [hx]
  split
  · rename_i behind hb
    rw [h] at hb
    cases hb
    exact ⟨_, rfl, rfl, rfl⟩
  · rename_i behind hb
    rw [h] at hb
    cases hb
  · rename_i hne _
    exact absurd h (hne rest)

theorem readItems_more {cs mid behind rest : List Char} {v : Json} {vs : List Json}
    (hv : Gives (readValue (skipGap cs)) v mid) (h : skipGap mid = ',' :: behind)
    (hr : Gives (readItems behind) vs rest) : Gives (readItems cs) (v :: vs) rest := by
  obtain ⟨x, hx, rfl, rfl⟩ := hv
  obtain ⟨y, hy, rfl, rfl⟩ := hr
  rw [readItems]
  simp only [hx]
  split
  · rename_i behind' hb
    rw [h] at hb
    cases hb
  · rename_i behind' hb
    rw [h] at hb
    cases hb
    rw [hy]
    exact ⟨_, rfl, rfl, rfl⟩
  · rename_i hne
    exact absurd h (hne behind)

/-- A key, a colon and a value come first, and the given text is behind them. -/
def MemberFirst (cs : List Char) (key : String) (v : Json) (rest : List Char) : Prop :=
  ∃ afterQuote afterKey afterColon, skipGap cs = '"' :: afterQuote ∧
    Gives (readString afterQuote) key afterKey ∧ skipGap afterKey = ':' :: afterColon ∧
    Gives (readValue (skipGap afterColon)) v rest

theorem readMembers_last {cs mid rest : List Char} {key : String} {v : Json}
    (hm : MemberFirst cs key v mid) (h : skipGap mid = '\x7d' :: rest) :
    Gives (readMembers cs) [(key, v)] rest := by
  obtain ⟨afterQuote, _, afterColon, hq, ⟨k, hk, rfl, rfl⟩, hc, x, hx, rfl, rfl⟩ := hm
  rw [readMembers]
  split
  · rename_i afterQuote' hq'
    rw [hq] at hq'
    cases hq'
    simp only [hk]
    split
    · rename_i afterColon' hc'
      rw [hc] at hc'
      cases hc'
      simp only [hx]
      split
      · rename_i behind hb
        rw [h] at hb
        cases hb
        exact ⟨_, rfl, rfl, rfl⟩
      · rename_i behind hb
        rw [h] at hb
        cases hb
      · rename_i hne _
        exact absurd h (hne rest)
    · rename_i hne
      exact absurd hc (hne afterColon)
  · rename_i hne
    exact absurd hq (hne afterQuote)

theorem readMembers_more {cs mid behind rest : List Char} {key : String} {v : Json}
    {members : Members} (hm : MemberFirst cs key v mid) (h : skipGap mid = ',' :: behind)
    (hr : Gives (readMembers behind) members rest) :
    Gives (readMembers cs) ((key, v) :: members) rest := by
  obtain ⟨afterQuote, _, afterColon, hq, ⟨k, hk, rfl, rfl⟩, hc, x, hx, rfl, rfl⟩ := hm
  obtain ⟨y, hy, rfl, rfl⟩ := hr
  rw [readMembers]
  split
  · rename_i afterQuote' hq'
    rw [hq] at hq'
    cases hq'
    simp only [hk]
    split
    · rename_i afterColon' hc'
      rw [hc] at hc'
      cases hc'
      simp only [hx]
      split
      · rename_i behind' hb
        rw [h] at hb
        cases hb
      · rename_i behind' hb
        rw [h] at hb
        cases hb
        rw [hy]
        exact ⟨_, rfl, rfl, rfl⟩
      · rename_i hne
        exact absurd h (hne behind)
    · rename_i hne
      exact absurd hc (hne afterColon)
  · rename_i hne
    exact absurd hq (hne afterQuote)

/-! ## Values inside values -/

/-- The text of a value is read back at any depth and in front of anything that ends a value. -/
def ReadsBack (layout : Layout) (v : Json) : Prop :=
  Exact v ∧ ∀ depth rest, EndsValue rest →
    Gives (readValue (write layout depth v ++ rest)) v rest

theorem ReadsBack.skipGap_write {layout : Layout} {v : Json} (h : ReadsBack layout v)
    (before depth : Nat) (rest : List Char) :
    skipGap (layout.break before ++ (write layout depth v ++ rest)) =
      write layout depth v ++ rest := by
  obtain ⟨c, cs, e, hc, _⟩ := h.1.exists_head layout depth
  rw [e]
  exact skipGap_break layout before hc (cs ++ rest)

theorem ReadsBack.memberFirst {layout : Layout} {v : Json} (h : ReadsBack layout v)
    (depth : Nat) (key : String) {rest : List Char} (hr : EndsValue rest) :
    MemberFirst (layout.break depth ++ (stringText key ++
      (layout.colon ++ (write layout depth v ++ rest)))) key v rest := by
  obtain ⟨c, cs, e, hc, _⟩ := h.1.exists_head layout depth
  obtain ⟨tail, ht, htail⟩ := skipGap_colon layout hc (cs ++ rest)
  refine ⟨key.toList.flatMap escapeChar ++ '"' :: (layout.colon ++ (write layout depth v ++ rest)),
    layout.colon ++ (write layout depth v ++ rest), tail, ?_, readString_text key _, ?_, ?_⟩
  · have hq : isGap '"' = false := rfl
    rw [stringText, List.append_assoc, List.cons_append, skipGap_break layout depth hq]
    rfl
  · rw [e]
    exact ht
  · rw [htail]
    have hv := h.2 depth rest hr
    rw [e] at hv
    exact hv

theorem readItems_write (layout : Layout) (depth before : Nat) (rest : List Char)
    (item : Json) (items : List Json) (h : ∀ v ∈ item :: items, ReadsBack layout v) :
    Gives (readItems (layout.break depth ++ (write layout depth item ++
      (writeItems layout depth items ++ (layout.break before ++ ']' :: rest)))))
      (item :: items) rest := by
  have hend := endsValue_break layout before (c := ']') (.inl rfl) rest
  induction items generalizing item with
  | nil =>
    have hi := h item List.mem_cons_self
    have hb : isGap ']' = false := rfl
    have hv := hi.2 depth _ hend
    rw [← hi.skipGap_write depth] at hv
    exact readItems_last hv (skipGap_break layout before hb rest)
  | cons next items ih =>
    have hi := h item List.mem_cons_self
    have hnext := ih next fun v hv => h v (List.mem_cons_of_mem item hv)
    have hc : isGap ',' = false := rfl
    have hv := hi.2 depth _ (endsValue_items layout depth (next :: items) hend)
    rw [← hi.skipGap_write depth] at hv
    refine readItems_more hv ?_ hnext
    rw [writeItems]
    simp only [List.cons_append, List.append_assoc]
    exact skipGap_cons hc _

theorem readMembers_write (layout : Layout) (depth before : Nat) (rest : List Char)
    (key : String) (v : Json) (members : Members)
    (h : ∀ m ∈ (key, v) :: members, ReadsBack layout m.2) :
    Gives (readMembers (layout.break depth ++ (stringText key ++ (layout.colon ++
      (write layout depth v ++ (writeMembers layout depth members ++
        (layout.break before ++ '\x7d' :: rest)))))))
      ((key, v) :: members) rest := by
  have hend := endsValue_break layout before (c := '\x7d') (.inr rfl) rest
  induction members generalizing key v with
  | nil =>
    have hv : ReadsBack layout v := h (key, v) List.mem_cons_self
    have hb : isGap '\x7d' = false := rfl
    exact readMembers_last (hv.memberFirst depth key hend) (skipGap_break layout before hb rest)
  | cons next members ih =>
    obtain ⟨key', v'⟩ := next
    have hv : ReadsBack layout v := h (key, v) List.mem_cons_self
    have hnext := ih key' v' fun m hm => h m (List.mem_cons_of_mem (key, v) hm)
    have hc : isGap ',' = false := rfl
    refine readMembers_more
      (hv.memberFirst depth key (endsValue_members layout depth _ hend)) ?_ hnext
    rw [writeMembers]
    simp only [List.cons_append, List.append_assoc]
    exact skipGap_cons hc _

/-! ## Any value -/

theorem Exact.readsBack {v : Json} (h : Exact v) (layout : Layout) : ReadsBack layout v := by
  refine ⟨h, ?_⟩
  induction h with
  | null =>
    intro depth rest _
    exact readValue_word (c := 'n') (by decide) (by decide) (by decide) rfl
  | bool b =>
    intro depth rest _
    cases b with
    | false =>
      exact readValue_word (c := 'f') (by decide) (by decide) (by decide) rfl
    | true =>
      exact readValue_word (c := 't') (by decide) (by decide) (by decide) rfl
  | @int n hn =>
    intro depth rest hr
    rw [write]
    exact readValue_int hr hn
  | str s =>
    intro depth rest _
    rw [write]
    exact readValue_str s rest
  | @arr items hi ih =>
    intro depth rest _
    cases items with
    | nil =>
      rw [write]
      exact readValue_arr_nil (skipGap_cons rfl rest)
    | cons item items =>
      have hb : ∀ v ∈ item :: items, ReadsBack layout v := fun v hv => ⟨hi v hv, ih v hv⟩
      have hr := readItems_write layout (depth + 1) depth rest item items hb
      have e : write layout depth (.arr (item :: items)) ++ rest =
          '[' :: (layout.break (depth + 1) ++ (write layout (depth + 1) item ++
            (writeItems layout (depth + 1) items ++ (layout.break depth ++ ']' :: rest)))) := by
        simp [write]
      rw [e]
      refine readValue_arr ?_ hr
      intro behind he
      rw [(hb item List.mem_cons_self).skipGap_write] at he
      obtain ⟨c, cs, ec, _, hc, _⟩ :=
        (hi item List.mem_cons_self).exists_head layout (depth + 1)
      rw [ec] at he
      exact hc (List.cons.inj he).1
  | @obj members keys hm ih =>
    intro depth rest _
    cases members with
    | nil =>
      rw [write]
      exact readValue_obj_nil (skipGap_cons rfl rest)
    | cons member members =>
      obtain ⟨key, v⟩ := member
      have hb : ∀ m ∈ (key, v) :: members, ReadsBack layout m.2 :=
        fun m h => ⟨hm m h, ih m h⟩
      have hr := readMembers_write layout (depth + 1) depth rest key v members hb
      have e : write layout depth (.obj ((key, v) :: members)) ++ rest =
          '\x7b' :: (layout.break (depth + 1) ++ (stringText key ++ (layout.colon ++
            (write layout (depth + 1) v ++ (writeMembers layout (depth + 1) members ++
              (layout.break depth ++ '\x7d' :: rest)))))) := by
        simp [write]
      rw [e]
      refine readValue_obj keys ?_ hr
      intro behind he
      have hq : isGap '"' = false := rfl
      rw [stringText, List.append_assoc, List.cons_append, skipGap_break layout _ hq] at he
      cases he

/-- Reading the text of a value gives the value back. -/
theorem read_write {v : Json} (h : Exact v) (layout : Layout) :
    read (write layout 0 v) = .ok v := by
  have hv := (h.readsBack layout).2 0 [] endsValue_nil
  rw [List.append_nil] at hv
  obtain ⟨c, cs, e, hc, _, hbom⟩ := h.exists_head layout 0
  have hs : skipGap (write layout 0 v) = write layout 0 v := by
    rw [e]
    exact skipGap_cons hc cs
  rw [← hs] at hv
  obtain ⟨x, hx, hxv, hxr⟩ := hv
  unfold read
  split
  · rename_i tail hb
    rw [e] at hb
    exact absurd (List.cons.inj hb).1 hbom
  · rw [hx]
    simp only [hxr, hxv]
    rfl

theorem lt_length_toDigits_pow {k : Nat} (h : 0 < k) : k < (Nat.toDigits 10 (10 ^ k)).length :=
  (Text.pow_le_iff_lt_length_toDigits h (10 ^ k)).1 (Nat.le_refl _)

/-- An integer of too many digits is not read. -/
theorem read_intText_of_long {n : Int}
    (h : Text.digitLimit < (Nat.toDigits 10 n.natAbs).length) :
    read (intText n) = .error (.longNumber (Nat.toDigits 10 n.natAbs).length) := by
  obtain ⟨c, cs, e, hc⟩ := exists_intText_eq_cons n
  have differs : ∀ d : Char, ¬(d = '-' ∨ d.isDigit) → c ≠ d := fun d hd he => hd (he ▸ hc)
  have gap : isGap c = false := by
    simp [isGap, differs ' ' (by decide), differs '\t' (by decide), differs '\n' (by decide),
      differs '\r' (by decide)]
  have start : skipGap (intText n) = intText n := by
    rw [e]
    exact skipGap_cons gap cs
  have value := readValue_intText n []
  rw [List.append_nil, readScalar_intText_of_long h, ← start] at value
  unfold read
  split
  · rename_i tail hb
    rw [e] at hb
    exact absurd (List.cons.inj hb).1 (differs _ (by decide))
  · rw [value]

theorem read_render {v : Json} (h : Exact v) (layout : Layout) :
    read (render layout v).toList = .ok v := by
  rw [render, String.toList_ofList]
  exact read_write h layout

end SpannerDdl.Json
