import SpannerDdl.Grammar.Statement
import SpannerDdl.Proofs.Statement.Complete

/-! # What the grammar reads

Whatever tokens it is given, a reader of the grammar leaves off at the tokens behind some place in
them, where it stops or finds fault, and what it returns is complete. Names are texts of words and
quoted identifiers among the tokens.

* `Fits all Q r`: the result `r` of a reader, whose value has the property `Q`.
* `Skips all r`: the result of a reader that returns nothing.
* `Texts P all`: the names among the tokens are of a given kind. -/

set_option autoImplicit false

namespace SpannerDdl.Grammar

variable {α β : Type} {P : String → Prop} {all : List Token}

/-! ## Results of readers -/

/-- A reader of some of the tokens `all` stops or fails at the tokens behind some place in them,
and what it returns has the property `Q`. -/
def Fits (all : List Token) (Q : α → Prop) : Except Mismatch (α × List Token) → Prop
  | .ok (a, rest) => Q a ∧ rest <:+ all
  | .error m => m.rest <:+ all

/-- The same for a reader that returns nothing. -/
def Skips (all : List Token) : Except Mismatch (List Token) → Prop
  | .ok rest => rest <:+ all
  | .error m => m.rest <:+ all

theorem Fits.bind {Q : α → Prop} {R : β → Prop} {r : Except Mismatch (α × List Token)}
    {f : α × List Token → Except Mismatch (β × List Token)} (h : Fits all Q r)
    (hf : ∀ a rest, Q a → rest <:+ all → Fits all R (f (a, rest))) : Fits all R (r >>= f) := by
  cases r with
  | error m => exact h
  | ok p => exact hf p.1 p.2 h.1 h.2

theorem Skips.bind {R : β → Prop} {r : Except Mismatch (List Token)}
    {f : List Token → Except Mismatch (β × List Token)} (h : Skips all r)
    (hf : ∀ rest, rest <:+ all → Fits all R (f rest)) : Fits all R (r >>= f) := by
  cases r with
  | error m => exact h
  | ok rest => exact hf rest h

theorem Skips.andThen {r : Except Mismatch (List Token)}
    {f : List Token → Except Mismatch (List Token)} (h : Skips all r)
    (hf : ∀ rest, rest <:+ all → Skips all (f rest)) : Skips all (r >>= f) := by
  cases r with
  | error m => exact h
  | ok rest => exact hf rest h

theorem Fits.map {Q : α → Prop} {R : β → Prop} {r : Except Mismatch (α × List Token)}
    {f : α × List Token → β × List Token} (h : Fits all Q r)
    (hf : ∀ a rest, Q a → rest <:+ all → R (f (a, rest)).1 ∧ (f (a, rest)).2 <:+ all) :
    Fits all R (r.map f) := by
  cases r with
  | error m => exact h
  | ok p => exact hf p.1 p.2 h.1 h.2

theorem Fits.skips {Q : α → Prop} {r : Except Mismatch (α × List Token)} (h : Fits all Q r) :
    Skips all (r.map Prod.snd) := by
  cases r with
  | error m => exact h
  | ok p => exact h.2

theorem Fits.imp {Q R : α → Prop} {r : Except Mismatch (α × List Token)} (h : Fits all Q r)
    (hQ : ∀ a, Q a → R a) : Fits all R r := by
  cases r with
  | error m => exact h
  | ok p => exact ⟨hQ p.1 h.1, h.2⟩

/-! ## Keywords and punctuation -/

theorem suffix_of_keywords? {words : List String} {ts rest : List Token}
    (h : keywords? words ts = some rest) : rest <:+ ts := by
  induction words generalizing ts with
  | nil =>
    cases h
    exact List.suffix_refl _
  | cons word words ih =>
    cases ts with
    | nil => cases h
    | cons t ts =>
      unfold keywords? at h
      split at h
      · exact (ih h).trans (List.suffix_cons t ts)
      · cases h

theorem suffix_of_punct? {text : String} {ts rest : List Token} (h : punct? text ts = some rest) :
    rest <:+ ts := by
  cases ts with
  | nil => cases h
  | cons t ts =>
    simp only [punct?] at h
    split at h
    · cases h
      exact List.suffix_cons t rest
    · cases h

theorem suffix_accept (words : List String) {ts : List Token} (h : ts <:+ all) :
    (accept words ts).2 <:+ all := by
  unfold accept
  split
  · rename_i rest hr
    exact (suffix_of_keywords? hr).trans h
  · exact h

theorem skips_expectKeywords (words : List String) {ts : List Token} (h : ts <:+ all) :
    Skips all (expectKeywords words ts) := by
  unfold expectKeywords
  split
  · rename_i rest hr
    exact (suffix_of_keywords? hr).trans h
  · exact h

theorem skips_expectPunct (text : String) {ts : List Token} (h : ts <:+ all) :
    Skips all (expectPunct text ts) := by
  unfold expectPunct
  split
  · rename_i rest hr
    exact (suffix_of_punct? hr).trans h
  · exact h

/-! ## Names -/

/-- The words and quoted identifiers among the tokens have texts of a given kind. -/
def Texts (P : String → Prop) (all : List Token) : Prop :=
  ∀ t ∈ all, t.kind = .word ∨ t.kind = .ident → P t.text

theorem Texts.complete_of_ident? (hP : Texts P all) {t : Token} {ts : List Token}
    (h : t :: ts <:+ all) {i : Ident} (hi : ident? t = some i) : i.Complete P := by
  unfold ident? at hi
  split at hi
  · rename_i hk
    cases hi
    exact hP t (h.subset List.mem_cons_self) hk
  · cases hi

theorem suffix_of_cons {t : Token} {ts : List Token} (h : t :: ts <:+ all) : ts <:+ all :=
  (List.suffix_cons t ts).trans h

section
variable (hP : Texts P all) {ts : List Token} (h : ts <:+ all)
include hP h

theorem fits_ident : Fits all (Ident.Complete P) (ident ts) := by
  cases ts with
  | nil => exact h
  | cons t ts =>
    simp only [ident]
    split
    · rename_i i hi
      exact ⟨hP.complete_of_ident? h hi, suffix_of_cons h⟩
    · exact h

theorem fits_identsBehind (separator : String) :
    Fits all (fun is => ∀ i ∈ is, i.Complete P) (identsBehind separator ts) := by
  fun_induction identsBehind separator ts with
  | case1 => exact ⟨by simp, h⟩
  | case2 => exact List.nil_suffix
  | case3 => exact ⟨by simp, h⟩
  | case4 => exact suffix_of_cons h
  | case5 s t ts hs i hi ih =>
    have ht := suffix_of_cons h
    refine (ih (suffix_of_cons ht)).map fun is rest his hrest => ⟨?_, hrest⟩
    exact List.forall_mem_cons.2 ⟨hP.complete_of_ident? ht hi, his⟩
  | case6 => exact ⟨by simp, h⟩

theorem fits_idents (separator : String) :
    Fits all (fun is => is ≠ [] ∧ ∀ i ∈ is, i.Complete P) (idents separator ts) := by
  refine (fits_ident hP h).bind fun i ts hi h => ?_
  refine (fits_identsBehind hP h separator).bind fun is ts his h => ?_
  exact ⟨⟨List.cons_ne_nil i is, List.forall_mem_cons.2 ⟨hi, his⟩⟩, h⟩

theorem fits_path : Fits all (Path.Complete P) (path ts) := by
  refine (fits_idents hP h ".").bind fun is ts his h => ?_
  exact ⟨⟨his.1, his.2⟩, h⟩

theorem fits_identsInside : Fits all (fun is => ∀ i ∈ is, i.Complete P) (identsInside ts) := by
  unfold identsInside
  split
  · exact ⟨by simp, h⟩
  · exact (fits_idents hP h ",").imp fun is his => his.2

theorem fits_identList : Fits all (fun is => ∀ i ∈ is, i.Complete P) (identList ts) := by
  refine (skips_expectPunct "(" h).bind fun ts h => ?_
  refine (fits_identsInside hP h).bind fun is ts his h => ?_
  refine (skips_expectPunct ")" h).bind fun ts h => ?_
  exact ⟨his, h⟩

/-! ## Keys -/

omit hP in
theorem suffix_direction? : (direction? ts).2 <:+ all := by
  cases ts with
  | nil => exact h
  | cons t ts =>
    simp only [direction?]
    split
    · exact suffix_of_cons h
    · split
      · exact suffix_of_cons h
      · exact h

theorem fits_keyPart : Fits all (fun k => k.name.Complete P) (keyPart ts) := by
  refine (fits_ident hP h).bind fun i ts hi h => ?_
  exact ⟨hi, suffix_direction? h⟩

theorem fits_keyParts : Fits all (fun ks => ∀ k ∈ ks, k.name.Complete P) (keyParts ts) := by
  fun_induction keyParts ts with
  | case1 ts e he =>
    have hk := fits_keyPart hP h
    rw [he] at hk
    exact hk
  | case2 ts k ts1 he hc =>
    have hk := fits_keyPart hP h
    rw [he] at hk
    exact ⟨List.forall_mem_singleton.2 hk.1, hk.2⟩
  | case3 ts k ts1 he ts2 hc s1 s2 ih =>
    have hk := fits_keyPart hP h
    rw [he] at hk
    refine (ih ((suffix_of_punct? hc).trans hk.2)).map fun ks rest hks hrest => ⟨?_, hrest⟩
    exact List.forall_mem_cons.2 ⟨hk.1, hks⟩

theorem fits_keysInside : Fits all (fun ks => ∀ k ∈ ks, k.name.Complete P) (keysInside ts) := by
  unfold keysInside
  split
  · exact ⟨by simp, h⟩
  · exact fits_keyParts hP h

theorem fits_keyList : Fits all (fun ks => ∀ k ∈ ks, k.name.Complete P) (keyList ts) := by
  refine (skips_expectPunct "(" h).bind fun ts h => ?_
  refine (fits_keysInside hP h).bind fun ks ts hks h => ?_
  refine (skips_expectPunct ")" h).bind fun ts h => ?_
  exact ⟨hks, h⟩

/-! ## Groups in parentheses -/

omit hP h in
theorem suffix_of_closing {depth : Nat} {ts group rest : List Token}
    (h : closing depth ts = some (group, rest)) : rest <:+ ts := by
  induction ts generalizing depth group with
  | nil => cases h
  | cons t ts ih =>
    have lift : ∀ {d : Nat}, ((closing d ts).map fun p => (t :: p.1, p.2)) = some (group, rest) →
        rest <:+ t :: ts := by
      intro d hm
      obtain ⟨⟨g, r⟩, hg, e⟩ := Option.map_eq_some_iff.1 hm
      cases e
      exact (ih hg).trans (List.suffix_cons t ts)
    simp only [closing] at h
    split at h
    · exact lift h
    · split at h
      · cases depth with
        | zero =>
          cases h
          exact List.suffix_cons t rest
        | succ depth => exact lift h
      · exact lift h

omit hP in
theorem fits_balanced : Fits all (fun _ => True) (balanced ts) := by
  unfold balanced
  split
  · exact h
  · rename_i ts1 h1
    have s1 := (suffix_of_punct? h1).trans h
    split
    · exact List.nil_suffix
    · rename_i found h2
      exact ⟨trivial, (suffix_of_closing h2).trans s1⟩

omit hP in
theorem fits_balancedText : Fits all (fun _ => True) (balancedText ts) :=
  (fits_balanced h).map fun _ _ _ hrest => ⟨trivial, hrest⟩

end

end SpannerDdl.Grammar
