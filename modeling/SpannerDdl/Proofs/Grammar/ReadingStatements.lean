import SpannerDdl.Proofs.Grammar.Reading

/-! # The statements that the grammar reads

Every statement that is read from tokens is complete: its names are texts of words and quoted
identifiers among the tokens, and its types and sizes are of the kinds of the grammar. -/

set_option autoImplicit false

namespace SpannerDdl.Grammar

variable {P : String → Prop} {all ts : List Token}

/-! ## Sizes and types -/

section
variable (hP : Texts P all) (h : ts <:+ all)
include hP h

theorem fits_intValue : Fits all IntValue.Complete (intValue ts) := by
  fun_induction intValue ts with
  | case1 => exact h
  | case2 t ts hn => exact ⟨trivial, suffix_of_cons h⟩
  | case3 t ts hn ha =>
    refine (fits_ident hP (suffix_of_cons h)).bind fun i rest hi h => ?_
    exact ⟨trivial, h⟩
  | case4 t ts hn ha name hp => exact ⟨trivial, suffix_of_cons h⟩
  | case5 => exact List.nil_suffix
  | case6 t hn ha hp hc p inside hp' ih =>
    refine (ih (suffix_of_cons (suffix_of_cons h))).bind fun v rest hv h => ?_
    refine (skips_expectKeywords ["AS"] h).bind fun rest h => ?_
    refine (fits_ident hP h).bind fun i rest hi h => ?_
    refine (skips_expectPunct ")" h).bind fun rest h => ?_
    exact ⟨hv, h⟩
  | case7 => exact suffix_of_cons h
  | case8 => exact h

omit hP in
theorem skips_arrow : Skips all (arrow ts) := by
  unfold arrow
  split
  · rename_i rest hr
    exact (suffix_of_punct? hr).trans h
  · exact (skips_expectPunct "=" h).andThen fun rest h => skips_expectPunct ">" h

omit hP h in
theorem suffix_of_vectorLengthStart? {rest : List Token}
    (hr : vectorLengthStart? ts = some rest) : rest <:+ ts := by
  unfold vectorLengthStart? at hr
  split at hr
  · rename_i rest' hr'
    exact (suffix_of_keywords? hr).trans (suffix_of_punct? hr')
  · cases hr

theorem fits_vectorLength :
    Fits all (fun v => v = .missing ∨ v.Complete) (vectorLength ts) := by
  unfold vectorLength
  split
  · exact ⟨.inl rfl, h⟩
  · rename_i rest hr
    have h := (suffix_of_vectorLengthStart? hr).trans h
    refine (skips_arrow h).bind fun rest h => ?_
    refine (fits_intValue hP h).bind fun v rest hv h => ?_
    refine (skips_expectPunct ")" h).bind fun rest h => ?_
    exact ⟨.inr hv, h⟩

theorem fits_sizedType (name : String) : Fits all (ColumnType.Complete P) (sizedType name ts) := by
  unfold sizedType
  split
  · rename_i rest hr
    refine (skips_expectPunct ")" ((suffix_of_keywords? hr).trans h)).bind fun rest h => ?_
    exact ⟨rfl, h⟩
  · refine (fits_intValue hP h).bind fun size rest hs h => ?_
    refine (skips_expectPunct ")" h).bind fun rest h => ?_
    exact ⟨hs, h⟩

theorem fits_namedType {p : Path} (hp : p.Complete P) :
    Fits all (ColumnType.Complete P) (namedType p ts) := by
  unfold namedType
  split
  · simp only
    split
    · rename_i rest hr
      exact fits_sizedType hP ((suffix_of_punct? hr).trans h) _
    · refine ⟨?_, h⟩
      split
      · rename_i hs
        exact List.contains_iff_mem.1 hs
      · exact hp
  · exact ⟨hp, h⟩

theorem fits_columnType : Fits all (ColumnType.Complete P) (columnType ts) := by
  fun_induction columnType ts with
  | case1 => exact h
  | case2 => exact List.nil_suffix
  | case3 t hk p inside hp ih =>
    refine (ih (suffix_of_cons (suffix_of_cons h))).bind fun item rest hi h => ?_
    refine (skips_expectPunct ">" h).bind fun rest h => ?_
    refine (fits_vectorLength hP h).bind fun length rest hl h => ?_
    exact ⟨⟨hi, hl⟩, h⟩
  | case4 => exact suffix_of_cons h
  | case5 t ts hk => exact (fits_path hP h).bind fun p rest hp h => fits_namedType hP h hp

/-! ## Columns -/

omit hP in
theorem skips_identityOptions : Skips all (identityOptions ts) := by
  unfold identityOptions
  split
  · exact (fits_balanced h).skips
  · exact h

omit hP in
/-- An option leaves the name and the type of the column as they are. -/
theorem fits_columnOption {c : ColumnDef} (hc : c.Complete P) :
    Fits all (ColumnDef.Complete P) (columnOption c ts) := by
  have told : ∀ c' : ColumnDef, c'.name = c.name → c'.type = c.type → c'.Complete P := by
    intro c' hn ht
    exact ⟨hn ▸ hc.name, ht ▸ hc.type⟩
  have behind : ∀ {words : List String} {rest : List Token}, keywords? words ts = some rest →
      rest <:+ all := fun hr => (suffix_of_keywords? hr).trans h
  unfold columnOption
  split
  · rename_i rest hr; exact ⟨told _ rfl rfl, behind hr⟩
  split
  · rename_i rest hr; exact ⟨told _ rfl rfl, behind hr⟩
  split
  · rename_i rest hr; exact ⟨told _ rfl rfl, behind hr⟩
  split
  · rename_i rest hr; exact ⟨hc, behind hr⟩
  split
  · rename_i rest hr
    exact (fits_balancedText (behind hr)).map fun _ rest _ h => ⟨told _ rfl rfl, h⟩
  split
  · rename_i rest hr
    exact (fits_balancedText (behind hr)).map fun _ rest _ h =>
      ⟨told _ rfl rfl, suffix_accept ["STORED"] h⟩
  split
  · rename_i rest hr
    exact (fits_balanced (behind hr)).map fun _ rest _ h => ⟨hc, h⟩
  split
  · rename_i rest hr; exact ⟨hc, behind hr⟩
  split
  · rename_i rest hr
    have s1 := skips_identityOptions (behind hr)
    cases ho : identityOptions rest with
    | error m => rw [ho] at s1; exact s1
    | ok rest => rw [ho] at s1; exact ⟨hc, s1⟩
  · exact h

omit hP in
theorem fits_columnOptions {c : ColumnDef} (hc : c.Complete P) :
    Fits all (ColumnDef.Complete P) (columnOptions c ts) := by
  fun_induction columnOptions c ts with
  | case1 => exact ⟨hc, h⟩
  | case2 c ts hs e he =>
    have ho := fits_columnOption h hc
    rw [he] at ho
    exact ho
  | case3 c ts hs c1 ts1 h1 s1 ih =>
    have ho := fits_columnOption h hc
    rw [h1] at ho
    exact ih ho.2 ho.1

theorem fits_columnDef : Fits all (ColumnDef.Complete P) (columnDef ts) := by
  refine (fits_ident hP h).bind fun name ts hn h => ?_
  refine (fits_columnType hP h).bind fun type ts ht h => ?_
  exact fits_columnOptions h ⟨hn, ht⟩

/-! ## Constraints -/

omit hP in
theorem fits_onDelete : Fits all (fun _ => True) (onDelete ts) := by
  unfold onDelete
  split
  · exact ⟨trivial, h⟩
  · rename_i rest hr
    have h := (suffix_of_keywords? hr).trans h
    split
    · rename_i rest hr
      exact ⟨trivial, (suffix_of_keywords? hr).trans h⟩
    · split
      · rename_i rest hr
        exact ⟨trivial, (suffix_of_keywords? hr).trans h⟩
      · exact h

omit hP in
theorem suffix_enforcement : enforcement ts <:+ all := by
  unfold enforcement
  split
  · rename_i rest hr
    exact (suffix_of_keywords? hr).trans h
  · exact suffix_accept _ h

theorem fits_foreignKey : Fits all (ForeignKeyDef.Complete P) (foreignKey ts) := by
  refine (skips_expectKeywords _ h).bind fun ts h => ?_
  refine (fits_identList hP h).bind fun columns ts hc h => ?_
  refine (skips_expectKeywords _ h).bind fun ts h => ?_
  refine (fits_path hP h).bind fun referencedTable ts ht h => ?_
  refine (fits_identList hP h).bind fun referencedColumns ts hr h => ?_
  refine (fits_onDelete h).bind fun rule ts _ h => ?_
  exact ⟨⟨hc, ht, hr⟩, suffix_enforcement h⟩

theorem fits_constraintBody : Fits all (ConstraintBody.Complete P) (constraintBody ts) := by
  unfold constraintBody
  split
  · exact (fits_foreignKey hP h).map fun k rest hk h => ⟨hk, h⟩
  · split
    · rename_i rest hr
      exact (fits_balancedText ((suffix_of_keywords? hr).trans h)).map fun _ rest _ h =>
        ⟨trivial, h⟩
    · exact h

theorem fits_tableConstraint? :
    Fits all (fun c => ∀ c' ∈ c, c'.Complete P) (tableConstraint? ts) := by
  unfold tableConstraint?
  split
  · rename_i rest hr
    refine (fits_ident hP ((suffix_of_keywords? hr).trans h)).bind fun name rest hn h => ?_
    refine (fits_constraintBody hP h).bind fun body rest hb h => ?_
    refine ⟨fun c hc => ?_, h⟩
    cases hc
    exact ⟨hb, .inr hn⟩
  · split
    · refine (fits_constraintBody hP h).map fun body rest hb h => ⟨fun c hc => ?_, h⟩
      cases hc
      exact ⟨hb, .inl rfl⟩
    · exact ⟨fun c hc => (by cases hc), h⟩

end

/-! ## Elements of a table -/

def Element.Complete (P : String → Prop) : Element → Prop
  | .column c => c.Complete P
  | .constraint c => c.Complete P
  | .synonym => True

theorem Element.complete_columns {es : List Element} (h : ∀ e ∈ es, e.Complete P) :
    ∀ c ∈ es.filterMap Element.column?, c.Complete P := by
  intro c hc
  obtain ⟨e, he, hec⟩ := List.mem_filterMap.1 hc
  have s1 := h e he
  cases e with
  | column c' => cases hec; exact s1
  | constraint c' => cases hec
  | synonym => cases hec

theorem Element.complete_constraints {es : List Element} (h : ∀ e ∈ es, e.Complete P) :
    ∀ c ∈ es.filterMap Element.constraint?, c.Complete P := by
  intro c hc
  obtain ⟨e, he, hec⟩ := List.mem_filterMap.1 hc
  have s1 := h e he
  cases e with
  | column c' => cases hec
  | constraint c' => cases hec; exact s1
  | synonym => cases hec

section
variable (hP : Texts P all) (h : ts <:+ all)
include hP h

theorem fits_element : Fits all (Element.Complete P) (element ts) := by
  have hc := fits_tableConstraint? hP h
  unfold element
  split
  · rename_i e he
    rw [he] at hc
    exact hc
  · rename_i c rest he
    rw [he] at hc
    exact ⟨hc.1 c rfl, hc.2⟩
  · rename_i rest he
    rw [he] at hc
    have h := hc.2
    split
    · rename_i rest hr
      exact (fits_balanced ((suffix_of_keywords? hr).trans h)).map fun _ rest _ h => ⟨trivial, h⟩
    · exact (fits_columnDef hP h).map fun c rest hc h => ⟨hc, h⟩

theorem fits_elements : Fits all (fun es => ∀ e ∈ es, e.Complete P) (elements ts) := by
  fun_induction elements ts with
  | case1 => exact ⟨by simp, h⟩
  | case2 ts hp m hm =>
    have he := fits_element hP h
    rw [hm] at he
    exact he
  | case3 ts hp e ts1 h1 hc =>
    have he := fits_element hP h
    rw [h1] at he
    exact ⟨List.forall_mem_singleton.2 he.1, he.2⟩
  | case4 ts hp e ts1 h1 ts2 hc s1 s2 ih =>
    have he := fits_element hP h
    rw [h1] at he
    refine (ih ((suffix_of_punct? hc).trans he.2)).map fun es rest hes hrest => ⟨?_, hrest⟩
    exact List.forall_mem_cons.2 ⟨he.1, hes⟩

/-! ## Clauses behind the primary key -/

theorem fits_interleaving : Fits all (fun i => i.parent.Complete P) (interleaving ts) := by
  refine (skips_expectKeywords _ h).bind fun ts h => ?_
  refine (fits_path hP (suffix_accept ["PARENT"] h)).bind fun parent ts hp h => ?_
  refine (fits_onDelete h).bind fun rule ts _ h => ?_
  exact ⟨hp, h⟩

theorem fits_rowDeletionPolicy : Fits all (PolicyDef.Complete P) (rowDeletionPolicy ts) := by
  refine (skips_expectKeywords _ h).bind fun ts h => ?_
  refine (skips_expectPunct _ h).bind fun ts h => ?_
  refine (skips_expectKeywords _ h).bind fun ts h => ?_
  refine (skips_expectPunct _ h).bind fun ts h => ?_
  refine (fits_ident hP h).bind fun column ts hc h => ?_
  refine (skips_expectPunct _ h).bind fun ts h => ?_
  refine (skips_expectKeywords _ h).bind fun ts h => ?_
  refine (fits_intValue hP h).bind fun days ts hd h => ?_
  refine (skips_expectKeywords _ h).bind fun ts h => ?_
  refine (skips_expectPunct _ h).bind fun ts h => ?_
  refine (skips_expectPunct _ h).bind fun ts h => ?_
  exact ⟨⟨hc, hd⟩, h⟩

theorem fits_tableClause {t : CreateTable} (ht : t.Complete P) :
    Fits all (CreateTable.Complete P) (tableClause t ts) := by
  unfold tableClause
  split
  · refine (fits_interleaving hP h).map fun i rest hi h => ⟨?_, h⟩
    exact { ht with interleaving := fun j hj => by cases hj; exact hi }
  · split
    · refine (fits_rowDeletionPolicy hP h).map fun p rest hp h => ⟨?_, h⟩
      exact { ht with policy := fun q hq => by cases hq; exact hp }
    · exact h

theorem fits_tableClauses {t : CreateTable} (ht : t.Complete P) :
    Fits all (CreateTable.Complete P) (tableClauses t ts) := by
  fun_induction tableClauses t ts with
  | case1 => exact ⟨ht, h⟩
  | case2 t ts ts1 hc m hm =>
    have s1 := fits_tableClause hP ((suffix_of_punct? hc).trans h) ht
    rw [hm] at s1
    exact s1
  | case3 t ts ts1 hc t' ts2 h1 s1 s2 ih =>
    have s1 := fits_tableClause hP ((suffix_of_punct? hc).trans h) ht
    rw [h1] at s1
    exact ih s1.2 s1.1

theorem fits_primaryKey : Fits all (fun ks => ∀ k ∈ ks, k.name.Complete P) (primaryKey ts) := by
  unfold primaryKey
  split
  · rename_i rest hr
    exact fits_keyList hP ((suffix_of_keywords? hr).trans h)
  · exact ⟨by simp, h⟩

theorem fits_createTable : Fits all (CreateTable.Complete P) (createTable ts) := by
  refine (skips_expectKeywords _ h).bind fun ts h => ?_
  refine (fits_path hP (suffix_accept ["IF", "NOT", "EXISTS"] h)).bind fun name ts hn h => ?_
  refine (skips_expectPunct _ h).bind fun ts h => ?_
  refine (fits_elements hP h).bind fun es ts he h => ?_
  refine (skips_expectPunct _ h).bind fun ts h => ?_
  refine (fits_primaryKey hP h).bind fun key ts hk h => ?_
  refine fits_tableClauses hP h ?_
  exact {
    name := hn
    columns := Element.complete_columns he
    primaryKey := hk
    constraints := Element.complete_constraints he
    interleaving := fun i hi => by cases hi
    policy := fun p hp => by cases hp }

/-! ## Other statements -/

theorem fits_alteration : Fits all (Alteration.Complete P) (alteration ts) := by
  have behind : ∀ {words : List String} {rest : List Token}, keywords? words ts = some rest →
      rest <:+ all := fun hr => (suffix_of_keywords? hr).trans h
  have tail : ts.drop 1 <:+ all := (List.drop_suffix 1 ts).trans h
  unfold alteration
  split
  · exact (fits_rowDeletionPolicy hP tail).map fun p rest hp h => ⟨hp, h⟩
  split
  · exact (fits_rowDeletionPolicy hP tail).map fun p rest hp h => ⟨hp, h⟩
  split
  · rename_i rest hr; exact ⟨trivial, behind hr⟩
  split
  · rename_i rest hr
    refine (fits_columnDef hP (suffix_accept ["IF", "NOT", "EXISTS"] (behind hr))).map ?_
    exact fun c rest hc h => ⟨hc, h⟩
  split
  · have hc := fits_tableConstraint? hP tail
    split
    · rename_i e he
      rw [he] at hc
      exact hc
    · rename_i c rest he
      rw [he] at hc
      exact ⟨hc.1 c rfl, hc.2⟩
    · rename_i rest he
      rw [he] at hc
      exact hc.2
  split
  · rename_i rest hr
    exact (fits_ident hP (behind hr)).map fun i rest hi h => ⟨hi, h⟩
  split
  · rename_i rest hr
    exact (fits_ident hP (behind hr)).map fun i rest hi h => ⟨hi, h⟩
  split
  · exact (fits_interleaving hP tail).map fun i rest hi h => ⟨hi, h⟩
  split
  · exact (fits_onDelete tail).map fun _ rest _ h => ⟨trivial, h⟩
  split
  · rename_i rest hr
    exact (fits_balancedText (behind hr)).map fun _ rest _ h => ⟨trivial, h⟩
  split
  · rename_i rest hr
    exact (fits_ident hP (behind hr)).map fun i rest hi h => ⟨hi, List.nil_suffix⟩
  split
  · exact h
  · exact ⟨trivial, List.nil_suffix⟩

theorem fits_alterTable : Fits all (Statement.Complete P) (alterTable ts) := by
  refine (skips_expectKeywords _ h).bind fun ts h => ?_
  refine (fits_path hP h).bind fun name ts hn h => ?_
  refine (fits_alteration hP h).bind fun change ts hc h => ?_
  exact ⟨⟨hn, hc⟩, h⟩

omit hP in
theorem suffix_indexModifiers (unique nullFiltered : Bool) :
    (indexModifiers unique nullFiltered ts).2.2 <:+ all := by
  induction ts generalizing unique nullFiltered with
  | nil => exact h
  | cons t ts ih =>
    simp only [indexModifiers]
    split
    · exact ih (suffix_of_cons h) _ _
    · split
      · exact ih (suffix_of_cons h) _ _
      · exact h

theorem fits_storing :
    Fits all (fun l => ∀ is ∈ l, ∀ i ∈ is, i.Complete P) (storing ts) := by
  unfold storing
  split
  · rename_i rest hr
    refine (fits_identList hP ((suffix_of_keywords? hr).trans h)).map ?_
    intro is rest his h
    refine ⟨fun is' h' => ?_, h⟩
    cases h'
    exact his
  · exact ⟨fun is his => (by cases his), h⟩

omit hP in
theorem suffix_skipCondition : skipCondition ts <:+ all := by
  unfold skipCondition
  split
  · rename_i rest hr
    exact (List.dropWhile_suffix _).trans ((suffix_of_keywords? hr).trans h)
  · exact h

theorem fits_indexInterleaving :
    Fits all (fun p => ∀ i ∈ p, i.Complete P) (indexInterleaving ts) := by
  unfold indexInterleaving
  split
  · exact ⟨fun i hi => (by cases hi), h⟩
  · rename_i rest hr
    refine (skips_expectKeywords _ ((suffix_of_punct? hr).trans h)).bind fun rest h => ?_
    refine (fits_ident hP h).bind fun parent rest hp h => ?_
    refine ⟨fun i hi => ?_, h⟩
    cases hi
    exact hp

omit hP in
theorem skips_skipOptions : Skips all (skipOptions ts) := by
  unfold skipOptions
  split
  · rename_i rest hr
    exact (fits_balanced ((suffix_of_keywords? hr).trans h)).skips
  · exact h

theorem fits_createIndex : Fits all (CreateIndex.Complete P) (createIndex ts) := by
  refine (skips_expectKeywords _ h).bind fun ts h => ?_
  refine (skips_expectKeywords _ (suffix_indexModifiers h false false)).bind fun ts h => ?_
  refine (fits_path hP (suffix_accept ["IF", "NOT", "EXISTS"] h)).bind fun name ts hn h => ?_
  refine (skips_expectKeywords _ h).bind fun ts h => ?_
  refine (fits_path hP h).bind fun table ts ht h => ?_
  refine (fits_keyList hP h).bind fun keys ts hk h => ?_
  refine (fits_storing hP h).bind fun stored ts hs h => ?_
  refine (fits_indexInterleaving hP (suffix_skipCondition h)).bind fun parent ts hp h => ?_
  refine (skips_skipOptions h).bind fun ts h => ?_
  exact ⟨⟨hn, ht, hk, hs, hp⟩, h⟩

end

/-! ## Any statement -/

/-- A reader of all the tokens returns something with the property `Q`, or fails at the tokens
behind some place in them. -/
def Ends {α : Type} (all : List Token) (Q : α → Prop) : Except Mismatch α → Prop
  | .ok a => Q a
  | .error m => m.rest <:+ all

theorem Fits.ends {α β : Type} {Q : α → Prop} {R : β → Prop}
    {r : Except Mismatch (α × List Token)} {f : α → β} (h : Fits all Q r)
    (hf : ∀ a, Q a → R (f a)) : Ends all R ((complete r).map f) := by
  cases r with
  | error m => exact h
  | ok p =>
    obtain ⟨a, rest⟩ := p
    cases rest with
    | nil => exact hf a h.1
    | cons t rest => exact h.2

theorem ends_statement (hP : Texts P ts) : Ends ts (Statement.Complete P) (statement ts) := by
  have h := List.suffix_refl ts
  unfold statement
  split
  · exact (fits_createTable hP h).ends fun t ht => ht
  split
  · have s1 := (fits_alterTable hP h).ends (f := id) fun s hs => hs
    cases ha : complete (alterTable ts) with
    | error m => rw [ha] at s1; exact s1
    | ok s => rw [ha] at s1; exact s1
  split
  · exact (fits_createIndex hP h).ends fun i hi => hi
  · exact trivial

/-- Every statement that is read is complete. -/
theorem complete_of_statement (hP : Texts P ts) {s : Statement} (h : statement ts = .ok s) :
    s.Complete P := by
  have s1 := ends_statement hP
  rw [h] at s1
  exact s1

end SpannerDdl.Grammar
