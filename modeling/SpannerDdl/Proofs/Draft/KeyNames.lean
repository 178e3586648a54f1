import SpannerDdl.Proofs.Draft.Effect
import SpannerDdl.Proofs.Text.Separated

/-! # The names of unnamed foreign keys

A foreign key without a name is given one when it is recorded. How much these names tell apart is a
matter of reading them back.

* `Draft.recordings d s`: the foreign keys that a statement records, each as it is stated and as it
  is recorded; `Draft.recordingsIn d ss`: those of all statements of a run.
* `ForeignKey.nameParts k n`: the parts of the name of a foreign key behind `n` unnamed ones.
* `names_of_columnless_keys`: unnamed foreign keys without columns never share a name.
* `name_eq_iff_of_plain_keys`: where the parts of names are plain, unnamed foreign keys share a name
  just if they have the same table and the same columns, and do have columns.
-/

set_option autoImplicit false

namespace SpannerDdl

/-! ## What a run records -/

namespace Draft

/-- The foreign keys that a statement records, in order, each as it is stated and as it is recorded.
They stand behind those that the draft had. -/
def recordings (d : Draft) (s : GappedStatement) : List (ForeignKey × ForeignKey) :=
  s.statement.statedKeys.zip ((d.applyGapped s).1.foreignKeys.drop d.foreignKeys.length)

/-- The foreign keys that are recorded in a run, also those that are dropped again. -/
def recordingsIn (d : Draft) : List GappedStatement → List (ForeignKey × ForeignKey)
  | [] => []
  | s :: ss => d.recordings s ++ (d.applyGapped s).1.recordingsIn ss

end Draft

theorem Statement.statedKeys_or_dropsKey (s : Statement) :
    s.statedKeys = [] ∨ ∀ key, s.dropsKey key = false := by
  cases s with
  | alterTable name change =>
    cases change with
    | dropConstraint c => exact .inl rfl
    | _ => exact .inr fun _ => rfl
  | _ => exact .inr fun _ => rfl

theorem Effect.drop_foreignKeys_on {e : Effect} (h : ∀ key, e.drops key = false) (d : Draft) :
    (e.on d).foreignKeys.drop d.foreignKeys.length = ForeignKey.numbered d.unnamedKeys e.keys := by
  rw [on, filter_drops_of_none h]
  exact List.drop_left

namespace Draft

/-- What a statement records, it records under names that go on from the number of unnamed foreign
keys so far. -/
theorem Placed.exists_recordings {d : Draft} (h : d.Placed) (s : GappedStatement) :
    ∃ ks, d.recordings s = ks.zip (ForeignKey.numbered d.unnamedKeys ks) ∧
      (d.applyGapped s).1.foreignKeys.Sublist
        (d.foreignKeys ++ ForeignKey.numbered d.unnamedKeys ks) ∧
      (d.applyGapped s).1.unnamedKeys = d.unnamedKeys + ForeignKey.unnamed ks := by
  refine ⟨(s.effect (d.applyGapped s).2).keys, ?_, ?_, ?_⟩
  · rw [recordings, applyGapped_eq_effect h]
    rcases s.effect_cases (d.applyGapped s).2 with whole | keys | nothing
    · rw [whole]
      rcases s.statement.statedKeys_or_dropsKey with stated | kept
      · have none : s.statement.effect.keys = [] := stated
        rw [stated, none]
        rfl
      · rw [Effect.drop_foreignKeys_on kept]
        rfl
    · rw [keys, Effect.drop_foreignKeys_on fun _ => rfl]
    · rw [nothing, Effect.drop_foreignKeys_on fun _ => rfl]
      exact List.zip_nil_right
  · rw [applyGapped_eq_effect h]
    exact List.Sublist.append_right List.filter_sublist _
  · rw [applyGapped_eq_effect h]
    rfl

/-- All that a run records is numbered as if it were recorded at once, and the draft behind the run
holds nothing else. -/
theorem Placed.exists_recordingsIn {d : Draft} (h : d.Placed) (ss : List GappedStatement) :
    ∃ ks, d.recordingsIn ss = ks.zip (ForeignKey.numbered d.unnamedKeys ks) ∧
      (d.runGapped ss).foreignKeys.Sublist
        (d.foreignKeys ++ ForeignKey.numbered d.unnamedKeys ks) := by
  induction ss generalizing d with
  | nil => exact ⟨[], rfl, (List.append_nil _).symm ▸ List.Sublist.refl _⟩
  | cons s ss ih =>
    obtain ⟨ks, recorded, held, counted⟩ := h.exists_recordings s
    obtain ⟨ks', recorded', held'⟩ := ih (h.applyGapped s)
    -- The numbers of the later keys go on where those of the first statement end.
    rw [counted] at recorded' held'
    refine ⟨ks ++ ks', ?_, ?_⟩
    · rw [recordingsIn, recorded, recorded', ForeignKey.numbered_append,
        List.zip_append (ForeignKey.length_numbered ..).symm]
    · rw [ForeignKey.numbered_append, ← List.append_assoc]
      exact held'.trans (held.append_right _)

end Draft

/-! ## Numbers of unnamed foreign keys -/

namespace ForeignKey

theorem numbered_cons (n : Nat) (k : ForeignKey) (ks : List ForeignKey) :
    numbered n (k :: ks) = k.namedAt n :: numbered (n + unnamed [k]) ks := by
  have s1 : k :: ks = [k] ++ ks := rfl
  rw [s1, numbered_append]
  rfl

theorem le_of_mem_numbered {n : Nat} {ks : List ForeignKey} {p : ForeignKey × ForeignKey}
    (h : p ∈ ks.zip (numbered n ks)) : ∃ m, n ≤ m ∧ p.2 = p.1.namedAt m := by
  induction ks generalizing n with
  | nil => cases h
  | cons k ks ih =>
    rw [numbered_cons, List.zip_cons_cons, List.mem_cons] at h
    rcases h with rfl | h
    · exact ⟨n, Nat.le_refl n, rfl⟩
    · obtain ⟨m, hm, hp⟩ := ih h
      exact ⟨m, Nat.le_of_add_right_le hm, hp⟩

/-- An unnamed foreign key is behind fewer unnamed ones than all that come later. -/
theorem pairwise_numbered (n : Nat) (ks : List ForeignKey) :
    (ks.zip (numbered n ks)).Pairwise fun p q => p.1.name = "" →
      ∃ m m', m < m' ∧ p.2 = p.1.namedAt m ∧ q.2 = q.1.namedAt m' := by
  induction ks generalizing n with
  | nil => exact List.Pairwise.nil
  | cons k ks ih =>
    rw [numbered_cons, List.zip_cons_cons, List.pairwise_cons]
    refine ⟨fun q hq unnamedKey => ?_, ih _⟩
    obtain ⟨m', hm', hq'⟩ := le_of_mem_numbered hq
    have one : unnamed [k] = 1 := by
      have s1 : (k.name == "") = true := beq_iff_eq.2 unnamedKey
      simp [unnamed, s1]
    rw [one] at hm'
    exact ⟨n, m', hm', rfl, hq'⟩

/-- A foreign key is recorded as it is stated but for its name. -/
theorem namedAt_eq (k : ForeignKey) (n : Nat) :
    k.namedAt n = { k with name := (k.namedAt n).name } := by
  unfold namedAt
  split
  · rfl
  · split
    · rfl
    · rfl

@[simp] theorem referencingTable_namedAt (k : ForeignKey) (n : Nat) :
    (k.namedAt n).referencingTable = k.referencingTable := by
  rw [namedAt_eq]

@[simp] theorem referencingColumns_namedAt (k : ForeignKey) (n : Nat) :
    (k.namedAt n).referencingColumns = k.referencingColumns := by
  rw [namedAt_eq]

/-! ## Names and their parts -/

/-- The parts of the name that a foreign key without a name gets behind `n` unnamed ones. -/
def nameParts (k : ForeignKey) (n : Nat) : List String :=
  k.referencingTable ::
    (if k.referencingColumns = [] then ["ref", toString n] else k.referencingColumns) ++ ["fk"]

theorem name_namedAt {k : ForeignKey} (unnamedKey : k.name = "") (n : Nat) :
    (k.namedAt n).name = "_".intercalate (k.nameParts n) := by
  have middle : ∀ names : List String, names ≠ [] →
      "_".intercalate (k.referencingTable :: names ++ ["fk"]) =
        k.referencingTable ++ "_" ++ "_".intercalate names ++ "_fk" := by
    intro names ne
    rw [String.intercalate_append_of_ne_nil (List.cons_ne_nil _ _) (List.cons_ne_nil _ _),
      String.intercalate_cons_of_ne_nil ne, String.intercalate_singleton, String.append_assoc]
    rfl
  rw [namedAt, if_neg (not_not.2 unnamedKey), nameParts]
  by_cases hc : k.referencingColumns = []
  · have counted : "_".intercalate ["ref", toString n] = "ref_" ++ toString n := by
      rw [String.intercalate_cons_cons, String.intercalate_singleton]
      rfl
    have mark : k.referencingTable ++ "_ref_" = k.referencingTable ++ "_" ++ "ref_" := by
      rw [String.append_assoc]
      rfl
    rw [if_neg (not_not.2 hc), if_pos hc, middle _ (List.cons_ne_nil _ _), counted, mark,
      ← String.append_assoc]
  · rw [if_pos hc, if_neg hc, middle _ hc]

/-- The parts of names can be told from what stands between them: there is no underscore in them,
and no column is called as a counted foreign key is. -/
structure IsPlain (k : ForeignKey) : Prop where
  table : '_' ∉ k.referencingTable.toList
  columns : ∀ c ∈ k.referencingColumns, '_' ∉ c.toList
  notRef : "ref" ∉ k.referencingColumns

theorem IsPlain.of_namedAt {k : ForeignKey} {n : Nat} (h : (k.namedAt n).IsPlain) : k.IsPlain where
  table := by simpa using h.table
  columns := by simpa using h.columns
  notRef := by simpa using h.notRef

instance (k : ForeignKey) : Decidable k.IsPlain :=
  decidable_of_iff ('_' ∉ k.referencingTable.toList ∧
      (∀ c ∈ k.referencingColumns, '_' ∉ c.toList) ∧ "ref" ∉ k.referencingColumns)
    ⟨fun h => ⟨h.1, h.2.1, h.2.2⟩, fun h => ⟨h.table, h.columns, h.notRef⟩⟩

theorem IsPlain.notMem_nameParts {k : ForeignKey} (h : k.IsPlain) (n : Nat) :
    ∀ part ∈ k.nameParts n, '_' ∉ part.toList := by
  intro part hp
  rw [nameParts, List.cons_append, List.mem_cons, List.mem_append] at hp
  rcases hp with rfl | hp | hp
  · exact h.table
  · by_cases hc : k.referencingColumns = []
    · rw [if_pos hc, List.mem_pair] at hp
      rcases hp with rfl | rfl
      · decide
      · exact Text.notMem_toString_nat (by decide) n
    · rw [if_neg hc] at hp
      exact h.columns part hp
  · rw [List.mem_singleton.1 hp]
    decide

theorem IsPlain.nameParts_eq_iff {k k' : ForeignKey} (h : k.IsPlain) (h' : k'.IsPlain) {m n : Nat}
    (differ : m ≠ n) : k.nameParts m = k'.nameParts n ↔
      k.referencingTable = k'.referencingTable ∧ k.referencingColumns = k'.referencingColumns ∧
        k.referencingColumns ≠ [] := by
  have noColumn : ∀ {k : ForeignKey} {number : String}, k.IsPlain →
      k.referencingColumns ≠ ["ref", number] := fun plain e =>
    plain.notRef (by rw [e]; exact List.mem_cons_self)
  rw [nameParts, nameParts, List.cons_append, List.cons_append, List.cons.injEq,
    List.append_left_inj]
  refine and_congr_right fun _ => ?_
  by_cases hc : k.referencingColumns = []
  · -- A counted name has the parts of no other one: neither the number nor the mark is the same.
    have others : (["ref", toString m] : List String) ≠
        if k'.referencingColumns = [] then ["ref", toString n] else k'.referencingColumns := by
      split
      · intro e
        rw [List.cons.injEq, List.cons.injEq] at e
        exact differ (Text.toString_nat_inj (congrArg String.toList e.2.1))
      · exact fun e => noColumn h' e.symm
    rw [if_pos hc]
    exact iff_of_false others fun e => e.2 hc
  · rw [if_neg hc]
    by_cases hc' : k'.referencingColumns = []
    · rw [if_pos hc']
      exact iff_of_false (noColumn h) fun e => hc (e.1.trans hc')
    · rw [if_neg hc']
      exact (and_iff_left hc).symm

theorem name_eq_iff_of_isPlain {k k' : ForeignKey} (unnamedKey : k.name = "")
    (unnamedKey' : k'.name = "") (h : k.IsPlain) (h' : k'.IsPlain) {m n : Nat} (differ : m ≠ n) :
    (k.namedAt m).name = (k'.namedAt n).name ↔
      k.referencingTable = k'.referencingTable ∧ k.referencingColumns = k'.referencingColumns ∧
        k.referencingColumns ≠ [] := by
  rw [name_namedAt unnamedKey, name_namedAt unnamedKey', ← h.nameParts_eq_iff h' differ]
  constructor
  · exact Text.intercalate_inj rfl (List.cons_ne_nil _ _) (List.cons_ne_nil _ _)
      (h.notMem_nameParts m) (h'.notMem_nameParts n)
  · exact congrArg _

/-- The number in the name of a foreign key without columns can be read, whatever its table is
called. -/
theorem eq_of_name_eq_of_columnless {k k' : ForeignKey} (unnamedKey : k.name = "")
    (unnamedKey' : k'.name = "") (hc : k.referencingColumns = []) (hc' : k'.referencingColumns = [])
    {m n : Nat} (h : (k.namedAt m).name = (k'.namedAt n).name) : m = n := by
  have text : ∀ {k : ForeignKey}, k.name = "" → k.referencingColumns = [] → ∀ n,
      (k.namedAt n).name.toList =
        (k.referencingTable ++ "_ref").toList ++ '_' :: (toString n).toList ++ "_fk".toList := by
    intro k unnamedKey hc n
    rw [namedAt, if_neg (not_not.2 unnamedKey), if_neg (not_not.2 hc)]
    simp [String.toList_append]
  have same := congrArg String.toList h
  rw [text unnamedKey hc, text unnamedKey' hc', List.append_left_inj] at same
  exact Text.toString_nat_inj (Text.eq_of_append_cons_eq same
    (Text.notMem_toString_nat (by decide) m) (Text.notMem_toString_nat (by decide) n))

end ForeignKey

namespace Draft

/-! ## Runs -/

/-- A run records foreign keys as they are stated, but for their names, and the draft behind it
holds no others. Of those that it records, no two that are stated without a name and have no columns
are given the same name, whatever their tables are called. -/
theorem names_of_columnless_keys (ss : List GappedStatement) :
    (∀ p ∈ recordingsIn {} ss, p.2 = { p.1 with name := p.2.name }) ∧
      (runGapped {} ss).foreignKeys.Sublist ((recordingsIn {} ss).map Prod.snd) ∧
      (((recordingsIn {} ss).filter fun p => p.1.name == "" && p.2.referencingColumns == []).map
        fun p => p.2.name).Nodup := by
  obtain ⟨ks, recorded, held⟩ := placed_empty.exists_recordingsIn ss
  have numbered := ForeignKey.pairwise_numbered ({} : Draft).unnamedKeys ks
  rw [recorded]
  refine ⟨?_, ?_, ?_⟩
  · intro p hp
    obtain ⟨m, -, hm⟩ := ForeignKey.le_of_mem_numbered hp
    rw [hm]
    exact p.1.namedAt_eq m
  · rw [List.map_snd_zip (Nat.le_of_eq (ForeignKey.length_numbered ..))]
    exact held
  · rw [List.Nodup, List.pairwise_map, List.pairwise_filter]
    refine numbered.imp fun {p q} hpq hp hq same => ?_
    rw [Bool.and_eq_true, beq_iff_eq, beq_iff_eq] at hp hq
    obtain ⟨m, m', lt, hm, hm'⟩ := hpq hp.1
    rw [hm, ForeignKey.referencingColumns_namedAt] at hp
    rw [hm', ForeignKey.referencingColumns_namedAt] at hq
    rw [hm, hm'] at same
    exact Nat.ne_of_lt lt (ForeignKey.eq_of_name_eq_of_columnless hp.1 hq.1 hp.2 hq.2 same)

/-- Of the foreign keys that a run records, two that are stated without a name are given the same
one just if they have the same table and the same columns and do have columns, if the parts of all
these names can be told. -/
theorem name_eq_iff_of_plain_keys {ss : List GappedStatement}
    (plain : ∀ p ∈ recordingsIn {} ss, p.1.name = "" → p.2.IsPlain) :
    ((recordingsIn {} ss).filter fun p => p.1.name == "").Pairwise fun p q =>
      p.2.name = q.2.name ↔
        p.2.referencingTable = q.2.referencingTable ∧
          p.2.referencingColumns = q.2.referencingColumns ∧ p.2.referencingColumns ≠ [] := by
  obtain ⟨ks, recorded, -⟩ := placed_empty.exists_recordingsIn ss
  have numbered := ForeignKey.pairwise_numbered ({} : Draft).unnamedKeys ks
  rw [← recorded] at numbered
  rw [List.pairwise_filter]
  refine numbered.imp_of_mem fun {p q} hp hq hpq unnamedP unnamedQ => ?_
  rw [beq_iff_eq] at unnamedP unnamedQ
  obtain ⟨m, m', lt, hm, hm'⟩ := hpq unnamedP
  have plainP := plain p hp unnamedP
  have plainQ := plain q hq unnamedQ
  rw [hm] at plainP ⊢
  rw [hm'] at plainQ ⊢
  simp only [ForeignKey.referencingTable_namedAt, ForeignKey.referencingColumns_namedAt]
  exact ForeignKey.name_eq_iff_of_isPlain unnamedP unnamedQ plainP.of_namedAt plainQ.of_namedAt
    (Nat.ne_of_lt lt)

/-- The same for two foreign keys with one name, which is dropped before the third is recorded. -/
theorem name_eq_iff_of_dropped_keys :
    ∃ ss : List GappedStatement,
      (∀ p ∈ recordingsIn {} ss, p.1.name = "" → p.2.IsPlain) ∧
      (recordingsIn {} ss).map (fun p => p.2.name) =
        ["Albums_SingerId_fk", "Albums_SingerId_fk", "Albums_ref_2_fk"] ∧
      ((recordingsIn {} ss).filter fun p => p.1.name == "").Pairwise fun p q =>
        p.2.name = q.2.name ↔
          p.2.referencingTable = q.2.referencingTable ∧
            p.2.referencingColumns = q.2.referencingColumns ∧ p.2.referencingColumns ≠ [] := by
  let singer : TableConstraint := { body := .foreignKey {
    columns := [.named "SingerId"], referencedTable := ⟨[.named "Singers"]⟩ } }
  let label : TableConstraint := { body := .foreignKey {
    columns := [], referencedTable := ⟨[.named "Labels"]⟩ } }
  let albums : Path := ⟨[.named "Albums"]⟩
  let ss : List GappedStatement := [
    ⟨.createTable { name := albums, constraints := [singer, singer] }, none⟩,
    ⟨.alterTable albums (.dropConstraint (.named "Albums_SingerId_fk")), none⟩,
    ⟨.alterTable albums (.addConstraint label), none⟩]
  have plain : ∀ p ∈ recordingsIn {} ss, p.1.name = "" → p.2.IsPlain := by decide
  exact ⟨ss, plain, by decide, name_eq_iff_of_plain_keys plain⟩

end Draft

end SpannerDdl
