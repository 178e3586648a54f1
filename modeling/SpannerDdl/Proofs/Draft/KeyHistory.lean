import SpannerDdl.Proofs.Draft.Log
import SpannerDdl.Proofs.Draft.WellFormed

/-! # Foreign keys as a log tells them

The foreign keys of a draft can be read off the statements it accepted. Those without a name are
numbered from the beginning of the log, also if they are named after their columns, and a key that
is dropped later keeps its number.

* `Statement.statedKeys`, `Statement.dropsKey`: the foreign keys that one statement states and
  drops.
* `ForeignKey.namedAt k n`: the foreign key under the name that it gets behind `n` unnamed ones.
* `Statement.recordedKeys log`: the foreign keys that a log states, each under its name and with the
  statements behind.
* `foreignKeys_of_run`: the foreign keys of a draft are those that no statement behind them drops.
-/

set_option autoImplicit false

namespace SpannerDdl

/-! ## Reading the log -/

/-- The foreign keys that a statement states, in order. The name of one without a name is empty. -/
def Statement.statedKeys : Statement → List ForeignKey
  | .createTable t => t.constraints.filterMap (·.foreignKey? t.name.name)
  | .alterTable name (.addConstraint c) => (c.foreignKey? name.name).toList
  | _ => []

/-- Whether a statement drops the foreign keys of a name, whichever table it is about. -/
def Statement.dropsKey (key : String) : Statement → Bool
  | .alterTable _ (.dropConstraint c) => c.name == key && key != ""
  | _ => false

namespace ForeignKey

/-- The number of foreign keys without a name. -/
def unnamed (ks : List ForeignKey) : Nat := ks.countP (·.name == "")

/-- A foreign key under its own name. One without a name is named after its table and its columns
or, if it has no columns, after its table and the number of unnamed ones before it. -/
def namedAt (k : ForeignKey) (n : Nat) : ForeignKey :=
  if k.name ≠ "" then k
  else if k.referencingColumns ≠ [] then
    { k with name := k.referencingTable ++ "_" ++ "_".intercalate k.referencingColumns ++ "_fk" }
  else { k with name := k.referencingTable ++ "_ref_" ++ toString n ++ "_fk" }

/-- Foreign keys under their names, where `n` unnamed ones came before all of them. -/
def numbered (n : Nat) (ks : List ForeignKey) : List ForeignKey :=
  ks.mapIdx fun i k => k.namedAt (n + unnamed (ks.take i))

end ForeignKey

/-- The foreign keys that a log states, in order, each under its name and with the statements
behind. -/
def Statement.recordedKeys (log : List Statement) : List (ForeignKey × List Statement) :=
  let stated := occurrences statedKeys log
  (ForeignKey.numbered 0 (stated.map Prod.fst)).zip (stated.map Prod.snd)

/-! ## Numbers -/

namespace ForeignKey

theorem unnamed_append (ks ks' : List ForeignKey) :
    unnamed (ks ++ ks') = unnamed ks + unnamed ks' := List.countP_append ..

theorem numbered_append (n : Nat) (ks ks' : List ForeignKey) :
    numbered n (ks ++ ks') = numbered n ks ++ numbered (n + unnamed ks) ks' := by
  unfold numbered
  rw [List.mapIdx_append]
  congr 1
  · apply List.ext_getElem
    · rw [List.length_mapIdx, List.length_mapIdx]
    · intro i h1 h2
      rw [List.length_mapIdx] at h1
      rw [List.getElem_mapIdx, List.getElem_mapIdx, List.take_append_of_le_length (Nat.le_of_lt h1)]
  · congr 1
    funext i k
    rw [Nat.add_comm i, List.take_length_add_append, unnamed_append, Nat.add_assoc]

theorem length_numbered (n : Nat) (ks : List ForeignKey) :
    (numbered n ks).length = ks.length := List.length_mapIdx ..

end ForeignKey

/-! ## One more statement -/

namespace Statement

/-- What was told before one more statement `s` is told again, followed by what `s` states. -/
theorem recordedKeys_concat (log : List Statement) (s : Statement) :
    recordedKeys (log ++ [s]) =
      (recordedKeys log).map (fun p => (p.1, p.2 ++ [s])) ++
        (ForeignKey.numbered (ForeignKey.unnamed ((occurrences statedKeys log).map Prod.fst))
          s.statedKeys).map (·, []) := by
  have s1 : ((occurrences statedKeys log).map fun p => (p.1, p.2 ++ [s])).map Prod.fst =
      (occurrences statedKeys log).map Prod.fst := by
    rw [List.map_map]
    rfl
  have s2 : ((occurrences statedKeys log).map fun p => (p.1, p.2 ++ [s])).map Prod.snd =
      ((occurrences statedKeys log).map Prod.snd).map (· ++ [s]) := by
    rw [List.map_map, List.map_map]
    rfl
  have s3 : (s.statedKeys.map fun k => (k, ([] : List Statement))).map Prod.fst = s.statedKeys := by
    rw [List.map_map]
    exact List.map_id _
  have s4 : ∀ ks : List ForeignKey, ks.length = s.statedKeys.length →
      ks.zip ((s.statedKeys.map fun k => (k, ([] : List Statement))).map Prod.snd) =
        ks.map (·, []) := by
    intro ks h
    apply List.ext_getElem
    · simp [h]
    · intro i h1 h2
      simp
  unfold recordedKeys
  rw [occurrences_concat]
  simp only [List.map_append, s1, s2, s3]
  rw [ForeignKey.numbered_append, Nat.zero_add, List.zip_append, List.zip_map_right,
    s4 _ (ForeignKey.length_numbered ..)]
  · rfl
  · rw [ForeignKey.length_numbered, List.length_map, List.length_map, List.length_map]

end Statement

/-! ## Recording foreign keys -/

theorem TableConstraint.referencingNamed {c : TableConstraint} {owner : String} {k : ForeignKey}
    (h : c.foreignKey? owner = some k) : "" ∉ k.referencingColumns := by
  obtain ⟨body, name⟩ := c
  cases body with
  | foreignKey key =>
    cases h
    exact empty_notMem_identNames _
  | check expr => cases h
  | other => cases h

namespace Draft

theorem recorded_eq_namedAt (d : Draft) {k : ForeignKey} (h : "" ∉ k.referencingColumns) :
    d.recorded k = k.namedAt d.unnamedKeys := by
  unfold recorded ForeignKey.namedAt
  by_cases hk : k.name = ""
  · rw [if_pos (by simpa using hk), if_neg (not_not.2 hk), keyName]
    by_cases hc : k.referencingColumns = []
    · have s1 : "_".intercalate k.referencingColumns = "" := by rw [hc]; rfl
      have s2 : k.referencingTable ++ "_ref_" = k.referencingTable ++ "_" ++ "ref_" := by
        rw [String.append_assoc]
        rfl
      rw [if_neg (not_not.2 hc), s2]
      simp only [s1, beq_self_eq_true, if_true, String.append_assoc]
    · have s1 : "_".intercalate k.referencingColumns ≠ "" :=
        intercalate_ne hc fun name hn he => h (he ▸ hn)
      rw [if_pos hc]
      simp [s1]
  · rw [if_neg (by simpa using hk), if_pos hk]

theorem foreignKeys_addForeignKey (d : Draft) (k : ForeignKey) :
    (d.addForeignKey k).foreignKeys = d.foreignKeys ++ [d.recorded k] := by
  rw [addForeignKey_eq]

theorem unnamedKeys_addForeignKey (d : Draft) (k : ForeignKey) :
    (d.addForeignKey k).unnamedKeys = d.unnamedKeys + ForeignKey.unnamed [k] := by
  rw [addForeignKey_eq]
  cases hk : k.name == "" with
  | true => simp [ForeignKey.unnamed, hk]
  | false => simp [ForeignKey.unnamed, hk]

theorem addConstraint_eq_foldl (d : Draft) (owner : String) (c : TableConstraint) :
    d.addConstraint owner c = (c.foreignKey? owner).toList.foldl addForeignKey d := by
  unfold addConstraint
  cases c.foreignKey? owner with
  | none => rfl
  | some k => rfl

theorem addConstraints_eq_foldl (d : Draft) (owner : String) (cs : List TableConstraint) :
    d.addConstraints owner cs = (cs.filterMap (·.foreignKey? owner)).foldl addForeignKey d := by
  unfold addConstraints
  induction cs generalizing d with
  | nil => rfl
  | cons c cs ih =>
    rw [List.foldl_cons, ih, addConstraint_eq_foldl, List.filterMap_cons]
    cases c.foreignKey? owner with
    | none => rfl
    | some k => rfl

/-- Foreign keys are recorded one after another, each under the number of unnamed ones that the
draft has seen so far. -/
theorem foldl_addForeignKey (d : Draft) {ks : List ForeignKey}
    (h : ∀ k ∈ ks, "" ∉ k.referencingColumns) :
    (ks.foldl addForeignKey d).foreignKeys =
        d.foreignKeys ++ ForeignKey.numbered d.unnamedKeys ks ∧
      (ks.foldl addForeignKey d).unnamedKeys = d.unnamedKeys + ForeignKey.unnamed ks := by
  induction ks generalizing d with
  | nil => exact ⟨(List.append_nil _).symm, rfl⟩
  | cons k ks ih =>
    obtain ⟨hk, hks⟩ := List.forall_mem_cons.1 h
    obtain ⟨s1, s2⟩ := ih (d.addForeignKey k) hks
    have s3 : k :: ks = [k] ++ ks := rfl
    rw [List.foldl_cons, s1, s2, foreignKeys_addForeignKey, unnamedKeys_addForeignKey,
      recorded_eq_namedAt d hk, s3, ForeignKey.numbered_append, ForeignKey.unnamed_append]
    exact ⟨List.append_assoc .., Nat.add_assoc ..⟩

theorem forall_statedKeys (s : Statement) : ∀ k ∈ s.statedKeys, "" ∉ k.referencingColumns := by
  intro k hk
  cases s with
  | createTable t =>
    obtain ⟨c, -, hc⟩ := List.mem_filterMap.1 hk
    exact c.referencingNamed hc
  | alterTable name change =>
    cases change with
    | addConstraint c => exact c.referencingNamed (Option.mem_toList.1 hk)
    | _ => cases hk
  | createIndex i => cases hk
  | other keyword text => cases hk

/-! ## Steps and runs -/

theorem filter_dropsKey_of_none (d : Draft) {s : Statement} (h : ∀ key, s.dropsKey key = false) :
    d.foreignKeys.filter (fun k => !s.dropsKey k.name) = d.foreignKeys := by
  rw [List.filter_eq_self]
  intro k _
  rw [h, Bool.not_false]

theorem foreignKeys_dropForeignKeys (d : Draft) (name : String) :
    (d.dropForeignKeys name).foreignKeys =
      d.foreignKeys.filter fun k => !(name == k.name && k.name != "") := by
  unfold dropForeignKeys
  by_cases hn : name = ""
  · have s1 : ∀ k ∈ d.foreignKeys, (!(name == k.name && k.name != "")) = true := by
      intro k _
      by_cases hk : k.name = ""
      · simp [hk]
      · simp [hn, Ne.symm hk]
    rw [if_pos (by simpa using hn), List.filter_eq_self.2 s1]
  · rw [if_neg (by simpa using hn)]
    refine List.filter_congr fun k _ => ?_
    by_cases hk : k.name = name
    · simp [hk, hn]
    · have s1 : (k.name != name) = true := by simpa using hk
      have s2 : (name == k.name) = false := by simpa using Ne.symm hk
      rw [s1, s2, Bool.false_and, Bool.not_false]

theorem unnamedKeys_dropForeignKeys (d : Draft) (name : String) :
    (d.dropForeignKeys name).unnamedKeys = d.unnamedKeys := by
  unfold dropForeignKeys
  split
  · rfl
  · rfl

theorem keys_of_untouched (d : Draft) {s : Statement} (stated : s.statedKeys = [])
    (dropped : ∀ key, s.dropsKey key = false) :
    d.foreignKeys = d.foreignKeys.filter (fun k => !s.dropsKey k.name) ++
        ForeignKey.numbered d.unnamedKeys s.statedKeys ∧
      d.unnamedKeys = d.unnamedKeys + ForeignKey.unnamed s.statedKeys := by
  rw [d.filter_dropsKey_of_none dropped, stated]
  exact ⟨(List.append_nil _).symm, rfl⟩

/-- A step drops what its statement drops and then records what it states. -/
theorem keys_of_step {d d' : Draft} {s : Statement} (hs : Step d s d') :
    d'.foreignKeys = d.foreignKeys.filter (fun k => !s.dropsKey k.name) ++
        ForeignKey.numbered d.unnamedKeys s.statedKeys ∧
      d'.unnamedKeys = d.unnamedKeys + ForeignKey.unnamed s.statedKeys := by
  cases hs with
  | @createTable t columns named isNew converted =>
    rw [d.filter_dropsKey_of_none fun _ => rfl, addConstraints_eq_foldl]
    exact d.foldl_addForeignKey (forall_statedKeys (.createTable t))
  | @changeTable name change place f found effect =>
    cases change with
    | addConstraint c => cases effect
    | dropConstraint c => cases effect
    | _ => exact d.keys_of_untouched rfl fun _ => rfl
  | @addConstraint name place found c =>
    rw [d.filter_dropsKey_of_none fun _ => rfl, addConstraint_eq_foldl]
    exact d.foldl_addForeignKey (forall_statedKeys (.alterTable name (.addConstraint c)))
  | dropConstraint found c =>
    rw [foreignKeys_dropForeignKeys, unnamedKeys_dropForeignKeys]
    exact ⟨(List.append_nil _).symm, rfl⟩
  | @ignore name change place found ignored =>
    cases change with
    | addConstraint c => cases ignored
    | dropConstraint c => cases ignored
    | _ => exact d.keys_of_untouched rfl fun _ => rfl
  | createIndex named ofTable => exact d.keys_of_untouched rfl fun _ => rfl
  | other keyword text => exact d.keys_of_untouched rfl fun _ => rfl

theorem History.keys {log : List Statement} {d : Draft} (h : History log d) :
    d.foreignKeys =
        Statement.remaining (fun k s => s.dropsKey k.name) (Statement.recordedKeys log) ∧
      d.unnamedKeys =
        ForeignKey.unnamed ((Statement.occurrences Statement.statedKeys log).map Prod.fst) := by
  induction h with
  | empty => exact ⟨rfl, rfl⟩
  | @step log d d' s hd hs ih =>
    obtain ⟨s1, s2⟩ := keys_of_step hs
    rw [s1, s2, ih.1, ih.2]
    refine ⟨?_, ?_⟩
    · rw [Statement.recordedKeys_concat, Statement.remaining_append, Statement.remaining_concat,
        Statement.remaining_of_nothing_behind]
    · rw [Statement.occurrences_concat, List.map_append, ForeignKey.unnamed_append, List.map_map,
        List.map_map]
      congr 2
      exact (List.map_id _).symm

/-- Behind any statements, the foreign keys are those that the accepted statements state, in order,
except the ones whose name was dropped after that. Each has its own name or the one it gets by its
columns or by the number of unnamed ones stated before it, whatever became of these. -/
theorem foreignKeys_of_run (ss : List Statement) :
    (run {} ss).foreignKeys = Statement.remaining (fun k s => s.dropsKey k.name)
      (Statement.recordedKeys (accepted {} ss)) :=
  (history_run ss).keys.1

end Draft

end SpannerDdl
