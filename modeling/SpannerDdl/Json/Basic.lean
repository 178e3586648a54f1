/-! # JSON values

* `Json`: a value; integers of any size are told apart from floating-point numbers, and the
  members of an object keep their order. Keys and strings may hold half a surrogate pair as the
  character in its place, and no other code point that is given up for halves (`Text.isTaken`).
* `Members`: the members of an object; `Members.put` sets one, in its old place if the key is
  there.
* `Json.get? v key`: the member of an object under a key.
* `Json.isTruthy v`: every value except `null`, `false`, zero and the empty string, array and
  object.
-/

set_option autoImplicit false

namespace SpannerDdl

/-- A JSON value. -/
inductive Json where
  | null
  | bool (value : Bool)
  | int (value : Int)
  | float (value : Float)
  | str (value : String)
  | arr (items : List Json)
  | obj (members : List (String × Json))
  deriving Inhabited, Repr

namespace Json

/-- The members of an object in order. -/
abbrev Members := List (String × Json)

/-- Sets the member under a key. A key that is there keeps its place and takes the new value; a
new key comes last. -/
def Members.put : Members → String → Json → Members
  | [], key, value => [(key, value)]
  | (k, v) :: rest, key, value =>
    if k = key then (k, value) :: rest else (k, v) :: Members.put rest key value

/-- The members in order of first appearance, each with its last value. -/
def Members.ofList (pairs : List (String × Json)) : Members :=
  pairs.foldl (fun members pair => members.put pair.1 pair.2) []

/-- The member of an object under a key; no other value has members. -/
def get? : Json → String → Option Json
  | .obj members, key => members.lookup key
  | _, _ => none

/-- Whether a value counts as given: not `null`, `false`, zero or empty. -/
def isTruthy : Json → Bool
  | .null => false
  | .bool b => b
  | .int n => n != 0
  | .float x => !(x == 0.0)
  | .str s => s != ""
  | .arr items => !items.isEmpty
  | .obj members => !members.isEmpty

@[simp] theorem get?_obj (members : Members) (key : String) :
    (Json.obj members).get? key = members.lookup key := rfl

/-! ## Keys of an object under change -/

theorem Members.put_of_notMem {members : Members} {key : String} (value : Json)
    (h : key ∉ members.map Prod.fst) : members.put key value = members ++ [(key, value)] := by
  induction members with
  | nil => rfl
  | cons m rest ih =>
    obtain ⟨k, v⟩ := m
    simp only [List.map_cons, List.mem_cons, not_or] at h
    have hk : k ≠ key := fun e => h.1 e.symm
    simp [Members.put, hk, ih h.2]

theorem lookup_cons_eq_ite (k : String) (v : Json) (members : Members) (key : String) :
    List.lookup key ((k, v) :: members) = if key = k then some v else members.lookup key := by
  rw [List.lookup_cons]
  by_cases hk : key = k
  · rw [if_pos hk, beq_iff_eq.2 hk]
  · rw [if_neg hk, beq_false_of_ne hk]

theorem Members.lookup_put (members : Members) (key : String) (value : Json) (key' : String) :
    (members.put key value).lookup key' =
      if key' = key then some value else members.lookup key' := by
  induction members with
  | nil => rw [Members.put, lookup_cons_eq_ite]
  | cons m rest ih =>
    obtain ⟨k, v⟩ := m
    rw [Members.put]
    by_cases hk : k = key
    · subst hk
      rw [if_pos rfl, lookup_cons_eq_ite, lookup_cons_eq_ite]
      by_cases hk' : key' = k
      · rw [if_pos hk', if_pos hk']
      · rw [if_neg hk', if_neg hk', if_neg hk']
    · rw [if_neg hk, lookup_cons_eq_ite, lookup_cons_eq_ite, ih]
      by_cases hk' : key' = key
      · rw [if_pos hk', if_neg (hk' ▸ Ne.symm hk), if_pos hk']
      · rw [if_neg hk', if_neg hk']

end Json

end SpannerDdl
