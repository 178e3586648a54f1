import Mathlib.Data.List.Forall2
import SpannerDdl.Json.Basic

/-! # Editing JSON objects

Objects are the same if they have the same members under the same keys, whatever their order is. So
an edit of an object is known by the members that are found behind it.

* `Json.Same`: equality of values.
* `Json.dropDefaults`, `Json.put`, `Json.putMissing`, `Json.mapItemsAt`: edits of the members of an
  object, with what is found behind them. -/

set_option autoImplicit false

namespace SpannerDdl

namespace Json

/-! ## Equality of values -/

/-- The same value; the order of the members of an object does not count, and under a key there is
no more than the member that is found there. -/
inductive Same : Json → Json → Prop
  | refl (v : Json) : Same v v
  | arr {vs ws : List Json} (items : List.Forall₂ Same vs ws) : Same (.arr vs) (.arr ws)
  | obj {ms ns : Members} (members : ∀ key, Option.Rel Same (ms.lookup key) (ns.lookup key)) :
      Same (.obj ms) (.obj ns)

theorem same_of_eq {x y : Option Json} (h : x = y) : Option.Rel Same x y := by
  subst h
  cases x with
  | none => exact .none
  | some v => exact .some (.refl v)

/-- Two writings of the same items. -/
theorem same_map {α : Type} {xs : List α} {f g : α → Json} (h : ∀ x ∈ xs, Same (f x) (g x)) :
    Same (.arr (xs.map f)) (.arr (xs.map g)) := by
  refine .arr ?_
  rw [List.forall₂_map_left_iff, List.forall₂_map_right_iff]
  exact List.forall₂_same.2 h

/-! ## Looking up -/

theorem lookup_filter_key (members : Members) (p : String → Bool) (key : String) :
    (members.filter fun m => p m.1).lookup key = if p key then members.lookup key else none := by
  induction members with
  | nil => simp
  | cons m members ih =>
    obtain ⟨k, v⟩ := m
    rw [List.filter_cons]
    by_cases hk : key = k
    · subst hk
      cases hp : p key with
      | true => simp
      | false => simp [ih, hp]
    · cases hp : p k with
      | true => simp [lookup_cons_eq_ite, hk, ih]
      | false => simp [lookup_cons_eq_ite, hk, ih]

/-! ## Leaving out defaults -/

/-- Whether a value is the given flag, text or empty list. -/
def isDefault : Json → Json → Bool
  | .bool b, .bool b' => b == b'
  | .str s, .str s' => s == s'
  | .arr [], .arr [] => true
  | _, _ => false

/-- Whether the member under a key is the given default. -/
def holds (v : Json) (key : String) (default : Json) : Bool := (v.get? key).any (isDefault default)

/-- Leaves out the members that are their defaults. -/
def dropDefaults (defaults : Members) (v : Json) : Json :=
  match v with
  | .obj members => .obj (members.filter fun m => !(defaults.lookup m.1).any (v.holds m.1))
  | v => v

theorem get?_dropDefaults (defaults : Members) (v : Json) (key : String) :
    (v.dropDefaults defaults).get? key =
      if (defaults.lookup key).any (v.holds key) then none else v.get? key := by
  cases v with
  | obj members =>
    rw [dropDefaults, get?_obj,
      lookup_filter_key members fun k => !(defaults.lookup k).any ((Json.obj members).holds k)]
    cases (defaults.lookup key).any ((Json.obj members).holds key) with
    | true => rfl
    | false => rfl
  | _ => exact (ite_self none).symm

/-! ## Setting members -/

/-- Sets a member of an object. -/
def put (v : Json) (key : String) (value : Json) : Json :=
  match v with
  | .obj members => .obj (Members.put members key value)
  | v => v

/-- Sets a member of an object, unless it is there. -/
def putMissing (v : Json) (key : String) (value : Json) : Json :=
  if (v.get? key).isSome then v else v.put key value

theorem mem_keys_put {members : Members} {key key' : String} {value : Json}
    (h : key' ∈ (Members.put members key value).map Prod.fst) :
    key' = key ∨ key' ∈ members.map Prod.fst := by
  induction members with
  | nil => exact .inl (List.mem_singleton.1 h)
  | cons m members ih =>
    obtain ⟨k, v⟩ := m
    rw [Members.put] at h
    by_cases hk : k = key
    · rw [if_pos hk] at h
      exact .inr h
    · rw [if_neg hk, List.map_cons, List.mem_cons] at h
      rw [List.map_cons, List.mem_cons]
      rcases h with h | h
      · exact .inr (.inl h)
      · exact (ih h).imp_right .inr

theorem get?_put (members : Members) (key : String) (value : Json) (key' : String) :
    ((Json.obj members).put key value).get? key' =
      if key' = key then some value else (Json.obj members).get? key' :=
  members.lookup_put key value key'

theorem get?_putMissing (members : Members) (key : String) (value : Json) (key' : String) :
    ((Json.obj members).putMissing key value).get? key' =
      if key' = key then some (((Json.obj members).get? key).getD value)
      else (Json.obj members).get? key' := by
  unfold putMissing
  cases found : (Json.obj members).get? key with
  | none => exact get?_put members key value key'
  | some w =>
    rw [if_pos (Option.isSome_some), Option.getD_some, ← found]
    by_cases hk : key' = key
    · rw [if_pos hk, hk]
    · rw [if_neg hk]

/-! ## Editing items -/

/-- Edits every item of an array. -/
def mapItems (f : Json → Json) : Json → Json
  | .arr items => .arr (items.map f)
  | v => v

/-- Edits every item of the array under a key. -/
def mapItemsAt (v : Json) (key : String) (f : Json → Json) : Json :=
  match v with
  | .obj members => .obj (members.map fun m => (m.1, if m.1 = key then m.2.mapItems f else m.2))
  | v => v

theorem get?_mapItemsAt (v : Json) (key : String) (f : Json → Json) (key' : String) :
    (v.mapItemsAt key f).get? key' =
      if key' = key then (v.get? key').map (mapItems f) else v.get? key' := by
  cases v with
  | obj members =>
    rw [mapItemsAt, get?_obj, get?_obj]
    induction members with
    | nil => exact (ite_self none).symm
    | cons m members ih =>
      obtain ⟨k, w⟩ := m
      rw [List.map_cons, lookup_cons_eq_ite, lookup_cons_eq_ite, ih]
      by_cases hk : key' = k
      · subst hk
        by_cases hm : key' = key
        · simp [hm]
        · simp [hm]
      · simp [hk]
  | _ => exact (ite_self none).symm

end Json

end SpannerDdl
