import SpannerDdl.Proofs.Cursor.Basic
import SpannerDdl.Proofs.Grammar.Reading

/-! # What a cursor does on its way

A reader by a cursor follows a reader of the grammar: it comes to an end, with the same value or at
the same lack. On its way the cursor never moves back, and no turn begins where another did.

* `Cursor.left c`: the tokens from the cursor on.
* `Cursor.Sound c`: how the cursor was reached; `Cursor.Ready c`: the next turn may begin.
* `Reading.Follows c run r`: what `run` does from the cursor is what `r` says, by steps forward.
-/

set_option autoImplicit false

namespace SpannerDdl

open Grammar

/-! ## The tokens at a cursor -/

theorem Grammar.atPunct_cons (text : String) (t : Token) (ts : List Token) :
    atPunct text (t :: ts) = t.isPunct text := by
  rw [atPunct, punct?]
  cases t.isPunct text with
  | false => rfl
  | true => rfl

theorem Grammar.atKeywords_one (word : String) (t : Token) (ts : List Token) :
    atKeywords [word] (t :: ts) = t.isKeyword word := by
  rw [atKeywords, keywords?, Token.isKeyword]
  cases t.upper == word with
  | false => rfl
  | true => rfl

theorem Grammar.keywords?_one {word : String} {ts rest : List Token}
    (h : keywords? [word] ts = some rest) : rest = ts.drop 1 := by
  cases ts with
  | nil => cases h
  | cons t ts =>
    simp only [keywords?] at h
    split at h
    · cases h
      rfl
    · cases h

namespace Cursor

/-- The tokens from the cursor on. -/
def left (c : Cursor) : List Token := c.tokens.drop c.place

section
variable {c : Cursor}

theorem ahead_eq (i : Nat) : c.ahead i = c.left[i]? := by
  rw [ahead, left, List.getElem?_drop]

theorem peek_eq : c.peek = c.left.head? := by
  rw [peek, ahead_eq, List.head?_eq_getElem?]

theorem atEnd_eq : c.atEnd = c.left.isEmpty := by
  rw [atEnd, peek_eq]
  cases c.left <;> rfl

theorem atPunct_eq (c : Cursor) (text : String) : c.atPunct text = Grammar.atPunct text c.left := by
  rw [atPunct, peek_eq]
  cases c.left with
  | nil => rfl
  | cons t ts => rw [atPunct_cons]; rfl

theorem keywordAhead_eq (i : Nat) :
    c.keywordAhead i = (((c.left.drop i).head?).map Token.upper).getD "" := by
  rw [keywordAhead, ahead_eq, List.head?_drop]

/-- No keyword is empty, so that none is found behind the end. -/
theorem all_keywordAhead_eq {words : List String} (hw : "" ∉ words) (i : Nat) :
    ((words.zipIdx i).all fun p => c.keywordAhead p.2 == p.1) =
      Grammar.atKeywords words (c.left.drop i) := by
  induction words generalizing i with
  | nil => rfl
  | cons word words ih =>
    rw [List.zipIdx_cons, List.all_cons, keywordAhead_eq]
    have others := ih (fun h => hw (List.mem_cons_of_mem word h)) (i + 1)
    rw [← List.drop_drop] at others
    cases hl : c.left.drop i with
    | nil =>
      have ne : ("" == word) = false := beq_false_of_ne fun h => hw (h ▸ List.mem_cons_self)
      simp [Grammar.atKeywords, keywords?, ne]
    | cons t ts =>
      rw [hl] at others
      rw [others]
      show (t.upper == word && Grammar.atKeywords words ts) =
        (if t.upper == word then keywords? words ts else none).isSome
      cases t.upper == word with
      | false => rfl
      | true => rfl

theorem atKeywords_eq {words : List String} (hw : "" ∉ words) :
    c.atKeywords words = Grammar.atKeywords words c.left :=
  all_keywordAhead_eq hw 0

theorem keywordAhead_beq {word : String} (hw : "" ∉ [word]) (i : Nat) :
    (c.keywordAhead i == word) = Grammar.atKeywords [word] (c.left.drop i) := by
  rw [← all_keywordAhead_eq hw, List.zipIdx_cons, List.all_cons]
  exact (Bool.and_true _).symm

theorem error_eq {source : String} {ts : List Token} (h : c.tokens = ts) (hs : c.source = source)
    (expected : String) : c.error expected = Mismatch.sourceError ⟨expected, c.left⟩ ts source := by
  subst h hs
  rw [Cursor.error, Mismatch.sourceError, peek_eq]

theorem left_moveTo (place : Nat) : (c.moveTo place).left = c.tokens.drop place := rfl

@[simp] theorem left_note (loop : Loop) (place : Nat) : (c.note loop place).left = c.left := rfl

end

/-! ## Steps forward -/

/-- A cursor that never moved back, and whose turns began one behind the other on its way. -/
structure Sound (c : Cursor) : Prop where
  inside : c.place ≤ c.tokens.length
  /-- No move went back. -/
  forward : c.places.Pairwise (· ≤ ·)
  here : c.place ∈ c.places
  reached : ∀ p ∈ c.places, p ≤ c.place
  /-- Each turn, of whatever loop, began strictly behind the one before. -/
  apart : c.turns.Pairwise fun t t' => t.place < t'.place
  begun : ∀ t ∈ c.turns, t.place ∈ c.places

/-- A cursor that has moved since the last turn began. -/
structure Ready (c : Cursor) : Prop extends Sound c where
  moved : ∀ t ∈ c.turns, t.place < c.place

/-- A cursor and one that is not in front of it. -/
structure Leads (c c' : Cursor) : Prop where
  tokens : c'.tokens = c.tokens
  source : c'.source = c.source
  forward : c.place ≤ c'.place

section
variable {c c' c'' : Cursor}

theorem Leads.refl (c : Cursor) : c.Leads c := ⟨rfl, rfl, Nat.le_refl _⟩

theorem Leads.trans (h : c.Leads c') (h' : c'.Leads c'') : c.Leads c'' where
  tokens := h'.tokens.trans h.tokens
  source := h'.source.trans h.source
  forward := Nat.le_trans h.forward h'.forward

theorem ready_start (source : String) (ts : List Token) : (start source ts).Ready where
  inside := Nat.zero_le _
  forward := List.pairwise_singleton _ _
  here := List.mem_singleton_self _
  reached := fun _ hp => Nat.le_of_eq (List.mem_singleton.1 hp)
  apart := List.Pairwise.nil
  begun := fun _ ht => absurd ht List.not_mem_nil
  moved := fun _ ht => absurd ht List.not_mem_nil

theorem Leads.moveTo {place : Nat} (h : c.place ≤ place) : c.Leads (c.moveTo place) :=
  ⟨rfl, rfl, h⟩

theorem Sound.moveTo (hc : c.Sound) {place : Nat} (h : c.place ≤ place)
    (hp : place ≤ c.tokens.length) : (c.moveTo place).Sound where
  inside := hp
  forward := List.pairwise_append.2 ⟨hc.forward, List.pairwise_singleton _ _, fun p hm q hq =>
    List.mem_singleton.1 hq ▸ Nat.le_trans (hc.reached p hm) h⟩
  here := List.mem_append_right _ (List.mem_singleton_self _)
  reached := fun p hm => by
    rcases List.mem_append.1 hm with hm | hm
    · exact Nat.le_trans (hc.reached p hm) h
    · exact Nat.le_of_eq (List.mem_singleton.1 hm)
  apart := hc.apart
  begun := fun t ht => List.mem_append_left _ (hc.begun t ht)

/-- Behind a step nothing has begun yet. -/
theorem Sound.ready_moveTo (hc : c.Sound) {place : Nat} (h : c.place < place)
    (hp : place ≤ c.tokens.length) : (c.moveTo place).Ready where
  toSound := hc.moveTo (Nat.le_of_lt h) hp
  moved := fun t ht => Nat.lt_of_le_of_lt (hc.reached _ (hc.begun t ht)) h

theorem Ready.moveTo (hc : c.Ready) {place : Nat} (h : c.place ≤ place)
    (hp : place ≤ c.tokens.length) : (c.moveTo place).Ready where
  toSound := hc.toSound.moveTo h hp
  moved := fun t ht => Nat.lt_of_lt_of_le (hc.moved t ht) h

theorem Leads.note (loop : Loop) (place : Nat) : c.Leads (c.note loop place) :=
  ⟨rfl, rfl, Nat.le_refl _⟩

/-- A turn may begin at a place behind all other turns. -/
theorem Sound.note (hc : c.Sound) (loop : Loop) {place : Nat} (hp : place ∈ c.places)
    (h : ∀ t ∈ c.turns, t.place < place) : (c.note loop place).Sound where
  inside := hc.inside
  forward := hc.forward
  here := hc.here
  reached := hc.reached
  apart := List.pairwise_append.2 ⟨hc.apart, List.pairwise_singleton _ _, fun t ht u hu =>
    List.mem_singleton.1 hu ▸ h t ht⟩
  begun := fun t ht => by
    rcases List.mem_append.1 ht with ht | ht
    · exact hc.begun t ht
    · exact List.mem_singleton.1 ht ▸ hp

/-- A turn whose test has moved the cursor lets another turn begin. -/
theorem Ready.note_moveTo (hc : c.Ready) (loop : Loop) {place : Nat} (h : c.place < place)
    (hp : place ≤ c.tokens.length) : ((c.moveTo place).note loop c.place).Ready where
  toSound := (hc.toSound.moveTo (Nat.le_of_lt h) hp).note loop
    (List.mem_append_left _ hc.here) hc.moved
  moved := fun t ht => by
    rcases List.mem_append.1 ht with ht | ht
    · exact Nat.lt_trans (hc.moved t ht) h
    · exact List.mem_singleton.1 ht ▸ h

end

end Cursor

namespace Reading

/-! ## Results of a reader of the grammar -/

section
variable {α β γ : Type}

theorem map_bind (r : Except Mismatch α) (f : α → Except Mismatch β) (g : β → γ) :
    (r >>= f).map g = r >>= fun a => (f a).map g := by
  cases r <;> rfl

theorem map_map (r : Except Mismatch α) (f : α → β) (g : β → γ) :
    (r.map f).map g = r.map fun a => g (f a) := by
  cases r <;> rfl

theorem map_eq_bind (r : Except Mismatch α) (f : α → β) : r.map f = r >>= fun a => .ok (f a) := by
  cases r <;> rfl

/-- A value, with the tokens left by a reader of the grammar that gives no value itself. -/
def leaving (a : α) (r : Except Mismatch (List Token)) : Except Mismatch (α × List Token) :=
  r.map fun ts => (a, ts)

end

/-! ## Following a reader of the grammar -/

variable {α β : Type} {c c' : Cursor}

/-- From the cursor, a reader comes to the value that `r` gives, with the cursor behind what `r` has
read and ready for another turn; or to the lack that `r` finds, with the cursor where it arises. -/
inductive Follows (c : Cursor) (run : Reading α) (r : Except Mismatch (α × List Token)) : Prop where
  | ok {a : α} {c' : Cursor} (ends : run.outcome c = some (.ok a, c')) (leads : c.Leads c')
      (ready : c'.Ready) (read : r = .ok (a, c'.left))
  | error {what : String} {c' : Cursor} (ends : run.outcome c = some (.error (c'.error what), c'))
      (leads : c.Leads c') (sound : c'.Sound) (read : r = mismatch what c'.left)

namespace Follows

section
variable {run : Reading α} {r : Except Mismatch (α × List Token)}

theorem pure (hc : c.Ready) {a : α} : Follows c (pure a) (.ok (a, c.left)) :=
  .ok (outcome_pure c a) (.refl c) hc rfl

theorem pure_of_left (hc : c.Ready) {a : α} {ts : List Token} (h : c.left = ts) :
    Follows c (Pure.pure a) (.ok (a, ts)) :=
  h ▸ .pure hc

theorem fail (hc : c.Sound) {what : String} :
    Follows (α := α) c (fail what) (mismatch what c.left) :=
  .error (outcome_fail c what) (.refl c) hc rfl

theorem fail_bind (hc : c.Sound) {what : String} {F : β → Reading α} :
    Follows c (Reading.fail what >>= F) (mismatch what c.left) :=
  .error (outcome_bind_of_error (outcome_fail c what) F) (.refl c) hc rfl

/-- The reader may begin at another cursor, to which the first one leads. -/
theorem behind (h : Follows c' run r) (leads : c.Leads c') {run' : Reading α}
    (same : run'.outcome c = run.outcome c') : Follows c run' r := by
  cases h with
  | ok ends leads' ready read => exact .ok (same.trans ends) (leads.trans leads') ready read
  | error ends leads' sound read => exact .error (same.trans ends) (leads.trans leads') sound read

theorem congr {s : Except Mismatch (α × List Token)} (h : Follows c run r) (same : r = s) :
    Follows c run s :=
  same ▸ h

theorem get {F : Cursor → Reading α} (h : Follows c (F c) r) : Follows c (get >>= F) r :=
  h.behind (.refl c) (outcome_get_bind F)

theorem bind {F : α → Reading β} {f : α × List Token → Except Mismatch (β × List Token)}
    (h : Follows c run r)
    (hf : ∀ a c', c'.Ready → r = .ok (a, c'.left) → Follows c' (F a) (f (a, c'.left))) :
    Follows c (run >>= F) (r >>= f) := by
  cases h with
  | ok ends leads ready read =>
    rw [read, ok_bind]
    exact (hf _ _ ready read).behind leads (outcome_bind_of_ok ends F)
  | error ends leads sound read =>
    subst read
    exact .error (outcome_bind_of_error ends F) leads sound rfl

/-- The same where the reader of the grammar always finds something. -/
theorem bindFound {p : α × List Token} {F : α → Reading β} {s : Except Mismatch (β × List Token)}
    (h : Follows c run (.ok p)) (hf : ∀ c', c'.Ready → c'.left = p.2 → Follows c' (F p.1) s) :
    Follows c (run >>= F) s :=
  h.bind (f := fun _ => s) fun a c' hc' found => by
    cases found
    exact hf c' hc' rfl

theorem andThen {a : α} {s : Except Mismatch (List Token)} {F : α → Reading β}
    {f : List Token → Except Mismatch (β × List Token)} (h : Follows c run (leaving a s))
    (hf : ∀ c', c'.Ready → s = .ok c'.left → Follows c' (F a) (f c'.left)) :
    Follows c (run >>= F) (s >>= f) := by
  cases s with
  | error m => exact h.bind (f := fun p => f p.2) fun _ _ _ found => by cases found
  | ok ts =>
    refine h.bindFound fun c' hc' left => ?_
    obtain rfl : c'.left = ts := left
    exact hf c' hc' rfl

theorem map (h : Follows c run r) (g : α → β) :
    Follows c (run >>= fun a => Pure.pure (g a)) (r.map fun p => (g p.1, p.2)) := by
  rw [map_eq_bind]
  exact h.bind fun a c' hc' _ => .pure hc'

end

end Follows

/-! ## Keywords and punctuation -/

/-- Keywords to look for: there are some, and none is empty, as the keyword behind the end is. -/
def AreKeywords (words : List String) : Prop := words ≠ [] ∧ "" ∉ words

instance : DecidablePred AreKeywords := fun words =>
  inferInstanceAs (Decidable (words ≠ [] ∧ "" ∉ words))

section
variable {words : List String} {text : String} {rest : List Token}

theorem place_step (hc : c.Sound) {n : Nat} (hl : rest.length + n = c.left.length) :
    c.place + n ≤ c.tokens.length := by
  have all : c.left.length = c.tokens.length - c.place := List.length_drop
  have here := hc.inside
  omega

theorem left_step {n : Nat} (hr : rest <:+ c.left) (hl : rest.length + n = c.left.length) :
    (c.moveTo (c.place + n)).left = rest := by
  rw [List.suffix_iff_eq_drop.1 hr, Cursor.left_moveTo, ← List.drop_drop]
  congr 1
  omega

theorem accept_of_keywords (hw : AreKeywords words) (h : keywords? words c.left = some rest) :
    (accept words).outcome c = some (.ok true, c.moveTo (c.place + words.length)) := by
  have found : c.atKeywords words = true := by
    rw [Cursor.atKeywords_eq hw.2, Grammar.atKeywords, h]
    rfl
  rw [accept, outcome_get_bind, if_pos found]
  rfl

theorem accept_of_no_keywords (hw : AreKeywords words) (h : keywords? words c.left = none) :
    (accept words).outcome c = some (.ok false, c) := by
  have notFound : ¬c.atKeywords words = true := by
    rw [Cursor.atKeywords_eq hw.2, Grammar.atKeywords, h]
    exact Bool.false_ne_true
  rw [accept, outcome_get_bind, if_neg notFound]
  rfl

theorem acceptPunct_of_punct (h : punct? text c.left = some rest) :
    (acceptPunct text).outcome c = some (.ok true, c.moveTo (c.place + 1)) := by
  have found : c.atPunct text = true := by
    rw [Cursor.atPunct_eq, Grammar.atPunct, h]
    rfl
  rw [acceptPunct, outcome_get_bind, if_pos found]
  rfl

theorem acceptPunct_of_no_punct (h : punct? text c.left = none) :
    (acceptPunct text).outcome c = some (.ok false, c) := by
  have notFound : ¬c.atPunct text = true := by
    rw [Cursor.atPunct_eq, Grammar.atPunct, h]
    exact Bool.false_ne_true
  rw [acceptPunct, outcome_get_bind, if_neg notFound]
  rfl

theorem next_of_cons {t : Token} (h : c.left = t :: rest) :
    next.outcome c = some (.ok (some t), c.moveTo (c.place + 1)) := by
  have first : c.peek = some t := by rw [Cursor.peek_eq, h]; rfl
  rw [next, outcome_get_bind, first]
  rfl

theorem next_of_nil (h : c.left = []) : next.outcome c = some (.ok none, c) := by
  have first : c.peek = none := by rw [Cursor.peek_eq, h]; rfl
  rw [next, outcome_get_bind, first]
  rfl

end

namespace Follows

section
variable {r : Except Mismatch (α × List Token)} {F : Bool → Reading α}

/-- Keywords are read if they are there. -/
theorem accept (hc : c.Sound) {words : List String} (hw : AreKeywords words)
    (yes : ∀ c', c'.Ready → keywords? words c.left = some c'.left → Follows c' (F true) r)
    (no : keywords? words c.left = none → Follows c (F false) r) :
    Follows c (Reading.accept words >>= F) r := by
  cases h : keywords? words c.left with
  | none => exact (no h).behind (.refl c) (outcome_bind_of_ok (accept_of_no_keywords hw h) F)
  | some rest =>
    have some := List.length_pos_iff.2 hw.1
    have length := length_of_keywords? h
    have ready := hc.ready_moveTo (Nat.lt_add_of_pos_right some) (place_step hc length)
    have left := left_step (suffix_of_keywords? h) length
    exact (yes _ ready (left ▸ h)).behind (.moveTo (Nat.le_add_right _ _))
      (outcome_bind_of_ok (accept_of_keywords hw h) F)

/-- Punctuation is read if it is there. -/
theorem acceptPunct (hc : c.Sound) {text : String}
    (yes : ∀ c', c'.Ready → punct? text c.left = some c'.left → Follows c' (F true) r)
    (no : punct? text c.left = none → Follows c (F false) r) :
    Follows c (Reading.acceptPunct text >>= F) r := by
  cases h : punct? text c.left with
  | none => exact (no h).behind (.refl c) (outcome_bind_of_ok (acceptPunct_of_no_punct h) F)
  | some rest =>
    have length := length_of_punct? h
    have ready := hc.ready_moveTo (Nat.lt_add_one _) (place_step hc length)
    have left := left_step (suffix_of_punct? h) length
    exact (yes _ ready (left ▸ h)).behind (.moveTo (Nat.le_add_right _ _))
      (outcome_bind_of_ok (acceptPunct_of_punct h) F)

/-- A look at the cursor. -/
theorem look {test : Cursor → Bool} (yes : test c = true → Follows c (F true) r)
    (no : test c = false → Follows c (F false) r) : Follows c (Reading.look test >>= F) r := by
  cases h : test c with
  | false => exact (no h).behind (.refl c) (outcome_bind_of_ok (h ▸ outcome_look c test) F)
  | true => exact (yes h).behind (.refl c) (outcome_bind_of_ok (h ▸ outcome_look c test) F)

theorem lookPunct {text : String}
    (yes : Grammar.atPunct text c.left = true → Follows c (F true) r)
    (no : ¬Grammar.atPunct text c.left = true → Follows c (F false) r) :
    Follows c (Reading.look (·.atPunct text) >>= F) r :=
  look (fun h => yes (c.atPunct_eq text ▸ h))
    (fun h => no (c.atPunct_eq text ▸ Bool.eq_false_iff.1 h))

theorem lookKeywords {words : List String} (hw : AreKeywords words)
    (yes : Grammar.atKeywords words c.left = true → Follows c (F true) r)
    (no : ¬Grammar.atKeywords words c.left = true → Follows c (F false) r) :
    Follows c (Reading.look (·.atKeywords words) >>= F) r :=
  look (fun h => yes (Cursor.atKeywords_eq hw.2 ▸ h))
    (fun h => no (Cursor.atKeywords_eq hw.2 ▸ Bool.eq_false_iff.1 h))

/-- A token is read if one is left. -/
theorem next {F : Option Token → Reading α} (hc : c.Sound)
    (some : ∀ t c', c'.Ready → c.left = t :: c'.left → Follows c' (F (some t)) r)
    (none : c.left = [] → Follows c (F none) r) : Follows c (Reading.next >>= F) r := by
  cases h : c.left with
  | nil => exact (none h).behind (.refl c) (outcome_bind_of_ok (next_of_nil h) F)
  | cons t ts =>
    have length : ts.length + 1 = c.left.length := by rw [h]; rfl
    have ready := hc.ready_moveTo (Nat.lt_add_one _) (place_step hc length)
    have left := left_step (h ▸ List.suffix_cons t ts) length
    exact (some t _ ready (left ▸ h)).behind (.moveTo (Nat.le_add_right _ _))
      (outcome_bind_of_ok (next_of_cons h) F)

/-- A token that is left is passed over. -/
theorem skip {F : Reading α} (hc : c.Sound) {t : Token} {ts : List Token} (hl : c.left = t :: ts)
    (skip : ∀ c', c'.Ready → c'.left = ts → Follows c' F r) :
    Follows c (Reading.next >>= fun _ => F) r :=
  next hc (fun _ c' hc' h => skip c' hc' (List.cons.inj (h.symm.trans hl)).2)
    (fun h => by cases h.symm.trans hl)

/-- A keyword that was seen is passed over. -/
theorem skipKeyword {F : Reading α} (hc : c.Sound) {word : String} {words : List String}
    (h : Grammar.atKeywords (word :: words) c.left = true)
    (skip : ∀ c', c'.Ready → c'.left = c.left.drop 1 → Follows c' F r) :
    Follows c (Reading.next >>= fun _ => F) r := by
  cases hl : c.left with
  | nil =>
    rw [hl] at h
    cases h
  | cons t ts => exact .skip hc hl fun c' hc' h' => skip c' hc' (by rw [h', hl, List.drop_one]; rfl)

end

end Follows

theorem follows_accept (hc : c.Ready) {words : List String} (hw : AreKeywords words) :
    Follows c (accept words) (.ok (Grammar.accept words c.left)) := by
  rw [← bind_pure (accept words), Grammar.accept]
  refine .accept hc.toSound hw (fun c' hc' h => ?_) (fun h => ?_)
  · rw [h]
    exact .pure hc'
  · rw [h]
    exact .pure hc

theorem follows_takeRest (hc : c.Ready) : Follows c takeRest (.ok (c.left, [])) := by
  have ready := hc.moveTo hc.inside (Nat.le_refl _)
  refine .ok (outcome_get_bind _) (.moveTo hc.inside) ready ?_
  rw [Cursor.left_moveTo, List.drop_length]
  rfl

theorem follows_expect (hc : c.Sound) {words : List String} (hw : AreKeywords words) :
    Follows c (expect words) (leaving () (expectKeywords words c.left)) := by
  unfold expectKeywords
  refine .accept hc hw (fun c' hc' h => ?_) (fun h => ?_)
  · rw [h]
    exact .pure hc'
  · rw [h]
    exact .fail hc

theorem follows_expectPunct (hc : c.Sound) (text : String) :
    Follows c (expectPunct text) (leaving () (Grammar.expectPunct text c.left)) := by
  unfold Grammar.expectPunct
  refine .acceptPunct hc (fun c' hc' h => ?_) (fun h => ?_)
  · rw [h]
    exact .pure hc'
  · rw [h]
    exact .fail hc

/-! ## Turns of a loop -/

/-- What comes behind a turn: another one, unless the loop broke off. -/
def behindTurn (loop : Loop) (test : Reading Bool) (body : β → Reading (ForInStep β)) :
    ForInStep β → Reading β
  | .yield b => repeatWhile loop test body b
  | .done b => pure b

section
variable {loop : Loop} {test : Reading Bool} {body : β → Reading (ForInStep β)} {b : β}

theorem repeatWhile_of_stop (h : test.outcome c = some (.ok false, c')) :
    (repeatWhile loop test body b).outcome c = some (.ok b, c') := by
  rw [repeatWhile, outcome_get_bind, outcome_bind_of_ok h]
  rfl

theorem repeatWhile_of_turn (h : test.outcome c = some (.ok true, c')) :
    (repeatWhile loop test body b).outcome c =
      (body b >>= behindTurn loop test body).outcome (c'.note loop c.place) := by
  rw [repeatWhile, outcome_get_bind, outcome_bind_of_ok h]
  refine (outcome_bind_of_ok (outcome_note c' loop c.place) _).trans ?_
  congr 2

end

namespace Follows

section
variable {loop : Loop} {body : β → Reading (ForInStep β)} {b : β}
  {r : Except Mismatch (β × List Token)}

/-- A call that is noted where it begins. -/
theorem call {F : Unit → Reading α} {r : Except Mismatch (α × List Token)} (hc : c.Ready)
    (call : ∀ c', c'.Sound → c'.left = c.left → Follows c' (F ()) r) :
    Follows c (note loop c.place >>= F) r :=
  (call _ (hc.toSound.note loop hc.here hc.moved) rfl).behind (.note loop c.place)
    (outcome_bind_of_ok (outcome_note c loop c.place) F)

/-- A loop whose test only looks. A turn begins where the cursor is. -/
theorem turn {test : Cursor → Bool} (hc : c.Ready)
    (turn : test c = true → ∀ c', c'.Sound → c'.left = c.left →
      Follows c' (body b >>= behindTurn loop (Reading.look test) body) r)
    (stop : test c = false → r = .ok (b, c.left)) :
    Follows c (repeatWhile loop (Reading.look test) body b) r := by
  have looks := outcome_look c test
  cases h : test c with
  | false =>
    rw [h] at looks
    exact .ok (repeatWhile_of_stop looks) (.refl c) hc (stop h)
  | true =>
    rw [h] at looks
    have sound := hc.toSound.note loop hc.here hc.moved
    exact (turn h _ sound rfl).behind (.note loop c.place) (repeatWhile_of_turn looks)

/-- A loop that goes on behind punctuation. A turn begins at the punctuation. -/
theorem turnBehind {text : String} (hc : c.Ready)
    (turn : ∀ c', c'.Ready → punct? text c.left = some c'.left →
      Follows c' (body b >>= behindTurn loop (Reading.acceptPunct text) body) r)
    (stop : punct? text c.left = none → r = .ok (b, c.left)) :
    Follows c (repeatWhile loop (Reading.acceptPunct text) body b) r := by
  cases h : punct? text c.left with
  | none => exact .ok (repeatWhile_of_stop (acceptPunct_of_no_punct h)) (.refl c) hc (stop h)
  | some rest =>
    have length := length_of_punct? h
    have ready := hc.note_moveTo loop (Nat.lt_add_one _) (place_step hc.toSound length)
    have left := left_step (suffix_of_punct? h) length
    exact (turn _ ready (left ▸ h)).behind ((Cursor.Leads.moveTo (Nat.le_add_right _ _)).trans
      (.note loop c.place)) (repeatWhile_of_turn (acceptPunct_of_punct h))

end

end Follows

end Reading

end SpannerDdl
