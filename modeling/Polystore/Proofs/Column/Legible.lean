import Mathlib
import Polystore.Proofs.Column.Outline

/-!
# Text that can be read back

Names, markers, numbers and lists of them stand in a text one after the other, and a name may be
any identifier, also a word of the language.  Still the text can be cut in one way only: an
identifier ends where a character stands that is no part of one, and what stands next decides how
it goes on.  Items whose text can be told apart like this are `Legible`, and so are lists of them
with a word in between:

    Legible d follows good pieces outline → Legible d after …                   (Legible.separated)
-/

namespace Polystore

variable {d : Dialect}

/-! ## Characters of pieces -/

/-- The characters of the text of pieces. -/
def charsOf (d : Dialect) (ps : List Piece) : List Char := (textOf d ps).toList

@[simp] theorem charsOf_nil : charsOf d [] = [] := by simp [charsOf]

@[simp] theorem charsOf_cons (p : Piece) (ps : List Piece) :
    charsOf d (p :: ps) = (p.text d).toList ++ charsOf d ps := by
  rw [charsOf, textOf_cons, String.toList_append, charsOf]

@[simp] theorem charsOf_append (ps qs : List Piece) :
    charsOf d (ps ++ qs) = charsOf d ps ++ charsOf d qs := by
  rw [charsOf, textOf_append, String.toList_append, charsOf, charsOf]

/-- Groups of pieces, each after a word. -/
theorem charsOf_separate_cons (sep : String) (ps : List Piece) (pss : List (List Piece)) :
    charsOf d (separate sep (ps :: pss)) =
      charsOf d ps ++ pss.flatMap fun qs => sep.toList ++ charsOf d qs := by
  induction pss generalizing ps with
  | nil => simp [separate]
  | cons qs pss ih =>
    have hs : separate sep (ps :: qs :: pss) = ps ++ .word sep :: separate sep (qs :: pss) := rfl
    rw [hs, charsOf_append, charsOf_cons, ih, List.flatMap_cons, List.append_assoc]
    rfl

/-! ## Legible items -/

/-- Characters of a kind are told apart from others that follow. -/
theorem append_inj_of_forall {p : Char → Bool} {l l' r r' : List Char} (hl : ∀ c ∈ l, p c = true)
    (hl' : ∀ c ∈ l', p c = true) (hr : ∀ c ∈ r.head?, p c = false)
    (hr' : ∀ c ∈ r'.head?, p c = false) (h : l ++ r = l' ++ r') : l = l' ∧ r = r' := by
  have he : l = l' := by rw [← Text.takeWhile_run hl hr, h, Text.takeWhile_run hl' hr']
  subst he
  exact ⟨rfl, List.append_cancel_left h⟩

/-- Items whose text can be read back.  Before a character that may follow, or before the end if it
may, equal characters come from items of one outline, and what follows them is the same. -/
def Legible {α β : Type} (d : Dialect) (follows : Option Char → Prop) (good : α → Prop)
    (pieces : α → List Piece) (outline : α → β) : Prop :=
  ∀ a a' : α, good a → good a' → ∀ r r' : List Char, follows r.head? → follows r'.head? →
    charsOf d (pieces a) ++ r = charsOf d (pieces a') ++ r' → outline a = outline a' ∧ r = r'

section
variable {α β : Type} {follows after : Option Char → Prop} {good : α → Prop}
  {pieces : α → List Piece} {outline : α → β} {sep : String} {c : Char}

/-- Before items that follow each after a word stands the first character of the word. -/
theorem head?_repeated (hsep : sep.toList.head? = some c) (a : α) (as : List α) (r : List Char) :
    (((a :: as).flatMap fun a => sep.toList ++ charsOf d (pieces a)) ++ r).head? = some c := by
  rw [List.flatMap_cons, List.append_assoc, List.append_assoc, List.head?_append, hsep]
  rfl

theorem follows_of_repeated (hsep : sep.toList.head? = some c) (hc : follows (some c))
    (hafter : ∀ o, after o → follows o) (as : List α) {r : List Char} (hr : after r.head?) :
    follows ((as.flatMap fun a => sep.toList ++ charsOf d (pieces a)) ++ r).head? := by
  cases as with
  | nil => exact hafter _ hr
  | cons a as => rwa [head?_repeated hsep]

/-- Items that follow the first one, each after the same word. -/
theorem Legible.repeated (h : Legible d follows good pieces outline)
    (hsep : sep.toList.head? = some c) (hc : follows (some c)) (hafter : ∀ o, after o → follows o)
    (hne : ¬after (some c)) {as as' : List α} (hg : ∀ a ∈ as, good a) (hg' : ∀ a ∈ as', good a)
    {r r' : List Char} (hr : after r.head?) (hr' : after r'.head?)
    (he : (as.flatMap fun a => sep.toList ++ charsOf d (pieces a)) ++ r =
      (as'.flatMap fun a => sep.toList ++ charsOf d (pieces a)) ++ r') :
    as.map outline = as'.map outline ∧ r = r' := by
  have hnext : ∀ (as : List α) (r : List Char), after r.head? →
      follows ((as.flatMap fun a => sep.toList ++ charsOf d (pieces a)) ++ r).head? :=
    fun as _ hr => follows_of_repeated hsep hc hafter as hr
  induction as generalizing as' with
  | nil =>
    cases as' with
    | nil => exact ⟨rfl, he⟩
    | cons a' as' =>
      rw [List.flatMap_nil, List.nil_append] at he
      rw [he, head?_repeated hsep] at hr
      exact absurd hr hne
  | cons a as ih =>
    cases as' with
    | nil =>
      rw [List.flatMap_nil, List.nil_append] at he
      rw [← he, head?_repeated hsep] at hr'
      exact absurd hr' hne
    | cons a' as' =>
      obtain ⟨ha, has⟩ := List.forall_mem_cons.1 hg
      obtain ⟨ha', has'⟩ := List.forall_mem_cons.1 hg'
      simp only [List.flatMap_cons, List.append_assoc] at he
      obtain ⟨ho, he⟩ := h a a' ha ha' _ _ (hnext as r hr) (hnext as' r' hr')
        (List.append_cancel_left he)
      obtain ⟨hos, he⟩ := ih has has' he
      exact ⟨by rw [List.map_cons, List.map_cons, ho, hos], he⟩

/-- Items with a word between them.  The first character of an item is none that may follow all of
them, so that no items are told apart from some. -/
theorem Legible.separated (h : Legible d follows good pieces outline)
    (hsep : sep.toList.head? = some c) (hc : follows (some c)) (hafter : ∀ o, after o → follows o)
    (hne : ¬after (some c))
    (hstart : ∀ a, good a → ∀ r : List Char, ¬after (charsOf d (pieces a) ++ r).head?) :
    Legible d after (fun as : List α => ∀ a ∈ as, good a)
      (fun as => separate sep (as.map pieces)) (List.map outline) := by
  intro as as' hg hg' r r' hr hr' he
  cases as with
  | nil =>
    cases as' with
    | nil => exact ⟨rfl, he⟩
    | cons a' as' =>
      simp only [List.map_cons, charsOf_separate_cons, List.append_assoc] at he
      rw [show r = _ from he] at hr
      exact absurd hr (hstart a' (hg' a' List.mem_cons_self) _)
  | cons a as =>
    cases as' with
    | nil =>
      simp only [List.map_cons, charsOf_separate_cons, List.append_assoc] at he
      rw [show r' = _ from he.symm] at hr'
      exact absurd hr' (hstart a (hg a List.mem_cons_self) _)
    | cons a' as' =>
      simp only [List.map_cons, charsOf_separate_cons, List.append_assoc, List.flatMap_map] at he
      have hnext : ∀ (as : List α) (r : List Char), after r.head? →
          follows ((as.flatMap fun a => sep.toList ++ charsOf d (pieces a)) ++ r).head? :=
        fun as r hr => follows_of_repeated hsep hc hafter as hr
      obtain ⟨ho, he⟩ := h a a' (hg a List.mem_cons_self) (hg' a' List.mem_cons_self) _ _
        (hnext as r hr) (hnext as' r' hr') he
      obtain ⟨hos, he⟩ := h.repeated hsep hc hafter hne
        (fun a ha => hg a (List.mem_cons_of_mem _ ha))
        (fun a ha => hg' a (List.mem_cons_of_mem _ ha)) hr hr' he
      exact ⟨by rw [List.map_cons, List.map_cons, ho, hos], he⟩

end

/-! ### Names, values and numbers -/

attribute [local simp] Piece.text

/-- No part of an identifier. -/
def EndsName (o : Option Char) : Prop := ∀ c ∈ o, Identifier.isPart c = false

@[simp] theorem endsName_none : EndsName none := by simp [EndsName]

@[simp] theorem endsName_some {c : Char} : EndsName (some c) ↔ Identifier.isPart c = false := by
  simp [EndsName]

/-- The characters that stand next to names. -/
theorem Identifier.not_isPart :
    isPart ' ' = false ∧ isPart ',' = false ∧ isPart '.' = false ∧ isPart '(' = false ∧
      isPart ')' = false ∧ isPart '*' = false ∧ isPart '?' = false := by
  decide

attribute [local simp] Identifier.not_isPart

/-- An identifier ends where a character stands that is no part of one. -/
theorem name_append_inj {s s' : String} (hs : Identifier.holds s = true)
    (hs' : Identifier.holds s' = true) {r r' : List Char} (hr : EndsName r.head?)
    (hr' : EndsName r'.head?) (h : s.toList ++ r = s'.toList ++ r') : s = s' ∧ r = r' := by
  obtain ⟨he, hrest⟩ := append_inj_of_forall (fun _ => Identifier.isPart_of_mem hs)
    (fun _ => Identifier.isPart_of_mem hs') hr hr' h
  exact ⟨String.toList_injective he, hrest⟩

/-- An identifier starts with a part of one. -/
theorem not_endsName_name {s : String} (hs : Identifier.holds s = true) (r : List Char) :
    ¬EndsName (s.toList ++ r).head? := by
  cases hl : s.toList with
  | nil => simp [Identifier.holds, hl] at hs
  | cons c cs =>
    have hc : Identifier.isPart c = true := Identifier.isPart_of_mem hs (by simp [hl])
    simp [hc]

theorem not_endsName_pieces {s : String} (hs : Identifier.holds s = true) (ps : List Piece)
    (r : List Char) : ¬EndsName (charsOf d (.name s :: ps) ++ r).head? := by
  rw [charsOf_cons, List.append_assoc]
  exact not_endsName_name hs _

/-- A marker is no identifier before a blank. -/
theorem marker_append_ne {s : String} (hs : Identifier.holds s = true) (r r' : List Char) :
    d.marker.toList ++ r ≠ s.toList ++ ' ' :: r' := by
  intro h
  cases d with
  | plain =>
    refine not_endsName_name hs (' ' :: r') ?_
    rw [← h]
    simp [Dialect.marker]
  | json =>
    have hname : Identifier.holds "fromJson" = true := by decide
    have hm : Dialect.json.marker.toList = "fromJson".toList ++ ['(', '?', ')'] := by decide
    rw [hm, List.append_assoc] at h
    obtain ⟨-, h⟩ := name_append_inj hname hs (by simp) (by simp) h
    simp at h

theorem legible_name {α : Type} (name : α → String) :
    Legible d EndsName (fun a => Identifier.holds (name a) = true) (fun a => [.name (name a)])
      name := by
  intro a a' ha ha' r r' hr hr' h
  simp only [charsOf_cons, charsOf_nil, List.append_nil] at h
  exact name_append_inj ha ha' hr hr' h

theorem legible_value {α : Type} (value : α → Json) :
    Legible d (fun _ => True) (fun _ => True) (fun a => [.value (value a)]) fun _ => Json.null := by
  intro a a' _ _ r r' _ _ h
  simp only [charsOf_cons, charsOf_nil, List.append_nil] at h
  exact ⟨rfl, List.append_cancel_left h⟩

/-- Names in a row, up to a closing bracket. -/
theorem legible_names {α : Type} (name : α → String) :
    Legible d (fun o => o = some ')')
      (fun as : List α => ∀ a ∈ as, Identifier.holds (name a) = true)
      (fun as => separate ", " (as.map fun a => [.name (name a)])) (List.map name) :=
  (legible_name name).separated (c := ',') (by simp) (by simp) (by simp) (by simp)
    fun a ha r ho => not_endsName_pieces ha [] r (by rw [ho]; simp)

/-- Values in a row, up to a closing bracket. -/
theorem legible_values {α : Type} (value : α → Json) :
    Legible d (fun o => o = some ')') (fun as : List α => ∀ a ∈ as, True)
      (fun as => separate ", " (as.map fun a => [.value (value a)]))
      (List.map fun _ => Json.null) :=
  (legible_value value).separated (c := ',') (by simp) trivial (fun _ _ => trivial) (by simp)
    fun a _ r => by cases d <;> simp [Dialect.marker]

/-- A number ends where neither a digit nor a sign stands. -/
theorem seconds_append_inj {n n' : Int} {r r' : List Char}
    (hr : ∀ c ∈ r.head?, (c.isDigit || c = '-') = false)
    (hr' : ∀ c ∈ r'.head?, (c.isDigit || c = '-') = false)
    (h : (toString n).toList ++ r = (toString n').toList ++ r') : n = n' ∧ r = r' := by
  obtain ⟨he, hrest⟩ := append_inj_of_forall (isDigit_or_sign_of_mem_toString n)
    (isDigit_or_sign_of_mem_toString n') hr hr' h
  exact ⟨Int.repr_inj.1 (String.toList_injective he), hrest⟩

end Polystore
