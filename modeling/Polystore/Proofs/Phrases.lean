import Mathlib.Data.List.DropRight
import Polystore.Failure
import Polystore.Identifier
import Polystore.Text.Basic

/-!
# Phrases in messages

How a message is read for the name of an unknown column.  The reading tries one character after the
other until a phrase starts there that a name follows:

    propertyIn? (before ++ rest) = propertyIn? rest     if before announces nothing
                                                                      (propertyIn?_append)
    propertyHere? cs = some name ↔ cs is a phrase and what announces name
                                                                      (propertyHere?_eq_some_iff)
    announcedName? (gap ++ (quote ++ (name ++ after))) = some name    (announcedName?_append)

A phrase holds its first letter nowhere else, so a text without a phrase is passed over also when
a phrase comes next (`propertyIn?_append_of_not_holdsPhrase`).
-/

namespace Polystore

/-- Does a phrase stand in the text? -/
def HoldsPhrase (cs : List Char) : Prop := ∃ phrase ∈ unknownPhrases, phrase.toList <:+: cs

instance (cs : List Char) : Decidable (HoldsPhrase cs) :=
  inferInstanceAs (Decidable (∃ phrase ∈ unknownPhrases, phrase.toList <:+: cs))

/-! ## Characters of a name -/

section
variable {c : Char} (h : Identifier.isPart c = true)
include h

theorem toNat_of_isPart : 48 ≤ c.toNat ∧ c.toNat ≤ 122 := by
  change (decide ('A'.val ≤ c.val ∧ c.val ≤ 'Z'.val) ||
    (decide ('a'.val ≤ c.val) && decide (c.val ≤ 'z'.val)) ||
    (decide ('0'.val ≤ c.val) && decide (c.val ≤ '9'.val)) || decide (c = '_')) = true at h
  simp only [Bool.or_eq_true, Bool.and_eq_true, decide_eq_true_iff,
    UInt32.le_iff_toNat_le] at h
  have hbounds : ('0'.val.toNat = 48 ∧ '9'.val.toNat = 57) ∧
      ('A'.val.toNat = 65 ∧ 'Z'.val.toNat = 90) ∧ 'a'.val.toNat = 97 ∧ 'z'.val.toNat = 122 := by
    decide
  rcases h with ((h | h) | h) | rfl
  · show 48 ≤ c.val.toNat ∧ c.val.toNat ≤ 122
    omega
  · show 48 ≤ c.val.toNat ∧ c.val.toNat ≤ 122
    omega
  · show 48 ≤ c.val.toNat ∧ c.val.toNat ≤ 122
    omega
  · decide

theorem isSpace_of_isPart : Text.isSpace c = false := by
  obtain ⟨hl, hu⟩ := toNat_of_isPart h
  have hranges : ∀ r ∈ Text.whiteSpace, r.2 < 48 ∨ 122 < r.1 := by decide
  rw [Text.isSpace, Text.Ranges.holds, List.any_eq_false]
  intro r hr hin
  rw [Bool.and_eq_true, decide_eq_true_iff, decide_eq_true_iff] at hin
  have hr := hranges r hr
  omega

theorem isPropertyChar_of_isPart : isPropertyChar c = true := by
  rw [isPropertyChar, Bool.or_eq_true]
  exact .inl h

theorem ne_of_isPart {d : Char} (hd : Identifier.isPart d = false) : c ≠ d := by
  rintro rfl
  rw [h] at hd
  cases hd

end

theorem isSpace_of_isPropertyChar {c : Char} (h : isPropertyChar c = true) :
    Text.isSpace c = false := by
  rw [isPropertyChar, Bool.or_eq_true, decide_eq_true_iff] at h
  rcases h with h | rfl
  · exact isSpace_of_isPart h
  · decide

theorem ne_quote_of_isPropertyChar {c : Char} (h : isPropertyChar c = true) : c ≠ '"' := by
  rintro rfl
  exact absurd h (by decide)

/-! ## After a phrase -/

/-- The text without its quote. -/
def unquoted : List Char → List Char
  | '"' :: cs => cs
  | cs => cs

theorem unquoted_of_ne {c : Char} (h : c ≠ '"') (cs : List Char) :
    unquoted (c :: cs) = c :: cs := by
  unfold unquoted
  split
  · next he => exact absurd (List.cons.inj he).1 h
  · rfl

/-- A quote or none, and what is behind it. -/
theorem exists_unquoted (cs : List Char) :
    ∃ quote, (quote = [] ∨ quote = ['"']) ∧ cs = quote ++ unquoted cs := by
  cases cs with
  | nil => exact ⟨[], .inl rfl, rfl⟩
  | cons c cs =>
    by_cases h : c = '"'
    · subst h
      exact ⟨['"'], .inr rfl, rfl⟩
    · exact ⟨[], .inl rfl, (unquoted_of_ne h cs).symm⟩

/-- What is announced is what is read behind the white space, of which there must be some. -/
theorem announcedName?_eq_some_iff {cs name : List Char} :
    announcedName? cs = some name ↔
      cs.dropWhile Text.isSpace ≠ cs ∧ name ≠ [] ∧
        (unquoted (cs.dropWhile Text.isSpace)).takeWhile isPropertyChar = name := by
  have hlength : (cs.dropWhile Text.isSpace).length = cs.length ↔
      cs.dropWhile Text.isSpace = cs :=
    ⟨(List.dropWhile_suffix _).eq_of_length, congrArg List.length⟩
  have hunfold : announcedName? cs =
      if (cs.dropWhile Text.isSpace).length = cs.length then none
      else if (unquoted (cs.dropWhile Text.isSpace)).takeWhile isPropertyChar = [] then none
      else some ((unquoted (cs.dropWhile Text.isSpace)).takeWhile isPropertyChar) := rfl
  rw [hunfold]
  by_cases hs : cs.dropWhile Text.isSpace = cs
  · rw [if_pos (hlength.2 hs)]
    simp [hs]
  · rw [if_neg fun h => hs (hlength.1 h)]
    split
    · next hn => simp [hn, eq_comm]
    · next hn =>
      rw [Option.some.injEq]
      refine ⟨fun h => ⟨hs, h ▸ hn, h⟩, fun h => h.2.2⟩

section
variable {gap quote : List Char} (hgap : gap ≠ []) (hspace : ∀ g ∈ gap, Text.isSpace g = true)
  (hquote : quote = [] ∨ quote = ['"'])
include hgap hspace hquote

/-- Behind white space and perhaps a quote, the characters of a name are read as long as there are
any. -/
theorem announcedName?_cons {c : Char} (hc : isPropertyChar c = true) (after : List Char) :
    announcedName? (gap ++ (quote ++ c :: after)) =
      some ((c :: after).takeWhile isPropertyChar) := by
  -- neither a quote nor a character of a name is white space
  have hdrop : (gap ++ (quote ++ c :: after)).dropWhile Text.isSpace = quote ++ c :: after := by
    rw [List.dropWhile_append_of_pos hspace]
    rcases hquote with rfl | rfl
    · exact List.dropWhile_cons_of_neg (by simp [isSpace_of_isPropertyChar hc])
    · exact List.dropWhile_cons_of_neg (by decide)
  have hunquoted : unquoted (quote ++ c :: after) = c :: after := by
    rcases hquote with rfl | rfl
    · exact unquoted_of_ne (ne_quote_of_isPropertyChar hc) after
    · rfl
  rw [announcedName?_eq_some_iff, hdrop, hunquoted]
  refine ⟨fun he => hgap (List.self_eq_append_left.1 he), ?_, rfl⟩
  rw [List.takeWhile_cons_of_pos hc]
  exact List.cons_ne_nil _ _

/-- A name is read whole if no character of a name follows it. -/
theorem announcedName?_append {name after : List Char} (hne : name ≠ [])
    (hname : ∀ c ∈ name, isPropertyChar c = true)
    (hafter : ∀ c ∈ after.head?, isPropertyChar c = false) :
    announcedName? (gap ++ (quote ++ (name ++ after))) = some name := by
  cases name with
  | nil => exact absurd rfl hne
  | cons c name =>
    have hread :=
      announcedName?_cons hgap hspace hquote (hname c List.mem_cons_self) (name ++ after)
    rw [← List.cons_append, Text.takeWhile_run hname hafter] at hread
    exact hread

end

/-! ## At a phrase -/

/-- Nothing is announced where no phrase starts. -/
theorem propertyHere?_eq_none {cs : List Char}
    (h : ∀ phrase ∈ unknownPhrases, ¬ phrase.toList <+: cs) : propertyHere? cs = none := by
  rw [propertyHere?, List.findSome?_eq_none_iff]
  intro phrase hp
  rw [if_neg]
  rw [List.isPrefixOf_iff_prefix]
  exact h phrase hp

/-- No phrase starts with another one, so a text starts with one of them at most. -/
theorem eq_of_prefix_append {p q : String} (hp : p ∈ unknownPhrases) (hq : q ∈ unknownPhrases)
    {rest : List Char} (h : p.toList <+: q.toList ++ rest) : p = q := by
  have hapart : ∀ p ∈ unknownPhrases, ∀ q ∈ unknownPhrases,
      p.toList <+: q.toList ∨ q.toList <+: p.toList → p = q := by decide
  exact hapart p hp q hq (List.prefix_or_prefix_of_prefix h (List.prefix_append _ _))

/-- A name is announced at the start of a text exactly if a phrase stands there and the name is read
after it. -/
theorem propertyHere?_eq_some_iff {cs name : List Char} :
    propertyHere? cs = some name ↔
      ∃ phrase ∈ unknownPhrases, ∃ rest,
        cs = phrase.toList ++ rest ∧ announcedName? rest = some name := by
  have hforward : ∀ {name}, propertyHere? cs = some name →
      ∃ phrase ∈ unknownPhrases, ∃ rest,
        cs = phrase.toList ++ rest ∧ announcedName? rest = some name := by
    intro name h
    obtain ⟨phrase, hp, h⟩ := List.exists_of_findSome?_eq_some h
    split at h
    · next hprefix =>
      obtain ⟨rest, rfl⟩ := List.isPrefixOf_iff_prefix.1 hprefix
      rw [List.drop_left] at h
      exact ⟨phrase, hp, rest, rfl, h⟩
    · cases h
  refine ⟨hforward, ?_⟩
  rintro ⟨phrase, hp, rest, rfl, hn⟩
  cases hhere : propertyHere? (phrase.toList ++ rest) with
  | none =>
    have hnot := List.findSome?_eq_none_iff.1 hhere phrase hp
    rw [if_pos (List.isPrefixOf_iff_prefix.2 (List.prefix_append _ _)), List.drop_left, hn] at hnot
    cases hnot
  | some name' =>
    -- whatever is found is found at the same phrase
    obtain ⟨phrase', hp', rest', he, hn'⟩ := hforward hhere
    obtain rfl := eq_of_prefix_append hp' hp ⟨rest', he.symm⟩
    rw [List.append_cancel_left he, hn'] at hn
    exact hn

theorem propertyIn?_of_here {cs name : List Char} (h : propertyHere? cs = some name) :
    propertyIn? cs = some name := by
  cases cs with
  | nil => cases h
  | cons c cs => rw [propertyIn?, h]

/-! ## Before a phrase -/

/-- A text is passed over if nothing is announced at any of its characters. -/
theorem propertyIn?_append {before rest : List Char}
    (h : ∀ cs, cs <:+ before → cs ≠ [] → propertyHere? (cs ++ rest) = none) :
    propertyIn? (before ++ rest) = propertyIn? rest := by
  induction before with
  | nil => rfl
  | cons c before ih =>
    have hhere := h (c :: before) List.suffix_rfl (List.cons_ne_nil _ _)
    rw [List.cons_append] at hhere
    rw [List.cons_append, propertyIn?, hhere]
    exact ih fun cs hs => h cs (hs.trans (List.suffix_cons c before))

/-- Every phrase starts with the same letter. -/
theorem head?_phrase_append {phrase : String} (hp : phrase ∈ unknownPhrases) (rest : List Char) :
    (phrase.toList ++ rest).head? = some 'U' := by
  have hhead : ∀ phrase ∈ unknownPhrases, phrase.toList.head? = some 'U' := by decide
  rw [List.head?_append, hhead phrase hp]
  rfl

/-- A text without the first letter of the phrases is passed over, whatever comes next. -/
theorem propertyIn?_append_of_notMem {cs : List Char} (h : 'U' ∉ cs) (rest : List Char) :
    propertyIn? (cs ++ rest) = propertyIn? rest := by
  refine propertyIn?_append fun ds hs hne => propertyHere?_eq_none ?_
  rintro phrase hp ⟨t, ht⟩
  have hc := head?_phrase_append hp t
  rw [ht, List.head?_append_of_ne_nil ds hne] at hc
  exact h (hs.mem (List.mem_of_head? hc))

/-- A phrase does not start within a text and end behind it, if its first letter comes next. -/
theorem prefix_of_prefix_append {phrase : String} (hp : phrase ∈ unknownPhrases)
    {cs rest : List Char} (hne : cs ≠ []) (hu : rest.head? = some 'U')
    (h : phrase.toList <+: cs ++ rest) : phrase.toList <+: cs := by
  have honce : ∀ phrase ∈ unknownPhrases, 'U' ∉ phrase.toList.tail := by decide
  rcases List.prefix_or_prefix_of_prefix h (List.prefix_append cs rest) with h' | ⟨ds, hds⟩
  · exact h'
  · -- what the phrase holds behind the text would start with its first letter
    rw [← hds, List.prefix_append_right_inj] at h
    cases ds with
    | nil =>
      rw [List.append_nil] at hds
      exact hds ▸ List.prefix_rfl
    | cons d ds =>
      obtain ⟨t, rfl⟩ := h
      obtain rfl : d = 'U' := Option.some.inj hu
      refine absurd ?_ (honce phrase hp)
      rw [← hds, List.tail_append_of_ne_nil hne]
      exact List.mem_append_right _ List.mem_cons_self

/-- A text without a phrase is passed over, also when a phrase comes next. -/
theorem propertyIn?_append_of_not_holdsPhrase {before rest : List Char}
    (h : ¬ HoldsPhrase before) (hu : rest.head? = some 'U') :
    propertyIn? (before ++ rest) = propertyIn? rest := by
  refine propertyIn?_append fun cs hs hne => propertyHere?_eq_none fun phrase hp hprefix => h ?_
  have hwithin := prefix_of_prefix_append hp hne hu hprefix
  exact ⟨phrase, hp, hwithin.isInfix.trans hs.isInfix⟩

/-! ## Dots at the end -/

theorem unknownProperty?_eq_none {message : String} (h : propertyIn? message.toList = none) :
    unknownProperty? message = none := by
  rw [unknownProperty?, h]
  rfl

/-- Nothing is taken off a name that does not end in a dot. -/
theorem unknownProperty?_eq_some {message name : String}
    (h : propertyIn? message.toList = some name.toList)
    (hdot : name.toList.getLast? ≠ some '.') : unknownProperty? message = some name := by
  have hwhole : name.toList.rdropWhile (· = '.') = name.toList := by
    rw [List.rdropWhile_eq_self_iff]
    intro hne hlast
    rw [List.getLast?_eq_some_getLast hne] at hdot
    exact hdot (congrArg some (of_decide_eq_true hlast))
  rw [unknownProperty?, h, Option.map_some]
  exact congrArg some ((congrArg String.ofList hwhole).trans String.ofList_toList)

end Polystore
