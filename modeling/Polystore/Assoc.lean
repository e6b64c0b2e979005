/-!
# Association lists in insertion order

A list of pairs read as a finite map: the first pair of a key counts.  `put` keeps the place of a
key that is already there and appends a new one, so a list built by `put` alone holds each key
once.  `putSorted` keeps the keys in increasing order instead.

    find? k (put k v l) = some v                    (find?_put_self)
    k' ≠ k → find? k' (put k v l) = find? k' l      (find?_put_of_ne)
    keys (put k v l) = keys l            if k is there, else keys l ++ [k]
-/

namespace Polystore.Assoc

/-! ## Operations -/

variable {α β γ : Type} [DecidableEq α]

/-- The value of the first pair with this key. -/
def find? (k : α) : List (α × β) → Option β
  | [] => none
  | (k', v) :: l => if k' = k then some v else find? k l

/-- The keys in list order. -/
def keys (l : List (α × β)) : List α := l.map Prod.fst

/-- Is there a pair with this key? -/
def has (k : α) (l : List (α × β)) : Bool := (find? k l).isSome

/-- Replaces the value of a key in its place, or appends the pair. -/
def put (k : α) (v : β) : List (α × β) → List (α × β)
  | [] => [(k, v)]
  | (k', v') :: l => if k' = k then (k', v) :: l else (k', v') :: put k v l

/-- Puts every pair of the second list, in order. -/
def putAll (l : List (α × β)) (new : List (α × β)) : List (α × β) :=
  new.foldl (fun acc p => put p.1 p.2 acc) l

/-- The list with every pair put in order, so that each key keeps its first place and its last
value. -/
def ofList (l : List (α × β)) : List (α × β) := putAll [] l

/-- Removes every pair with this key. -/
def erase (k : α) (l : List (α × β)) : List (α × β) := l.filter fun p => p.1 ≠ k

/-- Changes the value of a key in its place; a missing key starts from `fresh` and is appended. -/
def modify (k : α) (fresh : β) (f : β → β) (l : List (α × β)) : List (α × β) :=
  put k (f ((find? k l).getD fresh)) l

/-- Puts a pair so that keys stay in increasing order of `lt`. -/
def putSorted (lt : α → α → Bool) (k : α) (v : β) : List (α × β) → List (α × β)
  | [] => [(k, v)]
  | (k', v') :: l =>
    if k' = k then (k, v) :: l
    else if lt k k' then (k, v) :: (k', v') :: l
    else (k', v') :: putSorted lt k v l

/-! ## Lemmas -/

@[simp] theorem find?_nil (k : α) : find? k ([] : List (α × β)) = none := rfl

theorem find?_cons (k k' : α) (v : β) (l : List (α × β)) :
    find? k ((k', v) :: l) = if k' = k then some v else find? k l := rfl

theorem find?_put_self (k : α) (v : β) (l : List (α × β)) : find? k (put k v l) = some v := by
  induction l with
  | nil => simp [put, find?]
  | cons p l ih => by_cases h : p.1 = k <;> simp [put, find?, h, ih]

theorem find?_put_of_ne {k k' : α} (h : k' ≠ k) (v : β) (l : List (α × β)) :
    find? k' (put k v l) = find? k' l := by
  induction l with
  | nil => simp [put, find?, h.symm]
  | cons p l ih =>
    by_cases hp : p.1 = k
    · simp [put, find?, hp, h.symm]
    · simp [put, find?, hp, ih]

theorem find?_eq_none_iff (k : α) (l : List (α × β)) : find? k l = none ↔ k ∉ keys l := by
  induction l with
  | nil => simp [keys]
  | cons p l ih =>
    by_cases h : p.1 = k
    · simp [find?, keys, h]
    · simp only [find?, if_neg h, ih, keys, List.map_cons, List.mem_cons, not_or]
      exact ⟨fun hn => ⟨fun e => h e.symm, hn⟩, fun hn => hn.2⟩

theorem find?_append (k : α) (l l' : List (α × β)) :
    find? k (l ++ l') = (find? k l).or (find? k l') := by
  induction l with
  | nil => rfl
  | cons p l ih =>
    rw [List.cons_append, find?_cons, find?_cons, ih]
    split
    · rfl
    · rfl

theorem keys_put_of_mem {k : α} (v : β) {l : List (α × β)} (h : k ∈ keys l) :
    keys (put k v l) = keys l := by
  induction l with
  | nil => simp [keys] at h
  | cons p l ih =>
    by_cases hp : p.1 = k
    · simp [put, keys, hp]
    · have hl : k ∈ keys l := by simpa [keys, Ne.symm hp] using h
      have := ih hl
      simp only [keys] at this
      simp [put, keys, hp, this]

theorem keys_put_of_not_mem {k : α} (v : β) {l : List (α × β)} (h : k ∉ keys l) :
    keys (put k v l) = keys l ++ [k] := by
  induction l with
  | nil => simp [put, keys]
  | cons p l ih =>
    have hp : p.1 ≠ k := fun e => h (by simp [keys, e])
    have hl : k ∉ keys l := fun hm => h (by simp [keys] at hm ⊢; exact Or.inr hm)
    have := ih hl
    simp only [keys] at this
    simp [put, keys, hp, this]

/-- Putting never repeats a key. -/
theorem nodup_keys_put (k : α) (v : β) {l : List (α × β)} (h : (keys l).Nodup) :
    (keys (put k v l)).Nodup := by
  by_cases hk : k ∈ keys l
  · rwa [keys_put_of_mem v hk]
  · rw [keys_put_of_not_mem v hk]
    refine List.nodup_append.2 ⟨h, by simp, ?_⟩
    rintro a ha b hb rfl
    exact hk (List.mem_singleton.1 hb ▸ ha)

theorem find?_put (k k' : α) (v : β) (l : List (α × β)) :
    find? k' (put k v l) = if k' = k then some v else find? k' l := by
  split
  · next h => rw [h, find?_put_self]
  · next h => rw [find?_put_of_ne h]

theorem find?_filter (q : α → Bool) (k : α) (l : List (α × β)) :
    find? k (l.filter fun p => q p.1) = if q k then find? k l else none := by
  induction l with
  | nil => simp
  | cons p l ih =>
    obtain ⟨a, b⟩ := p
    rw [List.filter_cons]
    by_cases hk : a = k
    · subst hk
      by_cases ha : q a = true <;> simp [find?, ha, ih]
    · by_cases ha : q a = true <;> simp [find?, ha, hk, ih]

theorem find?_erase (k k' : α) (l : List (α × β)) :
    find? k' (erase k l) = if k' = k then none else find? k' l := by
  refine (find?_filter (fun a => a ≠ k) k' l).trans ?_
  by_cases hk : k' = k
  · simp [hk]
  · simp [hk]

theorem mem_of_find?_eq_some {k : α} {v : β} {l : List (α × β)} (h : find? k l = some v) :
    (k, v) ∈ l := by
  induction l with
  | nil => simp at h
  | cons p l ih =>
    rw [find?_cons] at h
    split at h
    · next hk => exact List.mem_cons.2 (Or.inl (Prod.ext hk.symm (Option.some.inj h).symm))
    · exact List.mem_cons_of_mem _ (ih h)

omit [DecidableEq α] in
theorem mem_keys_of_mem {p : α × β} {l : List (α × β)} (h : p ∈ l) : p.1 ∈ keys l :=
  List.mem_map_of_mem h

theorem mem_keys_of_find?_eq_some {k : α} {v : β} {l : List (α × β)} (h : find? k l = some v) :
    k ∈ keys l := mem_keys_of_mem (mem_of_find?_eq_some h)

theorem exists_find?_of_mem_keys {k : α} {l : List (α × β)} (h : k ∈ keys l) :
    ∃ v, find? k l = some v := by
  cases hf : find? k l with
  | none => exact absurd h ((find?_eq_none_iff k l).1 hf)
  | some v => exact ⟨v, rfl⟩

/-- If no key is repeated, every pair is the one that its key finds. -/
theorem find?_eq_some_of_mem {k : α} {v : β} {l : List (α × β)} (hn : (keys l).Nodup)
    (h : (k, v) ∈ l) : find? k l = some v := by
  induction l with
  | nil => simp at h
  | cons p l ih =>
    obtain ⟨hp, hl⟩ := List.nodup_cons.1 hn
    rw [find?_cons]
    rcases List.mem_cons.1 h with rfl | h
    · rw [if_pos rfl]
    · have hk : p.1 ≠ k := fun e => hp (by rw [e]; exact mem_keys_of_mem h)
      rw [if_neg hk, ih hl h]

/-- Erasing never repeats a key. -/
theorem nodup_keys_erase (k : α) {l : List (α × β)} (h : (keys l).Nodup) :
    (keys (erase k l)).Nodup :=
  (List.filter_sublist.map Prod.fst).nodup h

theorem keys_erase (k : α) (l : List (α × β)) :
    keys (erase k l) = (keys l).filter fun k' => k' ≠ k := by
  rw [keys, keys, erase, List.filter_map]
  rfl

theorem mem_of_mem_put {k : α} {v : β} {p : α × β} {l : List (α × β)} (h : p ∈ put k v l) :
    p = (k, v) ∨ p ∈ l := by
  induction l with
  | nil => exact Or.inl (List.mem_singleton.1 h)
  | cons q l ih =>
    simp only [put] at h
    split at h
    · next hq =>
      rcases List.mem_cons.1 h with rfl | h
      · exact Or.inl (Prod.ext hq rfl)
      · exact Or.inr (List.mem_cons_of_mem _ h)
    · rcases List.mem_cons.1 h with rfl | h
      · exact Or.inr List.mem_cons_self
      · exact (ih h).imp id (List.mem_cons_of_mem _)

theorem put_of_not_mem {k : α} (v : β) {l : List (α × β)} (h : k ∉ keys l) :
    put k v l = l ++ [(k, v)] := by
  induction l with
  | nil => rfl
  | cons p l ih =>
    have hp : p.1 ≠ k := fun e => h (List.mem_cons.2 (Or.inl e.symm))
    have hl : k ∉ keys l := fun hm => h (List.mem_cons_of_mem _ hm)
    simp only [put, if_neg hp, ih hl, List.cons_append]

theorem putAll_of_nodup {l new : List (α × β)} (h : (keys (l ++ new)).Nodup) :
    putAll l new = l ++ new := by
  induction new generalizing l with
  | nil => simp [putAll]
  | cons p new ih =>
    have hp : p.1 ∉ keys l := by
      intro hm
      rw [keys, List.map_append] at h
      exact (List.nodup_append.1 h).2.2 _ hm _ List.mem_cons_self rfl
    have e : l ++ p :: new = (l ++ [(p.1, p.2)]) ++ new := by simp
    have := ih (l := l ++ [(p.1, p.2)]) (e ▸ h)
    rw [e, ← this]
    simp only [putAll, List.foldl_cons, put_of_not_mem p.2 hp]

/-- A list without a repeated key stays as it is. -/
theorem ofList_of_nodup {l : List (α × β)} (h : (keys l).Nodup) : ofList l = l := by
  have h' : (keys ([] ++ l)).Nodup := by rwa [List.nil_append]
  have := putAll_of_nodup h'
  rwa [List.nil_append] at this

theorem erase_of_not_mem {k : α} {l : List (α × β)} (h : k ∉ keys l) : erase k l = l := by
  refine List.filter_eq_self.2 fun p hp => decide_eq_true ?_
  rintro rfl
  exact h (mem_keys_of_mem hp)

theorem erase_put (k : α) (v : β) (l : List (α × β)) : erase k (put k v l) = erase k l := by
  induction l with
  | nil => simp [put, erase]
  | cons p l ih =>
    unfold erase at ih ⊢
    by_cases hp : p.1 = k
    · simp [put, hp]
    · simpa [put, hp] using ih

/-- A second put of a key wins. -/
theorem put_put (k : α) (v w : β) (l : List (α × β)) : put k w (put k v l) = put k w l := by
  induction l with
  | nil => simp [put]
  | cons p l ih => by_cases hp : p.1 = k <;> simp [put, hp, ih]

/-- Putting what is there already changes nothing. -/
theorem put_of_find?_eq_some {k : α} {v : β} {l : List (α × β)} (h : find? k l = some v) :
    put k v l = l := by
  induction l with
  | nil => cases h
  | cons p l ih =>
    obtain ⟨k', v'⟩ := p
    rw [find?_cons] at h
    by_cases hk : k' = k
    · rw [if_pos hk, Option.some.injEq] at h
      rw [put, if_pos hk, h]
    · rw [if_neg hk] at h
      rw [put, if_neg hk, ih h]

theorem putAll_append (l new more : List (α × β)) :
    putAll l (new ++ more) = putAll (putAll l new) more := List.foldl_append

/-- Of several pairs with one key the last counts. -/
theorem find?_putAll (k : α) (l new : List (α × β)) :
    find? k (putAll l new) = (find? k new.reverse).or (find? k l) := by
  induction new generalizing l with
  | nil => rfl
  | cons p new ih =>
    show find? k (putAll (put p.1 p.2 l) new) = _
    rw [ih, List.reverse_cons, find?_append, Option.or_assoc, find?_put, find?_cons, find?_nil]
    by_cases hk : k = p.1
    · rw [if_pos hk, if_pos hk.symm, Option.some_or]
    · rw [if_neg hk, if_neg (Ne.symm hk), Option.none_or]

theorem eraseDups_of_nodup {l : List α} (h : l.Nodup) : l.eraseDups = l := by
  induction l with
  | nil => rfl
  | cons a l ih =>
    obtain ⟨ha, hl⟩ := List.nodup_cons.1 h
    have hf : (l.filter fun b => !b == a) = l := by
      refine List.filter_eq_self.2 fun b hb => ?_
      have hne : b ≠ a := by
        rintro rfl
        exact ha hb
      simpa using hne
    rw [List.eraseDups_cons, hf, ih hl]

/-- Erasing repetitions leaves none. -/
theorem nodup_eraseDups (l : List α) : l.eraseDups.Nodup := by
  cases l with
  | nil => exact List.nodup_nil
  | cons a l =>
    rw [List.eraseDups_cons, List.nodup_cons]
    refine ⟨fun h => ?_, nodup_eraseDups (l.filter fun b => !b == a)⟩
    have := (List.mem_filter.1 (List.mem_eraseDups.1 h)).2
    simp at this
termination_by l.length
decreasing_by exact Nat.lt_succ_of_le (List.length_filter_le _ _)

/-- After pairs are put, the keys are those before and those of the pairs, in the order in which
they first come. -/
theorem keys_putAll {l : List (α × β)} (h : (keys l).Nodup) (new : List (α × β)) :
    keys (putAll l new) = (keys l ++ keys new).eraseDups := by
  induction new generalizing l with
  | nil =>
    show keys l = (keys l ++ []).eraseDups
    rw [List.append_nil, eraseDups_of_nodup h]
  | cons p new ih =>
    show keys (putAll (put p.1 p.2 l) new) = (keys l ++ p.1 :: keys new).eraseDups
    rw [ih (nodup_keys_put p.1 p.2 h)]
    by_cases hk : p.1 ∈ keys l
    · have hr : (p.1 :: keys new).removeAll (keys l) = (keys new).removeAll (keys l) := by
        simp [List.removeAll, hk]
      rw [keys_put_of_mem p.2 hk, List.eraseDups_append, List.eraseDups_append, hr]
    · rw [keys_put_of_not_mem p.2 hk, List.append_assoc, List.singleton_append]

theorem nodup_keys_ofList (l : List (α × β)) : (keys (ofList l)).Nodup := by
  have h : (keys ([] : List (α × β))).Nodup := List.nodup_nil
  rw [ofList, keys_putAll h]
  exact nodup_eraseDups _

end Polystore.Assoc
