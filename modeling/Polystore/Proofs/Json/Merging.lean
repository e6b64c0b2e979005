import Polystore.Json.Basic
import Polystore.Proofs.Json.Sameness

/-!
# What a merge leaves

A patch is merged into an object key by key: the keys of the object stay where they are and those
that are new follow, and each key of the patch stands for what its value makes of the one before it.

    keys (mergeFields t p) = keys t ++ (keys p).filter (· ∉ keys t)             (keys_mergeFields)
    find? k p = some v →
      find? k (mergeFields t p) = some (mergeValue (find? k t) v)               (find?_mergeFields)

A patch that an object holds already changes nothing in it (`mergeFields_of_holds`).  So it is with
an object and itself, and with a patch that was merged before, whether it met an object under a key
or replaced what was there by one.
-/

namespace Polystore.Json

open Assoc

variable {target patch fields : Record} {key : String} {v : Json}

/-! ## Keys and values -/

/-- Where both values are objects they are merged. -/
theorem mergeValue_obj (fields patch : Record) :
    mergeValue (some (.obj fields)) (.obj patch) = .obj (mergeFields fields patch) := by
  rw [mergeValue]

/-- Everywhere else the value of the patch wins. -/
theorem mergeValue_of_notObjects {old : Option Json}
    (h : ∀ fields patch, old = some (.obj fields) → v ≠ .obj patch) : mergeValue old v = v := by
  cases v with
  | obj patch =>
    rw [mergeValue]
    exact fun fields ho => h fields patch ho rfl
  | null | bool | num | str | arr => simp only [mergeValue]

theorem mergeFields_cons (target : Record) (key : String) (v : Json) (patch : Record) :
    mergeFields target ((key, v) :: patch) =
      mergeFields (put key (mergeValue (find? key target) v) target) patch := by
  rw [mergeFields]

/-- The keys stay in their order, and the new ones follow in theirs. -/
theorem keys_mergeFields (target : Record) (hp : (keys patch).Nodup) :
    keys (mergeFields target patch) =
      keys target ++ (keys patch).filter fun key => key ∉ keys target := by
  induction patch generalizing target with
  | nil => simp [mergeFields, keys]
  | cons p patch ih =>
    obtain ⟨key, v⟩ := p
    obtain ⟨hkey, hrest⟩ := List.nodup_cons.1 hp
    have hkeys : keys ((key, v) :: patch) = key :: keys patch := rfl
    rw [mergeFields_cons, ih _ hrest, hkeys]
    by_cases hm : key ∈ keys target
    · rw [keys_put_of_mem _ hm, List.filter_cons_of_neg (by simpa using hm)]
    · have hsame : (keys patch).filter (fun k => k ∉ keys target ++ [key]) =
          (keys patch).filter fun k => k ∉ keys target := by
        refine List.filter_congr fun k hk => ?_
        have hne : k ≠ key := by
          rintro rfl
          exact hkey hk
        simp [hne]
      rw [keys_put_of_not_mem _ hm, hsame, List.filter_cons_of_pos (by simpa using hm),
        List.append_assoc, List.singleton_append]

/-- What the patch does not name stays. -/
theorem find?_mergeFields_of_notMem (target : Record) (h : key ∉ keys patch) :
    find? key (mergeFields target patch) = find? key target := by
  induction patch generalizing target with
  | nil => rw [mergeFields]
  | cons p patch ih =>
    have hne : key ≠ p.1 := fun he => h (he ▸ List.mem_cons_self)
    rw [mergeFields_cons, ih _ fun hm => h (List.mem_cons_of_mem _ hm), find?_put_of_ne hne]

/-- What the patch names stands for what its value makes of the one before it. -/
theorem find?_mergeFields (target : Record) (hp : (keys patch).Nodup)
    (h : find? key patch = some v) :
    find? key (mergeFields target patch) = some (mergeValue (find? key target) v) := by
  induction patch generalizing target with
  | nil => cases h
  | cons p patch ih =>
    obtain ⟨key', v'⟩ := p
    obtain ⟨hkey, hrest⟩ := List.nodup_cons.1 hp
    rw [find?_cons] at h
    rw [mergeFields_cons]
    split at h
    · next he =>
      subst he
      cases h
      rw [find?_mergeFields_of_notMem _ hkey, find?_put_self]
    · next he => rw [ih _ hrest h, find?_put_of_ne (Ne.symm he)]

/-! ## Merging again -/

/-- A patch changes nothing if the object holds all of it already. -/
theorem mergeFields_of_holds
    (h : ∀ p ∈ patch, ∃ w, find? p.1 target = some w ∧ mergeValue (some w) p.2 = w) :
    mergeFields target patch = target := by
  induction patch with
  | nil => rw [mergeFields]
  | cons p patch ih =>
    obtain ⟨⟨w, hw, hv⟩, hrest⟩ := List.forall_mem_cons.1 h
    rw [mergeFields_cons, hw, hv, put_of_find?_eq_some hw, ih hrest]

/-- A value changes nothing in itself. -/
theorem mergeValue_self (hv : v.isWellKeyed = true) : mergeValue (some v) v = v := by
  induction v using inductionOn with
  | null | bool | num | str | arr => simp only [mergeValue]
  | obj fields ih =>
    obtain ⟨hn, hfields⟩ := (isWellKeyed_obj_iff fields).1 hv
    rw [mergeValue_obj, mergeFields_of_holds fun p hp =>
      ⟨p.2, find?_eq_some_of_mem hn hp, ih p hp (hfields p hp)⟩]

theorem mergeFields_self (h : (Json.obj fields).isWellKeyed = true) :
    mergeFields fields fields = fields := by
  have hself := mergeValue_self h
  rw [mergeValue_obj] at hself
  exact Json.obj.inj hself

/-- A value that was merged changes nothing.  It may have been put in place of a value that is no
object, and then it is merged into itself. -/
theorem mergeValue_mergeValue (hv : v.isWellKeyed = true) (old : Option Json) :
    mergeValue (some (mergeValue old v)) v = mergeValue old v := by
  induction v using inductionOn generalizing old with
  | null | bool | num | str | arr => simp only [mergeValue]
  | obj patch ih =>
    obtain ⟨hn, hpatch⟩ := (isWellKeyed_obj_iff patch).1 hv
    by_cases hold : ∃ fields, old = some (.obj fields)
    · obtain ⟨fields, rfl⟩ := hold
      rw [mergeValue_obj, mergeValue_obj]
      refine congrArg Json.obj (mergeFields_of_holds fun p hp => ?_)
      exact ⟨_, find?_mergeFields fields hn (find?_eq_some_of_mem hn hp),
        ih p hp (hpatch p hp) _⟩
    · have hwins : mergeValue old (.obj patch) = .obj patch :=
        mergeValue_of_notObjects fun fields _ ho => absurd ⟨fields, ho⟩ hold
      rw [hwins, mergeValue_self hv]

/-- Merging a patch twice is merging it once. -/
theorem mergeFields_mergeFields (target : Record) (h : (Json.obj patch).isWellKeyed = true) :
    mergeFields (mergeFields target patch) patch = mergeFields target patch := by
  have htwice := mergeValue_mergeValue h (some (.obj target))
  rw [mergeValue_obj, mergeValue_obj] at htwice
  exact Json.obj.inj htwice

end Polystore.Json
