import Mathlib.Data.List.Forall2
import Mathlib.Data.List.Nodup
import Mathlib.Data.List.Perm.Subperm
import Polystore.Json.Basic

/-!
# Sameness of values

`Json.same` compares objects up to the order of their keys.  It is transitive.  On values in which
no object holds a key twice, as in every map, it is an equivalence:

    v.isWellKeyed → v.same v                    (same_refl)
    v.isWellKeyed → v.same w → w.same v         (same_symm)
    u.same v → v.same w → u.same w              (same_trans)

Lists of values, which are the keys of rows, inherit all three.  The order of scalars does not tell
same values apart (`compare?_congr`).
-/

namespace Polystore.Json

/-! ## Induction on a value -/

/-- What holds of a value if it holds of its items or of the values of its fields holds of every
value. -/
theorem inductionOn {motive : Json → Prop} (v : Json) (null : motive .null)
    (bool : ∀ b, motive (.bool b)) (num : ∀ n, motive (.num n)) (str : ∀ s, motive (.str s))
    (arr : ∀ items, (∀ x ∈ items, motive x) → motive (.arr items))
    (obj : ∀ fields, (∀ p ∈ fields, motive p.2) → motive (.obj fields)) : motive v := by
  match v with
  | .null => exact null
  | .bool b => exact bool b
  | .num n => exact num n
  | .str s => exact str s
  | .arr items =>
    refine arr items fun x hx => ?_
    have : sizeOf x < sizeOf items := List.sizeOf_lt_of_mem hx
    exact inductionOn x null bool num str arr obj
  | .obj fields =>
    refine obj fields fun p hp => ?_
    have h₁ : sizeOf p < sizeOf fields := List.sizeOf_lt_of_mem hp
    have h₂ : sizeOf p = 1 + sizeOf p.1 + sizeOf p.2 := rfl
    exact inductionOn p.2 null bool num str arr obj
termination_by sizeOf v
decreasing_by
  · simp only [Json.arr.sizeOf_spec]; omega
  · simp only [Json.obj.sizeOf_spec]; omega

/-! ## Values without repeated keys -/

mutual

/-- Does no object inside the value hold a key twice? -/
def isWellKeyed : Json → Bool
  | .arr items => areWellKeyed items
  | .obj fields => decide (Assoc.keys fields).Nodup && fieldsAreWellKeyed fields
  | _ => true

def areWellKeyed : List Json → Bool
  | [] => true
  | x :: xs => isWellKeyed x && areWellKeyed xs

def fieldsAreWellKeyed : List (String × Json) → Bool
  | [] => true
  | (_, v) :: fs => isWellKeyed v && fieldsAreWellKeyed fs

end

attribute [local simp] isWellKeyed areWellKeyed fieldsAreWellKeyed

theorem areWellKeyed_iff (items : List Json) :
    areWellKeyed items = true ↔ ∀ x ∈ items, x.isWellKeyed = true := by
  induction items with
  | nil => simp
  | cons x xs ih => simp [ih]

theorem fieldsAreWellKeyed_iff (fields : List (String × Json)) :
    fieldsAreWellKeyed fields = true ↔ ∀ p ∈ fields, p.2.isWellKeyed = true := by
  induction fields with
  | nil => simp
  | cons p fs ih =>
    obtain ⟨k, v⟩ := p
    simp [ih]

theorem isWellKeyed_obj_iff (fields : List (String × Json)) :
    (Json.obj fields).isWellKeyed = true ↔
      (Assoc.keys fields).Nodup ∧ ∀ p ∈ fields, p.2.isWellKeyed = true := by
  simp [fieldsAreWellKeyed_iff]

theorem isWellKeyed_of_isScalar {v : Json} (h : v.isScalar = true) : v.isWellKeyed = true := by
  cases v <;> first | rfl | simp [isScalar] at h

/-! ## Sameness, item by item and field by field -/

attribute [local simp] same sameItems sameFields

theorem sameFields_iff (fs gs : List (String × Json)) :
    sameFields fs gs = true ↔
      ∀ p ∈ fs, ∃ w, Assoc.find? p.1 gs = some w ∧ p.2.same w = true := by
  induction fs with
  | nil => simp
  | cons p fs ih =>
    obtain ⟨k, v⟩ := p
    simp only [sameFields, Bool.and_eq_true, ih, List.forall_mem_cons]
    refine and_congr_left fun _ => ?_
    cases Assoc.find? k gs <;> simp

theorem same_obj_iff (fs gs : List (String × Json)) :
    (Json.obj fs).same (.obj gs) = true ↔
      fs.length = gs.length ∧
        ∀ p ∈ fs, ∃ w, Assoc.find? p.1 gs = some w ∧ p.2.same w = true := by
  simp [sameFields_iff]

theorem same_arr_iff (xs ys : List Json) :
    (Json.arr xs).same (.arr ys) = true ↔ sameItems xs ys = true := by
  simp

theorem sameItems_iff (xs ys : List Json) :
    sameItems xs ys = true ↔ List.Forall₂ (fun x y => x.same y = true) xs ys := by
  induction xs generalizing ys with
  | nil => cases ys <;> simp
  | cons x xs ih => cases ys <;> simp [ih]

/-- What is the same as an object is an object. -/
theorem exists_of_same_obj {fs : List (String × Json)} {w : Json}
    (h : (Json.obj fs).same w = true) : ∃ gs, w = .obj gs := by
  cases w with
  | obj gs => exact ⟨gs, rfl⟩
  | _ => simp at h

/-- What is the same as a list is a list. -/
theorem exists_of_same_arr {xs : List Json} {w : Json} (h : (Json.arr xs).same w = true) :
    ∃ ys, w = .arr ys := by
  cases w with
  | arr ys => exact ⟨ys, rfl⟩
  | _ => simp at h

end Polystore.Json

namespace Polystore.Number

attribute [local simp] same order

theorem same_refl (m : Number) : m.same m = true := by cases m <;> simp

theorem same_symm {m n : Number} (h : m.same n = true) : n.same m = true := by
  cases m <;> cases n <;> simp_all

theorem same_trans {l m n : Number} (h₁ : l.same m = true) (h₂ : m.same n = true) :
    l.same n = true := by
  cases l <;> cases m <;> cases n <;> simp_all

/-- Same numbers lie next to the same double. -/
theorem order_eq_of_same {m n : Number} (h : m.same n = true) : m.order = n.order := by
  cases m <;> cases n <;> simp_all

end Polystore.Number

namespace Polystore.Json

/-! ## Equivalence -/

theorem same_trans {u v w : Json} (h₁ : u.same v = true) (h₂ : v.same w = true) :
    u.same w = true := by
  induction u using inductionOn generalizing v w with
  | null => cases v <;> cases w <;> simp_all [same]
  | bool b => cases v <;> cases w <;> simp_all [same]
  | num n =>
    cases v with
    | num m =>
      cases w with
      | num l => exact Number.same_trans h₁ h₂
      | _ => simp [same] at h₂
    | _ => simp [same] at h₁
  | str s => cases v <;> cases w <;> simp_all [same]
  | arr xs ih =>
    obtain ⟨ys, rfl⟩ := exists_of_same_arr h₁
    obtain ⟨zs, rfl⟩ := exists_of_same_arr h₂
    rw [same_arr_iff, sameItems_iff] at h₁ h₂ ⊢
    induction h₁ generalizing zs with
    | nil => exact h₂
    | cons hxy _ ihs =>
      cases h₂ with
      | cons hyz hrest =>
        exact .cons (ih _ List.mem_cons_self hxy hyz)
          (ihs (fun x hx => ih x (List.mem_cons_of_mem _ hx)) _ hrest)
  | obj fs ih =>
    obtain ⟨gs, rfl⟩ := exists_of_same_obj h₁
    obtain ⟨hs, rfl⟩ := exists_of_same_obj h₂
    rw [same_obj_iff] at h₁ h₂ ⊢
    refine ⟨h₁.1.trans h₂.1, fun p hp => ?_⟩
    obtain ⟨v, hv, hpv⟩ := h₁.2 p hp
    obtain ⟨w, hw, hvw⟩ := h₂.2 (p.1, v) (Assoc.mem_of_find?_eq_some hv)
    exact ⟨w, hw, ih p hp hpv hvw⟩

theorem same_refl {v : Json} (h : v.isWellKeyed = true) : v.same v = true := by
  induction v using inductionOn with
  | null => rfl
  | bool b => simp [same]
  | num n => exact Number.same_refl n
  | str s => simp [same]
  | arr xs ih =>
    rw [isWellKeyed, areWellKeyed_iff] at h
    rw [same_arr_iff, sameItems_iff]
    exact List.forall₂_same.2 fun x hx => ih x hx (h x hx)
  | obj fs ih =>
    obtain ⟨hn, hv⟩ := (isWellKeyed_obj_iff fs).1 h
    exact (same_obj_iff fs fs).2
      ⟨rfl, fun p hp => ⟨p.2, Assoc.find?_eq_some_of_mem hn hp, ih p hp (hv p hp)⟩⟩

/-- Two lists of keys of one length, the first without repetition and inside the second, hold the
same keys. -/
theorem keys_perm_of_same_obj {fs gs : List (String × Json)} (hn : (Assoc.keys fs).Nodup)
    (h : (Json.obj fs).same (.obj gs) = true) : (Assoc.keys fs).Perm (Assoc.keys gs) := by
  obtain ⟨hl, hf⟩ := (same_obj_iff fs gs).1 h
  have hs : Assoc.keys fs ⊆ Assoc.keys gs := by
    intro k hk
    obtain ⟨p, hp, rfl⟩ := List.mem_map.1 hk
    obtain ⟨w, hw, -⟩ := hf p hp
    exact Assoc.mem_keys_of_find?_eq_some hw
  exact (hn.subperm hs).perm_of_length_le (by simp [Assoc.keys, hl])

theorem same_symm {v w : Json} (h : v.isWellKeyed = true) (hs : v.same w = true) :
    w.same v = true := by
  induction v using inductionOn generalizing w with
  | null => cases w <;> simp_all [same]
  | bool b => cases w <;> simp_all [same]
  | num n =>
    cases w with
    | num m => exact Number.same_symm hs
    | _ => simp [same] at hs
  | str s => cases w <;> simp_all [same]
  | arr xs ih =>
    obtain ⟨ys, rfl⟩ := exists_of_same_arr hs
    rw [isWellKeyed, areWellKeyed_iff] at h
    rw [same_arr_iff, sameItems_iff] at hs ⊢
    induction hs with
    | nil => exact .nil
    | cons hxy _ ihs =>
      exact .cons (ih _ List.mem_cons_self (h _ List.mem_cons_self) hxy)
        (ihs (fun x hx => ih x (List.mem_cons_of_mem _ hx))
          fun x hx => h x (List.mem_cons_of_mem _ hx))
  | obj fs ih =>
    obtain ⟨gs, rfl⟩ := exists_of_same_obj hs
    obtain ⟨hn, hv⟩ := (isWellKeyed_obj_iff fs).1 h
    have hp := keys_perm_of_same_obj hn hs
    rw [same_obj_iff] at hs ⊢
    refine ⟨hs.1.symm, fun q hq => ?_⟩
    obtain ⟨v, hv'⟩ := Assoc.exists_find?_of_mem_keys (hp.mem_iff.2 (Assoc.mem_keys_of_mem hq))
    have hm := Assoc.mem_of_find?_eq_some hv'
    obtain ⟨w, hw, hs'⟩ := hs.2 _ hm
    -- the second object holds each key once too, so `w` is what stands in `q`
    have hq' := Assoc.find?_eq_some_of_mem (hp.nodup_iff.1 hn) hq
    obtain rfl : w = q.2 := Option.some.inj (hw.symm.trans hq')
    exact ⟨v, hv', ih _ hm (hv _ hm) hs'⟩

/-! ## Lists of values -/

theorem sameItems_trans {xs ys zs : List Json} (h₁ : sameItems xs ys = true)
    (h₂ : sameItems ys zs = true) : sameItems xs zs = true :=
  same_trans (u := .arr xs) (v := .arr ys) (w := .arr zs) h₁ h₂

theorem sameItems_refl {xs : List Json} (h : areWellKeyed xs = true) : sameItems xs xs = true :=
  same_refl (v := .arr xs) h

theorem sameItems_symm {xs ys : List Json} (h : areWellKeyed xs = true)
    (hs : sameItems xs ys = true) : sameItems ys xs = true :=
  same_symm (v := .arr xs) (w := .arr ys) h hs

/-! ## Tests that do not tell same values apart -/

theorem same_congr_left {v v' : Json} (hv : v.isWellKeyed = true) (h : v.same v' = true)
    (w : Json) : v.same w = v'.same w :=
  Bool.eq_iff_iff.2 ⟨same_trans (same_symm hv h), same_trans h⟩

theorem same_congr_right {v v' : Json} (hv : v.isWellKeyed = true) (h : v.same v' = true)
    (w : Json) : w.same v = w.same v' :=
  Bool.eq_iff_iff.2 ⟨fun hw => same_trans hw h, fun hw => same_trans hw (same_symm hv h)⟩

theorem sameItems_congr_left {xs ys : List Json} (hx : areWellKeyed xs = true)
    (h : sameItems xs ys = true) (zs : List Json) : sameItems xs zs = sameItems ys zs :=
  Bool.eq_iff_iff.2 ⟨sameItems_trans (sameItems_symm hx h), sameItems_trans h⟩

theorem sameItems_congr_right {xs ys : List Json} (hx : areWellKeyed xs = true)
    (h : sameItems xs ys = true) (zs : List Json) : sameItems zs xs = sameItems zs ys :=
  Bool.eq_iff_iff.2
    ⟨fun hz => sameItems_trans hz h, fun hz => sameItems_trans hz (sameItems_symm hx h)⟩

theorem isAmong_congr {v v' : Json} (hv : v.isWellKeyed = true) (h : v.same v' = true)
    (items : List Json) : v.isAmong items = v'.isAmong items := by
  unfold isAmong
  congr 1
  funext x
  exact same_congr_right hv h x

theorem compare?_congr {v v' : Json} (h : v.same v' = true) (w : Json) :
    v.compare? w = v'.compare? w := by
  cases v <;> cases v' <;> simp only [same, Bool.false_eq_true, beq_iff_eq] at h <;>
    cases w <;> simp_all [compare?]
  exact congrArg (compare · _) (Number.order_eq_of_same h)

/-- Every value of a list is the same as some value of the other list. -/
theorem any_congr_of_forall₂ {xs ys : List Json} {p : Json → Bool}
    (h : List.Forall₂ (fun x y => p x = p y) xs ys) : xs.any p = ys.any p := by
  induction h with
  | nil => rfl
  | cons h _ ih => simp only [List.any_cons, h, ih]

end Polystore.Json
