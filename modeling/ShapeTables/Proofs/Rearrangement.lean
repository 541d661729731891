import Mathlib.Data.List.Perm.Basic

/-! Lists that are related up to their order: item by item, once the second list is rearranged. What is done to each
item on its own, such as replacing it by a list of others, keeps two lists related. In lists of named things, in which
each name stands once, a name is then looked up with related results. -/
namespace ShapeTables

/-- Lists whose items are related one by one once the second list is rearranged. -/
inductive Rearranged {α β : Type} (R : α → β → Prop) : List α → List β → Prop
  | intro {arranged : List β} {xs : List α} {ys : List β} (h : List.Forall₂ R xs arranged)
    (hperm : arranged.Perm ys) : Rearranged R xs ys

/-- Things of one name that are related. -/
inductive SameKey {κ α β : Type} (R : α → β → Prop) : κ × α → κ × β → Prop
  | intro (key : κ) {x : α} {y : β} (h : R x y) : SameKey R (key, x) (key, y)

variable {κ α β γ δ : Type} {R : α → β → Prop} {S : γ → δ → Prop} {xs xs' : List α} {ys ys' : List β}

namespace Rearranged

theorem of_forall₂ (h : List.Forall₂ R xs ys) : Rearranged R xs ys := ⟨h, .refl ys⟩

theorem nil : Rearranged R ([] : List α) ([] : List β) := of_forall₂ .nil

theorem singleton {x : α} {y : β} (h : R x y) : Rearranged R [x] [y] := of_forall₂ (.cons h .nil)

theorem append (h : Rearranged R xs ys) (h' : Rearranged R xs' ys') : Rearranged R (xs ++ xs') (ys ++ ys') := by
  obtain ⟨hall, hperm⟩ := h
  obtain ⟨hall', hperm'⟩ := h'
  exact ⟨List.rel_append hall hall', hperm.append hperm'⟩

theorem exists_right (h : Rearranged R xs ys) {x : α} (hx : x ∈ xs) : ∃ y ∈ ys, R x y := by
  obtain ⟨hall, hperm⟩ := h
  suffices hmem : ∃ y ∈ _, R x y from hmem.imp fun y hy => ⟨hperm.subset hy.1, hy.2⟩
  clear hperm
  induction hall with
  | nil => cases hx
  | cons hxy _ ih =>
    rcases List.mem_cons.mp hx with rfl | hx
    · exact ⟨_, List.mem_cons_self, hxy⟩
    · obtain ⟨y, hy, hxy⟩ := ih hx
      exact ⟨y, List.mem_cons_of_mem _ hy, hxy⟩

theorem symm (h : Rearranged R xs ys) : Rearranged (flip R) ys xs := by
  obtain ⟨hall, hperm⟩ := h
  obtain ⟨arranged, hall', hperm'⟩ := List.perm_comp_forall₂ hperm.symm hall.flip
  exact ⟨hall', hperm'⟩

theorem exists_left (h : Rearranged R xs ys) {y : β} (hy : y ∈ ys) : ∃ x ∈ xs, R x y := h.symm.exists_right hy

/-- Both lists may be rearranged. -/
theorem of_perm (hxs : xs'.Perm xs) (h : Rearranged R xs ys) (hys : ys.Perm ys') : Rearranged R xs' ys' := by
  obtain ⟨hall, hperm⟩ := h
  obtain ⟨arranged, hall', hperm'⟩ := List.perm_comp_forall₂ hxs hall
  exact ⟨hall', hperm'.trans (hperm.trans hys)⟩

/-- Related items give way to related lists. -/
theorem flatMap {f : α → List γ} {g : β → List δ} (h : Rearranged R xs ys)
    (hfg : ∀ x ∈ xs, ∀ y, R x y → Rearranged S (f x) (g y)) : Rearranged S (xs.flatMap f) (ys.flatMap g) := by
  obtain ⟨hall, hperm⟩ := h
  suffices hflat : Rearranged S (xs.flatMap f) (List.flatMap g _) by
    obtain ⟨hall', hperm'⟩ := hflat
    exact ⟨hall', hperm'.trans (hperm.flatMap_right g)⟩
  clear hperm
  induction hall with
  | nil => exact nil
  | cons hxy _ ih =>
    obtain ⟨hhead, htail⟩ := List.forall_mem_cons.mp hfg
    exact (hhead _ hxy).append (ih htail)

theorem imp {S : α → β → Prop} (h : Rearranged R xs ys) (himp : ∀ x ∈ xs, ∀ y, R x y → S x y) :
    Rearranged S xs ys := by
  have hflat := h.flatMap fun x hx y hxy => singleton (himp x hx y hxy)
  simpa using hflat

theorem map {f : α → γ} {g : β → δ} (h : Rearranged R xs ys) (hfg : ∀ x ∈ xs, ∀ y, R x y → S (f x) (g y)) :
    Rearranged S (xs.map f) (ys.map g) := by
  simp only [List.map_eq_flatMap]
  exact h.flatMap fun x hx y hxy => singleton (hfg x hx y hxy)

theorem filterMap {f : α → Option γ} {g : β → Option δ} (h : Rearranged R xs ys)
    (hfg : ∀ x ∈ xs, ∀ y, R x y → Option.Rel S (f x) (g y)) : Rearranged S (xs.filterMap f) (ys.filterMap g) := by
  simp only [List.filterMap_eq_flatMap_toList]
  refine h.flatMap fun x hx y hxy => ?_
  have hrel := hfg x hx y hxy
  generalize f x = a at hrel
  generalize g y = b at hrel
  cases hrel with
  | none => exact nil
  | some h => exact singleton h

theorem filter {p : α → Bool} {q : β → Bool} (h : Rearranged R xs ys) (hpq : ∀ x ∈ xs, ∀ y, R x y → p x = q y) :
    Rearranged R (xs.filter p) (ys.filter q) := by
  simp only [← List.filterMap_eq_filter]
  refine h.filterMap fun x hx y hxy => ?_
  cases hp : p x with
  | true => simpa [Option.guard, hp, ← hpq x hx y hxy] using Option.Rel.some hxy
  | false => simp [Option.guard, hp, ← hpq x hx y hxy]

/-- Lists that are equal up to their order. -/
theorem perm {ys : List α} (h : Rearranged (· = ·) xs ys) : xs.Perm ys := by
  obtain ⟨hall, hperm⟩ := h
  rw [List.forall₂_eq_eq_eq] at hall
  exact hall ▸ hperm

/-- What related items have in common is the same up to its order. -/
theorem map_perm {f : α → γ} {g : β → γ} (h : Rearranged R xs ys) (hfg : ∀ x ∈ xs, ∀ y, R x y → f x = g y) :
    (xs.map f).Perm (ys.map g) :=
  (h.map hfg).perm

theorem filterMap_perm {f : α → Option γ} {g : β → Option γ} (h : Rearranged R xs ys)
    (hfg : ∀ x ∈ xs, ∀ y, R x y → f x = g y) : (xs.filterMap f).Perm (ys.filterMap g) := by
  refine (h.filterMap fun x hx y hxy => ?_).perm
  rw [hfg x hx y hxy]
  cases g y with
  | none => exact .none
  | some z => exact .some rfl

/-- Something holds of all items of the one list exactly when the like of it holds of all items of the other. -/
theorem forall_iff {P : α → Prop} {Q : β → Prop} (h : Rearranged R xs ys)
    (hPQ : ∀ x ∈ xs, ∀ y, R x y → (P x ↔ Q y)) : (∀ x ∈ xs, P x) ↔ ∀ y ∈ ys, Q y := by
  constructor
  · intro hall y hy
    obtain ⟨x, hx, hxy⟩ := h.exists_left hy
    exact (hPQ x hx y hxy).mp (hall x hx)
  · intro hall x hx
    obtain ⟨y, hy, hxy⟩ := h.exists_right hx
    exact (hPQ x hx y hxy).mpr (hall y hy)

end Rearranged

/-! ### Named things -/

section Named

variable {things : List (κ × α)} {others : List (κ × β)}

theorem Rearranged.keys_perm (h : Rearranged (SameKey R) things others) :
    (things.map Prod.fst).Perm (others.map Prod.fst) :=
  h.map_perm fun _ _ _ hxy => by cases hxy; rfl

theorem Rearranged.symm_sameKey (h : Rearranged (SameKey R) things others) :
    Rearranged (SameKey (flip R)) others things :=
  h.symm.imp fun _ _ _ hxy => by
    cases hxy with
    | intro key hxy => exact .intro key hxy

variable [BEq κ] [LawfulBEq κ]

/-- Among things of different names, the one that is looked up is the only one of its name. -/
theorem lookup_eq_some_iff_of_nodup (h : (things.map Prod.fst).Nodup) {key : κ} {x : α} :
    things.lookup key = some x ↔ (key, x) ∈ things := by
  induction things with
  | nil => simp
  | cons thing rest ih =>
    obtain ⟨k, y⟩ := thing
    obtain ⟨hk, hrest⟩ := List.nodup_cons.mp h
    rw [List.lookup_cons, List.mem_cons]
    cases hkey : key == k with
    | true =>
      obtain rfl := eq_of_beq hkey
      have hother : (key, x) ∉ rest := fun hmem => hk (List.mem_map.mpr ⟨_, hmem, rfl⟩)
      simp [hother, eq_comm]
    | false =>
      have hne : key ≠ k := fun heq => by simp [heq] at hkey
      simpa [hne] using ih hrest

/-- In rearranged lists of things of different names, a name is looked up with related results. -/
theorem Rearranged.lookup (h : Rearranged (SameKey R) things others) (hkeys : (things.map Prod.fst).Nodup) (key : κ) :
    Option.Rel R (things.lookup key) (others.lookup key) := by
  have hkeys' : (others.map Prod.fst).Nodup := h.keys_perm.nodup_iff.mp hkeys
  cases hfound : things.lookup key with
  | some x =>
    obtain ⟨_, hmem, hxy⟩ := h.exists_right ((lookup_eq_some_iff_of_nodup hkeys).mp hfound)
    cases hxy with
    | intro _ hxy =>
      rw [(lookup_eq_some_iff_of_nodup hkeys').mpr hmem]
      exact .some hxy
  | none =>
    cases hfound' : others.lookup key with
    | none => exact .none
    | some y =>
      obtain ⟨_, hmem, hxy⟩ := h.exists_left ((lookup_eq_some_iff_of_nodup hkeys').mp hfound')
      cases hxy with
      | intro _ hxy => cases hfound.symm.trans ((lookup_eq_some_iff_of_nodup hkeys).mpr hmem)

end Named

end ShapeTables
