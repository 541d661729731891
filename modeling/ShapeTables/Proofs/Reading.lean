import Mathlib.Data.List.Basic
import ShapeTables.Shape.Reader

/-! Laws of readings. A reading made of parts succeeds when all parts do, a refusal of it always names a fault
or a look-up that failed, and a look-up has failed in it exactly when one has failed in a part. -/
namespace ShapeTables.Reading

variable {α β : Type}

/-- A reading that says why it is refused, if it is. -/
def Speaks (r : Reading α) : Prop := r ≠ .error (.faults [])

/-- A reading that comes to a look-up of what cannot be looked up. -/
def Trips (r : Reading α) : Prop := r = .error .unhashable

@[simp] theorem speaks_ok (x : α) : Speaks (.ok x) := by simp [Speaks]

@[simp] theorem not_trips_ok (x : α) : ¬Trips (.ok x) := by simp [Trips]

@[simp] theorem speaks_fault (cause : Fault.Cause) : Speaks (fault cause : Reading α) := by simp [Speaks, fault]

@[simp] theorem not_trips_fault (cause : Fault.Cause) : ¬Trips (fault cause : Reading α) := by simp [Trips, fault]

/-- A reading that is refused, if it is, with faults. -/
def Told (r : Reading α) : Prop := Speaks r ∧ ¬Trips r

theorem told_ok (x : α) : Told (.ok x) := ⟨speaks_ok x, not_trips_ok x⟩

theorem told_fault (cause : Fault.Cause) : Told (fault cause : Reading α) :=
  ⟨speaks_fault cause, not_trips_fault cause⟩

/-! ### Combinations -/

theorem both_eq_ok_iff {a : Reading α} {b : Reading β} {p : α × β} :
    both a b = .ok p ↔ a = .ok p.1 ∧ b = .ok p.2 := by
  rcases a with e | x <;> rcases b with f | y <;> simp [both, Prod.ext_iff]

theorem join_eq_void_iff {e f : Refusal} : join e f = .faults [] ↔ e = .faults [] ∧ f = .faults [] := by
  cases e <;> cases f <;> simp [join]

theorem join_eq_unhashable_iff {e f : Refusal} : join e f = .unhashable ↔ e = .unhashable ∨ f = .unhashable := by
  cases e <;> cases f <;> simp [join]

theorem both_speaks {a : Reading α} {b : Reading β} (ha : Speaks a) (hb : Speaks b) : Speaks (both a b) := by
  rcases a with e | x <;> rcases b with f | y <;> simp_all [both, Speaks, join_eq_void_iff]

@[simp] theorem both_trips_iff {a : Reading α} {b : Reading β} : Trips (both a b) ↔ Trips a ∨ Trips b := by
  rcases a with e | x <;> rcases b with f | y <;> simp [both, Trips, join_eq_unhashable_iff]

theorem map_eq_ok_iff {f : α → β} {r : Reading α} {y : β} : r.map f = .ok y ↔ ∃ x, r = .ok x ∧ f x = y := by
  cases r <;> simp [Except.map]

@[simp] theorem map_speaks_iff {f : α → β} {r : Reading α} : Speaks (r.map f) ↔ Speaks r := by
  cases r <;> simp [Speaks, Except.map]

@[simp] theorem map_trips_iff {f : α → β} {r : Reading α} : Trips (r.map f) ↔ Trips r := by
  cases r <;> simp [Trips, Except.map]

@[simp] theorem under_eq_ok_iff {s : Step} {r : Reading α} {x : α} : under s r = .ok x ↔ r = .ok x := by
  rcases r with (found | _) | y <;> simp [under]

@[simp] theorem under_speaks_iff {s : Step} {r : Reading α} : Speaks (under s r) ↔ Speaks r := by
  rcases r with (found | _) | y <;> simp [under, Speaks]

@[simp] theorem under_trips_iff {s : Step} {r : Reading α} : Trips (under s r) ↔ Trips r := by
  rcases r with (found | _) | y <;> simp [under, Trips]

theorem cons_eq_ok_iff {r : Reading α} {rs : Reading (List α)} {xs : List α} :
    cons r rs = .ok xs ↔ ∃ x rest, r = .ok x ∧ rs = .ok rest ∧ xs = x :: rest := by
  rw [cons, map_eq_ok_iff]
  constructor
  · rintro ⟨⟨x, rest⟩, h, rfl⟩
    obtain ⟨hx, hrest⟩ := both_eq_ok_iff.mp h
    exact ⟨x, rest, hx, hrest, rfl⟩
  · rintro ⟨x, rest, hx, hrest, rfl⟩
    exact ⟨(x, rest), both_eq_ok_iff.mpr ⟨hx, hrest⟩, rfl⟩

theorem cons_speaks {r : Reading α} {rs : Reading (List α)} (hr : Speaks r) (hrs : Speaks rs) :
    Speaks (cons r rs) :=
  map_speaks_iff.mpr (both_speaks hr hrs)

@[simp] theorem cons_trips_iff {r : Reading α} {rs : Reading (List α)} :
    Trips (cons r rs) ↔ Trips r ∨ Trips rs := by
  simp [cons]

theorem Told.both {a : Reading α} {b : Reading β} (ha : Told a) (hb : Told b) : Told (both a b) :=
  ⟨both_speaks ha.1 hb.1, by simp [ha.2, hb.2]⟩

theorem Told.map {r : Reading α} (h : Told r) (f : α → β) : Told (r.map f) :=
  ⟨map_speaks_iff.mpr h.1, by simp [h.2]⟩

theorem Told.under {r : Reading α} (h : Told r) (s : Step) : Told (under s r) :=
  ⟨under_speaks_iff.mpr h.1, by simp [h.2]⟩

theorem Told.cons {r : Reading α} {rs : Reading (List α)} (hr : Told r) (hrs : Told rs) : Told (cons r rs) :=
  (hr.both hrs).map _

/-! ### Readers of fields -/

section Fields

variable {read : Value → Reading α} {members : List (Scalar × Value)} {name : String} {absent : α}

theorem nullable_told (h : ∀ v, Told (read v)) (v : Value) : Told (nullable read v) := by
  unfold nullable
  split
  · exact told_ok none
  · exact (h _).map some

private theorem itemsFrom_told (h : ∀ v, Told (read v)) (items : List Value) (start : Nat) :
    Told (itemsFrom read start items) := by
  induction items generalizing start with
  | nil => exact told_ok []
  | cons v rest ih => exact ((h v).under _).cons (ih _)

theorem list_told (h : ∀ v, Told (read v)) (v : Value) : Told (list read v) := by
  unfold list
  split
  · exact itemsFrom_told h _ 0
  · exact told_fault _

theorem required_eq_ok_iff {x : α} :
    required members name read = .ok x ↔ ∃ v, member? members name = some v ∧ read v = .ok x := by
  unfold required
  split <;> simp [*, fault]

theorem required_trips_iff :
    Trips (required members name read) ↔ ∃ v, member? members name = some v ∧ Trips (read v) := by
  unfold required
  split <;> simp [*]

theorem required_speaks (h : ∀ v, Speaks (read v)) : Speaks (required members name read) := by
  unfold required
  split <;> simp [h]

theorem required_told (h : ∀ v, Told (read v)) : Told (required members name read) :=
  ⟨required_speaks fun v => (h v).1, by simp [required_trips_iff, fun v => (h v).2]⟩

theorem optional_told (h : ∀ v, Told (read v)) : Told (optional members name absent read) := by
  unfold optional
  split
  · exact (h _).under _
  · exact told_ok absent

theorem textOf_told (s : Scalar) : Told (textOf s) := by
  unfold textOf
  split
  · exact told_ok _
  · split
    · exact told_ok _
    · exact told_fault _
  · exact told_fault _

theorem text_told (v : Value) : Told (text v) := by
  unfold text
  split
  · exact textOf_told _
  · exact told_fault _

theorem among_told (choices : List (String × α)) (v : Value) : Told (among choices v) := by
  unfold among
  split
  · split
    · exact told_ok _
    · exact told_fault _
  · exact told_fault _

end Fields

end ShapeTables.Reading
