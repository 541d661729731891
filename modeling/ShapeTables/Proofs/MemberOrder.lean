import ShapeTables.Proofs.Names

/-! Reading documents whose members are in another order. A field is looked up by its name, so that the order of the
members of a map is of no account where fields are read. Where the members are things that are named, such as the
properties of a table, the things that are read are in the order of the members; they are the same things all the same.
A reading that is refused is refused in any order, with faults or because a look-up failed; the faults are told in the
order of the members. -/
namespace ShapeTables

/-- Values that are equal up to the order of the members of maps, at every depth. -/
inductive Reordered : Value → Value → Prop
  | scalar (s : Scalar) : Reordered (.scalar s) (.scalar s)
  | list {xs ys : List Value} (h : List.Forall₂ Reordered xs ys) : Reordered (.list xs) (.list ys)
  | map {ms ns : List (Scalar × Value)} (h : Rearranged (SameKey Reordered) ms ns) : Reordered (.map ms) (.map ns)

/-- Members of maps that are equal up to their order and to the order of members below them. -/
structure SameMembers (ms ns : List (Scalar × Value)) : Prop where
  rearranged : Rearranged (SameKey Reordered) ms ns
  nodup : (ms.map Prod.fst).Nodup

/-- A field is in neither of such members, or in both of them. -/
theorem SameMembers.member?_cases {ms ns : List (Scalar × Value)} (h : SameMembers ms ns) (name : String) :
    member? ms name = none ∧ member? ns name = none ∨
      ∃ v w, member? ms name = some v ∧ member? ns name = some w ∧ Reordered v w := by
  have hrel : Option.Rel Reordered (member? ms name) (member? ns name) := h.rearranged.lookup h.nodup _
  generalize member? ms name = found at hrel
  generalize member? ns name = found' at hrel
  cases hrel with
  | none => exact .inl ⟨rfl, rfl⟩
  | some hv => exact .inr ⟨_, _, rfl, rfl, hv⟩

namespace Reading

variable {α β γ δ : Type} {R : α → β → Prop} {S : γ → δ → Prop}

/-- Readings that come to the same: to results that are related, to faults, or to a look-up that failed. -/
inductive Agree (R : α → β → Prop) : Reading α → Reading β → Prop
  | ok {x : α} {y : β} (h : R x y) : Agree R (.ok x) (.ok y)
  | faults (xs ys : List Fault) : Agree R (.error (.faults xs)) (.error (.faults ys))
  | unhashable : Agree R (.error .unhashable) (.error .unhashable)

namespace Agree

variable {a : Reading α} {b : Reading β} {c : Reading γ} {d : Reading δ}

theorem error (e : Refusal) : Agree R (.error e) (.error e) := by
  cases e with
  | faults xs => exact .faults xs xs
  | unhashable => exact .unhashable

theorem fault (cause : Fault.Cause) : Agree R (fault cause) (fault cause) := error _

theorem refl (r : Reading α) : Agree (· = ·) r r := by
  cases r with
  | ok x => exact .ok rfl
  | error e => exact error e

/-- What is known of the results may be used to relate them otherwise. -/
theorem imp {S : α → β → Prop} (h : Agree R a b) (himp : ∀ x y, a = .ok x → b = .ok y → R x y → S x y) :
    Agree S a b := by
  cases h with
  | ok h => exact .ok (himp _ _ rfl rfl h)
  | faults xs ys => exact .faults xs ys
  | unhashable => exact .unhashable

theorem trans {T : β → γ → Prop} {U : α → γ → Prop} (h : Agree R a b) (h' : Agree T b c)
    (hcomp : ∀ x y z, R x y → T y z → U x z) : Agree U a c := by
  cases h with
  | ok h =>
    cases h' with
    | ok h' => exact .ok (hcomp _ _ _ h h')
  | faults =>
    cases h' with
    | faults => exact .faults _ _
  | unhashable =>
    cases h' with
    | unhashable => exact .unhashable

theorem map {f : α → γ} {g : β → δ} (h : Agree R a b) (hfg : ∀ x y, R x y → S (f x) (g y)) :
    Agree S (a.map f) (b.map g) := by
  cases h with
  | ok h => exact .ok (hfg _ _ h)
  | faults xs ys => exact .faults xs ys
  | unhashable => exact .unhashable

theorem under (step : Step) (h : Agree R a b) : Agree R (a.under step) (b.under step) := by
  cases h with
  | ok h => exact .ok h
  | faults xs ys => exact .faults _ _
  | unhashable => exact .unhashable

theorem both (h : Agree R a b) (h' : Agree S c d) :
    Agree (fun p q => R p.1 q.1 ∧ S p.2 q.2) (both a c) (both b d) := by
  cases h with
  | ok h =>
    cases h' with
    | ok h' => exact .ok ⟨h, h'⟩
    | faults => exact .faults _ _
    | unhashable => exact .unhashable
  | faults =>
    cases h' with
    | ok => exact .faults _ _
    | faults => exact .faults _ _
    | unhashable => exact .unhashable
  | unhashable => cases h' <;> exact .unhashable

theorem both_eq {a b : Reading α} {c d : Reading γ} (h : Agree (· = ·) a b) (h' : Agree (· = ·) c d) :
    Agree (· = ·) (Reading.both a c) (Reading.both b d) :=
  (h.both h').imp fun _ _ _ _ heq => Prod.ext heq.1 heq.2

theorem cons {as : Reading (List α)} {bs : Reading (List β)} (h : Agree R a b) (hs : Agree (List.Forall₂ R) as bs) :
    Agree (List.Forall₂ R) (Reading.cons a as) (Reading.cons b bs) :=
  (h.both hs).map fun _ _ hpair => .cons hpair.1 hpair.2

theorem trips_iff (h : Agree R a b) : Trips a ↔ Trips b := by
  cases h <;> simp [Trips]

theorem exists_right (h : Agree R a b) {x : α} (ha : a = .ok x) : ∃ y, b = .ok y ∧ R x y := by
  cases h with
  | ok h =>
    cases ha
    exact ⟨_, rfl, h⟩
  | _ => cases ha

theorem exists_left (h : Agree R a b) {y : β} (hb : b = .ok y) : ∃ x, a = .ok x ∧ R x y := by
  cases h with
  | ok h =>
    cases hb
    exact ⟨_, rfl, h⟩
  | _ => cases hb

end Agree

/-! ### Fields -/

/-- Readings of values that do not depend on the order of members. -/
def Steady (read : Value → Reading α) : Prop := ∀ v w, Reordered v w → Agree (· = ·) (read v) (read w)

variable {read : Value → Reading α} {ms ns : List (Scalar × Value)}

theorem steady_text : Steady text := by
  intro v w h
  cases h with
  | scalar s => exact .refl _
  | list => exact .fault _
  | map => exact .fault _

theorem steady_among (choices : List (String × α)) : Steady (among choices) := by
  intro v w h
  cases h with
  | scalar s => exact .refl _
  | list => exact .fault _
  | map => exact .fault _

theorem Steady.nullable (hread : Steady read) : Steady (nullable read) := by
  have hsome : ∀ v w, Reordered v w → Agree (· = ·) ((read v).map some) ((read w).map some) :=
    fun v w h => (hread v w h).map fun _ _ heq => congrArg some heq
  intro v w h
  cases h with
  | scalar s => exact .refl _
  | list hall => exact hsome _ _ (.list hall)
  | map hms => exact hsome _ _ (.map hms)

theorem Steady.list (hread : Steady read) : Steady (list read) := by
  have hitems : ∀ xs ys, List.Forall₂ Reordered xs ys → ∀ start,
      Agree (List.Forall₂ (· = ·)) (itemsFrom read start xs) (itemsFrom read start ys) := by
    intro xs ys hall
    induction hall with
    | nil => exact fun _ => .ok .nil
    | cons h _ ih => exact fun start => ((hread _ _ h).under _).cons (ih _)
  intro v w h
  cases h with
  | scalar s => exact .refl _
  | list hall => exact (hitems _ _ hall 0).imp fun _ _ _ _ heq => by rwa [List.forall₂_eq_eq_eq] at heq
  | map => exact .fault _

theorem Steady.optional (hread : Steady read) (h : SameMembers ms ns) (name : String) (absent : α) :
    Agree (· = ·) (optional ms name absent read) (optional ns name absent read) := by
  unfold Reading.optional
  rcases h.member?_cases name with ⟨hv, hw⟩ | ⟨v, w, hv, hw, hvw⟩
  · rw [hv, hw]
    exact .refl _
  · rw [hv, hw]
    exact (hread v w hvw).under _

theorem required_agrees {read : Value → Reading α} {read' : Value → Reading β} (h : SameMembers ms ns) (name : String)
    (hread : ∀ v, member? ms name = some v → ∀ w, Reordered v w → Agree R (read v) (read' w)) :
    Agree R (required ms name read) (required ns name read') := by
  unfold required
  rcases h.member?_cases name with ⟨hv, hw⟩ | ⟨v, w, hv, hw, hvw⟩
  · rw [hv, hw]
    exact (Agree.fault _).under _
  · rw [hv, hw]
    exact (hread v hv w hvw).under _

end Reading

namespace Shape

open Reading

/-! ### Shapes that are alike -/

/-- Tables that are equal up to the order of their properties, whose names differ. -/
inductive TableOf.Alike {α : Type} (R : α → α → Prop) : TableOf α → TableOf α → Prop
  | intro {properties others : List (String × α)} {required : Option (List String)} {primaryKey : Option String}
      (h : Rearranged (SameKey R) properties others) (hnames : (properties.map Prod.fst).Nodup) :
      Alike R ⟨properties, required, primaryKey⟩ ⟨others, required, primaryKey⟩

inductive ItemsOf.Alike {α : Type} (R : α → α → Prop) : ItemsOf α → ItemsOf α → Prop
  | ref (pointer : String) : Alike R (.ref pointer) (.ref pointer)
  | value (column : ValueColumn) : Alike R (.value column) (.value column)
  | table {t u : TableOf α} (h : t.Alike R u) : Alike R (.table t) (.table u)

/-- Columns that are equal up to the order of properties, at every depth. -/
inductive Column.Alike : Column → Column → Prop
  | ref (pointer : String) : Alike (.ref pointer) (.ref pointer)
  | value (column : ValueColumn) : Alike (.value column) (.value column)
  | array {items others : Items} (h : items.Alike Column.Alike others) : Alike (.array items) (.array others)
  | table {t u : Table} (h : t.Alike Column.Alike u) : Alike (.table t) (.table u)

/-- Shapes that are equal up to the order of tables and of properties. -/
structure Database.Alike (db db' : Database) : Prop where
  rearranged : Rearranged (SameKey (TableOf.Alike Column.Alike)) db.tables db'.tables
  nodup : (db.tables.map Prod.fst).Nodup

/-! ### Readings of columns and tables -/

section Parts

variable {α : Type} {R : α → α → Prop} {ms ns : List (Scalar × Value)}

theorem steady_readConstant : Steady readConstant := by
  intro v w h
  cases h with
  | scalar s => exact .refl _
  | list => exact .faults _ _
  | map => exact .faults _ _

theorem tagOf_eq (h : SameMembers ms ns) : tagOf ms = tagOf ns := by
  unfold tagOf
  rcases h.member?_cases "$ref" with ⟨href, href'⟩ | ⟨_, _, href, href', -⟩
  · rw [href, href']
    rcases h.member?_cases "type" with ⟨hv, hw⟩ | ⟨v, w, hv, hw, hvw⟩
    · rw [hv, hw]
    · rw [hv, hw]
      cases hvw <;> rfl
  · rw [href, href']

theorem literalType_eq (h : SameMembers ms ns) : literalType ms = literalType ns := by
  unfold literalType
  rcases h.member?_cases "type" with ⟨hv, hw⟩ | ⟨v, w, hv, hw, hvw⟩
  · rw [hv, hw]
  · rw [hv, hw]
    cases hvw <;> rfl

theorem readConstants_agrees (h : SameMembers ms ns) : Agree (· = ·) (readConstants ms) (readConstants ns) :=
  (steady_readConstant.nullable.optional h _ _).both_eq
    ((steady_readConstant.list.nullable.optional h _ _).both_eq (steady_text.nullable.optional h _ _))

theorem readLiteral_agrees (h : SameMembers ms ns) : Agree (· = ·) (readLiteral ms) (readLiteral ns) := by
  unfold readLiteral
  rw [literalType_eq h]
  exact (readConstants_agrees h).map fun _ _ heq => heq ▸ rfl

theorem readString_agrees (h : SameMembers ms ns) : Agree (· = ·) (readString ms) (readString ns) :=
  ((readConstants_agrees h).both_eq ((steady_among formats).nullable.optional h _ _)).map fun _ _ heq => heq ▸ rfl

theorem readRef_agrees (h : SameMembers ms ns) : Agree (· = ·) (readRef ms) (readRef ns) :=
  required_agrees h _ fun v _ w => steady_text v w

theorem readType_agrees (h : SameMembers ms ns) : Agree (· = ·) (readType ms) (readType ns) :=
  required_agrees h _ fun v _ w => steady_among _ v w

theorem readPrimaryKey_agrees (h : SameMembers ms ns) :
    Agree (· = ·) (readPrimaryKey ms) (readPrimaryKey ns) := by
  unfold readPrimaryKey
  rcases h.member?_cases "x-primaryKey" with ⟨hv, hw⟩ | ⟨v, w, hv, hw, hvw⟩
  · rw [hv, hw]
    exact steady_text.nullable.optional h _ _
  · rw [hv, hw]
    exact (steady_text.nullable v w hvw).under _

/-- Named things that are the same up to their order. -/
def SameThings (R : α → α → Prop) (things others : List (String × α)) : Prop :=
  Rearranged (SameKey R) things others ∧ (things.map Prod.fst).Nodup

theorem assemble_agrees {properties others : Option (Reading (List (String × α)))} (h : SameMembers ms ns)
    (hproperties : Option.Rel (Agree (SameThings R)) properties others) :
    Agree (TableOf.Alike R) (assemble ms properties) (assemble ns others) := by
  have hpresent : Agree (SameThings R) (present "properties" properties) (present "properties" others) := by
    cases hproperties with
    | none => exact (Agree.fault _).under _
    | some h => exact h.under _
  have hrequired := steady_text.list.nullable.optional h "required" none
  refine ((readType_agrees h).both (hpresent.both (hrequired.both (readPrimaryKey_agrees h)))).map ?_
  rintro ⟨_, properties, required, primaryKey⟩ ⟨_, others, _, _⟩ ⟨-, ⟨hsame, hnames⟩, rfl, rfl⟩
  exact .intro hsame hnames

/-! ### Named things -/

theorem entry_agrees {r s : Reading α} (key : Scalar) (h : Agree R r s) :
    Agree (SameKey R) (entry key r) (entry key s) := by
  refine (((Agree.refl (textOf key)).under _).both h).under _ |>.imp ?_
  rintro ⟨name, x⟩ ⟨_, y⟩ - - ⟨rfl, hxy⟩
  exact .intro name hxy

/-- Members in another order are read as the same things in this order. -/
theorem readEntries_perm {read : Value → Reading α} (h : ms.Perm ns) :
    Agree List.Perm (readEntries read ms) (readEntries read ns) := by
  induction h with
  | nil => exact .ok .nil
  | @cons m ms ns _ ih =>
    refine ((Agree.refl (entry m.1 (read m.2))).both ih).map ?_
    rintro ⟨x, xs⟩ ⟨_, ys⟩ ⟨rfl, hperm⟩
    exact hperm.cons x
  | swap m n ms =>
    have hcons : ∀ m n, readEntries read (m :: n :: ms) =
        cons (entry m.1 (read m.2)) (cons (entry n.1 (read n.2)) (readEntries read ms)) := fun _ _ => rfl
    rw [hcons, hcons]
    rcases entry m.1 (read m.2) with (e | _) | x <;> rcases entry n.1 (read n.2) with (f | _) | y <;>
      rcases readEntries read ms with (g | _) | xs <;>
      first | exact .faults _ _ | exact .unhashable | exact .ok (.swap ..)
  | trans _ _ ih ih' => exact ih.trans ih' fun _ _ _ => List.Perm.trans

theorem readEntries_agrees {read : Value → Reading α} (h : Rearranged (SameKey Reordered) ms ns)
    (hread : ∀ m ∈ ms, ∀ w, Reordered m.2 w → Agree R (read m.2) (read w)) :
    Agree (Rearranged (SameKey R)) (readEntries read ms) (readEntries read ns) := by
  obtain ⟨hall, hperm⟩ := h
  suffices hagree : Agree (List.Forall₂ (SameKey R)) (readEntries read ms) (readEntries read _) from
    hagree.trans (readEntries_perm hperm) fun _ _ _ => Rearranged.intro
  clear hperm
  induction hall with
  | nil => exact .ok .nil
  | cons hm _ ih =>
    obtain ⟨hhead, htail⟩ := List.forall_mem_cons.mp hread
    cases hm with
    | intro key hv => exact (entry_agrees key (hhead _ hv)).cons (ih htail)

/-- Things that are read from members of different keys, all of them texts, have different names. -/
theorem nodup_of_readEntries {read : Value → Reading α} {things : List (String × α)} (hnodup : (ms.map Prod.fst).Nodup)
    (htext : ∀ m ∈ ms, ∃ name, m.1 = .text name) (h : readEntries read ms = .ok things) :
    (things.map Prod.fst).Nodup := by
  have hkeys : ms.map Prod.fst = (things.map Prod.fst).map .text := by
    have hall := readEntries_eq_ok_iff.mp h
    clear hnodup h
    induction hall with
    | nil => rfl
    | @cons m p _ _ hm _ ih =>
      obtain ⟨⟨name, hname⟩, htext⟩ := List.forall_mem_cons.mp htext
      have hname' : name = p.1 := by simpa [hname, textOf] using hm.1
      rw [List.map_cons, List.map_cons, List.map_cons, ih htext, hname, hname']
  exact List.Nodup.of_map _ (hkeys ▸ hnodup)

theorem named_agrees {read : Value → Reading α} (h : SameMembers ms ns) (htext : ∀ m ∈ ms, ∃ name, m.1 = .text name)
    (hread : ∀ m ∈ ms, ∀ w, Reordered m.2 w → Agree R (read m.2) (read w)) :
    Agree (SameThings R) ((readEntries read ms).map named) ((readEntries read ns).map named) := by
  have hsame : Agree (SameThings R) (readEntries read ms) (readEntries read ns) :=
    (readEntries_agrees h.rearranged hread).imp fun _ _ hok _ hsame => ⟨hsame, nodup_of_readEntries h.nodup htext hok⟩
  refine hsame.map fun things others hsame => ?_
  rwa [named_of_nodup hsame.2, named_of_nodup (hsame.1.keys_perm.nodup_iff.mp hsame.2)]

end Parts

/-! ### Documents -/

theorem forall_isJson_of_membersJson {members : List (Scalar × Value)} (h : membersJson members) :
    ∀ m ∈ members, (∃ name, m.1 = .text name) ∧ m.2.IsJson := by
  induction members with
  | nil => simp
  | cons m rest ih =>
    obtain ⟨key, v⟩ := m
    obtain ⟨hkey, hv, hrest⟩ := h
    exact List.forall_mem_cons.mpr ⟨⟨hkey, hv⟩, ih hrest⟩

theorem isJson_of_member? {members : List (Scalar × Value)} (h : (Value.map members).IsJson) {name : String}
    {v : Value} (hv : member? members name = some v) : v.IsJson :=
  (forall_isJson_of_membersJson h.2 _ (member?_mem hv)).2

section Documents

variable {ms ns : List (Scalar × Value)}

theorem readProperties_agrees {v w : Value} (hjson : v.IsJson) (h : Reordered v w)
    (hread : ∀ properties, v = .map properties → ∀ m ∈ properties, ∀ w, Reordered m.2 w →
      Agree Column.Alike (readColumn m.2) (readColumn w)) :
    Agree (SameThings Column.Alike) (readProperties v) (readProperties w) := by
  cases h with
  | scalar => exact .fault _
  | list => exact .fault _
  | map hms =>
    have hmembers := forall_isJson_of_membersJson hjson.2
    rw [readProperties, readProperties, readColumns_eq, readColumns_eq]
    exact named_agrees ⟨hms, hjson.1⟩ (fun m hm => (hmembers m hm).1) (hread _ rfl)

/-- The fields of a table are read alike if the columns in it are. -/
theorem readTableFields_agrees (hjson : (Value.map ms).IsJson) (h : SameMembers ms ns)
    (hread : ∀ properties, member? ms "properties" = some (.map properties) → ∀ m ∈ properties, ∀ w,
      Reordered m.2 w → Agree Column.Alike (readColumn m.2) (readColumn w)) :
    Agree (TableOf.Alike Column.Alike) (assemble ms (propertiesIn ms)) (assemble ns (propertiesIn ns)) := by
  refine assemble_agrees h ?_
  rw [propertiesIn_eq, propertiesIn_eq]
  rcases h.member?_cases "properties" with ⟨hv, hw⟩ | ⟨v, w, hv, hw, hvw⟩
  · rw [hv, hw]
    exact .none
  · rw [hv, hw]
    refine .some (readProperties_agrees (isJson_of_member? hjson hv) hvw ?_)
    rintro properties rfl
    exact hread properties hv

/-- The items of an array are read alike if all values in the array are. -/
theorem itemsIn_agrees (h : SameMembers ms ns) (hread : ∀ v, member? ms "items" = some v → ∀ w, Reordered v w →
    Agree (ItemsOf.Alike Column.Alike) (readItems v) (readItems w)) :
    Agree (ItemsOf.Alike Column.Alike) (present "items" (itemsIn ms)) (present "items" (itemsIn ns)) := by
  rw [itemsIn_eq, itemsIn_eq]
  rcases h.member?_cases "items" with ⟨hv, hw⟩ | ⟨v, w, hv, hw, hvw⟩
  · rw [hv, hw]
    exact (Agree.fault _).under _
  · rw [hv, hw]
    exact (hread v hv w hvw).under _

/-- Columns and items are read alike in any order of members. -/
theorem readColumn_agrees (v : Value) : v.IsJson → ∀ w, Reordered v w →
    Agree Column.Alike (readColumn v) (readColumn w) ∧
      Agree (ItemsOf.Alike Column.Alike) (readItems v) (readItems w) := by
  induction v using size_induction with
  | step v ih =>
    intro hjson w h
    cases h with
    | scalar => exact ⟨.fault _, .fault _⟩
    | list => exact ⟨.fault _, .fault _⟩
    | @map ms ns hms =>
      have h : SameMembers ms ns := ⟨hms, hjson.1⟩
      have hitems := itemsIn_agrees h fun v hv w hvw =>
        (ih v (sizeOf_member?_lt hv) (isJson_of_member? hjson hv) w hvw).2
      have htable := readTableFields_agrees hjson h fun properties hproperties m hm w hmw =>
        have hmJson := (forall_isJson_of_membersJson (isJson_of_member? hjson hproperties).2 m hm).2
        (ih m.2 (Nat.lt_trans (sizeOf_lt_of_mem hm) (sizeOf_member?_lt hproperties)) hmJson w hmw).1
      rw [readColumn, readColumn, readItems, readItems, tagOf_eq h]
      rcases tagOf ns with e | (_ | tag)
      · exact ⟨.error e, .error e⟩
      · exact ⟨.fault _, .fault _⟩
      · cases tag with
        | ref =>
          have hread := readRef_agrees h
          exact ⟨(hread.map fun _ _ heq => heq ▸ .ref _).under _, (hread.map fun _ _ heq => heq ▸ .ref _).under _⟩
        | literal =>
          have hread := readLiteral_agrees h
          exact ⟨(hread.map fun _ _ heq => heq ▸ .value _).under _, (hread.map fun _ _ heq => heq ▸ .value _).under _⟩
        | string =>
          have hread := readString_agrees h
          exact ⟨(hread.map fun _ _ heq => heq ▸ .value _).under _, (hread.map fun _ _ heq => heq ▸ .value _).under _⟩
        | array => exact ⟨(hitems.map fun _ _ => .array).under _, .fault _⟩
        | object => exact ⟨(htable.map fun _ _ => .table).under _, (htable.map fun _ _ => .table).under _⟩

theorem readTable_agrees {v w : Value} (hjson : v.IsJson) (h : Reordered v w) :
    Agree (TableOf.Alike Column.Alike) (readTable v) (readTable w) := by
  cases h with
  | scalar => exact .fault _
  | list => exact .fault _
  | map hms =>
    refine readTableFields_agrees hjson ⟨hms, hjson.1⟩ fun properties hproperties m hm w hmw => ?_
    have hmJson := (forall_isJson_of_membersJson (isJson_of_member? hjson hproperties).2 m hm).2
    exact (readColumn_agrees m.2 hmJson w hmw).1

theorem readTables_agrees {v w : Value} (hjson : v.IsJson) (h : Reordered v w) :
    Agree (SameThings (TableOf.Alike Column.Alike)) (readTables v) (readTables w) := by
  cases h with
  | scalar => exact .fault _
  | list => exact .fault _
  | map hms =>
    have hmembers := forall_isJson_of_membersJson hjson.2
    exact named_agrees ⟨hms, hjson.1⟩ (fun m hm => (hmembers m hm).1) fun m hm w =>
      readTable_agrees (hmembers m hm).2

/-- Documents that are equal up to the order of members are read as shapes that are alike, or they are refused for the
same kind of reason. -/
theorem read_agrees {document other : Value} (hjson : document.IsJson) (h : Reordered document other) :
    Agree Database.Alike (read document) (read other) := by
  cases h with
  | scalar => exact .fault _
  | list => exact .fault _
  | map hms =>
    have hsame : SameMembers _ _ := ⟨hms, hjson.1⟩
    have htables := required_agrees hsame "properties" fun v hv w => readTables_agrees (isJson_of_member? hjson hv)
    exact ((readType_agrees hsame).both htables).map fun _ _ h => ⟨h.2.1, h.2.2⟩

end Documents

end Shape

end ShapeTables
