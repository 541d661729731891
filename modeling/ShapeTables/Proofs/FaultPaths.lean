import ShapeTables.Compile
import ShapeTables.Proofs.Grammar

/-! Where the faults of a reading are located. A reader goes down the document step by step and puts the tag of a
column between two steps; what comes out of its locations when the tags are taken out again is followed from the
root. It leads to the value that is at fault or to a member that is not there, except for constants: each of the
four branches in which a constant is tried adds a step that is no tag, and below a list or null there is nothing. -/
namespace ShapeTables

namespace Value

/-- A location leads to a value, or to a map that lacks the member its last step names. -/
def Locates (v : Value) (loc : Location) : Prop :=
  (∃ w, v.follow? loc = some w) ∨ ∃ above members name, loc = above ++ [.name name] ∧
    v.follow? above = some (.map members) ∧ member? members name = none

/-- A value stands as the default of a column or among the values it allows. A default that is null is none. -/
inductive ConstantAt (document : Value) : Location → Value → Prop where
  | default {column : Location} {members : List (Scalar × Value)} {v : Value}
    (hcolumn : document.follow? column = some (.map members)) (hv : member? members "default" = some v)
    (hnull : v ≠ .null) : ConstantAt document (column ++ [.name "default"]) v
  | allowed {column : Location} {members : List (Scalar × Value)} {items : List Value} {i : Nat} {v : Value}
    (hcolumn : document.follow? column = some (.map members)) (henum : member? members "enum" = some (.list items))
    (hv : items[i]? = some v) : ConstantAt document (column ++ [.name "enum", .index i]) v

/-- A value without members or items of its own to follow a name to. -/
def IsBare (v : Value) : Prop := v = .null ∨ ∃ items, v = .list items

variable {v w : Value} {loc rest : Location} {step : Step}

theorem follow?_append (v : Value) (loc rest : Location) :
    v.follow? (loc ++ rest) = (v.follow? loc).bind (follow? · rest) := by
  induction loc generalizing v with
  | nil => rfl
  | cons step loc ih =>
    rw [List.cons_append, follow?, follow?, Option.bind_assoc]
    simp only [ih]

theorem follow?_cons_of_step? (hstep : v.step? step = some w) : v.follow? (step :: rest) = w.follow? rest := by
  rw [follow?, hstep, Option.bind_some]

/-- No name leads on from a value that is bare. -/
theorem IsBare.not_locates (h : w.IsBare) (hloc : v.follow? loc = some w) (name : String) :
    ¬v.Locates (loc ++ [.name name]) := by
  rintro (⟨x, hx⟩ | ⟨above, members, last, happend, hmap, -⟩)
  · rw [follow?_append, hloc] at hx
    obtain rfl | ⟨items, rfl⟩ := h <;> cases hx
  · obtain ⟨rfl, -⟩ := List.append_inj' happend rfl
    rw [hloc] at hmap
    obtain rfl | ⟨items, rfl⟩ := h <;> cases hmap

theorem ConstantAt.follow?_eq (h : v.ConstantAt loc w) : v.follow? loc = some w := by
  cases h with
  | default hcolumn hv _ => simp [follow?_append, hcolumn, follow?, step?, hv]
  | allowed hcolumn henum hv => simp [follow?_append, hcolumn, follow?, step?, henum, hv]

/-- A name leads on from a map, whether or not the map has such a member. -/
theorem locates_name {members : List (Scalar × Value)} (hloc : v.follow? loc = some (.map members)) (name : String) :
    v.Locates (loc ++ [.name name]) := by
  cases h : member? members name with
  | none => exact .inr ⟨loc, members, name, rfl, hloc, h⟩
  | some w => exact .inl ⟨w, by simp [follow?_append, hloc, follow?, step?, h]⟩

theorem ConstantAt.of_default {members : List (Scalar × Value)} (hv : member? members "default" = some v)
    (hnull : v ≠ .null) : (map members).ConstantAt [.name "default"] v :=
  @ConstantAt.default _ [] members v rfl hv hnull

theorem ConstantAt.of_enum {members : List (Scalar × Value)} {items : List Value} {i : Nat}
    (henum : member? members "enum" = some (.list items)) (hv : items[i]? = some v) :
    (map members).ConstantAt [.name "enum", .index i] v :=
  @ConstantAt.allowed _ [] members items i v rfl henum hv

theorem Locates.below (hstep : v.step? step = some w) (h : w.Locates rest) : v.Locates (step :: rest) := by
  rcases h with ⟨x, hx⟩ | ⟨above, members, name, rfl, hmap, hnone⟩
  · exact .inl ⟨x, by rw [follow?_cons_of_step? hstep, hx]⟩
  · exact .inr ⟨step :: above, members, name, rfl, by rw [follow?_cons_of_step? hstep, hmap], hnone⟩

theorem ConstantAt.below (hstep : v.step? step = some w) {x : Value} (h : w.ConstantAt rest x) :
    v.ConstantAt (step :: rest) x := by
  cases h with
  | default hcolumn hv hnull =>
    exact @ConstantAt.default v (step :: _) _ _ (by rw [follow?_cons_of_step? hstep, hcolumn]) hv hnull
  | allowed hcolumn henum hv =>
    exact @ConstantAt.allowed v (step :: _) _ _ _ _ (by rw [follow?_cons_of_step? hstep, hcolumn]) henum hv

end Value

namespace Shape

open Reading

/-- The branches in which a constant is tried, with what is wrong in each of them. -/
def branches : List (String × Fault.Cause) :=
  [("bool", .notBool), ("int", .notInt), ("float", .notNumber), ("str", .notText)]

/-- What is said of a bare value that is no constant, at a step for the branch in which it was tried. -/
def IsBranchFault (document : Value) (loc : Location) (cause : Fault.Cause) : Prop :=
  ∃ above v branch, document.ConstantAt above v ∧ v.IsBare ∧ (branch, cause) ∈ branches ∧ loc = above ++ [.name branch]

/-- A fault lies in a value where it is located in it, or below a bare value of it at the step for a branch. -/
def Lies (v : Value) (loc : Location) (cause : Fault.Cause) : Prop := v.Locates loc ∨ IsBranchFault v loc cause

theorem IsBranchFault.not_locates {document : Value} {loc : Location} {cause : Fault.Cause}
    (h : IsBranchFault document loc cause) : ¬document.Locates loc := by
  obtain ⟨above, v, branch, hconstant, hbare, -, rfl⟩ := h
  exact hbare.not_locates hconstant.follow?_eq branch

section Lies

variable {v w : Value} {loc : Location} {step : Step} {cause : Fault.Cause}

theorem lies_here (v : Value) (cause : Fault.Cause) : Lies v [] cause := .inl (.inl ⟨v, rfl⟩)

theorem lies_missing {members : List (Scalar × Value)} {name : String} (h : member? members name = none)
    (cause : Fault.Cause) : Lies (.map members) [.name name] cause :=
  .inl (.inr ⟨[], members, name, rfl, rfl, h⟩)

theorem Lies.below (hstep : v.step? step = some w) (h : Lies w loc cause) : Lies v (step :: loc) cause := by
  rcases h with h | ⟨above, x, branch, hconstant, hbare, hbranch, rfl⟩
  · exact .inl (h.below hstep)
  · exact .inr ⟨step :: above, x, branch, hconstant.below hstep, hbare, hbranch, rfl⟩

/-- The branches of a value that is no constant lie in it, or it is bare. -/
theorem lies_constant {document : Value} (hconstant : document.ConstantAt loc v)
    (hv : v.IsBare ∨ ∃ members, v = .map members) {branch : String} (hbranch : (branch, cause) ∈ branches) :
    Lies document (loc ++ [.name branch]) cause := by
  rcases hv with hbare | ⟨members, rfl⟩
  · exact .inr ⟨loc, v, branch, hconstant, hbare, hbranch, rfl⟩
  · exact .inl (Value.locates_name hconstant.follow?_eq branch)

end Lies

/-! ### Faults of readings -/

section Faults

variable {α β : Type} {P Q : Fault → Prop}

/-- Every fault with which a reading is refused has a property. -/
def Blames (P : Fault → Prop) (r : Reading α) : Prop := ∀ found, r = .error (.faults found) → ∀ f ∈ found, P f

/-- A property of faults as they are one step below. -/
def Beneath (step : Step) (P : Fault → Prop) (f : Fault) : Prop := P ⟨step :: f.loc, f.cause⟩

theorem blames_ok (x : α) : Blames P (.ok x : Reading α) := by
  rintro found ⟨⟩

theorem blames_fault {cause : Fault.Cause} (h : P ⟨[], cause⟩) : Blames P (fault cause : Reading α) := by
  rintro found ⟨⟩ f hf
  obtain rfl := List.mem_singleton.mp hf
  exact h

theorem blames_unhashable : Blames P (.error .unhashable : Reading α) := by
  rintro found ⟨⟩

theorem Blames.imp {r : Reading α} (h : Blames P r) (hPQ : ∀ f, P f → Q f) : Blames Q r :=
  fun found hfound f hf => hPQ f (h found hfound f hf)

theorem Blames.both {a : Reading α} {b : Reading β} (ha : Blames P a) (hb : Blames P b) : Blames P (both a b) := by
  intro found hfound f hf
  rcases a with (xs | _) | x <;> rcases b with (ys | _) | y <;> cases hfound
  · rcases List.mem_append.mp hf with hf | hf
    · exact ha xs rfl f hf
    · exact hb ys rfl f hf
  · exact ha _ rfl f hf
  · exact hb _ rfl f hf

theorem Blames.map {r : Reading α} (h : Blames P r) (g : α → β) : Blames P (r.map g) := by
  rintro found hfound
  rcases r with e | x <;> cases hfound
  exact h _ rfl

theorem Blames.under {step : Step} {r : Reading α} (h : Blames (Beneath step P) r) : Blames P (under step r) := by
  intro found hfound f hf
  rcases r with (xs | _) | x <;> cases hfound
  obtain ⟨g, hg, rfl⟩ := List.mem_map.mp hf
  exact h xs rfl g hg

theorem Blames.cons {r : Reading α} {rs : Reading (List α)} (hr : Blames P r) (hrs : Blames P rs) :
    Blames P (cons r rs) :=
  (hr.both hrs).map _

end Faults

/-! ### Fields -/

section Fields

variable {α : Type} {read : Value → Reading α} {members : List (Scalar × Value)} {P : Fault → Prop} {v : Value}

theorem optional_blames {name : String} {absent : α}
    (h : ∀ v, member? members name = some v → Blames (Beneath (.name name) P) (read v)) :
    Blames P (optional members name absent read) := by
  unfold Reading.optional
  split
  · next v hv => exact (h v hv).under
  · exact blames_ok absent

theorem required_blames {name : String} (hmissing : member? members name = none → P ⟨[.name name], .missing⟩)
    (h : ∀ v, member? members name = some v → Blames (Beneath (.name name) P) (read v)) :
    Blames P (required members name read) := by
  unfold Reading.required
  split
  · next v hv => exact (h v hv).under
  · next hnone => exact (blames_fault (hmissing hnone)).under

theorem nullable_blames (h : v ≠ .null → Blames P (read v)) : Blames P (nullable read v) := by
  unfold Reading.nullable
  split
  · exact blames_ok none
  · next hne => exact (h hne).map some

theorem list_blames (hcause : P ⟨[], .notList⟩)
    (h : ∀ items, v = .list items → ∀ (i : Nat) w, items[i]? = some w → Blames (Beneath (.index i) P) (read w)) :
    Blames P (list read v) := by
  have hitems : ∀ items : List Value, ∀ start : Nat,
      (∀ (i : Nat) w, items[i]? = some w → Blames (Beneath (.index ((start + i : Nat) : Int)) P) (read w)) →
        Blames P (itemsFrom read start items) := by
    intro items
    induction items with
    | nil => exact fun _ _ => blames_ok []
    | cons w rest ih =>
      intro start h
      refine .cons (h 0 w rfl).under (ih (start + 1) fun i w hw => ?_)
      have hi := h (i + 1) w hw
      rwa [Nat.add_comm i 1, ← Nat.add_assoc] at hi
  cases v with
  | list items => exact hitems items 0 fun i w hw => by simpa using h items rfl i w hw
  | _ => exact blames_fault hcause

end Fields

/-! ### Fields that have no columns in them -/

section Plain

variable {α : Type} {members : List (Scalar × Value)} {v w : Value} {P : Fault → Prop} {name : String}

/-- A step below which there is no column. -/
def IsPlain (step : Step) : Prop := step ≠ .name "properties" ∧ step ≠ .name "items"

/-- A fault lies in a value at its location, and no column is above it. -/
structure LiesPlain (v : Value) (f : Fault) : Prop where
  lies : Lies v f.loc f.cause
  plain : ∀ step ∈ f.loc, IsPlain step

theorem liesPlain_here (v : Value) (cause : Fault.Cause) : LiesPlain v ⟨[], cause⟩ := ⟨lies_here v cause, by simp⟩

theorem LiesPlain.beneath {step : Step} {f : Fault} (hstep : v.step? step = some w) (hplain : IsPlain step)
    (h : LiesPlain w f) : Beneath step (LiesPlain v) f :=
  ⟨Lies.below hstep h.lies, List.forall_mem_cons.mpr ⟨hplain, h.plain⟩⟩

theorem isPlain_index (i : Int) : IsPlain (.index i) := ⟨by simp, by simp⟩

theorem text_blames (v : Value) : Blames (LiesPlain v) (text v) := by
  have hfault : ∀ cause, Blames (LiesPlain v) (fault cause : Reading String) := fun cause =>
    blames_fault (liesPlain_here v cause)
  unfold text textOf
  split
  · split
    · exact blames_ok _
    · split
      · exact blames_ok _
      · exact hfault _
    · exact hfault _
  · exact hfault _

theorem among_blames (choices : List (String × α)) (v : Value) : Blames (LiesPlain v) (among choices v) := by
  unfold among
  split
  · split
    · exact blames_ok _
    · exact blames_fault (liesPlain_here _ _)
  · exact blames_fault (liesPlain_here _ _)

theorem texts_blames (v : Value) : Blames (LiesPlain v) (list text v) := by
  refine list_blames (liesPlain_here v _) ?_
  rintro items rfl i w hw
  exact (text_blames w).imp fun f hf => hf.beneath hw (isPlain_index i)

/-- A field that may be absent or null, and has no columns in it. -/
theorem field_blames {read : Value → Reading α} (hplain : IsPlain (.name name)) (h : ∀ v, Blames (LiesPlain v) (read v)) :
    Blames (LiesPlain (.map members)) (optional members name none (nullable read)) :=
  optional_blames fun v hv => nullable_blames fun _ => (h v).imp fun _ hf => hf.beneath hv hplain

/-- A field that has to be there, and has no columns in it. -/
theorem requiredField_blames {read : Value → Reading α} (hplain : IsPlain (.name name))
    (h : ∀ v, Blames (LiesPlain v) (read v)) : Blames (LiesPlain (.map members)) (required members name read) := by
  refine required_blames (fun hnone => ⟨lies_missing hnone _, ?_⟩) fun v hv => (h v).imp fun _ hf => hf.beneath hv hplain
  simpa using hplain

theorem readRef_blames : Blames (LiesPlain (.map members)) (readRef members) :=
  requiredField_blames (by simp [IsPlain]) text_blames

theorem readType_blames : Blames (LiesPlain (.map members)) (readType members) :=
  requiredField_blames (by simp [IsPlain]) (among_blames _)

theorem readPrimaryKey_blames : Blames (LiesPlain (.map members)) (readPrimaryKey members) := by
  unfold readPrimaryKey
  split
  · next v hv =>
    refine (nullable_blames fun _ => (text_blames v).imp fun f hf => ?_).under
    exact hf.beneath hv (by simp [IsPlain])
  · exact field_blames (by simp [IsPlain]) text_blames

/-- A value that is no constant is refused in every branch. -/
theorem readConstant_blames (hjson : v.IsJson) :
    Blames (fun f => ∃ branch, f.loc = [.name branch] ∧ (branch, f.cause) ∈ branches ∧
      (v.IsBare ∨ ∃ members, v = .map members)) (readConstant v) := by
  intro found hfound f hf
  have hv : v.IsBare ∨ ∃ members, v = .map members := by
    cases v with
    | scalar s => cases s <;> first | exact .inl (.inl rfl) | exact hjson.elim | cases hfound
    | list items => exact .inl (.inr ⟨items, rfl⟩)
    | map members => exact .inr ⟨members, rfl⟩
    | _ => exact hjson.elim
  have hbranches : found = branches.map fun b => ⟨[.name b.1], b.2⟩ := by
    obtain (rfl | ⟨items, rfl⟩) | ⟨members, rfl⟩ := hv <;> cases hfound <;> rfl
  rw [hbranches] at hf
  obtain ⟨⟨branch, cause⟩, hbranch, rfl⟩ := List.mem_map.mp hf
  exact ⟨branch, rfl, hbranch, hv⟩

theorem isPlain_branch {branch : String} {cause : Fault.Cause} (h : (branch, cause) ∈ branches) :
    IsPlain (.name branch) := by
  have hall : ∀ b ∈ branches, IsPlain (.name b.1) := by simp [branches, IsPlain]
  exact hall _ h

/-- The faults of a constant, from the map that it is a constant of. -/
theorem constant_blames {loc : Location} (hconstant : (Value.map members).ConstantAt loc v) (hjson : v.IsJson)
    (hplain : ∀ step ∈ loc, IsPlain step) :
    Blames (fun f => LiesPlain (.map members) ⟨loc ++ f.loc, f.cause⟩) (readConstant v) := by
  refine (readConstant_blames hjson).imp ?_
  rintro ⟨_, cause⟩ ⟨branch, rfl, hbranch, hrefused⟩
  refine ⟨lies_constant hconstant hrefused hbranch, fun step hstep => ?_⟩
  rcases List.mem_append.mp hstep with hstep | hstep
  · exact hplain step hstep
  · rw [List.mem_singleton.mp hstep]
    exact isPlain_branch hbranch

theorem readConstants_blames (hjson : (Value.map members).IsJson) :
    Blames (LiesPlain (.map members)) (readConstants members) := by
  refine .both (optional_blames fun v hv => nullable_blames fun hnull => ?_)
    (.both (optional_blames fun v hv => nullable_blames fun _ => ?_)
      (field_blames (by simp [IsPlain]) text_blames))
  · exact constant_blames (.of_default hv hnull) (isJson_of_member? hjson hv) (by simp [IsPlain])
  · refine list_blames ((liesPlain_here v _).beneath hv (by simp [IsPlain])) ?_
    rintro items rfl i w hw
    have hitem : w.IsJson := allJson_iff.mp (isJson_of_member? hjson hv) w (List.mem_of_getElem? hw)
    exact constant_blames (.of_enum hv hw) hitem (by simp [IsPlain])

theorem readLiteral_blames (hjson : (Value.map members).IsJson) :
    Blames (LiesPlain (.map members)) (readLiteral members) :=
  (readConstants_blames hjson).map _

theorem readString_blames (hjson : (Value.map members).IsJson) :
    Blames (LiesPlain (.map members)) (readString members) :=
  ((readConstants_blames hjson).both (field_blames (by simp [IsPlain]) (among_blames formats))).map _

end Plain

/-! ### Locations without tags -/

/-- A fault lies in a value at its location without the tags that follow from a state on. -/
def LiesFrom (state : Expected) (kept : Nat) (v : Value) (f : Fault) : Prop :=
  Lies v (untagFrom state kept f.loc) f.cause

section Untag

variable {α β : Type} {members : List (Scalar × Value)} {v w : Value} {state : Expected} {kept : Nat} {step : Step}

theorem untagFrom_cons (hstate : state ≠ .tag) (rest : Location) :
    untagFrom state kept (step :: rest) = step :: untagFrom (state.next step (kept + 1)) (kept + 1) rest := by
  rw [untagFrom, if_neg (by simp [hstate])]

theorem untagFrom_tag (tag : Tag) (rest : Location) :
    untagFrom .tag kept (.name tag.name :: rest) = untagFrom .anything kept rest := by
  have htag : isTag (.name tag.name) := by cases tag <;> rfl
  rw [untagFrom, if_pos ⟨rfl, htag⟩]

theorem untagFrom_plain {loc : Location} (h : ∀ step ∈ loc, IsPlain step) : untagFrom .anything kept loc = loc := by
  induction loc generalizing kept with
  | nil => rfl
  | cons step rest ih =>
    obtain ⟨⟨hproperties, hitems⟩, hrest⟩ := List.forall_mem_cons.mp h
    have hnext : Expected.next .anything step (kept + 1) = .anything := by simp [Expected.next, hproperties, hitems]
    rw [untagFrom_cons (by simp), hnext, ih hrest]

theorem Blames.liesFrom {r : Reading α} (h : Blames (LiesPlain v) r) (kept : Nat) :
    Blames (LiesFrom .anything kept v) r := by
  refine h.imp fun f hf => ?_
  rw [LiesFrom, untagFrom_plain hf.plain]
  exact hf.lies

/-- A step that is kept leads one value down. -/
theorem Blames.below {r : Reading α} (hstate : state ≠ .tag) (hstep : v.step? step = some w)
    (h : Blames (LiesFrom (state.next step (kept + 1)) (kept + 1) w) r) :
    Blames (Beneath step (LiesFrom state kept v)) r := by
  refine h.imp fun f hf => ?_
  rw [Beneath, LiesFrom, untagFrom_cons hstate]
  exact Lies.below hstep hf

theorem liesFrom_missing {name : String} (h : member? members name = none) :
    LiesFrom .anything kept (.map members) ⟨[.name name], .missing⟩ := by
  rw [LiesFrom, untagFrom_cons (by simp)]
  exact lies_missing h .missing

theorem tagged_blames {tag : Tag} {column : α → β} {r : Reading α} (h : Blames (LiesFrom .anything kept v) r) :
    Blames (LiesFrom .tag kept v) (tagged tag column r) := by
  refine ((h.map column).imp fun f hf => ?_).under
  rwa [Beneath, LiesFrom, untagFrom_tag]

end Untag

/-! ### Tables and columns -/

section Columns

variable {α : Type} {members : List (Scalar × Value)} {kept : Nat} {read : Value → Reading α}

theorem present_blames {name : String} {found : Option (Reading α)} {P : Fault → Prop}
    (hmissing : found = none → P ⟨[.name name], .missing⟩)
    (h : ∀ r, found = some r → Blames (Beneath (.name name) P) r) : Blames P (present name found) := by
  cases found with
  | none => exact (blames_fault (hmissing rfl)).under
  | some r => exact (h r rfl).under

theorem entries_blames {P : Fault → Prop} (h : ∀ m ∈ members, Blames P (entry m.1 (read m.2))) :
    Blames P (readEntries read members) := by
  induction members with
  | nil => exact blames_ok []
  | cons m rest ih =>
    obtain ⟨hm, hrest⟩ := List.forall_mem_cons.mp h
    exact hm.cons (ih hrest)

/-- Named things lie at their names. What follows a name depends on how many steps are above it. -/
theorem readEntries_blames (hjson : (Value.map members).IsJson)
    (h : ∀ m ∈ members, ∀ step, Blames (LiesFrom (Expected.next .property step (kept + 1)) (kept + 1) m.2) (read m.2)) :
    Blames (LiesFrom .property kept (.map members)) (readEntries read members) := by
  refine entries_blames ?_
  rintro ⟨key, v⟩ hm
  obtain ⟨⟨name, hname⟩, -⟩ := forall_isJson_of_membersJson hjson.2 _ hm
  obtain rfl : key = .text name := hname
  have hstep : (Value.map members).step? (.name name) = some v := (lookup_eq_some_iff_of_nodup hjson.1).mpr hm
  have hname : Blames (Beneath (.name name) (LiesFrom .property kept (.map members)))
      ((textOf (.text name)).under (.name "[key]")) := blames_ok name
  exact (hname.both ((h _ hm _).below (by simp) hstep)).under

/-- The faults of the fields of a table, if those of the columns in it lie in them. -/
theorem assemble_blames (hjson : (Value.map members).IsJson) (hkept : 2 ≤ kept)
    (h : ∀ entries, member? members "properties" = some (.map entries) → ∀ m ∈ entries, ∀ kept, 2 < kept →
      Blames (LiesFrom .tag kept m.2) (readColumn m.2)) :
    Blames (LiesFrom .anything kept (.map members)) (assemble members (propertiesIn members)) := by
  have hproperties : Blames (LiesFrom .anything kept (.map members)) (present "properties" (propertiesIn members)) := by
    rw [propertiesIn_eq]
    refine present_blames (fun hnone => liesFrom_missing (Option.map_eq_none_iff.mp hnone)) fun r hr => ?_
    obtain ⟨v, hv, rfl⟩ := Option.map_eq_some_iff.mp hr
    refine Blames.below (w := v) (by simp) hv ?_
    cases v with
    | map entries =>
      rw [readProperties, readColumns_eq]
      refine (readEntries_blames (isJson_of_member? hjson hv) fun m hm step => ?_).map named
      have hdeep : 2 < kept + 1 + 1 := by omega
      simpa [Expected.next, hdeep] using h entries hv m hm (kept + 1 + 1) hdeep
    | _ => exact blames_fault (lies_here _ _)
  have hrequired : Blames (LiesFrom .anything kept (.map members))
      (optional members "required" none (nullable (list text))) :=
    (field_blames (by simp [IsPlain]) texts_blames).liesFrom kept
  exact ((readType_blames.liesFrom kept).both
    (hproperties.both (hrequired.both (readPrimaryKey_blames.liesFrom kept)))).map _

theorem tagOf_error {e : Refusal} (h : tagOf members = .error e) : e = .unhashable := by
  unfold tagOf at h
  split at h
  · cases h
  · split at h <;> cases h
    all_goals rfl

/-- The faults of a column, or of the items of an array, lie in it once the tags are taken out. -/
theorem readColumn_blames (v : Value) : v.IsJson → ∀ kept, 2 < kept →
    Blames (LiesFrom .tag kept v) (readColumn v) ∧ Blames (LiesFrom .tag kept v) (readItems v) := by
  induction v using size_induction with
  | step v ih =>
    intro hjson kept hkept
    cases v with
    | map members =>
      have href : Blames (LiesFrom .anything kept (.map members)) (readRef members) := readRef_blames.liesFrom kept
      have hliteral := (readLiteral_blames hjson).liesFrom kept
      have hstring := (readString_blames hjson).liesFrom kept
      have htable : Blames (LiesFrom .anything kept (.map members)) (assemble members (propertiesIn members)) := by
        refine assemble_blames hjson (by omega) fun entries hv m hm deeper hdeeper => ?_
        have hlt := Nat.lt_trans (sizeOf_lt_of_mem hm) (sizeOf_member?_lt hv)
        have hm := (forall_isJson_of_membersJson (isJson_of_member? hjson hv).2 m hm).2
        exact (ih m.2 hlt hm deeper hdeeper).1
      have hitems : Blames (LiesFrom .anything kept (.map members)) (present "items" (itemsIn members)) := by
        rw [itemsIn_eq]
        refine present_blames (fun hnone => liesFrom_missing (Option.map_eq_none_iff.mp hnone)) fun r hr => ?_
        obtain ⟨v, hv, rfl⟩ := Option.map_eq_some_iff.mp hr
        refine Blames.below (w := v) (by simp) hv ?_
        have hbelow := ih v (sizeOf_member?_lt hv) (isJson_of_member? hjson hv) (kept + 1) (by omega)
        simpa [Expected.next] using hbelow.2
      rw [readColumn, readItems]
      rcases htag : tagOf members with e | (_ | tag)
      · obtain rfl := tagOf_error htag
        exact ⟨blames_unhashable, blames_unhashable⟩
      · exact ⟨blames_fault (lies_here _ _), blames_fault (lies_here _ _)⟩
      · cases tag with
        | ref => exact ⟨tagged_blames href, tagged_blames href⟩
        | literal => exact ⟨tagged_blames hliteral, tagged_blames hliteral⟩
        | string => exact ⟨tagged_blames hstring, tagged_blames hstring⟩
        | array => exact ⟨tagged_blames hitems, blames_fault (lies_here _ _)⟩
        | object => exact ⟨tagged_blames htable, tagged_blames htable⟩
    | _ => exact ⟨blames_fault (lies_here _ _), blames_fault (lies_here _ _)⟩

end Columns

/-! ### Documents -/

section Documents

theorem readTable_blames {v : Value} (hjson : v.IsJson) : Blames (LiesFrom .anything 2 v) (readTable v) := by
  cases v with
  | map members =>
    refine assemble_blames hjson (Nat.le_refl 2) fun entries hv m hm kept hkept => ?_
    exact (readColumn_blames m.2 (forall_isJson_of_membersJson (isJson_of_member? hjson hv).2 m hm).2 kept hkept).1
  | _ => exact blames_fault (lies_here _ _)

theorem readTables_blames {v : Value} (hjson : v.IsJson) : Blames (LiesFrom .property 1 v) (readTables v) := by
  cases v with
  | map tables =>
    have hentries : Blames (LiesFrom .property 1 (.map tables)) (readEntries readTable tables) :=
      readEntries_blames hjson fun m hm _ => readTable_blames (forall_isJson_of_membersJson hjson.2 m hm).2
    exact hentries.map named
  | _ => exact blames_fault (lies_here _ _)

theorem read_blames {document : Value} (hjson : document.IsJson) :
    Blames (fun f => Lies document (untag f.loc) f.cause) (read document) := by
  cases document with
  | map members =>
    have htype : Blames (LiesFrom .anything 0 (.map members)) (readType members) := readType_blames.liesFrom 0
    have htables : Blames (LiesFrom .anything 0 (.map members)) (required members "properties" readTables) :=
      required_blames liesFrom_missing fun v hv => Blames.below (by simp) hv (readTables_blames (isJson_of_member? hjson hv))
    exact (htype.both htables).map _
  | _ => exact blames_fault (lies_here _ _)

end Documents

end Shape

section Problems

open Shape

variable {document : Value} {problems : List Problem} {p : Problem}

/-- What is wrong with the form of a document, at the location that a problem gives. -/
theorem lies_of_readShape (hjson : document.IsJson) (hread : readShape document = .error (.refused problems))
    (hp : p ∈ problems) : ∃ cause, p.cause = .form cause ∧ Lies document p.loc cause := by
  unfold readShape at hread
  split at hread
  · cases hread
  · next found hfound =>
    cases hread
    obtain ⟨f, hf, rfl⟩ := List.mem_map.mp hp
    exact ⟨f.cause, rfl, read_blames hjson found hfound f hf⟩
  · cases hread

/-- A problem of the form of a document is located in it, unless it is one of the four that are found where a list
stands as a default, or a list or null among the allowed values: they are located below it, where nothing is. -/
theorem located_iff (hjson : document.IsJson) (hread : readShape document = .error (.refused problems))
    (hp : p ∈ problems) :
    document.Locates p.loc ↔ ¬∃ cause, p.cause = .form cause ∧ IsBranchFault document p.loc cause := by
  obtain ⟨cause, hcause, hlies⟩ := lies_of_readShape hjson hread hp
  constructor
  · rintro hlocates ⟨_, -, hbranch⟩
    exact hbranch.not_locates hlocates
  · intro hbranch
    exact hlies.resolve_right fun h => hbranch ⟨cause, hcause, h⟩

/-- Properties with the names of fields and tags: one is an array of texts with a format that is none, the other one
allows a map and null. -/
def labelled : Value := objectOf
  [("properties", objectOf
    [("items", arrayOf (.object [("type", .text "string"), ("format", .text "string")])),
     ("string", .object [("type", .text "string"), ("enum", .list [.object [], .null])])])]

theorem located_labelled : labelled.IsJson ∧ ∃ problems, readShape labelled = .error (.refused problems) ∧
    problems.length = 9 ∧ ∀ p ∈ problems, labelled.Locates p.loc ↔
      ¬∃ cause, p.cause = .form cause ∧ IsBranchFault labelled p.loc cause := by
  have hjson : labelled.IsJson := by
    simp [labelled, objectOf, arrayOf, Value.object, Value.IsJson, membersJson, allJson, Scalar.IsJson]
  obtain ⟨problems, hread, hlength⟩ :
      ∃ problems, readShape labelled = .error (.refused problems) ∧ problems.length = 9 := ⟨_, rfl, rfl⟩
  exact ⟨hjson, problems, hread, hlength, fun p hp => located_iff hjson hread hp⟩

/-- Things with a list as the default of a text. -/
def listDefault : Value := objectOf [("t", objectOf [("c", .object [("type", .text "string"), ("default", .list [])])])]

/-- The four problems of the default are located below it, and there is nothing below an empty list. -/
theorem listDefault_not_located : listDefault.IsJson ∧ ∃ problems, readShape listDefault = .error (.refused problems) ∧
    problems.length = 4 ∧ ∀ p ∈ problems, ¬listDefault.Locates p.loc := by
  have hjson : listDefault.IsJson := by
    simp [listDefault, objectOf, Value.object, Value.IsJson, membersJson, allJson, Scalar.IsJson]
  obtain ⟨loc, hfollow, hread⟩ : ∃ loc, listDefault.follow? loc = some (.list []) ∧ readShape listDefault =
      .error (.refused (branches.map fun b => ⟨loc ++ [.name b.1], .form b.2⟩)) :=
    ⟨[.name "properties", .name "t", .name "properties", .name "c", .name "default"], rfl, rfl⟩
  refine ⟨hjson, _, hread, rfl, fun p hp => ?_⟩
  obtain ⟨branch, -, rfl⟩ := List.mem_map.mp hp
  exact Value.IsBare.not_locates (.inr ⟨[], rfl⟩) hfollow branch.1

end Problems

end ShapeTables
