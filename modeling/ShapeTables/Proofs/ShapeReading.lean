import ShapeTables.Proofs.Reading
import ShapeTables.Proofs.Rearrangement

/-! What reading shapes comes to. A reading that is refused names a fault, unless it comes to a column whose type
is a list, a map or a set; where such columns stand is said by `CompoundTyped`. -/
namespace ShapeTables.Shape

open Reading

/-! ### Members -/

theorem mem_of_lookup_eq_some {κ β : Type} [BEq κ] [LawfulBEq κ] {xs : List (κ × β)} {key : κ} {x : β}
    (h : xs.lookup key = some x) : (key, x) ∈ xs := by
  obtain ⟨before, after, hxs, -⟩ := List.lookup_eq_some_iff.mp h
  simp [hxs]

section Members

variable {α : Type} {read : Value → Reading α}

theorem member?_mem {members : List (Scalar × Value)} {name : String} {v : Value}
    (h : member? members name = some v) : (.text name, v) ∈ members :=
  mem_of_lookup_eq_some h

theorem sizeOf_lt_of_mem {members : List (Scalar × Value)} {m : Scalar × Value} (h : m ∈ members) :
    sizeOf m.2 < sizeOf (Value.map members) := by
  have hmem := List.sizeOf_lt_of_mem h
  obtain ⟨key, v⟩ := m
  simp only [Prod.mk.sizeOf_spec, Value.map.sizeOf_spec] at *
  omega

theorem sizeOf_member?_lt {members : List (Scalar × Value)} {name : String} {v : Value}
    (h : member? members name = some v) : sizeOf v < sizeOf (Value.map members) :=
  sizeOf_lt_of_mem (member?_mem h)

/-- What holds of a value whenever it holds of all smaller ones holds of every value. -/
theorem size_induction {P : Value → Prop} (step : ∀ v, (∀ w, sizeOf w < sizeOf v → P w) → P v) (v : Value) :
    P v :=
  (measure (sizeOf : Value → Nat)).wf.induction v step

private theorem eq_map_member? {β : Type} {f : List (Scalar × Value) → Option β} {name : String} {g : Value → β}
    (hnil : f [] = none)
    (hcons : ∀ key v rest, f ((key, v) :: rest) = if key = .text name then some (g v) else f rest)
    (members : List (Scalar × Value)) : f members = (member? members name).map g := by
  induction members with
  | nil => exact hnil
  | cons m rest ih =>
    obtain ⟨key, v⟩ := m
    simp only [hcons, ih, member?, List.lookup_cons]
    by_cases h : key = .text name
    · simp [h]
    · have hbeq : ((.text name : Scalar) == key) = false := beq_false_of_ne (Ne.symm h)
      simp [h, hbeq]

theorem itemsIn_eq (members : List (Scalar × Value)) :
    itemsIn members = (member? members "items").map readItems :=
  eq_map_member? rfl (fun _ _ _ => rfl) members

theorem propertiesIn_eq (members : List (Scalar × Value)) :
    propertiesIn members = (member? members "properties").map readProperties :=
  eq_map_member? rfl (fun _ _ _ => rfl) members

/-- The readings of all members of a map of named things. -/
def readEntries (read : Value → Reading α) (members : List (Scalar × Value)) : Reading (List (String × α)) :=
  members.foldr (fun (key, v) found => cons (entry key (read v)) found) (.ok [])

theorem readColumns_eq (members : List (Scalar × Value)) :
    readColumns members = readEntries readColumn members := by
  induction members with
  | nil => rfl
  | cons m rest ih => rw [readColumns, ih]; rfl

theorem entry_eq_ok_iff {key : Scalar} {r : Reading α} {p : String × α} :
    entry key r = .ok p ↔ textOf key = .ok p.1 ∧ r = .ok p.2 := by
  simp [entry, both_eq_ok_iff]

theorem readEntries_speaks {members : List (Scalar × Value)} (h : ∀ m ∈ members, Speaks (read m.2)) :
    Speaks (readEntries read members) := by
  induction members with
  | nil => exact speaks_ok _
  | cons m rest ih =>
    have hentry : Speaks (entry m.1 (read m.2)) :=
      under_speaks_iff.mpr (both_speaks (under_speaks_iff.mpr (textOf_told m.1).1) (h m List.mem_cons_self))
    exact cons_speaks hentry (ih fun m' hm' => h m' (List.mem_cons_of_mem _ hm'))

theorem readEntries_trips_iff {members : List (Scalar × Value)} :
    Trips (readEntries read members) ↔ ∃ m ∈ members, Trips (read m.2) := by
  induction members with
  | nil => simp [readEntries]
  | cons m rest ih =>
    have hcons : readEntries read (m :: rest) = cons (entry m.1 (read m.2)) (readEntries read rest) := rfl
    simp [hcons, ih, entry, (textOf_told m.1).2]

/-- The entries that are read stand for the members one by one. -/
theorem readEntries_eq_ok_iff {members : List (Scalar × Value)} {xs : List (String × α)} :
    readEntries read members = .ok xs ↔
      List.Forall₂ (fun m p => textOf m.1 = .ok p.1 ∧ read m.2 = .ok p.2) members xs := by
  induction members generalizing xs with
  | nil =>
    have hnil : readEntries read [] = .ok [] := rfl
    rw [hnil, List.forall₂_nil_left_iff, Except.ok.injEq, eq_comm]
  | cons m rest ih =>
    have hcons : readEntries read (m :: rest) = cons (entry m.1 (read m.2)) (readEntries read rest) := rfl
    simp only [hcons, cons_eq_ok_iff, List.forall₂_cons_left_iff, entry_eq_ok_iff, ih, exists_and_left]

theorem of_mem_readEntries {members : List (Scalar × Value)} {xs : List (String × α)}
    (h : readEntries read members = .ok xs) {p : String × α} (hp : p ∈ xs) :
    ∃ m ∈ members, textOf m.1 = .ok p.1 ∧ read m.2 = .ok p.2 :=
  (Rearranged.of_forall₂ (readEntries_eq_ok_iff.mp h)).exists_left hp

end Members

/-! ### Fields of tables and columns -/

section Fields

variable {α β : Type} {members : List (Scalar × Value)}

theorem readConstant_told (v : Value) : Told (readConstant v) := by
  have hrefused : ∀ found : List Fault, found ≠ [] → Told (.error (.faults found) : Reading Constant) :=
    fun found hfound => ⟨by simpa [Speaks] using hfound, by simp [Trips]⟩
  cases v with
  | scalar s => cases s <;> first | exact told_ok _ | exact hrefused _ (List.cons_ne_nil _ _)
  | _ => exact hrefused _ (List.cons_ne_nil _ _)

theorem readConstants_told : Told (readConstants members) :=
  (optional_told (nullable_told readConstant_told)).both
    ((optional_told (nullable_told (list_told readConstant_told))).both (optional_told (nullable_told text_told)))

theorem readLiteral_told : Told (readLiteral members) := readConstants_told.map _

theorem readString_told : Told (readString members) :=
  (readConstants_told.both (optional_told (nullable_told (among_told formats)))).map _

theorem readRef_told : Told (readRef members) := required_told text_told

theorem readType_told : Told (readType members) := required_told (among_told _)

theorem readPrimaryKey_told : Told (readPrimaryKey members) := by
  unfold readPrimaryKey
  split
  · exact (nullable_told text_told _).under _
  · exact optional_told (nullable_told text_told)

@[simp] theorem tagged_speaks_iff {tag : Tag} {column : α → β} {r : Reading α} :
    Speaks (tagged tag column r) ↔ Speaks r := by
  simp [tagged]

@[simp] theorem tagged_trips_iff {tag : Tag} {column : α → β} {r : Reading α} :
    Trips (tagged tag column r) ↔ Trips r := by
  simp [tagged]

theorem tagged_eq_ok_iff {tag : Tag} {column : α → β} {r : Reading α} {y : β} :
    tagged tag column r = .ok y ↔ ∃ x, r = .ok x ∧ column x = y := by
  simp [tagged, map_eq_ok_iff]

theorem present_speaks {name : String} {found : Option (Reading α)} (h : ∀ r, found = some r → Speaks r) :
    Speaks (present name found) := by
  cases found <;> simp_all [present]

@[simp] theorem present_trips_iff {name : String} {found : Option (Reading α)} :
    Trips (present name found) ↔ ∃ r, found = some r ∧ Trips r := by
  cases found <;> simp [present]

theorem present_eq_ok_iff {name : String} {found : Option (Reading α)} {x : α} :
    present name found = .ok x ↔ found = some (.ok x) := by
  cases found <;> simp [present, fault]

theorem assemble_speaks {properties : Option (Reading (List (String × α)))}
    (h : ∀ r, properties = some r → Speaks r) : Speaks (assemble members properties) :=
  map_speaks_iff.mpr (both_speaks readType_told.1 (both_speaks (present_speaks h)
    (both_speaks (optional_told (nullable_told (list_told text_told))).1 readPrimaryKey_told.1)))

theorem assemble_trips_iff {properties : Option (Reading (List (String × α)))} :
    Trips (assemble members properties) ↔ ∃ r, properties = some r ∧ Trips r := by
  have hrequired : ¬Trips (optional members "required" none (nullable (list text))) :=
    (optional_told (nullable_told (list_told text_told))).2
  simp [assemble, readType_told.2, readPrimaryKey_told.2, hrequired]

theorem properties_of_assemble {properties : Option (Reading (List (String × α)))} {t : TableOf α}
    (h : assemble members properties = .ok t) : properties = some (.ok t.properties) := by
  obtain ⟨⟨_, found, required, primaryKey⟩, hparts, rfl⟩ := map_eq_ok_iff.mp h
  exact present_eq_ok_iff.mp (both_eq_ok_iff.mp (both_eq_ok_iff.mp hparts).2).1

end Fields

/-! ### Columns -/

/-- The type that tells what kind of column it is; a reference has none that counts. -/
def kindType? (members : List (Scalar × Value)) : Option Value :=
  if (member? members "$ref").isSome then none else member? members "type"

/-- Lists, maps and sets, which cannot be looked up. -/
def IsCompound : Value → Prop
  | .list _ | .map _ | .set _ => True
  | _ => False

/-- Columns of type array. -/
def IsArrayColumn : Value → Prop
  | .map members => kindType? members = some (.text "array")
  | _ => False

/-- Columns that have a list, a map or a set as their type, or hold such a column: a table among its
properties, an array as its items if these are no array again. -/
inductive CompoundTyped : Value → Prop
  | here {members : List (Scalar × Value)} {type : Value} (htype : kindType? members = some type)
      (hcompound : IsCompound type) : CompoundTyped (.map members)
  | property {members properties : List (Scalar × Value)} {m : Scalar × Value}
      (htype : kindType? members = some (.text "object"))
      (hproperties : member? members "properties" = some (.map properties)) (hm : m ∈ properties)
      (h : CompoundTyped m.2) : CompoundTyped (.map members)
  | items {members : List (Scalar × Value)} {items : Value} (htype : kindType? members = some (.text "array"))
      (hitems : member? members "items" = some items) (harray : ¬IsArrayColumn items)
      (h : CompoundTyped items) : CompoundTyped (.map members)

section Tags

variable {members : List (Scalar × Value)}

theorem tagOf_speaks : Speaks (tagOf members) := by
  unfold tagOf
  split
  · exact speaks_ok _
  · split <;> simp [Speaks]

theorem tagOf_trips_iff : Trips (tagOf members) ↔ ∃ type, kindType? members = some type ∧ IsCompound type := by
  unfold tagOf kindType?
  cases href : member? members "$ref" with
  | some v => simp
  | none =>
    cases htype : member? members "type" with
    | none => simp
    | some type =>
      cases type with
      | scalar s => cases s <;> simp [IsCompound]
      | _ => simp [IsCompound, Trips]

private theorem tagOf_eq_of_text {s : String} (h : kindType? members = some (.text s)) :
    tagOf members = .ok (if s = "boolean" ∨ s = "number" ∨ s = "integer" then some .literal
      else if s = "string" then some .string else if s = "array" then some .array
      else if s = "object" then some .object else none) := by
  unfold kindType? at h
  split at h
  · cases h
  · next href => simp [tagOf, Option.not_isSome_iff_eq_none.mp href, h]

private theorem kindType?_eq_text_of_tagOf {tag : Tag} (h : tagOf members = .ok (some tag)) (htag : tag ≠ .ref) :
    ∃ s, kindType? members = some (.text s) := by
  unfold tagOf at h
  unfold kindType?
  cases href : member? members "$ref" with
  | some v => simp_all
  | none =>
    cases htype : member? members "type" with
    | none => simp_all
    | some type =>
      cases type with
      | scalar s => cases s <;> simp_all
      | _ => simp_all

/-- The tags of strings, arrays and tables are spelled like their types. -/
private theorem tagOf_eq_iff {tag : Tag} (htag : tag = .string ∨ tag = .array ∨ tag = .object) :
    tagOf members = .ok (some tag) ↔ kindType? members = some (.text tag.name) := by
  constructor
  · intro h
    have hne : tag ≠ .ref := by rcases htag with rfl | rfl | rfl <;> simp
    obtain ⟨s, hs⟩ := kindType?_eq_text_of_tagOf h hne
    rw [tagOf_eq_of_text hs] at h
    rcases htag with rfl | rfl | rfl <;> grind [Tag.name]
  · intro h
    rw [tagOf_eq_of_text h]
    rcases htag with rfl | rfl | rfl <;> simp [Tag.name]

theorem tagOf_eq_string_iff : tagOf members = .ok (some .string) ↔ kindType? members = some (.text "string") :=
  tagOf_eq_iff (.inl rfl)

theorem tagOf_eq_array_iff : tagOf members = .ok (some .array) ↔ kindType? members = some (.text "array") :=
  tagOf_eq_iff (.inr (.inl rfl))

theorem tagOf_eq_object_iff : tagOf members = .ok (some .object) ↔ kindType? members = some (.text "object") :=
  tagOf_eq_iff (.inr (.inr rfl))

theorem tagOf_eq_literal_iff : tagOf members = .ok (some .literal) ↔
    ∃ s, kindType? members = some (.text s) ∧ (s = "boolean" ∨ s = "number" ∨ s = "integer") := by
  constructor
  · intro h
    obtain ⟨s, hs⟩ := kindType?_eq_text_of_tagOf h (by simp)
    rw [tagOf_eq_of_text hs] at h
    exact ⟨s, hs, by grind⟩
  · rintro ⟨s, hs, htype⟩
    rw [tagOf_eq_of_text hs, if_pos htype]

theorem tagOf_eq_ref_iff : tagOf members = .ok (some .ref) ↔ ∃ v, member? members "$ref" = some v := by
  unfold tagOf
  cases href : member? members "$ref" with
  | some v => simp
  | none =>
    -- no type has the tag of references
    split <;> grind

theorem kindType?_eq_some_iff {type : Value} :
    kindType? members = some type ↔ member? members "$ref" = none ∧ member? members "type" = some type := by
  unfold kindType?
  split
  · next href => simp [Option.isSome_iff_ne_none.mp href]
  · next href => simp [Option.not_isSome_iff_eq_none.mp href]

end Tags

section Columns

variable {members : List (Scalar × Value)}

/-- What a column can be read from. -/
theorem readColumn_cases {v : Value} {column : Column} (h : readColumn v = .ok column) :
    (∃ pointer, column = .ref pointer) ∨ (∃ c, column = .value c) ∨
      (∃ members w items, v = .map members ∧ member? members "items" = some w ∧ readItems w = .ok items ∧
        column = .array items) ∨
      ∃ members t, v = .map members ∧ assemble members (propertiesIn members) = .ok t ∧ column = .table t := by
  cases v with
  | map members =>
    rw [readColumn] at h
    generalize tagOf members = found at h
    rcases found with e | (_ | tag)
    · cases h
    · cases h
    · cases tag with
      | ref =>
        obtain ⟨p, -, rfl⟩ := tagged_eq_ok_iff.mp h
        exact .inl ⟨p, rfl⟩
      | literal =>
        obtain ⟨c, -, rfl⟩ := tagged_eq_ok_iff.mp h
        exact .inr (.inl ⟨c, rfl⟩)
      | string =>
        obtain ⟨c, -, rfl⟩ := tagged_eq_ok_iff.mp h
        exact .inr (.inl ⟨c, rfl⟩)
      | array =>
        obtain ⟨items, hitems, rfl⟩ := tagged_eq_ok_iff.mp h
        rw [present_eq_ok_iff, itemsIn_eq] at hitems
        obtain ⟨w, hw, hread⟩ := Option.map_eq_some_iff.mp hitems
        exact .inr (.inr (.inl ⟨members, w, items, rfl, hw, hread, rfl⟩))
      | object =>
        obtain ⟨t, ht, rfl⟩ := tagged_eq_ok_iff.mp h
        exact .inr (.inr (.inr ⟨members, t, rfl, ht, rfl⟩))
  | _ => cases h

/-- What items can be read from. -/
theorem readItems_cases {v : Value} {items : Items} (h : readItems v = .ok items) :
    (∃ pointer, items = .ref pointer) ∨ (∃ c, items = .value c) ∨
      ∃ members t, v = .map members ∧ assemble members (propertiesIn members) = .ok t ∧ items = .table t := by
  cases v with
  | map members =>
    rw [readItems] at h
    generalize tagOf members = found at h
    rcases found with e | (_ | tag)
    · cases h
    · cases h
    · cases tag with
      | ref =>
        obtain ⟨p, -, rfl⟩ := tagged_eq_ok_iff.mp h
        exact .inl ⟨p, rfl⟩
      | literal =>
        obtain ⟨c, -, rfl⟩ := tagged_eq_ok_iff.mp h
        exact .inr (.inl ⟨c, rfl⟩)
      | string =>
        obtain ⟨c, -, rfl⟩ := tagged_eq_ok_iff.mp h
        exact .inr (.inl ⟨c, rfl⟩)
      | array => cases h
      | object =>
        obtain ⟨t, ht, rfl⟩ := tagged_eq_ok_iff.mp h
        exact .inr (.inr ⟨members, t, rfl, ht, rfl⟩)
  | _ => cases h

theorem readProperties_trips_iff {v : Value} :
    Trips (readProperties v) ↔ ∃ properties, v = .map properties ∧ ∃ m ∈ properties, Trips (readColumn m.2) := by
  cases v with
  | map properties => simp [readProperties, readColumns_eq, readEntries_trips_iff]
  | _ => simp [readProperties]

private theorem readTableFields_trips_iff :
    Trips (assemble members (propertiesIn members)) ↔ ∃ properties,
      member? members "properties" = some (.map properties) ∧ ∃ m ∈ properties, Trips (readColumn m.2) := by
  simp only [propertiesIn_eq, assemble_trips_iff, Option.map_eq_some_iff]
  constructor
  · rintro ⟨-, ⟨v, hv, rfl⟩, htrips⟩
    obtain ⟨properties, rfl, hm⟩ := readProperties_trips_iff.mp htrips
    exact ⟨properties, hv, hm⟩
  · rintro ⟨properties, hv, hm⟩
    exact ⟨_, ⟨_, hv, rfl⟩, readProperties_trips_iff.mpr ⟨properties, rfl, hm⟩⟩

/-- Where the reading of a column that is a map comes to a failed look-up: at its type, or below it. -/
theorem readColumn_trips_iff_below :
    Trips (readColumn (.map members)) ↔ (∃ type, kindType? members = some type ∧ IsCompound type) ∨
      (kindType? members = some (.text "array") ∧
        ∃ items, member? members "items" = some items ∧ Trips (readItems items)) ∨
      (kindType? members = some (.text "object") ∧ ∃ properties,
        member? members "properties" = some (.map properties) ∧ ∃ m ∈ properties, Trips (readColumn m.2)) := by
  rw [← tagOf_trips_iff, ← tagOf_eq_array_iff, ← tagOf_eq_object_iff, readColumn]
  rcases htag : tagOf members with e | (_ | tag)
  · simp [Trips]
  · simp
  · cases tag with
    | array => simp [itemsIn_eq]
    | object => simp [readTableFields_trips_iff]
    | _ => simp [readRef_told.2, readLiteral_told.2, readString_told.2]

/-- Items are read as columns are, except that an array is not looked into. -/
theorem readItems_trips_iff {v : Value} : Trips (readItems v) ↔ Trips (readColumn v) ∧ ¬IsArrayColumn v := by
  cases v with
  | map members =>
    rw [IsArrayColumn, ← tagOf_eq_array_iff, readColumn, readItems]
    rcases tagOf members with e | (_ | tag)
    · simp [Trips]
    · simp
    · cases tag <;> simp
  | _ => simp [readItems, readColumn]

/-- The reading of a column comes to a failed look-up exactly where a type is a list, a map or a set. -/
theorem readColumn_trips_iff (v : Value) : Trips (readColumn v) ↔ CompoundTyped v := by
  constructor
  · intro h
    induction v using size_induction with
    | step v ih =>
      cases v with
      | map members =>
        rcases readColumn_trips_iff_below.mp h with ⟨type, htype, hcompound⟩ | ⟨htype, items, hitems, htrips⟩ |
          ⟨htype, properties, hproperties, m, hm, htrips⟩
        · exact .here htype hcompound
        · obtain ⟨htrips, harray⟩ := readItems_trips_iff.mp htrips
          exact .items htype hitems harray (ih items (sizeOf_member?_lt hitems) htrips)
        · have hlt : sizeOf m.2 < sizeOf (Value.map members) :=
            Nat.lt_trans (sizeOf_lt_of_mem hm) (sizeOf_member?_lt hproperties)
          exact .property htype hproperties hm (ih m.2 hlt htrips)
      | _ => simp [readColumn] at h
  · intro h
    induction h with
    | here htype hcompound => exact readColumn_trips_iff_below.mpr (.inl ⟨_, htype, hcompound⟩)
    | property htype hproperties hm _ ih =>
      exact readColumn_trips_iff_below.mpr (.inr (.inr ⟨htype, _, hproperties, _, hm, ih⟩))
    | items htype hitems harray _ ih =>
      exact readColumn_trips_iff_below.mpr (.inr (.inl ⟨htype, _, hitems, readItems_trips_iff.mpr ⟨ih, harray⟩⟩))

private theorem readProperties_speaks {v : Value}
    (h : ∀ properties, v = .map properties → ∀ m ∈ properties, Speaks (readColumn m.2)) :
    Speaks (readProperties v) := by
  cases v with
  | map properties =>
    rw [readProperties, map_speaks_iff, readColumns_eq]
    exact readEntries_speaks (h properties rfl)
  | _ => exact speaks_fault _

/-- A column that cannot be read has a fault, and so have items. -/
theorem readColumn_speaks (v : Value) : Speaks (readColumn v) ∧ Speaks (readItems v) := by
  induction v using size_induction with
  | step v ih =>
    cases v with
    | map members =>
      have hitems : Speaks (present "items" (itemsIn members)) := by
        refine present_speaks fun r hr => ?_
        rw [itemsIn_eq] at hr
        obtain ⟨items, hitems, rfl⟩ := Option.map_eq_some_iff.mp hr
        exact (ih items (sizeOf_member?_lt hitems)).2
      have htable : Speaks (assemble members (propertiesIn members)) := by
        refine assemble_speaks fun r hr => ?_
        rw [propertiesIn_eq] at hr
        obtain ⟨v, hv, rfl⟩ := Option.map_eq_some_iff.mp hr
        refine readProperties_speaks ?_
        rintro properties rfl m hm
        exact (ih m.2 (Nat.lt_trans (sizeOf_lt_of_mem hm) (sizeOf_member?_lt hv))).1
      have htag : Speaks (tagOf members) := tagOf_speaks
      rw [readColumn, readItems]
      rcases htag' : tagOf members with e | (_ | tag)
      · rw [htag'] at htag
        exact ⟨by simpa [Speaks] using htag, by simpa [Speaks] using htag⟩
      · exact ⟨speaks_fault _, speaks_fault _⟩
      · cases tag <;> simp [readRef_told.1, readLiteral_told.1, readString_told.1, hitems, htable]
    | _ => exact ⟨speaks_fault _, speaks_fault _⟩

end Columns

/-! ### Documents -/

/-- Documents with a column whose type is a list, a map or a set. The tables at the root are read as tables
whatever their type. -/
def HasCompoundType (document : Value) : Prop :=
  ∃ members tables table properties, document = .map members ∧
    member? members "properties" = some (.map tables) ∧ (∃ t ∈ tables, t.2 = .map table) ∧
    member? table "properties" = some (.map properties) ∧ ∃ m ∈ properties, CompoundTyped m.2

/-- What a table at the root is read from. -/
theorem readTable_cases {v : Value} {t : Table} (h : readTable v = .ok t) :
    ∃ members, v = .map members ∧ assemble members (propertiesIn members) = .ok t := by
  cases v with
  | map members => exact ⟨members, rfl, h⟩
  | _ => cases h

/-- What a shape is read from. -/
theorem read_cases {document : Value} {db : Database} (h : read document = .ok db) :
    ∃ members tables found, document = .map members ∧ member? members "properties" = some (.map tables) ∧
      readEntries readTable tables = .ok found ∧ db.tables = named found := by
  cases document with
  | map members =>
    obtain ⟨⟨_, tables⟩, hparts, rfl⟩ := map_eq_ok_iff.mp h
    obtain ⟨v, hv, hread⟩ := required_eq_ok_iff.mp (both_eq_ok_iff.mp hparts).2
    cases v with
    | map entries =>
      obtain ⟨found, hfound, hnamed⟩ := map_eq_ok_iff.mp hread
      exact ⟨members, entries, found, rfl, hv, hfound, hnamed.symm⟩
    | _ => cases hread
  | _ => cases h

theorem readTable_trips_iff {v : Value} : Trips (readTable v) ↔ ∃ table properties, v = .map table ∧
    member? table "properties" = some (.map properties) ∧ ∃ m ∈ properties, CompoundTyped m.2 := by
  cases v with
  | map table => simp [readTable, readTableFields_trips_iff, readColumn_trips_iff]
  | _ => simp [readTable]

theorem readTables_trips_iff {v : Value} :
    Trips (readTables v) ↔ ∃ tables, v = .map tables ∧ ∃ t ∈ tables, Trips (readTable t.2) := by
  cases v with
  | map tables =>
    have heq : readTables (.map tables) = (readEntries readTable tables).map named := rfl
    simp [heq, readEntries_trips_iff]
  | _ => simp [readTables]

/-- The reading of a document comes to a failed look-up exactly when it has a column whose type is a list, a map
or a set. -/
theorem read_trips_iff (document : Value) : Trips (read document) ↔ HasCompoundType document := by
  unfold HasCompoundType
  cases document with
  | map members =>
    simp only [read, map_trips_iff, both_trips_iff, readType_told.2, false_or, required_trips_iff,
      readTables_trips_iff, readTable_trips_iff]
    constructor
    · rintro ⟨_, hv, tables, rfl, t, ht, table, properties, htable, hproperties, hm⟩
      exact ⟨members, tables, table, properties, rfl, hv, ⟨t, ht, htable⟩, hproperties, hm⟩
    · rintro ⟨_, tables, table, properties, h, hv, ⟨t, ht, htable⟩, hproperties, hm⟩
      cases h
      exact ⟨_, hv, tables, rfl, t, ht, table, properties, htable, hproperties, hm⟩
  | _ => simp [read]

theorem readTable_speaks (v : Value) : Speaks (readTable v) := by
  cases v with
  | map table =>
    refine assemble_speaks fun r hr => ?_
    rw [propertiesIn_eq] at hr
    obtain ⟨v, -, rfl⟩ := Option.map_eq_some_iff.mp hr
    exact readProperties_speaks fun _ _ m _ => (readColumn_speaks m.2).1
  | _ => exact speaks_fault _

/-- A document that describes no shape has a fault. -/
theorem read_speaks (document : Value) : Speaks (read document) := by
  cases document with
  | map members =>
    refine map_speaks_iff.mpr (both_speaks readType_told.1 (required_speaks fun v => ?_))
    cases v with
    | map tables => exact map_speaks_iff.mpr (readEntries_speaks fun t _ => readTable_speaks t.2)
    | _ => exact speaks_fault _
  | _ => exact speaks_fault _

end ShapeTables.Shape
