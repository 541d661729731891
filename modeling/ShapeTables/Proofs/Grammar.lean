import ShapeTables.Proofs.Answers
import ShapeTables.Proofs.MemberOrder

/-! The grammar of shapes. It says by which JSON value a shape is written: a table by a map of type object with a map of
properties, a column by its pointer if it has one, and else by what its type asks for. Names stand in the document in
the order of the shape, and constants with the values that they have there. A document is read as the shape that it
writes, and if it writes none, it is refused with a fault or it has a type that cannot be looked up. -/
namespace ShapeTables.Shape

open Reading

/-! ### The grammar -/

section Grammar

variable {α : Type} (members : List (Scalar × Value))

/-- A field that may be absent or null. -/
inductive OptionalField (R : α → Value → Prop) (name : String) : Option α → Prop where
  | absent (h : member? members name = none) : OptionalField R name none
  | null (h : member? members name = some .null) : OptionalField R name none
  | given {v : Value} {x : α} (h : member? members name = some v) (hx : R x v) : OptionalField R name (some x)

def TextWrittenAs (s : String) (v : Value) : Prop := v = .text s

def ListWrittenAs (R : α → Value → Prop) (xs : List α) (v : Value) : Prop :=
  ∃ items, v = .list items ∧ List.Forall₂ R xs items

/-- A truth value, a number with or without a fraction, and a text are constants of different kinds. -/
inductive Constant.WrittenAs : Constant → Value → Prop where
  | bool (b : Bool) : WrittenAs (.bool b) (.bool b)
  | int (n : Int) : WrittenAs (.int n) (.int n)
  | float (x : Float) : WrittenAs (.float x) (.float x)
  | nan (mark : Nat) : WrittenAs (.float notANumber) (.nan mark)
  | text (s : String) : WrittenAs (.text s) (.text s)

def Format.WrittenAs (f : Format) (v : Value) : Prop := v = .text f.name

inductive ValueType.WrittenIn : ValueType → Prop where
  | boolean (h : member? members "type" = some (.text "boolean")) : WrittenIn .boolean
  | number (h : member? members "type" = some (.text "number")) : WrittenIn .number
  | integer (h : member? members "type" = some (.text "integer")) : WrittenIn .integer
  /-- Only a string has a format. -/
  | string {format : Option Format} (h : member? members "type" = some (.text "string"))
    (hformat : OptionalField members Format.WrittenAs "format" format) : WrittenIn (.string format)

structure ValueColumn.WrittenIn (c : ValueColumn) : Prop where
  type : c.type.WrittenIn members
  default : OptionalField members Constant.WrittenAs "default" c.default
  enum : OptionalField members (ListWrittenAs Constant.WrittenAs) "enum" c.enum
  description : OptionalField members TextWrittenAs "description" c.description

/-- The key of a table, by the first of two fields that is there. -/
inductive KeyWrittenIn : Option String → Prop where
  | named {key : Option String} (h : member? members "x-primaryKey" ≠ none)
    (hkey : OptionalField members TextWrittenAs "x-primaryKey" key) : KeyWrittenIn key
  | plain {key : Option String} (h : member? members "x-primaryKey" = none)
    (hkey : OptionalField members TextWrittenAs "primary_key" key) : KeyWrittenIn key

/-- A named thing is a member of a map, under its name. -/
inductive Entry (R : α → Value → Prop) : String × α → Scalar × Value → Prop where
  | intro (name : String) {x : α} {v : Value} (h : R x v) : Entry R (name, x) (.text name, v)

inductive TableOf.WrittenAs (R : α → Value → Prop) : TableOf α → Value → Prop where
  | intro {members entries : List (Scalar × Value)} {properties : List (String × α)} {required : Option (List String)}
    {primaryKey : Option String} (htype : member? members "type" = some (.text "object"))
    (hentries : member? members "properties" = some (.map entries))
    (hproperties : List.Forall₂ (Entry R) properties entries)
    (hrequired : OptionalField members (ListWrittenAs TextWrittenAs) "required" required)
    (hkey : KeyWrittenIn members primaryKey) : WrittenAs R ⟨properties, required, primaryKey⟩ (.map members)

/-- Items are a reference, whatever else their map has, or they have values, or they are a table. -/
inductive ItemsOf.WrittenAs (R : α → Value → Prop) : ItemsOf α → Value → Prop where
  | ref {members : List (Scalar × Value)} {pointer : String} (href : member? members "$ref" = some (.text pointer)) :
    WrittenAs R (.ref pointer) (.map members)
  | value {members : List (Scalar × Value)} {c : ValueColumn} (href : member? members "$ref" = none)
    (h : c.WrittenIn members) : WrittenAs R (.value c) (.map members)
  | table {members : List (Scalar × Value)} {t : TableOf α} (href : member? members "$ref" = none)
    (h : t.WrittenAs R (.map members)) : WrittenAs R (.table t) (.map members)

inductive Column.WrittenAs : Column → Value → Prop where
  | ref {members : List (Scalar × Value)} {pointer : String} (href : member? members "$ref" = some (.text pointer)) :
    WrittenAs (.ref pointer) (.map members)
  | value {members : List (Scalar × Value)} {c : ValueColumn} (href : member? members "$ref" = none)
    (h : c.WrittenIn members) : WrittenAs (.value c) (.map members)
  | table {members : List (Scalar × Value)} {t : Table} (href : member? members "$ref" = none)
    (h : TableOf.WrittenAs Column.WrittenAs t (.map members)) : WrittenAs (.table t) (.map members)
  | array {members : List (Scalar × Value)} {v : Value} {items : Items} (href : member? members "$ref" = none)
    (htype : member? members "type" = some (.text "array")) (hitems : member? members "items" = some v)
    (h : ItemsOf.WrittenAs Column.WrittenAs items v) : WrittenAs (.array items) (.map members)

/-- At the root there are tables only; what they have besides the fields of tables is of no account. -/
inductive Database.WrittenAs : Database → Value → Prop where
  | intro {members entries : List (Scalar × Value)} {tables : List (String × Table)}
    (htype : member? members "type" = some (.text "object"))
    (hentries : member? members "properties" = some (.map entries))
    (htables : List.Forall₂ (Entry (TableOf.WrittenAs Column.WrittenAs)) tables entries) :
    WrittenAs ⟨tables⟩ (.map members)

end Grammar

/-! ### Fields -/

section Fields

variable {α : Type} {read : Value → Reading α} {R : α → Value → Prop} {members : List (Scalar × Value)}

/-- A reader that reads just what is written. -/
def Reads (read : Value → Reading α) (R : α → Value → Prop) : Prop :=
  ∀ v, v.IsJson → ∀ x, read v = .ok x ↔ R x v

theorem reads_text : Reads text TextWrittenAs := by
  intro v hjson s
  cases v with
  | scalar scalar =>
    cases scalar with
    | bytes octets => cases hjson
    | _ => simp [text, textOf, TextWrittenAs, fault]
  | _ => simp [text, TextWrittenAs, fault]

theorem reads_readConstant : Reads readConstant Constant.WrittenAs := by
  intro v _ c
  constructor
  · intro h
    cases v with
    | scalar s => cases s <;> cases h <;> constructor
    | _ => cases h
  · rintro (_ | _ | _ | _ | _) <;> rfl

theorem reads_formats : Reads (among formats) Format.WrittenAs := by
  intro v _ f
  constructor
  · intro h
    unfold among at h
    split at h
    · split at h
      · next found hfound =>
        cases h
        have hmem := mem_of_lookup_eq_some hfound
        obtain ⟨f', -, hf'⟩ := List.mem_map.mp hmem
        cases hf'
        rfl
      · cases h
    · cases h
  · rintro rfl
    cases f <;> rfl

theorem allJson_iff {items : List Value} : allJson items ↔ ∀ v ∈ items, v.IsJson := by
  induction items with
  | nil => simp [allJson]
  | cons v rest ih => rw [allJson, ih, List.forall_mem_cons]

theorem Reads.list (h : Reads read R) : Reads (list read) (ListWrittenAs R) := by
  have hitems : ∀ items : List Value, (∀ v ∈ items, v.IsJson) → ∀ start xs,
      itemsFrom read start items = .ok xs ↔ List.Forall₂ R xs items := by
    intro items
    induction items with
    | nil => simp [itemsFrom, eq_comm]
    | cons v rest ih =>
      intro hjson start xs
      obtain ⟨hv, hrest⟩ := List.forall_mem_cons.mp hjson
      rw [itemsFrom, cons_eq_ok_iff, List.forall₂_cons_right_iff]
      simp only [under_eq_ok_iff, h v hv, ih hrest, exists_and_left]
  intro v hjson xs
  cases v with
  | list items => simp [Reading.list, ListWrittenAs, hitems items (allJson_iff.mp hjson)]
  | _ => simp [Reading.list, ListWrittenAs, fault]

/-- A field that may be null is read as it is written, unless null itself would be read as something. -/
theorem Reads.optional (h : Reads read R) (hnull : ∀ x, ¬R x .null) (hjson : (Value.map members).IsJson) (name : String)
    (found : Option α) :
    optional members name none (nullable read) = .ok found ↔ OptionalField members R name found := by
  unfold Reading.optional
  cases hmember : member? members name with
  | none =>
    constructor
    · intro hfound
      cases hfound
      exact .absent hmember
    · rintro (- | hv | ⟨hv, -⟩)
      · rfl
      · cases hmember.symm.trans hv
      · cases hmember.symm.trans hv
  | some v =>
    have hv := h v (isJson_of_member? hjson hmember)
    rw [under_eq_ok_iff]
    unfold nullable
    split
    · constructor
      · intro hfound
        cases hfound
        exact .null hmember
      · rintro (hw | - | ⟨hw, hx⟩)
        · rfl
        · rfl
        · cases hmember.symm.trans hw
          exact absurd hx (hnull _)
    · next hne =>
      rw [map_eq_ok_iff]
      constructor
      · rintro ⟨x, hx, rfl⟩
        exact .given hmember ((hv x).mp hx)
      · rintro (hw | hw | ⟨hw, hx⟩)
        · cases hmember.symm.trans hw
        · exact absurd (Option.some.inj (hmember.symm.trans hw)) hne
        · cases hmember.symm.trans hw
          exact ⟨_, (hv _).mpr hx, rfl⟩

theorem readPrimaryKey_eq_ok_iff (hjson : (Value.map members).IsJson) {key : Option String} :
    readPrimaryKey members = .ok key ↔ KeyWrittenIn members key := by
  have hread := fun name => reads_text.optional (fun x => by simp [TextWrittenAs]) hjson name key
  cases hmember : member? members "x-primaryKey" with
  | none =>
    have heq : readPrimaryKey members = optional members "primary_key" none (nullable text) := by
      simp [readPrimaryKey, hmember]
    rw [heq, hread]
    constructor
    · exact .plain hmember
    · rintro (⟨hne, -⟩ | ⟨-, hkey⟩)
      · exact absurd hmember hne
      · exact hkey
  | some v =>
    have heq : readPrimaryKey members = optional members "x-primaryKey" none (nullable text) := by
      simp [readPrimaryKey, Reading.optional, hmember]
    rw [heq, hread]
    constructor
    · exact .named (by simp [hmember])
    · rintro (⟨-, hkey⟩ | ⟨hnone, -⟩)
      · exact hkey
      · cases hmember.symm.trans hnone

theorem readType_eq_ok_iff : readType members = .ok () ↔ member? members "type" = some (.text "object") := by
  rw [readType, required_eq_ok_iff]
  constructor
  · rintro ⟨v, hv, h⟩
    unfold among at h
    split at h
    · split at h
      · next s x hfound =>
        obtain ⟨rfl, -⟩ := Prod.mk.inj (List.mem_singleton.mp (mem_of_lookup_eq_some hfound))
        exact hv
      · cases h
    · cases h
  · intro h
    exact ⟨_, h, rfl⟩

end Fields

/-! ### Tables and columns -/

section Columns

variable {α : Type} {read : Value → Reading α} {R : α → Value → Prop} {members : List (Scalar × Value)}

/-- Things are read in the order of the members, since these have different names. -/
theorem named_eq_ok_iff (hjson : (Value.map members).IsJson) (h : ∀ m ∈ members, ∀ x, read m.2 = .ok x ↔ R x m.2)
    {things : List (String × α)} :
    (readEntries read members).map named = .ok things ↔ List.Forall₂ (Entry R) things members := by
  have hmembers := forall_isJson_of_membersJson hjson.2
  have hentries : ∀ xs, readEntries read members = .ok xs ↔ List.Forall₂ (Entry R) xs members := by
    intro xs
    rw [readEntries_eq_ok_iff]
    clear hjson
    induction members generalizing xs with
    | nil => simp
    | cons m rest ih =>
      obtain ⟨hm, hrest⟩ := List.forall_mem_cons.mp h
      obtain ⟨⟨⟨name, hname⟩, -⟩, htexts⟩ := List.forall_mem_cons.mp hmembers
      have ih := ih hrest htexts
      have hentry : ∀ p : String × α, textOf m.1 = .ok p.1 ∧ read m.2 = .ok p.2 ↔ Entry R p m := by
        obtain ⟨key, v⟩ := m
        cases hname
        intro p
        rw [hm p.2]
        constructor
        · rintro ⟨hname, hx⟩
          cases hname
          exact .intro p.1 hx
        · rintro ⟨_, hx⟩
          exact ⟨rfl, hx⟩
      simp only [List.forall₂_cons_left_iff, List.forall₂_cons_right_iff, hentry, ih]
  have hnamed : ∀ xs, readEntries read members = .ok xs → named xs = xs := fun xs hxs =>
    named_of_nodup (nodup_of_readEntries hjson.1 (fun m hm => (hmembers m hm).1) hxs)
  rw [map_eq_ok_iff, ← hentries]
  constructor
  · rintro ⟨xs, hxs, rfl⟩
    rwa [hnamed xs hxs]
  · intro hthings
    exact ⟨things, hthings, hnamed things hthings⟩

/-- The fields of a table are read as they are written if the columns in it are. -/
theorem assemble_eq_ok_iff (hjson : (Value.map members).IsJson)
    (h : ∀ entries, member? members "properties" = some (.map entries) → ∀ m ∈ entries, ∀ column,
      readColumn m.2 = .ok column ↔ column.WrittenAs m.2) {t : Table} :
    assemble members (propertiesIn members) = .ok t ↔ t.WrittenAs Column.WrittenAs (.map members) := by
  have hrequired := fun found => reads_text.list.optional (fun xs => by simp [ListWrittenAs]) hjson "required" found
  have hproperties : ∀ properties, present "properties" (propertiesIn members) = .ok properties ↔
      ∃ entries, member? members "properties" = some (.map entries) ∧
        List.Forall₂ (Entry Column.WrittenAs) properties entries := by
    intro properties
    rw [present_eq_ok_iff, propertiesIn_eq, Option.map_eq_some_iff]
    constructor
    · rintro ⟨v, hv, hread⟩
      cases v with
      | map entries =>
        rw [readProperties, readColumns_eq] at hread
        exact ⟨entries, hv, (named_eq_ok_iff (isJson_of_member? hjson hv) (h entries hv)).mp hread⟩
      | _ => cases hread
    · rintro ⟨entries, hv, hentries⟩
      refine ⟨_, hv, ?_⟩
      rw [readProperties, readColumns_eq]
      exact (named_eq_ok_iff (isJson_of_member? hjson hv) (h entries hv)).mpr hentries
  rw [assemble, map_eq_ok_iff]
  constructor
  · rintro ⟨⟨_, properties, required, primaryKey⟩, hparts, rfl⟩
    simp only [both_eq_ok_iff] at hparts
    obtain ⟨htype, hentries, hfound, hkey⟩ := hparts
    obtain ⟨entries, hv, hentries⟩ := (hproperties _).mp hentries
    exact .intro (readType_eq_ok_iff.mp htype) hv hentries ((hrequired _).mp hfound)
      ((readPrimaryKey_eq_ok_iff hjson).mp hkey)
  · rintro ⟨htype, hv, hentries, hfound, hkey⟩
    refine ⟨((), _, _, _), ?_, rfl⟩
    simp only [both_eq_ok_iff]
    exact ⟨readType_eq_ok_iff.mpr htype, (hproperties _).mpr ⟨_, hv, hentries⟩, (hrequired _).mpr hfound,
      (readPrimaryKey_eq_ok_iff hjson).mpr hkey⟩

theorem readRef_eq_ok_iff (hjson : (Value.map members).IsJson) {pointer : String} :
    readRef members = .ok pointer ↔ member? members "$ref" = some (.text pointer) := by
  rw [readRef, required_eq_ok_iff]
  constructor
  · rintro ⟨v, hv, h⟩
    rw [hv, (reads_text v (isJson_of_member? hjson hv) pointer).mp h]
  · intro h
    exact ⟨_, h, rfl⟩

theorem readConstants_eq_ok_iff (hjson : (Value.map members).IsJson) {c : ValueColumn} :
    readConstants members = .ok (c.default, c.enum, c.description) ↔
      OptionalField members Constant.WrittenAs "default" c.default ∧
        OptionalField members (ListWrittenAs Constant.WrittenAs) "enum" c.enum ∧
          OptionalField members TextWrittenAs "description" c.description := by
  have hdefault := reads_readConstant.optional (fun c => by rintro ⟨⟩) hjson "default" c.default
  have henum := reads_readConstant.list.optional (fun xs => by simp [ListWrittenAs]) hjson "enum" c.enum
  have hdescription := reads_text.optional (fun s => by simp [TextWrittenAs]) hjson "description" c.description
  rw [readConstants, both_eq_ok_iff, both_eq_ok_iff]
  simp only [hdefault, henum, hdescription]

/-- A column is read as one with values if it has no pointer and its type is that of values. -/
theorem readValue_eq_ok_iff (hjson : (Value.map members).IsJson) {c : ValueColumn} :
    (tagOf members = .ok (some .literal) ∧ readLiteral members = .ok c ∨
      tagOf members = .ok (some .string) ∧ readString members = .ok c) ↔
      member? members "$ref" = none ∧ c.WrittenIn members := by
  have hconstants := fun c => readConstants_eq_ok_iff (c := c) hjson
  have hformat := fun format => reads_formats.optional (fun f => by simp [Format.WrittenAs]) hjson "format" format
  rw [tagOf_eq_literal_iff, tagOf_eq_string_iff]
  simp only [kindType?_eq_some_iff, readLiteral, readString, map_eq_ok_iff]
  constructor
  · rintro (⟨⟨s, ⟨href, htype⟩, hs⟩, ⟨default, enum, description⟩, hread, rfl⟩ |
      ⟨⟨href, htype⟩, ⟨⟨default, enum, description⟩, format⟩, hread, rfl⟩)
    · obtain ⟨hdefault, henum, hdescription⟩ := (hconstants ⟨literalType members, default, enum, description⟩).mp hread
      refine ⟨href, ?_, hdefault, henum, hdescription⟩
      rcases hs with rfl | rfl | rfl
      · simpa [literalType, htype] using ValueType.WrittenIn.boolean htype
      · simpa [literalType, htype] using ValueType.WrittenIn.number htype
      · simpa [literalType, htype] using ValueType.WrittenIn.integer htype
    · obtain ⟨hread, hfound⟩ := both_eq_ok_iff.mp hread
      obtain ⟨hdefault, henum, hdescription⟩ := (hconstants ⟨.string format, default, enum, description⟩).mp hread
      exact ⟨href, .string htype ((hformat _).mp hfound), hdefault, henum, hdescription⟩
  · rintro ⟨href, hc⟩
    obtain ⟨type, default, enum, description⟩ := c
    have hread := (hconstants _).mpr ⟨hc.default, hc.enum, hc.description⟩
    cases hc.type with
    | boolean htype =>
      exact .inl ⟨⟨_, ⟨href, htype⟩, by simp⟩, _, hread, by simp [literalType, htype]⟩
    | number htype =>
      exact .inl ⟨⟨_, ⟨href, htype⟩, by simp⟩, _, hread, by simp [literalType, htype]⟩
    | integer htype =>
      exact .inl ⟨⟨_, ⟨href, htype⟩, by simp⟩, _, hread, by simp [literalType, htype]⟩
    | @string format htype hfound =>
      exact .inr ⟨⟨href, htype⟩, (_, format), both_eq_ok_iff.mpr ⟨hread, (hformat _).mpr hfound⟩, rfl⟩

/-- A column is read by its tag. -/
theorem readColumn_map_eq_ok_iff {column : Column} : readColumn (.map members) = .ok column ↔
    (∃ pointer, (tagOf members = .ok (some .ref) ∧ readRef members = .ok pointer) ∧ Column.ref pointer = column) ∨
      (∃ c, (tagOf members = .ok (some .literal) ∧ readLiteral members = .ok c ∨
        tagOf members = .ok (some .string) ∧ readString members = .ok c) ∧ Column.value c = column) ∨
      (∃ t, (tagOf members = .ok (some .object) ∧ assemble members (propertiesIn members) = .ok t) ∧
        Column.table t = column) ∨
      ∃ items, (tagOf members = .ok (some .array) ∧ present "items" (itemsIn members) = .ok items) ∧
        Column.array items = column := by
  rw [readColumn]
  rcases tagOf members with e | (_ | tag)
  · simp
  · simp [fault]
  · cases tag <;> simp [tagged_eq_ok_iff]

/-- Items are read by their tag, which is not that of arrays. -/
theorem readItems_map_eq_ok_iff {items : Items} : readItems (.map members) = .ok items ↔
    (∃ pointer, (tagOf members = .ok (some .ref) ∧ readRef members = .ok pointer) ∧ ItemsOf.ref pointer = items) ∨
      (∃ c, (tagOf members = .ok (some .literal) ∧ readLiteral members = .ok c ∨
        tagOf members = .ok (some .string) ∧ readString members = .ok c) ∧ ItemsOf.value c = items) ∨
      ∃ t, (tagOf members = .ok (some .object) ∧ assemble members (propertiesIn members) = .ok t) ∧
        ItemsOf.table t = items := by
  rw [readItems]
  rcases tagOf members with e | (_ | tag)
  · simp
  · simp [fault]
  · cases tag <;> simp [tagged_eq_ok_iff, fault]

/-- Columns and items are read as they are written. -/
theorem readColumn_eq_ok_iff (v : Value) : v.IsJson → (∀ column, readColumn v = .ok column ↔ column.WrittenAs v) ∧
    ∀ items, readItems v = .ok items ↔ items.WrittenAs Column.WrittenAs v := by
  induction v using size_induction with
  | step v ih =>
    intro hjson
    cases v with
    | map members =>
      have href : ∀ pointer, tagOf members = .ok (some .ref) ∧ readRef members = .ok pointer ↔
          member? members "$ref" = some (.text pointer) := by
        intro pointer
        rw [tagOf_eq_ref_iff, readRef_eq_ok_iff hjson]
        exact and_iff_right_of_imp fun h => ⟨_, h⟩
      have htable : ∀ t, tagOf members = .ok (some .object) ∧ assemble members (propertiesIn members) = .ok t ↔
          member? members "$ref" = none ∧ t.WrittenAs Column.WrittenAs (.map members) := by
        intro t
        rw [tagOf_eq_object_iff, kindType?_eq_some_iff, assemble_eq_ok_iff hjson fun entries hentries m hm =>
          (ih m.2 (Nat.lt_trans (sizeOf_lt_of_mem hm) (sizeOf_member?_lt hentries))
            (forall_isJson_of_membersJson (isJson_of_member? hjson hentries).2 m hm).2).1]
        constructor
        · rintro ⟨⟨hnone, -⟩, ht⟩
          exact ⟨hnone, ht⟩
        · rintro ⟨hnone, ht⟩
          cases ht with
          | intro htype hentries hproperties hrequired hkey =>
            exact ⟨⟨hnone, htype⟩, .intro htype hentries hproperties hrequired hkey⟩
      have hitems : ∀ items, tagOf members = .ok (some .array) ∧ present "items" (itemsIn members) = .ok items ↔
          (member? members "$ref" = none ∧ member? members "type" = some (.text "array")) ∧
            ∃ v, member? members "items" = some v ∧ items.WrittenAs Column.WrittenAs v := by
        intro items
        rw [tagOf_eq_array_iff, kindType?_eq_some_iff, present_eq_ok_iff, itemsIn_eq, Option.map_eq_some_iff]
        refine and_congr_right fun _ => exists_congr fun v => and_congr_right fun hv => ?_
        exact (ih v (sizeOf_member?_lt hv) (isJson_of_member? hjson hv)).2 items
      constructor
      · intro column
        rw [readColumn_map_eq_ok_iff]
        simp only [href, readValue_eq_ok_iff hjson, htable, hitems]
        constructor
        · rintro (⟨pointer, h, rfl⟩ | ⟨c, ⟨hnone, h⟩, rfl⟩ | ⟨t, ⟨hnone, h⟩, rfl⟩ |
            ⟨items, ⟨⟨hnone, htype⟩, v, hv, h⟩, rfl⟩)
          · exact .ref h
          · exact .value hnone h
          · exact .table hnone h
          · exact .array hnone htype hv h
        · rintro (h | ⟨hnone, h⟩ | ⟨hnone, h⟩ | ⟨hnone, htype, hv, h⟩)
          · exact .inl ⟨_, h, rfl⟩
          · exact .inr (.inl ⟨_, ⟨hnone, h⟩, rfl⟩)
          · exact .inr (.inr (.inl ⟨_, ⟨hnone, h⟩, rfl⟩))
          · exact .inr (.inr (.inr ⟨_, ⟨⟨hnone, htype⟩, _, hv, h⟩, rfl⟩))
      · intro items
        rw [readItems_map_eq_ok_iff]
        simp only [href, readValue_eq_ok_iff hjson, htable]
        constructor
        · rintro (⟨pointer, h, rfl⟩ | ⟨c, ⟨hnone, h⟩, rfl⟩ | ⟨t, ⟨hnone, h⟩, rfl⟩)
          · exact .ref h
          · exact .value hnone h
          · exact .table hnone h
        · rintro (h | ⟨hnone, h⟩ | ⟨hnone, h⟩)
          · exact .inl ⟨_, h, rfl⟩
          · exact .inr (.inl ⟨_, ⟨hnone, h⟩, rfl⟩)
          · exact .inr (.inr ⟨_, ⟨hnone, h⟩, rfl⟩)
    | _ =>
      constructor
      · intro column
        constructor
        · rintro ⟨⟩
        · rintro ⟨⟩
      · intro items
        constructor
        · rintro ⟨⟩
        · rintro ⟨⟩

end Columns

/-! ### Documents -/

theorem readTable_eq_ok_iff {v : Value} (hjson : v.IsJson) {t : Table} :
    readTable v = .ok t ↔ t.WrittenAs Column.WrittenAs v := by
  cases v with
  | map members =>
    refine assemble_eq_ok_iff hjson fun entries hentries m hm => ?_
    exact (readColumn_eq_ok_iff m.2 (forall_isJson_of_membersJson (isJson_of_member? hjson hentries).2 m hm).2).1
  | _ =>
    constructor
    · rintro ⟨⟩
    · rintro ⟨⟩

/-- A document is read as the shape that it writes. -/
theorem read_eq_ok_iff {document : Value} (hjson : document.IsJson) {db : Database} :
    read document = .ok db ↔ db.WrittenAs document := by
  cases document with
  | map members =>
    have htables : ∀ tables, required members "properties" readTables = .ok tables ↔
        ∃ entries, member? members "properties" = some (.map entries) ∧
          List.Forall₂ (Entry (TableOf.WrittenAs Column.WrittenAs)) tables entries := by
      intro tables
      have hentries : ∀ entries, member? members "properties" = some (.map entries) →
          (readTables (.map entries) = .ok tables ↔
            List.Forall₂ (Entry (TableOf.WrittenAs Column.WrittenAs)) tables entries) := by
        intro entries hv
        have hjson := isJson_of_member? hjson hv
        exact named_eq_ok_iff hjson fun m hm t => readTable_eq_ok_iff (forall_isJson_of_membersJson hjson.2 m hm).2
      rw [required_eq_ok_iff]
      constructor
      · rintro ⟨v, hv, h⟩
        cases v with
        | map entries => exact ⟨entries, hv, (hentries entries hv).mp h⟩
        | _ => cases h
      · rintro ⟨entries, hv, h⟩
        exact ⟨_, hv, (hentries entries hv).mpr h⟩
    rw [read, map_eq_ok_iff]
    constructor
    · rintro ⟨⟨_, tables⟩, hparts, rfl⟩
      obtain ⟨htype, htables'⟩ := both_eq_ok_iff.mp hparts
      obtain ⟨entries, hv, h⟩ := (htables tables).mp htables'
      exact .intro (readType_eq_ok_iff.mp htype) hv h
    · rintro ⟨htype, hv, h⟩
      exact ⟨((), _), both_eq_ok_iff.mpr ⟨readType_eq_ok_iff.mpr htype, (htables _).mpr ⟨_, hv, h⟩⟩, rfl⟩
  | _ =>
    constructor
    · rintro ⟨⟩
    · rintro ⟨⟩

/-- A document that is refused for its form has a fault, and all its problems are such faults. -/
theorem problems_of_readShape_refuses {document : Value} {problems : List Problem}
    (h : readShape document = .error (.refused problems)) :
    problems ≠ [] ∧ ∀ p ∈ problems, p.cause.kind = .shape := by
  refine ⟨readShape_refuses h, ?_⟩
  unfold readShape at h
  split at h
  · cases h
  · cases h
    intro p hp
    obtain ⟨f, -, rfl⟩ := List.mem_map.mp hp
    rfl
  · cases h

/-- The reading of a shape comes down at a type that cannot be looked up, and at nothing else. -/
theorem readShape_eq_broken {document : Value} {cause : Breakdown} (h : readShape document = .error (.broken cause)) :
    cause = .unhashableType ∧ HasCompoundType document := by
  refine ⟨?_, readShape_breaks_iff.mp ⟨cause, h⟩⟩
  unfold readShape at h
  split at h
  · cases h
  · cases h
  · cases h
    rfl

/-- A document is read as a shape exactly when it writes this shape. Any other document is refused, for at least one
fault of form and for nothing else, unless a type in it cannot be looked up. -/
theorem readShape_exact {document : Value} (hjson : document.IsJson) :
    (∀ db, readShape document = .ok db ↔ db.WrittenAs document) ∧
      ((∀ db : Database, ¬db.WrittenAs document) →
        (∃ problems, readShape document = .error (.refused problems) ∧ problems ≠ [] ∧
          ∀ p ∈ problems, p.cause.kind = .shape) ∨
        readShape document = .error (.broken .unhashableType) ∧ HasCompoundType document) := by
  have hread : ∀ db, readShape document = .ok db ↔ db.WrittenAs document := fun db =>
    readShape_eq_ok_iff.trans (read_eq_ok_iff hjson)
  refine ⟨hread, fun hnone => ?_⟩
  rcases hshape : readShape document with (problems | cause) | db
  · exact .inl ⟨problems, rfl, problems_of_readShape_refuses hshape⟩
  · obtain ⟨rfl, htype⟩ := readShape_eq_broken hshape
    exact .inr ⟨rfl, htype⟩
  · exact absurd ((hread db).mp hshape) (hnone db)

/-- Books with a key of their own, a default that is null, two constants that are not the same, a reference that has a
type, and dates in an array. -/
def library : Value := objectOf
  [("books", .object [("x-primaryKey", .text "isbn"), ("required", .texts ["title"]), ("type", .text "object"),
    ("properties", .object
      [("isbn", .object [("type", .text "string"), ("default", .null)]),
       ("title", .object [("type", .text "string"), ("enum", .list [.bool true, .int 1])]),
       ("author", .object [("type", .list []), ("$ref", .text "#/people/id")]),
       ("loans", arrayOf (.object [("type", .text "string"), ("format", .text "date")]))])])]

theorem readShape_exact_library : library.IsJson ∧ ∃ db, readShape library = .ok db ∧ db.WrittenAs library := by
  have hjson : library.IsJson := by
    simp [library, objectOf, arrayOf, Value.texts, Value.object, Value.IsJson, membersJson, allJson, Scalar.IsJson]
  obtain ⟨db, hread⟩ : ∃ db, readShape library = .ok db := ⟨_, rfl⟩
  exact ⟨hjson, db, hread, ((readShape_exact hjson).1 db).mp hread⟩

end ShapeTables.Shape
