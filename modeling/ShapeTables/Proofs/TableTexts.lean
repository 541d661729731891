import ShapeTables.CommandLine.Run
import ShapeTables.Proofs.Findings
import ShapeTables.Proofs.JsonText
import ShapeTables.Proofs.Rendering

/-! Tables are recovered from their texts. Reading the record of a table gives the table back field by field, and the
text of a record is read as the record, so whoever reads what is printed for a result has its tables again. Doubles
are left out, and no text is printed when an integer is too long for one. The tables of a compiled document never
hold such an integer, since there would be no statements for them. -/
namespace ShapeTables

open Reading

/-- A constant that is no double. -/
def Shape.Constant.IsExact (c : Shape.Constant) : Prop := ∀ x, c ≠ .float x

/-- Tables without doubles. Their foreign keys have types of columns that can be pointed at. -/
structure Flat.ResolvedTable.IsExact (t : Flat.ResolvedTable) : Prop where
  defaults : ∀ c ∈ t.columns, ∀ value ∈ c.default, value.IsExact
  allowed : ∀ c ∈ t.columns, ∀ values ∈ c.enum, ∀ value ∈ values, value.IsExact
  keys : ∀ k ∈ t.foreignKeys, k.type.isKeyType

/-! ### Fields that are read back -/

namespace Reading

variable {α : Type} {read : Value → Reading α} {write : α → Value} {members : List (Scalar × Value)} {name : String}

theorem optional_eq_ok {absent x : α} {v : Value} (hv : member? members name = some v) (hread : read v = .ok x) :
    optional members name absent read = .ok x := by
  rw [Reading.optional, hv]
  exact under_eq_ok_iff.mpr hread

theorem nullable_getD {found : Option α} (hread : ∀ x ∈ found, read (write x) = .ok x) (hne : ∀ x, write x ≠ .null) :
    nullable read ((found.map write).getD .null) = .ok found := by
  cases found with
  | none => rfl
  | some x =>
    have hx : read (write x) = .ok x := hread x rfl
    rw [Option.map_some, Option.getD_some]
    unfold nullable
    split
    · next heq => exact absurd heq (hne x)
    · rw [hx]
      rfl

theorem list_map {xs : List α} (hread : ∀ x ∈ xs, read (write x) = .ok x) :
    list read (.list (xs.map write)) = .ok xs := by
  have hitems : ∀ start, itemsFrom read start (xs.map write) = .ok xs := by
    induction xs with
    | nil => exact fun _ => rfl
    | cons x xs ih =>
      intro start
      obtain ⟨hx, hxs⟩ := List.forall_mem_cons.mp hread
      exact cons_eq_ok_iff.mpr ⟨x, xs, under_eq_ok_iff.mpr hx, ih hxs (start + 1), rfl⟩
  exact hitems 0

theorem list_texts (names : List String) : list text (.texts names) = .ok names := list_map fun _ _ => rfl

end Reading

namespace Flat

open Shape (Constant readConstant)

/-! ### Records that are read back -/

theorem readConstant_ofConstant {c : Constant} (h : c.IsExact) : readConstant (ofConstant c) = .ok c := by
  cases c with
  | float x => exact absurd rfl (h x)
  | _ => rfl

theorem ofConstant_ne_null (c : Constant) : ofConstant c ≠ .null := by
  cases c with
  | float x =>
    simp only [ofConstant, Scalar.ofFloat]
    split <;> simp
  | _ => simp [ofConstant]

theorem readColumn_toValue {c : Column} (hdefault : ∀ value ∈ c.default, value.IsExact)
    (henum : ∀ values ∈ c.enum, ∀ value ∈ values, value.IsExact) : readColumn c.toValue = .ok c := by
  have htype : among ColumnType.byName (.text c.type.name) = .ok c.type := by cases c.type <;> rfl
  have hdefault : nullable readConstant ((c.default.map ofConstant).getD .null) = .ok c.default :=
    nullable_getD (fun value hvalue => readConstant_ofConstant (hdefault value hvalue)) ofConstant_ne_null
  have henum : nullable (list readConstant) ((c.enum.map fun members => .list (members.map ofConstant)).getD .null) =
      .ok c.enum :=
    nullable_getD (fun values hvalues => list_map fun value hvalue =>
      readConstant_ofConstant (henum values hvalues value hvalue)) (fun _ => by simp)
  have hdescription : nullable text (optionalText c.description) = .ok c.description :=
    nullable_getD (fun _ _ => rfl) (fun _ => by simp)
  refine map_eq_ok_iff.mpr ⟨(c.name, c.type, c.default, c.enum, c.description), ?_, rfl⟩
  simp only [both_eq_ok_iff, Shape.readConstants]
  exact ⟨required_eq_ok_iff.mpr ⟨_, rfl, rfl⟩, required_eq_ok_iff.mpr ⟨_, rfl, htype⟩, optional_eq_ok rfl hdefault,
    optional_eq_ok rfl henum, optional_eq_ok rfl hdescription⟩

theorem readReference_toValue (r : Reference) : readReference r.toValue = .ok r := by
  refine map_eq_ok_iff.mpr ⟨(r.name, r.pointer, r.schemaPath, r.oneToMany), ?_, rfl⟩
  simp only [both_eq_ok_iff]
  exact ⟨required_eq_ok_iff.mpr ⟨_, rfl, rfl⟩, required_eq_ok_iff.mpr ⟨_, rfl, rfl⟩,
    optional_eq_ok rfl (list_texts r.schemaPath), optional_eq_ok rfl rfl⟩

theorem readTarget_toValue (t : Target) : readTarget t.toValue = .ok t := by
  rw [Target.toValue, Value.object, readTarget, model, map_eq_ok_iff]
  exact ⟨(t.table, t.column), both_eq_ok_iff.mpr
    ⟨required_eq_ok_iff.mpr ⟨_, rfl, rfl⟩, required_eq_ok_iff.mpr ⟨_, rfl, rfl⟩⟩, rfl⟩

theorem readForeignKey_toValue {k : ForeignKey} (h : k.type.isKeyType) : readForeignKey k.toValue = .ok k := by
  have htype : among keyTypes (.text k.type.name) = .ok k.type := by
    revert h
    cases k.type <;> decide
  refine map_eq_ok_iff.mpr ⟨(k.name, k.type, k.target, k.oneToMany), ?_, rfl⟩
  simp only [both_eq_ok_iff]
  exact ⟨required_eq_ok_iff.mpr ⟨_, rfl, rfl⟩, required_eq_ok_iff.mpr ⟨_, rfl, htype⟩,
    required_eq_ok_iff.mpr ⟨_, rfl, readTarget_toValue k.target⟩, optional_eq_ok rfl rfl⟩

/-- A table is read back from its record. -/
theorem readResolvedTable_toValue {t : ResolvedTable} (h : t.IsExact) : readResolvedTable t.toValue = .ok t := by
  have hrequired : nullable (list text) ((t.required.map Value.texts).getD .null) = .ok t.required :=
    nullable_getD (fun names _ => list_texts names) (fun _ => by simp [Value.texts])
  have hkey : nullable text (optionalText t.primaryKey) = .ok t.primaryKey :=
    nullable_getD (fun _ _ => rfl) (fun _ => by simp)
  have hcolumns : list readColumn (.list (t.columns.map Column.toValue)) = .ok t.columns :=
    list_map fun c hc => readColumn_toValue (h.defaults c hc) (h.allowed c hc)
  have hreferences : list readReference (.list (t.references.map Reference.toValue)) = .ok t.references :=
    list_map fun r _ => readReference_toValue r
  have hkeys : list readForeignKey (.list (t.foreignKeys.map ForeignKey.toValue)) = .ok t.foreignKeys :=
    list_map fun k hk => readForeignKey_toValue (h.keys k hk)
  refine map_eq_ok_iff.mpr ⟨(t.toTable, t.foreignKeys), ?_, rfl⟩
  refine both_eq_ok_iff.mpr ⟨map_eq_ok_iff.mpr ⟨(t.name, t.required, t.primaryKey, t.columns, t.references), ?_, rfl⟩,
    optional_eq_ok rfl hkeys⟩
  simp only [both_eq_ok_iff]
  exact ⟨required_eq_ok_iff.mpr ⟨_, rfl, rfl⟩, optional_eq_ok rfl hrequired, optional_eq_ok rfl hkey,
    optional_eq_ok rfl hcolumns, optional_eq_ok rfl hreferences⟩

/-! ### Records that are printed -/

open Json (Readable)

theorem readable_ofConstant {c : Constant} (hexact : c.IsExact) (h : Sql.isWritable c) : Readable (ofConstant c) := by
  cases c with
  | bool b => exact .bool b
  | int n => exact .int h
  | float x => exact absurd rfl (hexact x)
  | text s => exact .text s

theorem readable_getD {α : Type} {write : α → Value} {found : Option α} (h : ∀ x ∈ found, Readable (write x)) :
    Readable ((found.map write).getD .null) := by
  cases found with
  | none => exact .null
  | some x => exact h x rfl

theorem readable_list {α : Type} {write : α → Value} {xs : List α} (h : ∀ x ∈ xs, Readable (write x)) :
    Readable (.list (xs.map write)) := by
  refine .list fun v hv => ?_
  obtain ⟨x, hx, rfl⟩ := List.mem_map.mp hv
  exact h x hx

theorem readable_texts (names : List String) : Readable (.texts names) := readable_list fun name _ => .text name

theorem readable_column {c : Column} (hdefault : ∀ value ∈ c.default, Readable (ofConstant value))
    (henum : ∀ values ∈ c.enum, ∀ value ∈ values, Readable (ofConstant value)) : Readable c.toValue := by
  refine .object (by simp) ?_
  simp only [List.forall_mem_cons]
  exact ⟨.text _, .text _, readable_getD hdefault, readable_getD fun values hvalues => readable_list (henum values hvalues),
    readable_getD fun s _ => .text s, by simp⟩

theorem readable_reference (r : Reference) : Readable r.toValue := by
  refine .object (by simp) ?_
  simp only [List.forall_mem_cons]
  exact ⟨.text _, .text _, readable_texts _, .bool _, by simp⟩

theorem readable_foreignKey (k : ForeignKey) : Readable k.toValue := by
  have htarget : Readable k.target.toValue := by
    refine .object (by simp) ?_
    simp only [List.forall_mem_cons]
    exact ⟨.text _, .text _, by simp⟩
  refine .object (by simp) ?_
  simp only [List.forall_mem_cons]
  exact ⟨.text _, .text _, htarget, .bool _, by simp⟩

/-- The text of a table without doubles is read as its record, if its integers can be written. -/
theorem readable_toValue {t : ResolvedTable} (hexact : t.IsExact) (h : Sql.Writable t) : Readable t.toValue := by
  have hcolumn : ∀ c ∈ t.columns, Readable c.toValue := fun c hc => readable_column
    (fun value hvalue => readable_ofConstant (hexact.defaults c hc value hvalue) (h.defaults c hc value hvalue))
    (fun values hvalues value hvalue =>
      readable_ofConstant (hexact.allowed c hc values hvalues value hvalue) (h.allowed c hc values hvalues value hvalue))
  refine .object (by simp [Table.fields]) ?_
  simp only [Table.fields, List.cons_append, List.nil_append, List.forall_mem_cons]
  exact ⟨.text _, readable_getD fun names _ => readable_texts names, readable_getD fun s _ => .text s,
    readable_list hcolumn, readable_list fun r _ => readable_reference r, readable_list fun k _ => readable_foreignKey k,
    by simp⟩

/-! ### Integers that can be written -/

open MetaSchema (itemsWritable_eq membersWritable_eq)

theorem isWritable_object_iff {members : List (String × Value)} :
    (Value.object members).isWritable ↔ ∀ m ∈ members, m.2.isWritable := by
  rw [Value.object, Value.isWritable, membersWritable_eq, List.all_map, List.all_eq_true]
  rfl

theorem isWritable_list_map {α : Type} {write : α → Value} {xs : List α} :
    (Value.list (xs.map write)).isWritable ↔ ∀ x ∈ xs, (write x).isWritable := by
  rw [Value.isWritable, itemsWritable_eq, List.all_map, List.all_eq_true]
  rfl

theorem isWritable_getD {α : Type} {write : α → Value} {found : Option α} :
    ((found.map write).getD .null).isWritable ↔ ∀ x ∈ found, (write x).isWritable := by
  cases found with
  | none => simp [Value.isWritable, Scalar.isWritable]
  | some x => simp

@[simp] theorem isWritable_text (s : String) : (Value.text s).isWritable := rfl

@[simp] theorem isWritable_bool (b : Bool) : (Value.bool b).isWritable := rfl

@[simp] theorem isWritable_texts (names : List String) : (Value.texts names).isWritable :=
  isWritable_list_map.mpr fun name _ => isWritable_text name

@[simp] theorem isWritable_ofConstant (c : Constant) : (ofConstant c).isWritable = Sql.isWritable c := by
  cases c with
  | float x =>
    simp only [ofConstant, Scalar.ofFloat]
    split <;> rfl
  | _ => rfl

theorem isWritable_column_iff {c : Column} : c.toValue.isWritable ↔
    (∀ value ∈ c.default, Sql.isWritable value) ∧ ∀ values ∈ c.enum, ∀ value ∈ values, Sql.isWritable value := by
  simp [Column.toValue, optionalText, isWritable_object_iff, isWritable_getD, isWritable_list_map]

theorem isWritable_reference (r : Reference) : r.toValue.isWritable := by
  simp [Reference.toValue, isWritable_object_iff]

theorem isWritable_foreignKey (k : ForeignKey) : k.toValue.isWritable := by
  simp [ForeignKey.toValue, Target.toValue, isWritable_object_iff]

/-- The record of a table can be written when every integer in its constants can. -/
theorem isWritable_toValue_iff {t : ResolvedTable} : t.toValue.isWritable ↔ Sql.Writable t := by
  have hcolumns : t.toValue.isWritable ↔ ∀ c ∈ t.columns, c.toValue.isWritable := by
    simp [ResolvedTable.toValue, Table.fields, optionalText, isWritable_object_iff, isWritable_getD, isWritable_list_map,
      isWritable_reference, isWritable_foreignKey]
  rw [hcolumns]
  constructor
  · exact fun h => ⟨fun c hc => (isWritable_column_iff.mp (h c hc)).1, fun c hc => (isWritable_column_iff.mp (h c hc)).2⟩
  · exact fun h c hc => isWritable_column_iff.mpr ⟨h.defaults c hc, h.allowed c hc⟩

end Flat

/-! ### Results -/

namespace SqlResult

open Flat

variable {r : SqlResult} {tables : List ResolvedTable}

theorem render_tables (hr : r.tables = some tables) : r.render true =
    if (Value.list (tables.map ResolvedTable.toValue)).isWritable then
      some (Json.render (.list (tables.map ResolvedTable.toValue)) ++ "\n") else none := by
  simp [render, hr]

/-- Constants that look alike, and names with quotes, a line feed and a character of two units. -/
def lookalikes : ResolvedTable where
  name := "a \"b\"\n𝄞"
  required := some ["true"]
  primaryKey := none
  columns :=
    [⟨"true", .string, some (.text "true"), some [.bool true, .int 1, .text "1", .text "null"], some "\\u0041 ü"⟩,
      ⟨"1", .integer, some (.int (-98765432109876543210)), some [], none⟩, ⟨"", .boolean, some (.bool false), none, some ""⟩]
  references := [⟨"r", "#/a/1", ["properties", "a", "properties"], true⟩]
  foreignKeys := [⟨"r", .integer, ⟨"a", "1"⟩, true⟩]

end SqlResult

/-! ### Runs -/

theorem generateSql_eq_ok_iff {style : Sql.Style} {document : Value} {c : Compiled} :
    generateSql style document = .ok c ↔
      compile document = .ok c.tables ∧ generate style c.tables = .ok c.statements ∧ c.dialect = style.dialect := by
  simp only [generateSql, bind_eq_ok_iff, pure, Except.pure, Except.ok.injEq]
  constructor
  · rintro ⟨tables, htables, statements, hstatements, rfl⟩
    exact ⟨htables, hstatements, rfl⟩
  · rintro ⟨htables, hstatements, hdialect⟩
    exact ⟨_, htables, _, hstatements, by rw [← hdialect]⟩

/-- A document for which there are statements has tables that can be printed: an integer that is too long for these
would have been too long for the statements. -/
theorem exists_render_ofCompiled {style : Sql.Style} {document : Value} {c : Compiled}
    (h : generateSql style document = .ok c) (asTables : Bool) :
    ∃ text, (SqlResult.ofCompiled c).render asTables = some text := by
  obtain ⟨htables, hstatements, -⟩ := generateSql_eq_ok_iff.mp h
  cases asTables with
  | false => exact ⟨_, rfl⟩
  | true =>
    have hrenderable : Renderable c.tables := (renderable_iff htables style).mp ⟨_, hstatements⟩
    have hwritable : (Value.list (c.tables.map Flat.ResolvedTable.toValue)).isWritable :=
      Flat.isWritable_list_map.mpr fun t ht => Flat.isWritable_toValue_iff.mpr (hrenderable.writable t ht)
    exact ⟨_, by rw [SqlResult.render_tables rfl, if_pos hwritable]⟩

theorem Request.generateSql_of_answer {r : Request} {settings : Settings} {c : Compiled} (h : r.answer settings = .ok c) :
    ∃ style, generateSql style r.document = .ok c := by
  unfold Request.answer at h
  split at h
  · cases h
  · next d _ =>
    split at h
    · next compiled hcompiled =>
      cases h
      exact ⟨settings.style d, hcompiled⟩
    · cases h

namespace CommandLine

theorem deliver_ne_longInteger {style : Sql.Style} {document : Value} {c : Compiled} (h : generateSql style document = .ok c)
    (args : Arguments) : deliver args c ≠ .crashed .longInteger := by
  obtain ⟨text, htext⟩ := exists_render_ofCompiled h args.tables
  rw [deliver, htext]
  cases args.output <;> simp

theorem settings_ne_longInteger (w : World) : w.settings ≠ .error .longInteger := by
  unfold World.settings
  simp only [bind, Except.bind, pure, Except.pure, throw, throwThe, MonadExceptOf.throw]
  cases w.read settingsPath with
  | error _ =>
    dsimp only
    split <;> simp
  | ok octets =>
    cases hdecode : decode? octets with
    | none => simp [hdecode]
    | some cs =>
      simp only [hdecode]
      split <;> simp

/-- No run comes down for an integer in the tables that it is to show. -/
theorem run_ne_longInteger (w : World) (args : Arguments) : run w args ≠ .crashed .longInteger := by
  unfold run
  split
  · simp
  · simp
  · split
    · next cause hsettings =>
      rintro ⟨⟩
      exact settings_ne_longInteger w hsettings
    · split
      · simp
      · simp
      · simp
      · next compiled hanswer =>
        obtain ⟨style, hgenerate⟩ := Request.generateSql_of_answer hanswer
        exact deliver_ne_longInteger hgenerate args

end CommandLine

end ShapeTables
