import ShapeTables.Proofs.BackReferences
import ShapeTables.Proofs.Grammar
import ShapeTables.Proofs.ResolutionProblems
import ShapeTables.Proofs.Violations

/-! Where problems with references are located. The flat tables know for each reference the steps to the properties
among which it stands. For a reference that is a property, these steps lead to its pointer in the document. For the
items of an array they go on to the table that is made of the array, and for a back reference they lead to the
properties of the nested table, where the document has nothing of it. -/
namespace ShapeTables

open Shape (Database)

/-! ### Locations in documents -/

namespace Value

/-- A location leads to a value below, by members whose keys are read as its steps. -/
inductive Leads : Value → Location → Value → Prop where
  | here {v : Value} : Leads v [] v
  | step {members : List (Scalar × Value)} {key : Scalar} {name : String} {v w : Value} {rest : Location}
    (hm : (key, v) ∈ members) (hkey : Reading.textOf key = .ok name) (h : Leads v rest w) :
    Leads (.map members) (.name name :: rest) w

variable {v w x : Value} {loc rest : Location}

theorem Leads.append (h : Leads v loc w) (h' : Leads w rest x) : Leads v (loc ++ rest) x := by
  induction h with
  | here => exact h'
  | step hm hkey _ ih => exact .step hm hkey (ih h')

/-- A step by a key that is the text itself. -/
theorem Leads.of_member? {members : List (Scalar × Value)} {name : String} (h : member? members name = some v) :
    Leads (.map members) [.name name] v :=
  .step (Shape.member?_mem h) rfl .here

theorem Leads.isJson (h : Leads v loc w) (hjson : v.IsJson) : w.IsJson := by
  induction h with
  | here => exact hjson
  | step hm _ _ ih => exact ih (Shape.forall_isJson_of_membersJson hjson.2 _ hm).2

/-- In a value of JSON, a location is followed by its steps as they are. -/
theorem Leads.follow?_eq (h : Leads v loc w) (hjson : v.IsJson) : v.follow? loc = some w := by
  induction h with
  | here => rfl
  | @step members key name v w rest hm hkey _ ih =>
    obtain ⟨⟨text, htext⟩, hv⟩ := Shape.forall_isJson_of_membersJson hjson.2 _ hm
    obtain rfl : key = .text text := htext
    obtain rfl : text = name := Except.ok.inj hkey
    have hmember : member? members text = some v := (lookup_eq_some_iff_of_nodup hjson.1).mpr hm
    rw [follow?, step?, hmember, Option.bind_some, ih hv]

/-- A location leads to a value that is read as a text. In a document of JSON, it leads to the text. -/
structure Writes (document : Value) (loc : Location) (s : String) : Prop where
  leads : ∃ v, document.Leads loc v ∧ Reading.text v = .ok s
  follow?_eq : document.IsJson → document.follow? loc = some (.text s)

theorem Leads.writes (h : Leads v loc w) {s : String} (hs : Reading.text w = .ok s) : v.Writes loc s where
  leads := ⟨w, h, hs⟩
  follow?_eq hjson := by rw [h.follow?_eq hjson, (Shape.reads_text w (h.isJson hjson) s).mp hs]

end Value

namespace Shape

open Reading

/-! ### What is read at a location -/

/-- The table that is read from a value is read again from the properties there. -/
theorem leads_of_mem_properties {v : Value} {t : Table} (h : readTable v = .ok t) {name : String} {column : Column}
    (hp : (name, column) ∈ t.properties) :
    ∃ w, v.Leads [.name "properties", .name name] w ∧ readColumn w = .ok column := by
  obtain ⟨members, rfl, hassemble⟩ := readTable_cases h
  have hfound := properties_of_assemble hassemble
  rw [propertiesIn_eq] at hfound
  obtain ⟨u, hu, hread⟩ := Option.map_eq_some_iff.mp hfound
  cases u with
  | map entries =>
    obtain ⟨columns, hcolumns, hnamed⟩ := map_eq_ok_iff.mp hread
    rw [readColumns_eq] at hcolumns
    obtain ⟨⟨key, w⟩, hm, hkey, hw⟩ := of_mem_readEntries hcolumns (mem_of_mem_named (hnamed ▸ hp))
    exact ⟨w, (Value.Leads.of_member? hu).append (.step hm hkey .here), hw⟩
  | _ => cases hread

theorem leads_of_holds {v : Value} {column : Column} (h : readColumn v = .ok column) {steps : Location} {t : Table}
    (hholds : column.Holds steps t) : ∃ w, v.Leads steps w ∧ readTable w = .ok t := by
  rcases readColumn_cases h with ⟨_, rfl⟩ | ⟨_, rfl⟩ | ⟨members, w, items, rfl, hw, hitems, rfl⟩ |
    ⟨members, t', rfl, ht, rfl⟩
  · cases hholds
  · cases hholds
  · cases hholds
    rcases readItems_cases hitems with ⟨_, heq⟩ | ⟨_, heq⟩ | ⟨members', t', rfl, ht, heq⟩
    · cases heq
    · cases heq
    · cases heq
      exact ⟨_, .of_member? hw, ht⟩
  · cases hholds
    exact ⟨_, .here, ht⟩

theorem leads_of_readRef {members : List (Scalar × Value)} {pointer : String} (h : readRef members = .ok pointer) :
    ∃ w, (Value.map members).Leads [.name "$ref"] w ∧ text w = .ok pointer := by
  obtain ⟨w, hw, htext⟩ := required_eq_ok_iff.mp h
  exact ⟨w, .of_member? hw, htext⟩

theorem leads_of_points {v : Value} {column : Column} (h : readColumn v = .ok column) {steps : Location}
    {pointer : String} (hpoints : column.Points steps pointer) :
    ∃ w, v.Leads (steps ++ [.name "$ref"]) w ∧ text w = .ok pointer := by
  cases hpoints with
  | ref =>
    cases v with
    | map members =>
      rw [readColumn_map_eq_ok_iff] at h
      obtain ⟨_, ⟨-, hread⟩, heq⟩ | ⟨_, -, heq⟩ | ⟨_, -, heq⟩ | ⟨_, -, heq⟩ := h <;> cases heq
      exact leads_of_readRef hread
    | _ => cases h
  | item =>
    rcases readColumn_cases h with ⟨_, heq⟩ | ⟨_, heq⟩ | ⟨members, w, items, rfl, hw, hitems, heq⟩ | ⟨_, _, -, -, heq⟩ <;>
      cases heq
    cases w with
    | map inner =>
      rw [readItems_map_eq_ok_iff] at hitems
      obtain ⟨_, ⟨-, hread⟩, heq⟩ | ⟨_, -, heq⟩ | ⟨_, -, heq⟩ := hitems <;> cases heq
      obtain ⟨x, hx, htext⟩ := leads_of_readRef hread
      exact ⟨x, (Value.Leads.of_member? hw).append hx, htext⟩
    | _ => cases hitems

variable {document : Value} {db : Database} {loc : Location}

theorem Database.TableAt.leads (hread : read document = .ok db) {t : Table} (h : db.TableAt loc t) :
    ∃ v, document.Leads loc v ∧ readTable v = .ok t := by
  induction h with
  | root ht =>
    obtain ⟨members, tables, found, rfl, hproperties, hfound, htables⟩ := read_cases hread
    obtain ⟨⟨key, v⟩, hm, hkey, hv⟩ := of_mem_readEntries hfound (mem_of_mem_named (htables ▸ ht))
    exact ⟨v, (Value.Leads.of_member? hproperties).append (.step hm hkey .here), hv⟩
  | nested _ hp hholds ih =>
    obtain ⟨v, hv, ht⟩ := ih
    obtain ⟨w, hw, hcolumn⟩ := leads_of_mem_properties ht hp
    obtain ⟨x, hx, hnested⟩ := leads_of_holds hcolumn hholds
    exact ⟨x, (hv.append hw).append hx, hnested⟩

/-- The document has a pointer where the shape has it. -/
theorem Database.PointerAt.writes (hread : read document = .ok db) {pointer : String} (h : db.PointerAt loc pointer) :
    document.Writes (loc ++ [.name "$ref"]) pointer := by
  obtain ⟨ht, hp, hpoints⟩ := h
  obtain ⟨v, hv, hread⟩ := ht.leads hread
  obtain ⟨w, hw, hcolumn⟩ := leads_of_mem_properties hread hp
  obtain ⟨x, hx, htext⟩ := leads_of_points hcolumn hpoints
  rw [List.append_assoc]
  exact ((hv.append hw).append hx).writes htext

end Shape

/-! ### Where references stand -/

/-- The pointer that a problem with a reference is about. -/
def Problem.Cause.pointer? : Problem.Cause → Option String
  | .unknownTable pointer _ | .unknownColumn pointer _ _ | .targetsReference pointer _ _ | .targetsType pointer _ _ _ =>
    some pointer
  | _ => none

namespace Flat

open Shape

/-- Where a node stands: it is a table of the shape, or it is made of an array whose items are no tables. The steps to
its properties are those in the document, or they would be if the items were a table. -/
inductive Node.Located (db : Database) (n : Node) : Prop where
  | table {loc : Location} (h : db.TableAt loc n.table)
    (hpath : n.way.schemaPath.map .name = loc ++ [.name "properties"]) : Located db n
  | wrapper {loc : Location} {t : Shape.Table} {name : String} {items : Items} (h : db.TableAt loc t)
    (hp : (name, .array items) ∈ t.properties) (hitems : ∀ inner, items ≠ .table inner)
    (htable : n.table = itemTable items)
    (hpath : n.way.schemaPath.map .name =
      loc ++ [.name "properties", .name name, .name "items", .name "properties"]) : Located db n

/-- A pointer of a column is written at a place in the document, and there the rules tell what is wrong with it. -/
structure WrittenAt (document : Value) (loc : Location) (column : String → Shape.Column) (pointer : String)
    (place : Location) : Prop where
  writes : document.Writes place pointer
  told : ∀ other, ∀ p ∈ columnProblems loc (column other), p.loc = place

/-- Where a problem with a pointer is told. -/
inductive ToldAt (document : Value) (db : Database) (pointer : String) : Location → Prop where
  /-- For a property that is a reference, it is the place where the pointer is written. -/
  | property {loc : Location} {t : Shape.Table} {name : String} (h : db.TableAt loc t)
    (hp : (name, .ref pointer) ∈ t.properties)
    (hwritten : WrittenAt document (loc ++ [.name "properties", .name name]) .ref pointer
      (loc ++ [.name "properties", .name name, .name "$ref"])) :
    ToldAt document db pointer (loc ++ [.name "properties", .name name, .name "$ref"])
  /-- For the items of an array, it is the column that they have in the table that the array becomes. -/
  | item {loc : Location} {t : Shape.Table} {name : String} (h : db.TableAt loc t)
    (hp : (name, .array (.ref pointer)) ∈ t.properties)
    (hwritten : WrittenAt document (loc ++ [.name "properties", .name name]) (fun other => .array (.ref other)) pointer
      (loc ++ [.name "properties", .name name, .name "items", .name "$ref"])) :
    ToldAt document db pointer (loc ++ [.name "properties", .name name, .name "items", .name "properties",
      .name "value", .name "$ref"])
  /-- For a back reference, it is among the properties of the nested table, by the name that it has there. -/
  | back {n c : Node} (hn : n ∈ nodes db) (hc : c ∈ n.children) (hlocated : c.Located db)
    (hpointer : (n.backReference c).pointer = pointer) :
    ToldAt document db pointer
      (c.way.schemaPath.map .name ++ [.name (n.backReference c).name, .name "$ref"])

variable {document : Value} {db : Database} {n : Node}

theorem Node.Located.of_mem_children (h : n.Located db) {c : Node} (hc : c ∈ n.children) : c.Located db := by
  obtain ⟨⟨name, column⟩, hp, hchild⟩ := List.mem_filterMap.mp hc
  cases h with
  | @wrapper loc t array items h hp' hitems htable hpath =>
    -- the items of the array hold nothing
    rw [htable] at hp
    cases items with
    | table inner => exact absurd rfl (hitems inner)
    | ref pointer => cases List.mem_singleton.mp hp; cases hchild
    | value column => cases List.mem_singleton.mp hp; cases hchild
  | @table loc h hpath =>
    cases column with
    | ref pointer => cases hchild
    | value column => cases hchild
    | table t =>
      cases hchild
      exact .table (.nested h hp .table) (by simp [Way.to, hpath])
    | array items =>
      cases hchild
      have hsteps : (n.way.to n.table.joinKey name true).schemaPath.map .name =
          loc ++ [.name "properties", .name name, .name "items", .name "properties"] := by
        simp [Way.to, hpath]
      cases items with
      | table t => exact .table (.nested h hp .item) (by simpa using hsteps)
      | ref pointer => exact .wrapper h hp (by rintro _ ⟨⟩) rfl hsteps
      | value column => exact .wrapper h hp (by rintro _ ⟨⟩) rfl hsteps

theorem located_of_mem_nodes : ∀ n ∈ nodes db, n.Located db := by
  apply of_mem_nodes
  · intro r hr
    obtain ⟨⟨name, t⟩, ht, rfl⟩ := List.mem_map.mp hr
    exact .table (.root ht) rfl
  · exact fun n hn c hc => hn.of_mem_children hc

/-- A reference of the flat table of a node is the back reference of the node, or it is one of the properties of its
table. -/
theorem mem_flat_references_cases (hdistinct : n.Distinct) (hn : n ∈ nodes db) {r : Reference}
    (hr : r ∈ n.flat.references) : (∃ m ∈ nodes db, n ∈ m.children ∧ r = m.backReference n) ∨
      ∃ name pointer, (name, .ref pointer) ∈ n.table.properties ∧
        r = ⟨name, pointer, n.way.schemaPath, n.way.oneToMany⟩ := by
  obtain ⟨name, pointer, hmem, rfl⟩ := mem_flatReferences_iff.mp hr
  cases hback : n.way.back with
  | none => exact .inr ⟨name, pointer, by simpa [Node.properties, hback, withBack] using hmem, rfl⟩
  | some back =>
    rcases (Node.mem_properties_iff hdistinct hback).mp hmem with heq | ⟨hmem, -⟩
    · rcases mem_nodes_cases n hn with hroot | ⟨m, hm, hchild⟩
      · obtain ⟨_, -, rfl⟩ := List.mem_map.mp hroot
        cases hback
      · obtain rfl := Option.some.inj (hback.symm.trans (back_of_mem_children hchild))
        cases heq
        exact .inl ⟨m, hm, hchild, rfl⟩
    · exact .inr ⟨name, pointer, hmem, rfl⟩

/-- What the rules tell of the pointer of a column is told where the document has it. -/
theorem writtenAt_of_points (hread : Shape.read document = .ok db) {loc steps : Location} {t : Shape.Table}
    (ht : db.TableAt loc t) {name pointer : String} {column : String → Shape.Column}
    (hp : (name, column pointer) ∈ t.properties) (hpoints : ∀ other, (column other).Points steps other) :
    WrittenAt document (loc ++ [.name "properties", .name name]) column pointer
      (loc ++ [.name "properties", .name name] ++ steps ++ [.name "$ref"]) where
  writes := Database.PointerAt.writes hread (.property ht hp (hpoints pointer))
  told := by
    intro other p hproblem
    have hpoint := hpoints other
    generalize column other = given at hpoint hproblem
    cases hpoint with
    | ref =>
      obtain ⟨_, -, rfl⟩ := List.mem_map.mp hproblem
      rw [List.append_nil]
    | item =>
      obtain ⟨_, -, rfl⟩ := List.mem_map.mp hproblem
      rfl

theorem toldAt_of_mem_references (hread : Shape.read document = .ok db) (hn : n ∈ nodes db) {r : Reference}
    (hr : r ∈ n.flat.references) : ToldAt document db r.pointer r.loc := by
  rcases mem_flat_references_cases (distinct_of_read hread n hn) hn hr with
    ⟨m, hm, hchild, rfl⟩ | ⟨name, pointer, hmem, rfl⟩
  · exact .back hm hchild (located_of_mem_nodes n hn) rfl
  · cases located_of_mem_nodes n hn with
    | @table loc h hpath =>
      have hloc : Reference.loc ⟨name, pointer, n.way.schemaPath, n.way.oneToMany⟩ =
          loc ++ [.name "properties", .name name, .name "$ref"] := by
        simp [Reference.loc, hpath]
      rw [hloc]
      exact .property h hmem (by simpa using writtenAt_of_points hread h hmem fun other => .ref)
    | @wrapper loc t array items h hp hitems htable hpath =>
      rw [htable] at hmem
      cases items with
      | table inner => exact absurd rfl (hitems inner)
      | value column => cases List.mem_singleton.mp hmem
      | ref pointer =>
        cases List.mem_singleton.mp hmem
        have hloc : Reference.loc ⟨"value", pointer, n.way.schemaPath, n.way.oneToMany⟩ = loc ++
            [.name "properties", .name array, .name "items", .name "properties", .name "value", .name "$ref"] := by
          simp [Reference.loc, hpath]
        rw [hloc]
        have hwritten : WrittenAt document (loc ++ [.name "properties", .name array]) (fun other => .array (.ref other))
            pointer (loc ++ [.name "properties", .name array] ++ [.name "items"] ++ [.name "$ref"]) :=
          writtenAt_of_points hread h hp fun other => .item
        exact .item h hp (by simpa using hwritten)

/-- A reference that fails is the one that the cause of the problem is about. -/
theorem Reference.Fails.pointer?_eq {tables : List Table} {r : Reference} {kind : Kind} {cause : Problem.Cause}
    (h : r.Fails tables kind cause) : cause.pointer? = some r.pointer := by
  cases h <;> rfl

end Flat

open Flat

/-- When a valid document is not compiled, each problem with a reference is told where the flat tables have the
reference. For a property that is a reference, this is where its pointer is written, which is the one that failed. -/
theorem toldAt_of_compile {document : Value} {db : Database} {problems : List Problem}
    (hvalid : validate document = .ok db) (h : compile document = .error (.refused problems)) :
    ∀ p ∈ problems, p.cause.kind ∈ referenceKinds →
      ∃ pointer, p.cause.pointer? = some pointer ∧ ToldAt document db pointer p.loc := by
  intro p hp hkind
  have hread := (validate_eq_ok_iff.mp hvalid).2.1
  have hcompile : compile document = resolveAll (flatten db) := by
    rw [compile, hvalid]
    rfl
  obtain ⟨rfl, -⟩ := resolve_eq_error_iff.mp (resolveAll_eq_refused_iff.mp (hcompile.symm.trans h))
  rcases List.mem_append.mp hp with hp | hp
  · obtain ⟨t, -, rfl⟩ := of_mem_duplicateProblems hp
    simp [Problem.Cause.kind, referenceKinds] at hkind
  · rw [referenceProblems_eq] at hp
    obtain ⟨r, hr, hproblem⟩ := List.mem_filterMap.mp hp
    obtain ⟨hloc, hfails⟩ := problem?_eq_some_iff.mp hproblem
    obtain ⟨t, ht, hr⟩ := List.mem_flatMap.mp hr
    rw [flatten_eq_map_nodes] at ht
    obtain ⟨n, hn, rfl⟩ := List.mem_map.mp ht
    refine ⟨r.pointer, hfails.pointer?_eq, ?_⟩
    rw [hloc]
    exact toldAt_of_mem_references hread (List.mem_of_mem_filter hn) hr

theorem toldAt_of_taggedBlog : ∃ db p, validate taggedBlog = .ok db ∧ compile taggedBlog = .error (.refused [p]) ∧
    p.cause.kind ∈ referenceKinds ∧ ∃ pointer, p.cause.pointer? = some pointer ∧ ToldAt taggedBlog db pointer p.loc := by
  obtain ⟨db, hvalid⟩ : ∃ db, validate taggedBlog = .ok db := ⟨_, rfl⟩
  have hcompile : compile taggedBlog = .error (.refused
      [⟨[.name "properties", .name "tags", .name "properties", .name "page", .name "$ref"],
        .unknownTable "#/pages/id" "pages"⟩]) := rfl
  exact ⟨db, _, hvalid, hcompile, by decide, toldAt_of_compile hvalid hcompile _ (.head _) (by decide)⟩

/-- Users with friends who are nobody. -/
def friends : Value := objectOf
  [("users", objectOf [("id", typed "integer"), ("friends", arrayOf (pointing "#/nobody/id"))])]

/-- The location of a problem with the items of an array, or with a back reference, leads nowhere in the document; the
pointer of the items is written elsewhere. -/
theorem friends_astray :
    (∃ db p, validate friends = .ok db ∧ compile friends = .error (.refused [p]) ∧
      p.cause = .unknownTable "#/nobody/id" "nobody" ∧ friends.follow? p.loc = none ∧
      friends.follow? [.name "properties", .name "users", .name "properties", .name "friends", .name "items",
        .name "$ref"] = some (.text "#/nobody/id")) ∧
    ∃ db p, validate slashed = .ok db ∧ compile slashed = .error (.refused [p]) ∧
      p.cause = .unknownTable "#/a/b/id" "a_b" ∧ slashed.follow? p.loc = none :=
  ⟨⟨_, _, rfl, rfl, rfl, rfl, rfl⟩, _, _, rfl, rfl, rfl, rfl⟩

end ShapeTables
