import ShapeTables.Proofs.Resolution

/-! Adding a table to a document. The flat tables of the new table and of what is nested in it come after all the
others, and a name or pointer leads to the first table that it fits; so references that were resolved before are
resolved to the same foreign keys. What goes wrong is therefore about the new flat tables: one of them has a name
that is taken, or a reference of one of them leads nowhere. -/
namespace ShapeTables

namespace Shape

open Reading

/-- Documents of which the second has one more table, after those of the first. Its key is read as its name, and no
other key is. -/
inductive TableAdded (name : String) : Value → Value → Prop
  | added {before tables after : List (Scalar × Value)} {key : Scalar} {table : Value}
      (hbefore : ∀ m ∈ before, m.1 ≠ .text "properties") (hkey : textOf key = .ok name)
      (hfresh : ∀ m ∈ tables, textOf m.1 ≠ .ok name) :
      TableAdded name (.map (before ++ (.text "properties", .map tables) :: after))
        (.map (before ++ (.text "properties", .map (tables ++ [(key, table)])) :: after))

theorem member?_append_cons {before after : List (Scalar × Value)} {name : String} {v : Value}
    (h : ∀ m ∈ before, m.1 ≠ .text name) : member? (before ++ (.text name, v) :: after) name = some v := by
  have hbefore : before.lookup (.text name) = none := by
    rw [List.lookup_eq_none_iff]
    intro m hm
    simpa using (h m hm).symm
  rw [member?, List.lookup_append, hbefore, Option.none_or, List.lookup_cons_self]

theorem forall₂_concat_left {α β : Type} {R : α → β → Prop} {xs : List α} {x : α} {zs : List β}
    (h : List.Forall₂ R (xs ++ [x]) zs) : ∃ ys y, zs = ys ++ [y] ∧ List.Forall₂ R xs ys ∧ R x y := by
  induction xs generalizing zs with
  | nil =>
    obtain ⟨y, _, hy, hrest, rfl⟩ := List.forall₂_cons_left_iff.mp h
    cases hrest
    exact ⟨[], y, rfl, .nil, hy⟩
  | cons x' xs ih =>
    obtain ⟨y', _, hy', hrest, rfl⟩ := List.forall₂_cons_left_iff.mp h
    obtain ⟨ys, y, rfl, hys, hy⟩ := ih hrest
    exact ⟨y' :: ys, y, rfl, .cons hy' hys, hy⟩

/-- A table that is added to a document is added to its shape. -/
theorem TableAdded.tables_eq {name : String} {document other : Value} (h : TableAdded name document other)
    {db db' : Database} (hread : read document = .ok db) (hother : read other = .ok db') :
    ∃ t, db'.tables = db.tables ++ [(name, t)] := by
  cases h with
  | @added before tables after key table hbefore hkey hfresh =>
    obtain ⟨_, _, found, hmembers, hproperties, hfound, htables⟩ := read_cases hread
    cases hmembers
    cases (member?_append_cons hbefore).symm.trans hproperties
    obtain ⟨_, _, found', hmembers', hproperties', hfound', htables'⟩ := read_cases hother
    cases hmembers'
    cases (member?_append_cons hbefore).symm.trans hproperties'
    obtain ⟨init, ⟨name', t⟩, rfl, hinit, hname, -⟩ := forall₂_concat_left (readEntries_eq_ok_iff.mp hfound')
    obtain rfl : init = found := Except.ok.inj ((readEntries_eq_ok_iff.mpr hinit).symm.trans hfound)
    obtain rfl : name = name' := Except.ok.inj (hkey.symm.trans hname)
    have hnew : name ∉ init.map Prod.fst := by
      intro hmem
      obtain ⟨p, hp, rfl⟩ := List.mem_map.mp hmem
      obtain ⟨m, hm, htext, -⟩ := of_mem_readEntries hfound hp
      exact hfresh m hm htext
    exact ⟨t, by rw [htables, htables', named_concat hnew]⟩

end Shape

namespace Flat

variable {old new : List Table}

/-! ### Resolution of more tables -/

theorem duplicateProblems_append {seen : List String} (hnames : (old.map (·.name)).Nodup)
    (hseen : ∀ t ∈ old, t.name ∉ seen) :
    duplicateProblems seen (old ++ new) = duplicateProblems ((old.map (·.name)).reverse ++ seen) new := by
  induction old generalizing seen with
  | nil => rfl
  | cons t rest ih =>
    obtain ⟨hname, hnames⟩ := List.nodup_cons.mp hnames
    obtain ⟨hhead, hrest⟩ := List.forall_mem_cons.mp hseen
    have hseen' : ∀ t' ∈ rest, t'.name ∉ t.name :: seen := by
      intro t' ht' hmem
      rcases List.mem_cons.mp hmem with heq | hmem
      · exact hname (List.mem_map.mpr ⟨t', ht', heq⟩)
      · exact hrest t' ht' hmem
    rw [List.cons_append, duplicateProblems, if_neg hhead, ih hnames hseen']
    simp

theorem of_mem_duplicateProblems {tables : List Table} {seen : List String} {p : Problem}
    (h : p ∈ duplicateProblems seen tables) : ∃ t ∈ tables, p = ⟨[.name t.name], .duplicateTable t.name⟩ := by
  induction tables generalizing seen with
  | nil => cases h
  | cons t rest ih =>
    have hbelow : ∀ {seen : List String}, p ∈ duplicateProblems seen rest →
        ∃ t' ∈ t :: rest, p = ⟨[.name t'.name], .duplicateTable t'.name⟩ := by
      intro seen hp
      obtain ⟨t', ht', rfl⟩ := ih hp
      exact ⟨t', List.mem_cons_of_mem _ ht', rfl⟩
    rw [duplicateProblems] at h
    split at h
    · rcases List.mem_cons.mp h with rfl | h
      · exact ⟨t, List.mem_cons_self, rfl⟩
      · exact hbelow h
    · exact hbelow h

/-- The kinds of problems with references. -/
def referenceKinds : List Kind := [.unknownTable, .unknownColumn, .invalidTargetType]

/-- A reference that leads nowhere is reported where it stands. -/
theorem of_resolveReference_eq_error {tables : List Table} {r : Reference} {p : Problem}
    (h : resolveReference tables r = .error p) : p.loc = r.loc ∧ p.cause.kind ∈ referenceKinds := by
  unfold resolveReference at h
  rcases Shape.Pointer.split r.pointer with ⟨table, column⟩
  dsimp only at h
  split at h
  · cases h
    exact ⟨rfl, by simp [Problem.Cause.kind, referenceKinds]⟩
  · split at h
    · cases h
      split
      · exact ⟨rfl, by simp [Problem.Cause.kind, referenceKinds]⟩
      · exact ⟨rfl, by simp [Problem.Cause.kind, referenceKinds]⟩
    · split at h
      · cases h
      · cases h
        exact ⟨rfl, by simp [Problem.Cause.kind, referenceKinds]⟩

theorem of_mem_referenceProblems {tables : List Table} {p : Problem} (h : p ∈ referenceProblems tables) :
    ∃ t ∈ tables, ∃ r ∈ t.references, resolveReference tables r = .error p := by
  obtain ⟨t, ht, hp⟩ := List.mem_flatMap.mp h
  obtain ⟨r, hr, hp⟩ := List.mem_filterMap.mp hp
  refine ⟨t, ht, r, hr, ?_⟩
  cases hcase : resolveReference tables r with
  | error q =>
    rw [hcase] at hp
    exact congrArg _ (Option.some.inj hp)
  | ok k =>
    rw [hcase] at hp
    cases hp

/-- Tables that come after the others leave a reference that is resolved as it is. -/
theorem resolveReference_append {r : Reference} {k : ForeignKey} (h : resolveReference old r = .ok k) :
    resolveReference (old ++ new) r = .ok k := by
  obtain ⟨target, c, htarget, hc, htype, rfl⟩ := resolveReference_eq_ok_iff.mp h
  refine resolveReference_eq_ok_iff.mpr ⟨target, c, ?_, hc, htype, rfl⟩
  rw [List.find?_append, htarget, Option.some_or]

theorem resolveTable_append {t : Table} (h : ∀ r ∈ t.references, ∃ k, resolveReference old r = .ok k) :
    resolveTable (old ++ new) t = resolveTable old t := by
  unfold resolveTable
  congr 1
  refine List.filterMap_congr fun r hr => ?_
  obtain ⟨k, hk⟩ := h r hr
  rw [hk, resolveReference_append hk]

/-- Tables that come after resolved ones are resolved and added to them, or each problem is about one of them. -/
theorem resolve_append {resolved : List ResolvedTable} (h : resolve old = .ok resolved) :
    (∃ added, resolve (old ++ new) = .ok (resolved ++ added) ∧ added.map (·.toTable) = new) ∨
      ∃ problems, resolve (old ++ new) = .error problems ∧ problems ≠ [] ∧ ∀ p ∈ problems,
        (∃ t ∈ new, p = ⟨[.name t.name], .duplicateTable t.name⟩) ∨
        ∃ t ∈ new, ∃ r ∈ t.references, p.loc = r.loc ∧ p.cause.kind ∈ referenceKinds := by
  obtain ⟨hnames, hreferences, rfl⟩ := resolve_eq_ok_iff.mp h
  cases hall : resolve (old ++ new) with
  | ok resolved =>
    obtain ⟨-, -, rfl⟩ := resolve_eq_ok_iff.mp hall
    have hold : old.map (resolveTable (old ++ new)) = old.map (resolveTable old) :=
      List.map_congr_left fun t ht => resolveTable_append (hreferences t ht)
    refine .inl ⟨new.map (resolveTable (old ++ new)), by rw [List.map_append, hold], ?_⟩
    rw [List.map_map]
    exact List.map_id' new
  | error problems =>
    obtain ⟨hproblems, hne⟩ := resolve_eq_error_iff.mp hall
    refine .inr ⟨problems, rfl, hne, fun p hp => ?_⟩
    rw [hproblems, duplicateProblems_append hnames (by simp), List.mem_append] at hp
    refine hp.imp of_mem_duplicateProblems fun hp => ?_
    obtain ⟨t, ht, r, hr, herror⟩ := of_mem_referenceProblems hp
    rcases List.mem_append.mp ht with ht | ht
    · -- the references of the old tables are resolved
      obtain ⟨k, hk⟩ := hreferences t ht r hr
      cases (resolveReference_append hk).symm.trans herror
    · exact ⟨t, ht, r, hr, of_resolveReference_eq_error herror⟩

/-- The references of what is nested in a table at the root stand below it. -/
theorem schemaPath_of_mem_flatten {name : String} {u : Shape.Table} :
    ∀ t ∈ flatten ⟨[(name, u)]⟩, ∀ r ∈ t.references, ∃ rest, r.schemaPath = "properties" :: name :: rest := by
  have hnodes : ∀ n ∈ nodes ⟨[(name, u)]⟩, ∃ rest, n.way.schemaPath = "properties" :: name :: rest := by
    apply of_mem_nodes
    · rintro r hr
      obtain rfl := List.mem_singleton.mp hr
      exact ⟨["properties"], rfl⟩
    · rintro n ⟨rest, hrest⟩ c hc
      obtain ⟨⟨property, column⟩, -, hchild⟩ := List.mem_filterMap.mp hc
      cases column <;> cases hchild <;> exact ⟨_, by rw [Way.to, hrest, List.append_assoc]; rfl⟩
  intro t ht r hr
  rw [flatten_eq_map_nodes] at ht
  obtain ⟨n, hn, rfl⟩ := List.mem_map.mp ht
  obtain ⟨_, _, -, rfl⟩ := mem_flatReferences_iff.mp hr
  exact hnodes n (List.mem_of_mem_filter hn)

theorem flatten_concat {db : Shape.Database} {name : String} {t : Shape.Table} {db' : Shape.Database}
    (h : db'.tables = db.tables ++ [(name, t)]) : flatten db' = flatten db ++ flatten ⟨[(name, t)]⟩ := by
  rw [flatten, h, List.flatMap_append]
  rfl

end Flat

open Flat (ResolvedTable flatten)
open Shape (Database TableAdded)

/-- When a table is added to a compiled document and the document stays valid, the tables that there were are the
first of the new ones, unchanged; or each problem is that a table of the new ones has a name that is taken, or it is
one with a reference and located below the new table. -/
theorem compile_added {name : String} {document other : Value} {tables : List ResolvedTable} {db' : Database}
    (hadded : TableAdded name document other) (h : compile document = .ok tables) (hvalid : validate other = .ok db') :
    ∃ db t, validate document = .ok db ∧ db'.tables = db.tables ++ [(name, t)] ∧
      ((∃ added, compile other = .ok (tables ++ added) ∧ added.map (·.toTable) = flatten ⟨[(name, t)]⟩) ∨
        ∃ problems, compile other = .error (.refused problems) ∧ problems ≠ [] ∧ ∀ p ∈ problems,
          (∃ s ∈ (flatten ⟨[(name, t)]⟩).map (·.name), p = ⟨[.name s], .duplicateTable s⟩) ∨
          p.cause.kind ∈ Flat.referenceKinds ∧ ∃ rest, p.loc = .name "properties" :: .name name :: rest) := by
  obtain ⟨db, hdb, hresolve⟩ := compile_eq_ok_iff.mp h
  obtain ⟨t, htables⟩ := hadded.tables_eq (validate_eq_ok_iff.mp hdb).2.1 (validate_eq_ok_iff.mp hvalid).2.1
  have hcompile : compile other = resolveAll (flatten db ++ flatten ⟨[(name, t)]⟩) := by
    rw [compile, hvalid, ← Flat.flatten_concat htables]
    rfl
  refine ⟨db, t, hdb, htables, ?_⟩
  rw [hcompile, resolveAll]
  rcases Flat.resolve_append hresolve with ⟨added, hadded, hflat⟩ | ⟨problems, herror, hne, hproblems⟩
  · exact .inl ⟨added, by rw [hadded], hflat⟩
  · refine .inr ⟨problems, by rw [herror], hne, fun p hp => ?_⟩
    rcases hproblems p hp with ⟨flat, hflat, rfl⟩ | ⟨flat, hflat, r, hr, hloc, hkind⟩
    · exact .inl ⟨flat.name, List.mem_map_of_mem hflat, rfl⟩
    · obtain ⟨rest, hrest⟩ := Flat.schemaPath_of_mem_flatten flat hflat r hr
      exact .inr ⟨hkind, _, by rw [hloc, Flat.Reference.loc, hrest]; rfl⟩

/-- A blog with tags on posts, and on something that is not there. -/
def taggedBlog : Value := objectOf
  [("users", objectOf [("id", typed "integer"), ("name", typed "string")]),
   ("posts", objectOf [("id", typed "integer"), ("author", pointing "#/users/name"),
     ("comments", arrayOf (objectOf [("text", typed "string")]))]),
   ("tags", objectOf [("post", pointing "#/posts/id"), ("page", pointing "#/pages/id")])]

theorem compile_added_taggedBlog : ∃ db', TableAdded "tags" blog taggedBlog ∧ compile blog = .ok Flat.blogTables ∧
    validate taggedBlog = .ok db' ∧ ∃ db t, validate blog = .ok db ∧ db'.tables = db.tables ++ [("tags", t)] ∧
      ((∃ added, compile taggedBlog = .ok (Flat.blogTables ++ added) ∧
          added.map (·.toTable) = flatten ⟨[("tags", t)]⟩) ∨
        ∃ problems, compile taggedBlog = .error (.refused problems) ∧ problems ≠ [] ∧ ∀ p ∈ problems,
          (∃ s ∈ (flatten ⟨[("tags", t)]⟩).map (·.name), p = ⟨[.name s], .duplicateTable s⟩) ∨
          p.cause.kind ∈ Flat.referenceKinds ∧ ∃ rest, p.loc = .name "properties" :: .name "tags" :: rest) := by
  have hadded : TableAdded "tags" blog taggedBlog :=
    @TableAdded.added "tags" [(.text "type", .text "object")] _ [] (.text "tags") _ (by simp) rfl (by
      simp [Reading.textOf])
  obtain ⟨db', hvalid⟩ : ∃ db', validate taggedBlog = .ok db' := ⟨_, rfl⟩
  exact ⟨db', hadded, Flat.compile_blog, hvalid, compile_added hadded Flat.compile_blog hvalid⟩

end ShapeTables
