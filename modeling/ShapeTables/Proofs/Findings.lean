import Mathlib.Data.List.Basic
import ShapeTables.MetaSchema.Check
import ShapeTables.Proofs.ShapeReading

/-! What the check of a document against a draft finds. A finding is a misfit unless the value cannot be written
out or has a text in it that is no question as a pattern; of other documents that name their draft, then, it is
always said whether they are schemas. -/
namespace ShapeTables.MetaSchema

open Shape (mem_of_lookup_eq_some size_induction sizeOf_lt_of_mem)

/-- Values with a text in them, the keys of maps included. -/
inductive HasText (s : String) : Value → Prop
  | here : HasText s (.text s)
  | item {items : List Value} {v : Value} (hv : v ∈ items) (h : HasText s v) : HasText s (.list items)
  | key {members : List (Scalar × Value)} {v : Value} (h : (.text s, v) ∈ members) : HasText s (.map members)
  | member {members : List (Scalar × Value)} {m : Scalar × Value} (hm : m ∈ members) (h : HasText s m.2) :
    HasText s (.map members)

/-- What can be found in a value. -/
inductive Explained (v : Value) : Finding → Prop
  | misfit : Explained v .misfit
  | unwritable (h : v.isWritable = false) : Explained v .unwritable
  | unanswerable {s : String} {fault : Pattern.Fault} (hs : HasText s v) (h : Pattern.check s = .error fault)
      (hfault : fault ≠ .malformed) : Explained v (.unanswerable fault)

/-! ### Values in values -/

theorem itemsWritable_eq (items : List Value) : Value.itemsWritable items = items.all Value.isWritable := by
  induction items with
  | nil => rfl
  | cons v rest ih => rw [Value.itemsWritable, ih, List.all_cons]

theorem membersWritable_eq (members : List (Scalar × Value)) :
    Value.membersWritable members = members.all fun m => m.1.isWritable && m.2.isWritable := by
  induction members with
  | nil => rfl
  | cons m rest ih => rw [Value.membersWritable, ih, List.all_cons]

section Explained

variable {v : Value} {items : List Value} {members : List (Scalar × Value)} {f : Finding}

theorem Explained.item (hv : v ∈ items) (h : Explained v f) : Explained (.list items) f := by
  cases h with
  | misfit => exact .misfit
  | unwritable h =>
    refine .unwritable ?_
    rw [Value.isWritable, itemsWritable_eq, List.all_eq_false]
    exact ⟨v, hv, by simp [h]⟩
  | unanswerable hs h hfault => exact .unanswerable (.item hv hs) h hfault

theorem Explained.member {m : Scalar × Value} (hm : m ∈ members) (h : Explained m.2 f) :
    Explained (.map members) f := by
  cases h with
  | misfit => exact .misfit
  | unwritable h =>
    refine .unwritable ?_
    rw [Value.isWritable, membersWritable_eq, List.all_eq_false]
    exact ⟨m, hm, by simp [h]⟩
  | unanswerable hs h hfault => exact .unanswerable (.member hm hs) h hfault

theorem Explained.key {key : Scalar} (hm : (key, v) ∈ members) (h : Explained (.scalar key) f) :
    Explained (.map members) f := by
  cases h with
  | misfit => exact .misfit
  | unwritable h =>
    rw [Value.isWritable] at h
    refine .unwritable ?_
    rw [Value.isWritable, membersWritable_eq, List.all_eq_false]
    exact ⟨_, hm, by simp [h]⟩
  | unanswerable hs h hfault =>
    cases hs
    exact .unanswerable (.key hm) h hfault

end Explained

/-! ### Parts of the check -/

section Parts

variable {v : Value} {f : Finding} {found : List Finding}

theorem explained_of_mem_misfitUnless {p : Bool} (h : f ∈ misfitUnless p) : Explained v f := by
  unfold misfitUnless at h
  split at h
  · simp at h
  · rw [List.mem_singleton.mp h]
    exact .misfit

theorem explained_of_mem_misfitOf (h : f ∈ misfitOf v) : Explained v f := by
  unfold misfitOf at h
  split at h
  · rw [List.mem_singleton.mp h]
    exact .misfit
  · next hv =>
    rw [List.mem_singleton.mp h]
    exact .unwritable (Bool.eq_false_iff.mpr hv)

theorem explained_of_mem_patternFindings {s : String} (h : f ∈ patternFindings s) : Explained (.text s) f := by
  unfold patternFindings at h
  split at h
  · simp at h
  · rw [List.mem_singleton.mp h]
    exact .misfit
  · next fault hfault hcheck =>
    rw [List.mem_singleton.mp h]
    exact .unanswerable .here hcheck hfault

theorem explained_of_mem_writtenOut (hfound : ∀ f ∈ found, Explained v f) (h : f ∈ writtenOut v found) :
    Explained v f := by
  obtain ⟨g, hg, hf⟩ := List.mem_flatMap.mp h
  split at hf
  · exact explained_of_mem_misfitOf hf
  · rw [List.mem_singleton.mp hf]
    exact hfound g hg

theorem explained_of_mem_settle {trial : Trial} (hfound : ∀ f ∈ found, Explained v f)
    (h : f ∈ trial.settle v found) : Explained v f := by
  unfold Trial.settle at h
  split at h
  · next hlate =>
    rw [List.mem_singleton.mp h]
    exact .unwritable (by simpa using (Bool.and_eq_true_iff.mp hlate).2)
  · split at h
    · split at h
      · next g hg =>
        rw [List.mem_singleton.mp h]
        exact hfound g (List.mem_of_find?_eq_some hg)
      · split at h
        · simp at h
        · exact explained_of_mem_misfitOf h
    · exact hfound f h

theorem explained_of_mem_scalar {d : Draft} {form : Form} {s : Scalar} (h : f ∈ form.scalar d s) :
    Explained (.scalar s) f := by
  have hmisfit : f ∈ [Finding.misfit] → Explained (.scalar s) f := fun hf => List.mem_singleton.mp hf ▸ .misfit
  cases form with
  | any => cases h
  | pattern =>
    cases s with
    | text p => exact explained_of_mem_patternFindings h
    | _ => exact hmisfit h
  | positive =>
    cases s with
    | nan => cases h
    | int n => exact explained_of_mem_misfitUnless h
    | float x => exact explained_of_mem_misfitUnless h
    | _ => exact hmisfit h
  | _ =>
    simp only [Form.scalar] at h
    first
    | exact explained_of_mem_misfitUnless h
    | exact hmisfit h
    | split at h <;> first | exact explained_of_mem_misfitUnless h | exact hmisfit h

theorem explained_of_mem_listForm {form : ListForm} {items : List Value} (h : f ∈ form.findings items) :
    Explained (.list items) f := by
  unfold ListForm.findings at h
  split at h
  · simp at h
  · exact explained_of_mem_misfitOf h

theorem explained_of_mem_names {names : NameForm} {key : Scalar} (h : f ∈ names.findings key) :
    Explained (.scalar key) f := by
  unfold NameForm.findings at h
  split at h
  · simp at h
  · exact explained_of_mem_writtenOut (fun f hf => explained_of_mem_misfitUnless hf) h
  · exact explained_of_mem_patternFindings h
  · simp at h

end Parts

/-! ### The check -/

variable {d : Draft}

theorem itemFindings_eq (form : Form) (items : List Value) :
    itemFindings d form items = items.flatMap (findings d form) := by
  induction items with
  | nil => rfl
  | cons v rest ih => rw [itemFindings, ih, List.flatMap_cons]

theorem memberFindings_eq (form : Scalar → Form) (members : List (Scalar × Value)) :
    memberFindings d form members = members.map fun m => (m.1, findings d (form m.1) m.2) := by
  induction members with
  | nil => rfl
  | cons m rest ih => rw [memberFindings, ih, List.map_cons]

/-- Each finding in a value is a misfit or lies in the value. -/
theorem explained_of_mem_findings (v : Value) : ∀ form, ∀ f ∈ findings d form v, Explained v f := by
  induction v using size_induction with
  | step v ih =>
    intro form f hf
    cases v with
    | scalar s => exact explained_of_mem_writtenOut (fun f hf => explained_of_mem_scalar hf) hf
    | list items =>
      rw [findings] at hf
      split at hf
      · next listForm =>
        refine explained_of_mem_settle (fun f hf => ?_) hf
        rw [itemFindings_eq, List.mem_append, List.mem_flatMap] at hf
        rcases hf with ⟨v, hv, hf⟩ | hf
        · exact (ih v (Nat.lt_trans (List.sizeOf_lt_of_mem hv) (by simp)) _ f hf).item hv
        · exact explained_of_mem_listForm hf
      · split at hf
        · simp at hf
        · exact explained_of_mem_misfitOf hf
    | map members =>
      have hmember : ∀ m ∈ members, ∀ form, ∀ f ∈ findings d form m.2, Explained (.map members) f :=
        fun m hm form f hf => (ih m.2 (sizeOf_lt_of_mem hm) form f hf).member hm
      rw [findings] at hf
      split at hf
      · refine explained_of_mem_settle (fun f hf => ?_) hf
        rw [List.mem_append, List.mem_flatMap, memberFindings_eq] at hf
        rcases hf with ⟨⟨name, _⟩, -, hf⟩ | hf
        · cases hlookup : (members.map fun m => (m.1, findings d (d.form m.1) m.2)).lookup (.text name) with
          | none => simp [hlookup] at hf
          | some found =>
            obtain ⟨m, hm, heq⟩ := List.mem_map.mp (mem_of_lookup_eq_some hlookup)
            obtain ⟨-, rfl⟩ := Prod.mk.inj heq
            exact hmember m hm _ f (by simpa [hlookup] using hf)
        · exact explained_of_mem_misfitUnless hf
      · rw [List.mem_append, List.mem_flatMap, List.mem_flatMap, memberFindings_eq] at hf
        rcases hf with ⟨_, hmem, hf⟩ | ⟨⟨key, v⟩, hm, hf⟩
        · obtain ⟨m, hm, rfl⟩ := List.mem_map.mp hmem
          exact hmember m hm _ f hf
        · exact (explained_of_mem_names hf).key hm
      · split at hf
        · simp at hf
        · exact explained_of_mem_misfitOf hf
    | _ =>
      simp only [findings] at hf
      split at hf
      · simp at hf
      · exact explained_of_mem_misfitOf hf

/-- Documents of which it is not said whether they are schemas: they name no draft by `$schema`, or the first
thing that is found in them is a question without an answer. -/
inductive Unanswered : Value → Prop
  | draft {members : List (Scalar × Value)} {cause : Uncheckable} (h : draftOf members = .error cause) :
    Unanswered (.map members)
  | finding {members : List (Scalar × Value)} {d : Draft} {f : Finding} {rest : List Finding}
      (hd : draftOf members = .ok d) (h : findings d .schema (.map members) = f :: rest) (hf : f ≠ .misfit) :
    Unanswered (.map members)

theorem unanswered_map_iff {members : List (Scalar × Value)} (hd : draftOf members = .ok d) :
    Unanswered (.map members) ↔ ∃ f ∈ (findings d .schema (.map members)).head?, f ≠ .misfit := by
  constructor
  · intro h
    cases h with
    | draft h => simp [hd] at h
    | finding hd' h hf =>
      cases hd.symm.trans hd'
      exact ⟨_, by rw [h]; rfl, hf⟩
  · rintro ⟨f, hhead, hf⟩
    obtain ⟨rest, hfindings⟩ := List.head?_eq_some_iff.mp hhead
    exact .finding hd hfindings hf

/-- The check of a document says whether it is a schema unless it is brought down. -/
theorem exists_isSchema_iff (document : Value) : (∃ b, isSchema document = .ok b) ↔ ¬Unanswered document := by
  cases document with
  | map members =>
    cases hd : draftOf members with
    | error cause =>
      have hunanswered : Unanswered (.map members) := .draft hd
      simp [isSchema, hd, hunanswered, bind, Except.bind]
    | ok d =>
      rw [unanswered_map_iff hd]
      cases hfindings : findings d .schema (.map members) with
      | nil => simp [isSchema, hd, hfindings, bind, Except.bind, pure, Except.pure]
      | cons f rest =>
        cases explained_of_mem_findings _ _ f (hfindings ▸ List.mem_cons_self) with
        | misfit => simp [isSchema, hd, hfindings, bind, Except.bind, pure, Except.pure]
        | unwritable => simp [isSchema, hd, hfindings, bind, Except.bind, throw, throwThe, MonadExceptOf.throw]
        | @unanswerable s fault _ _ hfault =>
          cases fault with
          | malformed => exact absurd rfl hfault
          | _ => simp [isSchema, hd, hfindings, bind, Except.bind, throw, throwThe, MonadExceptOf.throw]
  | scalar s =>
    have hanswered : ¬Unanswered (.scalar s) := nofun
    cases s <;> simp [isSchema, hanswered]
  | _ => exact ⟨fun _ => nofun, fun _ => ⟨false, rfl⟩⟩

/-- It is said of every document that names its draft, if it can be written out and each text in it that is no
pattern is malformed as one. -/
theorem not_unanswered {document : Value}
    (hdraft : ∀ members, document = .map members → ∃ d, draftOf members = .ok d)
    (hwritable : document.isWritable)
    (hpattern : ∀ s, HasText s document → ∀ fault, Pattern.check s = .error fault → fault = .malformed) :
    ¬Unanswered document := by
  intro h
  cases h with
  | @draft members cause h =>
    obtain ⟨d, hd⟩ := hdraft members rfl
    simp [hd] at h
  | finding hd hfindings hf =>
    cases explained_of_mem_findings _ _ _ (hfindings ▸ List.mem_cons_self) with
    | misfit => exact hf rfl
    | unwritable h => exact absurd hwritable (by rw [h]; exact Bool.false_ne_true)
    | unanswerable hs h hfault => exact hfault (hpattern _ hs _ h)

end ShapeTables.MetaSchema
