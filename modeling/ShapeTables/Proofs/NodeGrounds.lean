import Mathlib.Data.List.Basic
import ShapeTables.Proofs.TokenGrounds
import ShapeTables.Yaml.Reader

/-! Grounds of failures in documents of YAML. Where reading a document fails for another reason than its form, there is a
ground in the text, or a scalar of the document is spelled like nothing that its tag stands for; that scalar may be
borrowed by a mapping from a value key. -/
namespace ShapeTables.Yaml

/-! ### Programs with states -/

section Keeps

variable {σ ε α β : Type} {I : σ → Prop} {E : ε → Prop}

/-- A program keeps a property of states, and fails only as given. -/
def Keeps (I : σ → Prop) (E : ε → Prop) (p : StateT σ (Except ε) α) : Prop :=
  ∀ s, I s → match p.run s with
    | .ok (_, next) => I next
    | .error e => E e

namespace Keeps

theorem error {p : StateT σ (Except ε) α} (h : Keeps I E p) {s : σ} (hs : I s) {e : ε} (hrun : p.run s = .error e) :
    E e := by
  have hp := h s hs
  rwa [hrun] at hp

theorem ok {p : StateT σ (Except ε) α} (h : Keeps I E p) {s next : σ} (hs : I s) {a : α}
    (hrun : p.run s = .ok (a, next)) : I next := by
  have hp := h s hs
  rwa [hrun] at hp

theorem pure (a : α) : Keeps I E (Pure.pure a) := fun _ h => h

theorem throw {e : ε} (h : E e) : Keeps I E (throw e : StateT σ (Except ε) α) := fun _ _ => h

theorem modify_bind {f : σ → σ} {p : PUnit → StateT σ (Except ε) β} (h : ∀ s, I s → I (f s))
    (hp : ∀ u, Keeps I E (p u)) : Keeps I E (modify f >>= p) := fun s hs => hp _ (f s) (h s hs)

theorem modify {f : σ → σ} (h : ∀ s, I s → I (f s)) : Keeps I E (modify f : StateT σ (Except ε) Unit) := h

theorem bind {p : StateT σ (Except ε) α} {f : α → StateT σ (Except ε) β} (h : Keeps I E p) (hf : ∀ a, Keeps I E (f a)) :
    Keeps I E (p >>= f) := by
  intro s hs
  rw [StateT.run_bind]
  cases hrun : p.run s with
  | ok found => exact hf found.1 found.2 (h.ok hs hrun)
  | error e => exact h.error hs hrun

/-- What a state says may be used after it. -/
theorem get_bind {f : σ → StateT σ (Except ε) β} (hf : ∀ s, I s → Keeps I E (f s)) : Keeps I E (get >>= f) :=
  fun s hs => hf s hs s hs

/-- A result without states may be used, or is a failure. -/
theorem lift_bind {r : Except ε α} {f : α → StateT σ (Except ε) β} (hok : ∀ a, r = .ok a → Keeps I E (f a))
    (herror : ∀ e, r = .error e → E e) : Keeps I E (liftM r >>= f) := by
  cases r with
  | ok a => exact hok a rfl
  | error e => exact fun _ _ => herror e rfl

theorem mapM {f : α → StateT σ (Except ε) β} (hf : ∀ a, Keeps I E (f a)) (as : List α) : Keeps I E (as.mapM f) := by
  induction as with
  | nil => exact Keeps.pure []
  | cons a as ih =>
    rw [List.mapM_cons]
    exact (hf a).bind fun b => ih.bind fun bs => Keeps.pure (b :: bs)

theorem forM {f : α → StateT σ (Except ε) PUnit} (hf : ∀ a, Keeps I E (f a)) (as : List α) : Keeps I E (as.forM f) := by
  induction as with
  | nil => exact Keeps.pure _
  | cons a as ih => exact (hf a).bind fun _ => ih

end Keeps

end Keeps

/-! ### Parsing -/

namespace Parser

variable {α β : Type} {stop : Failure}

/-- A parser fails for the grammar, or for the reason that there are no more tokens. -/
abbrev Sound (stop : Failure) (p : Parser α) : Prop :=
  Keeps (fun s => s.stop = stop) (fun e => e = .malformed ∨ e = stop) p

theorem fail_sound : Sound stop (fail : Parser α) := Keeps.throw (Or.inl rfl)

/-- A parser goes on after what is done under a condition. -/
theorem when_sound {c : Prop} [Decidable c] {first : Parser PUnit} {p : PUnit → Parser α} (hfirst : Sound stop first)
    (h : ∀ u, Sound stop (p u)) : Sound stop (if c then first >>= p else p ⟨⟩) := by
  split
  · exact hfirst.bind h
  · exact h ⟨⟩

theorem skip_sound : Sound stop skip := Keeps.modify fun _ h => h

theorem peek_sound : Sound stop peek := by
  refine Keeps.get_bind fun s _ => ?_
  split
  · exact Keeps.pure _
  · exact Keeps.get_bind fun s hs => Keeps.throw (Or.inr hs)

theorem expect_sound (t : Token) : Sound stop (expect t) := by
  refine peek_sound.bind fun next => ?_
  split
  · exact skip_sound
  · exact fail_sound

theorem fullTag_sound (handle : Option String) (suffix : String) : Sound stop (fullTag handle suffix) := by
  unfold fullTag
  split
  · exact Keeps.pure _
  · refine Keeps.get_bind fun s _ => ?_
    split
    · exact Keeps.pure _
    · exact fail_sound

theorem readProperties_sound : Sound stop readProperties := by
  refine peek_sound.bind fun t => ?_
  split
  · refine skip_sound.bind fun _ => peek_sound.bind fun t => ?_
    split
    · exact skip_sound.bind fun _ => (fullTag_sound _ _).bind fun _ => Keeps.pure _
    · exact Keeps.pure _
  · refine skip_sound.bind fun _ => peek_sound.bind fun t => ?_
    split
    · exact skip_sound.bind fun _ => (fullTag_sound _ _).bind fun _ => Keeps.pure _
    · exact (fullTag_sound _ _).bind fun _ => Keeps.pure _
  · exact Keeps.pure _

theorem addNode_sound (node : Node) : Sound stop (addNode node) :=
  Keeps.get_bind fun _ _ => Keeps.modify_bind (fun _ h => h) fun _ => Keeps.pure _

theorem openNode_sound (p : Properties) (tag : Tag) : Sound stop (openNode p tag) := by
  refine (addNode_sound _).bind fun id => ?_
  split
  · exact Keeps.pure _
  · exact Keeps.get_bind fun s _ => when_sound fail_sound fun _ =>
      Keeps.modify_bind (fun _ h => h) fun _ => Keeps.pure _

theorem closeNode_sound (id : Nat) (tag : Tag) (body : Body) : Sound stop (closeNode id tag body) :=
  Keeps.modify_bind (fun _ h => h) fun _ => Keeps.pure _

theorem findAnchor_sound (name : String) : Sound stop (findAnchor name) := by
  refine Keeps.get_bind fun s _ => ?_
  split
  · exact Keeps.pure _
  · exact fail_sound

theorem emptyNode_sound : Sound stop emptyNode := addNode_sound _

/-- Nodes are read with so much fuel. -/
structure ReadsNodes (stop : Failure) (fuel : Nat) : Prop where
  node : ∀ expected, Sound stop (readNode expected fuel)
  nodeUnless : ∀ closing expected, Sound stop (readUnless closing expected fuel)
  blockItems : Sound stop (readBlockItems fuel)
  indentless : Sound stop (readIndentless fuel)
  blockMembers : Sound stop (readBlockMembers fuel)
  blockValue : Sound stop (readBlockValue fuel)
  flowItems : ∀ first, Sound stop (readFlowItems first fuel)
  flowMembers : ∀ first, Sound stop (readFlowMembers first fuel)
  flowValue : ∀ closing, Sound stop (readFlowValue closing fuel)

theorem readNode_sound {fuel : Nat} (h : ReadsNodes stop fuel) (expected : Expected) :
    Sound stop (readNode expected (fuel + 1)) := by
  rw [readNode]
  refine peek_sound.bind fun t => ?_
  split
  · exact skip_sound.bind fun _ => findAnchor_sound _
  · refine readProperties_sound.bind fun p => peek_sound.bind fun next => ?_
    dsimp only
    split
    · exact (openNode_sound _ _).bind fun id => h.indentless.bind fun items => closeNode_sound _ _ _
    · split
      · exact skip_sound.bind fun _ => (openNode_sound _ _).bind fun id => closeNode_sound _ _ _
      · exact skip_sound.bind fun _ => (openNode_sound _ _).bind fun id =>
          (h.flowItems true).bind fun items => closeNode_sound _ _ _
      · exact skip_sound.bind fun _ => (openNode_sound _ _).bind fun id =>
          (h.flowMembers true).bind fun members => closeNode_sound _ _ _
      · exact when_sound fail_sound fun _ => skip_sound.bind fun _ => (openNode_sound _ _).bind fun id =>
          h.blockItems.bind fun items => closeNode_sound _ _ _
      · exact when_sound fail_sound fun _ => skip_sound.bind fun _ => (openNode_sound _ _).bind fun id =>
          h.blockMembers.bind fun members => closeNode_sound _ _ _
      · exact when_sound fail_sound fun _ => (openNode_sound _ _).bind fun id => closeNode_sound _ _ _

/-- The parts of a node are read before it, with less fuel. -/
theorem readsNodes (fuel : Nat) : ReadsNodes stop fuel := by
  induction fuel with
  | zero =>
    exact ⟨fun _ => fail_sound, fun _ _ => fail_sound, fail_sound, fail_sound, fail_sound, fail_sound,
      fun _ => fail_sound, fun _ => fail_sound, fun _ => fail_sound⟩
  | succ fuel ih =>
    refine ⟨readNode_sound ih, ?nodeUnless, ?blockItems, ?indentless, ?blockMembers, ?blockValue, ?flowItems,
      ?flowMembers, ?flowValue⟩
    case nodeUnless =>
      intro closing expected
      rw [readUnless]
      refine peek_sound.bind fun t => ?_
      split
      · exact emptyNode_sound
      · exact ih.node expected
    case blockItems =>
      rw [readBlockItems]
      refine peek_sound.bind fun t => ?_
      split
      · exact skip_sound.bind fun _ => (ih.nodeUnless _ _).bind fun node => ih.blockItems.bind fun _ => Keeps.pure _
      · exact skip_sound.bind fun _ => Keeps.pure _
      · exact fail_sound
    case indentless =>
      rw [readIndentless]
      refine peek_sound.bind fun t => ?_
      split
      · exact skip_sound.bind fun _ => (ih.nodeUnless _ _).bind fun node => ih.indentless.bind fun _ => Keeps.pure _
      · exact Keeps.pure _
    case blockMembers =>
      rw [readBlockMembers]
      refine peek_sound.bind fun t => ?_
      split
      · exact skip_sound.bind fun _ => (ih.nodeUnless _ _).bind fun key => ih.blockValue.bind fun value =>
          ih.blockMembers.bind fun _ => Keeps.pure _
      · exact skip_sound.bind fun _ => Keeps.pure _
      · exact fail_sound
    case blockValue =>
      rw [readBlockValue]
      refine peek_sound.bind fun t => ?_
      split
      · exact skip_sound.bind fun _ => ih.nodeUnless _ _
      · exact emptyNode_sound
    case flowItems =>
      intro first
      rw [readFlowItems]
      refine peek_sound.bind fun t => ?_
      split
      · exact skip_sound.bind fun _ => Keeps.pure _
      · refine when_sound (expect_sound _) fun _ => peek_sound.bind fun t => ?_
        split
        · exact skip_sound.bind fun _ => Keeps.pure _
        · exact skip_sound.bind fun _ => (ih.nodeUnless _ _).bind fun key => (ih.flowValue _).bind fun value =>
            (addNode_sound _).bind fun id => (ih.flowItems false).bind fun _ => Keeps.pure _
        · exact (ih.node _).bind fun node => (ih.flowItems false).bind fun _ => Keeps.pure _
    case flowMembers =>
      intro first
      rw [readFlowMembers]
      refine peek_sound.bind fun t => ?_
      split
      · exact skip_sound.bind fun _ => Keeps.pure _
      · refine when_sound (expect_sound _) fun _ => peek_sound.bind fun t => ?_
        split
        · exact skip_sound.bind fun _ => Keeps.pure _
        · exact skip_sound.bind fun _ => (ih.nodeUnless _ _).bind fun key => (ih.flowValue _).bind fun value =>
            (ih.flowMembers false).bind fun _ => Keeps.pure _
        · exact (ih.node _).bind fun key => emptyNode_sound.bind fun value =>
            (ih.flowMembers false).bind fun _ => Keeps.pure _
    case flowValue =>
      intro closing
      rw [readFlowValue]
      refine peek_sound.bind fun t => ?_
      split
      · exact skip_sound.bind fun _ => ih.nodeUnless _ _
      · exact emptyNode_sound

theorem readDirectives_sound (hasVersion : Bool) (handles : List (String × String)) (fuel : Nat) :
    Sound stop (readDirectives hasVersion handles fuel) := by
  induction fuel generalizing hasVersion handles with
  | zero => exact fail_sound
  | succ fuel ih =>
    rw [readDirectives]
    refine peek_sound.bind fun t => ?_
    split
    · exact when_sound fail_sound fun _ => skip_sound.bind fun _ => ih _ _
    · exact when_sound fail_sound fun _ => skip_sound.bind fun _ => ih _ _
    · exact skip_sound.bind fun _ => ih _ _
    · exact Keeps.pure _

theorem skipDocumentEnds_sound (fuel : Nat) : Sound stop (skipDocumentEnds fuel) := by
  induction fuel with
  | zero => exact Keeps.pure _
  | succ fuel ih =>
    rw [skipDocumentEnds]
    refine peek_sound.bind fun t => ?_
    split
    · exact skip_sound.bind fun _ => ih
    · exact Keeps.pure _

theorem finish_sound (fuel node : Nat) : Sound stop (readDocument.finish fuel node) :=
  (skipDocumentEnds_sound fuel).bind fun _ => (expect_sound _).bind fun _ => Keeps.pure _

theorem readDocument_sound (fuel : Nat) : Sound stop (readDocument fuel) := by
  have hnode (expected : Expected) : Sound stop (readNode expected fuel) := (readsNodes fuel).node expected
  have hdocument : Sound stop (do
      let handles ← readDirectives false [] fuel
      expect .documentStart
      modify fun s => { s with handles := handles ++ defaultHandles }
      let node ← if isDocumentMark (← peek) then emptyNode else readNode ⟨true, false⟩ fuel
      readDocument.finish fuel node) := by
    refine (readDirectives_sound _ _ _).bind fun handles => (expect_sound _).bind fun _ =>
      Keeps.modify_bind (fun _ h => h) fun _ => peek_sound.bind fun t => ?_
    split
    · exact emptyNode_sound.bind fun node => finish_sound fuel node
    · exact (hnode _).bind fun node => finish_sound fuel node
  unfold readDocument
  refine peek_sound.bind fun t => ?_
  split
  · exact Keeps.pure _
  · exact hdocument
  · exact hdocument
  · exact Keeps.modify_bind (fun _ h => h) fun _ => (hnode _).bind fun node => finish_sound fuel node

end Parser

/-- Reading the nodes of a text fails for the grammar or where its tokens stop. -/
theorem Graph.read_error {cs : List Char} {failure : Failure} (h : Graph.read cs = .error failure) :
    failure = .malformed ∨ failure = (Stream.scan cs).stop := by
  have hdocument : Parser.Sound (Stream.scan cs).stop _ := Parser.readDocument_sound (3 * (Stream.scan cs).tokens.length + 3)
  unfold Graph.read at h
  dsimp only at h
  cases hrun : (Parser.readDocument (3 * (Stream.scan cs).tokens.length + 3)).run
      { tokens := (Stream.scan cs).tokens, stop := (Stream.scan cs).stop } with
  | ok found =>
    rw [hrun] at h
    cases h
  | error e =>
    rw [hrun] at h
    cases h
    exact hdocument.error rfl hrun

/-! ### Merging -/

/-- What merging makes of a node. A mapping stays one, and all else stays as it is, but the tag of a value key. -/
structure Node.Merges (node after : Node) : Prop where
  tag : after.tag = node.tag ∨ node.tag = .value ∧ after.tag = .str
  body : after.body = node.body ∨
    (∃ members, node.body = .mapping members) ∧ ∃ members, after.body = .mapping members

theorem Node.Merges.refl (node : Node) : node.Merges node := ⟨.inl rfl, .inl rfl⟩

section

variable {node after : Node} {text : String} {members : List (Nat × Nat)}

theorem Node.Merges.tag_eq (h : node.Merges after) (hne : after.tag ≠ .str) : node.tag = after.tag := by
  rcases h.tag with hsame | ⟨-, hstr⟩
  · exact hsame.symm
  · exact absurd hstr hne

theorem Node.Merges.tag_eq_value (h : node.Merges after) (htag : after.tag = .value) : node.tag = .value :=
  (h.tag_eq (by simp [htag])).trans htag

theorem Node.Merges.body_eq_scalar (h : node.Merges after) (hbody : after.body = .scalar text) :
    node.body = .scalar text := by
  rcases h.body with hsame | ⟨-, members, hmembers⟩
  · exact hsame.symm.trans hbody
  · cases hbody.symm.trans hmembers

theorem Node.Merges.exists_mapping (h : node.Merges after) (hbody : after.body = .mapping members) :
    ∃ members, node.body = .mapping members := by
  rcases h.body with hsame | ⟨hmapping, -⟩
  · exact ⟨members, hsame.symm.trans hbody⟩
  · exact hmapping

end

/-- Merging makes one graph of another, node by node. -/
def Graph.Merges (g after : Graph) : Prop :=
  ∀ (id : Nat) (node : Node), after[id]? = some node → ∃ before, g[id]? = some before ∧ before.Merges node

/-- The mappings of a graph. -/
def Graph.IsMapping (g : Graph) (id : Nat) : Prop := ∃ node members, g[id]? = some node ∧ node.body = .mapping members

theorem Graph.Merges.refl (g : Graph) : g.Merges g := fun _ node h => ⟨node, h, .refl node⟩

/-- A node may be replaced by one that it could be merged to. -/
theorem Graph.Merges.set {g after : Graph} {id : Nat} {node : Node} (h : g.Merges after)
    (hnode : ∀ before old, g[id]? = some before → after[id]? = some old → before.Merges old → before.Merges node) :
    g.Merges (after.setIfInBounds id node) := by
  intro i other hother
  rw [Array.getElem?_setIfInBounds] at hother
  split_ifs at hother with hid hsize
  · subst hid
    obtain rfl := Option.some.inj hother
    obtain ⟨before, hbefore, hmerges⟩ := h id after[id] (Array.getElem?_eq_getElem hsize)
    exact ⟨before, hbefore, hnode before _ hbefore (Array.getElem?_eq_getElem hsize) hmerges⟩
  · exact h i other hother

namespace Merging

variable {α β : Type} {g : Graph} {id : Nat} {inner : Nat → Merging Unit}

/-- Merging fails only for the form of what is merged. -/
abbrev Sound (g : Graph) (p : Merging α) : Prop := Keeps g.Merges (· = .malformed) p

theorem fail_sound : Sound g (fail : Merging α) := Keeps.throw (Eq.refl Failure.malformed)

theorem fail_bind_sound {f : α → Merging β} : Sound g (fail >>= f) := fun _ _ => Eq.refl Failure.malformed

theorem nodeAt_bind {f : Node → Merging α}
    (hf : ∀ node, node = default ∨ (∃ before, g[id]? = some before ∧ before.Merges node) → Sound g (f node)) :
    Sound g (nodeAt id >>= f) := by
  intro after hafter
  refine hf (after[id]?.getD default) ?_ after hafter
  cases hnode : after[id]? with
  | none => exact .inl rfl
  | some node => exact .inr (hafter id node hnode)

theorem membersAt_bind {f : List (Nat × Nat) → Merging α} (hf : ∀ members, g.IsMapping id → Sound g (f members)) :
    Sound g (membersAt id >>= f) := by
  rw [membersAt, bind_assoc]
  refine nodeAt_bind fun node hnode => ?_
  split
  · next members hmembers =>
    rw [pure_bind]
    refine hf members ?_
    rcases hnode with rfl | ⟨before, hbefore, hmerges⟩
    · cases hmembers
    · obtain ⟨old, hold⟩ := hmerges.exists_mapping hmembers
      exact ⟨before, old, hbefore, hold⟩
  · exact fail_bind_sound

theorem membersAt_sound : Sound g (membersAt id) := by
  rw [← bind_pure (membersAt id)]
  exact membersAt_bind fun members _ => Keeps.pure members

theorem setMembers_sound (h : g.IsMapping id) (members : List (Nat × Nat)) : Sound g (setMembers id members) := by
  obtain ⟨node, old, hnode, hold⟩ := h
  refine Keeps.modify fun after hafter => hafter.set fun before found hbefore hfound hmerges => ?_
  obtain rfl := Option.some.inj (hnode.symm.trans hbefore)
  refine ⟨?_, .inr ⟨⟨old, hold⟩, members, rfl⟩⟩
  rw [hfound]
  exact hmerges.tag

theorem setTag_sound {key : Nat} {node : Node} (h : g[key]? = some node) (htag : node.tag = .value) :
    Sound g (setTag key .str) := by
  refine Keeps.modify fun after hafter => hafter.set fun before found hbefore hfound hmerges => ?_
  obtain rfl := Option.some.inj (h.symm.trans hbefore)
  refine ⟨.inr ⟨htag, rfl⟩, ?_⟩
  rw [hfound]
  exact hmerges.body

theorem mergeItems_sound (hinner : ∀ id, Sound g (inner id)) (ids : List Nat) : Sound g (mergeItems inner ids) := by
  induction ids with
  | nil => exact Keeps.pure []
  | cons id rest ih =>
    rw [mergeItems]
    exact membersAt_sound.bind fun _ => (hinner id).bind fun _ => membersAt_sound.bind fun members =>
      ih.bind fun more => Keeps.pure _

theorem broughtBy_sound (hinner : ∀ id, Sound g (inner id)) : Sound g (broughtBy inner id) := by
  refine nodeAt_bind fun node _ => ?_
  split
  · exact (hinner id).bind fun _ => membersAt_sound
  · exact mergeItems_sound hinner _
  · exact fail_sound

theorem mergeFrom_sound (hinner : ∀ id, Sound g (inner id)) (hid : g.IsMapping id) (kept brought rest : List (Nat × Nat)) :
    Sound g (mergeFrom inner id kept brought rest) := by
  have hset (members : List (Nat × Nat)) : Sound g (setMembers id members) := setMembers_sound hid members
  induction rest generalizing kept brought with
  | nil => exact membersAt_sound.bind fun members => hset _
  | cons m rest ih =>
    obtain ⟨key, value⟩ := m
    rw [mergeFrom]
    refine nodeAt_bind fun node hnode => ?_
    split
    · refine (hset _).bind fun _ => (broughtBy_sound hinner).bind fun more => membersAt_sound.bind fun members => ?_
      split
      · exact ih _ _
      · exact membersAt_sound.bind fun members => hset _
    · next htag =>
      have hkey : ∃ before, g[key]? = some before ∧ before.tag = .value := by
        rcases hnode with rfl | ⟨before, hbefore, hmerges⟩
        · cases htag
        · exact ⟨before, hbefore, hmerges.tag_eq_value htag⟩
      obtain ⟨before, hbefore, hvalue⟩ := hkey
      exact (setTag_sound hbefore hvalue).bind fun _ => ih _ _
    · exact ih _ _

theorem merge_sound (fuel id : Nat) : Sound g (merge fuel id) := by
  induction fuel generalizing id with
  | zero => exact fail_sound
  | succ fuel ih => exact membersAt_bind fun members hid => mergeFrom_sound ih hid [] [] members

end Merging

/-- Merging a mapping fails only for the form of what is merged. -/
theorem Graph.merge_spec {g start : Graph} (h : g.Merges start) (id : Nat) :
    start.merge id = .error .malformed ∨ ∃ after, start.merge id = .ok after ∧ g.Merges after := by
  have hsound : Merging.Sound g _ := Merging.merge_sound (Merging.memberCount start + 1) id
  unfold Graph.merge
  cases hrun : (Merging.merge (Merging.memberCount start + 1) id).run start with
  | ok found => exact .inr ⟨found.2, rfl, hsound.ok h hrun⟩
  | error e => exact .inl (congrArg Except.error (hsound.error h hrun))

/-! ### Values -/

/-- There is a key whose value stands for its mapping where a scalar is expected. -/
def Graph.HasValueKey (g : Graph) : Prop := ∃ (key : Nat) (node : Node), g[key]? = some node ∧ node.tag = .value

/-- Nodes that stand for no scalar, though they are tagged as one. A mapping that has the text of its value key may have
a text of another node, none at all, or be a moment, which has to be written as a scalar. -/
inductive Graph.Flaw (g : Graph) : Failure → Prop where
  | scalar {id : Nat} {node : Node} {text : String} {failure : Failure} (hnode : g[id]? = some node)
    (hbody : node.body = .scalar text) (hread : readScalar (id + 1) node.tag text = .error failure) : g.Flaw failure
  | borrowed {id : Nat} {node source : Node} {members : List (Nat × Nat)} {text : String} {failure : Failure}
    (hkey : g.HasValueKey) (hnode : g[id]? = some node) (hbody : node.body = .mapping members) (hsource : source ∈ g)
    (htext : source.body = .scalar text) (hread : readScalar (id + 1) node.tag text = .error failure) : g.Flaw failure
  | mappedMoment {node : Node} {members : List (Nat × Nat)} (hkey : g.HasValueKey) (hnode : node ∈ g)
    (hbody : node.body = .mapping members) (htag : node.tag = .timestamp) : g.Flaw .mappedMoment
  | cyclic {node : Node} {members : List (Nat × Nat)} (hkey : g.HasValueKey) (hnode : node ∈ g)
    (hbody : node.body = .mapping members) : g.Flaw .cyclic

theorem Graph.Merges.hasValueKey {g after : Graph} (h : g.Merges after) (hkey : after.HasValueKey) : g.HasValueKey := by
  obtain ⟨key, node, hnode, htag⟩ := hkey
  obtain ⟨before, hbefore, hmerges⟩ := h key node hnode
  exact ⟨key, before, hbefore, hmerges.tag_eq_value htag⟩

theorem hasValueKey_of_valueKey? {g : Graph} {members : List (Nat × Nat)} {value : Nat}
    (h : valueKey? g members = some value) : g.HasValueKey := by
  obtain ⟨m, hm, -⟩ := Option.map_eq_some_iff.mp h
  have htag := List.find?_some hm
  simp only [beq_iff_eq, Option.map_eq_some_iff] at htag
  obtain ⟨node, hnode, htag⟩ := htag
  exact ⟨m.1, node, hnode, htag⟩

/-- The text of a scalar is that of a node, and where there is none the form is broken or there is no end. -/
theorem scalarText_spec (g : Graph) (fuel id : Nat) : scalarText g fuel id = .error .malformed ∨
    scalarText g fuel id = .error .cyclic ∨
      ∃ text source, scalarText g fuel id = .ok text ∧ source ∈ g ∧ source.body = .scalar text := by
  fun_induction scalarText g fuel id with
  | case1 => exact .inr (.inl rfl)
  | case2 fuel id text hbody =>
    obtain ⟨node, hnode, hbody⟩ := Option.map_eq_some_iff.mp hbody
    exact .inr (.inr ⟨text, node, rfl, Array.mem_of_getElem? hnode, hbody⟩)
  | case3 fuel id members hbody value hvalue ih => exact ih
  | case4 => exact .inl rfl
  | case5 => exact .inl rfl

theorem readScalar_str (mark : Nat) (text : String) : readScalar mark .str text = .ok (.text text) := rfl

/-- A node whose tag has no such scalar had this tag before. -/
theorem Node.Merges.readScalar_error {node after : Node} (h : node.Merges after) {mark : Nat} {text : String}
    {failure : Failure} (hread : readScalar mark after.tag text = .error failure) :
    readScalar mark node.tag text = .error failure := by
  have hne : after.tag ≠ .str := by
    intro hstr
    rw [hstr, readScalar_str] at hread
    cases hread
  rw [h.tag_eq hne, hread]

/-- What a node stands for that has a text. -/
theorem scalarAt_of_scalarText {g : Graph} {id : Nat} {text : String} (h : scalarText g (g.size + 1) id = .ok text)
    (node : Node) : (∃ members, node.tag = .timestamp ∧ node.body = .mapping members ∧
        scalarAt g id node = .error .mappedMoment) ∨ scalarAt g id node = readScalar (id + 1) node.tag text := by
  unfold scalarAt
  rw [h]
  simp only [bind, Except.bind]
  split
  · next members htag hbody => exact .inl ⟨members, htag, hbody, rfl⟩
  · exact .inr rfl

/-- Where a node of a merged graph stands for no scalar, the graph had a flaw. -/
theorem Graph.Merges.scalarAt_error {g after : Graph} (h : g.Merges after) {id : Nat} {failure : Failure}
    (hfailure : scalarAt after id (after[id]?.getD default) = .error failure) :
    failure = .malformed ∨ g.Flaw failure := by
  have hnone (hbad : scalarText after (after.size + 1) id = .error .malformed) : failure = .malformed := by
    unfold scalarAt at hfailure
    rw [hbad] at hfailure
    exact (Except.error.inj hfailure).symm
  cases hafter : after[id]? with
  | none => exact .inl (hnone (by simp [scalarText, hafter]))
  | some node =>
    obtain ⟨before, hbefore, hmerges⟩ := h id node hafter
    rw [hafter, Option.getD_some] at hfailure
    cases hbody : node.body with
    | scalar text =>
      have htext : scalarText after (after.size + 1) id = .ok text := by simp [scalarText, hafter, hbody]
      rcases scalarAt_of_scalarText htext node with ⟨members, -, hmembers, -⟩ | hread
      · rw [hbody] at hmembers
        cases hmembers
      · exact .inr (.scalar hbefore (hmerges.body_eq_scalar hbody) (hmerges.readScalar_error (hread.symm.trans hfailure)))
    | sequence items => exact .inl (hnone (by simp [scalarText, hafter, hbody]))
    | mapping members =>
      cases hvalue : valueKey? after members with
      | none => exact .inl (hnone (by simp [scalarText, hafter, hbody, hvalue]))
      | some value =>
        have hkey : g.HasValueKey := h.hasValueKey (hasValueKey_of_valueKey? hvalue)
        obtain ⟨old, hold⟩ := hmerges.exists_mapping hbody
        rcases scalarText_spec after (after.size + 1) id with hbad | hcyclic | ⟨text, source, htext, hsource, hscalar⟩
        · exact .inl (hnone hbad)
        · unfold scalarAt at hfailure
          rw [hcyclic] at hfailure
          cases hfailure
          exact .inr (.cyclic hkey (Array.mem_of_getElem? hbefore) hold)
        · rcases scalarAt_of_scalarText htext node with ⟨-, htag, -, hmoment⟩ | hread
          · rw [hmoment] at hfailure
            cases hfailure
            have htag' := (hmerges.tag_eq (by simp [htag])).trans htag
            exact .inr (.mappedMoment hkey (Array.mem_of_getElem? hbefore) hold htag')
          · obtain ⟨i, hi⟩ := Array.getElem?_of_mem hsource
            obtain ⟨origin, horigin, horiginal⟩ := h i source hi
            exact .inr (.borrowed hkey hbefore hold (Array.mem_of_getElem? horigin) (horiginal.body_eq_scalar hscalar)
              (hmerges.readScalar_error (hread.symm.trans hfailure)))

namespace Build

variable {α β : Type} {g : Graph}

/-- Making nodes known fails for the form of a document or for a flaw in it. -/
abbrev Sound (g : Graph) (p : Build α) : Prop :=
  Keeps (fun s => g.Merges s.graph) (fun e => e = .malformed ∨ g.Flaw e) p

theorem fail_sound : Sound g (fail : Build α) := Keeps.throw (Or.inl rfl)

theorem openCollection_sound (id : Nat) (item : Item) : Sound g (openCollection id item) :=
  Keeps.modify_bind (fun _ h => h) fun _ => Keeps.modify_bind (fun _ h => h) fun _ => Keeps.pure item

theorem touch_sound (id : Nat) : Sound g (touch id) := by
  refine Keeps.get_bind fun s hs => ?_
  split
  · exact Keeps.pure _
  · dsimp only
    split
    · exact openCollection_sound _ _
    · exact openCollection_sound _ _
    · exact openCollection_sound _ _
    · exact openCollection_sound _ _
    · exact openCollection_sound _ _
    · exact fail_sound
    · exact fail_sound
    · exact fail_sound
    · exact Keeps.lift_bind (fun scalar _ => Keeps.modify_bind (fun _ h => h) fun _ => Keeps.pure _)
        fun e he => hs.scalarAt_error he

theorem member_sound (m : Nat × Nat) : Sound g (member m) := by
  refine (touch_sound m.1).bind fun item => ?_
  split
  · exact (touch_sound m.2).bind fun _ => Keeps.pure _
  · exact fail_sound

theorem members_sound (id : Nat) : Sound g (members id) := by
  refine Keeps.get_bind fun s hs => ?_
  have hmerge := Graph.merge_spec hs id
  dsimp only
  split
  · refine Keeps.lift_bind (fun after hafter => ?_) fun e he => ?_
    · have hmerges : g.Merges after := by
        rcases hmerge with hbad | ⟨other, hother, hmerges⟩
        · rw [hafter] at hbad
          cases hbad
        · rw [hafter] at hother
          cases hother
          exact hmerges
      refine Keeps.modify_bind (fun _ _ => hmerges) fun _ => ?_
      split
      · exact (Keeps.mapM member_sound _).bind fun found => Keeps.pure _
      · exact fail_sound
    · rcases hmerge with hbad | ⟨other, hother, -⟩
      · rw [he] at hbad
        exact .inl (Except.error.inj hbad)
      · rw [he] at hother
        cases hother
  · exact fail_sound

theorem pair_sound (id : Nat) : Sound g (pair id) := by
  refine Keeps.get_bind fun s _ => ?_
  split
  · exact (touch_sound _).bind fun _ => (touch_sound _).bind fun _ => Keeps.pure _
  · exact fail_sound

theorem fill_sound (id : Nat) : Sound g (fill id) := by
  have hset (item : Item) : Sound g (setItem id item) := Keeps.modify fun _ h => h
  refine Keeps.get_bind fun s _ => ?_
  dsimp only
  split
  · exact (Keeps.mapM touch_sound _).bind fun _ => hset _
  · exact (Keeps.mapM pair_sound _).bind fun parts => hset _
  · exact (members_sound id).bind fun members => hset _
  · exact (members_sound id).bind fun members => hset _
  · exact fail_sound

theorem fillAll_sound (fuel : Nat) : Sound g (fillAll fuel) := by
  induction fuel with
  | zero => exact Keeps.pure _
  | succ fuel ih =>
    rw [fillAll]
    refine Keeps.get_bind fun s _ => Keeps.modify_bind (fun _ h => h) fun _ => ?_
    split
    · exact Keeps.pure _
    · exact (Keeps.forM fill_sound _).bind fun _ => ih

end Build

/-- Where a text has no value for another reason than its form, there is a ground in the text or a flaw in its
document. -/
theorem read_error {cs : List Char} {failure : Failure} (h : read cs = .error failure) (hne : failure ≠ .malformed) :
    (∃ part, part <:+ cs ∧ Ground part failure) ∨
      ∃ g root, Graph.read cs = .ok (some (g, root)) ∧ g.Flaw failure := by
  unfold read at h
  cases hgraph : Graph.read cs with
  | error e =>
    rw [hgraph] at h
    obtain rfl : e = failure := Except.error.inj h
    have hstop := (Graph.read_error hgraph).resolve_left hne
    exact .inl (hstop ▸ Stream.scan_stop cs)
  | ok found =>
    rw [hgraph] at h
    cases found with
    | none => cases h
    | some found =>
      obtain ⟨g, root⟩ := found
      have hbuild : Build.Sound g (do
          let _ ← Build.touch root
          Build.fillAll (g.size + 1)) := (Build.touch_sound root).bind fun _ => Build.fillAll_sound _
      simp only [bind, Except.bind] at h
      split at h
      · next e hrun =>
        obtain rfl : e = failure := Except.error.inj h
        exact .inr ⟨g, root, rfl, (hbuild.error (.refl g) hrun).resolve_left hne⟩
      · cases h

/-- An escape beyond the last character has its ground in the text. -/
example : read "\"\\U00110000\"".toList = .error .noCharacter := rfl

end ShapeTables.Yaml
