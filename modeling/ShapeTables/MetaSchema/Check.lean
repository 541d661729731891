import ShapeTables.MetaSchema.Distinct
import ShapeTables.MetaSchema.Form

/-! Checking documents against the drafts. A document is checked as a schema of the draft that it names, the
latest one if it names none that is known. A document that is neither a map nor a truth value is no schema; a
draft that is named by anything but a text is as a rule no question that could be answered. -/
namespace ShapeTables.MetaSchema

/-- What is wrong with the keywords of a map as a whole: some need others beside them. -/
def needFindings (d : Draft) (members : List (Scalar × Value)) : List Finding :=
  misfitUnless (d.needs.all fun (name, needed) => (member? members name).isNone || (member? members needed).isSome)

/-- What is wrong with a list as a whole, its items apart. -/
def ListForm.findings (f : ListForm) (items : List Value) : List Finding :=
  if (!f.nonempty || !items.isEmpty) && (!f.distinct || areDistinct items) then [] else misfitOf (.list items)

mutual

/-- What is wrong with a value that should have a form, in the order in which it is found. -/
def findings (d : Draft) (form : Form) : Value → List Finding
  | .scalar s => writtenOut (.scalar s) (form.scalar d s)
  | .list items => match form.list? d with
    | some f => f.trial.settle (.list items) (itemFindings d f.item items ++ f.findings items)
    | none => if form = .any then [] else misfitOf (.list items)
  | .map members => match form.map? d with
    | some (.keywords trial) =>
      let each := memberFindings d d.form members
      trial.settle (.map members)
        (d.keywords.flatMap (fun (name, _) => (each.lookup (.text name)).getD []) ++ needFindings d members)
    | some (.members f names) =>
      (memberFindings d (fun _ => f) members).flatMap Prod.snd ++ members.flatMap fun (key, _) => names.findings key
    | none => if form = .any then [] else misfitOf (.map members)
  | v => if form = .any then [] else misfitOf v

def itemFindings (d : Draft) (form : Form) : List Value → List Finding
  | [] => []
  | v :: rest => findings d form v ++ itemFindings d form rest

/-- What is wrong with each member, `form` being the forms of members by their keys. -/
def memberFindings (d : Draft) (form : Scalar → Form) : List (Scalar × Value) → List (Scalar × List Finding)
  | [] => []
  | (key, v) :: rest => (key, findings d (form key) v) :: memberFindings d form rest

end

/-- Why a document cannot be checked at all. -/
inductive Uncheckable where
  /-- The draft is named by a list or a map, which cannot be looked up. -/
  | compoundDraft
  /-- The draft is named by a scalar that is no text. -/
  | scalarDraft
  /-- The draft is named by octets that are not all ASCII. -/
  | octetsDraft
  | address (fault : Address.Fault)
  | hugeCount
  | conflictingFlags
  | wideLookBehind
  /-- What does not fit holds an integer that cannot be written out. -/
  | longInteger
deriving DecidableEq, Repr

/-- The draft that a text names. -/
def draftNamed (address : String) : Except Uncheckable Draft :=
  match Address.check address with
  | .ok () => .ok ((Draft.ofAddress? address).getD .latest)
  | .error fault => .error (.address fault)

/-- The draft that octets name: none, but they have to be an address. -/
def draftOfOctets (octets : List UInt8) : Except Uncheckable Draft :=
  if octets.any fun octet => 0x80 ≤ octet then .error .octetsDraft
  else (draftNamed (String.ofList (octets.map fun octet => Char.ofNat octet.toNat))).map fun _ => .latest

/-- The draft that a document is checked against. Scalars that are as good as nothing name none. -/
def draftOf (members : List (Scalar × Value)) : Except Uncheckable Draft :=
  match member? members "$schema" with
  | none => .ok .latest
  | some (.text s) => draftNamed s
  | some .null | some (.bool false) => .ok .latest
  | some (.int n) => if n = 0 then .ok .latest else .error .scalarDraft
  | some (.float x) => if x == 0.0 then .ok .latest else .error .scalarDraft
  | some (.scalar (.bytes octets)) => draftOfOctets octets
  | some (.scalar _) => .error .scalarDraft
  | some _ => .error .compoundDraft

/-- Whether a document is a schema. -/
def isSchema : Value → Except Uncheckable Bool
  | .bool _ => .ok true
  | .map members => do
    let d ← draftOf members
    match findings d .schema (.map members) with
    | [] => return true
    | .misfit :: _ | .unanswerable .malformed :: _ => return false
    | .unwritable :: _ => throw .longInteger
    | .unanswerable .hugeCount :: _ => throw .hugeCount
    | .unanswerable .conflictingFlags :: _ => throw .conflictingFlags
    | .unanswerable .wideLookBehind :: _ => throw .wideLookBehind
  | _ => .ok false

end ShapeTables.MetaSchema
