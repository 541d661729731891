import ShapeTables.Problem
import ShapeTables.Reading

/-! Reports as values. A report is written as a map of its path, its message and its kind, and read back from
one; a step of the path may be any text or anything that is as good as an integer. -/
namespace ShapeTables

def Step.toValue : Step → Value
  | .name s => .text s
  | .index n => .int n

namespace Report

def toValue (r : Report) : Value :=
  .object [("path", .list (r.loc.map Step.toValue)), ("message", .text r.message), ("kind", .text r.kind.name)]

open Reading

/-- A step that is neither a text nor an integer has the faults of both. -/
def readStep : Value → Reading Step
  | .text s => .ok (.name s)
  | v => match int v with
    | .ok n => .ok (.index n)
    | .error e => .error (join (.faults [⟨[.name "str"], .notText⟩])
        (match e with
          | .faults found => .faults (found.map fun f => { f with loc := .name "int" :: f.loc })
          | .unhashable => .unhashable))

def readKind : Value → Reading Kind
  | .text s => match Kind.all.find? fun k => k.name = s with
    | some k => .ok k
    | none => fault (.notMember (Kind.all.map Kind.name))
  | _ => fault (.notMember (Kind.all.map Kind.name))

def read : Value → Reading Report
  | .map members =>
    (both (required members "path" (list readStep))
      (both (required members "message" text) (required members "kind" readKind))).map
      fun (loc, message, kind) => ⟨loc, message, kind⟩
  | _ => fault (.notModel "CompileError")

end Report

end ShapeTables
