import ShapeTables.Decimal.Layout
import ShapeTables.Flat.Table
import ShapeTables.Sql.Lexeme

/-! Statements that define tables, and their texts. The text of a statement depends on the dialect and on the
length of string columns; it ends with the only semicolon outside quotes. -/
namespace ShapeTables.Sql

open Flat (ColumnType Target)
open Shape (Constant)

structure ColumnSpec where
  name : String
  type : ColumnType
  notNull : Bool
  default : Option Constant
  comment : Option String
deriving DecidableEq, Repr

/-- The values that a column may have. -/
structure Check where
  column : String
  allowed : List Constant
deriving DecidableEq, Repr

structure TableSpec where
  name : String
  columns : List ColumnSpec
  primaryKey : Option String
  checks : List Check
deriving DecidableEq, Repr

inductive Statement where
  | createTable (t : TableSpec)
  | commentOn (table column text : String)
  | addColumn (table : String) (column : ColumnSpec)
  | addForeignKey (table column : String) (target : Target)
  | addUnique (table column : String)
deriving DecidableEq, Repr

/-- What the text of a statement depends on. -/
structure Style where
  dialect : Dialect
  stringLength : Int
deriving DecidableEq, Repr

/-- The SQL type of a column. PostgreSQL takes no length as no limit. -/
def Style.typeText (style : Style) (type : ColumnType) : String :=
  match style.dialect, type with
  | .postgresql, .uuid => "UUID"
  | .mysql, .uuid => "CHAR(32)"
  | .postgresql, .string => if style.stringLength = 0 then "VARCHAR" else s!"VARCHAR({style.stringLength})"
  | .mysql, .string => s!"VARCHAR({style.stringLength})"
  | _, .date => "DATE"
  | .postgresql, .datetime => "TIMESTAMP WITHOUT TIME ZONE"
  | .mysql, .datetime => "DATETIME"
  | .postgresql, .boolean => "BOOLEAN"
  | .mysql, .boolean => "BOOL"
  | _, .number => "FLOAT"
  | _, .integer => "INTEGER"

def constantLexeme : Constant → Lexeme
  | .bool b => .word (if b then "true" else "false")
  | .int n => .word (toString n)
  | .float x => .word (Decimal.Layout.plain.text x)
  | .text s => .literal s

/-- Whether a word is more than letters, digits and underscores. -/
def isExpression (text : String) : Bool := text.toList.any fun c => !(c.isAlphanum || c == '_')

/-- A default. MySQL takes one that is neither a literal nor a plain word in parentheses. -/
def defaultLexemes (d : Dialect) (c : Constant) : List Lexeme :=
  match d, constantLexeme c with
  | .mysql, .word text =>
    if isExpression text then [.word "(", .word text, .word ")"] else [.word text]
  | _, lexeme => [lexeme]

def ColumnSpec.lexemes (style : Style) (c : ColumnSpec) : List Lexeme :=
  let notNull : List Lexeme := if c.notNull then [.word " NOT NULL"] else []
  let default : List Lexeme := match c.default with
    | some value => .word " DEFAULT " :: defaultLexemes style.dialect value
    | none => []
  let comment : List Lexeme := match c.comment with
    | some text => [.word " COMMENT ", .literal text]
    | none => []
  [.name c.name, .word " ", .word (style.typeText c.type)] ++
    match style.dialect with
    | .postgresql => default ++ notNull
    | .mysql => notNull ++ comment ++ default

/-- Runs of lexemes with `between` set between them. -/
def separated (between : Lexeme) : List (List Lexeme) → List Lexeme
  | [] => []
  | [item] => item
  | item :: next :: items => item ++ between :: separated between (next :: items)

def Check.lexemes (c : Check) : List Lexeme :=
  [.word "CHECK (", .name c.column, .word " IN ("] ++
    separated (.word ", ") (c.allowed.map fun value => [constantLexeme value]) ++ [.word "))"]

/-- What stands between the parentheses of a table: its columns, its key and its checks. -/
def TableSpec.items (style : Style) (t : TableSpec) : List (List Lexeme) :=
  t.columns.map (·.lexemes style) ++
    t.primaryKey.toList.map (fun key => [.word "PRIMARY KEY (", .name key, .word ")"]) ++
    t.checks.map (·.lexemes)

namespace Statement

/-- The lexemes of a statement up to its semicolon. -/
def lexemes (style : Style) : Statement → List Lexeme
  | .createTable t =>
    [.word "CREATE TABLE ", .name t.name, .word " ("] ++
      (match t.items style with
        | [] => []
        | items => .word "\n\t" :: separated (.word ", \n\t") items) ++
      [.word "\n)"]
  | .commentOn table column text =>
    [.word "COMMENT ON COLUMN ", .name table, .word ".", .name column, .word " IS ", .literal text]
  | .addColumn table column =>
    [.word "ALTER TABLE ", .name table, .word " ADD COLUMN "] ++ column.lexemes style
  | .addForeignKey table column target =>
    [.word "ALTER TABLE ", .name table, .word " ADD FOREIGN KEY(", .name column, .word ") REFERENCES ",
      .name target.table, .word " (", .name target.column, .word ")"]
  | .addUnique table column =>
    [.word "ALTER TABLE ", .name table, .word " ADD UNIQUE (", .name column, .word ")"]

def render (style : Style) (s : Statement) : String :=
  String.ofList (Lexeme.encodeAll style.dialect (s.lexemes style ++ [.word ";"]))

end Statement

end ShapeTables.Sql
