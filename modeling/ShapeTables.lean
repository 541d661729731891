import ShapeTables.Main
import ShapeTables.Proofs.Answers
import ShapeTables.Proofs.BackReferences
import ShapeTables.Proofs.Targets
import ShapeTables.Proofs.Legibility
import ShapeTables.Proofs.Tokens
import ShapeTables.Proofs.Recovery
import ShapeTables.Proofs.PostOrder
import ShapeTables.Proofs.Validation
import ShapeTables.Proofs.Dialects
import ShapeTables.Proofs.UniqueTargets
import ShapeTables.Proofs.AddedTable
import ShapeTables.Proofs.PropertyOrder
import ShapeTables.Proofs.Grammar
import ShapeTables.Proofs.ResolutionProblems
import ShapeTables.Proofs.JoinKeys
import ShapeTables.Proofs.ReferencePaths
import ShapeTables.Proofs.ColumnDefinitions
import ShapeTables.Proofs.EmptyTables
import ShapeTables.Proofs.FaultPaths
import ShapeTables.Proofs.TableTexts
import ShapeTables.Proofs.DialectNames
import ShapeTables.Proofs.FileChanges
import ShapeTables.Proofs.TagRemoval
import ShapeTables.Proofs.Runs
import ShapeTables.Proofs.Loading
import ShapeTables.Proofs.PointerSegments
