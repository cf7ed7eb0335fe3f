import StubGen.Text.Point
import StubGen.Text.Bytes
import StubGen.Text.Stride
import StubGen.Text.Blank
import StubGen.Text.Cased
import StubGen.Text.CaseMap
import StubGen.Text.Printable
import StubGen.Text.Split
import StubGen.Text.Case
import StubGen.Text.Quoted
import StubGen.Text.Tidy
import StubGen.Decimal.Shortest
import StubGen.Decimal.Layout
import StubGen.Pattern
import StubGen.Node.Basic
import StubGen.CallDepth
import StubGen.Fault
import StubGen.Node.Access
import StubGen.Node.Show
import StubGen.TypeName
import StubGen.TypeTree
import StubGen.FileName
import StubGen.Decl
import StubGen.Header
import StubGen.Folder.Tree
import StubGen.Folder.Make
import StubGen.Folder.Scan
import StubGen.Folder.System
import StubGen.Output
import StubGen.Session
import StubGen.Service
import StubGen.Proofs.SessionState
import StubGen.Proofs.Text.Split
import StubGen.Proofs.Text.Tidy
import StubGen.Proofs.Pattern
import StubGen.Proofs.TypeName
import StubGen.Proofs.Separated
import StubGen.Proofs.TypeTree
import StubGen.Proofs.Text.Unbroken
import StubGen.Proofs.Description
import StubGen.Proofs.Declaration
import StubGen.Proofs.Header
import StubGen.Proofs.Text.Bytes
import StubGen.Proofs.Walk
import StubGen.Proofs.Plan
import StubGen.Proofs.Text.Layout
import StubGen.Proofs.TypeName.Faults
import StubGen.Proofs.Folder.Entry
import StubGen.Proofs.Folder.Locate
import StubGen.Proofs.Folder.Repeat
import StubGen.Proofs.Text.Lower
import StubGen.Proofs.FileName
import StubGen.Proofs.DeclaredNames
import StubGen.Proofs.TypeName.Nesting
import StubGen.Proofs.Output
