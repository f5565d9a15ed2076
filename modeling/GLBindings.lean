import GLBindings.Catalog
import GLBindings.Code.Fragment
import GLBindings.Code.Naming
import GLBindings.CommandLine.Arguments
import GLBindings.CommandLine.Run
import GLBindings.Config
import GLBindings.Consolidation
import GLBindings.Disk
import GLBindings.Emission.Bindings
import GLBindings.Emission.Context
import GLBindings.Emission.Declarations
import GLBindings.Emission.Files
import GLBindings.Emission.GeneratedFile
import GLBindings.FileSystem
import GLBindings.Index
import GLBindings.Main
import GLBindings.NameSet
import GLBindings.Proofs.Catalog
import GLBindings.Proofs.Code.Fragment
import GLBindings.Proofs.Code.Naming
import GLBindings.Proofs.Consolidation.ClosedForm
import GLBindings.Proofs.Consolidation.Growth
import GLBindings.Proofs.Consolidation.Rearrangement
import GLBindings.Proofs.Consolidation.Replay
import GLBindings.Proofs.Disk
import GLBindings.Proofs.Emission.Agreement
import GLBindings.Proofs.Emission.Distinctness
import GLBindings.Proofs.Emission.Enumerations
import GLBindings.Proofs.Emission.Failure
import GLBindings.Proofs.Emission.Forwarding
import GLBindings.Proofs.Emission.Regeneration
import GLBindings.Proofs.Emission.Rendering
import GLBindings.Proofs.Emission.Session
import GLBindings.Proofs.Emission.Spelling
import GLBindings.Proofs.Emission.StemNames
import GLBindings.Proofs.Emission.Writing
import GLBindings.Proofs.FirstOccurrences
import GLBindings.Proofs.Index
import GLBindings.Proofs.NameSet
import GLBindings.Proofs.NameSet.History
import GLBindings.Proofs.Path
import GLBindings.Proofs.ReferencedTypes
import GLBindings.Proofs.Registry.Acceptance
import GLBindings.Proofs.Registry.Declaration
import GLBindings.Proofs.Registry.Edits
import GLBindings.Proofs.Registry.MixedContent
import GLBindings.Proofs.Registry.Places
import GLBindings.Proofs.Registry.Printing
import GLBindings.Proofs.Registry.Tidiness
import GLBindings.Proofs.Registry.Typing
import GLBindings.Proofs.Text.Position
import GLBindings.Proofs.Traversal
import GLBindings.Proofs.Version
import GLBindings.Proofs.Version.Grammar
import GLBindings.Reference
import GLBindings.Registry.Declaration
import GLBindings.Registry.Error
import GLBindings.Registry.Model
import GLBindings.Registry.Reader
import GLBindings.Report
import GLBindings.Selection
import GLBindings.Text.Blank
import GLBindings.Text.CaseTable
import GLBindings.Text.LetterCase
import GLBindings.Text.Position
import GLBindings.Toml.Document
import GLBindings.Toml.Quoted
import GLBindings.Toml.Scalar
import GLBindings.Toml.Value
import GLBindings.Version
import GLBindings.Xml.CharacterData
import GLBindings.Xml.Document
import GLBindings.Xml.Error
import GLBindings.Xml.Scanner
import GLBindings.Xml.Token
import GLBindings.Xml.Tree
