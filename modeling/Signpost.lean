import Signpost.Document.Builder
import Signpost.Files.Tree
import Signpost.Main
import Signpost.Proofs.Text
import Signpost.Proofs.ClassPath
import Signpost.Proofs.Collection
import Signpost.Proofs.Signature.Codec
import Signpost.Proofs.Index.Log
import Signpost.Proofs.Index.Key
import Signpost.Proofs.Container.Call
import Signpost.Proofs.Container.Reference
import Signpost.Proofs.Document.Links
import Signpost.Proofs.Document.Preorder
import Signpost.Proofs.Document.Builder
import Signpost.Proofs.Document.Siblings
import Signpost.Proofs.Document.Neighbours
import Signpost.Proofs.Role.Call
import Signpost.Proofs.Index.Filed
import Signpost.Proofs.Role.Use
import Signpost.Proofs.Project.Goto
import Signpost.Proofs.Project.ServiceReference
import Signpost.Proofs.Project.ServiceDefinition
import Signpost.Proofs.Json.RoundTrip
import Signpost.Proofs.Json.Record
import Signpost.Proofs.Declaration.Json
import Signpost.Proofs.Declaration.Signature
import Signpost.Proofs.Index.Snapshot
import Signpost.Proofs.Document.Json
import Signpost.Proofs.Document.Mutual
import Signpost.Proofs.Document.Caret
import Signpost.Proofs.Project.Distinct
import Signpost.Proofs.Container.AliasChain
import Signpost.Proofs.Container.AliasBound
import Signpost.Proofs.Project.Constructor
import Signpost.Proofs.Role.Domain
import Signpost.Proofs.Signature.Deferred
import Signpost.Proofs.Signature.Union
import Signpost.Proofs.Container.Decoration
import Signpost.Proofs.Project.Route
import Signpost.Proofs.Project.Block
import Signpost.Proofs.Index.Stats
import Signpost.Proofs.Index.Class
import Signpost.Proofs.Document.Descent
import Signpost.Proofs.Role.Definition
import Signpost.Proofs.Project.DomainArgument
import Signpost.Proofs.Toml.Spelling
import Signpost.Proofs.Toml.Quoted
import Signpost.Proofs.Toml.Value
import Signpost.Proofs.Toml.RoundTrip
import Signpost.Proofs.Settings.Layers
import Signpost.Proofs.Files
import Signpost.Proofs.Workspace
