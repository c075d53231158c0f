import StubForge.Calendar
import StubForge.ClassPath
import StubForge.Command
import StubForge.CommandLine.Invocation
import StubForge.CommandLine.Options
import StubForge.Configuration
import StubForge.Configuration.Check
import StubForge.Configuration.Document
import StubForge.Datum
import StubForge.Discovery
import StubForge.Disk
import StubForge.Encoding.AsciiForms
import StubForge.Encoding.Codec
import StubForge.Encoding.Table
import StubForge.Encoding.Utf8
import StubForge.Engine
import StubForge.Environment
import StubForge.Failure
import StubForge.Generator
import StubForge.Identifier
import StubForge.Json
import StubForge.Library.Execute
import StubForge.Library.Import
import StubForge.Library.Inspect
import StubForge.Library.Resolution
import StubForge.Library.Statement
import StubForge.Library.World
import StubForge.Literal
import StubForge.Loader
import StubForge.Log
import StubForge.Main
import StubForge.ModuleName
import StubForge.Name
import StubForge.Namespace.Build
import StubForge.Namespace.Calls
import StubForge.Namespace.Forest
import StubForge.Namespace.Grove
import StubForge.Namespace.Listing
import StubForge.Number
import StubForge.Order
import StubForge.Path
import StubForge.Plan
import StubForge.Program
import StubForge.Proofs.Admission
import StubForge.Proofs.Alike
import StubForge.Proofs.Arrangement
import StubForge.Proofs.Attempts
import StubForge.Proofs.ByName
import StubForge.Proofs.Callers
import StubForge.Proofs.ClassGrowth
import StubForge.Proofs.ClassStatements
import StubForge.Proofs.CommandText
import StubForge.Proofs.ConfigurationRules
import StubForge.Proofs.Containment
import StubForge.Proofs.Courses
import StubForge.Proofs.DateLines
import StubForge.Proofs.Dates
import StubForge.Proofs.Decimals
import StubForge.Proofs.Digits
import StubForge.Proofs.DiscoveryFrames
import StubForge.Proofs.DiskBlindness
import StubForge.Proofs.DiskDependence
import StubForge.Proofs.DiskGrowth
import StubForge.Proofs.DiskReading
import StubForge.Proofs.DiskWrites
import StubForge.Proofs.Encodings
import StubForge.Proofs.Escapes
import StubForge.Proofs.ExecutedClasses
import StubForge.Proofs.Extension
import StubForge.Proofs.FailedFiles
import StubForge.Proofs.FirstSeen
import StubForge.Proofs.Growth
import StubForge.Proofs.Imports
import StubForge.Proofs.Increments
import StubForge.Proofs.Inspections
import StubForge.Proofs.Interruptions
import StubForge.Proofs.Isolation
import StubForge.Proofs.JsonFloats
import StubForge.Proofs.JsonNumbers
import StubForge.Proofs.JsonReading
import StubForge.Proofs.JsonStrings
import StubForge.Proofs.JsonText
import StubForge.Proofs.KeepGoing
import StubForge.Proofs.Keeping
import StubForge.Proofs.Landing
import StubForge.Proofs.Laying
import StubForge.Proofs.Layout
import StubForge.Proofs.LibraryFrames
import StubForge.Proofs.Limits
import StubForge.Proofs.Listings
import StubForge.Proofs.LoadedModules
import StubForge.Proofs.Manifest
import StubForge.Proofs.MadeClasses
import StubForge.Proofs.ModuleNames
import StubForge.Proofs.MovedDiscovery
import StubForge.Proofs.Naming
import StubForge.Proofs.Neighbours
import StubForge.Proofs.Occurrences
import StubForge.Proofs.Outline
import StubForge.Proofs.Ownership
import StubForge.Proofs.Packing
import StubForge.Proofs.Partition
import StubForge.Proofs.PhpFragments
import StubForge.Proofs.PhpReading
import StubForge.Proofs.Placement
import StubForge.Proofs.Policy
import StubForge.Proofs.Rediscovery
import StubForge.Proofs.Regeneration
import StubForge.Proofs.Rendering
import StubForge.Proofs.RenderingFrames
import StubForge.Proofs.Renumbering
import StubForge.Proofs.Reordering
import StubForge.Proofs.Representation
import StubForge.Proofs.Restriction
import StubForge.Proofs.RootScopes
import StubForge.Proofs.Rooted
import StubForge.Proofs.Rounding
import StubForge.Proofs.Runs
import StubForge.Proofs.Scanning
import StubForge.Proofs.Segments
import StubForge.Proofs.SettingsFiles
import StubForge.Proofs.SharedDiscovery
import StubForge.Proofs.SoleModule
import StubForge.Proofs.Sorting
import StubForge.Proofs.SoundForests
import StubForge.Proofs.Spelling
import StubForge.Proofs.StubCalls
import StubForge.Proofs.StubFiles
import StubForge.Proofs.StubFragments
import StubForge.Proofs.StubGuards
import StubForge.Proofs.StubLinks
import StubForge.Proofs.StubPaths
import StubForge.Proofs.StubText
import StubForge.Proofs.TagMetadata
import StubForge.Proofs.TagStore
import StubForge.Proofs.Targets
import StubForge.Proofs.TypeNames
import StubForge.Proofs.Unready
import StubForge.Reading
import StubForge.Session
import StubForge.Settings
import StubForge.Signature
import StubForge.Source.Block
import StubForge.Source.Expression
import StubForge.Source.Literal
import StubForge.Source.Pattern
import StubForge.Source.Token
import StubForge.Tag
import StubForge.Tag.Same
import StubForge.Template.Bundled
import StubForge.Template.Operation
import StubForge.Template.Reader
import StubForge.Template.Render
import StubForge.Template.Syntax
import StubForge.Template.Token
import StubForge.Template.Value
import StubForge.Text.Base64
import StubForge.Text.Char
import StubForge.Text.Escape
import StubForge.Text.Integer
import StubForge.Text.Quoted
import StubForge.Text.Replace
import StubForge.Text.Table
import StubForge.Yaml.Cursor
import StubForge.Yaml.Data
import StubForge.Yaml.Kind
import StubForge.Yaml.Node
import StubForge.Yaml.Scalar
import StubForge.Yaml.Timestamp
import StubForge.Yaml.Token
