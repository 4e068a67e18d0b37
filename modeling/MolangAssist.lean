import MolangAssist.Assist.Completion
import MolangAssist.Assist.Definition
import MolangAssist.Assist.Hover
import MolangAssist.Assist.Markup
import MolangAssist.CommandLine.Log
import MolangAssist.CommandLine.Options
import MolangAssist.CommandLine.Run
import MolangAssist.Files.Authority
import MolangAssist.Files.Path
import MolangAssist.Files.Pattern
import MolangAssist.Files.Tree
import MolangAssist.Files.Uri
import MolangAssist.Host
import MolangAssist.Json.Reader
import MolangAssist.Json.Token
import MolangAssist.Json.Value
import MolangAssist.Main
import MolangAssist.Proofs.Assist.AnsweredRequests
import MolangAssist.Proofs.Assist.CallSnippets
import MolangAssist.Proofs.Assist.CallTargets
import MolangAssist.Proofs.Assist.ChainLine
import MolangAssist.Proofs.Assist.DeclarationSites
import MolangAssist.Proofs.Assist.DeclaredFunctions
import MolangAssist.Proofs.Assist.DistinctOffers
import MolangAssist.Proofs.Assist.DocumentedChains
import MolangAssist.Proofs.Assist.HoveredWord
import MolangAssist.Proofs.Assist.ImportBounds
import MolangAssist.Proofs.Assist.ImportUnderCursor
import MolangAssist.Proofs.Assist.ImportedScript
import MolangAssist.Proofs.Assist.OfferedRuntimes
import MolangAssist.Proofs.Assist.QuerySite
import MolangAssist.Proofs.Assist.UsedNames
import MolangAssist.Proofs.CommandLine.ResolvedChain
import MolangAssist.Proofs.Files.Lookups
import MolangAssist.Proofs.Files.PathEnds
import MolangAssist.Proofs.Files.PathUris
import MolangAssist.Proofs.Files.Paths
import MolangAssist.Proofs.Files.Refusals
import MolangAssist.Proofs.Files.Search
import MolangAssist.Proofs.Files.Trees
import MolangAssist.Proofs.Json.HalfPairs
import MolangAssist.Proofs.Json.NestedLists
import MolangAssist.Proofs.Json.Nesting
import MolangAssist.Proofs.Json.ValueDepth
import MolangAssist.Proofs.RankedTables
import MolangAssist.Proofs.Schema.BroadRoots
import MolangAssist.Proofs.Schema.ChainCoherence
import MolangAssist.Proofs.Schema.ChainHistory
import MolangAssist.Proofs.Schema.ChainMeaning
import MolangAssist.Proofs.Schema.CleanUp
import MolangAssist.Proofs.Schema.DecodedLevels
import MolangAssist.Proofs.Schema.DecodingDepth
import MolangAssist.Proofs.Schema.FallbackMembers
import MolangAssist.Proofs.Schema.KeptFragments
import MolangAssist.Proofs.Schema.LoadOutcome
import MolangAssist.Proofs.Schema.Precedence
import MolangAssist.Proofs.Schema.Shapes
import MolangAssist.Proofs.Schema.Walk
import MolangAssist.Proofs.Schema.WellFormed
import MolangAssist.Proofs.Schema.Writing
import MolangAssist.Proofs.Script.CallSites
import MolangAssist.Proofs.Script.ChainGrammar
import MolangAssist.Proofs.Script.ChainStarts
import MolangAssist.Proofs.Script.DeclaredNames
import MolangAssist.Proofs.Script.ImportSites
import MolangAssist.Proofs.Script.MarkerFolders
import MolangAssist.Proofs.Script.PathSpelling
import MolangAssist.Proofs.Script.RuntimeSources
import MolangAssist.Proofs.Script.WrittenChain
import MolangAssist.Proofs.Session.Calls
import MolangAssist.Proofs.Session.RuntimeChoice
import MolangAssist.Proofs.Session.SettledSchema
import MolangAssist.Proofs.Settings.Expansion
import MolangAssist.Proofs.Settings.Fallback
import MolangAssist.Proofs.Settings.Keys
import MolangAssist.Proofs.Settings.Variables
import MolangAssist.Proofs.Tables
import MolangAssist.Proofs.Text.Hits
import MolangAssist.Proofs.Text.LenientReading
import MolangAssist.Proofs.Text.LetterCase
import MolangAssist.Proofs.Text.LineOffsets
import MolangAssist.Proofs.Text.Positions
import MolangAssist.Proofs.Text.Readers
import MolangAssist.Proofs.Text.Snippet
import MolangAssist.Schema.Bundled
import MolangAssist.Schema.Composition
import MolangAssist.Schema.Decode
import MolangAssist.Schema.Document
import MolangAssist.Schema.Member
import MolangAssist.Schema.Resolution
import MolangAssist.Schema.Snapshot
import MolangAssist.Script.Annotation
import MolangAssist.Script.Chain
import MolangAssist.Script.Declarations
import MolangAssist.Script.Inference
import MolangAssist.Session
import MolangAssist.Settings
import MolangAssist.Stack
import MolangAssist.Table
import MolangAssist.Text.Case
import MolangAssist.Text.CaseTable
import MolangAssist.Text.Characters
import MolangAssist.Text.Lines
import MolangAssist.Text.Numeral
import MolangAssist.Text.PrintableTable
import MolangAssist.Text.Quoted
import MolangAssist.Text.Scan
import MolangAssist.Text.Utf8
