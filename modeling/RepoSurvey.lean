import RepoSurvey.Category
import RepoSurvey.Command.Arguments
import RepoSurvey.Command.Run
import RepoSurvey.Command.Usage
import RepoSurvey.Configuration
import RepoSurvey.Environment
import RepoSurvey.Files.Disk
import RepoSurvey.Files.Listing
import RepoSurvey.Files.Operations
import RepoSurvey.Files.Path
import RepoSurvey.Files.SystemError
import RepoSurvey.Grammar.Automaton
import RepoSurvey.Grammar.Compile
import RepoSurvey.Grammar.Decision
import RepoSurvey.Grammar.Item
import RepoSurvey.Grammar.LexTable
import RepoSurvey.Grammar.Lexicon
import RepoSurvey.Grammar.Merge
import RepoSurvey.Grammar.Normalize
import RepoSurvey.Grammar.Production
import RepoSurvey.Grammar.Rivalry
import RepoSurvey.Grammar.Rule
import RepoSurvey.Graph.Document
import RepoSurvey.Graph.Heap
import RepoSurvey.Graph.Layout
import RepoSurvey.Graph.Outlet
import RepoSurvey.Graph.Render
import RepoSurvey.Graph.Session
import RepoSurvey.Graph.Store
import RepoSurvey.Graph.Visited
import RepoSurvey.Json.Bytes
import RepoSurvey.Json.Decoding
import RepoSurvey.Json.Double
import RepoSurvey.Json.Located
import RepoSurvey.Json.Number
import RepoSurvey.Json.Reader
import RepoSurvey.Json.Text
import RepoSurvey.Json.Value
import RepoSurvey.Languages
import RepoSurvey.Main
import RepoSurvey.Markup.Document
import RepoSurvey.Markup.Elements
import RepoSurvey.Markup.Grammar
import RepoSurvey.Markup.Scanner
import RepoSurvey.Parsing.Lexer
import RepoSurvey.Parsing.Parser
import RepoSurvey.Parsing.Source
import RepoSurvey.Parsing.Stack
import RepoSurvey.Parsing.Subtree
import RepoSurvey.Parsing.Table
import RepoSurvey.Parsing.Visible
import RepoSurvey.Prose.Block
import RepoSurvey.Prose.Characters
import RepoSurvey.Prose.Inline.Emphasis
import RepoSurvey.Prose.Inline.Markup
import RepoSurvey.Prose.Inline.Node
import RepoSurvey.Prose.Inline.Parse
import RepoSurvey.Prose.Inline.Token
import RepoSurvey.Prose.Line
import RepoSurvey.Prose.Links
import RepoSurvey.Prose.Marks
import RepoSurvey.Prose.Outline
import RepoSurvey.Prose.Render
import RepoSurvey.Representation
import RepoSurvey.Schema.Encoding
import RepoSurvey.Schema.Graph
import RepoSurvey.Schema.Node
import RepoSurvey.Script.Dialect
import RepoSurvey.Script.Document
import RepoSurvey.Script.Grammar
import RepoSurvey.Script.Rules.Expressions
import RepoSurvey.Script.Rules.Lexemes
import RepoSurvey.Script.Rules.Statements
import RepoSurvey.Script.Rules.Types
import RepoSurvey.Script.Scanner
import RepoSurvey.Stylesheet.Document
import RepoSurvey.Stylesheet.Grammar
import RepoSurvey.Stylesheet.Scanner
import RepoSurvey.Survey.Limiter
import RepoSurvey.Survey.Progress
import RepoSurvey.Survey.Prompt
import RepoSurvey.Survey.Record
import RepoSurvey.Survey.Run
import RepoSurvey.Survey.Window
import RepoSurvey.Syntax.Conversion
import RepoSurvey.Syntax.Cursor
import RepoSurvey.Syntax.FirstError
import RepoSurvey.Syntax.Tree
import RepoSurvey.Text.CaseFolding
import RepoSurvey.Text.CharClasses
import RepoSurvey.Text.CharSet
import RepoSurvey.Text.CharacterNames
import RepoSurvey.Text.Decoding
import RepoSurvey.Text.Punctuation
import RepoSurvey.Text.Shown
import RepoSurvey.Text.Slices
import RepoSurvey.Text.Trim
import RepoSurvey.Text.UnseenCharacters
import RepoSurvey.Web.Address
import RepoSurvey.Web.Completion
import RepoSurvey.Web.Exchange
import RepoSurvey.Web.Host
import RepoSurvey.Web.Sandbox
import RepoSurvey.Web.Shape
import RepoSurvey.Yaml.BlockText
import RepoSurvey.Yaml.Cursor
import RepoSurvey.Yaml.Decoding
import RepoSurvey.Yaml.Document
import RepoSurvey.Yaml.Events
import RepoSurvey.Yaml.Failure
import RepoSurvey.Yaml.FlowText
import RepoSurvey.Yaml.Naming
import RepoSurvey.Yaml.Scalars
import RepoSurvey.Yaml.Token
import RepoSurvey.Yaml.Tokens
import RepoSurvey.Proofs.Graph.References
import RepoSurvey.Proofs.Graph.Rendering
import RepoSurvey.Proofs.Json.Ordered
import RepoSurvey.Proofs.Json.Grammar
import RepoSurvey.Proofs.Json.Writing
import RepoSurvey.Proofs.Json.Spacing
import RepoSurvey.Proofs.Json.Lines
import RepoSurvey.Proofs.Graph.Texts
import RepoSurvey.Proofs.Graph.Rebuilding
import RepoSurvey.Proofs.Json.Reading
import RepoSurvey.Proofs.Json.Completeness
import RepoSurvey.Proofs.Graph.RoundTrip
import RepoSurvey.Proofs.Survey.Alone
import RepoSurvey.Proofs.Survey.Interleaving
import RepoSurvey.Proofs.Survey.Order
import RepoSurvey.Proofs.Graph.Members
import RepoSurvey.Proofs.Graph.Growth
import RepoSurvey.Proofs.Graph.Building
import RepoSurvey.Proofs.Graph.Filling
import RepoSurvey.Proofs.Schema.Graph
import RepoSurvey.Proofs.Graph.Appending
import RepoSurvey.Proofs.Syntax.Faults
import RepoSurvey.Proofs.Syntax.Conversion
import RepoSurvey.Proofs.Markup.Document
import RepoSurvey.Proofs.Markup.Content
import RepoSurvey.Proofs.Stylesheet.Document
import RepoSurvey.Proofs.Stylesheet.Nesting
import RepoSurvey.Proofs.Script.Nodes
import RepoSurvey.Proofs.Script.Scopes
import RepoSurvey.Proofs.Script.Walk
import RepoSurvey.Proofs.Script.File
import RepoSurvey.Proofs.Survey.Record
import RepoSurvey.Proofs.Survey.Lasting
import RepoSurvey.Proofs.Survey.Artifact
import RepoSurvey.Proofs.Survey.Turns
import RepoSurvey.Proofs.Files.Joining
import RepoSurvey.Proofs.Files.Walk
import RepoSurvey.Proofs.Json.Sorted
import RepoSurvey.Proofs.Schema.Shape
import RepoSurvey.Proofs.Survey.Sources
import RepoSurvey.Proofs.Survey.Prompts
import RepoSurvey.Proofs.Survey.Agreement
import RepoSurvey.Proofs.Survey.Courses
import RepoSurvey.Proofs.Survey.Contacts
import RepoSurvey.Proofs.Survey.Calls
import RepoSurvey.Proofs.Yaml.Decoding
import RepoSurvey.Proofs.Command.Secrets
import RepoSurvey.Proofs.Web.Addresses
import RepoSurvey.Proofs.Web.Shapes
import RepoSurvey.Proofs.Web.Answers
import RepoSurvey.Proofs.Survey.Requests
import RepoSurvey.Proofs.Actions
import RepoSurvey.Proofs.Files.Trees
import RepoSurvey.Proofs.Files.Ways
import RepoSurvey.Proofs.Files.Working
import RepoSurvey.Proofs.Files.Replacing
import RepoSurvey.Proofs.Survey.Leaving
import RepoSurvey.Proofs.Command.Keeping
import RepoSurvey.Proofs.Schema.Examples
import RepoSurvey.Proofs.Json.Compact
import RepoSurvey.Proofs.Schema.Encoding
import RepoSurvey.Proofs.Graph.Contents
import RepoSurvey.Proofs.Script.Objects
import RepoSurvey.Proofs.Survey.Recording
import RepoSurvey.Proofs.Graph.Delivery
import RepoSurvey.Proofs.Graph.Identities
import RepoSurvey.Proofs.Survey.Rounds
import RepoSurvey.Proofs.Survey.Timetable
import RepoSurvey.Proofs.Schema.Erasure
import RepoSurvey.Proofs.Survey.Summaries
import RepoSurvey.Proofs.Survey.Options
import RepoSurvey.Proofs.Text.LetterCase
import RepoSurvey.Proofs.Files.Extensions
import RepoSurvey.Proofs.Files.Children
import RepoSurvey.Proofs.Survey.Excerpts
import RepoSurvey.Proofs.Graph.Releasing
import RepoSurvey.Proofs.Graph.Handles
import RepoSurvey.Proofs.Graph.Seeing
import RepoSurvey.Proofs.Graph.Dropping
import RepoSurvey.Proofs.Graph.Histories
import RepoSurvey.Proofs.Command.Artifacts
