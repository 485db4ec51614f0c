import TemplateGrep.CommandLine.Arguments
import TemplateGrep.CommandLine.Help
import TemplateGrep.CommandLine.Reader
import TemplateGrep.Config.Basic
import TemplateGrep.Config.Load
import TemplateGrep.Config.Reader
import TemplateGrep.Config.Writer
import TemplateGrep.Failure
import TemplateGrep.Folder
import TemplateGrep.Log
import TemplateGrep.Main
import TemplateGrep.Program.Expand
import TemplateGrep.Program.Report
import TemplateGrep.Program.Search
import TemplateGrep.Regex.Ast
import TemplateGrep.Regex.Basic
import TemplateGrep.Regex.ClassReader
import TemplateGrep.Regex.Compile
import TemplateGrep.Regex.Escape
import TemplateGrep.Regex.Footprint
import TemplateGrep.Regex.Match
import TemplateGrep.Regex.Meaning
import TemplateGrep.Regex.Parser
import TemplateGrep.Search.Filter
import TemplateGrep.Search.Matcher
import TemplateGrep.Stream.Bytes
import TemplateGrep.Stream.Fault
import TemplateGrep.Stream.Sink
import TemplateGrep.Stream.Source
import TemplateGrep.Template.Composition
import TemplateGrep.Template.Expansion
import TemplateGrep.Template.Listing
import TemplateGrep.Template.Table
import TemplateGrep.Text.Blank
import TemplateGrep.Text.Quoted
import TemplateGrep.Unicode.Age
import TemplateGrep.Unicode.BinaryProperty
import TemplateGrep.Unicode.ByteSequence
import TemplateGrep.Unicode.CaseFolding
import TemplateGrep.Unicode.CharClass
import TemplateGrep.Unicode.CodeSet
import TemplateGrep.Unicode.GeneralCategory
import TemplateGrep.Unicode.Property
import TemplateGrep.Unicode.Script
import TemplateGrep.Unicode.ScriptExtension
import TemplateGrep.Unicode.Segmentation
import TemplateGrep.Yaml.Character
import TemplateGrep.Yaml.Document
import TemplateGrep.Yaml.Lexer
import TemplateGrep.Yaml.Node
import TemplateGrep.Yaml.Resolution
import TemplateGrep.Yaml.ScalarReader
import TemplateGrep.Yaml.ScalarWriter
import TemplateGrep.Yaml.Token
import TemplateGrep.Proofs.Template.Cutting
import TemplateGrep.Proofs.Template.Names
import TemplateGrep.Proofs.Template.Options
import TemplateGrep.Proofs.Regex.Ends
import TemplateGrep.Proofs.Regex.LiteralText
import TemplateGrep.Proofs.Regex.Extension
import TemplateGrep.Proofs.Regex.ClassExtension
import TemplateGrep.Proofs.Regex.Anchoring
import TemplateGrep.Proofs.Regex.Alternatives
import TemplateGrep.Proofs.Search.LiteralPattern
import TemplateGrep.Proofs.Search.WordBoundary
import TemplateGrep.Proofs.Stream.Script
import TemplateGrep.Proofs.Search.Filtering
import TemplateGrep.Proofs.Search.ReadFault
import TemplateGrep.Proofs.Search.SecondPass
import TemplateGrep.Proofs.Search.PatternSet
import TemplateGrep.Proofs.Program.Output
import TemplateGrep.Proofs.Program.Files
import TemplateGrep.Proofs.Config.Validity
import TemplateGrep.Proofs.Program.Refusal
import TemplateGrep.Proofs.Template.RawBlock
import TemplateGrep.Proofs.Template.NamedBlock
import TemplateGrep.Proofs.Program.ExitStatus
import TemplateGrep.Proofs.Yaml.Characters
import TemplateGrep.Proofs.Yaml.Quoted
import TemplateGrep.Proofs.Yaml.Lines
import TemplateGrep.Proofs.Yaml.Styles
import TemplateGrep.Proofs.Yaml.Lexing
import TemplateGrep.Proofs.Yaml.Mapping
import TemplateGrep.Proofs.Config.RoundTrip
import TemplateGrep.Proofs.Program.Expansion
import TemplateGrep.Proofs.Template.Wrappers
import TemplateGrep.Proofs.CommandLine.Reading
import TemplateGrep.Proofs.Template.Additions
import TemplateGrep.Proofs.Yaml.Blank
import TemplateGrep.Proofs.Config.Fields
import TemplateGrep.Proofs.Unicode.CaseVariants
import TemplateGrep.Proofs.Regex.FoldedText
import TemplateGrep.Proofs.Search.IgnoreCase
