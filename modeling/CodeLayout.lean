import CodeLayout.Buffer
import CodeLayout.Calendar
import CodeLayout.CalendarText
import CodeLayout.Command.Arguments
import CodeLayout.Command.Outcome
import CodeLayout.Command.Run
import CodeLayout.Decimal.Binary
import CodeLayout.Decimal.Division
import CodeLayout.Decimal.Notation
import CodeLayout.Decimal.Reading
import CodeLayout.Decimal.Rounded
import CodeLayout.Decimal.Shortest
import CodeLayout.Document.Basic
import CodeLayout.Document.Error
import CodeLayout.Document.File
import CodeLayout.Document.Mode
import CodeLayout.Document.Node
import CodeLayout.Document.Rendering
import CodeLayout.Document.Schema
import CodeLayout.Files.Basic
import CodeLayout.Files.Path
import CodeLayout.Format.Basic
import CodeLayout.Format.Options
import CodeLayout.Fragment.Basic
import CodeLayout.Fragment.Build
import CodeLayout.Fragment.Condition
import CodeLayout.Fragment.Decision
import CodeLayout.Fragment.Modify
import CodeLayout.Layout
import CodeLayout.Log
import CodeLayout.Main
import CodeLayout.Project
import CodeLayout.Replacement.Basic
import CodeLayout.Replacement.Error
import CodeLayout.Replacement.Field
import CodeLayout.Replacement.Specifier
import CodeLayout.Replacement.Subject
import CodeLayout.Replacement.Writing
import CodeLayout.Schema.Problem
import CodeLayout.Schema.Read
import CodeLayout.Template.Arithmetic
import CodeLayout.Template.Call
import CodeLayout.Template.CollectionFunction
import CodeLayout.Template.Comparing
import CodeLayout.Template.Directive
import CodeLayout.Template.Escape
import CodeLayout.Template.Evaluation
import CodeLayout.Template.Expression
import CodeLayout.Template.Fault
import CodeLayout.Template.Fields
import CodeLayout.Template.Filter
import CodeLayout.Template.Items
import CodeLayout.Template.Names
import CodeLayout.Template.NumberFunction
import CodeLayout.Template.Object
import CodeLayout.Template.Part
import CodeLayout.Template.Preparation
import CodeLayout.Template.Rendering
import CodeLayout.Template.Running
import CodeLayout.Template.Signature
import CodeLayout.Template.Statement
import CodeLayout.Template.Store
import CodeLayout.Template.Test
import CodeLayout.Template.TextFunction
import CodeLayout.Template.Token
import CodeLayout.Template.Tree
import CodeLayout.Template.Written
import CodeLayout.Text.Base64
import CodeLayout.Text.Blank
import CodeLayout.Text.CharacterClass
import CodeLayout.Text.CharacterName
import CodeLayout.Text.Digits
import CodeLayout.Text.Identifier
import CodeLayout.Text.LetterCase
import CodeLayout.Text.LineBreak
import CodeLayout.Text.Part
import CodeLayout.Text.Printable
import CodeLayout.Text.Quoted
import CodeLayout.Text.Search
import CodeLayout.Text.Surrogate
import CodeLayout.Text.TerminalSequence
import CodeLayout.Text.Utf8
import CodeLayout.Value.Basic
import CodeLayout.Value.Equality
import CodeLayout.Value.Scalar
import CodeLayout.Value.Text
import CodeLayout.Yaml.Cursor
import CodeLayout.Yaml.Failure
import CodeLayout.Yaml.Load
import CodeLayout.Yaml.Node
import CodeLayout.Yaml.ScalarText
import CodeLayout.Yaml.Scanner
import CodeLayout.Yaml.Tag
import CodeLayout.Yaml.Token
import CodeLayout.Proofs.DocumentFailure
import CodeLayout.Proofs.LastLine
import CodeLayout.Proofs.Frame
import CodeLayout.Proofs.Indentation
import CodeLayout.Proofs.InliningOrder
import CodeLayout.Proofs.ListAssembly
import CodeLayout.Proofs.Nesting
import CodeLayout.Proofs.VisibleText
import CodeLayout.Proofs.SizeHint
import CodeLayout.Proofs.ChildEntry
import CodeLayout.Proofs.NodeContext
import CodeLayout.Proofs.FormatLayers
import CodeLayout.Proofs.NodeOfTree
import CodeLayout.Proofs.FormatChoice
import CodeLayout.Proofs.Succession
import CodeLayout.Proofs.Joining
import CodeLayout.Proofs.FileWriting
import CodeLayout.Proofs.CommandRun
import CodeLayout.Proofs.BuiltTree
import CodeLayout.Proofs.CharacterOrigin
import CodeLayout.Proofs.CheckedDocument
import CodeLayout.Proofs.Emptiness
import CodeLayout.Proofs.SingleLine
import CodeLayout.Proofs.FrozenDecision
import CodeLayout.Proofs.FragmentContext
import CodeLayout.Proofs.TrailingMode
import CodeLayout.Proofs.FinalNewline
import CodeLayout.Proofs.InlineChain
import CodeLayout.Proofs.NestedConcat
import CodeLayout.Proofs.Obstacle
import CodeLayout.Proofs.ExplicitNode
import CodeLayout.Proofs.OptionsFile
import CodeLayout.Proofs.OptionsPlace
import CodeLayout.Proofs.Placeholder
import CodeLayout.Proofs.Substitution
