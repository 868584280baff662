import FormDialogue.Cascade.Basic
import FormDialogue.Cascade.Inherit
import FormDialogue.Choice.Renderer
import FormDialogue.Choice.Threshold
import FormDialogue.Datum.Basic
import FormDialogue.Datum.Shown
import FormDialogue.Draw.Digest
import FormDialogue.Draw.Generator
import FormDialogue.Draw.Seed
import FormDialogue.Draw.Source
import FormDialogue.Failure
import FormDialogue.Format.Class
import FormDialogue.Format.Fault
import FormDialogue.Format.Operand
import FormDialogue.Format.Piece
import FormDialogue.Format.Render
import FormDialogue.Format.Spec
import FormDialogue.Format.Write
import FormDialogue.Heap
import FormDialogue.Logging.Level
import FormDialogue.Logging.Notice
import FormDialogue.Logging.State
import FormDialogue.Number.Binary64
import FormDialogue.Number.Reading
import FormDialogue.Number.Shortest
import FormDialogue.Prompt.Marker
import FormDialogue.Prompt.Placeholder
import FormDialogue.Proofs.Cascade.Filling
import FormDialogue.Proofs.Cascade.FirstSet
import FormDialogue.Proofs.Cascade.Merging
import FormDialogue.Proofs.Cascade.Registry
import FormDialogue.Proofs.Choice.Joining
import FormDialogue.Proofs.Choice.LabelPlaces
import FormDialogue.Proofs.Choice.Numbering
import FormDialogue.Proofs.Choice.Rendering
import FormDialogue.Proofs.Choice.Styles
import FormDialogue.Proofs.Components.Building
import FormDialogue.Proofs.Components.Order
import FormDialogue.Proofs.Components.Picture
import FormDialogue.Proofs.Components.Rendering
import FormDialogue.Proofs.Components.Requests
import FormDialogue.Proofs.Components.Wiring
import FormDialogue.Proofs.Draw.Redrawing
import FormDialogue.Proofs.Format.LabelField
import FormDialogue.Proofs.Format.PlainFields
import FormDialogue.Proofs.Format.Parts
import FormDialogue.Proofs.Logging.NearestLevel
import FormDialogue.Proofs.Logging.SetupRuns
import FormDialogue.Proofs.Logging.Showing
import FormDialogue.Proofs.Prompt.Asking
import FormDialogue.Proofs.Prompt.Cutting
import FormDialogue.Proofs.Prompt.Dropping
import FormDialogue.Proofs.Prompt.FailFast
import FormDialogue.Proofs.Prompt.FirstResolution
import FormDialogue.Proofs.Prompt.MarkRuns
import FormDialogue.Proofs.Prompt.Picking
import FormDialogue.Proofs.Prompt.Pieces
import FormDialogue.Proofs.Prompt.Rejoining
import FormDialogue.Proofs.Prompt.Substitution
import FormDialogue.Proofs.Record.Attributes
import FormDialogue.Proofs.Record.Bounds
import FormDialogue.Proofs.Record.Loose
import FormDialogue.Proofs.Regex.Exploring
import FormDialogue.Proofs.Regex.Leftmost
import FormDialogue.Proofs.Regex.NodeRuns
import FormDialogue.Proofs.Regex.Passing
import FormDialogue.Proofs.Regex.Reading
import FormDialogue.Proofs.Regex.Refusing
import FormDialogue.Proofs.Regex.Replacing
import FormDialogue.Proofs.Settings.Ending
import FormDialogue.Proofs.Settings.Sharing
import FormDialogue.Proofs.Term.Expanding
import FormDialogue.Proofs.Term.Finding
import FormDialogue.Proofs.Term.Malformed
import FormDialogue.Proofs.Term.Outlines
import FormDialogue.Proofs.Term.OwnPhrase
import FormDialogue.Proofs.Term.PhraseLength
import FormDialogue.Proofs.Term.PhraseReading
import FormDialogue.Proofs.Term.Routes
import FormDialogue.Proofs.Term.RunPlaces
import FormDialogue.Proofs.Term.Spelling
import FormDialogue.Proofs.Term.WholePhrases
import FormDialogue.Proofs.Term.WholeWords
import FormDialogue.Proofs.Text.Capitals
import FormDialogue.Proofs.Text.Respacing
import FormDialogue.Proofs.Text.WordHeads
import FormDialogue.Proofs.Text.WordStarts
import FormDialogue.Proofs.Unicode.BlankCase
import FormDialogue.Proofs.Unicode.LowerCase
import FormDialogue.Proofs.Unicode.TableSearch
import FormDialogue.Proofs.Unicode.UpperCase
import FormDialogue.Proofs.Validation.Acceptance
import FormDialogue.Proofs.Workspace.Alike
import FormDialogue.Proofs.Workspace.Assigning
import FormDialogue.Proofs.Workspace.Calls
import FormDialogue.Proofs.Workspace.Copies
import FormDialogue.Proofs.Workspace.LooseEdits
import FormDialogue.Proofs.Workspace.PatternLists
import FormDialogue.Proofs.Workspace.Quiet
import FormDialogue.Proofs.Workspace.Registering
import FormDialogue.Proofs.Workspace.Resolving
import FormDialogue.Proofs.Workspace.Running
import FormDialogue.Proofs.Workspace.Sessions
import FormDialogue.Proofs.Workspace.Steps
import FormDialogue.Proofs.Workspace.Templates
import FormDialogue.Record.Basic
import FormDialogue.Record.Constraint
import FormDialogue.Record.Declaration
import FormDialogue.Record.Describe
import FormDialogue.Record.Member
import FormDialogue.Record.Options
import FormDialogue.Regex.Basic
import FormDialogue.Regex.CharSet
import FormDialogue.Regex.CharTest
import FormDialogue.Regex.Escape
import FormDialogue.Regex.Fault
import FormDialogue.Regex.GroupFlags
import FormDialogue.Regex.Loop
import FormDialogue.Regex.Matcher
import FormDialogue.Regex.Parser
import FormDialogue.Regex.Place
import FormDialogue.Regex.Token
import FormDialogue.Settings.Basic
import FormDialogue.Settings.Dotenv
import FormDialogue.Settings.Load
import FormDialogue.Settings.Path
import FormDialogue.Term.Alternative
import FormDialogue.Term.Matcher
import FormDialogue.Term.Spec
import FormDialogue.Term.WordRuns
import FormDialogue.Text.Casing
import FormDialogue.Text.Join
import FormDialogue.Text.Occurs
import FormDialogue.Text.Quoted
import FormDialogue.Text.Words
import FormDialogue.Unicode.Blank
import FormDialogue.Unicode.CaseMap
import FormDialogue.Unicode.Cased
import FormDialogue.Unicode.Fold
import FormDialogue.Unicode.Identifier
import FormDialogue.Unicode.Letter
import FormDialogue.Unicode.Name
import FormDialogue.Unicode.Name.Abugidas
import FormDialogue.Unicode.Name.Alphabets
import FormDialogue.Unicode.Name.Ancient
import FormDialogue.Unicode.Name.Forms
import FormDialogue.Unicode.Name.Further
import FormDialogue.Unicode.Name.Ideographic
import FormDialogue.Unicode.Name.Notation
import FormDialogue.Unicode.Name.Pictures
import FormDialogue.Unicode.Name.Run
import FormDialogue.Unicode.Name.Signs
import FormDialogue.Unicode.Name.Syllabaries
import FormDialogue.Unicode.Name.Symbols
import FormDialogue.Unicode.Numeric
import FormDialogue.Unicode.Printable
import FormDialogue.Unicode.Table
import FormDialogue.Validation.Declaration
import FormDialogue.Validation.Issue
import FormDialogue.Validation.Model
import FormDialogue.Validation.Scalar
import FormDialogue.Validation.Verdict
import FormDialogue.Workspace.Basic
import FormDialogue.Workspace.Components
import FormDialogue.Workspace.Prompting
import FormDialogue.Workspace.Records
import FormDialogue.Proofs.Workspace.Presetting
