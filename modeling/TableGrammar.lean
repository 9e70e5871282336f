import TableGrammar.Command.Arguments
import TableGrammar.Command.Perform
import TableGrammar.Cursor
import TableGrammar.Event
import TableGrammar.Expression.Climb
import TableGrammar.Expression.Fault
import TableGrammar.Expression.Formula
import TableGrammar.Expression.OfTokens
import TableGrammar.Expression.Tree
import TableGrammar.Grammar.Assignment
import TableGrammar.Grammar.Basic
import TableGrammar.Grammar.Catalog
import TableGrammar.Grammar.Gathering
import TableGrammar.Grammar.Selection
import TableGrammar.Lexer
import TableGrammar.Machine.Action
import TableGrammar.Machine.Run
import TableGrammar.Machine.Summary
import TableGrammar.Machine.Table
import TableGrammar.Main
import TableGrammar.Matcher
import TableGrammar.Proofs.Cursor.Zipper
import TableGrammar.Proofs.Expression.Advance
import TableGrammar.Proofs.Expression.Climbing
import TableGrammar.Proofs.Expression.Correspondence
import TableGrammar.Proofs.Expression.Derivation
import TableGrammar.Proofs.Expression.Layout
import TableGrammar.Proofs.Expression.Postorder
import TableGrammar.Proofs.Expression.Precedence
import TableGrammar.Proofs.Expression.Reading
import TableGrammar.Proofs.Expression.Recasing
import TableGrammar.Proofs.Expression.Sweep
import TableGrammar.Proofs.Expression.Truncation
import TableGrammar.Proofs.Grammar.Agreement
import TableGrammar.Proofs.Grammar.Balance
import TableGrammar.Proofs.Grammar.Endings
import TableGrammar.Proofs.Grammar.GatheredWriting
import TableGrammar.Proofs.Grammar.Language
import TableGrammar.Proofs.Grammar.Queries
import TableGrammar.Proofs.Grammar.QueryWriting
import TableGrammar.Proofs.Grammar.Streams
import TableGrammar.Proofs.Grammar.Writing
import TableGrammar.Proofs.Machine.Composition
import TableGrammar.Proofs.Machine.Declarations
import TableGrammar.Proofs.Machine.Extension
import TableGrammar.Proofs.Machine.Halting
import TableGrammar.Proofs.Machine.Locality
import TableGrammar.Proofs.Machine.Runs
import TableGrammar.Proofs.Matcher.Caseless
import TableGrammar.Proofs.Matcher.Equality
import TableGrammar.Proofs.Regex.Anchoring
import TableGrammar.Proofs.Regex.Brackets
import TableGrammar.Proofs.Regex.Locality
import TableGrammar.Proofs.Regex.Matching
import TableGrammar.Proofs.Regex.Pieces
import TableGrammar.Proofs.Scan.Concatenation
import TableGrammar.Proofs.Scan.MaximalMunch
import TableGrammar.Proofs.Scan.Respacing
import TableGrammar.Proofs.Scan.Retokenizing
import TableGrammar.Proofs.Scan.Segments
import TableGrammar.Proofs.Scan.Strings
import TableGrammar.Proofs.Text.Case
import TableGrammar.Proofs.Token.Equality
import TableGrammar.Regex.Bracket
import TableGrammar.Regex.CharSet
import TableGrammar.Regex.Compile
import TableGrammar.Regex.Escape
import TableGrammar.Regex.Meaning
import TableGrammar.Regex.Node
import TableGrammar.Regex.Parser
import TableGrammar.Regex.Syntax
import TableGrammar.Scan
import TableGrammar.Text.Ascii
import TableGrammar.Text.Blank
import TableGrammar.Text.Escape
import TableGrammar.Text.Quoted
import TableGrammar.Text.Shape
import TableGrammar.Tier
import TableGrammar.Token
import TableGrammar.Unicode.CaseFold
import TableGrammar.Unicode.Category
import TableGrammar.Unicode.Lookup
import TableGrammar.Unicode.Property
import TableGrammar.Unicode.Runs
import TableGrammar.Unicode.Script
import TableGrammar.Vocabulary
