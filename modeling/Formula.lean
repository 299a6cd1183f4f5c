import Formula.Calculator
import Formula.Journal
import Formula.Operator.Shelf
import Formula.Proofs.Yard.Reading
import Formula.Proofs.Yard.Balance
import Formula.Proofs.Yard.Group
import Formula.Proofs.Phrase
import Formula.Proofs.Term
import Formula.Proofs.Forest
import Formula.Proofs.Written
import Formula.Proofs.Chain
import Formula.Proofs.Replay.Script
import Formula.Proofs.Replay.Traversal
import Formula.Proofs.Replay.Session
import Formula.Proofs.Replay.Fold
import Formula.Proofs.Replay.Interleaving
import Formula.Proofs.Lexing.Spaced
import Formula.Proofs.Lexing.Lexeme
import Formula.Proofs.Lexing.Place
import Formula.Proofs.Lexing.Partition
import Formula.Proofs.Lexing.Longest
import Formula.Proofs.Lexing.Cutting
import Formula.Proofs.Lexing.Division
import Formula.Proofs.Library.Alias
import Formula.Proofs.Parenthesized
import Formula.Proofs.Infix.Grammar
import Formula.Proofs.Infix.PostOrder
import Formula.Proofs.Library.Numeric
import Formula.Proofs.Library.Call
import Formula.Proofs.Yard.Brackets
import Formula.Proofs.Yard.Faults
import Formula.Proofs.Yard.Rejection
import Formula.Proofs.Yard.Progress
import Formula.Proofs.Yard.Laziness
import Formula.Proofs.Yard.Accounts
import Formula.Proofs.Yard.Places
import Formula.Proofs.Yard.Separation
import Formula.Proofs.Respacing
import Formula.Proofs.Extension
import Formula.Proofs.Lexing.Regular
import Formula.Proofs.Outcome
import Formula.Proofs.Library.Safety
import Formula.Proofs.Lexing.Operands
import Formula.Proofs.Registry
import Formula.Proofs.Spelling
import Formula.Proofs.Substitution
import Formula.Proofs.Yard.Pointing
import Formula.Proofs.Number.Rounding
import Formula.Proofs.Number.Finite
import Formula.Proofs.Number.Parts
import Formula.Proofs.Number.Printing
import Formula.Proofs.Json.Grammar
import Formula.Proofs.Json.Strings
import Formula.Proofs.Json.Numbers
import Formula.Proofs.Json.Reading
import Formula.Proofs.Json.Laws
import Formula.Proofs.Json.Storage
import Formula.Proofs.Json.BoundNumber
import Formula.Proofs.Lexing.Numerals
import Formula.Proofs.Lexing.Kinds
import Formula.Proofs.History
import Formula.Proofs.Number.Unpacked
import Formula.Proofs.Printed
import Formula.Proofs.Number.Difference
import Formula.Proofs.Number.Fraction
import Formula.Proofs.Number.Order
import Formula.Proofs.Library.Factorial
import Formula.Proofs.Yard.Openings
import Formula.Proofs.Lexing.Scanning
import Formula.Proofs.Lexing.Pattern
import Formula.Proofs.Lexing.Options
import Formula.Proofs.Lexing.Matches
