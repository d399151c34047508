import SenderPolicy.Text.Basic
import SenderPolicy.Text.Ranges
import SenderPolicy.Text.Blank
import SenderPolicy.Text.Case
import SenderPolicy.Text.Integer
import SenderPolicy.Text.Word
import SenderPolicy.Text.Composition
import SenderPolicy.Text.Bytes
import SenderPolicy.Address.Network
import SenderPolicy.Address.ReverseName
import SenderPolicy.Record
import SenderPolicy.Macro.Check
import SenderPolicy.Macro.Expand
import SenderPolicy.Limits
import SenderPolicy.Report
import SenderPolicy.Dns.Zone
import SenderPolicy.Settings
import SenderPolicy.Text.Numeral
import SenderPolicy.CommandLine
import SenderPolicy.Main
import SenderPolicy.Proofs.Failure
import SenderPolicy.Proofs.Dns.Paths
import SenderPolicy.Proofs.Dns.Rearrangement
import SenderPolicy.Proofs.Evaluation.Budget
import SenderPolicy.Proofs.Evaluation.Depth
import SenderPolicy.Proofs.Record.Reading
import SenderPolicy.Proofs.Audit.Cost
import SenderPolicy.Proofs.Audit.Walk
import SenderPolicy.Proofs.Evaluation.Spending
import SenderPolicy.Proofs.Evaluation.Audited
import SenderPolicy.Proofs.Text.CaseTable
import SenderPolicy.Proofs.Text.Lowering
import SenderPolicy.Proofs.Term.Reading
import SenderPolicy.Proofs.Term.RoundTrip
import SenderPolicy.Proofs.Record.RoundTrip
import SenderPolicy.Proofs.Evaluation.Adequacy
import SenderPolicy.Proofs.Evaluation.Decision
import SenderPolicy.Proofs.Reference.Flattening
import SenderPolicy.Proofs.Reference.Republished
import SenderPolicy.Proofs.Evaluation.Comparison
import SenderPolicy.Proofs.Evaluation.Parallel
import SenderPolicy.Proofs.Evaluation.AnswerOrder
import SenderPolicy.Proofs.Evaluation.Loops
import SenderPolicy.Proofs.Evaluation.Composition
import SenderPolicy.Proofs.Text.Digits
import SenderPolicy.Proofs.Macro.Checking
import SenderPolicy.Proofs.Reference.Consistency
import SenderPolicy.Proofs.Reference.Cycles
import SenderPolicy.Proofs.Evaluation.Notes
import SenderPolicy.Proofs.Reference.Reach
import SenderPolicy.Proofs.Evaluation.Settling
import SenderPolicy.Proofs.Limits
import SenderPolicy.Proofs.Macro.Numerals
import SenderPolicy.Proofs.Audit.Numerals
import SenderPolicy.Proofs.Address.Ipv6
import SenderPolicy.Proofs.Address.Reading
import SenderPolicy.Proofs.Macro.Expansion
import SenderPolicy.Proofs.Evaluation.Returning
import SenderPolicy.Proofs.Audit.Counting
import SenderPolicy.Proofs.Text.Composition
import SenderPolicy.Proofs.Term.Recognition
import SenderPolicy.Proofs.Reference.Thrift
import SenderPolicy.Proofs.Audit.Depth
import SenderPolicy.Proofs.Audit.History
import SenderPolicy.Proofs.Audit.Bounds
import SenderPolicy.Proofs.Text.Decimal
import SenderPolicy.Proofs.Audit.Prefixes
import SenderPolicy.Proofs.Evaluation.Explanations
import SenderPolicy.Proofs.Evaluation.Explained
import SenderPolicy.Proofs.Text.Ascii
import SenderPolicy.Proofs.Audit.Departure
import SenderPolicy.Proofs.Standard.Grammar
import SenderPolicy.Proofs.Standard.MacroStrings
import SenderPolicy.Proofs.Standard.DomainNames
import SenderPolicy.Proofs.Standard.Networks
import SenderPolicy.Proofs.Standard.PrefixLengths
import SenderPolicy.Proofs.Standard.Reading
import SenderPolicy.Proofs.Standard.Terms
import SenderPolicy.Proofs.Standard.Acceptance
import SenderPolicy.Proofs.Reference.Fetches
import SenderPolicy.Proofs.Term.Separation
import SenderPolicy.Proofs.Reference.ReadBack
import SenderPolicy.Proofs.Audit.Redirects
import SenderPolicy.Proofs.Reference.Lookups
import SenderPolicy.Proofs.Dns.History
import SenderPolicy.Proofs.Macro.Identity
import SenderPolicy.Proofs.Evaluation.History
import SenderPolicy.Proofs.Evaluation.Identity
import SenderPolicy.Proofs.Dns.Caching
import SenderPolicy.Proofs.Address.Membership
import SenderPolicy.Proofs.Evaluation.DualLengths
import SenderPolicy.Proofs.Evaluation.ForwardConfirmation
import SenderPolicy.Proofs.Audit.Declared
import SenderPolicy.Proofs.Term.Restoring
import SenderPolicy.Proofs.Evaluation.Absence
import SenderPolicy.Proofs.Macro.Composition
import SenderPolicy.Proofs.Text.Capitals
import SenderPolicy.Proofs.Domain.Normal
import SenderPolicy.Proofs.Record.Quoted
import SenderPolicy.Proofs.Reference.Blocks
import SenderPolicy.Proofs.Address.Spelling
import SenderPolicy.Proofs.Address.Digits
import SenderPolicy.Proofs.Address.ReverseName
import SenderPolicy.Proofs.Address.BareName
import SenderPolicy.Proofs.Dns.Questions
import SenderPolicy.Proofs.Macro.Reversal
import SenderPolicy.Proofs.Dns.Retries
import SenderPolicy.Proofs.Evaluation.Client
import SenderPolicy.Proofs.Report.Batch
import SenderPolicy.Proofs.Report.Rows
