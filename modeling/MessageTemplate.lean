import MessageTemplate.Main
import MessageTemplate.Proofs.Template.RoundTrip
import MessageTemplate.Proofs.Engine.PassThrough
import MessageTemplate.Proofs.Engine.Confinement
import MessageTemplate.Proofs.Text.Depth
import MessageTemplate.Proofs.Template.Nesting
import MessageTemplate.Proofs.Engine.Nesting
import MessageTemplate.Proofs.Engine.Checking
import MessageTemplate.Proofs.Engine.DepthLimit
import MessageTemplate.Proofs.Engine.Evaluation
import MessageTemplate.Proofs.Engine.Concatenation
import MessageTemplate.Proofs.Operator.Lookup
import MessageTemplate.Proofs.Template.Mentions
import MessageTemplate.Proofs.Bindings.Resolution
import MessageTemplate.Proofs.Engine.Relevance
import MessageTemplate.Proofs.Operator.Choosing
import MessageTemplate.Proofs.Engine.Choice
import MessageTemplate.Proofs.Bindings.History
import MessageTemplate.Proofs.Bindings.Sameness
import MessageTemplate.Proofs.Engine.Staging
import MessageTemplate.Proofs.Template.Accounting
import MessageTemplate.Proofs.Catalog.History
import MessageTemplate.Proofs.Operator.Registration
import MessageTemplate.Proofs.Checked.Expansion
import MessageTemplate.Proofs.Engine.Precision
import MessageTemplate.Proofs.Text.Cuts
import MessageTemplate.Proofs.Engine.Pipelines
import MessageTemplate.Proofs.Engine.Plurals
import MessageTemplate.Proofs.Engine.Conditions
import MessageTemplate.Proofs.Locale.Integers
import MessageTemplate.Proofs.Locale.Quotation
import MessageTemplate.Proofs.Locale.Spelling
import MessageTemplate.Proofs.Locale.Rounding
import MessageTemplate.Proofs.Locale.Agreement
import MessageTemplate.Proofs.Locale.Scientific
import MessageTemplate.Proofs.Locale.Sizes
import MessageTemplate.Proofs.Locale.Bands
import MessageTemplate.Proofs.Casing.Turkic
import MessageTemplate.Proofs.Folding.Case
import MessageTemplate.Proofs.Engine.Truth
import MessageTemplate.Proofs.Tool.Positions
import MessageTemplate.Proofs.Engine.Members
import MessageTemplate.Proofs.Locale.Tags
