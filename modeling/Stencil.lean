import Stencil.Cache.Interleaving
import Stencil.Main
import Stencil.Template.Grammar
import Stencil.Command.Words
import Stencil.Proofs.Parsing
import Stencil.Proofs.Spelling
import Stencil.Proofs.Tiling
import Stencil.Proofs.Acceptance
import Stencil.Proofs.RoundTrip
import Stencil.Proofs.Concatenation
import Stencil.Proofs.Streaming
import Stencil.Cache.Requests
import Stencil.Proofs.Cache.Moves
import Stencil.Proofs.Cache.Transparency
import Stencil.Proofs.Cache.Bound
import Stencil.Proofs.Cache.Agreement
import Stencil.Proofs.Refusal
import Stencil.Proofs.Reprinting
import Stencil.Proofs.Diagnosis
import Stencil.Proofs.Reading
import Stencil.Proofs.Verbatim
import Stencil.Proofs.Quoting
import Stencil.Proofs.Command.Arguments
import Stencil.Proofs.Command.Listing
import Stencil.Proofs.Toml.Values
import Stencil.Proofs.Toml.Lines
import Stencil.Proofs.Configuration
import Stencil.Proofs.Command.Running
import Stencil.Numeral.Exact
import Stencil.Proofs.Numeral.Units
import Stencil.Proofs.Padding
import Stencil.Value.Layout
import Stencil.Proofs.Numeral.Digits
import Stencil.Proofs.FixedPoint
import Stencil.Proofs.Numeral.Nearest
import Stencil.Proofs.Numeral.Whole
import Stencil.Proofs.Numeral.Shortest
import Stencil.Proofs.Numeral.Reading
import Stencil.Proofs.ReadBack
import Stencil.Proofs.WholeNumbers
import Stencil.Proofs.Integers
import Stencil.Proofs.Hexadecimal
import Stencil.Numeral.Grammar
import Stencil.Proofs.Numeral.Grammar
import Stencil.Proofs.Numeral.Scientific
import Stencil.Proofs.Inference
import Stencil.Proofs.Quotation
import Stencil.Proofs.Cache.Sharing
import Stencil.Proofs.Building
import Stencil.Proofs.Lines
import Stencil.Proofs.Pointing
import Stencil.Proofs.Positions
import Stencil.Proofs.Lexing
import Stencil.Proofs.Widths
