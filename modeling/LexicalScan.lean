import LexicalScan.Grammar
import LexicalScan.Journal
import LexicalScan.Main
import LexicalScan.Session
import LexicalScan.Proofs.Runs
import LexicalScan.Proofs.Strings
import LexicalScan.Proofs.Numbers
import LexicalScan.Proofs.Pieces
import LexicalScan.Pattern
import LexicalScan.Proofs.Patterns
import LexicalScan.Proofs.Policy
import LexicalScan.Proofs.Answers
import LexicalScan.Proofs.Cursor
import LexicalScan.Proofs.Openings
import LexicalScan.Proofs.Borders
import LexicalScan.Proofs.Joining
import LexicalScan.Proofs.Coverage
import LexicalScan.Proofs.Refusal
import LexicalScan.Proofs.LineLookup
import LexicalScan.Proofs.Pointing
import LexicalScan.Proofs.TokenLines
import LexicalScan.Proofs.Division
import LexicalScan.Proofs.Blanks
import LexicalScan.Proofs.Relocation
import LexicalScan.Proofs.Outcomes
import LexicalScan.Proofs.Closing
import LexicalScan.Proofs.Single
import LexicalScan.Proofs.TokenReading
import LexicalScan.Proofs.Listing
import LexicalScan.Proofs.Precedence
import LexicalScan.Proofs.Slashes
import LexicalScan.Proofs.Layout
import LexicalScan.Proofs.Lookahead
import LexicalScan.Proofs.Messages
import LexicalScan.Proofs.Offsets
import LexicalScan.Proofs.Sessions
import LexicalScan.Proofs.Recording
