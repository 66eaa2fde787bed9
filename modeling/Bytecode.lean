import Bytecode.Op
import Bytecode.Text.Columns
import Bytecode.Text.Ranges
import Bytecode.Text.Blank
import Bytecode.Text.ClusterClass
import Bytecode.Text.Cluster
import Bytecode.Text.Backspace
import Bytecode.Text.Lines
import Bytecode.Text.Unprintable
import Bytecode.Text.Quoted
import Bytecode.Number.Binary64
import Bytecode.Number.Decimal
import Bytecode.Number.Shortest
import Bytecode.Number.Reader
import Bytecode.Value
import Bytecode.LineTable
import Bytecode.BigEndian
import Bytecode.Chunk
import Bytecode.Emit
import Bytecode.Cursor
import Bytecode.Instruction
import Bytecode.Listing
import Bytecode.Assembly.Literal
import Bytecode.Assembly.Statement
import Bytecode.Assembly.Assembler
import Bytecode.Log
import Bytecode.Folder
import Bytecode.CommandLine
import Bytecode.Output
import Bytecode.Session
import Bytecode.Program
import Bytecode.Main
import Bytecode.Proofs.LineTable
import Bytecode.Proofs.Cursor
import Bytecode.Proofs.Decoding
import Bytecode.Proofs.Walk
import Bytecode.Proofs.DecodingRules
import Bytecode.Proofs.CursorRuns
import Bytecode.Proofs.Fetching
import Bytecode.Proofs.Emission
import Bytecode.Proofs.Layout
import Bytecode.Proofs.History
import Bytecode.Proofs.Assembly
import Bytecode.Proofs.Source
import Bytecode.Proofs.Operations
import Bytecode.Proofs.Growth
import Bytecode.Proofs.Columns
import Bytecode.Proofs.Listing
import Bytecode.Proofs.Streaming
import Bytecode.Proofs.Literals
import Bytecode.Proofs.Scanning
import Bytecode.Proofs.Grammar
import Bytecode.Proofs.Spelling
import Bytecode.Proofs.Renumbering
import Bytecode.Proofs.Widths
import Bytecode.Proofs.Session
import Bytecode.Proofs.Agreement
import Bytecode.Proofs.SourceColumn
import Bytecode.Proofs.FileRuns
import Bytecode.Proofs.Loops
import Bytecode.Proofs.StringLiterals
import Bytecode.Proofs.GlobalNames
