import TwinIsa.Assembler
import TwinIsa.Assembly
import TwinIsa.BalancedTernary
import TwinIsa.CheckedExpansion
import TwinIsa.CheckedImmediate
import TwinIsa.Command.Arguments
import TwinIsa.Command.Assemble
import TwinIsa.Command.Disassemble
import TwinIsa.Command.FileTree
import TwinIsa.Command.Files
import TwinIsa.Command.Help
import TwinIsa.Command.Outcome
import TwinIsa.Config
import TwinIsa.Format
import TwinIsa.HexImage
import TwinIsa.ImageSession
import TwinIsa.Immediate
import TwinIsa.Instruction
import TwinIsa.Isa
import TwinIsa.Json.Basic
import TwinIsa.Json.Reader
import TwinIsa.Json.Token
import TwinIsa.Json.Writer
import TwinIsa.Layout
import TwinIsa.LineError
import TwinIsa.Listing
import TwinIsa.Literal
import TwinIsa.MachineInteger
import TwinIsa.Main
import TwinIsa.OpcodeTable.Basic
import TwinIsa.OpcodeTable.Builtin
import TwinIsa.OpcodeTable.Document
import TwinIsa.OpcodeTable.Error
import TwinIsa.OpcodeTable.Maps
import TwinIsa.OpcodeTable.Row
import TwinIsa.Operands
import TwinIsa.ProgramImage
import TwinIsa.Proofs.AcceptedTables
import TwinIsa.Proofs.BalancedTernary
import TwinIsa.Proofs.BitFields
import TwinIsa.Proofs.ByteSources
import TwinIsa.Proofs.CanonicalExpansion
import TwinIsa.Proofs.CaseBlindness
import TwinIsa.Proofs.CheckedImmediate
import TwinIsa.Proofs.Command.Courses
import TwinIsa.Proofs.Command.Diagnostics
import TwinIsa.Proofs.Command.Effects
import TwinIsa.Proofs.Command.FileSystem
import TwinIsa.Proofs.Command.FileTree
import TwinIsa.Proofs.Command.Help
import TwinIsa.Proofs.Disassembly
import TwinIsa.Proofs.EventLog
import TwinIsa.Proofs.HexText
import TwinIsa.Proofs.ImageGrammar
import TwinIsa.Proofs.ImageSession
import TwinIsa.Proofs.ImageSpelling
import TwinIsa.Proofs.Immediate
import TwinIsa.Proofs.Json.ReadBack
import TwinIsa.Proofs.Json.Scalars
import TwinIsa.Proofs.Json.WrittenTokens
import TwinIsa.Proofs.LineContent
import TwinIsa.Proofs.LineGrammar
import TwinIsa.Proofs.ListingReassembly
import TwinIsa.Proofs.LiteralGrammar
import TwinIsa.Proofs.Operands
import TwinIsa.Proofs.ReportedText
import TwinIsa.Proofs.RoundTrip
import TwinIsa.Proofs.RunEndings
import TwinIsa.Proofs.Runs
import TwinIsa.Proofs.SourceText
import TwinIsa.Proofs.Spelling
import TwinIsa.Proofs.Steps
import TwinIsa.Proofs.TableConstruction
import TwinIsa.Proofs.TableDocument
import TwinIsa.Proofs.TableLookup
import TwinIsa.Proofs.TableMaps
import TwinIsa.Proofs.TernaryExpansion
import TwinIsa.Proofs.Text.Cutting
import TwinIsa.Proofs.Text.LetterCase
import TwinIsa.Proofs.Text.LineEndings
import TwinIsa.Proofs.Text.Numeral
import TwinIsa.Proofs.Text.Uppercase
import TwinIsa.Proofs.TwosComplement
import TwinIsa.Proofs.WordCodec
import TwinIsa.Register
import TwinIsa.Report
import TwinIsa.SourceLine
import TwinIsa.Text.Blank
import TwinIsa.Text.Hidden
import TwinIsa.Text.Lines
import TwinIsa.Text.Numeral
import TwinIsa.Text.Quoted
import TwinIsa.Text.Uppercase
import TwinIsa.Word
