import MovePack.Bytecode.Assembler
import MovePack.Main
import MovePack.Proofs.Bundle.Dependency
import MovePack.Proofs.Bundle.PublishOrder
import MovePack.Proofs.Bundle.Cycle
import MovePack.Proofs.Codec.Layout
import MovePack.Proofs.Bytes
import MovePack.Proofs.Codec.Format
import MovePack.Proofs.Codec.Canonical
import MovePack.Proofs.Bundle.Recursion
import MovePack.Proofs.Bundle.InputOrder
import MovePack.Proofs.Radix
import MovePack.Proofs.Text.Base58
import MovePack.Proofs.Text.Hex
import MovePack.Proofs.Account.Address
import MovePack.Proofs.Hash.Blake2
import MovePack.Proofs.Account.Checksummed
import MovePack.Proofs.Script.Literal
import MovePack.Proofs.Script.Denotation
import MovePack.Proofs.Codec.Locality
import MovePack.Proofs.Codec.SelfDelimiting
import MovePack.Proofs.Bytecode.Header
import MovePack.Proofs.Bytecode.Assembler
import MovePack.Proofs.Bytecode.Linkage
import MovePack.Proofs.Files.FileSystem
import MovePack.Proofs.Command.Workspace
import MovePack.Proofs.Command.Bundle
import MovePack.Proofs.Bytecode.Module
import MovePack.Proofs.Command.Contents
import MovePack.Proofs.Types.Signature
import MovePack.Proofs.Command.Transaction
import MovePack.Proofs.Script.Nesting
import MovePack.Proofs.Files.Directories
import MovePack.Proofs.Command.Frame
import MovePack.Proofs.Command.CommandLine
import MovePack.Proofs.Command.Report
import MovePack.Proofs.Bytecode.Tiling
import MovePack.Proofs.Command.Account
import MovePack.Proofs.Types.Grammar
import MovePack.Proofs.Types.Tolerance
import MovePack.Proofs.Bytecode.Safety
import MovePack.Proofs.Bundle.Alone
import MovePack.Proofs.Types.Rendering
import MovePack.Proofs.Types.Forms
import MovePack.Proofs.Text.CodePoint
import MovePack.Proofs.Json.Strings
import MovePack.Proofs.Json.Integers
import MovePack.Proofs.Script.Quoting
import MovePack.Proofs.Script.Containment
import MovePack.Proofs.Account.Stepwise
import MovePack.Proofs.Account.Hexadecimal
import MovePack.Proofs.Script.Integer
import MovePack.Proofs.Toml.Scalar
import MovePack.Proofs.Toml.Excess
import MovePack.Proofs.Package.Manifest
import MovePack.Proofs.Json.Depth
import MovePack.Proofs.Node.Reply
import MovePack.Proofs.Node.Finding
import MovePack.Proofs.Codec.Buffer
import MovePack.Proofs.Bytecode.Script
import MovePack.Proofs.Package.Exclusion
import MovePack.Proofs.Codec.Groups
import MovePack.Proofs.Node.Interface
import MovePack.Proofs.Files.Tree
import MovePack.Proofs.Files.Joined
import MovePack.Proofs.Package.Discovery
import MovePack.Proofs.Files.Inside
import MovePack.Proofs.Command.Place
import MovePack.Proofs.Bundle.Stacks
