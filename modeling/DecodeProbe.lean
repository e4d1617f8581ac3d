import DecodeProbe.CodecRuntime.Script
import DecodeProbe.Layout
import DecodeProbe.Library.Session
import DecodeProbe.Main
import DecodeProbe.Proofs.Node.Enumeration
import DecodeProbe.Report.Reader
import DecodeProbe.Run
import DecodeProbe.Proofs.CodecRuntime.Attempt
import DecodeProbe.Proofs.Node.Verdict
import DecodeProbe.Proofs.Library.Refinement
import DecodeProbe.Proofs.Run.Device
import DecodeProbe.Proofs.Run.Library
import DecodeProbe.Proofs.CommandLine
import DecodeProbe.Proofs.Report.Framing
import DecodeProbe.Proofs.Text.Utf8
import DecodeProbe.Proofs.Run.Framing
import DecodeProbe.Proofs.Log.Quiet
import DecodeProbe.Proofs.Run.Diagnostics
import DecodeProbe.Proofs.Node.Queries
import DecodeProbe.Proofs.Device.Records
import DecodeProbe.Proofs.Report.Decoding
import DecodeProbe.Proofs.Report.Delivery
import DecodeProbe.Proofs.Node.Account
import DecodeProbe.Proofs.Text.Pieces
import DecodeProbe.Proofs.FourCC.Text
import DecodeProbe.Proofs.Field
import DecodeProbe.Proofs.Library.Reports
import DecodeProbe.Proofs.FormatScan.History
import DecodeProbe.Proofs.Capabilities.Version
import DecodeProbe.Proofs.CodecSet.Steps
import DecodeProbe.Proofs.Library.Contexts
import DecodeProbe.Proofs.Stdout
