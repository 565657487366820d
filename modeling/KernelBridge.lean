import KernelBridge.Assoc.Ascending
import KernelBridge.Registry.Basic
import KernelBridge.Proofs.Outcome
import KernelBridge.Proofs.Wire
import KernelBridge.Proofs.Pipeline
import KernelBridge.Proofs.EntryPoints
import KernelBridge.Proofs.Crossing
import KernelBridge.Proofs.Downgrade
import KernelBridge.Proofs.Upgrade
import KernelBridge.Proofs.Deliverable
import KernelBridge.Proofs.Lossless
import KernelBridge.Proofs.WayBack
import KernelBridge.Proofs.Decoding
import KernelBridge.Proofs.Readapting
import KernelBridge.Proofs.Labelled
import KernelBridge.Proofs.RoundTrip
import KernelBridge.Proofs.Agreement
import KernelBridge.Proofs.VersionText
import KernelBridge.Proofs.MajorVersion
import KernelBridge.Proofs.Envelope
import KernelBridge.Proofs.Lookups
import KernelBridge.Proofs.Refusal
import KernelBridge.Proofs.Shortfall
import KernelBridge.Proofs.Projection
import KernelBridge.Proofs.Reading
import KernelBridge.Proofs.LaterLines
import KernelBridge.Proofs.Parentheses
import KernelBridge.Proofs.LineFeeds
import KernelBridge.Code.Machine
import KernelBridge.Proofs.Exactness
import KernelBridge.Proofs.Answers
import KernelBridge.Proofs.ObjectNames
import KernelBridge.Proofs.Bodies
import KernelBridge.Proofs.Segments
import KernelBridge.Proofs.KernelInfo
import KernelBridge.Proofs.JsonText
import KernelBridge.Proofs.Display
import KernelBridge.Proofs.Completion
import KernelBridge.Proofs.Variables
import KernelBridge.Proofs.Inspection
import KernelBridge.Proofs.Renaming
import KernelBridge.Proofs.Dispatch
import KernelBridge.Proofs.Lexing
