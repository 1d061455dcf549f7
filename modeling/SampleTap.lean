import SampleTap.Main
import SampleTap.Proofs.Session.Binding
import SampleTap.Proofs.Stream.Stall
import SampleTap.Session.Description
import SampleTap.Proofs.Session.Events
import SampleTap.Proofs.Stream.Conservation
import SampleTap.Proofs.Stream.Failure
import SampleTap.Proofs.Connection.Opening
import SampleTap.Proofs.Session.Bookkeeping
import SampleTap.Proofs.Session.Leftovers
import SampleTap.Proofs.Attribute.Forest
import SampleTap.Proofs.Message.Builder
import SampleTap.Proofs.Socket.Packing
import SampleTap.Proofs.Session.Packing
import SampleTap.Proofs.Capture
import SampleTap.Proofs.Session.Recording
import SampleTap.Proofs.Session.Capturing
import SampleTap.Proofs.Session.Starting
import SampleTap.Proofs.Session.Visiting
import SampleTap.Proofs.Session.Routing
import SampleTap.Proofs.Session.Opening
import SampleTap.Proofs.Session.Lifecycle
import SampleTap.Proofs.Session.Closing
import SampleTap.Proofs.Stream.Handle
import SampleTap.Proofs.Capture.Reading
import SampleTap.Proofs.Capture.Writing
import SampleTap.Proofs.Session.Independence
import SampleTap.Proofs.Stream.Handover
import SampleTap.Proofs.CommandLine.Monitoring
import SampleTap.Proofs.AttrTable.Language
import SampleTap.Proofs.Record
import SampleTap.Proofs.Bpf.Search
import SampleTap.Proofs.Family
import SampleTap.Proofs.Report.Reading
import SampleTap.Proofs.Message.Nesting
