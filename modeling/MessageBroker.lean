import MessageBroker.Config.Apply
import MessageBroker.Main
import MessageBroker.Worker
import MessageBroker.Proofs.Registry.Consistency
import MessageBroker.Proofs.Routing.Plain
import MessageBroker.Proofs.Routing.Trail
import MessageBroker.Proofs.Routing.Memo
import MessageBroker.Proofs.Routing.Runs
import MessageBroker.Proofs.Routing.Order
import MessageBroker.Proofs.Broker.Effects
import MessageBroker.Proofs.Broker.Asides
import MessageBroker.Proofs.Broker.Publishing
import MessageBroker.Proofs.Broker.Resolving
import MessageBroker.Proofs.Broker.Deliveries
import MessageBroker.Proofs.Run
import MessageBroker.Proofs.Run.Effects
import MessageBroker.Proofs.Run.Books
import MessageBroker.Proofs.Run.Placements
import MessageBroker.Proofs.Run.Dispositions
import MessageBroker.Proofs.Run.References
import MessageBroker.Proofs.Run.Routes
import MessageBroker.Proofs.Routing.Ending
import MessageBroker.Proofs.Registry.Tables
import MessageBroker.Proofs.Run.Becomes
import MessageBroker.Proofs.Run.Stepwise
import MessageBroker.Proofs.Run.Refusals
import MessageBroker.Proofs.Registry.Charts
import MessageBroker.Proofs.Run.Charts
import MessageBroker.Proofs.Registry.Removal
import MessageBroker.Proofs.Run.Deletions
import MessageBroker.Proofs.Broker.Offering
import MessageBroker.Proofs.Broker.Failing
import MessageBroker.Proofs.Broker.Works
import MessageBroker.Proofs.Broker.Dooming
import MessageBroker.Proofs.Broker.Lasting
import MessageBroker.Proofs.Run.Failures
import MessageBroker.Proofs.Run.Stock
import MessageBroker.Proofs.Run.Records
import MessageBroker.Proofs.Run.Strays
import MessageBroker.Proofs.Run.Depths
import MessageBroker.Proofs.Broker.Settling
import MessageBroker.Proofs.Broker.Termini
import MessageBroker.Proofs.Broker.Recovering
import MessageBroker.Proofs.Broker.Receptions
import MessageBroker.Proofs.Run.Marks
import MessageBroker.Proofs.Run.Turns
import MessageBroker.Proofs.Run.Tags
import MessageBroker.Proofs.Run.Dooms
import MessageBroker.Proofs.Run.Retired
import MessageBroker.Proofs.Run.Recovery
import MessageBroker.Proofs.Run.Admission
import MessageBroker.Proofs.Run.Standing
import MessageBroker.Proofs.Routing.Serving
import MessageBroker.Proofs.Routing.Filling
import MessageBroker.Proofs.Routing.Relaying
import MessageBroker.Proofs.Routing.Counting
import MessageBroker.Proofs.Broker.Lagging
import MessageBroker.Proofs.Run.Enlisting
import MessageBroker.Proofs.Run.Coherence
import MessageBroker.Proofs.Broker.Registrations
import MessageBroker.Proofs.Run.Mirroring
import MessageBroker.Proofs.Registry.Nodes
import MessageBroker.Proofs.Run.Owning
import MessageBroker.Proofs.Dialogue
import MessageBroker.Proofs.Run.Straight
import MessageBroker.Proofs.Selector.Parsing
import MessageBroker.Proofs.Selector.Rendering
import MessageBroker.Proofs.Selector.Matching
import MessageBroker.Proofs.Selector.Rewriting
import MessageBroker.Proofs.Selector.Extending
import MessageBroker.Proofs.Selector.Shorthands
import MessageBroker.Proofs.Selector.Integers
import MessageBroker.Proofs.Topology.Contents
import MessageBroker.Proofs.Topology.Declaring
import MessageBroker.Proofs.Topology.Applying
import MessageBroker.Proofs.Topology.SettingUp
import MessageBroker.Proofs.Topology.Renaming
import MessageBroker.Proofs.Topology.Order
import MessageBroker.Proofs.Registry.Directory
import MessageBroker.Proofs.Run.Replay
import MessageBroker.Proofs.Run.Evolving
import MessageBroker.Proofs.Run.Reserving
import MessageBroker.Proofs.Run.Addressing
