import Balancer.Main
import Balancer.Document.Call
import Balancer.Proofs.Exchange
import Balancer.Proofs.Recognition
import Balancer.Proofs.Reading
import Balancer.Proofs.Absence
import Balancer.Proofs.Decoding
import Balancer.Proofs.Mutation
import Balancer.Proofs.Course
import Balancer.Proofs.Duplicate
import Balancer.Proofs.Provisioning
import Balancer.Proofs.Provider
import Balancer.Proofs.Refinement
import Balancer.Proofs.Lifecycle
import Balancer.Proofs.Simulation
import Balancer.Proofs.CommandLine
import Balancer.Proofs.Showing
import Balancer.Proofs.Ending
import Balancer.Proofs.Exposure
import Balancer.Proofs.Interleaving
import Balancer.Proofs.Appearance
import Balancer.Proofs.Escaping
import Balancer.Proofs.Naming
import Balancer.Proofs.Causes
import Balancer.Proofs.Grammar
import Balancer.Proofs.Ascending
import Balancer.Proofs.Listing
import Balancer.Proofs.Membership
import Balancer.Proofs.Quantities
import Balancer.Proofs.Arguments
import Balancer.Proofs.Validation
import Balancer.Proofs.PortRange
import Balancer.Proofs.Counting
