import BrokerSessions.Proofs.Bookings
import BrokerSessions.Proofs.Counters
import BrokerSessions.Proofs.Deadlines
import BrokerSessions.Proofs.Delivery
import BrokerSessions.Proofs.EarlyPurge
import BrokerSessions.Proofs.Instants
import BrokerSessions.Proofs.Isolation
import BrokerSessions.Proofs.Lifetimes
import BrokerSessions.Proofs.Nesting
import BrokerSessions.Proofs.PendingWills
import BrokerSessions.Proofs.Readers
import BrokerSessions.Proofs.Reckoning
import BrokerSessions.Proofs.References
import BrokerSessions.Proofs.Repeats
import BrokerSessions.Proofs.Resolutions
import BrokerSessions.Proofs.Revivals
import BrokerSessions.Proofs.Sharding
import BrokerSessions.Proofs.Sizes
import BrokerSessions.Proofs.Spellings
import BrokerSessions.Proofs.Spread
import BrokerSessions.Proofs.Waivers
import BrokerSessions.Proofs.Writers
import BrokerSessions.Rehearsal.CustodySteps
import BrokerSessions.Rehearsal.Scenario
import BrokerSessions.Rehearsal.SessionSteps
import BrokerSessions.Rehearsal.Weighings
import BrokerSessions.Written
