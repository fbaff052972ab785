import ConsumerPool.Proofs.Acknowledgement
import ConsumerPool.Proofs.Confluence
import ConsumerPool.Proofs.Conservation
import ConsumerPool.Proofs.Delivery
import ConsumerPool.Proofs.Draining
import ConsumerPool.Proofs.Ending
import ConsumerPool.Proofs.Joining
import ConsumerPool.Proofs.Layers
import ConsumerPool.Proofs.Logging
import ConsumerPool.Proofs.Noninterference
import ConsumerPool.Proofs.Numerals
import ConsumerPool.Proofs.Observation
import ConsumerPool.Proofs.Orphans
import ConsumerPool.Proofs.Pacing
import ConsumerPool.Proofs.Passing
import ConsumerPool.Proofs.Precedence
import ConsumerPool.Proofs.Quiescence
import ConsumerPool.Proofs.Refusing
import ConsumerPool.Proofs.Reporting
import ConsumerPool.Proofs.Requests
import ConsumerPool.Proofs.Settings
import ConsumerPool.Proofs.Shutdown
import ConsumerPool.Queue.Client
import ConsumerPool.Scenario.Session
