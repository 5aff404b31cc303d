import Switchboard.AcceptQueue
import Switchboard.Proofs.AcceptQueue.Turns
import Switchboard.Proofs.Catalogue
import Switchboard.Proofs.Connection.Bodies
import Switchboard.Proofs.Connection.Failures
import Switchboard.Proofs.Connection.Frames
import Switchboard.Proofs.Connection.Headers
import Switchboard.Proofs.Connection.Offers
import Switchboard.Proofs.Connection.Overdue
import Switchboard.Proofs.Connection.Punctual
import Switchboard.Proofs.Header.Carried
import Switchboard.Proofs.Header.Settled
import Switchboard.Proofs.Server.Shutdown
import Switchboard.Proofs.Session.HandOver
import Switchboard.Proofs.Silence
import Switchboard.Server.Address
import Switchboard.Server.Credentials
import Switchboard.Server.Lifecycle
import Switchboard.Server.Loopback
import Switchboard.Server.Settings
import Switchboard.Session.Exchange
import Switchboard.Stream.Delivery
import Switchboard.WaitGroup
import Switchboard.Proofs.Backoff
import Switchboard.Proofs.Header.Textual
import Switchboard.Proofs.WaitGroup.Counting
import Switchboard.Proofs.WaitGroup.Waking
import Switchboard.Proofs.Session.Chronicle
import Switchboard.Proofs.Session.Course
