import TimingFeed.Cache.File
import TimingFeed.Config.Environment
import TimingFeed.Config.Writing
import TimingFeed.Connection.Poller
import TimingFeed.FrameBuffer
import TimingFeed.Log.Filter
import TimingFeed.Session
import TimingFeed.Proofs.Framer.Chunking
import TimingFeed.Proofs.Framer.Framing
import TimingFeed.Proofs.Cipher.Register
import TimingFeed.Proofs.Cipher.Solving
import TimingFeed.Proofs.Framer.Reading
import TimingFeed.Proofs.Cipher.Stream
import TimingFeed.Proofs.Cipher.Tracking
import TimingFeed.Proofs.Session.Pipeline
import TimingFeed.Proofs.Cipher.Lifecycle
import TimingFeed.Proofs.Cache.RoundTrip
import TimingFeed.Proofs.Connection.Delivery
import TimingFeed.Proofs.Connection.Turns
import TimingFeed.Proofs.Framer.Pulls
import TimingFeed.Proofs.Decoder.Conservation
import TimingFeed.Proofs.Decoder.Recording
import TimingFeed.Proofs.Session.Alignment
import TimingFeed.Proofs.Cache.Damage
import TimingFeed.Proofs.Cache.Normalisation
import TimingFeed.Proofs.Cache.Replay
import TimingFeed.Proofs.Decoder.Agreement
import TimingFeed.Proofs.Cipher.Exactness
import TimingFeed.Proofs.Cipher.Taps
import TimingFeed.Proofs.Connection.Shutdown
import TimingFeed.Proofs.Connection.Ledger
import TimingFeed.Proofs.Framer.Resumption
import TimingFeed.Proofs.Framer.Limit
import TimingFeed.Proofs.FrameBuffer.Calls
import TimingFeed.Proofs.Session.Outcomes
import TimingFeed.Proofs.Connection.KeepAlive
import TimingFeed.Proofs.Config.Overrides
import TimingFeed.Proofs.Config.Saving
