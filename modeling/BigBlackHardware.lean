import BigBlackHardware.Codec.RoundTrip
import BigBlackHardware.Programmer.PatternBounds
import BigBlackHardware.Programmer.PatternCursor
import BigBlackHardware.Programmer.McuInfoLayout
import BigBlackHardware.Programmer.FlashRead
import BigBlackHardware.Programmer.ReadBounds
import BigBlackHardware.Programmer.PgmRetries
import BigBlackHardware.Transport.BufferBound
import BigBlackHardware.Transport.Sending
import BigBlackHardware.Transport.Requests
import BigBlackHardware.Controller.SessionOrder
import BigBlackHardware.Controller.StaleReplies
import BigBlackHardware.Controller.Acknowledgement
import BigBlackHardware.Controller.OneReply
import BigBlackHardware.Controller.WrongSize
import BigBlackHardware.Controller.Atomicity
import BigBlackHardware.Controller.UncheckedPayload
import BigBlackHardware.Controller.HeapBlocks
import BigBlackHardware.Controller.SessionMemory
import BigBlackHardware.Tasks.FailedReceive
import BigBlackHardware.Tasks.Dispatch
import BigBlackHardware.Tasks.Ownership
import BigBlackHardware.Tasks.UseAfterClose
import BigBlackHardware.Tasks.Interleaving
import BigBlackHardware.Tasks.WrittenMemory
import BigBlackHardware.Tasks.Silence
import BigBlackHardware.Tasks.Rounds
import BigBlackHardware.Tasks.Bounds
import BigBlackHardware.Wired.FrameSequence
import BigBlackHardware.Wired.NetworkConfig
import BigBlackHardware.Wired.Updater
import BigBlackHardware.Udp.Service
import BigBlackHardware.Udp.LifecycleRuns
import BigBlackHardware.Udp.LifecycleService
import BigBlackHardware.Store.Misuse
import BigBlackHardware.Store.Deletion
import BigBlackHardware.Wlan.Status
import BigBlackHardware.Wlan.Exclusion
import BigBlackHardware.Wlan.Failures
import BigBlackHardware.Boot.Lockout
