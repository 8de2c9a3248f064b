import Libbinder.Kernel.DeathDelivery
import Libbinder.Kernel.DeathRequests
import Libbinder.Runtime.TrackerCalls
import Libbinder.Runtime.Connection
import Libbinder.Rpc.Isolation
import Libbinder.Parcel.RoundTrip
import Libbinder.Aidl.Panics
import Libbinder.Aidl.Transactions
import Libbinder.Status.Protocol
import Libbinder.Status.Recording
import Libbinder.Dynamic.Keys
import Libbinder.Dynamic.RoundTrip
import Libbinder.Rpc.Obituaries
import Libbinder.Rpc.Shutdown
import Libbinder.Rpc.Replies
import Libbinder.Rpc.Lookup
import Libbinder.Rpc.Sessions
import Libbinder.Rpc.ServerReplies
import Libbinder.Rpc.Reentry
import Libbinder.Rpc.Waiting
import Libbinder.Kernel.ObjectTable
import Libbinder.Kernel.Loopers
import Libbinder.Kernel.Pairing
import Libbinder.Kernel.Workers
import Libbinder.Kernel.ClientWorker
import Libbinder.Kernel.Acquires
import Libbinder.Kernel.WriteRead
import Libbinder.Parcel.Dump
import Libbinder.Cmd.ShellCallback
import Libbinder.Cmd.Listing
