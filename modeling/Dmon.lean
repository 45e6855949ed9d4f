import Dmon.Lib.Purge
import Dmon.Lib.Threads
import Dmon.Model.Hexdump
import Dmon.Proofs.Delivery
import Dmon.Proofs.Spinners
import Dmon.Proofs.FetchOutcome
import Dmon.Proofs.Flags
import Dmon.Proofs.Selectors
import Dmon.Proofs.FetchTab
import Dmon.Proofs.Deadlock
import Dmon.Proofs.Shutdown
import Dmon.Proofs.Names
import Dmon.Proofs.Hexdump
import Dmon.Model.LogDisplayer
import Dmon.Proofs.Navigation
import Dmon.Proofs.Highlight
import Dmon.Model.Window
import Dmon.Proofs.Dump
import Dmon.Proofs.Content
import Dmon.Proofs.SubscribeError
import Dmon.Proofs.Totality
import Dmon.Proofs.FetchConversation
import Dmon.Lib.Linearization
import Dmon.Proofs.Linearization
import Dmon.Proofs.ThreadOutcomes
import Dmon.Proofs.Realization
import Dmon.Lib.Guards
import Dmon.Proofs.Races
import Dmon.Lib.Refinement
import Dmon.Model.Application
import Dmon.Proofs.Application
import Dmon.Proofs.DumpRecords
import Dmon.Proofs.Settling
import Dmon.Proofs.Notifications
import Dmon.Lib.Progress
import Dmon.Proofs.Closing
import Dmon.Model.Startup
import Dmon.Proofs.Startup
import Dmon.Proofs.Subscriptions
import Dmon.Proofs.SubscribeReport
import Dmon.Proofs.Responsive
