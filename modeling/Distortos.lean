import Distortos.TickClock
import Distortos.Scheduler.ThreadControlBlock
import Distortos.Scheduler.ThreadControlBlockList
import Distortos.Synchronization.Semaphore
import Distortos.Synchronization.SemaphoreInvariant
import Distortos.Synchronization.SemaphoreTickets
import Distortos.Synchronization.SemaphorePriority
import Distortos.Synchronization.SemaphoreResults
import Distortos.Threads.ThreadBase
import Distortos.Threads.ThreadBaseJoin
import Distortos.Signals.SignalSet
import Distortos.Signals.ThisThreadSignals
import Distortos.Signals.SignalsInvariant
import Distortos.Signals.SignalsWait
import Distortos.Signals.SignalsDelivery
