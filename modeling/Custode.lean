import Custode.Found.Interleaving
import Custode.Audit.DurableCreation
import Custode.Forwarding
import Custode.Headers.Filtering
import Custode.Operations
import Custode.Target.Grammar
import Custode.Audit.AbsoluteForm
import Custode.Audit.LongTargets
import Custode.Audit.Log
import Custode.Audit.Agreement
import Custode.Audit.EventSize
import Custode.Audit.LineNumbers
import Custode.Audit.Origins
import Custode.Audit.Restart
import Custode.Ports.Messages
import Custode.Http.RequestLaw
import Custode.Http.Delivery
import Custode.System.Contact
import Custode.System.Admission
import Custode.System.Wakeup
import Custode.System.RequestIds
import Custode.System.Appends
import Custode.System.Answered
import Custode.System.Faults
import Custode.System.Configured
import Custode.System.Progress
import Custode.System.Truth
import Custode.System.Verified
