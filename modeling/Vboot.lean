import Vboot.Basic
import Vboot.Workbuf
import Vboot.MemberInside
import Vboot.VerifyData
import Vboot.GscvdRanges
import Vboot.Gscvd.Validate
import Vboot.Gscvd.Reads
import Vboot.Gscvd.ParseRanges
import Vboot.Gscvd.RangesText
import Vboot.Gscvd.Layout
import Vboot.Gscvd.Create
import Vboot.Gscvd.RoundTrip
import Vboot.Gscvd.Command
import Vboot.SafeMemcmp
import Vboot.EcSync.Model
import Vboot.EcSync.Trace
import Vboot.EcSync.Steps
import Vboot.EcSync.Phases
import Vboot.EcSync.Completion
import Vboot.EcSync.Safety
import Vboot.EcSync.Success
import Vboot.EcSync.Recovery
import Vboot.EcSync.Writes
import Vboot.EcSync.Outcomes
import Vboot.EcSync.WaitScreen
