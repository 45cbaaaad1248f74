import TelemetryRelay.Main
import TelemetryRelay.Proofs.Message.Wire
import TelemetryRelay.Proofs.Ring.Repetition
import TelemetryRelay.Proofs.Ring.Unfailing
import TelemetryRelay.Proofs.Run.Exhaustion
import TelemetryRelay.Proofs.Run.Metrics
import TelemetryRelay.Proofs.Run.Packets
import TelemetryRelay.Proofs.Run.Remainder
import TelemetryRelay.Proofs.Run.UploadRate
import TelemetryRelay.Proofs.Settings.Override
import TelemetryRelay.Proofs.Settings.Verbatim
import TelemetryRelay.Proofs.Source.Pace
import TelemetryRelay.Proofs.Stage.Blockage
import TelemetryRelay.Proofs.Stage.Origins
import TelemetryRelay.Proofs.Stage.Spacing
import TelemetryRelay.Publisher
