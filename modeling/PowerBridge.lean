import PowerBridge.Link.Mailbox
import PowerBridge.Link.Scripted
import PowerBridge.Session
import PowerBridge.Proofs.Smc.Dispatch
import PowerBridge.Proofs.Smc.Replies
import PowerBridge.Proofs.Smc.Requests
import PowerBridge.Proofs.Smc.Worlds
import PowerBridge.Proofs.Session.Transactions
import PowerBridge.Proofs.Session.PendingCallback
import PowerBridge.Proofs.Session.RequestsInPlace
import PowerBridge.Proofs.Session.OwnState
import PowerBridge.Proofs.Session.Safety
import PowerBridge.Proofs.Session.OpenedChannel
import PowerBridge.Proofs.Session.LongerWaits
import PowerBridge.Proofs.Eemi.Codec
import PowerBridge.Proofs.Exchange.Polls
import PowerBridge.Proofs.Session.Inputs
import PowerBridge.Proofs.Smc.DataQuery
import PowerBridge.Proofs.Link.BothEnds
import PowerBridge.Proofs.Exchange.Mailbox
import PowerBridge.Proofs.Session.ControllerInterrupt
import PowerBridge.Proofs.Service.Spellings
import PowerBridge.Proofs.Smc.DeviceControl
import PowerBridge.Proofs.Service.PassThrough
import PowerBridge.Proofs.Service.BringUp
import PowerBridge.Proofs.Service.OwnProcessor
import PowerBridge.Proofs.Link.Checked
import PowerBridge.Proofs.Eemi.StatusWords
import PowerBridge.Proofs.Smc.Representation
import PowerBridge.Proofs.Smc.PackedWords
import PowerBridge.Proofs.Session.LogLevels
