import Anytty.Client.Correlation
import Anytty.Client.Delivery
import Anytty.Connection.Contracts
import Anytty.Connection.Reload
import Anytty.Files.Copy
import Anytty.Files.Pages
import Anytty.History.DeltaAccounting
import Anytty.LineHist.Assembly
import Anytty.LineHist.Boundary
import Anytty.LineHist.Decoding
import Anytty.LineHist.Retention
import Anytty.LineHist.RowBudget
import Anytty.Output.Accounting
import Anytty.Provider.Detach
import Anytty.RemoteAuth.Admission
import Anytty.Screen.RoundTrip
import Anytty.Server.Attachment
import Anytty.Sessions.Revocation
import Anytty.Storage.Changes
import Anytty.Transport.DataChannel
import Anytty.Tui.AccessStream
import Anytty.Tui.Compositor
import Anytty.Tui.PaneFrames
import Anytty.Tui.RemoteAttach
import Anytty.Tui.Requests
import Anytty.Tui.SnapshotFence
import Anytty.Tui.ViewDelta
