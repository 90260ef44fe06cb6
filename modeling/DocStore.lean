import DocStore.Main
import DocStore.Client.Background
import DocStore.Config.Document
import DocStore.Http.Document
import DocStore.Http.Scripted
import DocStore.Query.Filter
import DocStore.Record.Grant
import DocStore.Proofs.Members.Overlay
import DocStore.Proofs.Record.Merge
import DocStore.Proofs.Client.Trace
import DocStore.Proofs.Client.Operation
import DocStore.Proofs.Client.Atomicity
import DocStore.Proofs.Client.Interleaving
import DocStore.Proofs.Client.Password
import DocStore.Proofs.Client.TokenOrigin
import DocStore.Proofs.Command.Settings
import DocStore.Proofs.Task.Log
import DocStore.Proofs.Task.Lifecycle
import DocStore.Proofs.Task.Progress
import DocStore.Proofs.Task.Serial
import DocStore.Proofs.Client.Bearer
import DocStore.Proofs.Acl.Setting
import DocStore.Proofs.Record.Edit
import DocStore.Proofs.Record.Body
import DocStore.Proofs.Client.Reachable
import DocStore.Proofs.Url.Extension
import DocStore.Proofs.Url.Server
import DocStore.Proofs.Config.Resources
import DocStore.Proofs.Api.Reply
import DocStore.Proofs.Json.Equality
import DocStore.Proofs.Client.ReadBack
import DocStore.Proofs.Client.Increment
import DocStore.Proofs.Client.Reply
import DocStore.Proofs.Client.Identity
import DocStore.Proofs.Query.Results
import DocStore.Proofs.Client.Cost
import DocStore.Proofs.Command.Cost
import DocStore.Proofs.Client.Secrecy
import DocStore.Proofs.Task.OneWorker
import DocStore.Proofs.Client.Background
import DocStore.Proofs.Record.Document
import DocStore.Proofs.Client.Reader
import DocStore.Proofs.Client.AclSent
import DocStore.Proofs.Client.Login
import DocStore.Proofs.Api.Classification
import DocStore.Proofs.Command.Expansion
import DocStore.Proofs.Acl.WireForm
import DocStore.Proofs.Client.OwnDocument
import DocStore.Proofs.Client.Address
import DocStore.Proofs.Query.Filter
import DocStore.Proofs.Query.Parameters
import DocStore.Proofs.Client.Include
import DocStore.Proofs.Command.Save
import DocStore.Proofs.Timestamp.Offset
import DocStore.Proofs.Http.Scripted
import DocStore.Proofs.Api.Transport
import DocStore.Proofs.Http.Document
import DocStore.Proofs.Config.Collision
